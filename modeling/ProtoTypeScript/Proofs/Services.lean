import ProtoTypeScript.Proofs.DeclaredTypes
import ProtoTypeScript.Proofs.Lowering

/-!
# The services of a tree

Servers and clients carry their service. `SourceFile.services` lists the services that a tree
carries, at any depth; `ofDescriptor_services` says that these are the services of the file, each
twice: for the server and for the client.
-/

namespace ProtoTypeScript

open Outcome

mutual

/-- The services of the servers and clients in a declaration. -/
def Declaration.services : Declaration → List Service
  | .enumeration _ => []
  | .message _ nested => Declaration.listServices nested
  | .namespaceBlock _ body => Declaration.listServices body
  | .rpcInterfaces _ _ => []
  | .server stub => [stub.service]
  | .client stub => [stub.service]

/-- The services of the servers and clients in declarations. -/
def Declaration.listServices : List Declaration → List Service
  | [] => []
  | d :: ds => d.services ++ Declaration.listServices ds

end

/-- The services of the servers and clients of a tree. -/
def SourceFile.services (f : SourceFile) : List Service :=
  Declaration.listServices f.body

/-- The services that servers and clients are generated for. -/
def FileDescriptor.rpcServices (f : FileDescriptor) (c : Config) : List ServiceDescriptor :=
  if c.noGrpc then [] else f.services

theorem Declaration.listServices_eq (ds : List Declaration) :
    Declaration.listServices ds = ds.flatMap Declaration.services := by
  induction ds with
  | nil => rfl
  | cons d ds ih => rw [Declaration.listServices, ih, List.flatMap_cons]

namespace FileScope

variable {s : FileScope}

theorem hasRpc_iff : s.hasRpc = true ↔ s.config.noGrpc = false ∧ s.file.services ≠ [] := by
  simp [hasRpc]

/-- Enums, messages and what is inside them hold no servers or clients. -/
theorem IsTypeDeclaration.services_eq_nil {d : Declaration} (h : s.IsTypeDeclaration d) :
    d.services = [] := by
  induction h with
  | enumeration path e => rfl
  | message path m fields _ _ ih =>
    rw [Declaration.services, Declaration.listServices_eq]
    exact List.flatMap_eq_nil_iff.2 ih

theorem listServices_typeDeclarations {ds : List Declaration} (h : s.typeDeclarations = .ok ds) :
    Declaration.listServices ds = [] := by
  rw [Declaration.listServices_eq, List.flatMap_eq_nil_iff]
  exact fun d hd => (isTypeDeclaration_of_typeDeclarations h d hd).services_eq_nil

theorem rpcDeclarations_services {runtimes : RpcRuntimes} {ds : List Declaration}
    (h : s.rpcDeclarations runtimes = .ok ds) : ∃ services,
      List.Forall₂ (fun d service => s.service d = .ok service)
        (s.file.rpcServices s.config) services ∧
      Declaration.listServices ds = services.flatMap fun service => [service, service] := by
  unfold rpcDeclarations hasRpc at h
  unfold FileDescriptor.rpcServices
  by_cases hrpc : s.config.noGrpc = true
  · rw [if_pos hrpc]
    rw [if_neg (by simp [hrpc])] at h
    cases h
    exact ⟨[], .nil, rfl⟩
  · rw [if_neg hrpc]
    split_ifs at h with hservices
    · obtain ⟨services, hok, rfl⟩ := serviceDeclarations_eq_ok_iff.1 h
      refine ⟨services, hok, ?_⟩
      rw [Declaration.listServices, Declaration.services, List.nil_append,
        Declaration.listServices_eq, List.flatMap_assoc]
      rfl
    · have hnone : s.file.services = [] := by simpa [hrpc] using hservices
      cases h
      rw [hnone]
      exact ⟨[], .nil, rfl⟩

end FileScope

/-- The servers and clients of a tree carry the services of the file. -/
theorem SourceFile.ofDescriptor_services {config : Config} {table : TypeTable}
    {version : CompilerVersion} {file : FileDescriptor} {tree : SourceFile}
    (h : SourceFile.ofDescriptor config table version file = .ok tree) : ∃ services,
      List.Forall₂ (fun d service =>
        (FileScope.ofFile config table file).service d = .ok service)
        (file.rpcServices config) services ∧
      tree.services = services.flatMap fun service => [service, service] := by
  obtain ⟨types, rpc, htypes, hrpc, rfl⟩ := ofDescriptor_eq_ok_iff.1 h
  obtain ⟨services, hok, hservices⟩ := FileScope.rpcDeclarations_services hrpc
  refine ⟨services, hok, ?_⟩
  have hbody : Declaration.listServices (types ++ rpc) =
      services.flatMap fun service => [service, service] := by
    rw [Declaration.listServices_eq, List.flatMap_append, ← Declaration.listServices_eq,
      ← Declaration.listServices_eq, FileScope.listServices_typeDeclarations htypes, hservices,
      List.nil_append]
  unfold SourceFile.services FileScope.inNamespace
  dsimp only
  split_ifs
  · exact hbody
  · rw [Declaration.listServices, Declaration.services, hbody]
    exact List.append_nil _

end ProtoTypeScript
