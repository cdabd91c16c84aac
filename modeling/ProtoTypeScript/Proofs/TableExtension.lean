import ProtoTypeScript.Proofs.DeclaredTypes
import ProtoTypeScript.Proofs.Lowering

/-!
# Larger tables

A file is generated by lookups in the table of types. `TypeTable.Extends` says that a table gives
the answers that another gives, and maybe more.

* `HasType.extends` and the lemmas after it: what is declared with a table is declared with a larger
  one, and is the same;
* `SourceFile.ofDescriptor_extends`: so is the tree of a file, if both tables lead to the same
  imports.

An error says nothing about a larger table, which may know the type that was missing.
-/

namespace ProtoTypeScript

open Outcome

/-- The table `t'` gives every answer that `t` gives. -/
def TypeTable.Extends (t t' : TypeTable) : Prop :=
  ∀ (name : TypeName) (r : TypeRecord), t.find? name = some r → t'.find? name = some r

namespace FileScope

/-- The scope of the same file with another table. -/
def withTable (s : FileScope) (t : TypeTable) : FileScope :=
  { s with table := t }

section Extension

variable {s : FileScope} {t : TypeTable} (ht : s.table.Extends t)

include ht

theorem resolve_extends {typeName : String} {r : TypeRecord} (h : s.resolve typeName = .ok r) :
    (s.withTable t).resolve typeName = .ok r := by
  rw [resolve_eq_ok_iff] at h ⊢
  exact ht _ _ h

theorem HasType.extends {f : FieldDescriptor} {type : FieldType} (h : s.HasType f type) :
    (s.withTable t).HasType f type := by
  induction h with
  | scalar h => exact .scalar h
  | enumeration h hr hkind hname => exact .enumeration h (resolve_extends ht hr) hkind hname
  | message h hr hkind hname => exact .message h (resolve_extends ht hr) hkind hname
  | map h hr hkind hkey _ hmap ih => exact .map h (resolve_extends ht hr) hkind hkey ih hmap

theorem fieldType_extends {f : FieldDescriptor} {type : FieldType}
    (h : s.fieldType f = .ok type) : (s.withTable t).fieldType f = .ok type :=
  fieldType_eq_ok_iff.2 ((fieldType_eq_ok_iff.1 h).extends ht)

theorem enumDefault_extends {f : FieldDescriptor} {name value : String}
    (h : s.enumDefault f name = .ok value) : (s.withTable t).enumDefault f name = .ok value := by
  unfold enumDefault at h ⊢
  cases hdefault : f.defaultValue? with
  | some given => rwa [hdefault] at h
  | none =>
    rw [hdefault] at h
    obtain ⟨r, hr, h⟩ := bind_eq_ok_iff.1 h
    exact bind_eq_ok_iff.2 ⟨r, resolve_extends ht hr, h⟩

theorem defaultValue_extends {f : FieldDescriptor} {type : FieldType} {c : Cardinality}
    {value : String} (h : s.defaultValue f type c = .ok value) :
    (s.withTable t).defaultValue f type c = .ok value := by
  unfold defaultValue at h ⊢
  by_cases hc : c = .repeated
  · rwa [if_pos hc] at h ⊢
  · rw [if_neg hc] at h ⊢
    cases type with
    | enumeration name => exact enumDefault_extends ht h
    | scalar _ => exact h
    | message _ => exact h
    | map _ _ => exact h

theorem fieldDeclaration_extends {f : FieldDescriptor} {d : FieldDeclaration}
    (h : s.fieldDeclaration f = .ok d) : (s.withTable t).fieldDeclaration f = .ok d := by
  obtain ⟨type, value, htype, hvalue, rfl⟩ := fieldDeclaration_eq_ok_iff.1 h
  exact fieldDeclaration_eq_ok_iff.2
    ⟨type, value, fieldType_extends ht htype, defaultValue_extends ht hvalue, rfl⟩

theorem messageDeclarations_extends {path : List String} {m : MessageDescriptor}
    {ds : List Declaration} (h : s.messageDeclarations path m = .ok ds) :
    (s.withTable t).messageDeclarations path m = .ok ds := by
  induction m using MessageDescriptor.nestedInduction generalizing path ds with
  | _ m ih =>
    obtain ⟨messages, fields, hmessages, hfields, rfl⟩ := messageDeclarations_eq_ok_iff.1 h
    obtain ⟨parts, hparts, rfl⟩ := nestedDeclarations_eq_ok_iff.1 hmessages
    refine messageDeclarations_eq_ok_iff.2 ⟨parts.flatten, fields, ?_, ?_, rfl⟩
    · refine nestedDeclarations_eq_ok_iff.2 ⟨parts, ?_, rfl⟩
      have hall := (List.forall₂_and_left _ _).2 ⟨fun n hn => (List.mem_filter.1 hn).1, hparts⟩
      exact hall.imp fun n part hn => ih n hn.1 hn.2
    · rw [mapM_eq_ok_iff] at hfields ⊢
      exact hfields.imp fun f d hd => fieldDeclaration_extends ht hd

theorem typeDeclarations_extends {ds : List Declaration} (h : s.typeDeclarations = .ok ds) :
    (s.withTable t).typeDeclarations = .ok ds := by
  obtain ⟨parts, hparts, rfl⟩ := typeDeclarations_eq_ok_iff.1 h
  refine typeDeclarations_eq_ok_iff.2 ⟨parts, ?_, rfl⟩
  exact hparts.imp fun m part hpart => messageDeclarations_extends ht hpart

theorem method_extends {service : String} {m : MethodDescriptor} {d : Method}
    (h : s.method service m = .ok d) : (s.withTable t).method service m = .ok d := by
  obtain ⟨input, inputType, output, outputType, hin, hinType, hout, houtType, rfl⟩ :=
    method_eq_ok_iff.1 h
  exact method_eq_ok_iff.2 ⟨input, inputType, output, outputType, resolve_extends ht hin, hinType,
    resolve_extends ht hout, houtType, rfl⟩

theorem rpcDeclarations_extends {runtimes : RpcRuntimes} {ds : List Declaration}
    (h : s.rpcDeclarations runtimes = .ok ds) :
    (s.withTable t).rpcDeclarations runtimes = .ok ds := by
  unfold rpcDeclarations at h ⊢
  by_cases hrpc : s.hasRpc = true
  · rw [if_pos hrpc] at h
    refine (if_pos hrpc).trans ?_
    obtain ⟨services, hservices, rfl⟩ := serviceDeclarations_eq_ok_iff.1 h
    refine serviceDeclarations_eq_ok_iff.2 ⟨services, hservices.imp fun d service hd => ?_, rfl⟩
    obtain ⟨methods, hmethods, rfl⟩ := service_eq_ok_iff.1 hd
    exact service_eq_ok_iff.2 ⟨methods, hmethods.imp fun m d hm => method_extends ht hm, rfl⟩
  · rw [if_neg hrpc] at h
    exact (if_neg hrpc).trans h

end Extension

end FileScope

/-- The tree of a file is the same with a larger table that leads to the same imports. -/
theorem SourceFile.ofDescriptor_extends {t t' : TypeTable} (ht : t.Extends t')
    {file : FileDescriptor} (himports : file.importDependencies t' = file.importDependencies t)
    {config : Config} {version : CompilerVersion} {tree : SourceFile}
    (h : SourceFile.ofDescriptor config t version file = .ok tree) :
    SourceFile.ofDescriptor config t' version file = .ok tree := by
  have hscope : FileScope.ofFile config t' file =
      (FileScope.ofFile config t file).withTable t' := by
    unfold FileScope.ofFile FileScope.withTable
    rw [himports]
  obtain ⟨types, services, htypes, hservices, rfl⟩ := SourceFile.ofDescriptor_eq_ok_iff.1 h
  refine SourceFile.ofDescriptor_eq_ok_iff.2 ⟨types, services, ?_, ?_, ?_⟩
  · rw [hscope]
    exact FileScope.typeDeclarations_extends ht htypes
  · rw [hscope]
    exact FileScope.rpcDeclarations_extends ht hservices
  · rw [hscope, himports]
    rfl

end ProtoTypeScript
