import ProtoTypeScript.Proofs.References

/-!
# Generated files are closed

What a generated file uses is declared in it or imported by it, and the libraries are imported only
where something uses them.

* `Declaration.runtimes` lists the libraries that declarations use, at any depth, with the
  identifiers that they are used under;
* `FileScope.Bound`, `TypeBound` and `FieldBound` say that an expression, a type and a field lead to
  the file itself or start with the identifier of an import of the file that declares the type;
* `generate_closed`: every file of a successful run is closed in this sense.
-/

namespace ProtoTypeScript

open Outcome

/-! ### Libraries -/

/-- The modules that generated code is built on. -/
inductive Library
  /-- The runtime of messages. -/
  | protobuf
  /-- The runtime of servers and of Node.js clients. -/
  | grpc
  /-- The runtime of browser clients. -/
  | grpcWeb
  deriving DecidableEq, Repr

namespace Library

/-- The library that clients of a target are built on. -/
def ofTarget : Target → Library
  | .node => grpc
  | .web => grpcWeb

/-- The identifier that a library is imported under. -/
def identifier : Library → String
  | protobuf => "pb_1"
  | grpc => "grpc_1"
  | grpcWeb => "grpc_web_1"

/-- The module that a library is imported from. -/
def moduleName (c : Config) : Library → String
  | protobuf => "google-protobuf"
  | grpc => c.grpcPackage
  | grpcWeb => "grpc-web"

/-- The import of a library. -/
def toImport (c : Config) (l : Library) : Import :=
  ⟨l.identifier, l.moduleName c⟩

/-- What makes a file import a library: an enum or a message at its top, services that are
generated, and these for the browser. -/
def IsNeeded (c : Config) (f : FileDescriptor) : Library → Prop
  | protobuf => f.enums ≠ [] ∨ f.messages ≠ []
  | grpc => c.noGrpc = false ∧ f.services ≠ []
  | grpcWeb => c.noGrpc = false ∧ f.services ≠ [] ∧ c.target = .web

theorem identifier_mem (l : Library) : l.identifier ∈ libraryIdentifiers := by
  cases l <;> decide

theorem identifier_inj {l l' : Library} (h : l.identifier = l'.identifier) : l = l' := by
  cases l <;> cases l' <;> first | rfl | exact absurd h (by decide)

end Library

mutual

/-- The libraries that a declaration uses and the identifiers that it uses them under. -/
def Declaration.runtimes : Declaration → List (Library × String)
  | .enumeration _ => []
  | .message m nested => (.protobuf, m.runtime) :: Declaration.listRuntimes nested
  | .namespaceBlock _ body => Declaration.listRuntimes body
  | .rpcInterfaces target runtime => [(.ofTarget target, runtime)]
  | .server stub => [(.grpc, stub.runtime)]
  | .client stub => [(.ofTarget stub.target, stub.runtime)]

/-- The libraries that declarations use, one declaration after the other. -/
def Declaration.listRuntimes : List Declaration → List (Library × String)
  | [] => []
  | d :: ds => d.runtimes ++ Declaration.listRuntimes ds

end

/-- The libraries that the declarations of a tree use. -/
def SourceFile.runtimes (f : SourceFile) : List (Library × String) :=
  Declaration.listRuntimes f.body

theorem Declaration.listRuntimes_eq (ds : List Declaration) :
    Declaration.listRuntimes ds = ds.flatMap Declaration.runtimes := by
  induction ds with
  | nil => rfl
  | cons d ds ih => rw [Declaration.listRuntimes, ih, List.flatMap_cons]

theorem Declaration.mem_listRuntimes_iff {ds : List Declaration} {use : Library × String} :
    use ∈ Declaration.listRuntimes ds ↔ ∃ d ∈ ds, use ∈ d.runtimes := by
  rw [Declaration.listRuntimes_eq, List.mem_flatMap]

/-! ### Bound references -/

namespace FileScope

/-- The text refers to the type of the name: by its path if the file declares it, and else below
the identifier of an import of the module that does. -/
inductive Bound (s : FileScope) (imports : List Import) (typeName : String) : String → Prop
  | within {r : TypeRecord} (hr : s.table.find? (.ofReference typeName) = some r)
      (hfile : r.file = s.file.name) : Bound s imports typeName (s.localExpression r.path)
  | imported {r : TypeRecord} {i : Import}
      (hr : s.table.find? (.ofReference typeName) = some r) (hfile : r.file ≠ s.file.name)
      (hi : i ∈ imports)
      (hmodule : i.module = (ModulePath.ofFile r.file).specifier (.ofFile s.file.name)) :
      Bound s imports typeName (i.identifier ++ "." ++ s.exportedExpression r)

/-- The names in the type of a field are bound, those in the values of a map included. -/
inductive TypeBound (s : FileScope) (imports : List Import) : FieldDescriptor → FieldType → Prop
  | scalar {f : FieldDescriptor} {scalar : Scalar} (h : f.valueType.scalar? = some scalar) :
      TypeBound s imports f (.scalar scalar)
  | enumeration {f : FieldDescriptor} {text : String} (h : f.valueType.scalar? = none)
      (hname : s.Bound imports f.typeName text) : TypeBound s imports f (.enumeration text)
  | message {f : FieldDescriptor} {text : String} (h : f.valueType.scalar? = none)
      (hname : s.Bound imports f.typeName text) : TypeBound s imports f (.message text)
  | map {f key value : FieldDescriptor} {r : TypeRecord} {keyType : Scalar} {valueType : FieldType}
      (h : f.valueType.scalar? = none) (hr : s.table.find? (.ofReference f.typeName) = some r)
      (hkind : r.kind = .mapEntry key value) (hvalue : TypeBound s imports value valueType) :
      TypeBound s imports f (.map keyType valueType)

/-- The type of a field is bound, and so is the default of an enum, which is a value of that type
unless it is a number or a list. -/
structure FieldBound (s : FileScope) (imports : List Import) (f : FieldDescriptor)
    (d : FieldDeclaration) : Prop where
  type : s.TypeBound imports f d.type
  default : ∀ text, d.type = .enumeration text →
    d.defaultValue = "0" ∨ d.defaultValue = "[]" ∨ ∃ value, d.defaultValue = text ++ "." ++ value

/-- The two types of a method are bound. -/
structure MethodBound (s : FileScope) (imports : List Import) (m : MethodDescriptor)
    (d : Method) : Prop where
  input : s.Bound imports m.inputType d.inputType
  output : s.Bound imports m.outputType d.outputType

end FileScope

/-- A tree that declares or imports what it uses. -/
structure SourceFile.IsClosed (c : Config) (files : List FileDescriptor) (f : FileDescriptor)
    (tree : SourceFile) : Prop where
  /-- No identifier stands for two modules, unless there are more than 32 bits can count. -/
  identifiers : (f.importNames (.ofFiles files)).length ≤ UInt32.size →
    (tree.imports.map (·.identifier)).Nodup
  libraries : ∀ l : Library, l.toImport c ∈ tree.imports ↔ l.IsNeeded c f
  /-- What is no library is a dependency. -/
  dependencies : ∀ i ∈ tree.imports, (∃ l : Library, i = l.toImport c) ∨
    ∃ d ∈ f.importNames (.ofFiles files),
      i.module = (ModulePath.ofFile d).specifier (.ofFile f.name)
  /-- A library is used under the identifier of its import. -/
  runtimes : ∀ l identifier, (l, identifier) ∈ tree.runtimes →
    l.toImport c ∈ tree.imports ∧ identifier = l.identifier
  fields : ∀ path d nested, (path, Declaration.message d nested) ∈ tree.types →
    ∃ t ∈ f.loweredTypes, ∃ m, t.descriptor = .message m ∧
      List.Forall₂ ((FileScope.ofFile c (.ofFiles files) f).FieldBound tree.imports)
        m.fields d.fields
  methods : ∃ services, tree.services = services.flatMap (fun s => [s, s]) ∧
    List.Forall₂ (fun d s => s.name = d.name ∧
      List.Forall₂ ((FileScope.ofFile c (.ofFiles files) f).MethodBound tree.imports)
        d.methods s.methods) (f.rpcServices c) services

/-! ### Uses of libraries -/

namespace FileScope

variable {s : FileScope}

theorem messageDeclarations_ne_nil {path : List String} {m : MessageDescriptor}
    {ds : List Declaration} (h : s.messageDeclarations path m = .ok ds) : ds ≠ [] := by
  obtain ⟨messages, fields, -, -, rfl⟩ := messageDeclarations_eq_ok_iff.1 h
  unfold placeNested
  split_ifs <;> simp

/-- Messages at any depth use the runtime library under the identifier of the scope. -/
theorem IsTypeDeclaration.runtimes_eq {d : Declaration} (h : s.IsTypeDeclaration d) :
    ∀ use ∈ d.runtimes, use = (.protobuf, s.runtime) := by
  induction h with
  | enumeration path e => simp [Declaration.runtimes]
  | message path m fields _ _ ih =>
    intro use huse
    rw [Declaration.runtimes, List.mem_cons, Declaration.mem_listRuntimes_iff] at huse
    rcases huse with rfl | ⟨d, hd, huse⟩
    · rfl
    · exact ih d hd use huse

theorem runtimes_typeDeclarations {ds : List Declaration} (h : s.typeDeclarations = .ok ds) :
    ∀ use ∈ Declaration.listRuntimes ds, use = (.protobuf, s.runtime) ∧ ds ≠ [] := by
  intro use huse
  obtain ⟨d, hd, huse⟩ := Declaration.mem_listRuntimes_iff.1 huse
  exact ⟨(isTypeDeclaration_of_typeDeclarations h d hd).runtimes_eq use huse, List.ne_nil_of_mem hd⟩

/-- A file without declarations for types has no types at its top. -/
theorem typeDeclarations_eq_nil_iff {ds : List Declaration} (h : s.typeDeclarations = .ok ds) :
    ds = [] ↔ s.file.enums = [] ∧ s.file.messages = [] := by
  obtain ⟨parts, hparts, rfl⟩ := typeDeclarations_eq_ok_iff.1 h
  rw [List.append_eq_nil_iff, List.map_eq_nil_iff, List.flatten_eq_nil_iff]
  refine and_congr_right fun _ => ?_
  constructor
  · intro hnil
    by_contra hne
    obtain ⟨m, hm⟩ := List.exists_mem_of_ne_nil _ hne
    obtain ⟨part, hpart, hok⟩ := exists_of_mem_left hparts hm
    exact messageDeclarations_ne_nil hok (hnil part hpart)
  · intro hnone part hpart
    obtain ⟨m, hm, -⟩ := exists_of_mem_right hparts hpart
    rw [hnone] at hm
    exact absurd hm List.not_mem_nil

/-- Interfaces and clients use the runtime of their target, servers that of Node.js. -/
theorem runtimes_rpcDeclarations {runtimes : RpcRuntimes} {ds : List Declaration}
    (h : s.rpcDeclarations runtimes = .ok ds) : ∀ use ∈ Declaration.listRuntimes ds,
      s.hasRpc = true ∧ (use = (.grpc, runtimes.grpc) ∨
        use = (.ofTarget s.config.target, runtimes.client s.config.target)) := by
  unfold rpcDeclarations at h
  split_ifs at h with hrpc
  · obtain ⟨services, -, rfl⟩ := serviceDeclarations_eq_ok_iff.1 h
    intro use huse
    refine ⟨hrpc, ?_⟩
    obtain ⟨d, hd, huse⟩ := Declaration.mem_listRuntimes_iff.1 huse
    rcases List.mem_cons.1 hd with rfl | hd
    · exact Or.inr (List.mem_singleton.1 huse)
    · obtain ⟨service, -, hd⟩ := List.mem_flatMap.1 hd
      rcases List.mem_pair.1 hd with rfl | rfl
      · exact Or.inl (List.mem_singleton.1 huse)
      · exact Or.inr (List.mem_singleton.1 huse)
  · cases h
    intro use huse
    exact absurd huse List.not_mem_nil

theorem listRuntimes_inNamespace (s : FileScope) (body : List Declaration) :
    Declaration.listRuntimes (s.inNamespace body) = Declaration.listRuntimes body := by
  unfold inNamespace
  split_ifs
  · rfl
  · rw [Declaration.listRuntimes, Declaration.runtimes, Declaration.listRuntimes, List.append_nil]

/-! ### Imports of libraries -/

theorem mem_runtimeImports_iff (hruntime : s.runtime = "pb_1") {ds : List Declaration}
    (h : s.typeDeclarations = .ok ds) {i : Import} : i ∈ s.runtimeImports ds ↔
      i = Library.protobuf.toImport s.config ∧ Library.protobuf.IsNeeded s.config s.file := by
  have hneeded : Library.protobuf.IsNeeded s.config s.file ↔ ds ≠ [] := by
    rw [Ne, typeDeclarations_eq_nil_iff h, Library.IsNeeded, not_and_or]
  rw [hneeded]
  unfold runtimeImports
  split_ifs with hds
  · simp [hds]
  · simp [hds, hruntime, Library.toImport, Library.identifier, Library.moduleName]

theorem mem_rpcImports_iff {i : Import} : i ∈ s.rpcImports AliasScope.forFile.2.1 ↔
    (i = Library.grpc.toImport s.config ∧ Library.grpc.IsNeeded s.config s.file) ∨
      (i = Library.grpcWeb.toImport s.config ∧ Library.grpcWeb.IsNeeded s.config s.file) := by
  have hruntimes : AliasScope.forFile.2.1 = ⟨"grpc_1", "grpc_web_1"⟩ := by decide
  rw [hruntimes]
  unfold rpcImports Library.IsNeeded
  by_cases hrpc : s.hasRpc = true
  · obtain ⟨hgrpc, hservices⟩ := hasRpc_iff.1 hrpc
    by_cases hweb : s.config.target = .web <;>
      simp [hrpc, hgrpc, hservices, hweb, Library.toImport, Library.identifier,
        Library.moduleName]
  · have hnone : ¬ (s.config.noGrpc = false ∧ s.file.services ≠ []) :=
      fun h => hrpc (hasRpc_iff.2 h)
    rw [if_neg hrpc]
    refine iff_of_false List.not_mem_nil ?_
    rintro (⟨-, h⟩ | ⟨-, h⟩)
    · exact hnone h
    · exact hnone ⟨h.1, h.2.1⟩

end FileScope

/-! ### Closed trees -/

section Tree

variable {c : Config} {table : TypeTable} {version : CompilerVersion} {f : FileDescriptor}
  {tree : SourceFile} (h : SourceFile.ofDescriptor c table version f = .ok tree)

include h

/-- The imports of a tree are those of the dependencies and those of the libraries it needs. -/
theorem SourceFile.mem_imports_iff {i : Import} : i ∈ tree.imports ↔
    i ∈ (f.importDependencies table).2 ∨ ∃ l : Library, i = l.toImport c ∧ l.IsNeeded c f := by
  obtain ⟨types, services, htypes, -, rfl⟩ := ofDescriptor_eq_ok_iff.1 h
  have hruntime := FileScope.mem_runtimeImports_iff (s := .ofFile c table f) rfl htypes (i := i)
  have hrpc := FileScope.mem_rpcImports_iff (s := .ofFile c table f) (i := i)
  rw [List.mem_append, List.mem_append, hruntime, hrpc, or_assoc]
  refine or_congr_right ?_
  constructor
  · rintro (hl | hl | hl)
    · exact ⟨_, hl⟩
    · exact ⟨_, hl⟩
    · exact ⟨_, hl⟩
  · rintro ⟨l, hl⟩
    cases l with
    | protobuf => exact Or.inl hl
    | grpc => exact Or.inr (Or.inl hl)
    | grpcWeb => exact Or.inr (Or.inr hl)

omit h in
theorem FileDescriptor.exists_of_mem_importDependencies {i : Import}
    (hi : i ∈ (f.importDependencies table).2) : (∃ n, i.identifier = dependencyIdentifier n) ∧
      ∃ d ∈ f.importNames table, i.module = (ModulePath.ofFile d).specifier (.ofFile f.name) := by
  rw [importDependencies_imports, List.mem_mapIdx] at hi
  obtain ⟨n, hn, hi⟩ := hi
  refine ⟨⟨n, ?_⟩, (f.importNames table)[n], List.getElem_mem hn, ?_⟩
  · rw [← hi]
  · rw [← hi]

/-- A library is imported exactly if the file needs it. -/
theorem SourceFile.toImport_mem_iff (l : Library) : l.toImport c ∈ tree.imports ↔
    l.IsNeeded c f := by
  rw [mem_imports_iff h]
  constructor
  · rintro (hdependency | ⟨l', hl', hneeded⟩)
    · obtain ⟨⟨n, hn⟩, -⟩ := FileDescriptor.exists_of_mem_importDependencies hdependency
      have hlibrary := l.identifier_mem
      change l.identifier = _ at hn
      rw [hn] at hlibrary
      exact absurd hlibrary (dependencyIdentifier_notMem n)
    · obtain rfl := Library.identifier_inj (congrArg Import.identifier hl')
      exact hneeded
  · intro hneeded
    exact Or.inr ⟨l, rfl, hneeded⟩

/-- The library of a declaration is imported, under the identifier that it is used under. -/
theorem SourceFile.runtimes_bound {l : Library} {identifier : String}
    (huse : (l, identifier) ∈ tree.runtimes) :
    l.IsNeeded c f ∧ identifier = l.identifier := by
  obtain ⟨types, services, htypes, hservices, rfl⟩ := ofDescriptor_eq_ok_iff.1 h
  rw [runtimes, FileScope.listRuntimes_inNamespace, Declaration.listRuntimes_eq,
    List.flatMap_append, ← Declaration.listRuntimes_eq, ← Declaration.listRuntimes_eq] at huse
  rcases List.mem_append.1 huse with huse | huse
  · obtain ⟨heq, hne⟩ := FileScope.runtimes_typeDeclarations htypes _ huse
    cases heq
    rw [Ne, FileScope.typeDeclarations_eq_nil_iff htypes, not_and_or] at hne
    exact ⟨hne, rfl⟩
  · obtain ⟨hrpc, huse⟩ := FileScope.runtimes_rpcDeclarations hservices _ huse
    have hneeded : c.noGrpc = false ∧ f.services ≠ [] := FileScope.hasRpc_iff.1 hrpc
    rcases huse with heq | heq
    · cases heq
      exact ⟨hneeded, rfl⟩
    · cases htarget : c.target with
      | node =>
        simp only [FileScope.ofFile, htarget] at heq
        cases heq
        exact ⟨hneeded, rfl⟩
      | web =>
        simp only [FileScope.ofFile, htarget] at heq
        cases heq
        exact ⟨⟨hneeded.1, hneeded.2, htarget⟩, rfl⟩

/-! ### References of a tree -/

/-- The expression that a reference becomes is bound. -/
theorem FileScope.bound_of_typeExpression {typeName text : String} {r : TypeRecord}
    (hr : (FileScope.ofFile c table f).resolve typeName = .ok r)
    (htext : (FileScope.ofFile c table f).typeExpression r = .ok text) :
    (FileScope.ofFile c table f).Bound tree.imports typeName text := by
  rw [resolve_eq_ok_iff] at hr
  rcases typeExpression_eq_ok_iff.1 htext with ⟨hfile, rfl⟩ | ⟨hfile, identifier, hbound, rfl⟩
  · exact .within hr hfile
  · obtain ⟨i, hi, rfl, hmodule⟩ := FileDescriptor.exists_import_of_identifierFor? hbound
    exact .imported hr hfile ((SourceFile.mem_imports_iff h).2 (Or.inl hi)) hmodule

theorem FileScope.typeBound_of_hasType {field : FieldDescriptor} {type : FieldType}
    (htype : (FileScope.ofFile c table f).HasType field type) :
    (FileScope.ofFile c table f).TypeBound tree.imports field type := by
  induction htype with
  | scalar hscalar => exact .scalar hscalar
  | enumeration hscalar hr _ htext =>
    exact .enumeration hscalar (bound_of_typeExpression h hr htext)
  | message hscalar hr _ htext => exact .message hscalar (bound_of_typeExpression h hr htext)
  | map hscalar hr hkind _ _ _ ih => exact .map hscalar (resolve_eq_ok_iff.1 hr) hkind ih

omit h in
theorem FileScope.defaultValue_enumeration {s : FileScope} {field : FieldDescriptor}
    {text value : String} {cardinality : Cardinality}
    (hvalue : s.defaultValue field (.enumeration text) cardinality = .ok value) :
    value = "0" ∨ value = "[]" ∨ ∃ name, value = text ++ "." ++ name := by
  unfold defaultValue at hvalue
  split_ifs at hvalue
  · exact Or.inr (Or.inl (Except.ok.inj hvalue).symm)
  · dsimp only [enumDefault] at hvalue
    split at hvalue
    · exact Or.inr (Or.inr ⟨_, (Except.ok.inj hvalue).symm⟩)
    · obtain ⟨r, -, hvalue⟩ := bind_eq_ok_iff.1 hvalue
      split at hvalue
      · exact Or.inr (Or.inr ⟨_, (pure_eq_ok_iff.1 hvalue).symm⟩)
      · exact Or.inl (pure_eq_ok_iff.1 hvalue).symm

theorem FileScope.fieldBound_of_fieldDeclaration {field : FieldDescriptor} {d : FieldDeclaration}
    (hd : (FileScope.ofFile c table f).fieldDeclaration field = .ok d) :
    (FileScope.ofFile c table f).FieldBound tree.imports field d := by
  obtain ⟨type, value, htype, hvalue, rfl⟩ := fieldDeclaration_eq_ok_iff.1 hd
  refine ⟨typeBound_of_hasType h (fieldType_eq_ok_iff.1 htype), ?_⟩
  rintro text rfl
  exact defaultValue_enumeration hvalue

theorem FileScope.methodBound_of_method {service : String} {m : MethodDescriptor} {d : Method}
    (hd : (FileScope.ofFile c table f).method service m = .ok d) :
    (FileScope.ofFile c table f).MethodBound tree.imports m d := by
  obtain ⟨input, inputType, output, outputType, hin, hinType, hout, houtType, rfl⟩ :=
    method_eq_ok_iff.1 hd
  exact ⟨bound_of_typeExpression h hin hinType, bound_of_typeExpression h hout houtType⟩

/-- The fields of every class are bound, at any depth. -/
theorem SourceFile.fields_bound {path : List String} {d : MessageClass} {nested : List Declaration}
    (hd : (path, Declaration.message d nested) ∈ tree.types) :
    ∃ t ∈ f.loweredTypes, ∃ m, t.descriptor = .message m ∧
      List.Forall₂ ((FileScope.ofFile c table f).FieldBound tree.imports) m.fields d.fields := by
  obtain ⟨t, ht, -, hlowers⟩ := exists_of_mem_right (ofDescriptor_lowers h) hd
  refine ⟨t, ht, ?_⟩
  cases hdescriptor : t.descriptor with
  | enumeration e =>
    rw [hdescriptor] at hlowers
    cases hlowers
  | message m =>
    rw [hdescriptor] at hlowers
    obtain ⟨fields, _, hfields, hclass, -⟩ := hlowers
    cases hclass
    exact ⟨m, rfl, (mapM_eq_ok_iff.1 hfields).imp fun field d =>
      FileScope.fieldBound_of_fieldDeclaration h⟩

/-- The methods of every service are bound. -/
theorem SourceFile.methods_bound : ∃ services,
    tree.services = services.flatMap (fun s => [s, s]) ∧
    List.Forall₂ (fun d s => s.name = d.name ∧
      List.Forall₂ ((FileScope.ofFile c table f).MethodBound tree.imports) d.methods s.methods)
      (f.rpcServices c) services := by
  obtain ⟨services, hok, hservices⟩ := ofDescriptor_services h
  refine ⟨services, hservices, hok.imp fun d s hs => ?_⟩
  obtain ⟨methods, hmethods, rfl⟩ := FileScope.service_eq_ok_iff.1 hs
  exact ⟨rfl, hmethods.imp fun m method => FileScope.methodBound_of_method h⟩

end Tree

/-- **Generated files are closed**: in every tree of a successful run what is used is declared or
imported, under distinct identifiers, and the libraries are imported where something needs them. -/
theorem generate_closed {c : Config} {r : Request} {out : List GeneratedFile}
    (h : c.run r = .ok out) : ∃ trees, c.trees r = .ok trees ∧
      out = trees.map GeneratedFile.ofSource ∧
      List.Forall₂ (SourceFile.IsClosed c r.files) r.files trees := by
  obtain ⟨trees, htrees, rfl⟩ := Config.run_eq_ok_iff.1 h
  obtain ⟨-, -, hall⟩ := Config.trees_eq_ok_iff.1 htrees
  refine ⟨trees, htrees, rfl, hall.imp fun f tree htree => ?_⟩
  refine ⟨fun hcount => SourceFile.nodup_identifiers_imports hcount htree,
    SourceFile.toImport_mem_iff htree, ?_, ?_, fun path d nested => SourceFile.fields_bound htree,
    SourceFile.methods_bound htree⟩
  · intro i hi
    rcases (SourceFile.mem_imports_iff htree).1 hi with hdependency | ⟨l, hl, -⟩
    · exact Or.inr (FileDescriptor.exists_of_mem_importDependencies hdependency).2
    · exact Or.inl ⟨l, hl⟩
  · intro l identifier huse
    obtain ⟨hneeded, hidentifier⟩ := SourceFile.runtimes_bound htree huse
    exact ⟨(SourceFile.toImport_mem_iff htree l).2 hneeded, hidentifier⟩

/-- The garden's files for the browser. -/
theorem generate_closed_garden : ∃ out,
    { Config.default with target := .web }.run gardenRequest = .ok out ∧
    ∃ trees, { Config.default with target := .web }.trees gardenRequest = .ok trees ∧
      out = trees.map GeneratedFile.ofSource ∧
      List.Forall₂ (SourceFile.IsClosed { Config.default with target := .web } gardenRequest.files)
        gardenRequest.files trees ∧
      ∀ tree ∈ trees, (tree.imports.map (·.identifier)).Nodup := by
  have hok : ({ Config.default with target := .web }.run gardenRequest).isOk := by
    decide +kernel
  have hcount : ∀ f ∈ gardenRequest.files,
      (f.importNames (.ofFiles gardenRequest.files)).length ≤ UInt32.size := by decide +kernel
  obtain ⟨out, hout⟩ := isOk_iff.1 hok
  obtain ⟨trees, htrees, hfiles, hclosed⟩ := generate_closed hout
  refine ⟨out, hout, trees, htrees, hfiles, hclosed, fun tree htree => ?_⟩
  obtain ⟨f, hf, htree⟩ := exists_of_mem_right hclosed htree
  exact htree.identifiers (hcount f hf)

end ProtoTypeScript
