import ProtoTypeScript.Proofs.Aliases
import ProtoTypeScript.Proofs.ImportClosure
import ProtoTypeScript.Proofs.Lowering

/-!
# The imports of a file

A file imports its dependencies, then the runtime library and the RPC packages.

* `importDependencies_closure`: the dependencies are the closure of the declared ones under
  `import public`, numbered in the order in which the search finds them;
* `exists_import_of_identifierFor?`: the identifier bound to a dependency is that of its import;
* `nodup_identifiers_imports`: no identifier stands for two modules, if there are no more of them
  than 32 bits can count.
-/

namespace ProtoTypeScript

/-! ### Dependencies -/

namespace FileDescriptor

/-- The files that a file imports, in the order of their imports. -/
def importNames (f : FileDescriptor) (table : TypeTable) : List String :=
  ImportClosure.names table.reexports f.name f.dependencies

variable (f : FileDescriptor) (table : TypeTable)

theorem importDependencies_eq : f.importDependencies table =
    AliasScope.forFile.2.2.importAll (.ofFile f.name) (f.importNames table) := rfl

theorem nodup_importNames : (f.importNames table).Nodup :=
  (ImportClosure.drains_names table.reexports f.name f.dependencies).nodup List.nodup_nil

theorem importDependencies_imports : (f.importDependencies table).2 =
    (f.importNames table).mapIdx fun i d =>
      ⟨dependencyIdentifier i, (ModulePath.ofFile d).specifier (.ofFile f.name)⟩ := by
  have hcount : AliasScope.forFile.2.2.count "dependency" = UInt32.ofNat 0 := by decide
  have himports := AliasScope.importAll_imports _ (.ofFile f.name) (f.importNames table) hcount
  simp only [Nat.zero_add] at himports
  exact himports

variable {f table}

theorem identifierFor?_of_getElem? {i : ℕ} {d : String} (h : (f.importNames table)[i]? = some d) :
    (f.importDependencies table).1.identifierFor? d = some (dependencyIdentifier i) := by
  have hcount : AliasScope.forFile.2.2.count "dependency" = UInt32.ofNat 0 := by decide
  have hbound := AliasScope.identifierFor?_importAll _ (.ofFile f.name)
    (f.nodup_importNames table) hcount h
  rw [Nat.zero_add] at hbound
  exact hbound

theorem identifierFor?_of_notMem {d : String} (h : d ∉ f.importNames table) :
    (f.importDependencies table).1.identifierFor? d = none :=
  AliasScope.identifierFor?_importAll_of_notMem AliasScope.forFile.2.2 (.ofFile f.name) h

/-- The identifier bound to a dependency is that of its import. -/
theorem exists_import_of_identifierFor? {d identifier : String}
    (h : (f.importDependencies table).1.identifierFor? d = some identifier) :
    ∃ i ∈ (f.importDependencies table).2, i.identifier = identifier ∧
      i.module = (ModulePath.ofFile d).specifier (.ofFile f.name) := by
  by_cases hd : d ∈ f.importNames table
  · obtain ⟨i, hi⟩ := List.mem_iff_getElem?.1 hd
    obtain rfl := Option.some.inj ((identifierFor?_of_getElem? hi).symm.trans h)
    have hmem : ⟨dependencyIdentifier i, (ModulePath.ofFile d).specifier (.ofFile f.name)⟩ ∈
        (f.importDependencies table).2 := by
      rw [importDependencies_imports]
      refine List.mem_iff_getElem?.2 ⟨i, ?_⟩
      rw [List.getElem?_mapIdx, hi]
      rfl
    -- kept closed, since unfolding a specifier evaluates texts
    generalize (ModulePath.ofFile d).specifier (.ofFile f.name) = specifier at hmem ⊢
    exact ⟨_, hmem, rfl, rfl⟩
  · rw [identifierFor?_of_notMem hd] at h
    cases h

end FileDescriptor

/-! ### The closure of the dependencies -/

/-- The aliases and imports of a file are those of the closure of its dependencies under
`import public`, which are `names`. They are numbered, in decimals as far as 32 bits go. -/
structure ImportsClosure (files : List FileDescriptor) (f : FileDescriptor) (names : List String)
    (aliases : AliasScope) (imports : List Import) : Prop where
  /-- The search ends, and has then bound the names. -/
  ends : ImportClosure.Drains (reexportsIn files) f.name [] f.dependencies names
  mem_iff : ∀ d, d ∈ names ↔ d ≠ f.name ∧ Reachable files f.dependencies d
  nodup : names.Nodup
  /-- The direct dependencies come first, in declared order without repetition. -/
  direct_first : (f.dependencies.filter (· ≠ f.name)).eraseDups <+: names
  breadthFirst : ImportClosure.BreadthFirst (reexportsIn files) f.name [] f.dependencies names
  imports_eq : imports = names.mapIdx fun i d =>
    ⟨dependencyIdentifier i, (ModulePath.ofFile d).specifier (ModulePath.ofFile f.name)⟩
  bound : ∀ i d, names[i]? = some d → aliases.identifierFor? d = some (dependencyIdentifier i)
  numbered : ∀ i, i + 1 < UInt32.size → dependencyIdentifier i = "dependency_" ++ toString (i + 1)
  unbound : ∀ d, d ∉ names → aliases.identifierFor? d = none

/-- **A file imports the closure of its dependencies**, each file once and in breadth-first order,
whatever the graph of imports and whether or not all types can be registered. -/
theorem importDependencies_closure {files : List FileDescriptor}
    (hnames : (files.map (·.name)).Nodup) {f : FileDescriptor} (hf : f ∈ files) :
    ImportsClosure files f
      (ImportClosure.names (TypeTable.empty.registerEach files).reexports f.name f.dependencies)
      (f.importDependencies (TypeTable.empty.registerEach files)).1
      (f.importDependencies (TypeTable.empty.registerEach files)).2 ∧
    ∀ config table version tree, TypeTable.empty.registerAll files = .ok table →
      SourceFile.ofDescriptor config table version f = .ok tree →
      (f.importDependencies (TypeTable.empty.registerEach files)).2 <+: tree.imports := by
  have hdrains := ImportClosure.drains_names (TypeTable.empty.registerEach files).reexports f.name
    f.dependencies
  change ImportClosure.Drains (TypeTable.empty.registerEach files).reexportsOf _ _ _ _ at hdrains
  rw [reexportsOf_registerEach hnames] at hdrains
  refine ⟨⟨hdrains, fun d => hdrains.mem_iff hnames hf, f.nodup_importNames _, ?_,
    hdrains.breadthFirst, f.importDependencies_imports _,
    fun i d => FileDescriptor.identifierFor?_of_getElem?, fun i => dependencyIdentifier_of_lt,
    fun d => FileDescriptor.identifierFor?_of_notMem⟩, ?_⟩
  · have hprefix := hdrains.breadthFirst.fresh_prefix
    simpa [ImportClosure.fresh] using hprefix
  · intro config table version tree htable htree
    obtain ⟨types, services, -, -, rfl⟩ := SourceFile.ofDescriptor_eq_ok_iff.1 htree
    rw [TypeTable.registerEach_of_registerAll htable, List.append_assoc]
    exact List.prefix_append _ _

/-- A file that depends on itself, twice on another file and on one that is not there. -/
def cyclicImporter : FileDescriptor where
  name := "a.proto"
  dependencies := ["b.proto", "a.proto", "b.proto", "gone.proto"]

/-- Three files whose imports run in circles, with public positions that no dependency has. -/
def cyclicFiles : List FileDescriptor :=
  [cyclicImporter,
    { name := "b.proto", dependencies := ["c.proto", "a.proto"],
      publicDependencies := [0, 1, 7, -1] },
    { name := "c.proto", dependencies := ["b.proto"], publicDependencies := [0] }]

theorem importDependencies_closure_cyclic :
    (cyclicFiles.map (·.name)).Nodup ∧ cyclicImporter ∈ cyclicFiles ∧
      ImportsClosure cyclicFiles cyclicImporter ["b.proto", "gone.proto", "c.proto"]
        (cyclicImporter.importDependencies (TypeTable.empty.registerEach cyclicFiles)).1
        (cyclicImporter.importDependencies (TypeTable.empty.registerEach cyclicFiles)).2 :=
  ⟨by decide, List.mem_cons_self, (importDependencies_closure (by decide) List.mem_cons_self).1⟩

/-! ### Identifiers -/

/-- The identifiers of the runtime library and the RPC packages. -/
def libraryIdentifiers : List String :=
  ["pb_1", "grpc_1", "grpc_web_1"]

theorem dependencyIdentifier_notMem (i : ℕ) : dependencyIdentifier i ∉ libraryIdentifiers := by
  have hhead : (dependencyIdentifier i).toList.head? = some 'd' := by
    simp [dependencyIdentifier]
  have hother : ∀ s ∈ libraryIdentifiers, s.toList.head? ≠ some 'd' := by decide
  exact fun h => hother _ h hhead

theorem FileScope.libraryImports_sublist (s : FileScope) (hruntime : s.runtime = "pb_1")
    (types : List Declaration) :
    ((s.runtimeImports types ++ s.rpcImports AliasScope.forFile.2.1).map (·.identifier)).Sublist
      libraryIdentifiers := by
  have hlibrary : (s.runtimeImports types).map (·.identifier) = [] ∨
      (s.runtimeImports types).map (·.identifier) = ["pb_1"] := by
    unfold runtimeImports
    split_ifs
    · exact Or.inl rfl
    · exact Or.inr (by rw [← hruntime]; rfl)
  have hrpc : ((s.rpcImports AliasScope.forFile.2.1).map (·.identifier)).Sublist
      ["grpc_1", "grpc_web_1"] := by
    unfold rpcImports
    split_ifs
    · exact List.Sublist.refl _
    · exact (List.nil_sublist ["grpc_web_1"]).cons_cons "grpc_1"
    · exact List.nil_sublist _
  rw [List.map_append]
  rcases hlibrary with h | h
  · rw [h]
    exact hrpc.cons "pb_1"
  · rw [h]
    exact hrpc.cons_cons "pb_1"

/-- No identifier stands for two modules. -/
theorem SourceFile.nodup_identifiers_imports {config : Config} {table : TypeTable}
    {version : CompilerVersion} {file : FileDescriptor} {tree : SourceFile}
    (hcount : (file.importNames table).length ≤ UInt32.size)
    (h : SourceFile.ofDescriptor config table version file = .ok tree) :
    (tree.imports.map (·.identifier)).Nodup := by
  obtain ⟨types, services, -, -, rfl⟩ := ofDescriptor_eq_ok_iff.1 h
  have hlibrary := (FileScope.ofFile config table file).libraryImports_sublist rfl types
  have hnumbered : ((file.importDependencies table).2.map (·.identifier)) =
      (List.range (file.importNames table).length).map dependencyIdentifier := by
    rw [FileDescriptor.importDependencies_imports]
    exact List.ext_getElem (by simp) fun i _ _ => by simp
  rw [List.append_assoc, List.map_append, hnumbered]
  refine List.nodup_append.2 ⟨?_, ?_, ?_⟩
  · refine List.nodup_range.map_on fun i hi j hj hij => ?_
    rw [List.mem_range] at hi hj
    exact (dependencyIdentifier_inj (Nat.lt_of_lt_of_le hi hcount)
      (Nat.lt_of_lt_of_le hj hcount)).1 hij
  · exact List.Nodup.sublist hlibrary (by decide)
  · rintro a ha b hb rfl
    obtain ⟨i, -, rfl⟩ := List.mem_map.1 ha
    exact dependencyIdentifier_notMem i (hlibrary.subset hb)

end ProtoTypeScript
