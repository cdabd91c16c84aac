import ProtoTypeScript.Proofs.LoweredTypes
import ProtoTypeScript.Proofs.Registration
import ProtoTypeScript.Proofs.TypePath

/-!
# The tree of a file declares what the table records of it

The table of types is filled by one recursion over a descriptor, the tree is built by another.
`tree_declares_records` says that they visit the same types: with namespaces at the same paths,
without them under the names that the paths flatten to, and map entries aside.
-/

namespace ProtoTypeScript

/-! ### Kinds of declarations -/

/-- What a declared type is. -/
inductive DeclarationKind
  | enumeration
  | message
  deriving DecidableEq, Repr

/-- The kind of the declaration that a recorded type gets; a map entry gets none. -/
def TypeKind.declarationKind? : TypeKind → Option DeclarationKind
  | .message => some .message
  | .mapEntry _ _ => none
  | .enumeration _ => some .enumeration

/-- The kind of the declaration that a type gets. -/
def TypeDescriptor.declarationKind : TypeDescriptor → DeclarationKind
  | enumeration _ => .enumeration
  | message _ => .message

/-- The kind and the name of an enum or a class. -/
def Declaration.kindAndName? : Declaration → Option (DeclarationKind × String)
  | .enumeration e => some (.enumeration, e.name)
  | .message m _ => some (.message, m.name)
  | _ => none

/-- The kinds and names of the enums and classes at the top of a tree. -/
def SourceFile.topLevel (f : SourceFile) : List (DeclarationKind × String) :=
  f.body.filterMap Declaration.kindAndName?

/-- The kinds and paths of all enums and classes of a tree. -/
def SourceFile.kindsAndPaths (f : SourceFile) : List (DeclarationKind × List String) :=
  f.types.filterMap fun d => d.2.kindAndName?.map fun k => (k.1, d.1)

/-- The kinds and paths of the records of messages and enums. -/
def kindsAndPaths (records : List TypeRecord) : List (DeclarationKind × List String) :=
  records.filterMap fun r => r.kind.declarationKind?.map fun k => (k, r.path)

/-! ### The records of a file -/

theorem FileDescriptor.declarationKind?_of_record {f : FileDescriptor} {t : DeclaredType}
    {r : TypeRecord} (h : f.record t = .ok r) : r.kind.declarationKind? =
      if t.descriptor.isMapEntry then none else some t.descriptor.declarationKind := by
  obtain ⟨-, -, -, -, hkind⟩ := FileDescriptor.record_eq_ok_iff.1 h
  cases hdescriptor : t.descriptor with
  | enumeration e =>
    rw [hdescriptor, TypeDescriptor.kind_enumeration] at hkind
    rw [hkind]
    rfl
  | message m =>
    rw [hdescriptor] at hkind
    cases hm : m.mapEntry with
    | false =>
      rw [(TypeDescriptor.kind_message hm).1 hkind]
      simp [TypeDescriptor.isMapEntry, hm, TypeKind.declarationKind?,
        TypeDescriptor.declarationKind]
    | true =>
      obtain ⟨key, value, -, -, -, -, hr⟩ := (TypeDescriptor.kind_mapEntry hm).1 hkind
      simp [hr, TypeDescriptor.isMapEntry, hm, TypeKind.declarationKind?]

/-- The records of messages and enums are those of the types that are no map entries. -/
theorem FileDescriptor.EntriesWellFormed.kindsAndPaths_records {f : FileDescriptor}
    (h : f.EntriesWellFormed) : kindsAndPaths f.records =
      (f.types.filter fun t => !t.descriptor.isMapEntry).map fun t =>
        (t.descriptor.declarationKind, t.path) := by
  have haux : ∀ ts : List DeclaredType, (∀ t ∈ ts, ∃ r, f.record t = .ok r) →
      kindsAndPaths (ts.filterMap fun t => (f.record t).toOption) =
        (ts.filter fun t => !t.descriptor.isMapEntry).map fun t =>
          (t.descriptor.declarationKind, t.path) := by
    intro ts hts
    induction ts with
    | nil => rfl
    | cons t ts ih =>
      obtain ⟨r, hr⟩ := hts t List.mem_cons_self
      have hrest := ih fun t ht => hts t (List.mem_cons_of_mem _ ht)
      have hkind := declarationKind?_of_record hr
      have hpath := (record_eq_ok_iff.1 hr).2.2.2.1
      unfold kindsAndPaths at hrest ⊢
      rw [List.filterMap_cons, hr, Except.toOption, List.filterMap_cons, hkind]
      cases ht : t.descriptor.isMapEntry with
      | true => simpa [ht] using hrest
      | false => simpa [ht, hpath] using hrest
  exact haux f.types h

/-! ### The declarations of a tree -/

namespace FileScope

variable {s : FileScope}

theorem Lowers.kindAndName? {outer : List String} {t : DeclaredType}
    {d : List String × Declaration} (h : s.Lowers outer t d) :
    ∃ name, d.2.kindAndName? = some (t.descriptor.declarationKind, name) := by
  obtain ⟨-, h⟩ := h
  cases hdescriptor : t.descriptor with
  | enumeration e =>
    rw [hdescriptor] at h
    rw [h]
    exact ⟨_, rfl⟩
  | message m =>
    rw [hdescriptor] at h
    obtain ⟨fields, nested, -, h, -⟩ := h
    rw [h]
    exact ⟨_, rfl⟩

end FileScope

/-- Nothing stands inside the declaration. -/
def Declaration.IsFlat : Declaration → Prop
  | .message _ nested => nested = []
  | .namespaceBlock _ _ => False
  | _ => True

/-- The enums and classes of flat declarations are those at the top. -/
theorem Declaration.listTypes_of_flat {ds : List Declaration} (h : ∀ d ∈ ds, d.IsFlat) :
    (Declaration.listTypes [] ds).filterMap (fun d => d.2.kindAndName?.map fun k => (k.1, d.1)) =
      (ds.filterMap Declaration.kindAndName?).map fun k => (k.1, [k.2]) := by
  induction ds with
  | nil => rfl
  | cons d ds ih =>
    have hrest := ih fun e he => h e (List.mem_cons_of_mem _ he)
    have hd := h d List.mem_cons_self
    rw [listTypes, List.filterMap_append, hrest]
    cases d with
    | enumeration e => rfl
    | message m nested =>
      change nested = [] at hd
      subst hd
      rfl
    | namespaceBlock name body => exact hd.elim
    | rpcInterfaces target runtime => rfl
    | server stub => rfl
    | client stub => rfl

namespace FileScope

variable {s : FileScope}

/-- Without namespaces the declarations for types stand beside each other. -/
theorem typeDeclarations_flat (hflat : s.config.noNamespace = true) {ds : List Declaration}
    (h : s.typeDeclarations = .ok ds) : ∀ d ∈ ds, d.IsFlat := by
  intro d hd
  cases isTypeDeclaration_of_typeDeclarations h d hd with
  | enumeration path e => trivial
  | message path m fields hnested _ => exact hnested hflat

theorem rpcDeclarations_flat {runtimes : RpcRuntimes} {ds : List Declaration}
    (h : s.rpcDeclarations runtimes = .ok ds) : ∀ d ∈ ds, d.IsFlat := by
  unfold rpcDeclarations at h
  split_ifs at h with hrpc
  · obtain ⟨services, -, rfl⟩ := serviceDeclarations_eq_ok_iff.1 h
    intro d hd
    rcases List.mem_cons.1 hd with rfl | hd
    · trivial
    · obtain ⟨service, -, hd⟩ := List.mem_flatMap.1 hd
      rcases List.mem_pair.1 hd with rfl | rfl <;> trivial
  · cases h
    simp

end FileScope

theorem SourceFile.ofDescriptor_flat {config : Config} {table : TypeTable}
    {version : CompilerVersion} {file : FileDescriptor} {tree : SourceFile}
    (hflat : config.noNamespace = true)
    (h : SourceFile.ofDescriptor config table version file = .ok tree) :
    tree.kindsAndPaths = tree.topLevel.map fun k => (k.1, [k.2]) := by
  obtain ⟨types, services, htypes, hservices, rfl⟩ := SourceFile.ofDescriptor_eq_ok_iff.1 h
  refine Declaration.listTypes_of_flat fun d hd => ?_
  simp only [FileScope.inNamespace, FileScope.ofFile, hflat, or_true, if_true] at hd
  rcases List.mem_append.1 hd with hd | hd
  · exact FileScope.typeDeclarations_flat hflat htypes d hd
  · exact FileScope.rpcDeclarations_flat hservices d hd

/-! ### Tree and table -/

/-- The tree of a file, lowered with a table of types, declares what is recorded of the file. -/
structure DeclaresRecords (config : Config) (recorded table : TypeTable) (file : FileDescriptor)
    (tree : SourceFile) : Prop where
  /-- With namespaces the declarations have the recorded paths, below the package's namespace. -/
  nested : config.noNamespace = false →
    tree.kindsAndPaths.Perm ((kindsAndPaths (recorded.recordsOf file.name)).map fun r =>
      (r.1, file.packageSegments config ++ r.2)) ∧
    (tree.types.map (·.1)).Nodup
  /-- Without namespaces they have the recorded paths as their names. -/
  flat : config.noNamespace = true →
    tree.topLevel.Perm ((kindsAndPaths (recorded.recordsOf file.name)).map fun r =>
      (r.1, flatIdentifier r.2))
  /-- Every declaration is that of a type of its own, and none that of a map entry. -/
  noEntries : ∃ ts, ts.Perm (file.types.filter fun t => !t.descriptor.isMapEntry) ∧
    List.Forall₂ ((FileScope.ofFile config table file).Lowers (file.packageSegments config)) ts
      tree.types
  /-- The stack of enclosing messages is empty after every message at the top. -/
  pathEmptied : ∀ ms, ms <+: file.messages → ∃ parts,
    (ms.mapM (Lowering.message (FileScope.ofFile config table file))).run [] = .ok (parts, []) ∧
    ms.mapM ((FileScope.ofFile config table file).messageDeclarations []) = .ok parts

/-- The kinds and paths of a tree are those of the types that get a declaration. -/
theorem SourceFile.kindsAndPaths_eq {config : Config} {table : TypeTable}
    {version : CompilerVersion} {file : FileDescriptor} {tree : SourceFile}
    (h : SourceFile.ofDescriptor config table version file = .ok tree) :
    tree.kindsAndPaths = file.loweredTypes.map fun t =>
      (t.descriptor.declarationKind, file.packageSegments config ++ config.place t.path) := by
  refine Outcome.filterMap_eq_map_of_forall₂ (SourceFile.ofDescriptor_lowers h) fun t d hd => ?_
  obtain ⟨name, hname⟩ := hd.kindAndName?
  rw [hname, hd.1]
  rfl

/-- What the table of all files holds of a file are the types that get a declaration. -/
theorem kindsAndPaths_recordsOf_perm {earlier later : List FileDescriptor} {file : FileDescriptor}
    (hown : file.typeNames.Nodup) (hearlier : ∀ g ∈ earlier, g ≠ file → g.name ≠ file.name)
    (hlater : ∀ g ∈ later, g ≠ file →
      g.name ≠ file.name ∧ ∀ n ∈ g.typeNames, n ∉ file.typeNames)
    (hentries : file.EntriesAreLeaves) (hwell : file.EntriesWellFormed) :
    (kindsAndPaths ((TypeTable.ofFiles (earlier ++ file :: later)).recordsOf file.name)).Perm
      (file.loweredTypes.map fun t => (t.descriptor.declarationKind, t.path)) := by
  have hrecords := (TypeTable.recordsOf_ofFiles_perm hown hearlier hlater).filterMap
    fun r => r.kind.declarationKind?.map fun k => (k, r.path)
  change (kindsAndPaths _).Perm (kindsAndPaths file.records) at hrecords
  rw [hwell.kindsAndPaths_records] at hrecords
  exact hrecords.trans ((FileDescriptor.loweredTypes_perm hentries).map _).symm

/-- Without namespaces the names at the top of a tree are the flattened paths. -/
theorem SourceFile.topLevel_eq {config : Config} {table : TypeTable} {version : CompilerVersion}
    {file : FileDescriptor} {tree : SourceFile} (hflat : config.noNamespace = true)
    (h : SourceFile.ofDescriptor config table version file = .ok tree) :
    tree.topLevel = file.loweredTypes.map fun t =>
      (t.descriptor.declarationKind, flatIdentifier t.path) := by
  -- a path of one name says as much as the name
  have hname : Function.Injective fun k : DeclarationKind × String => (k.1, [k.2]) := by
    rintro ⟨k, name⟩ ⟨l, name'⟩ h
    simpa using h
  refine List.map_injective_iff.2 hname ?_
  rw [← ofDescriptor_flat hflat h, kindsAndPaths_eq h, List.map_map]
  simp [Config.place, FileDescriptor.packageSegments, hflat, Function.comp_def]

/-- The stack of enclosing messages is empty after the first messages of a file, however many. -/
theorem SourceFile.run_messages_of_prefix {config : Config} {table : TypeTable}
    {version : CompilerVersion} {file : FileDescriptor} {tree : SourceFile}
    (h : SourceFile.ofDescriptor config table version file = .ok tree)
    {ms : List MessageDescriptor} (hms : ms <+: file.messages) : ∃ parts,
      (ms.mapM (Lowering.message (FileScope.ofFile config table file))).run [] =
        .ok (parts, []) ∧
      ms.mapM ((FileScope.ofFile config table file).messageDeclarations []) = .ok parts := by
  obtain ⟨types, services, htypes, -, -⟩ := ofDescriptor_eq_ok_iff.1 h
  obtain ⟨parts, hparts, -⟩ := FileScope.typeDeclarations_eq_ok_iff.1 htypes
  have hfirst : ms.mapM ((FileScope.ofFile config table file).messageDeclarations []) =
      .ok (parts.take ms.length) := by
    rw [List.prefix_iff_eq_take.1 hms]
    refine Outcome.mapM_eq_ok_iff.2 ?_
    rw [List.length_take_of_le hms.length_le]
    exact List.forall₂_take _ hparts
  refine ⟨parts.take ms.length, ?_, hfirst⟩
  rw [Lowering.run_messages, hfirst]
  rfl

/-- **The tree of a file declares what is recorded of it**, if the names of its types are distinct
and its map entries stand inside messages and hold no types. The tree may be lowered with any table
of types; the records are those after any run of registrations, as long as no other file of the run
has the file's name and no later one declares its types anew. -/
theorem tree_declares_records {file : FileDescriptor} (hown : file.typeNames.Nodup)
    (hentries : file.EntriesAreLeaves) {earlier later : List FileDescriptor}
    (hearlier : ∀ g ∈ earlier, g ≠ file → g.name ≠ file.name)
    (hlater : ∀ g ∈ later, g ≠ file →
      g.name ≠ file.name ∧ ∀ n ∈ g.typeNames, n ∉ file.typeNames)
    {recorded : TypeTable}
    (hrecorded : TypeTable.empty.registerAll (earlier ++ file :: later) = .ok recorded)
    {config : Config} {table : TypeTable} {version : CompilerVersion} {tree : SourceFile}
    (htree : SourceFile.ofDescriptor config table version file = .ok tree) :
    DeclaresRecords config recorded table file tree := by
  obtain ⟨hwell, rfl⟩ := TypeTable.registerAll_eq_ok_iff.1 hrecorded
  have hrecords := kindsAndPaths_recordsOf_perm hown hearlier hlater hentries
    (hwell file (by simp))
  refine ⟨fun hnested => ⟨?_, ?_⟩, fun hflat => ?_, ?_, ?_⟩
  · -- with namespaces a type stands at its path
    rw [SourceFile.kindsAndPaths_eq htree]
    refine ((hrecords.map _).trans ?_).symm
    rw [List.map_map]
    simp [Config.place, hnested, Function.comp_def]
  · exact SourceFile.ofDescriptor_nodup htree hnested hown hentries
  · rw [SourceFile.topLevel_eq hflat htree]
    refine ((hrecords.map _).trans ?_).symm
    rw [List.map_map]
    rfl
  · exact ⟨file.loweredTypes, FileDescriptor.loweredTypes_perm hentries,
      SourceFile.ofDescriptor_lowers htree⟩
  · exact fun ms => SourceFile.run_messages_of_prefix htree

/-- A file with a message that holds an enum, a message and the entries of a map. -/
def mapleFile : FileDescriptor where
  name := "maple.proto"
  package := "wood.land"
  messages := [{
    name := "Maple"
    fields := [
      { name? := "leaves", type? := some 11, typeName? := ".wood.land.Maple.LeavesEntry" },
      { name? := "bark", type? := some 14, typeName? := ".wood.land.Maple.Bark" }]
    nested := [
      { name := "Leaf" },
      { name := "LeavesEntry"
        fields := [{ name? := "key", type? := some 9 },
          { name? := "value", type? := some 11, typeName? := ".wood.land.Maple.Leaf" }]
        mapEntry := true }]
    enums := [{ name := "Bark", values := [⟨"SMOOTH", 0⟩] }] }]
  enums := [{ name := "Season", values := [⟨"SPRING", 0⟩] }]

/-- A file that declares one of its types as well. -/
def hedgeFile : FileDescriptor where
  name := "hedge.proto"
  package := "wood.land"
  messages := [{ name := "Maple" }]

/-- A file beside it in the same package. -/
def fernFile : FileDescriptor where
  name := "fern.proto"
  package := "wood.land"
  messages := [{ name := "Fern" }]

theorem tree_declares_records_maple :
    mapleFile.typeNames.Nodup ∧ mapleFile.EntriesAreLeaves ∧
      ∃ recorded tree,
        TypeTable.empty.registerAll [hedgeFile, mapleFile, fernFile] = .ok recorded ∧
        SourceFile.ofDescriptor .default recorded default mapleFile = .ok tree ∧
        DeclaresRecords .default recorded recorded mapleFile tree := by
  have hown : mapleFile.typeNames.Nodup := by decide
  have hentries : mapleFile.EntriesAreLeaves := by
    refine ⟨by decide, ?_⟩
    simp [mapleFile, FileDescriptor.types, MessageDescriptor.types, MessageDescriptor.listTypes]
  have hearlier : ∀ g ∈ [hedgeFile], g ≠ mapleFile → g.name ≠ mapleFile.name :=
    fun g hg _ => List.mem_singleton.1 hg ▸ by decide
  have hlater : ∀ g ∈ [fernFile], g ≠ mapleFile →
      g.name ≠ mapleFile.name ∧ ∀ n ∈ g.typeNames, n ∉ mapleFile.typeNames :=
    fun g hg _ => List.mem_singleton.1 hg ▸ by decide
  have hrecorded : TypeTable.empty.registerAll ([hedgeFile] ++ mapleFile :: [fernFile]) =
      .ok (.ofFiles [hedgeFile, mapleFile, fernFile]) := rfl
  have hok : (SourceFile.ofDescriptor .default (.ofFiles [hedgeFile, mapleFile, fernFile]) default
      mapleFile).isOk := by
    decide +kernel
  obtain ⟨tree, htree⟩ := Outcome.isOk_iff.1 hok
  refine ⟨hown, hentries, _, tree, hrecorded, htree, ?_⟩
  exact tree_declares_records hown hentries hearlier hlater hrecorded htree

end ProtoTypeScript
