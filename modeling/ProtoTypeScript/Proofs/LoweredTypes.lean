import Mathlib.Data.List.Forall2
import Mathlib.Data.List.Perm.Basic
import ProtoTypeScript.Proofs.DeclaredTypes
import ProtoTypeScript.Proofs.Lowering

/-!
# The enums and classes of a tree

Two listings of what a file declares, one read off its descriptor and one off its tree.

* `FileDescriptor.loweredTypes` lists the types that get a declaration, what is inside a message
  before the message itself; `loweredTypes_perm` says that these are all types but map entries;
* `SourceFile.types` lists the enums and classes of a tree with their paths from the top of the
  module, in the same order;
* `FileScope.Lowers` says which declaration a type gets, and where. `ofDescriptor_lowers` says that
  the two listings correspond item by item, with namespaces and without.
-/

namespace ProtoTypeScript

/-! ### Types that get a declaration -/

mutual

/-- The types of a message that get a declaration: its enums, those of the messages inside it, map
entries left out, then itself. -/
def MessageDescriptor.loweredTypes (enclosing : List String) :
    MessageDescriptor → List DeclaredType
  | ⟨name, fields, nested, enums, oneofs, deprecated, mapEntry⟩ =>
    (enums.map fun e => ⟨enclosing ++ [name], .enumeration e⟩) ++
      MessageDescriptor.listLoweredTypes (enclosing ++ [name]) nested ++
      [⟨enclosing, .message ⟨name, fields, nested, enums, oneofs, deprecated, mapEntry⟩⟩]

/-- The types of the messages inside a message that get a declaration. -/
def MessageDescriptor.listLoweredTypes (enclosing : List String) :
    List MessageDescriptor → List DeclaredType
  | [] => []
  | m :: ms =>
    if m.mapEntry then MessageDescriptor.listLoweredTypes enclosing ms
    else m.loweredTypes enclosing ++ MessageDescriptor.listLoweredTypes enclosing ms

end

/-- The types of a file that get a declaration. -/
def FileDescriptor.loweredTypes (f : FileDescriptor) : List DeclaredType :=
  (f.enums.map fun e => ⟨[], .enumeration e⟩) ++
    f.messages.flatMap (MessageDescriptor.loweredTypes [])

/-- Map entries stand inside messages and hold no types. -/
structure FileDescriptor.EntriesAreLeaves (f : FileDescriptor) : Prop where
  nested : ∀ m ∈ f.messages, m.mapEntry = false
  leaf : ∀ t ∈ f.types, ∀ m, t.descriptor = .message m → m.mapEntry = true →
    m.nested = [] ∧ m.enums = []

namespace MessageDescriptor

theorem listLoweredTypes_eq (enclosing : List String) (ms : List MessageDescriptor) :
    listLoweredTypes enclosing ms =
      (ms.filter fun m => !m.mapEntry).flatMap (loweredTypes enclosing) := by
  induction ms with
  | nil => rfl
  | cons m ms ih =>
    rw [listLoweredTypes, ih]
    cases hm : m.mapEntry with
    | true => rw [if_pos rfl, List.filter_cons_of_neg (by simp [hm])]
    | false => rw [if_neg (by simp), List.filter_cons_of_pos (by simp [hm]), List.flatMap_cons]

theorem loweredTypes_eq (enclosing : List String) (m : MessageDescriptor) :
    m.loweredTypes enclosing = (m.enums.map fun e => ⟨enclosing ++ [m.name], .enumeration e⟩) ++
      (m.nested.filter fun n => !n.mapEntry).flatMap (loweredTypes (enclosing ++ [m.name])) ++
      [⟨enclosing, .message m⟩] := by
  cases m
  rw [loweredTypes, listLoweredTypes_eq]

/-- Leaving out items and what becomes of them is leaving out what becomes of the items. -/
theorem flatMap_filter_perm {α β : Type} {keep : α → Bool} {p : β → Bool} {f g : α → List β}
    {xs : List α} (hkeep : ∀ x ∈ xs, keep x = true → (f x).Perm ((g x).filter p))
    (hdrop : ∀ x ∈ xs, keep x = false → (g x).filter p = []) :
    ((xs.filter keep).flatMap f).Perm ((xs.flatMap g).filter p) := by
  induction xs with
  | nil => exact .nil
  | cons x xs ih =>
    have hrest := ih (fun y hy => hkeep y (List.mem_cons_of_mem _ hy))
      (fun y hy => hdrop y (List.mem_cons_of_mem _ hy))
    rw [List.flatMap_cons, List.filter_append]
    cases hx : keep x with
    | true =>
      rw [List.filter_cons_of_pos hx, List.flatMap_cons]
      exact (hkeep x List.mem_cons_self hx).append hrest
    | false =>
      rw [List.filter_cons_of_neg (by simp [hx]), hdrop x List.mem_cons_self hx]
      exact hrest

theorem filter_enumerations (enclosing : List String) (es : List EnumDescriptor) :
    ((es.map fun e => (⟨enclosing, .enumeration e⟩ : DeclaredType)).filter fun t =>
      !t.descriptor.isMapEntry) = es.map fun e => ⟨enclosing, .enumeration e⟩ := by
  refine List.filter_eq_self.2 fun t ht => ?_
  obtain ⟨e, -, rfl⟩ := List.mem_map.1 ht
  rfl

theorem mem_types_self (enclosing : List String) (m : MessageDescriptor) :
    ⟨enclosing, .message m⟩ ∈ m.types enclosing := by
  rw [types_eq]
  exact List.mem_cons_self

/-- The types of a message get a declaration unless they are map entries, if these hold none. -/
theorem loweredTypes_perm (enclosing : List String) {m : MessageDescriptor}
    (hm : m.mapEntry = false)
    (hleaf : ∀ t ∈ m.types enclosing, ∀ n, t.descriptor = .message n → n.mapEntry = true →
      n.nested = [] ∧ n.enums = []) :
    (m.loweredTypes enclosing).Perm
      ((m.types enclosing).filter fun t => !t.descriptor.isMapEntry) := by
  induction m using MessageDescriptor.nestedInduction generalizing enclosing with
  | _ m ih =>
    rw [types_eq] at hleaf
    have hinside : ∀ n ∈ m.nested, ∀ t ∈ n.types (enclosing ++ [m.name]), ∀ k,
        t.descriptor = .message k → k.mapEntry = true → k.nested = [] ∧ k.enums = [] := by
      intro n hn t ht
      exact hleaf t (List.mem_cons_of_mem _ (List.mem_append_right _
        (List.mem_flatMap.2 ⟨n, hn, ht⟩)))
    have hkids : ((m.nested.filter fun n => !n.mapEntry).flatMap
        (loweredTypes (enclosing ++ [m.name]))).Perm
        ((m.nested.flatMap (types (enclosing ++ [m.name]))).filter fun t =>
          !t.descriptor.isMapEntry) := by
      refine flatMap_filter_perm (fun n hn hkeep => ?_) (fun n hn hdrop => ?_)
      · exact ih n hn _ (by simpa using hkeep) (hinside n hn)
      · have hentry : n.mapEntry = true := by simpa using hdrop
        obtain ⟨hnested, henums⟩ := hinside n hn _ (mem_types_self _ n) n rfl hentry
        rw [types_eq, hnested, henums]
        simp [TypeDescriptor.isMapEntry, hentry]
    rw [loweredTypes_eq, types_eq,
      List.filter_cons_of_pos (by simp [TypeDescriptor.isMapEntry, hm]), List.filter_append,
      filter_enumerations]
    -- the message itself is declared last and recorded first
    exact (List.perm_append_singleton _ _).trans ((hkids.append_left _).cons _)

end MessageDescriptor

/-- All types of a file but map entries get a declaration. -/
theorem FileDescriptor.loweredTypes_perm {f : FileDescriptor} (h : f.EntriesAreLeaves) :
    f.loweredTypes.Perm (f.types.filter fun t => !t.descriptor.isMapEntry) := by
  have hmessages : (f.messages.flatMap (MessageDescriptor.loweredTypes [])).Perm
      ((f.messages.flatMap (MessageDescriptor.types [])).filter fun t =>
        !t.descriptor.isMapEntry) := by
    rw [List.filter_flatMap]
    refine List.Perm.flatMap_left _ fun m hm => ?_
    refine MessageDescriptor.loweredTypes_perm [] (h.nested m hm) fun t ht => h.leaf t ?_
    exact List.mem_append_right _ (List.mem_flatMap.2 ⟨m, hm, ht⟩)
  rw [FileDescriptor.loweredTypes, FileDescriptor.types, List.filter_append,
    MessageDescriptor.filter_enumerations]
  exact hmessages.append_left _

theorem FileDescriptor.mem_loweredTypes_iff {f : FileDescriptor} (h : f.EntriesAreLeaves)
    {t : DeclaredType} :
    t ∈ f.loweredTypes ↔ t ∈ f.types ∧ t.descriptor.isMapEntry = false := by
  rw [(loweredTypes_perm h).mem_iff, List.mem_filter, Bool.not_eq_true']

/-! ### Declarations with their paths -/

/-- The names that lead into a namespace. -/
def namespaceSegments (name : String) : List String :=
  (Text.splitOn '.' name.toList).map String.ofList

mutual

/-- The enums and classes of a declaration that stands inside the namespaces `outer`, each with its
path; what is inside a class comes before it. -/
def Declaration.types (outer : List String) : Declaration → List (List String × Declaration)
  | .enumeration e => [(outer ++ [e.name], .enumeration e)]
  | .message m nested =>
    Declaration.listTypes (outer ++ [m.name]) nested ++ [(outer ++ [m.name], .message m nested)]
  | .namespaceBlock name body => Declaration.listTypes (outer ++ namespaceSegments name) body
  | .rpcInterfaces _ _ => []
  | .server _ => []
  | .client _ => []

/-- The enums and classes of declarations, one declaration after the other. -/
def Declaration.listTypes (outer : List String) :
    List Declaration → List (List String × Declaration)
  | [] => []
  | d :: ds => d.types outer ++ Declaration.listTypes outer ds

end

/-- The enums and classes of a tree with their paths from the top of the module. -/
def SourceFile.types (f : SourceFile) : List (List String × Declaration) :=
  Declaration.listTypes [] f.body

theorem Declaration.listTypes_eq (outer : List String) (ds : List Declaration) :
    Declaration.listTypes outer ds = ds.flatMap (Declaration.types outer) := by
  induction ds with
  | nil => rfl
  | cons d ds ih => rw [Declaration.listTypes, ih, List.flatMap_cons]

theorem Declaration.listTypes_append (outer : List String) (ds es : List Declaration) :
    Declaration.listTypes outer (ds ++ es) =
      Declaration.listTypes outer ds ++ Declaration.listTypes outer es := by
  rw [listTypes_eq, listTypes_eq, listTypes_eq, List.flatMap_append]

theorem Declaration.listTypes_flatten (outer : List String) (parts : List (List Declaration)) :
    Declaration.listTypes outer parts.flatten = parts.flatMap (Declaration.listTypes outer) := by
  induction parts with
  | nil => rfl
  | cons part parts ih => rw [List.flatten_cons, listTypes_append, ih, List.flatMap_cons]

/-! ### Which declaration a type gets -/

/-- Where the type of a path stands below the namespace of its package. -/
def Config.place (c : Config) (path : List String) : List String :=
  if c.noNamespace then [flatIdentifier path] else path

/-- The names that lead into the namespace of a file's package, if it has one. -/
def FileDescriptor.packageSegments (f : FileDescriptor) (c : Config) : List String :=
  if f.package = "" ∨ c.noNamespace then [] else namespaceSegments f.package

namespace FileScope

variable {s : FileScope}

/-- The declaration of a type, and its path below `outer`: an enum with the type's values, or a
class with its fields, which holds what is nested unless there are no namespaces. -/
def Lowers (s : FileScope) (outer : List String) (t : DeclaredType)
    (d : List String × Declaration) : Prop :=
  d.1 = outer ++ s.config.place t.path ∧
  match t.descriptor with
  | .enumeration e => d.2 = .enumeration (s.enumDeclaration t.enclosing e)
  | .message m => ∃ fields nested, m.fields.mapM s.fieldDeclaration = .ok fields ∧
      d.2 = .message (s.messageClass t.enclosing m fields) nested ∧
      (s.config.noNamespace = true → nested = [])

/-- The names that lead to the declarations inside the messages of `path`. -/
def nesting (s : FileScope) (path : List String) : List String :=
  if s.config.noNamespace then [] else path

theorem nesting_append_declarationName (path : List String) (name : String) :
    s.nesting path ++ [s.declarationName path name] = s.config.place (path ++ [name]) := by
  unfold nesting declarationName Config.place
  cases s.config.noNamespace with
  | false => simp
  | true =>
    by_cases hpath : path = []
    · simp [hpath, flatIdentifier]
    · simp [hpath]

theorem lowers_enums (outer path : List String) (es : List EnumDescriptor) :
    List.Forall₂ (s.Lowers outer) (es.map fun e => ⟨path, .enumeration e⟩)
      (Declaration.listTypes (outer ++ s.nesting path)
        (es.map fun e => .enumeration (s.enumDeclaration path e))) := by
  rw [Declaration.listTypes_eq, List.flatMap_map]
  induction es with
  | nil => exact .nil
  | cons e es ih =>
    refine .cons ⟨?_, rfl⟩ ih
    rw [List.append_assoc, FileScope.enumDeclaration, nesting_append_declarationName]
    rfl

/-- The declarations of a message are those of its types. -/
theorem messageDeclarations_lowers (outer : List String) {path : List String}
    {m : MessageDescriptor} {ds : List Declaration} (h : s.messageDeclarations path m = .ok ds) :
    List.Forall₂ (s.Lowers outer) (m.loweredTypes path)
      (Declaration.listTypes (outer ++ s.nesting path) ds) := by
  induction m using MessageDescriptor.nestedInduction generalizing path ds with
  | _ m ih =>
    obtain ⟨messages, fields, hmessages, hfields, rfl⟩ := messageDeclarations_eq_ok_iff.1 h
    obtain ⟨parts, hparts, rfl⟩ := nestedDeclarations_eq_ok_iff.1 hmessages
    have hnested : ∀ n part, n ∈ (m.nested.filter fun n => !n.mapEntry) ∧
        s.messageDeclarations (path ++ [m.name]) n = .ok part →
        List.Forall₂ (s.Lowers outer) (n.loweredTypes (path ++ [m.name]))
          (Declaration.listTypes (outer ++ s.nesting (path ++ [m.name])) part) :=
      fun n part hn => ih n (List.mem_filter.1 hn.1).1 hn.2
    have hinside : List.Forall₂ (s.Lowers outer)
        ((m.enums.map fun e => ⟨path ++ [m.name], .enumeration e⟩) ++
          (m.nested.filter fun n => !n.mapEntry).flatMap
            (MessageDescriptor.loweredTypes (path ++ [m.name])))
        (Declaration.listTypes (outer ++ s.nesting (path ++ [m.name]))
          ((m.enums.map fun e => .enumeration (s.enumDeclaration (path ++ [m.name]) e)) ++
            parts.flatten)) := by
      rw [Declaration.listTypes_append, Declaration.listTypes_flatten]
      refine List.rel_append (lowers_enums outer _ m.enums) ?_
      exact List.rel_flatMap ((List.forall₂_and_left _ _).2 ⟨fun n hn => hn, hparts⟩) hnested
    have hplace : s.nesting path ++ [(s.messageClass path m fields).name] =
        s.config.place (path ++ [m.name]) := nesting_append_declarationName path m.name
    rw [MessageDescriptor.loweredTypes_eq, placeNested]
    cases hflat : s.config.noNamespace with
    | true =>
      -- what is nested stands beside the class and in front of it
      rw [if_pos rfl, Declaration.listTypes_append]
      refine List.rel_append ?_ (.cons ⟨?_, fields, [], hfields, rfl, fun _ => rfl⟩ .nil)
      · simpa [nesting, hflat] using hinside
      · rw [List.append_assoc, hplace]
        rfl
    | false =>
      rw [if_neg (by simp), Declaration.listTypes, Declaration.types, Declaration.listTypes,
        List.append_nil, List.append_assoc outer, hplace]
      refine List.rel_append ?_ (.cons ⟨rfl, fields, _, hfields, rfl, by simp [hflat]⟩ .nil)
      simpa [nesting, Config.place, hflat] using hinside

/-- The enums and classes of a file's tree are the declarations of its types. -/
theorem typeDeclarations_lowers (outer : List String) {ds : List Declaration}
    (h : s.typeDeclarations = .ok ds) :
    List.Forall₂ (s.Lowers outer) s.file.loweredTypes (Declaration.listTypes outer ds) := by
  obtain ⟨parts, hparts, rfl⟩ := typeDeclarations_eq_ok_iff.1 h
  have hnesting : s.nesting [] = [] := by
    unfold nesting
    split_ifs <;> rfl
  have henums := s.lowers_enums outer [] s.file.enums
  rw [hnesting, List.append_nil] at henums
  rw [FileDescriptor.loweredTypes, Declaration.listTypes_append, Declaration.listTypes_flatten]
  refine List.rel_append henums (List.rel_flatMap hparts fun m part hpart => ?_)
  have hlowers := messageDeclarations_lowers outer hpart
  rwa [hnesting, List.append_nil] at hlowers

/-- Servers and clients declare no types. -/
theorem listTypes_rpcDeclarations (outer : List String) {runtimes : RpcRuntimes}
    {ds : List Declaration} (h : s.rpcDeclarations runtimes = .ok ds) :
    Declaration.listTypes outer ds = [] := by
  unfold rpcDeclarations at h
  split_ifs at h with hrpc
  · obtain ⟨services, -, rfl⟩ := serviceDeclarations_eq_ok_iff.1 h
    have hstubs : services.flatMap (fun service =>
        (s.stubs runtimes service).flatMap (Declaration.types outer)) = [] :=
      List.flatMap_eq_nil_iff.2 fun service _ => rfl
    rw [Declaration.listTypes, Declaration.types, List.nil_append, Declaration.listTypes_eq,
      List.flatMap_assoc, hstubs]
  · cases h
    rfl

end FileScope

/-- **The enums and classes of a tree are the declarations of the file's types**, item by item. -/
theorem SourceFile.ofDescriptor_lowers {config : Config} {table : TypeTable}
    {version : CompilerVersion} {file : FileDescriptor} {tree : SourceFile}
    (h : SourceFile.ofDescriptor config table version file = .ok tree) :
    List.Forall₂ ((FileScope.ofFile config table file).Lowers (file.packageSegments config))
      file.loweredTypes tree.types := by
  obtain ⟨types, services, htypes, hservices, rfl⟩ := SourceFile.ofDescriptor_eq_ok_iff.1 h
  -- services declare no types, and the namespace stands for the segments of the package
  have hbody : Declaration.listTypes []
      ((FileScope.ofFile config table file).inNamespace (types ++ services)) =
        Declaration.listTypes (file.packageSegments config) types := by
    have hservices := FileScope.listTypes_rpcDeclarations (file.packageSegments config) hservices
    rw [← List.append_nil (Declaration.listTypes _ types), ← hservices,
      ← Declaration.listTypes_append]
    unfold FileScope.inNamespace FileDescriptor.packageSegments
    split_ifs with hpackage hfile hfile
    · rfl
    · exact absurd hpackage hfile
    · exact absurd hfile hpackage
    · simp [Declaration.listTypes, Declaration.types, FileScope.ofFile]
  rw [SourceFile.types, hbody]
  exact FileScope.typeDeclarations_lowers _ htypes

section Declared

variable {config : Config} {table : TypeTable} {version : CompilerVersion} {file : FileDescriptor}
  {tree : SourceFile} (h : SourceFile.ofDescriptor config table version file = .ok tree)
  (hentries : file.EntriesAreLeaves) {t : DeclaredType} (ht : t ∈ file.types)

include h hentries ht

/-- A type of the file has a declaration in the tree, unless it is a map entry. -/
theorem SourceFile.exists_lowers (hentry : t.descriptor.isMapEntry = false) :
    ∃ d ∈ tree.types,
      (FileScope.ofFile config table file).Lowers (file.packageSegments config) t d :=
  Outcome.exists_of_mem_left (SourceFile.ofDescriptor_lowers h)
    ((FileDescriptor.mem_loweredTypes_iff hentries).2 ⟨ht, hentry⟩)

/-- A message of the file has a class in the tree, unless it is a map entry. -/
theorem SourceFile.exists_class {m : MessageDescriptor} (hdescriptor : t.descriptor = .message m)
    (hm : m.mapEntry = false) : ∃ fields nested,
      (file.packageSegments config ++ config.place t.path, Declaration.message
        ((FileScope.ofFile config table file).messageClass t.enclosing m fields) nested) ∈
          tree.types ∧
      m.fields.mapM (FileScope.ofFile config table file).fieldDeclaration = .ok fields := by
  have hentry : t.descriptor.isMapEntry = false := by
    rw [hdescriptor]
    exact hm
  obtain ⟨⟨path, declaration⟩, hd, hpath, hlowers⟩ := exists_lowers h hentries ht hentry
  rw [hdescriptor] at hlowers
  obtain ⟨fields, nested, hfields, hclass, -⟩ := hlowers
  dsimp only at hpath hclass
  exact ⟨fields, nested, hclass ▸ hpath ▸ hd, hfields⟩

end Declared

/-- With namespaces the declarations of a tree have distinct paths. -/
theorem SourceFile.ofDescriptor_nodup {config : Config} {table : TypeTable}
    {version : CompilerVersion} {file : FileDescriptor} {tree : SourceFile}
    (h : SourceFile.ofDescriptor config table version file = .ok tree)
    (hnested : config.noNamespace = false) (hown : file.typeNames.Nodup)
    (hentries : file.EntriesAreLeaves) : (tree.types.map (·.1)).Nodup := by
  have hpaths : tree.types.map (·.1) =
      (file.loweredTypes.map DeclaredType.path).map (file.packageSegments config ++ ·) := by
    rw [List.map_map]
    refine Outcome.map_eq_map_of_forall₂ (ofDescriptor_lowers h) fun t d hd => ?_
    simp [hd.1, FileScope.ofFile, Config.place, hnested]
  rw [hpaths]
  refine List.Nodup.map (List.append_right_injective _) ?_
  refine ((FileDescriptor.loweredTypes_perm hentries).map _).nodup_iff.2 ?_
  exact (FileDescriptor.nodup_paths hown).sublist (List.filter_sublist.map _)

end ProtoTypeScript
