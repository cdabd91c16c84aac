import Mathlib.Data.List.Infix
import ProtoTypeScript.Proofs.LoweredTypes

/-!
# Names in scope

How TypeScript finds what a dotted expression stands for: the first name is looked up in the
innermost block around the expression that declares it, the others are members of what is found.

* `SourceFile.declaredPaths` lists the classes, enums and namespaces of a tree by their paths from
  the top of the module; `declaredPaths_closed` says that each stands in blocks that are listed too;
* `SourceFile.resolve?` is the lookup of an expression from a place in the tree, and
  `resolve?_cons_eq_some_iff` says what it finds;
* `mem_declaredPaths_iff`: below the namespace of the package and what stands directly in it, a tree
  declares the types of its file and nothing else.
-/

namespace ProtoTypeScript

open Outcome

/-! ### What is declared where -/

/-- The paths of blocks one inside the other, the first of them inside the namespaces `outer`. -/
def blockPaths (outer segments : List String) : List (List String) :=
  (segments.inits.filter (· ≠ [])).map (outer ++ ·)

mutual

/-- The paths of what a declaration inside the namespaces `outer` declares: classes, enums and
namespaces. Interfaces are neither. -/
def Declaration.declaredPaths (outer : List String) : Declaration → List (List String)
  | .enumeration e => [outer ++ [e.name]]
  | .message m nested =>
    (outer ++ [m.name]) :: Declaration.listDeclaredPaths (outer ++ [m.name]) nested
  | .namespaceBlock name body =>
    blockPaths outer (namespaceSegments name) ++
      Declaration.listDeclaredPaths (outer ++ namespaceSegments name) body
  | .rpcInterfaces _ _ => []
  | .server stub => [outer ++ [stub.name]]
  | .client stub => [outer ++ [stub.name]]

/-- The paths of what declarations declare, one declaration after the other. -/
def Declaration.listDeclaredPaths (outer : List String) : List Declaration → List (List String)
  | [] => []
  | d :: ds => d.declaredPaths outer ++ Declaration.listDeclaredPaths outer ds

end

/-- The paths of the classes, enums and namespaces of a tree. -/
def SourceFile.declaredPaths (f : SourceFile) : List (List String) :=
  Declaration.listDeclaredPaths [] f.body

theorem mem_blockPaths {outer segments path : List String} :
    path ∈ blockPaths outer segments ↔ ∃ on, on ≠ [] ∧ on <+: segments ∧ path = outer ++ on := by
  simp only [blockPaths, List.mem_map, List.mem_filter, List.mem_inits, decide_eq_true_eq]
  constructor
  · rintro ⟨on, ⟨hon, hne⟩, rfl⟩
    exact ⟨on, hne, hon, rfl⟩
  · rintro ⟨on, hne, hon, rfl⟩
    exact ⟨on, ⟨hon, hne⟩, rfl⟩

theorem blockPaths_singleton (outer : List String) (name : String) :
    blockPaths outer [name] = [outer ++ [name]] := by
  simp [blockPaths]

namespace Declaration

theorem listDeclaredPaths_eq (outer : List String) (ds : List Declaration) :
    listDeclaredPaths outer ds = ds.flatMap (declaredPaths outer) := by
  induction ds with
  | nil => rfl
  | cons d ds ih => rw [listDeclaredPaths, ih, List.flatMap_cons]

theorem listDeclaredPaths_append (outer : List String) (ds es : List Declaration) :
    listDeclaredPaths outer (ds ++ es) =
      listDeclaredPaths outer ds ++ listDeclaredPaths outer es := by
  rw [listDeclaredPaths_eq, listDeclaredPaths_eq, listDeclaredPaths_eq, List.flatMap_append]

end Declaration

/-! ### Blocks are declared with what they hold -/

/-- Each of the paths goes on after `outer`, and what it leads through on its way is listed too. -/
def PrefixClosed (outer : List String) (paths : List (List String)) : Prop :=
  ∀ path ∈ paths, ∃ below, below ≠ [] ∧ path = outer ++ below ∧
    ∀ on, on ≠ [] → on <+: below → outer ++ on ∈ paths

namespace PrefixClosed

variable {outer : List String} {paths paths' : List (List String)}

theorem nil : PrefixClosed outer [] :=
  fun _ h => absurd h List.not_mem_nil

theorem append (h : PrefixClosed outer paths) (h' : PrefixClosed outer paths') :
    PrefixClosed outer (paths ++ paths') := by
  intro path hpath
  rcases List.mem_append.1 hpath with hpath | hpath
  · obtain ⟨below, hne, hbelow, hon⟩ := h path hpath
    exact ⟨below, hne, hbelow, fun on hne hprefix => List.mem_append_left _ (hon on hne hprefix)⟩
  · obtain ⟨below, hne, hbelow, hon⟩ := h' path hpath
    exact ⟨below, hne, hbelow, fun on hne hprefix => List.mem_append_right _ (hon on hne hprefix)⟩

/-- Blocks one inside the other, and what the innermost holds. -/
theorem inside {segments : List String} (h : PrefixClosed (outer ++ segments) paths) :
    PrefixClosed outer (blockPaths outer segments ++ paths) := by
  intro path hpath
  rcases List.mem_append.1 hpath with hpath | hpath
  · obtain ⟨below, hne, hbelow, rfl⟩ := mem_blockPaths.1 hpath
    refine ⟨below, hne, rfl, fun on hne hon => List.mem_append_left _ ?_⟩
    exact mem_blockPaths.2 ⟨on, hne, hon.trans hbelow, rfl⟩
  · obtain ⟨below, hne, rfl, hinside⟩ := h path hpath
    refine ⟨segments ++ below, by simp [hne], List.append_assoc _ _ _, fun on hon hprefix => ?_⟩
    -- the way leads to one of the blocks or goes on inside the innermost
    by_cases hblock : on <+: segments
    · exact List.mem_append_left _ (mem_blockPaths.2 ⟨on, hon, hblock, rfl⟩)
    · obtain ⟨rest, rfl⟩ := (List.prefix_or_prefix_of_prefix hprefix
        (List.prefix_append segments below)).resolve_left hblock
      have hrest : rest ≠ [] := by
        rintro rfl
        exact hblock (by rw [List.append_nil])
      refine List.mem_append_right _ ?_
      rw [← List.append_assoc]
      exact hinside rest hrest ((List.prefix_append_right_inj segments).1 hprefix)

theorem singleton (outer : List String) (name : String) : PrefixClosed outer [outer ++ [name]] := by
  rw [← blockPaths_singleton, ← List.append_nil (blockPaths outer [name])]
  exact inside nil

end PrefixClosed

mutual

theorem Declaration.declaredPaths_closed :
    ∀ (d : Declaration) (outer : List String), PrefixClosed outer (d.declaredPaths outer)
  | .enumeration e, outer => .singleton outer e.name
  | .message m nested, outer => by
    rw [Declaration.declaredPaths, ← List.singleton_append, ← blockPaths_singleton]
    exact .inside (Declaration.listDeclaredPaths_closed nested _)
  | .namespaceBlock name body, outer =>
    .inside (Declaration.listDeclaredPaths_closed body _)
  | .rpcInterfaces _ _, _ => .nil
  | .server stub, outer => .singleton outer stub.name
  | .client stub, outer => .singleton outer stub.name

theorem Declaration.listDeclaredPaths_closed :
    ∀ (ds : List Declaration) (outer : List String),
      PrefixClosed outer (Declaration.listDeclaredPaths outer ds)
  | [], _ => .nil
  | d :: ds, outer =>
    (Declaration.declaredPaths_closed d outer).append
      (Declaration.listDeclaredPaths_closed ds outer)

end

namespace SourceFile

variable {f : SourceFile}

/-- What stands in a block is declared together with the block. -/
theorem mem_declaredPaths_of_append {path rest : List String} (hne : path ≠ [])
    (h : path ++ rest ∈ f.declaredPaths) : path ∈ f.declaredPaths := by
  obtain ⟨below, -, hbelow, hon⟩ := Declaration.listDeclaredPaths_closed f.body [] _ h
  rw [List.nil_append] at hbelow
  exact hon path hne (hbelow ▸ List.prefix_append path rest)

end SourceFile

/-! ### Lookup -/

theorem inits_append_singleton {α : Type} (xs : List α) (x : α) :
    (xs ++ [x]).inits.reverse = (xs ++ [x]) :: xs.inits.reverse := by
  simp [List.inits_append]

/-- The first prefix from the longest on that has a property is the longest that has it. -/
theorem find?_reverse_inits_eq_some_iff {α : Type} {p : List α → Bool} {xs block : List α} :
    xs.inits.reverse.find? p = some block ↔ block <+: xs ∧ p block = true ∧
      ∀ inner, inner <+: xs → block.length < inner.length → p inner = false := by
  induction xs using List.reverseRecOn with
  | nil =>
    rw [List.inits, List.reverse_singleton, List.find?_singleton, List.prefix_nil]
    constructor
    · intro h
      split_ifs at h with hp
      cases h
      exact ⟨rfl, hp, fun inner hinner hlength => by simp [List.prefix_nil.1 hinner] at hlength⟩
    · rintro ⟨rfl, hp, -⟩
      exact if_pos hp
  | append_singleton xs x ih =>
    -- the whole list is the first of the prefixes, and the others are those of `xs`
    rw [inits_append_singleton, List.find?_cons]
    cases hp : p (xs ++ [x]) with
    | true =>
      simp only [Option.some.injEq]
      constructor
      · rintro rfl
        refine ⟨List.prefix_rfl, hp, fun inner hinner hlength => ?_⟩
        exact absurd hinner.length_le (by omega)
      · rintro ⟨hblock, -, hinner⟩
        by_contra hne
        have hlength : block.length < (xs ++ [x]).length :=
          lt_of_le_of_ne hblock.length_le fun h => hne (hblock.eq_of_length h).symm
        rw [hinner _ List.prefix_rfl hlength] at hp
        cases hp
    | false =>
      simp only [ih, List.prefix_concat_iff]
      constructor
      · rintro ⟨hblock, hpblock, hinner⟩
        refine ⟨Or.inr hblock, hpblock, fun inner hprefix hlength => ?_⟩
        rcases hprefix with rfl | hprefix
        · exact hp
        · exact hinner inner hprefix hlength
      · rintro ⟨rfl | hblock, hpblock, hinner⟩
        · rw [hp] at hpblock
          cases hpblock
        · exact ⟨hblock, hpblock, fun inner hprefix => hinner inner (Or.inr hprefix)⟩

namespace SourceFile

variable {f : SourceFile}

/-- The innermost of the blocks around a place that declares the name. -/
def blockOf? (f : SourceFile) (place : List String) (name : String) : Option (List String) :=
  place.inits.reverse.find? fun block => block ++ [name] ∈ f.declaredPaths

/-- What names lead to from a declaration, each a member of the one before. -/
def member? (f : SourceFile) (path : List String) : List String → Option (List String)
  | [] => some path
  | name :: rest =>
    if path ++ [name] ∈ f.declaredPaths then f.member? (path ++ [name]) rest else none

/-- What a dotted expression stands for at a place: its first name is looked up from the inside
out, and the others are members. -/
def resolve? (f : SourceFile) (place : List String) : List String → Option (List String)
  | [] => none
  | name :: rest => (f.blockOf? place name).bind fun block => f.member? (block ++ [name]) rest

theorem blockOf?_eq_some_iff {place block : List String} {name : String} :
    f.blockOf? place name = some block ↔ block <+: place ∧ block ++ [name] ∈ f.declaredPaths ∧
      ∀ inner, inner <+: place → block.length < inner.length →
        inner ++ [name] ∉ f.declaredPaths := by
  simp only [blockOf?, find?_reverse_inits_eq_some_iff, decide_eq_true_eq, decide_eq_false_iff_not]

/-- Members are found where the whole path is declared. -/
theorem member?_eq_some_iff {path rest result : List String} (hpath : path ∈ f.declaredPaths) :
    f.member? path rest = some result ↔ result = path ++ rest ∧ result ∈ f.declaredPaths := by
  induction rest generalizing path with
  | nil =>
    rw [member?, Option.some.injEq, List.append_nil]
    constructor
    · rintro rfl
      exact ⟨rfl, hpath⟩
    · rintro ⟨rfl, -⟩
      rfl
  | cons name rest ih =>
    rw [member?]
    split_ifs with hname
    · rw [ih hname, List.append_assoc, List.singleton_append]
    · refine iff_of_false (by simp) ?_
      rintro ⟨rfl, hresult⟩
      rw [List.append_cons] at hresult
      exact hname (mem_declaredPaths_of_append (by simp) hresult)

/-- An expression stands for the path that it continues from the block that declares its first
name, if there is such a path. -/
theorem resolve?_cons_eq_some_iff {place rest result : List String} {name : String} :
    f.resolve? place (name :: rest) = some result ↔ ∃ block,
      f.blockOf? place name = some block ∧ result = block ++ name :: rest ∧
        result ∈ f.declaredPaths := by
  rw [resolve?, Option.bind_eq_some_iff]
  constructor
  · rintro ⟨block, hblock, hmember⟩
    rw [member?_eq_some_iff (blockOf?_eq_some_iff.1 hblock).2.1] at hmember
    rw [List.append_assoc, List.singleton_append] at hmember
    exact ⟨block, hblock, hmember⟩
  · rintro ⟨block, hblock, hresult, hdeclared⟩
    refine ⟨block, hblock, ?_⟩
    rw [member?_eq_some_iff (blockOf?_eq_some_iff.1 hblock).2.1, List.append_assoc,
      List.singleton_append]
    exact ⟨hresult, hdeclared⟩

end SourceFile

/-! ### What the tree of a file declares -/

/-- An enum, or a class with nothing but enums and classes inside. -/
inductive Declaration.IsType : Declaration → Prop
  | enumeration (e : EnumDeclaration) : IsType (.enumeration e)
  | message (m : MessageClass) {nested : List Declaration} (h : ∀ d ∈ nested, d.IsType) :
      IsType (.message m nested)

namespace Declaration

/-- Enums and classes declare their own paths and those of what is inside them. -/
theorem IsType.mem_declaredPaths_iff {d : Declaration} (h : d.IsType) {outer path : List String} :
    path ∈ d.declaredPaths outer ↔ path ∈ (d.types outer).map (·.1) := by
  induction h generalizing outer with
  | enumeration e => rfl
  | message m _ ih =>
    rw [declaredPaths, types, List.mem_cons, listDeclaredPaths_eq, listTypes_eq, List.map_append,
      List.mem_append, List.map_flatMap, List.mem_flatMap, List.mem_flatMap, or_comm]
    refine or_congr ?_ (by simp)
    exact exists_congr fun d => and_congr_right fun hd => ih d hd

theorem mem_listDeclaredPaths_iff {ds : List Declaration} (h : ∀ d ∈ ds, d.IsType)
    {outer path : List String} :
    path ∈ listDeclaredPaths outer ds ↔ path ∈ (listTypes outer ds).map (·.1) := by
  rw [listDeclaredPaths_eq, listTypes_eq, List.map_flatMap, List.mem_flatMap, List.mem_flatMap]
  exact exists_congr fun d => and_congr_right fun hd => (h d hd).mem_declaredPaths_iff

end Declaration

namespace FileScope

variable {s : FileScope}

theorem IsTypeDeclaration.isType {d : Declaration} (h : s.IsTypeDeclaration d) : d.IsType := by
  induction h with
  | enumeration path e => exact .enumeration _
  | message path m fields _ _ ih => exact .message _ ih

theorem isType_typeDeclarations {ds : List Declaration} (h : s.typeDeclarations = .ok ds) :
    ∀ d ∈ ds, d.IsType :=
  fun d hd => (isTypeDeclaration_of_typeDeclarations h d hd).isType

/-- With namespaces, the types of a file are declared at their paths. -/
theorem mem_listDeclaredPaths_typeDeclarations (hnested : s.config.noNamespace = false)
    {ds : List Declaration} (h : s.typeDeclarations = .ok ds) {outer path : List String} :
    path ∈ Declaration.listDeclaredPaths outer ds ↔
      ∃ t ∈ s.file.loweredTypes, outer ++ t.path = path := by
  have hpaths : (Declaration.listTypes outer ds).map (·.1) =
      s.file.loweredTypes.map fun t => outer ++ t.path := by
    refine map_eq_map_of_forall₂ (typeDeclarations_lowers outer h) fun t d hd => ?_
    simp [hd.1, Config.place, hnested]
  rw [Declaration.mem_listDeclaredPaths_iff (isType_typeDeclarations h), hpaths, List.mem_map]

/-- Servers and clients are declared directly in their block. -/
theorem length_of_mem_rpcDeclarations {runtimes : RpcRuntimes} {ds : List Declaration}
    (h : s.rpcDeclarations runtimes = .ok ds) {outer path : List String}
    (hpath : path ∈ Declaration.listDeclaredPaths outer ds) :
    path.length = outer.length + 1 := by
  unfold rpcDeclarations at h
  split_ifs at h
  · obtain ⟨services, -, rfl⟩ := serviceDeclarations_eq_ok_iff.1 h
    rw [Declaration.listDeclaredPaths, Declaration.declaredPaths, List.nil_append,
      Declaration.listDeclaredPaths_eq, List.flatMap_assoc] at hpath
    obtain ⟨service, -, hpath⟩ := List.mem_flatMap.1 hpath
    simp only [stubs, List.flatMap_cons, List.flatMap_nil, Declaration.declaredPaths,
      List.append_nil, List.cons_append, List.nil_append, List.mem_pair] at hpath
    rcases hpath with rfl | rfl <;> simp
  · cases h
    exact absurd hpath List.not_mem_nil

end FileScope

namespace SourceFile

variable {config : Config} {table : TypeTable} {version : CompilerVersion} {file : FileDescriptor}
  {tree : SourceFile}

theorem declaredPaths_eq (h : SourceFile.ofDescriptor config table version file = .ok tree) :
    ∃ types services, (FileScope.ofFile config table file).typeDeclarations = .ok types ∧
      (FileScope.ofFile config table file).rpcDeclarations AliasScope.forFile.2.1 = .ok services ∧
      tree.declaredPaths = blockPaths [] (file.packageSegments config) ++
        (Declaration.listDeclaredPaths (file.packageSegments config) types ++
          Declaration.listDeclaredPaths (file.packageSegments config) services) := by
  obtain ⟨types, services, htypes, hservices, rfl⟩ := ofDescriptor_eq_ok_iff.1 h
  refine ⟨types, services, htypes, hservices, ?_⟩
  rw [← Declaration.listDeclaredPaths_append, declaredPaths]
  unfold FileScope.inNamespace FileDescriptor.packageSegments
  split_ifs with hpackage hfile hfile
  · rfl
  · exact absurd hpackage hfile
  · exact absurd hfile hpackage
  · simp [Declaration.listDeclaredPaths, Declaration.declaredPaths, FileScope.ofFile]

/-- A type that gets a declaration is declared at its path. -/
theorem mem_declaredPaths_of_mem (hnested : config.noNamespace = false)
    (h : SourceFile.ofDescriptor config table version file = .ok tree) {t : DeclaredType}
    (ht : t ∈ file.loweredTypes) :
    file.packageSegments config ++ t.path ∈ tree.declaredPaths := by
  obtain ⟨types, services, htypes, -, hpaths⟩ := declaredPaths_eq h
  rw [hpaths]
  refine List.mem_append_right _ (List.mem_append_left _ ?_)
  exact (FileScope.mem_listDeclaredPaths_typeDeclarations hnested htypes).2 ⟨t, ht, rfl⟩

/-- Below what stands directly in the namespace of the package, nothing but types is declared. -/
theorem mem_declaredPaths_iff (hnested : config.noNamespace = false)
    (h : SourceFile.ofDescriptor config table version file = .ok tree) {below : List String}
    (hdeep : 2 ≤ below.length) :
    file.packageSegments config ++ below ∈ tree.declaredPaths ↔
      ∃ t ∈ file.loweredTypes, t.path = below := by
  refine ⟨fun hmem => ?_, ?_⟩
  · obtain ⟨types, services, htypes, hservices, hpaths⟩ := declaredPaths_eq h
    rw [hpaths, List.mem_append, List.mem_append] at hmem
    rcases hmem with hblock | htype | hservice
    · obtain ⟨on, -, hon, hbelow⟩ := mem_blockPaths.1 hblock
      -- blocks lie on the way to the package, too high for a path of two names below it
      have hlength := hon.length_le
      rw [List.nil_append] at hbelow
      rw [← hbelow, List.length_append] at hlength
      omega
    · obtain ⟨t, ht, hpath⟩ :=
        (FileScope.mem_listDeclaredPaths_typeDeclarations hnested htypes).1 htype
      exact ⟨t, ht, List.append_cancel_left hpath⟩
    · -- servers and clients lie one name below it
      have hlength := FileScope.length_of_mem_rpcDeclarations hservices hservice
      rw [List.length_append] at hlength
      omega
  · rintro ⟨t, ht, rfl⟩
    exact mem_declaredPaths_of_mem hnested h ht

end SourceFile

end ProtoTypeScript
