import Mathlib.Data.List.Basic
import ProtoTypeScript.ModulePath

/-!
# Paths between modules

A segment of a path is a name, or says to stay (`.` or nothing) or to climb (`..`). In a normal path
no segment says to stay, and names come after climbs.

* `isNormal_resolve` and `resolve_of_isNormal`: resolved paths are the normal ones;
* `resolve_directory_append_relativeSegments`: a relative path leads from the directory of the
  importer to the module;
* `joined_specifier`: so does the specifier that the importer writes, read off the texts.
-/

namespace ProtoTypeScript.ModulePath

/-- The segments of a path. -/
def segmentsOf (path : String) : List String :=
  (Text.splitOn '/' path.toList).map String.ofList

/-- The path of a specifier in a file: joined to the file's directory, and resolved. -/
def joined (fileName specifier : String) : String :=
  Text.joinWith "/" (resolve ((segmentsOf fileName).dropLast ++ segmentsOf specifier))

/-- The segment is the name of a directory or a file. -/
def IsName (segment : String) : Prop :=
  segment ≠ "" ∧ segment ≠ "." ∧ segment ≠ ".."

/-- Climbs come first, and then there are names only. -/
def IsNormal (segments : List String) : Prop :=
  ∃ climbs names, segments = List.replicate climbs ".." ++ names ∧ ∀ s ∈ names, IsName s

/-! ### The stack -/

theorem push_of_stay {segment : String} (h : segment = "" ∨ segment = ".") (stack : List String) :
    push stack segment = stack := by
  unfold push
  rw [if_pos h]

theorem push_of_isName {segment : String} (h : IsName segment) (stack : List String) :
    push stack segment = segment :: stack := by
  obtain ⟨hempty, hpoint, hclimb⟩ := h
  unfold push
  rw [if_neg (by simp [hempty, hpoint]), if_neg hclimb]

theorem push_climb_of_isName {name : String} (h : IsName name) (stack : List String) :
    push (name :: stack) ".." = stack := by
  unfold push
  rw [if_neg (by decide), if_pos rfl]
  exact if_neg h.2.2

theorem push_climb_replicate (n : ℕ) :
    push (List.replicate n "..") ".." = List.replicate (n + 1) ".." := by
  unfold push
  rw [if_neg (by decide), if_pos rfl]
  cases n <;> rfl

theorem mem_push {stack : List String} {segment s : String} (h : s ∈ push stack segment) :
    s ∈ stack ∨ s = segment := by
  unfold push at h
  split_ifs at h with hstay hclimb
  · exact Or.inl h
  · cases stack with
    | nil => exact Or.inr (hclimb ▸ List.mem_singleton.1 h)
    | cons last rest =>
      dsimp only at h
      split_ifs at h with hlast
      · exact (List.mem_cons.1 h).symm.imp_right fun hs => hs.trans hclimb.symm
      · exact Or.inl (List.mem_cons_of_mem _ h)
  · exact (List.mem_cons.1 h).symm

/-- The stack holds a normal path, the last segment first. -/
theorem isNormal_reverse_push {stack : List String} (h : IsNormal stack.reverse)
    (segment : String) : IsNormal (push stack segment).reverse := by
  obtain ⟨climbs, names, hstack, hnames⟩ := h
  have hstack' : stack = names.reverse ++ List.replicate climbs ".." := by
    rw [← List.reverse_reverse stack, hstack]
    simp
  by_cases hstay : segment = "" ∨ segment = "."
  · rw [push_of_stay hstay]
    exact ⟨climbs, names, hstack, hnames⟩
  · rw [not_or] at hstay
    by_cases hclimb : segment = ".."
    · subst hclimb
      -- a climb undoes the last name, and adds to the climbs if there is none
      rcases List.eq_nil_or_concat names with rfl | ⟨init, last, rfl⟩
      · rw [hstack', List.reverse_nil, List.nil_append, push_climb_replicate]
        exact ⟨climbs + 1, [], by simp, by simp⟩
      · have hlast := hnames last (by simp)
        rw [hstack', List.concat_eq_append, List.reverse_append, List.reverse_singleton,
          List.singleton_append, List.cons_append, push_climb_of_isName hlast]
        exact ⟨climbs, init, by simp, fun s hs => hnames s (by simp [hs])⟩
    · have hname : IsName segment := ⟨hstay.1, hstay.2, hclimb⟩
      rw [push_of_isName hname, List.reverse_cons, hstack, List.append_assoc]
      refine ⟨climbs, names ++ [segment], rfl, fun s hs => ?_⟩
      rcases List.mem_append.1 hs with hs | hs
      · exact hnames s hs
      · exact List.mem_singleton.1 hs ▸ hname

theorem foldl_push_names {names : List String} (h : ∀ s ∈ names, IsName s) (stack : List String) :
    names.foldl push stack = names.reverse ++ stack := by
  induction names generalizing stack with
  | nil => rfl
  | cons name names ih =>
    rw [List.foldl_cons, push_of_isName (h name List.mem_cons_self),
      ih fun s hs => h s (List.mem_cons_of_mem _ hs)]
    simp

/-- As many climbs as names lead back. -/
theorem foldl_push_climbs {names : List String} (h : ∀ s ∈ names, IsName s) (stack : List String) :
    (List.replicate names.length "..").foldl push (names ++ stack) = stack := by
  induction names with
  | nil => rfl
  | cons name names ih =>
    rw [List.length_cons, List.replicate_succ, List.foldl_cons, List.cons_append,
      push_climb_of_isName (h name List.mem_cons_self)]
    exact ih fun s hs => h s (List.mem_cons_of_mem _ hs)

theorem foldl_push_replicate (n : ℕ) :
    (List.replicate n "..").foldl push [] = List.replicate n ".." := by
  induction n with
  | zero => rfl
  | succ n ih =>
    rw [List.replicate_succ', List.foldl_append, ih, List.foldl_cons, List.foldl_nil,
      push_climb_replicate, List.replicate_succ']

/-! ### Normal paths -/

theorem isNormal_resolve (segments : List String) : IsNormal (resolve segments) := by
  have haux : ∀ stack : List String, IsNormal stack.reverse →
      IsNormal (segments.foldl push stack).reverse := by
    induction segments with
    | nil => exact fun stack h => h
    | cons segment segments ih => exact fun stack h => ih _ (isNormal_reverse_push h segment)
  exact haux [] ⟨0, [], rfl, by simp⟩

theorem resolve_of_isNormal {segments : List String} (h : IsNormal segments) :
    resolve segments = segments := by
  obtain ⟨climbs, names, rfl, hnames⟩ := h
  rw [resolve, List.foldl_append, foldl_push_replicate, foldl_push_names hnames]
  simp

theorem mem_of_mem_resolve {segments : List String} {s : String} (h : s ∈ resolve segments) :
    s ∈ segments := by
  have haux : ∀ stack : List String, s ∈ segments.foldl push stack → s ∈ stack ∨ s ∈ segments := by
    clear h
    induction segments with
    | nil => exact fun stack h => Or.inl h
    | cons segment segments ih =>
      intro stack h
      rcases ih _ h with h | h
      · rcases mem_push h with h | rfl
        · exact Or.inl h
        · exact Or.inr List.mem_cons_self
      · exact Or.inr (List.mem_cons_of_mem _ h)
  exact (haux [] (List.mem_reverse.1 h)).resolve_left List.not_mem_nil

theorem IsNormal.isName_of_ne {segments : List String} (h : IsNormal segments) {s : String}
    (hs : s ∈ segments) (hne : s ≠ "..") : IsName s := by
  obtain ⟨climbs, names, rfl, hnames⟩ := h
  rcases List.mem_append.1 hs with hs | hs
  · exact absurd (List.mem_replicate.1 hs).2 hne
  · exact hnames s hs

theorem IsNormal.isName {segments : List String} (h : IsNormal segments) (hclimb : ".." ∉ segments)
    {s : String} (hs : s ∈ segments) : IsName s :=
  h.isName_of_ne hs fun heq => hclimb (heq ▸ hs)

theorem isNormal_ofFile (path : String) : IsNormal (ofFile path).segments :=
  isNormal_resolve _

theorem slash_notMem_ofFile {path s : String} (h : s ∈ (ofFile path).segments) :
    '/' ∉ s.toList := by
  obtain ⟨part, hpart, rfl⟩ := List.mem_map.1 (mem_of_mem_resolve h)
  rw [String.toList_ofList]
  exact Text.notMem_of_mem_splitOn hpart

theorem segmentsOf_joinWith {segments : List String} (h : ∀ s ∈ segments, '/' ∉ s.toList)
    (hne : segments ≠ []) : segmentsOf (Text.joinWith "/" segments) = segments := by
  rw [segmentsOf, Text.splitOn_joinWith rfl h hne, List.map_map]
  simp [Function.comp_def]

/-! ### Relative paths -/

variable {m importer : ModulePath}

/-- A module's relative path leads to it from the directory of the importer. -/
theorem resolve_directory_append_relativeSegments (himporter : ∀ s ∈ importer.segments, IsName s)
    (hm : IsNormal m.segments) :
    resolve (importer.directory ++ m.relativeSegments importer) = m.segments := by
  have hdirectory : ∀ s ∈ importer.directory, IsName s := fun s hs =>
    himporter s (List.dropLast_subset _ hs)
  unfold relativeSegments
  dsimp only
  have hle := commonLength_le_right importer.directory m.directory
  have hcommon := take_commonLength importer.directory m.directory
  generalize commonLength importer.directory m.directory = common at hle hcommon ⊢
  -- the climbs undo what is left of the directory after the common part
  have hclimbs : (List.replicate (importer.directory.length - common) "..").foldl push
      (importer.directory.foldl push []) = (importer.directory.take common).reverse := by
    have hrest : ∀ s ∈ (importer.directory.drop common).reverse, IsName s := fun s hs =>
      hdirectory s (List.mem_of_mem_drop (List.mem_reverse.1 hs))
    have hlength : importer.directory.length - common =
        (importer.directory.drop common).reverse.length := by simp
    rw [foldl_push_names hdirectory, List.append_nil, hlength]
    conv_lhs => rw [← List.take_append_drop common importer.directory]
    rw [List.reverse_append]
    simpa using foldl_push_climbs hrest (importer.directory.take common).reverse
  -- which is then the beginning of the module's path, all names
  have hshared : importer.directory.take common = m.segments.take common := by
    rw [hcommon, directory, List.dropLast_eq_take, List.take_take, Nat.min_eq_left]
    rwa [directory, List.length_dropLast] at hle
  have hnames : ∀ s ∈ m.segments.take common, IsName s := fun s hs =>
    hdirectory s (List.mem_of_mem_take (hshared ▸ hs))
  have hstart : (importer.directory.take common).reverse =
      (m.segments.take common).foldl push [] := by
    rw [hshared, foldl_push_names hnames, List.append_nil]
  rw [resolve, List.foldl_append, List.foldl_append, hclimbs, hstart, ← List.foldl_append,
    List.take_append_drop]
  exact resolve_of_isNormal hm

theorem slash_notMem_relativeSegments (h : ∀ s ∈ m.segments, '/' ∉ s.toList) {s : String}
    (hs : s ∈ m.relativeSegments importer) : '/' ∉ s.toList := by
  rcases List.mem_append.1 hs with hs | hs
  · rw [(List.mem_replicate.1 hs).2]
    decide
  · exact h s (List.mem_of_mem_drop hs)

/-- The point in front of a specifier says to stay. -/
theorem resolve_append_specifier (h : ∀ s ∈ m.segments, '/' ∉ s.toList) (base : List String) :
    resolve (base ++ segmentsOf (m.specifier importer)) =
      resolve (base ++ m.relativeSegments importer) := by
  have hslash : ∀ s ∈ m.relativeSegments importer, '/' ∉ s.toList := fun s =>
    slash_notMem_relativeSegments h
  unfold specifier
  generalize m.relativeSegments importer = relative at hslash ⊢
  by_cases hnil : relative = []
  · subst hnil
    show resolve (base ++ [".", ""]) = _
    rw [resolve, resolve, List.foldl_append, List.append_nil, List.foldl_cons, List.foldl_cons,
      push_of_stay (Or.inr rfl), push_of_stay (Or.inl rfl), List.foldl_nil]
  · dsimp only
    split_ifs with hpoint
    · rw [segmentsOf_joinWith hslash hnil]
    · -- the point is a segment of its own, and resolving it changes nothing
      have hstay : segmentsOf ("./" ++ Text.joinWith "/" relative) = "." :: relative := by
        have hsplit := segmentsOf_joinWith hslash hnil
        unfold segmentsOf at hsplit ⊢
        rw [String.toList_append]
        show (Text.splitOn '/' (['.'] ++ '/' :: (Text.joinWith "/" relative).toList)).map _ = _
        rw [Text.splitOn_append, List.map_append, hsplit]
        rfl
      rw [hstay, resolve, resolve, List.foldl_append, List.foldl_cons, push_of_stay (Or.inr rfl),
        ← List.foldl_append]

/-! ### Texts -/

theorem joinWith_append_singleton (glue last suffix : String) (init : List String) :
    Text.joinWith glue (init ++ [last]) ++ suffix =
      Text.joinWith glue (init ++ [last ++ suffix]) := by
  induction init with
  | nil => rfl
  | cons part init ih =>
    rw [List.cons_append, List.cons_append, Text.joinWith_cons_of_ne_nil _ _ (by simp),
      Text.joinWith_cons_of_ne_nil _ _ (by simp), String.append_assoc, ih]

/-- The directory of a module's file is that of the module. -/
theorem dropLast_segmentsOf_fileName (h : ∀ s ∈ m.segments, '/' ∉ s.toList) :
    (segmentsOf (m.fileName ".ts")).dropLast = m.directory := by
  unfold fileName text directory
  rcases List.eq_nil_or_concat m.segments with hnil | ⟨init, last, hlast⟩
  · rw [hnil]
    rfl
  · rw [hlast] at h
    rw [hlast, List.concat_eq_append, joinWith_append_singleton, segmentsOf_joinWith ?_ (by simp),
      List.dropLast_concat, List.dropLast_concat]
    intro s hs
    rcases List.mem_append.1 hs with hs | hs
    · exact h s (by simp [hs])
    · rw [List.mem_singleton.1 hs, String.toList_append, List.mem_append, not_or]
      exact ⟨h last (by simp), by decide⟩

/-- The specifier by which a file without climbs imports another leads to the other's file. -/
theorem joined_specifier {path dependency : String} (hpath : ".." ∉ (ofFile path).segments) :
    joined ((ofFile path).fileName ".ts") ((ofFile dependency).specifier (ofFile path)) ++ ".ts" =
      (ofFile dependency).fileName ".ts" := by
  have himporter : ∀ s ∈ (ofFile path).segments, IsName s := fun s =>
    (isNormal_ofFile path).isName hpath
  rw [joined, dropLast_segmentsOf_fileName fun s => slash_notMem_ofFile,
    resolve_append_specifier fun s => slash_notMem_ofFile,
    resolve_directory_append_relativeSegments himporter (isNormal_ofFile dependency)]
  rfl

end ProtoTypeScript.ModulePath
