import Mathlib.Data.List.Perm.Subperm
import ProtoTypeScript.Proofs.DeclaredTree
import ProtoTypeScript.Proofs.OneLine

/-!
# Names without namespaces

Without namespaces a type is named after its whole path, with underscores between the segments. A
segment may hold underscores as well, so two paths can lead to one name.

* `pathWords` cuts the segments of a path at their underscores; `flatIdentifier_eq_iff`: two paths
  lead to one name exactly if they have the same words;
* `loweredTypes_subperm`: no type gets two declarations, so distinct qualified names are distinct
  paths of declarations;
* `flat_names_nodup_iff`: the names of a file's enums and classes are distinct exactly if no two of
  its types have the same words, and references to two types read the same exactly if these do;
* `flat_names_collide`: a type that is named after the path of another one has the name of it.
-/

namespace ProtoTypeScript

/-! ### Words -/

namespace Text

theorem splitOn_injective (sep : Char) : Function.Injective (splitOn sep) := by
  intro cs ds h
  have hglue : (String.singleton sep).toList = [sep] := String.toList_singleton sep
  rw [← String.ofList_inj, ← joinWith_splitOn hglue cs, h, joinWith_splitOn hglue]

end Text

/-- The words of a path: its segments, cut at underscores. -/
def pathWords (path : List String) : List (List Char) :=
  path.flatMap fun name => Text.splitOn '_' name.toList

theorem splitOn_flatIdentifier {path : List String} (hne : path ≠ []) :
    Text.splitOn '_' (flatIdentifier path).toList = pathWords path := by
  induction path with
  | nil => exact absurd rfl hne
  | cons name path ih =>
    by_cases hnil : path = []
    · rw [hnil]
      exact (List.append_nil _).symm
    · have hjoin : (flatIdentifier (name :: path)).toList =
          name.toList ++ '_' :: (flatIdentifier path).toList := by
        unfold flatIdentifier
        rw [Text.joinWith_cons_of_ne_nil _ _ hnil, String.toList_append, String.toList_append,
          List.append_assoc]
        rfl
      rw [hjoin, Text.splitOn_append, ih hnil]
      rfl

/-- Two paths lead to one identifier exactly if they have the same words. -/
theorem flatIdentifier_eq_iff {p q : List String} (hp : p ≠ []) (hq : q ≠ []) :
    flatIdentifier p = flatIdentifier q ↔ pathWords p = pathWords q := by
  rw [← splitOn_flatIdentifier hp, ← splitOn_flatIdentifier hq,
    (Text.splitOn_injective '_').eq_iff, String.toList_inj]

/-- A path without underscores is its words. -/
theorem pathWords_of_notMem {path : List String} (h : ∀ name ∈ path, '_' ∉ name.toList) :
    pathWords path = path.map String.toList := by
  rw [List.map_eq_flatMap]
  exact List.flatMap_congr fun name hname => Text.splitOn_of_notMem (h name hname)

/-! ### Distinct declarations -/

theorem subperm_flatMap {α β : Type} {f g : α → List β} {xs : List α}
    (h : ∀ x ∈ xs, List.Subperm (f x) (g x)) : List.Subperm (xs.flatMap f) (xs.flatMap g) := by
  induction xs with
  | nil => exact .refl []
  | cons x xs ih =>
    rw [List.flatMap_cons, List.flatMap_cons]
    exact (h x List.mem_cons_self).append (ih fun y hy => h y (List.mem_cons_of_mem _ hy))

theorem MessageDescriptor.loweredTypes_subperm (enclosing : List String) (m : MessageDescriptor) :
    List.Subperm (m.loweredTypes enclosing) (m.types enclosing) := by
  induction m using MessageDescriptor.nestedInduction generalizing enclosing with
  | _ m ih =>
    have hinside := subperm_flatMap fun n hn => ih n hn (enclosing ++ [m.name])
    have hkept := ((List.filter_sublist (p := fun n : MessageDescriptor => !n.mapEntry)
      (l := m.nested)).flatMap (loweredTypes (enclosing ++ [m.name]))).subperm.trans hinside
    rw [loweredTypes_eq, types_eq]
    -- the message itself is declared last and listed first
    refine (List.perm_append_singleton _ _).subperm.trans ?_
    exact List.Subperm.append (.refl [_]) ((List.subperm_append_left _).2 hkept)

theorem FileDescriptor.loweredTypes_subperm (f : FileDescriptor) :
    List.Subperm f.loweredTypes f.types :=
  (List.subperm_append_left _).2
    (subperm_flatMap fun m _ => m.loweredTypes_subperm [])

theorem FileDescriptor.nodup_loweredPaths {f : FileDescriptor} (h : f.typeNames.Nodup) :
    (f.loweredTypes.map DeclaredType.path).Nodup := by
  obtain ⟨ts, hperm, hsub⟩ := f.loweredTypes_subperm
  exact (hperm.map _).nodup_iff.1 ((nodup_paths h).sublist (hsub.map _))

/-! ### Distinct names -/

theorem DeclaredType.flatIdentifier_path_eq_iff (t u : DeclaredType) :
    flatIdentifier t.path = flatIdentifier u.path ↔ pathWords t.path = pathWords u.path :=
  flatIdentifier_eq_iff t.path_ne_nil u.path_ne_nil

/-- Types with distinct paths have distinct names exactly if no two paths have the same words. -/
theorem nodup_flatIdentifier_iff {ts : List DeclaredType} (h : (ts.map DeclaredType.path).Nodup) :
    (ts.map fun t => flatIdentifier t.path).Nodup ↔
      ∀ t ∈ ts, ∀ u ∈ ts, pathWords t.path = pathWords u.path → t.path = u.path := by
  have hnames : (ts.map fun t => flatIdentifier t.path) =
      (ts.map DeclaredType.path).map flatIdentifier := List.map_map.symm
  rw [hnames, List.nodup_map_iff_inj_on h]
  simp only [List.forall_mem_map, DeclaredType.flatIdentifier_path_eq_iff]

namespace FileScope

variable {s : FileScope}

theorem exportedExpression_of_flat (hflat : s.config.noNamespace = true) (r : TypeRecord) :
    s.exportedExpression r = flatIdentifier r.path := by
  simp [exportedExpression, localExpression, hflat]

/-- References to types of one file read the same exactly if the names of the types do. -/
theorem typeExpression_eq_iff_of_flat (hflat : s.config.noNamespace = true) {r r' : TypeRecord}
    {e e' : String} (hfile : r.file = r'.file) (he : s.typeExpression r = .ok e)
    (he' : s.typeExpression r' = .ok e') :
    e = e' ↔ flatIdentifier r.path = flatIdentifier r'.path := by
  by_cases hown : r.file = s.file.name
  · rw [typeExpression, if_pos hown, Except.ok.injEq, localExpression, if_pos hflat] at he
    rw [typeExpression, if_pos (hfile ▸ hown), Except.ok.injEq, localExpression,
      if_pos hflat] at he'
    rw [← he, ← he']
  · rw [typeExpression_of_ne hown] at he
    rw [typeExpression_of_ne (hfile ▸ hown), ← hfile] at he'
    cases hidentifier : s.aliases.identifierFor? r.file with
    | none =>
      rw [hidentifier] at he
      cases he
    | some identifier =>
      rw [hidentifier, exportedExpression_of_flat hflat, Except.ok.injEq] at he he'
      rw [← he, ← he', String.append_right_inj]

end FileScope

theorem TypeTable.exists_type_of_resolve {files : List FileDescriptor} {s : FileScope}
    (htable : s.table = .ofFiles files) {typeName : String} {r : TypeRecord}
    (h : s.resolve typeName = .ok r) : ∃ t : DeclaredType, r.path = t.path := by
  rw [FileScope.resolve_eq_ok_iff, htable] at h
  obtain ⟨f, -, t, -, hr⟩ := mem_records_ofFiles_iff.1 (mem_of_find?_eq_some h).1
  exact ⟨t, (FileDescriptor.record_eq_ok_iff.1 hr).2.2.2.1⟩

/-- **Without namespaces names are distinct up to words.** The enums and classes of a file have
distinct names exactly if no two of its types have paths with the same words, so that they do where
no name holds an underscore; and references to two types of one file read the same exactly if the
paths of the types have the same words. -/
theorem flat_names_nodup_iff {files : List FileDescriptor} {table : TypeTable}
    (htable : TypeTable.empty.registerAll files = .ok table) {config : Config}
    (hflat : config.noNamespace = true) {version : CompilerVersion} {file : FileDescriptor}
    {tree : SourceFile} (hown : file.typeNames.Nodup)
    (htree : SourceFile.ofDescriptor config table version file = .ok tree) :
    ((tree.topLevel.map (·.2)).Nodup ↔ ∀ t ∈ file.loweredTypes, ∀ u ∈ file.loweredTypes,
      pathWords t.path = pathWords u.path → t.path = u.path) ∧
    ((∀ t ∈ file.loweredTypes, ∀ name ∈ t.path, '_' ∉ name.toList) →
      (tree.topLevel.map (·.2)).Nodup) ∧
    ∀ n n' r r' e e', (FileScope.ofFile config table file).resolve n = .ok r →
      (FileScope.ofFile config table file).resolve n' = .ok r' → r.file = r'.file →
      (FileScope.ofFile config table file).typeExpression r = .ok e →
      (FileScope.ofFile config table file).typeExpression r' = .ok e' →
      (e = e' ↔ pathWords r.path = pathWords r'.path) := by
  obtain ⟨-, rfl⟩ := TypeTable.registerAll_eq_ok_iff.1 htable
  have hnames : (tree.topLevel.map (·.2)).Nodup ↔ ∀ t ∈ file.loweredTypes,
      ∀ u ∈ file.loweredTypes, pathWords t.path = pathWords u.path → t.path = u.path := by
    rw [SourceFile.topLevel_eq hflat htree, List.map_map]
    exact nodup_flatIdentifier_iff (FileDescriptor.nodup_loweredPaths hown)
  -- without underscores a name is a word of its own, so the words are the path
  refine ⟨hnames, fun hplain => hnames.2 fun t ht u hu hwords => ?_, ?_⟩
  · rw [pathWords_of_notMem (hplain t ht), pathWords_of_notMem (hplain u hu)] at hwords
    exact List.map_injective_iff.2 (fun _ _ => String.toList_inj.1) hwords
  · intro n n' r r' e e' hr hr' hfile he he'
    obtain ⟨t, ht⟩ := TypeTable.exists_type_of_resolve rfl hr
    obtain ⟨u, hu⟩ := TypeTable.exists_type_of_resolve rfl hr'
    rw [FileScope.typeExpression_eq_iff_of_flat hflat hfile he he', ht, hu,
      DeclaredType.flatIdentifier_path_eq_iff]

/-- A file whose names hold underscores, and whose types have distinct words. -/
def firFile : FileDescriptor where
  name := "fir.proto"
  messages := [{ name := "Fir", nested := [{ name := "Cone_Scale" }] }, { name := "Fir_Needle" }]

/-- A file with an enum that is named after the path of another one. -/
def willowFile : FileDescriptor where
  name := "willow.proto"
  messages := [{ name := "Willow", enums := [{ name := "Bark", values := [⟨"ROUGH", 0⟩] }] }]
  enums := [{ name := "Willow_Bark", values := [⟨"SMOOTH", 0⟩] }]

/-- The configuration that leaves namespaces out. -/
def flatConfig : Config :=
  { Config.default with noNamespace := true }

theorem flat_names_nodup_iff_fir :
    TypeTable.empty.registerAll [firFile] = .ok (.ofFiles [firFile]) ∧
      flatConfig.noNamespace = true ∧ firFile.typeNames.Nodup ∧
      ∃ tree, SourceFile.ofDescriptor flatConfig (.ofFiles [firFile]) default firFile = .ok tree ∧
        (tree.topLevel.map (·.2)).Nodup := by
  have htable : TypeTable.empty.registerAll [firFile] = .ok (.ofFiles [firFile]) := rfl
  have hown : firFile.typeNames.Nodup := by decide
  have hok : (SourceFile.ofDescriptor flatConfig (.ofFiles [firFile]) default firFile).isOk := by
    decide +kernel
  obtain ⟨tree, htree⟩ := Outcome.isOk_iff.1 hok
  have hwords : ∀ t ∈ firFile.loweredTypes, ∀ u ∈ firFile.loweredTypes,
      pathWords t.path = pathWords u.path → t.path = u.path := by
    decide +kernel
  exact ⟨htable, rfl, hown, tree, htree, (flat_names_nodup_iff htable rfl hown htree).1.2 hwords⟩

/-- Distinct qualified names of valid identifiers do not make distinct names: an enum inside a
message has the name of one beside the message. -/
theorem flat_names_collide :
    willowFile.ValidNames ∧ willowFile.typeNames.Nodup ∧
      TypeTable.empty.registerAll [willowFile] = .ok (.ofFiles [willowFile]) ∧
      ∃ tree, SourceFile.ofDescriptor flatConfig (.ofFiles [willowFile]) default willowFile =
        .ok tree ∧ ¬(tree.topLevel.map (·.2)).Nodup := by
  have hok : (SourceFile.ofDescriptor flatConfig (.ofFiles [willowFile]) default
      willowFile).isOk := by
    decide +kernel
  obtain ⟨tree, htree⟩ := Outcome.isOk_iff.1 hok
  have hnames : tree.topLevel.map (·.2) = ["Willow_Bark", "Willow_Bark", "Willow"] := by
    rw [SourceFile.topLevel_eq rfl htree, List.map_map]
    decide +kernel
  refine ⟨⟨.inl rfl, ?_, ?_⟩, by decide, rfl, tree, htree, ?_⟩
  · decide +kernel
  · decide +kernel
  · rw [hnames]
    decide

end ProtoTypeScript
