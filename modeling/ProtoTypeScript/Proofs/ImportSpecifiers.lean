import ProtoTypeScript.Proofs.ErrorPrecedence
import ProtoTypeScript.Proofs.PathNormalization

/-!
# Specifiers of imports

A module imports another by a specifier, which is joined to the directory of the importer if it is
relative: if it starts with `./` or `../`, or is `..`. Any other specifier names a package.

* `specifier_normalizes`: if no segment of the importer climbs, the joined specifier simplifies to
  the path of the imported module and to nothing else;
* `isRelative_specifier_iff`: a specifier is relative unless the module lies in or below the
  directory of the importer and the next segment starts with a point, but is not `..`;
* `specifier_of_hidden_directory`: there are such modules.
-/

namespace ProtoTypeScript.ModulePath

open Outcome

/-! ### Where specifiers lead -/

/-- **Specifiers lead to the imported file.** The directory of the importer with the specifier
simplifies to the path of the module, whose text with `.ts` is the name of the file that is
generated for it. The part that both directories share is as long as either at most. -/
theorem specifier_normalizes (path dependency : String) :
    (".." ∉ (ofFile path).segments → ∀ normal,
      Normalizes ((ofFile path).directory ++
        segmentsOf ((ofFile dependency).specifier (ofFile path))) normal ↔
          normal = (ofFile dependency).segments) ∧
    (∀ (r : Request) (out : List GeneratedFile), r.run = .ok out →
      ∀ (i : ℕ) (f : FileDescriptor), r.files[i]? = some f → f.name = dependency →
        out[i]?.map (·.name) = some (Text.joinWith "/" (ofFile dependency).segments ++ ".ts")) ∧
    commonLength (ofFile path).directory (ofFile dependency).directory ≤
      (ofFile path).directory.length ∧
    commonLength (ofFile path).directory (ofFile dependency).directory ≤
      (ofFile dependency).segments.length := by
  refine ⟨fun hpath normal => ?_, fun r out hout i f hf hname => ?_, commonLength_le_left _ _, ?_⟩
  · rw [normalizes_iff, resolve_append_specifier fun s => slash_notMem_ofFile,
      resolve_directory_append_relativeSegments (fun s => (isNormal_ofFile path).isName hpath)
        (isNormal_ofFile dependency)]
  · rw [← List.getElem?_map, Request.names_of_run_eq_ok hout, List.getElem?_map, hf, ← hname]
    rfl
  · have hle := commonLength_le_right (ofFile path).directory (ofFile dependency).directory
    have hdirectory : (ofFile dependency).directory.length ≤ (ofFile dependency).segments.length :=
      (List.dropLast_sublist _).length_le
    exact Nat.le_trans hle hdirectory

/-- Two files in neighbouring directories, whose names are not normal. -/
def cliffRequest : Request where
  files := [{ name := "coast/rock/./cliff.proto" }, { name := "sea//../coast/v1.2/nest.proto" }]

theorem specifier_normalizes_cliff : ".." ∉ (ofFile "coast/rock/./cliff.proto").segments ∧
    Normalizes ["coast", "rock", "..", "v1.2", "nest"] ["coast", "v1.2", "nest"] ∧
    ∃ out, cliffRequest.run = .ok out ∧
      out[1]?.map (·.name) = some "coast/v1.2/nest.ts" := by
  obtain ⟨hnormalizes, hnames, -, -⟩ :=
    specifier_normalizes "coast/rock/./cliff.proto" "sea//../coast/v1.2/nest.proto"
  have hpath : ".." ∉ (ofFile "coast/rock/./cliff.proto").segments := by decide +kernel
  have hmodule : (ofFile "sea//../coast/v1.2/nest.proto").segments = ["coast", "v1.2", "nest"] := by
    decide +kernel
  have hjoined : (ofFile "coast/rock/./cliff.proto").directory ++ segmentsOf
      ((ofFile "sea//../coast/v1.2/nest.proto").specifier (ofFile "coast/rock/./cliff.proto")) =
        ["coast", "rock", "..", "v1.2", "nest"] := by decide +kernel
  have hok : cliffRequest.run.isOk := by decide +kernel
  obtain ⟨out, hout⟩ := isOk_iff.1 hok
  have hname := hnames cliffRequest out hout 1 _ rfl rfl
  rw [hmodule] at hname
  exact ⟨hpath, hjoined ▸ (hnormalizes hpath _).2 hmodule.symm, out, hout, hname⟩

/-! ### Relative specifiers -/

/-- The specifier is no name of a package. -/
def IsRelative (specifier : String) : Prop :=
  ['.', '/'] <+: specifier.toList ∨ ['.', '.', '/'] <+: specifier.toList ∨ specifier = ".."

instance (specifier : String) : Decidable (IsRelative specifier) :=
  inferInstanceAs (Decidable (_ ∨ _))

/-- A relative specifier starts with a segment that says to stay or to climb. -/
theorem IsRelative.head_segmentsOf {specifier : String} (h : IsRelative specifier) :
    (segmentsOf specifier).head? = some "." ∨ (segmentsOf specifier).head? = some ".." := by
  rcases h with ⟨rest, h⟩ | ⟨rest, h⟩ | rfl
  · left
    rw [segmentsOf, ← h]
    change ((Text.splitOn '/' (['.'] ++ '/' :: rest)).map String.ofList).head? = _
    rw [Text.splitOn_append]
    rfl
  · right
    rw [segmentsOf, ← h]
    change ((Text.splitOn '/' (['.', '.'] ++ '/' :: rest)).map String.ofList).head? = _
    rw [Text.splitOn_append]
    rfl
  · right
    rfl

theorem isRelative_stay (specifier : String) : IsRelative ("./" ++ specifier) := by
  left
  rw [String.toList_append]
  exact List.prefix_append _ _

theorem isRelative_climb (rest : List String) : IsRelative (Text.joinWith "/" (".." :: rest)) := by
  cases rest with
  | nil => exact .inr (.inr rfl)
  | cons next rest =>
    right
    left
    rw [Text.joinWith, String.toList_append, String.toList_append]
    exact ⟨_, rfl⟩

theorem commonLength_append (as bs : List String) : commonLength as (as ++ bs) = as.length := by
  induction as with
  | nil => rfl
  | cons a as ih => rw [List.cons_append, commonLength, if_pos rfl, ih, List.length_cons]

theorem head?_joinWith_cons {segment : String} (h : segment ≠ "") (rest : List String) :
    (Text.joinWith "/" (segment :: rest)).toList.head? = segment.toList.head? := by
  cases rest with
  | nil => rfl
  | cons next rest =>
    have hne : segment.toList ≠ [] := fun hnil => h (String.toList_eq_nil_iff.1 hnil)
    rw [Text.joinWith, String.toList_append, String.toList_append, List.append_assoc,
      List.head?_append_of_ne_nil _ hne]

variable {m importer : ModulePath}

/-- The path to a module in or below the directory of the importer is the rest of the module's. -/
theorem relativeSegments_of_below {rest : List String} (hne : rest ≠ [])
    (h : m.segments = importer.directory ++ rest) : m.relativeSegments importer = rest := by
  have hdirectory : m.directory = importer.directory ++ rest.dropLast := by
    rw [directory, h, List.dropLast_append_of_ne_nil hne]
  simp [relativeSegments, hdirectory, commonLength_append, h]

/-- A path to a module that is neither in nor below that directory climbs first. -/
theorem relativeSegments_climbs_or_below (m importer : ModulePath) :
    (m.relativeSegments importer).head? = some ".." ∨
      m.segments = importer.directory ++ m.relativeSegments importer := by
  have hle := commonLength_le_left importer.directory m.directory
  have hshared := take_commonLength importer.directory m.directory
  unfold relativeSegments
  dsimp only
  generalize commonLength importer.directory m.directory = common at hle hshared ⊢
  -- the directories part before the end of the importer, or the whole of it is shared
  rcases Nat.lt_or_eq_of_le hle with hlt | rfl
  · left
    obtain ⟨n, hn⟩ := Nat.exists_eq_add_of_lt hlt
    have hclimbs : importer.directory.length - common = n + 1 := by omega
    rw [hclimbs]
    rfl
  · right
    rw [List.take_length] at hshared
    have hprefix : importer.directory <+: m.segments := by
      rw [hshared]
      exact (List.take_prefix _ _).trans (List.dropLast_prefix _)
    rw [Nat.sub_self, List.replicate_zero, List.nil_append]
    exact (List.prefix_iff_eq_append.1 hprefix).symm

theorem isName_of_mem_relativeSegments (hm : IsNormal m.segments) {s : String}
    (hs : s ∈ m.relativeSegments importer) (hne : s ≠ "..") : IsName s := by
  rcases List.mem_append.1 hs with hs | hs
  · exact absurd (List.mem_replicate.1 hs).2 hne
  · exact hm.isName_of_ne (List.mem_of_mem_drop hs) hne

theorem specifier_of_nil (h : m.relativeSegments importer = []) : m.specifier importer = "./" := by
  rw [specifier, h]
  rfl

/-- The first segment of the relative path decides whether a point is put in front. -/
theorem specifier_of_cons {segment : String} {rest : List String}
    (h : m.relativeSegments importer = segment :: rest) (hne : segment ≠ "") :
    m.specifier importer =
      if segment.toList.head? = some '.' then Text.joinWith "/" (segment :: rest)
      else "./" ++ Text.joinWith "/" (segment :: rest) := by
  rw [specifier, h, head?_joinWith_cons hne]

/-- A specifier that climbs or stays is relative, and one that starts with a name is not. -/
theorem isRelative_iff_of_isNormal (hm : IsNormal m.segments)
    (hslash : ∀ s ∈ m.segments, '/' ∉ s.toList) : IsRelative (m.specifier importer) ↔
      ¬ ∃ segment rest, m.segments = importer.directory ++ segment :: rest ∧
        segment.toList.head? = some '.' ∧ segment ≠ ".." := by
  have hbelow : ∀ {segment rest}, m.segments = importer.directory ++ segment :: rest →
      m.relativeSegments importer = segment :: rest := relativeSegments_of_below (by simp)
  rcases hrelative : m.relativeSegments importer with _ | ⟨segment, rest⟩
  · rw [specifier_of_nil hrelative]
    refine iff_of_true (by decide) ?_
    rintro ⟨segment, rest, hsegments, -⟩
    cases hrelative.symm.trans (hbelow hsegments)
  have honly : ∀ {segment' rest'}, m.segments = importer.directory ++ segment' :: rest' →
      segment' = segment := fun h => (List.cons.inj ((hbelow h).symm.trans hrelative)).1
  have hmem : segment ∈ m.relativeSegments importer := by simp [hrelative]
  by_cases hclimb : segment = ".."
  · rw [specifier_of_cons hrelative (by simp [hclimb]), hclimb]
    refine iff_of_true (isRelative_climb rest) ?_
    rintro ⟨segment', rest', hsegments, -, hne⟩
    exact hne ((honly hsegments).trans hclimb)
  have hname : IsName segment := isName_of_mem_relativeSegments hm hmem hclimb
  rw [specifier_of_cons hrelative hname.1]
  split_ifs with hpoint
  · -- nothing is put in front of the name, so that it is the first segment of the specifier
    refine iff_of_false (fun h => ?_) (not_not_intro ⟨segment, rest, ?_, hpoint, hclimb⟩)
    · have hhead := h.head_segmentsOf
      rw [← hrelative, segmentsOf_joinWith (fun s => slash_notMem_relativeSegments hslash)
        (List.ne_nil_of_mem hmem), hrelative] at hhead
      simp [hname.2.1, hclimb] at hhead
    · have hcases := relativeSegments_climbs_or_below m importer
      simpa [hrelative, hclimb] using hcases
  · refine iff_of_true (isRelative_stay _) ?_
    rintro ⟨segment', rest', hsegments, hpoint', -⟩
    exact hpoint (honly hsegments ▸ hpoint')

/-- **A specifier names a package just if a name with a point in front comes first**: the module
lies in or below the directory of the importer, and the next segment of its path starts with a point
and is no climb. Every other specifier is relative. -/
theorem isRelative_specifier_iff (path dependency : String) :
    IsRelative ((ofFile dependency).specifier (ofFile path)) ↔
      ¬ ∃ segment rest,
        (ofFile dependency).segments = (ofFile path).directory ++ segment :: rest ∧
          segment.toList.head? = some '.' ∧ segment ≠ ".." :=
  isRelative_iff_of_isNormal (isNormal_ofFile dependency) fun _ => slash_notMem_ofFile

/-- A file that imports another from a directory whose name starts with a point. -/
def coveFile : FileDescriptor where
  name := "cove.proto"
  dependencies := [".tide/pool.proto"]

/-- Its import names a package. -/
theorem specifier_of_hidden_directory :
    (ofFile ".tide/pool.proto").segments ≠ [] ∧
    ¬ IsRelative ((ofFile ".tide/pool.proto").specifier (ofFile coveFile.name)) ∧
    (SourceFile.ofDescriptor .default .empty default coveFile).toOption.map (·.imports) =
      some [⟨"dependency_1", ".tide/pool"⟩] := by
  decide +kernel

end ProtoTypeScript.ModulePath
