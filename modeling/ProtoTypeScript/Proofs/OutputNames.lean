import ProtoTypeScript.Proofs.RelativePath
import ProtoTypeScript.Proofs.Runs

/-!
# Names of generated files

A file is generated under the text of its module with `.ts` behind it.

* `ofFile_append`: an extension is dropped before the segments are resolved, so what is resolved is
  the path in front of it;
* `ofFile_fileName`: the module of a generated file is the one it was generated for;
* `IsCanonical` are the paths that dropping `.proto` and resolving leave as they are otherwise, and
  `fileName_of_isCanonical` says what is generated for them;
* `output_names_lossless`: the segments of every module are in normal form, a file named like a
  generated one is generated under its own name, and distinct canonical paths give distinct files.
-/

namespace ProtoTypeScript.ModulePath

/-! ### Extensions -/

/-- A point, then at least one character, none of them a point or a slash. -/
def IsExtension (extension : String) : Prop :=
  ∃ letters, extension.toList = '.' :: letters ∧ letters ≠ [] ∧ ∀ c ∈ letters, c ≠ '.' ∧ c ≠ '/'

theorem isExtension_ts : IsExtension ".ts" :=
  ⟨['t', 's'], rfl, by simp, by simp⟩

theorem isExtension_proto : IsExtension ".proto" :=
  ⟨['p', 'r', 'o', 't', 'o'], rfl, by simp, by simp⟩

theorem stripExtension_append {letters : List Char} (hne : letters ≠ [])
    (h : ∀ c ∈ letters, c ≠ '.' ∧ c ≠ '/') (base : List Char) :
    stripExtension (base ++ '.' :: letters) = base := by
  have hletters : ∀ c ∈ letters.reverse, (c != '.' && c != '/') = true := by
    intro c hc
    simpa using h c (List.mem_reverse.1 hc)
  -- the scan goes backwards over the letters and stops at the point in front of them
  unfold stripExtension
  simp only [List.reverse_append, List.reverse_cons, List.append_assoc, List.singleton_append]
  rw [List.dropWhile_append_of_pos hletters, List.takeWhile_append_of_pos hletters]
  simp [hne]

theorem ofFile_append {extension : String} (h : IsExtension extension) (base : String) :
    ofFile (base ++ extension) = ⟨resolve (segmentsOf base)⟩ := by
  obtain ⟨letters, hextension, hne, hletters⟩ := h
  rw [ofFile, String.toList_append, hextension, stripExtension_append hne hletters]
  rfl

/-! ### The module of a generated file -/

theorem resolve_segmentsOf_text {m : ModulePath} (hm : IsNormal m.segments)
    (hslash : ∀ s ∈ m.segments, '/' ∉ s.toList) : resolve (segmentsOf m.text) = m.segments := by
  by_cases hnil : m.segments = []
  · rw [text, hnil]
    rfl
  · rw [text, segmentsOf_joinWith hslash hnil, resolve_of_isNormal hm]

/-- The module of a generated file is the one it was generated for. -/
theorem ofFile_fileName (path : String) : ofFile ((ofFile path).fileName ".ts") = ofFile path := by
  rw [fileName, ofFile_append isExtension_ts,
    resolve_segmentsOf_text (isNormal_ofFile path) fun s => slash_notMem_ofFile]

/-! ### Canonical paths -/

theorem joinWith_segmentsOf (path : String) : Text.joinWith "/" (segmentsOf path) = path := by
  rw [segmentsOf, Text.joinWith_splitOn rfl, String.ofList_toList]

theorem segmentsOf_ne_nil (path : String) : segmentsOf path ≠ [] := by
  unfold segmentsOf
  simp [Text.splitOn_ne_nil]

theorem slash_notMem_segmentsOf {path s : String} (h : s ∈ segmentsOf path) : '/' ∉ s.toList := by
  obtain ⟨part, hpart, rfl⟩ := List.mem_map.1 h
  rw [String.toList_ofList]
  exact Text.notMem_of_mem_splitOn hpart

/-- What is written behind a path belongs to its last segment. -/
theorem segmentsOf_append {path suffix last : String} {init : List String}
    (hpath : segmentsOf path = init ++ [last]) (hsuffix : '/' ∉ suffix.toList) :
    segmentsOf (path ++ suffix) = init ++ [last ++ suffix] := by
  have hparts : ∀ s ∈ init ++ [last], '/' ∉ s.toList := fun s hs =>
    slash_notMem_segmentsOf (hpath ▸ hs)
  have hslash : ∀ s ∈ init ++ [last ++ suffix], '/' ∉ s.toList := by
    intro s hs
    rcases List.mem_append.1 hs with hs | hs
    · exact hparts s (List.mem_append_left _ hs)
    · rw [List.mem_singleton.1 hs, String.toList_append, List.mem_append, not_or]
      exact ⟨hparts last (by simp), hsuffix⟩
  conv_lhs => rw [← joinWith_segmentsOf path, hpath, joinWith_append_singleton]
  exact segmentsOf_joinWith hslash (by simp)

instance (segment : String) : Decidable (IsName segment) :=
  inferInstanceAs (Decidable (_ ∧ _ ∧ _))

/-- The path ends in `.proto` and consists of names, and its last segment is still one without
the ending. -/
def IsCanonical (path : String) : Prop :=
  ∃ base, path = base ++ ".proto" ∧ (∀ s ∈ segmentsOf path, IsName s) ∧
    ∀ s ∈ (segmentsOf base).getLast?, IsName s

/-- Resolving leaves a canonical path alone. -/
theorem IsCanonical.exists_base {path : String} (h : IsCanonical path) :
    ∃ base, path = base ++ ".proto" ∧ ∀ s ∈ segmentsOf base, IsName s := by
  obtain ⟨base, rfl, hnames, hlast⟩ := h
  refine ⟨base, rfl, ?_⟩
  obtain ⟨init, last, hbase⟩ := (List.eq_nil_or_concat (segmentsOf base)).resolve_left
    (segmentsOf_ne_nil base)
  rw [List.concat_eq_append] at hbase
  rw [segmentsOf_append hbase (by decide)] at hnames
  rw [hbase] at hlast ⊢
  intro s hs
  rcases List.mem_append.1 hs with hs | hs
  · exact hnames s (List.mem_append_left _ hs)
  · exact hlast s (by simp [List.mem_singleton.1 hs])

theorem isNormal_of_names {segments : List String} (h : ∀ s ∈ segments, IsName s) :
    IsNormal segments :=
  ⟨0, segments, rfl, h⟩

theorem fileName_of_isCanonical {path : String} (h : IsCanonical path) :
    ∃ base, path = base ++ ".proto" ∧ (ofFile path).fileName ".ts" = base ++ ".ts" := by
  obtain ⟨base, rfl, hnames⟩ := h.exists_base
  refine ⟨base, rfl, ?_⟩
  rw [ofFile_append isExtension_proto, resolve_of_isNormal (isNormal_of_names hnames), fileName,
    text, joinWith_segmentsOf]

/-- Distinct canonical paths give distinct files. -/
theorem fileName_injOn {p q : String} (hp : IsCanonical p) (hq : IsCanonical q)
    (h : (ofFile p).fileName ".ts" = (ofFile q).fileName ".ts") : p = q := by
  obtain ⟨base, hbase, hname⟩ := fileName_of_isCanonical hp
  obtain ⟨base', hbase', hname'⟩ := fileName_of_isCanonical hq
  rw [hname, hname', String.append_left_inj] at h
  rw [hbase, hbase', h]

/-! ### Runs -/

/-- **Generated files are named in normal form, and none is lost.** The segments of a module are
names behind climbs, and the module of a file that is named like a generated one is the module of
that one. Canonical paths that differ are generated under names that differ, so a run over such
files never names two of its files alike. -/
theorem output_names_lossless :
    (∀ path, (∀ s ∈ (ofFile path).segments, s ≠ "" ∧ s ≠ "." ∧ '/' ∉ s.toList) ∧
      (∃ climbs names, (ofFile path).segments = List.replicate climbs ".." ++ names ∧
        ".." ∉ names) ∧
      ofFile ((ofFile path).fileName ".ts") = ofFile path) ∧
    (∀ p q, IsCanonical p → IsCanonical q → p ≠ q →
      (ofFile p).fileName ".ts" ≠ (ofFile q).fileName ".ts") ∧
    ∀ (c : Config) (r : Request) (out : List GeneratedFile), c.run r = .ok out →
      out.map (·.name) = r.files.map (fun f => (ofFile f.name).fileName ".ts") ∧
      (∀ (path : String) (i : ℕ) (f : FileDescriptor), r.files[i]? = some f →
        f.name = (ofFile path).fileName ".ts" → out[i]?.map (·.name) = some f.name) ∧
      ((∀ f ∈ r.files, IsCanonical f.name) → (r.files.map (·.name)).Nodup →
        (out.map (·.name)).Nodup) := by
  refine ⟨fun path => ⟨fun s hs => ?_, ?_, ofFile_fileName path⟩, ?_, ?_⟩
  · have hslash := slash_notMem_ofFile hs
    -- a climb is no name, and is written without a slash as names are
    by_cases hclimb : s = ".."
    · rw [hclimb]
      decide
    · have hname := (isNormal_ofFile path).isName_of_ne hs hclimb
      exact ⟨hname.1, hname.2.1, hslash⟩
  · obtain ⟨climbs, names, hsegments, hnames⟩ := isNormal_ofFile path
    exact ⟨climbs, names, hsegments, fun hmem => (hnames ".." hmem).2.2 rfl⟩
  · intro p q hp hq hne heq
    exact hne (fileName_injOn hp hq heq)
  · intro c r out hout
    have hnames := Config.names_of_run_eq_ok hout
    refine ⟨hnames, fun path i f hf hname => ?_, fun hcanonical hdistinct => ?_⟩
    · rw [← List.getElem?_map, hnames, List.getElem?_map, hf, Option.map_some, hname,
        ofFile_fileName]
    · rw [hnames]
      refine List.Nodup.map_on (fun f hf g hg heq => ?_) hdistinct.of_map
      exact List.inj_on_of_nodup_map hdistinct hf hg
        (fileName_injOn (hcanonical f hf) (hcanonical g hg) heq)

/-- Files of one directory, one of them named like the file generated for another. -/
def nestRequest : Request where
  files := [{ name := "coast/nest.proto" }, { name := "coast/nest.v1.proto" },
    { name := "coast/..nest.proto" }]

/-- A file that is named like the one generated for the path below. -/
def nestOutputRequest : Request where
  files := [{ name := "../coast/nest.v1.ts" }]

theorem output_names_lossless_nest :
    (∀ f ∈ nestRequest.files, IsCanonical f.name) ∧ (nestRequest.files.map (·.name)).Nodup ∧
    (∃ out, Config.default.run nestRequest = .ok out ∧
      out.map (·.name) = ["coast/nest.ts", "coast/nest.v1.ts", "coast/..nest.ts"] ∧
      (out.map (·.name)).Nodup) ∧
    (ofFile "coast/nest.proto").fileName ".ts" ≠ (ofFile "coast/nest.v1.proto").fileName ".ts" ∧
    (ofFile "coast/../..//coast/./nest.v1.proto").fileName ".ts" = "../coast/nest.v1.ts" ∧
    ∃ out, Config.default.run nestOutputRequest = .ok out ∧
      out[0]?.map (·.name) = some "../coast/nest.v1.ts" := by
  obtain ⟨-, hdistinct, hrun⟩ := output_names_lossless
  have hcanonical : ∀ f ∈ nestRequest.files, IsCanonical f.name := by
    intro f hf
    simp only [nestRequest, List.mem_cons, List.not_mem_nil, or_false] at hf
    rcases hf with rfl | rfl | rfl
    · exact ⟨"coast/nest", rfl, by decide +kernel, by decide +kernel⟩
    · exact ⟨"coast/nest.v1", rfl, by decide +kernel, by decide +kernel⟩
    · exact ⟨"coast/..nest", rfl, by decide +kernel, by decide +kernel⟩
  have hnodup : (nestRequest.files.map (·.name)).Nodup := by decide
  have hmodule : (ofFile "coast/../..//coast/./nest.v1.proto").fileName ".ts" =
      "../coast/nest.v1.ts" := by decide +kernel
  have hok : (Config.default.run nestRequest).isOk := by decide +kernel
  have hok' : (Config.default.run nestOutputRequest).isOk := by decide +kernel
  obtain ⟨out, hout⟩ := Outcome.isOk_iff.1 hok
  obtain ⟨out', hout'⟩ := Outcome.isOk_iff.1 hok'
  obtain ⟨hnames, -, hlossless⟩ := hrun _ _ out hout
  obtain ⟨-, hsame, -⟩ := hrun _ _ out' hout'
  refine ⟨hcanonical, hnodup, ⟨out, hout, ?_, hlossless hcanonical hnodup⟩, ?_, hmodule, out',
    hout', hsame _ 0 _ rfl hmodule.symm⟩
  · rw [hnames]
    decide +kernel
  · apply hdistinct
    · exact hcanonical { name := "coast/nest.proto" } (by simp [nestRequest])
    · exact hcanonical { name := "coast/nest.v1.proto" } (by simp [nestRequest])
    · decide

end ProtoTypeScript.ModulePath
