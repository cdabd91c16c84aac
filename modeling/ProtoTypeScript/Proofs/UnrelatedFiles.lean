import Mathlib.Data.List.InsertIdx
import ProtoTypeScript.Proofs.Imports
import ProtoTypeScript.Proofs.Runs
import ProtoTypeScript.Proofs.TableExtension

/-!
# Files that no other file depends on

All files of a request share one table of types and exports. What a file puts into it is seen by no
file that neither depends on it nor declares a type of one of its names.

* `Drains.of_agree`: a search for imports sees only what the files exports that it can come across;
* `extends_insert` and `importDependencies_insert`: the table with one more file gives the answers
  that it gave without;
* `generate_insertIdx`: the other files of a run come out the same with and without the file, byte
  for byte, wherever it stands in the request.
-/

namespace ProtoTypeScript

open Outcome

/-! ### The search for imports -/

/-- Two lists of exports that agree on a class of files lead a search to the same end, if the search
starts in the class and no export leads out of it. -/
theorem ImportClosure.Drains.of_agree {exports exports' : String → List String} {self : String}
    {P : String → Prop} (hagree : ∀ file, P file → exports' file = exports file)
    (hclosed : ∀ file, P file → ∀ d ∈ exports file, P d) {bound pending result : List String}
    (h : Drains exports self bound pending result) (hpending : ∀ file ∈ pending, P file) :
    Drains exports' self bound pending result := by
  induction h with
  | done bound => exact .done bound
  | skip hold _ ih => exact .skip hold (ih fun d hd => hpending d (List.mem_cons_of_mem _ hd))
  | @visit file _ _ _ hnew _ ih =>
    have hfile : P file := hpending file List.mem_cons_self
    refine .visit hnew ?_
    rw [hagree file hfile]
    refine ih fun d hd => ?_
    rcases List.mem_append.1 hd with hqueued | hexported
    · exact hpending d (List.mem_cons_of_mem _ hqueued)
    · exact hclosed file hfile d hexported

/-! ### The table with one more file -/

namespace TypeTable

variable {before after : List FileDescriptor} {x : FileDescriptor}

theorem reexportsOf_subset_dependencies {files : List FileDescriptor} {name d : String}
    (h : d ∈ (ofFiles files).reexportsOf name) : ∃ f ∈ files, d ∈ f.dependencies := by
  unfold reexportsOf at h
  cases hlookup : (ofFiles files).reexports.lookup name with
  | none =>
    rw [hlookup] at h
    exact absurd h List.not_mem_nil
  | some exports =>
    rw [hlookup, Option.getD_some] at h
    obtain ⟨_, _, hentries, -⟩ := List.lookup_eq_some_iff.1 hlookup
    have hmem : (name, exports) ∈ (ofFiles files).reexports := by simp [hentries]
    obtain ⟨f, hf, -, -, rfl⟩ := mem_exports_ofFiles_iff.1 hmem
    exact ⟨f, hf, FileDescriptor.reexports_subset_dependencies h⟩

/-- The exports of a file are found under its own name only. -/
theorem reexportsOf_insert {name : String} (hname : name ≠ x.name) :
    (ofFiles (before ++ x :: after)).reexportsOf name =
      (ofFiles (before ++ after)).reexportsOf name := by
  have hx : x.exportEntries.reverse.lookup name = none := by
    rw [x.reverse_exportEntries]
    unfold FileDescriptor.exportEntries
    split_ifs
    · rfl
    · rw [List.lookup_cons, beq_false_of_ne hname]
      rfl
  simp only [reexportsOf, ofFiles, List.flatMap_append, List.flatMap_cons, List.reverse_append,
    List.lookup_append, hx, Option.or_none]

/-- The types of a file are found under their own names only. -/
theorem find?_insert {n : TypeName} (hn : n ∉ x.typeNames) :
    (ofFiles (before ++ x :: after)).find? n = (ofFiles (before ++ after)).find? n := by
  have hx : x.records.reverse.find? (·.name = n) = none := by
    rw [List.find?_eq_none]
    intro r hr hname
    rw [decide_eq_true_eq] at hname
    have hmem : r.name ∈ x.records.map (·.name) := List.mem_map_of_mem (List.mem_reverse.1 hr)
    exact hn (hname ▸ x.records_names_sublist.subset hmem)
  simp only [find?, ofFiles, List.flatMap_append, List.flatMap_cons, List.reverse_append,
    List.find?_append, hx, Option.or_none]

theorem extends_insert (htypes : ∀ f ∈ before ++ after, ∀ n ∈ x.typeNames, n ∉ f.typeNames) :
    (ofFiles (before ++ after)).Extends (ofFiles (before ++ x :: after)) := by
  intro n r h
  have hn : n ∉ x.typeNames := by
    intro hmem
    obtain ⟨hr, rfl⟩ := mem_of_find?_eq_some h
    obtain ⟨f, hf, t, ht, hrecord⟩ := mem_records_ofFiles_iff.1 hr
    refine htypes f hf r.name hmem ?_
    exact (FileDescriptor.record_eq_ok_iff.1 hrecord).1 ▸ List.mem_map_of_mem ht
  rw [find?_insert hn, h]

/-- A search that starts from a file's dependencies does not come across a file that is nobody's
dependency, since what a file exports is among its dependencies. -/
theorem importDependencies_insert (hdependencies : ∀ f ∈ before ++ after, x.name ∉ f.dependencies)
    {f : FileDescriptor} (hf : f ∈ before ++ after) :
    f.importDependencies (ofFiles (before ++ x :: after)) =
      f.importDependencies (ofFiles (before ++ after)) := by
  have hdrains := ImportClosure.drains_names (ofFiles (before ++ after)).reexports f.name
    f.dependencies
  have hsame := hdrains.of_agree (P := (· ≠ x.name)) (fun file hfile => reexportsOf_insert hfile)
    (fun file _ d hd => ?_) (fun d hd => ?_)
  · have hnames := hsame.unique (ImportClosure.drains_names
      (ofFiles (before ++ x :: after)).reexports f.name f.dependencies)
    rw [f.importDependencies_eq, f.importDependencies_eq, FileDescriptor.importNames, ← hnames]
    rfl
  · obtain ⟨g, hg, hmem⟩ := reexportsOf_subset_dependencies hd
    rintro rfl
    exact hdependencies g hg hmem
  · rintro rfl
    exact hdependencies f hf hd

end TypeTable

/-! ### Runs -/

theorem insertIdx_eq_append {α : Type} {xs : List α} {i : ℕ} (h : i ≤ xs.length) (x : α) :
    xs.insertIdx i x = xs.take i ++ x :: xs.drop i := by
  induction xs generalizing i with
  | nil =>
    obtain rfl : i = 0 := by simpa using h
    rfl
  | cons y ys ih =>
    cases i with
    | zero => rfl
    | succ i =>
      rw [List.insertIdx_succ_cons, ih (by simpa using h)]
      rfl

/-- The trees of the other files are those of the run without the file. -/
theorem Config.trees_insertIdx {c : Config} {r : Request} {x : FileDescriptor} {i : ℕ}
    (hi : i ≤ r.files.length) (hdependencies : ∀ f ∈ r.files, x.name ∉ f.dependencies)
    (htypes : ∀ f ∈ r.files, ∀ n ∈ x.typeNames, n ∉ f.typeNames) {trees trees' : List SourceFile}
    (h : c.trees r = .ok trees)
    (h' : c.trees { r with files := r.files.insertIdx i x } = .ok trees') :
    trees'.eraseIdx i = trees := by
  obtain ⟨-, -, htrees⟩ := trees_eq_ok_iff.1 h
  obtain ⟨-, -, htrees'⟩ := trees_eq_ok_iff.1 h'
  have hsplit : r.files.take i ++ r.files.drop i = r.files := List.take_append_drop i r.files
  dsimp only at htrees'
  -- both lists of trees are made with the table that has the file in it
  have herased := forall₂_eraseIdx htrees' i
  rw [List.eraseIdx_insertIdx_self, insertIdx_eq_append hi, ← mapM_eq_ok_iff] at herased
  have hsame : List.Forall₂ (fun f tree => SourceFile.ofDescriptor c
      (.ofFiles (r.files.take i ++ x :: r.files.drop i)) r.compilerVersion f = .ok tree)
      r.files trees := by
    have hall := (List.forall₂_and_left _ _).2 ⟨fun f hf => hf, htrees⟩
    refine hall.imp fun f tree hf => ?_
    rw [← hsplit] at hdependencies htypes hf
    exact SourceFile.ofDescriptor_extends (TypeTable.extends_insert htypes)
      (TypeTable.importDependencies_insert hdependencies hf.1) hf.2
  rw [← mapM_eq_ok_iff, herased] at hsame
  exact Except.ok.inj hsame

/-- **Files that no other file depends on do not interfere**: if a run succeeds with and without
such a file and no other file declares a type of one of its names, the other files come out the
same, byte for byte, at whatever position the file stands. The name of the file may be any. -/
theorem generate_insertIdx (c : Config) {r : Request} {x : FileDescriptor} {i : ℕ}
    (hi : i ≤ r.files.length) (hdependencies : ∀ f ∈ r.files, x.name ∉ f.dependencies)
    (htypes : ∀ f ∈ r.files, ∀ n ∈ x.typeNames, n ∉ f.typeNames)
    {out out' : List GeneratedFile} (h : c.run r = .ok out)
    (h' : c.run { r with files := r.files.insertIdx i x } = .ok out') :
    out'.eraseIdx i = out ∧
      out'[i]?.map (·.name) = some ((ModulePath.ofFile x.name).fileName ".ts") := by
  obtain ⟨trees, htrees, rfl⟩ := Config.run_eq_ok_iff.1 h
  obtain ⟨trees', htrees', rfl⟩ := Config.run_eq_ok_iff.1 h'
  constructor
  · rw [List.eraseIdx_map, Config.trees_insertIdx hi hdependencies htypes htrees htrees']
  · obtain ⟨-, -, hall⟩ := Config.trees_eq_ok_iff.1 htrees'
    obtain ⟨tree, htree, hx⟩ := exists_of_getElem? hall
      ((List.getElem?_insertIdx_self).trans (if_pos hi))
    obtain ⟨types, services, -, -, rfl⟩ := SourceFile.ofDescriptor_eq_ok_iff.1 hx
    rw [List.getElem?_map, htree]
    rfl

/-- A file with a message. -/
def thornFile : FileDescriptor where
  name := "thorn.proto"
  package := "hedge"
  messages := [{ name := "Thorn" }]

/-- A file that refers to the other. -/
def bushFile : FileDescriptor where
  name := "bush.proto"
  package := "hedge"
  dependencies := ["thorn.proto"]
  messages := [{
    name := "Bush"
    fields := [
      { name? := "thorns", label? := some 3, type? := some 11, typeName? := ".hedge.Thorn" }] }]

/-- A file of the same package that depends on both and exports one of them again. -/
def ivyFile : FileDescriptor where
  name := "ivy.proto"
  package := "hedge"
  dependencies := ["thorn.proto", "bush.proto"]
  publicDependencies := [1]
  messages := [{
    name := "Ivy"
    fields := [{ name? := "bush", type? := some 11, typeName? := ".hedge.Bush" }] }]

/-- A request for the first two files. -/
def hedgeRequest : Request where
  files := [thornFile, bushFile]

/-- The ivy stands between the files. -/
theorem generate_insertIdx_ivy : 1 ≤ hedgeRequest.files.length ∧
    (∀ f ∈ hedgeRequest.files, ivyFile.name ∉ f.dependencies) ∧
    (∀ f ∈ hedgeRequest.files, ∀ n ∈ ivyFile.typeNames, n ∉ f.typeNames) ∧
    ∃ out out', Config.default.run hedgeRequest = .ok out ∧
      Config.default.run { hedgeRequest with
        files := hedgeRequest.files.insertIdx 1 ivyFile } = .ok out' ∧
      out'.eraseIdx 1 = out ∧ out'[1]?.map (·.name) = some "ivy.ts" := by
  have hposition : 1 ≤ hedgeRequest.files.length := by decide
  have hdependencies : ∀ f ∈ hedgeRequest.files, ivyFile.name ∉ f.dependencies := by decide
  have htypes : ∀ f ∈ hedgeRequest.files, ∀ n ∈ ivyFile.typeNames, n ∉ f.typeNames := by decide
  have hok : (Config.default.run hedgeRequest).isOk := by decide +kernel
  have hok' : (Config.default.run { hedgeRequest with
      files := hedgeRequest.files.insertIdx 1 ivyFile }).isOk := by decide +kernel
  obtain ⟨out, hout⟩ := isOk_iff.1 hok
  obtain ⟨out', hout'⟩ := isOk_iff.1 hok'
  have hmodule : (ModulePath.ofFile ivyFile.name).fileName ".ts" = "ivy.ts" := by decide +kernel
  obtain ⟨hrest, hentry⟩ := generate_insertIdx .default hposition hdependencies htypes hout hout'
  exact ⟨hposition, hdependencies, htypes, out, out', hout, hout', hrest, hmodule ▸ hentry⟩

end ProtoTypeScript
