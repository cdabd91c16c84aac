import ProtoTypeScript.Proofs.Imports
import ProtoTypeScript.Proofs.Runs
import ProtoTypeScript.Proofs.TableExtension

/-!
# The order of the files of a request

Files may refer to each other and stand in a request in any order. `generate_perm` says that the
order decides nothing but the order of the generated files, if no two files have the same name and
no two types have the same qualified name.

The compiler's version is no part of the files, and every generated file shows it.
-/

namespace ProtoTypeScript

open Outcome

/-! ### The table -/

section Table

variable {files files' : List FileDescriptor} (hfiles : files.Perm files')

include hfiles

theorem TypeTable.extends_of_perm (htypes : (files.flatMap (·.typeNames)).Nodup) :
    (TypeTable.ofFiles files).Extends (TypeTable.ofFiles files') := by
  intro name r h
  have htypes' := (hfiles.flatMap_right (·.typeNames)).nodup_iff.1 htypes
  rw [find?_ofFiles_eq_some_iff htypes] at h
  rw [find?_ofFiles_eq_some_iff htypes']
  obtain ⟨f, hf, hr⟩ := h
  exact ⟨f, hfiles.mem_iff.1 hf, hr⟩

theorem TypeTable.reexportsOf_of_perm (hnames : (files.map (·.name)).Nodup) (name : String) :
    (TypeTable.ofFiles files).reexportsOf name = (TypeTable.ofFiles files').reexportsOf name := by
  have hmap := hfiles.map (·.name)
  by_cases hname : name ∈ files.map (·.name)
  · obtain ⟨f, hf, rfl⟩ := List.mem_map.1 hname
    rw [reexportsOf_ofFiles hnames hf,
      reexportsOf_ofFiles (hmap.nodup_iff.1 hnames) (hfiles.mem_iff.1 hf)]
  · rw [reexportsOf_ofFiles_of_notMem hname,
      reexportsOf_ofFiles_of_notMem (hmap.mem_iff.not.1 hname)]

theorem FileDescriptor.importDependencies_of_perm (hnames : (files.map (·.name)).Nodup)
    (f : FileDescriptor) : f.importDependencies (.ofFiles files') =
      f.importDependencies (.ofFiles files) := by
  rw [importDependencies_eq, importDependencies_eq, importNames, importNames,
    ImportClosure.names_congr fun name => (TypeTable.reexportsOf_of_perm hfiles hnames name).symm]

/-- A file gets the same tree in both orders. -/
theorem SourceFile.ofDescriptor_of_perm (hnames : (files.map (·.name)).Nodup)
    (htypes : (files.flatMap (·.typeNames)).Nodup) {config : Config} {version : CompilerVersion}
    {f : FileDescriptor} {tree : SourceFile}
    (h : SourceFile.ofDescriptor config (.ofFiles files) version f = .ok tree) :
    SourceFile.ofDescriptor config (.ofFiles files') version f = .ok tree :=
  ofDescriptor_extends (TypeTable.extends_of_perm hfiles htypes)
    (f.importDependencies_of_perm hfiles hnames) h

end Table

/-! ### Runs -/

/-- The compiler's version stands in the header and decides nothing else. -/
theorem SourceFile.ofDescriptor_version {config : Config} {table : TypeTable}
    {version : CompilerVersion} {file : FileDescriptor} {tree : SourceFile}
    (h : SourceFile.ofDescriptor config table version file = .ok tree)
    (version' : CompilerVersion) :
    SourceFile.ofDescriptor config table version' file =
      .ok { tree with header := file.header version' } := by
  obtain ⟨types, services, htypes, hservices, rfl⟩ := ofDescriptor_eq_ok_iff.1 h
  exact ofDescriptor_eq_ok_iff.2 ⟨types, services, htypes, hservices, rfl⟩

/-- The files of a run have trees of their own, which come with the files to another order. -/
theorem Config.trees_of_perm {c : Config} {r r' : Request} (hfiles : r.files.Perm r'.files)
    (hnames : (r.files.map (·.name)).Nodup) (htypes : (r.files.flatMap (·.typeNames)).Nodup)
    {trees : List SourceFile} (h : c.trees r = .ok trees) :
    ∃ tree : FileDescriptor → SourceFile,
      trees = r.files.map (fun f => { tree f with header := f.header r.compilerVersion }) ∧
      c.trees r' =
        .ok (r'.files.map fun f => { tree f with header := f.header r'.compilerVersion }) := by
  obtain ⟨hversion, hwell, htrees⟩ := trees_eq_ok_iff.1 h
  have : Nonempty SourceFile := ⟨⟨"", [], [], []⟩⟩
  choose! tree htree using fun f (hf : f ∈ r.files) => exists_of_mem_left htrees hf
  refine ⟨tree, ?_, ?_⟩
  · -- the tree chosen for a file is the one that the run has in its place
    have hall := (List.forall₂_and_left _ _).2 ⟨fun f hf => hf, htrees⟩
    rw [← List.map_id trees]
    refine map_eq_map_of_forall₂ hall fun f t hft => ?_
    have hheader := SourceFile.ofDescriptor_version (htree f hft.1).2 r.compilerVersion
    exact Except.ok.inj (hft.2.symm.trans hheader)
  · refine trees_eq_ok_iff.2 ⟨hversion, fun f hf => hwell f (hfiles.mem_iff.2 hf), ?_⟩
    rw [List.forall₂_map_right_iff, List.forall₂_same]
    intro f hf
    have hperm := SourceFile.ofDescriptor_of_perm hfiles hnames htypes
      (htree f (hfiles.mem_iff.2 hf)).2
    -- the order changes no tree, and the version nothing but its header
    exact SourceFile.ofDescriptor_version hperm r'.compilerVersion

theorem Config.exists_generate_of_perm {c : Config} {r r' : Request}
    (hfiles : r.files.Perm r'.files) (hnames : (r.files.map (·.name)).Nodup)
    (htypes : (r.files.flatMap (·.typeNames)).Nodup) (h : ∃ out, c.run r = .ok out) :
    ∃ out, c.run r' = .ok out := by
  obtain ⟨out, hout⟩ := h
  obtain ⟨trees, htrees, rfl⟩ := run_eq_ok_iff.1 hout
  obtain ⟨tree, -, htree⟩ := trees_of_perm hfiles hnames htypes htrees
  exact ⟨_, run_eq_ok_iff.2 ⟨_, htree, rfl⟩⟩

/-- **The order of the files decides nothing but the order of what is generated**: a run succeeds in
both orders or in neither, and each file becomes the same, up to the version of the compiler that
the request names. -/
theorem generate_perm (c : Config) {r r' : Request} (hfiles : r.files.Perm r'.files)
    (hnames : (r.files.map (·.name)).Nodup) (htypes : (r.files.flatMap (·.typeNames)).Nodup) :
    ((∃ out, c.run r = .ok out) ↔ ∃ out, c.run r' = .ok out) ∧
    ∀ out out', c.run r = .ok out → c.run r' = .ok out' →
      (∃ tree : FileDescriptor → SourceFile,
        out = r.files.map (fun f =>
          .ofSource { tree f with header := f.header r.compilerVersion }) ∧
        out' = r'.files.map (fun f =>
          .ofSource { tree f with header := f.header r'.compilerVersion })) ∧
      (r.compilerVersion = r'.compilerVersion →
        ∃ g : FileDescriptor → GeneratedFile, out = r.files.map g ∧ out' = r'.files.map g) := by
  have hnames' := (hfiles.map (·.name)).nodup_iff.1 hnames
  have htypes' := (hfiles.flatMap_right (·.typeNames)).nodup_iff.1 htypes
  refine ⟨⟨Config.exists_generate_of_perm hfiles hnames htypes,
    Config.exists_generate_of_perm hfiles.symm hnames' htypes'⟩, ?_⟩
  intro out out' hout hout'
  obtain ⟨trees, htrees, rfl⟩ := Config.run_eq_ok_iff.1 hout
  obtain ⟨trees', htrees', rfl⟩ := Config.run_eq_ok_iff.1 hout'
  obtain ⟨tree, rfl, htree⟩ := Config.trees_of_perm hfiles hnames htypes htrees
  obtain rfl : trees' = _ := Except.ok.inj (htrees'.symm.trans htree)
  refine ⟨⟨tree, List.map_map, List.map_map⟩, fun hversion => ?_⟩
  exact ⟨_, List.map_map, hversion ▸ List.map_map⟩

/-- A file with a message. -/
def leafFile : FileDescriptor where
  name := "leaf.proto"
  package := "wood"
  messages := [{ name := "Leaf" }]

/-- A file that refers to the other. -/
def branchFile : FileDescriptor where
  name := "tree/branch.proto"
  package := "wood.tree"
  dependencies := ["leaf.proto"]
  messages := [{
    name := "Branch"
    fields := [{
      name? := "leaves"
      label? := some 3
      type? := some 11
      typeName? := ".wood.Leaf" }] }]

/-- The two files, the one that is referred to first. -/
def leafFirst : Request where
  files := [leafFile, branchFile]

/-- The two files the other way round. -/
def leafLast : Request where
  files := [branchFile, leafFile]

theorem generate_perm_swapped :
    leafFirst.files.Perm leafLast.files ∧ (leafFirst.files.map (·.name)).Nodup ∧
      (leafFirst.files.flatMap (·.typeNames)).Nodup ∧
      ∃ g : FileDescriptor → GeneratedFile,
        Config.default.run leafFirst = .ok (leafFirst.files.map g) ∧
        Config.default.run leafLast = .ok (leafLast.files.map g) := by
  have hfiles : leafFirst.files.Perm leafLast.files := .swap _ _ _
  have hnames : (leafFirst.files.map (·.name)).Nodup := by decide
  have htypes : (leafFirst.files.flatMap (·.typeNames)).Nodup := by decide
  have hok : (Config.default.run leafFirst).isOk := by decide +kernel
  obtain ⟨hiff, hsame⟩ := generate_perm .default hfiles hnames htypes
  obtain ⟨out, hout⟩ := isOk_iff.1 hok
  obtain ⟨out', hout'⟩ := hiff.1 ⟨out, hout⟩
  obtain ⟨g, rfl, rfl⟩ := (hsame out out' hout hout').2 rfl
  exact ⟨hfiles, hnames, htypes, g, hout, hout'⟩

/-- A request for one empty file. -/
def emptyFileRequest (version : CompilerVersion) : Request where
  files := [{ name := "empty.proto" }]
  compilerVersion := version

theorem generate_depends_on_version :
    ¬ ∀ (c : Config) (r r' : Request), r.files.Perm r'.files → (r.files.map (·.name)).Nodup →
      (r.files.flatMap (·.typeNames)).Nodup →
      ((∃ out, c.run r = .ok out) ↔ ∃ out, c.run r' = .ok out) ∧
      ∀ out out', c.run r = .ok out → c.run r' = .ok out' →
        ∃ g : FileDescriptor → GeneratedFile, out = r.files.map g ∧ out' = r'.files.map g := by
  intro h
  have hok : (Config.default.run (emptyFileRequest ⟨3, 0, 0, ""⟩)).isOk := by decide +kernel
  have hok' : (Config.default.run (emptyFileRequest ⟨4, 0, 0, ""⟩)).isOk := by decide +kernel
  have hne : (Config.default.run (emptyFileRequest ⟨3, 0, 0, ""⟩)).toOption ≠
      (Config.default.run (emptyFileRequest ⟨4, 0, 0, ""⟩)).toOption := by decide +kernel
  obtain ⟨out, hout⟩ := isOk_iff.1 hok
  obtain ⟨out', hout'⟩ := isOk_iff.1 hok'
  obtain ⟨g, rfl, rfl⟩ := (h .default (emptyFileRequest ⟨3, 0, 0, ""⟩)
    (emptyFileRequest ⟨4, 0, 0, ""⟩) .rfl (by decide) (by decide)).2 out out' hout hout'
  rw [hout, hout'] at hne
  exact hne rfl

end ProtoTypeScript
