import ProtoTypeScript.Generator
import ProtoTypeScript.Proofs.Lowering
import ProtoTypeScript.Proofs.Registration

/-!
# Successful runs

A run succeeds if the version of TypeScript is supported, no map entry is malformed and every file
gets a tree. The table that the trees are made with is that of all files, and the generated files
are named after the modules of the request's files, in their order.
-/

namespace ProtoTypeScript

open Outcome

/-- A run that fails writes no files, whether it has a response or not. -/
theorem Response.files_of_error (failure : Failure) :
    ∀ response ∈ Response.ofOutcome? (.error failure), response.files = [] := by
  cases failure with
  | reported e =>
    rintro _ ⟨⟩
    rfl
  | stackOverflow => exact fun _ h => nomatch h

namespace Config

/-- Each tree is made as if its file was the only one. -/
theorem trees_eq_bind (c : Config) (r : Request) : c.trees r = (do
    report c.checkVersion
    let table ← report (TypeTable.empty.registerAll r.files)
    r.files.mapM (SourceFile.ofDescriptor c table r.compilerVersion)) := by
  simp only [trees, SourceFile.lowerAll_empty]

theorem trees_eq_ok_iff {c : Config} {r : Request} {trees : List SourceFile} :
    c.trees r = .ok trees ↔ c.checkVersion = .ok () ∧ (∀ f ∈ r.files, f.EntriesWellFormed) ∧
      List.Forall₂ (fun f tree =>
        SourceFile.ofDescriptor c (.ofFiles r.files) r.compilerVersion f = .ok tree)
        r.files trees := by
  rw [trees_eq_bind, bind_eq_ok_iff]
  constructor
  · rintro ⟨⟨⟩, hversion, h⟩
    obtain ⟨table, htable, h⟩ := bind_eq_ok_iff.1 h
    obtain ⟨hwell, rfl⟩ := TypeTable.registerAll_eq_ok_iff.1 (report_eq_ok_iff.1 htable)
    exact ⟨report_eq_ok_iff.1 hversion, hwell, mapM_eq_ok_iff.1 h⟩
  · rintro ⟨hversion, hwell, h⟩
    refine ⟨(), report_eq_ok_iff.2 hversion,
      bind_eq_ok_iff.2 ⟨.ofFiles r.files, report_eq_ok_iff.2 ?_, mapM_eq_ok_iff.2 h⟩⟩
    exact TypeTable.registerAll_eq_ok_iff.2 ⟨hwell, rfl⟩

theorem run_eq_ok_iff {c : Config} {r : Request} {out : List GeneratedFile} :
    c.run r = .ok out ↔ ∃ trees, c.trees r = .ok trees ∧
      out = trees.map GeneratedFile.ofSource := by
  rw [run, bind_eq_ok_iff]
  constructor
  · rintro ⟨trees, htrees, h⟩
    exact ⟨trees, htrees, (pure_eq_ok_iff.1 h).symm⟩
  · rintro ⟨trees, htrees, rfl⟩
    exact ⟨trees, htrees, rfl⟩

/-- A run that succeeds generates one file for each of the request, in its order. -/
theorem names_of_run_eq_ok {c : Config} {r : Request} {out : List GeneratedFile}
    (h : c.run r = .ok out) :
    out.map (·.name) = r.files.map fun f => (ModulePath.ofFile f.name).fileName ".ts" := by
  obtain ⟨trees, htrees, rfl⟩ := run_eq_ok_iff.1 h
  obtain ⟨-, -, hall⟩ := trees_eq_ok_iff.1 htrees
  rw [List.map_map]
  refine map_eq_map_of_forall₂ hall fun f tree htree => ?_
  obtain ⟨types, services, -, -, rfl⟩ := SourceFile.ofDescriptor_eq_ok_iff.1 htree
  rfl

end Config

end ProtoTypeScript
