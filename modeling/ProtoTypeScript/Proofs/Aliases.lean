import Std.Data.String.ToNat
import Mathlib.Data.List.Basic
import ProtoTypeScript.Declaration.File

/-!
# Identifiers of imports

`AliasScope.importAll` gives `dependency_1`, `dependency_2` and so on to the listed files.

* `importAll_imports`: the imports, in the order of the files;
* `identifierFor?_importAll`: the identifier bound to each file;
* `dependencyIdentifier_inj`: no two of the first `2 ^ 32` identifiers are the same.
-/

namespace ProtoTypeScript

/-- The identifier of the dependency at a position, which is counted in 32 bits. -/
def dependencyIdentifier (position : Nat) : String :=
  "dependency_" ++ toString (UInt32.ofNat (position + 1)).toNat

theorem dependencyIdentifier_of_lt {i : Nat} (h : i + 1 < UInt32.size) :
    dependencyIdentifier i = "dependency_" ++ toString (i + 1) := by
  rw [dependencyIdentifier, UInt32.toNat_ofNat_of_lt' h]

theorem dependencyIdentifier_inj {i j : Nat} (hi : i < UInt32.size) (hj : j < UInt32.size) :
    dependencyIdentifier i = dependencyIdentifier j ↔ i = j := by
  constructor
  · intro h
    have hcounted : (UInt32.ofNat (i + 1)).toNat = (UInt32.ofNat (j + 1)).toNat :=
      Nat.repr_inj.1 (String.append_right_inj _ |>.1 h)
    have hsize : UInt32.size = 2 ^ 32 := rfl
    rw [UInt32.toNat_ofNat', UInt32.toNat_ofNat'] at hcounted
    omega
  · rintro rfl
    rfl

namespace AliasScope

theorem lookup_insertBinding_of_ne {key other : String} (value : String)
    (bindings : List (String × String)) (h : other ≠ key) :
    (insertBinding key value bindings).lookup other = bindings.lookup other := by
  have hkey : (other == key) = false := by simp [h]
  induction bindings with
  | nil => simp [insertBinding, List.lookup_cons, hkey]
  | cons head rest ih =>
    obtain ⟨k, v⟩ := head
    unfold insertBinding
    split_ifs with hlt heq
    · rw [List.lookup_cons, hkey]
    · subst heq
      rw [List.lookup_cons, List.lookup_cons, hkey]
    · rw [List.lookup_cons, List.lookup_cons, ih]

theorem identifierFor?_bind_of_ne (s : AliasScope) {dependency other : String}
    (identifier : String) (h : other ≠ dependency) :
    (s.bind dependency identifier).identifierFor? other = s.identifierFor? other :=
  lookup_insertBinding_of_ne identifier s.identifiers h

/-- What is bound for the first of the files, and for the scope after it. -/
theorem importOne_eq (s : AliasScope) (importer : ModulePath) (d : String) {n : Nat}
    (h : s.count "dependency" = UInt32.ofNat n) :
    s.importOne importer d = ((s.countUp "dependency").bind d (dependencyIdentifier n),
      ⟨dependencyIdentifier n, (ModulePath.ofFile d).specifier importer⟩) := by
  have hname : "dependency" ++ "_" ++ toString (s.count "dependency" + 1).toNat =
      dependencyIdentifier n := by
    rw [h, dependencyIdentifier, UInt32.ofNat_add]
    rfl
  rw [importOne, uniqueName, hname]

theorem count_bind (s : AliasScope) (dependency identifier base : String) :
    (s.bind dependency identifier).count base = s.count base := rfl

theorem count_importOne {s : AliasScope} {n : Nat} (h : s.count "dependency" = UInt32.ofNat n)
    (d identifier : String) :
    ((s.countUp "dependency").bind d identifier).count "dependency" = UInt32.ofNat (n + 1) := by
  rw [count_bind, count_countUp_self, h, UInt32.ofNat_add]
  rfl

/-- The imports of files are numbered in their order. -/
theorem importAll_imports (s : AliasScope) (importer : ModulePath) (ds : List String) {n : Nat}
    (h : s.count "dependency" = UInt32.ofNat n) :
    (s.importAll importer ds).2 = ds.mapIdx fun i d =>
      ⟨dependencyIdentifier (n + i), (ModulePath.ofFile d).specifier importer⟩ := by
  induction ds generalizing s n with
  | nil => rfl
  | cons d ds ih =>
    have hcount := count_importOne h d (dependencyIdentifier n)
    rw [importAll, importOne_eq s importer d h, List.mapIdx_cons]
    simp only [ih _ hcount, Nat.add_zero]
    refine congrArg _ (List.mapIdx_eq_mapIdx_iff.2 fun i hi => ?_)
    rw [Nat.add_assoc, Nat.add_comm 1 i]

theorem identifierFor?_importAll_of_notMem (s : AliasScope) (importer : ModulePath)
    {ds : List String} {d : String} (hd : d ∉ ds) :
    (s.importAll importer ds).1.identifierFor? d = s.identifierFor? d := by
  induction ds generalizing s with
  | nil => rfl
  | cons e ds ih =>
    rw [List.mem_cons, not_or] at hd
    rw [importAll, importOne_eq s importer e UInt32.ofNat_toNat.symm]
    simp only [ih _ hd.2]
    rw [identifierFor?_bind_of_ne _ _ hd.1, identifierFor?_countUp]

/-- Each of the files is bound to the identifier of its import. -/
theorem identifierFor?_importAll (s : AliasScope) (importer : ModulePath) {ds : List String}
    (hds : ds.Nodup) {n : Nat} (h : s.count "dependency" = UInt32.ofNat n) {i : Nat} {d : String}
    (hi : ds[i]? = some d) :
    (s.importAll importer ds).1.identifierFor? d = some (dependencyIdentifier (n + i)) := by
  induction ds generalizing s n i with
  | nil => simp at hi
  | cons e ds ih =>
    rw [List.nodup_cons] at hds
    have hcount := count_importOne h e (dependencyIdentifier n)
    rw [importAll, importOne_eq s importer e h]
    cases i with
    | zero =>
      rw [List.getElem?_cons_zero, Option.some.injEq] at hi
      subst hi
      -- the files behind it are others, so the first keeps its identifier
      simp only [identifierFor?_importAll_of_notMem _ _ hds.1]
      exact identifierFor?_bind_self _ _ _
    | succ i =>
      rw [List.getElem?_cons_succ] at hi
      simp only [ih _ hds.2 hcount hi]
      rw [Nat.add_assoc, Nat.add_comm 1 i]

end AliasScope

end ProtoTypeScript
