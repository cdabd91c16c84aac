import ProtoTypeScript.Text.Numeral
import ProtoTypeScript.Text.Split

/-!
# TypeScript versions

A version is a major and a minor number of 32 bits. `parse?` reads `5`, `5.2` and `5.2.3`; the third
number has to be one but is not kept. `text` writes both numbers, and `parse?_text` says that they
read back. Generated code needs version 4.9 or above: `isSupported_iff` says what that means for the
two numbers.
-/

namespace ProtoTypeScript

/-- A version of the TypeScript compiler. -/
structure TypeScriptVersion where
  major : UInt32
  minor : UInt32
  deriving DecidableEq, Repr

namespace TypeScriptVersion

/-- The oldest version that compiles the generated code. -/
def minimum : TypeScriptVersion := ⟨4, 9⟩

/-- The version that is assumed when none is given. -/
instance : Inhabited TypeScriptVersion := ⟨⟨5, 0⟩⟩

/-- Whether the version is the minimum or above, the major number deciding first. -/
def isSupported (v : TypeScriptVersion) : Bool :=
  minimum.major < v.major || (v.major == minimum.major && minimum.minor ≤ v.minor)

theorem isSupported_iff (v : TypeScriptVersion) :
    v.isSupported = true ↔
      4 < v.major.toNat ∨ (v.major.toNat = 4 ∧ 9 ≤ v.minor.toNat) := by
  simp [isSupported, minimum, UInt32.lt_iff_toNat_lt, UInt32.le_iff_toNat_le, ← UInt32.toNat_inj]

/-- The version as `major.minor`. -/
def text (v : TypeScriptVersion) : String :=
  toString v.major.toNat ++ "." ++ toString v.minor.toNat

/-- The version that one to three numbers between points denote. -/
def parse? (s : String) : Option TypeScriptVersion :=
  match (Text.splitOn '.' s.toList).mapM Text.Numeral.parseUInt32? with
  | some [major] => some ⟨major, 0⟩
  | some [major, minor] => some ⟨major, minor⟩
  | some [major, minor, _] => some ⟨major, minor⟩
  | _ => none

theorem toList_text (v : TypeScriptVersion) :
    v.text.toList = (toString v.major.toNat).toList ++ '.' :: (toString v.minor.toNat).toList := by
  simp [text]

theorem isDigit_or_eq_of_mem_text {v : TypeScriptVersion} {c : Char} (h : c ∈ v.text.toList) :
    c.isDigit = true ∨ c = '.' := by
  rw [toList_text, List.mem_append, List.mem_cons] at h
  rcases h with h | h | h
  · exact .inl (Text.Numeral.isDigit_of_mem_toString h)
  · exact .inr h
  · exact .inl (Text.Numeral.isDigit_of_mem_toString h)

/-- A version that is written reads back as itself. -/
theorem parse?_text (v : TypeScriptVersion) : parse? v.text = some v := by
  have hpoint : ∀ n : Nat, '.' ∉ (toString n).toList := fun n hmem =>
    absurd (Text.Numeral.isDigit_of_mem_toString hmem) (by decide)
  have hparts : Text.splitOn '.' v.text.toList =
      [(toString v.major.toNat).toList, (toString v.minor.toNat).toList] := by
    rw [toList_text, Text.splitOn_append, Text.splitOn_of_notMem (hpoint _),
      Text.splitOn_of_notMem (hpoint _)]
    rfl
  have hread : (Text.splitOn '.' v.text.toList).mapM Text.Numeral.parseUInt32? =
      some [v.major, v.minor] := by
    rw [hparts, List.mapM_cons, List.mapM_cons, Text.Numeral.parseUInt32?_toString,
      Text.Numeral.parseUInt32?_toString]
    rfl
  rw [parse?, hread]

end TypeScriptVersion

end ProtoTypeScript
