/-!
# Numerals

The texts that count as numbers, over the ASCII digits only.

* `parseUInt32?` reads an unsigned decimal number of 32 bits; a plus sign may precede it;
* `isInteger` accepts signed decimal integers of 128 bits;
* `isDecimalFraction` accepts decimal fractions with an exponent, and the names of infinity and of
  the value that is not a number, in any case.
-/

namespace ProtoTypeScript.Text.Numeral

/-- One or more ASCII digits. -/
def isDigits (cs : List Char) : Bool :=
  !cs.isEmpty && cs.all Char.isDigit

/-- The number written by `cs`, or `none` unless `cs` is one or more digits. -/
def parseDigits? (cs : List Char) : Option Nat :=
  if isDigits cs then some (Nat.ofDigitChars 10 cs 0) else none

/-- An unsigned number of 32 bits, with an optional plus sign. -/
def parseUInt32? (cs : List Char) : Option UInt32 :=
  let digits :=
    match cs with
    | '+' :: rest => rest
    | _ => cs
  (parseDigits? digits).bind fun n => if n < UInt32.size then some (UInt32.ofNat n) else none

/-! ### Written numbers -/

theorem toList_toString (n : Nat) : (toString n).toList = Nat.toDigits 10 n :=
  String.toList_ofList

theorem isDigit_of_mem_toString {n : Nat} {c : Char} (h : c ∈ (toString n).toList) :
    c.isDigit = true := by
  rw [toList_toString] at h
  exact Nat.isDigit_of_mem_toDigits (by decide) (by decide) h

theorem parseDigits?_toDigits (n : Nat) : parseDigits? (Nat.toDigits 10 n) = some n := by
  have hdigits : isDigits (Nat.toDigits 10 n) = true := by
    simp only [isDigits, Bool.and_eq_true, List.all_eq_true]
    exact ⟨by simp, fun c => Nat.isDigit_of_mem_toDigits (by decide) (by decide)⟩
  rw [parseDigits?, if_pos hdigits, Nat.ofDigitChars_toDigits (by decide) (by decide)]

theorem parseDigits?_toString (n : Nat) : parseDigits? (toString n).toList = some n := by
  rw [toList_toString, parseDigits?_toDigits]

/-- A number of 32 bits reads back as itself. -/
theorem parseUInt32?_toString (n : UInt32) :
    parseUInt32? (toString n.toNat).toList = some n := by
  have hplus : ∀ rest, (toString n.toNat).toList = '+' :: rest → False := by
    intro rest h
    have hmem : '+' ∈ (toString n.toNat).toList := h ▸ List.mem_cons_self
    exact absurd (isDigit_of_mem_toString hmem) (by decide)
  rw [parseUInt32?, parseDigits?_toString, Option.bind_some, if_pos n.toNat_lt]
  · simp
  · exact hplus

/-! ### Other numbers -/

/-- The number 2^127, one above the largest integer of 128 bits with a sign. -/
def signedBound : Nat := 0x80000000000000000000000000000000

/-- The texts of integers from -2^127 to 2^127 - 1, with an optional sign. -/
def isInteger (cs : List Char) : Bool :=
  match cs with
  | '-' :: rest => (parseDigits? rest).any (· ≤ signedBound)
  | '+' :: rest => (parseDigits? rest).any (· < signedBound)
  | _ => (parseDigits? cs).any (· < signedBound)

/-- The text without the sign it may start with. -/
def dropSign : List Char → List Char
  | '+' :: rest => rest
  | '-' :: rest => rest
  | cs => cs

/-- Nothing, or `e` or `E`, an optional sign and digits. -/
def isExponent : List Char → Bool
  | [] => true
  | c :: rest => (c == 'e' || c == 'E') && isDigits (dropSign rest)

/-- Digits with an optional point among or before or after them, then an optional exponent. -/
def isUnsignedFraction (cs : List Char) : Bool :=
  let whole := cs.takeWhile Char.isDigit
  match cs.dropWhile Char.isDigit with
  | '.' :: rest =>
    !(whole.isEmpty && (rest.takeWhile Char.isDigit).isEmpty) &&
      isExponent (rest.dropWhile Char.isDigit)
  | rest => !whole.isEmpty && isExponent rest

/-- The names of values that are no decimal fraction. -/
def isSpecialName (cs : List Char) : Bool :=
  let name := cs.map Char.toLower
  name == "inf".toList || name == "infinity".toList || name == "nan".toList

/-- The texts of decimal fractions and special values, with an optional sign. -/
def isDecimalFraction (cs : List Char) : Bool :=
  isSpecialName (dropSign cs) || isUnsignedFraction (dropSign cs)

end ProtoTypeScript.Text.Numeral
