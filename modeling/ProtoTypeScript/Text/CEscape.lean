/-!
# Byte strings in C escapes

The default of a `bytes` field is a text in which a backslash starts an escape and every other
character stands for its UTF-8 bytes. The escapes are

* `\a \b \f \n \r \t \v`, and `\\ \? \' \"` for the character itself;
* a backslash and one to three octal digits, as many as there are, of value at most 255;
* `\x` or `\X` and a byte of two characters in hexadecimal, a plus sign allowed for the first.

`decode` reads such a text and has no answer for anything else, a lone backslash at the end
included.
-/

namespace ProtoTypeScript.Text.CEscape

/-! ### Single escapes -/

/-- The byte written by a backslash and one letter or mark. -/
def simpleByte? (c : Char) : Option UInt8 :=
  match c with
  | 'a' => some 0x07
  | 'b' => some 0x08
  | 'f' => some 0x0C
  | 'n' => some 0x0A
  | 'r' => some 0x0D
  | 't' => some 0x09
  | 'v' => some 0x0B
  | '\\' => some 0x5C
  | '?' => some 0x3F
  | '\x27' => some 0x27
  | '\x22' => some 0x22
  | _ => none

/-- The digits of base eight. -/
def isOctal (c : Char) : Bool :=
  '0' ≤ c && c ≤ '7'

/-- The number that octal digits denote. -/
def octalValue (digits : List Char) : Nat :=
  digits.foldl (fun n c => 8 * n + (c.toNat - '0'.toNat)) 0

/-- The value of a hexadecimal digit of either case. -/
def hexValue? (c : Char) : Option Nat :=
  if '0' ≤ c && c ≤ '9' then some (c.toNat - '0'.toNat)
  else if 'a' ≤ c && c ≤ 'f' then some (c.toNat - 'a'.toNat + 10)
  else if 'A' ≤ c && c ≤ 'F' then some (c.toNat - 'A'.toNat + 10)
  else none

/-- The byte of two characters in hexadecimal; the first may be a plus sign. -/
def hexByte? (high low : Char) : Option UInt8 :=
  match hexValue? high, hexValue? low with
  | some h, some l => some (UInt8.ofNat (16 * h + l))
  | none, some l => if high = '+' then some (UInt8.ofNat l) else none
  | _, none => none

/-- The byte of the escape that `cs` starts with, its backslash taken off, and what follows it. -/
def takeEscape : List Char → Option (UInt8 × List Char)
  | [] => none
  | c :: cs =>
    match simpleByte? c with
    | some byte => some (byte, cs)
    | none =>
      if isOctal c then
        let digits := (cs.take 2).takeWhile isOctal
        let value := octalValue (c :: digits)
        if value < 256 then some (UInt8.ofNat value, cs.drop digits.length) else none
      else if c = 'x' ∨ c = 'X' then
        match cs with
        | high :: low :: rest => (hexByte? high low).map (·, rest)
        | _ => none
      else none

theorem length_lt_of_takeEscape {cs rest : List Char} {byte : UInt8}
    (h : takeEscape cs = some (byte, rest)) : rest.length < cs.length := by
  cases cs with
  | nil => simp [takeEscape] at h
  | cons c cs =>
    simp only [takeEscape] at h
    split at h
    · simp only [Option.some.injEq, Prod.mk.injEq] at h
      simp [← h.2]
    · split at h
      · split at h
        · simp only [Option.some.injEq, Prod.mk.injEq] at h
          simp only [← h.2, List.length_drop, List.length_cons]
          omega
        · simp at h
      · split at h
        · split at h
          · simp only [Option.map_eq_some_iff, Prod.mk.injEq] at h
            obtain ⟨_, _, _, rfl⟩ := h
            simp only [List.length_cons]
            omega
          · simp at h
        · simp at h

/-! ### Texts -/

/-- The bytes that an escaped text denotes, or `none` when it is not well formed. -/
def decode (cs : List Char) : Option (List UInt8) :=
  match cs with
  | [] => some []
  | c :: cs =>
    if c = '\\' then
      match h : takeEscape cs with
      | none => none
      | some (byte, rest) =>
        have : rest.length < (c :: cs).length := Nat.lt_succ_of_lt (length_lt_of_takeEscape h)
        (decode rest).map (byte :: ·)
    else
      have : cs.length < (c :: cs).length := Nat.lt_succ_self _
      (decode cs).map (String.utf8EncodeChar c ++ ·)
termination_by cs.length
decreasing_by all_goals assumption

@[simp] theorem decode_nil : decode [] = some [] := by
  rw [decode]

theorem decode_cons {c : Char} (h : c ≠ '\\') (cs : List Char) :
    decode (c :: cs) = (decode cs).map (String.utf8EncodeChar c ++ ·) := by
  rw [decode, if_neg h]

theorem decode_backslash {cs rest : List Char} {byte : UInt8}
    (h : takeEscape cs = some (byte, rest)) :
    decode ('\\' :: cs) = (decode rest).map (byte :: ·) := by
  rw [decode, if_pos rfl]
  split
  · simp_all
  · rename_i h'
    rw [h] at h'
    simp only [Option.some.injEq, Prod.mk.injEq] at h'
    rw [h'.1, h'.2]

end ProtoTypeScript.Text.CEscape
