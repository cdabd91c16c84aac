import ProtoTypeScript.Proofs.EscapeGrammar
import ProtoTypeScript.Proofs.PrintedOneofs

/-!
# Byte strings in defaults

The default of a `bytes` field is a text in C escapes, and the same bytes can be written in many
ways.

* `WrittenByte` lists the ways of writing one byte: a printable ASCII character, a simple escape,
  three octal digits or two hexadecimal ones; `Spells` puts bytes one after the other, each written
  in any of its ways;
* `decode_of_spells`: decoding such a text gives the bytes back, whatever stands next to what;
* `readByteArray?` reads the numbers of an array expression;
* `default_of_spelled_bytes`: a field with such a default is declared, and the elements of the array
  that it defaults to are the bytes.
-/

namespace ProtoTypeScript

open Outcome

namespace Text.CEscape

/-! ### Ways of writing bytes -/

/-- A way of writing a byte. -/
inductive WrittenByte : UInt8 → List Char → Prop
  /-- A printable character of ASCII stands for itself, unless it is a backslash. -/
  | raw {c : Char} (hlow : 0x20 ≤ c.toNat) (hhigh : c.toNat ≤ 0x7E) (hc : c ≠ '\\') :
      WrittenByte (UInt8.ofNat c.toNat) [c]
  | simple {c : Char} {b : UInt8} (h : (c, b) ∈ simpleEscapes) : WrittenByte b ['\\', c]
  | octal {c d e : Char} {i j k : Nat} (hi : (c, i) ∈ octalDigits) (hj : (d, j) ∈ octalDigits)
      (hk : (e, k) ∈ octalDigits) {b : UInt8} (hb : b.toNat = 64 * i + 8 * j + k) :
      WrittenByte b ['\\', c, d, e]
  | hex {x c d : Char} (hx : x = 'x' ∨ x = 'X') {i j : Nat} (hi : (c, i) ∈ hexDigits)
      (hj : (d, j) ∈ hexDigits) {b : UInt8} (hb : b.toNat = 16 * i + j) :
      WrittenByte b ['\\', x, c, d]

/-- The text writes the bytes one after the other. -/
inductive Spells : List UInt8 → List Char → Prop
  | nil : Spells [] []
  | cons {b : UInt8} {bs : List UInt8} {part cs : List Char} (hb : WrittenByte b part)
      (h : Spells bs cs) : Spells (b :: bs) (part ++ cs)

/-! ### Decoding -/

theorem utf8EncodeChar_of_le {c : Char} (h : c.toNat ≤ 0x7E) :
    String.utf8EncodeChar c = [UInt8.ofNat c.toNat] :=
  if_pos (show c.val.toNat ≤ 127 from Nat.le_trans h (by decide))

/-- An octal escape of three digits leaves every digit after it alone. -/
theorem octalRun_of_three {c d e : Char} {i j k : Nat} (hi : (c, i) ∈ octalDigits)
    (hj : (d, j) ∈ octalDigits) (hk : (e, k) ∈ octalDigits) (rest : List Char) :
    OctalRun [(c, i), (d, j), (e, k)] rest where
  mem := by simp [hi, hj, hk]
  one_le := by simp
  le_three := by simp
  longest h := absurd h (by simp)

/-- However a byte is written, it may be put in front of a text of the grammar. -/
theorem WrittenByte.denotes {b : UInt8} {part : List Char} (h : WrittenByte b part)
    {cs : List Char} {bytes : List UInt8} (hcs : Denotes SignedHexPair cs bytes) :
    Denotes SignedHexPair (part ++ cs) (b :: bytes) := by
  cases h with
  | raw _ hhigh hc =>
    have hraw := Denotes.raw hc hcs
    rwa [utf8EncodeChar_of_le hhigh] at hraw
  | simple h => exact .escape (.simple h cs) hcs
  | @octal c d e i j k hi hj hk b hb =>
    have hvalue : b.toNat = Nat.ofDigits 8 [k, j, i] := by
      simp only [Nat.ofDigits_cons, Nat.ofDigits_nil]
      omega
    exact .escape (.octal (octalRun_of_three hi hj hk cs) hvalue) hcs
  | hex hx hi hj hb => exact .escape (.hex hx (.inl ⟨_, _, hi, hj, hb⟩) cs) hcs

theorem Spells.denotes {bytes : List UInt8} {cs : List Char} (h : Spells bytes cs) :
    Denotes SignedHexPair cs bytes := by
  induction h with
  | nil => exact .nil
  | cons hb _ ih => exact hb.denotes ih

theorem decode_of_spells {bytes : List UInt8} {cs : List Char} (h : Spells bytes cs) :
    decode cs = some bytes :=
  decode_eq_some_iff.2 h.denotes

end Text.CEscape

/-! ### Array expressions -/

/-- The elements of the array that an expression makes. -/
def readByteArray? (expression : String) : Option (List Nat) := do
  let array ← "new Uint8Array([".toList.isPrefixOf? expression.toList
  let (elements, rest) ← Text.splitOnce? ']' array
  guard (rest = [')'])
  if elements = [] then some [] else Script.readElements? elements

/-- The elements of the array are the bytes that it is written for. -/
theorem readByteArray?_bytesExpression (bytes : List UInt8) :
    readByteArray? (FileScope.bytesExpression bytes) = some (bytes.map UInt8.toNat) := by
  have hnumbers : List.Forall₂ (fun part n => Text.Numeral.parseDigits? part.toList = some n)
      (bytes.map fun b => toString b.toNat) (bytes.map UInt8.toNat) := by
    rw [List.forall₂_map_left_iff, List.forall₂_map_right_iff, List.forall₂_same]
    exact fun b _ => Text.Numeral.parseDigits?_toString b.toNat
  have hclose : ']' ∉ (Text.joinWith ", " (bytes.map fun b => toString b.toNat)).toList := by
    refine Text.notMem_joinWith (by decide) (List.forall_mem_map.2 fun b _ => ?_)
    exact Script.notMem_of_parseDigits? (Text.Numeral.parseDigits?_toString b.toNat) rfl
  have htext : (FileScope.bytesExpression bytes).toList = "new Uint8Array([".toList ++
      ((Text.joinWith ", " (bytes.map fun b => toString b.toNat)).toList ++ ']' :: [')']) := by
    unfold FileScope.bytesExpression
    rw [String.toList_append, String.toList_append, List.append_assoc]
    rfl
  rw [readByteArray?, htext, Script.isPrefixOf?_append]
  simp only [Option.bind_eq_bind, Option.bind_some, Text.splitOnce?_append hclose]
  -- of no elements there is nothing to read, and not one empty element
  by_cases hnil : bytes = []
  · rw [hnil]
    rfl
  · have helements := Script.readElements?_joinWith hnumbers (by simpa using hnil)
    have hne : (Text.joinWith ", " (bytes.map fun b => toString b.toNat)).toList ≠ [] := by
      intro h
      have hnone : Script.readElements? [] = none := by decide
      rw [h, hnone] at helements
      cases helements
    simp only [hne, if_false, helements]
    rfl

/-! ### Defaults -/

/-- A `bytes` field that is not repeated defaults to the array of the bytes of its default. -/
theorem FileScope.fieldDeclaration_bytes (s : FileScope) {f : FieldDescriptor} {text : String}
    {bytes : List UInt8} (htype : f.valueType = .scalar .bytes) (hsingle : f.isRepeated = false)
    (hdefault : f.defaultValue? = some text)
    (hbytes : Text.CEscape.decode text.toList = some bytes) :
    ∃ d, s.fieldDeclaration f = .ok d ∧ d.defaultValue = bytesExpression bytes := by
  have hexpression : scalarExpression? .bytes text = some (bytesExpression bytes) := by
    rw [scalarExpression?, hbytes, Option.map_some]
  obtain ⟨d, hd, -, -, -, hvalue⟩ :=
    s.exists_fieldDeclaration_of_default htype hsingle hdefault hexpression
  exact ⟨d, hd, hvalue⟩

/-- **A default that writes bytes is read as these bytes**: decoding gives them back, and a field
that has it for its default is declared with the array of them. -/
theorem default_of_spelled_bytes {bytes : List UInt8} {text : String}
    (h : Text.CEscape.Spells bytes text.toList) :
    Text.CEscape.decode text.toList = some bytes ∧
    ∀ (s : FileScope) (f : FieldDescriptor), f.valueType = .scalar .bytes →
      f.isRepeated = false → f.defaultValue? = some text →
      ∃ d, s.fieldDeclaration f = .ok d ∧
        d.defaultValue = "new Uint8Array([" ++
          Text.joinWith ", " (bytes.map fun b => toString b.toNat) ++ "])" ∧
        readByteArray? d.defaultValue = some (bytes.map UInt8.toNat) := by
  have hbytes := Text.CEscape.decode_of_spells h
  refine ⟨hbytes, fun s f htype hsingle hdefault => ?_⟩
  obtain ⟨d, hd, hvalue⟩ := s.fieldDeclaration_bytes htype hsingle hdefault hbytes
  refine ⟨d, hd, hvalue, ?_⟩
  rw [hvalue, readByteArray?_bytesExpression]

/-- A field whose default is a raw digit between escapes of all kinds. -/
def sealField : FieldDescriptor where
  name? := "seal"
  type? := some 12
  defaultValue? := "\\0017\\xfFa\\?\\X00"

theorem default_of_spelled_bytes_seal :
    Text.CEscape.Spells [1, 55, 255, 97, 63, 0] "\\0017\\xfFa\\?\\X00".toList ∧
      ∃ d, (FileScope.ofFile .default .empty {}).fieldDeclaration sealField = .ok d ∧
        readByteArray? d.defaultValue = some [1, 55, 255, 97, 63, 0] := by
  have hspells : Text.CEscape.Spells [1, 55, 255, 97, 63, 0] "\\0017\\xfFa\\?\\X00".toList := by
    refine .cons (.octal (c := '0') (d := '0') (e := '1') (i := 0) (j := 0) (k := 1) ?_ ?_ ?_ ?_) <|
      .cons (.raw (c := '7') ?_ ?_ ?_) <|
      .cons (.hex (x := 'x') (c := 'f') (d := 'F') (i := 15) (j := 15) ?_ ?_ ?_ ?_) <|
      .cons (.raw (c := 'a') ?_ ?_ ?_) <| .cons (.simple (c := '?') ?_) <|
      .cons (.hex (x := 'X') (c := '0') (d := '0') (i := 0) (j := 0) ?_ ?_ ?_ ?_) .nil
    all_goals decide
  obtain ⟨-, hfield⟩ := default_of_spelled_bytes hspells
  obtain ⟨d, hd, -, hread⟩ := hfield (.ofFile .default .empty {}) sealField rfl rfl rfl
  exact ⟨hspells, d, hd, hread⟩

end ProtoTypeScript
