import Mathlib.Data.List.Induction
import Mathlib.Data.Nat.Digits.Defs
import ProtoTypeScript.Proofs.OneLine
import ProtoTypeScript.Proofs.StringLiterals

/-!
# Property names of TypeScript

A property of an object is named in two ways. Where it is declared, its name is an identifier name
or a string literal; behind a point it is an identifier name. Either may be written with escapes,
and an identifier name goes as far as it can.

Which characters beyond ASCII stand in identifiers is left to `IdentifierChars`.

* `IdentifierName` and `PropertyName` say which texts name which properties;
* `Reads` says how a text is read that starts with such a name;
* `identifierName_self_iff`, `propertyName_self_iff`: a text names the property of that name just if
  it is an identifier name without escapes; no string literal does;
* `isName_of_isIdentifier`: the names of protobuf are such names.
-/

namespace ProtoTypeScript

open Text Text.CEscape

theorem toNat_lt_of_isAlphanum {c : Char} (h : c.isAlphanum = true) : c.toNat < 128 := by
  have hZ : ('Z' : Char).val.toNat = 90 := rfl
  have hz : ('z' : Char).val.toNat = 122 := rfl
  have h9 : ('9' : Char).val.toNat = 57 := rfl
  delta Char.isAlphanum Char.isAlpha Char.isUpper Char.isLower at h
  simp only [Char.isDigit, Bool.or_eq_true, Bool.and_eq_true, decide_eq_true_eq,
    UInt32.le_iff_toNat_le, ge_iff_le] at h
  unfold Char.toNat
  omega

/-- The characters that identifiers start with and consist of. -/
structure IdentifierChars where
  start : Char → Bool
  part : Char → Bool
  start_ascii : ∀ c, c.toNat < 128 → start c = (c.isAlpha || c == '_' || c == '$')
  part_ascii : ∀ c, c.toNat < 128 → part c = (c.isAlphanum || c == '_' || c == '$')

/-- `SpellsChar allowed c cs`: an allowed character, as it is or by its code in hexadecimal. -/
inductive SpellsChar (allowed : Char → Bool) (c : Char) : List Char → Prop
  | self (h : allowed c = true) : SpellsChar allowed c [c]
  | escape (h : allowed c = true) {digits : List (Char × ℕ)} (hdigits : digits ⊆ hexDigits)
      (hlength : digits.length = 4)
      (hcode : c.toNat = Nat.ofDigits 16 (digits.map Prod.snd).reverse) :
      SpellsChar allowed c ('\\' :: 'u' :: digits.map Prod.fst)
  | codePoint (h : allowed c = true) {digits : List (Char × ℕ)} (hdigits : digits ⊆ hexDigits)
      (hne : digits ≠ []) (hcode : c.toNat = Nat.ofDigits 16 (digits.map Prod.snd).reverse) :
      SpellsChar allowed c ('\\' :: 'u' :: '\x7b' :: (digits.map Prod.fst ++ ['\x7d']))

theorem SpellsChar.allowed {allowed : Char → Bool} {c : Char} {cs : List Char}
    (h : SpellsChar allowed c cs) : allowed c = true := by
  cases h <;> assumption

namespace IdentifierChars

variable (chars : IdentifierChars)

/-- The texts of identifier names, and the names. -/
inductive IdentifierName : List Char → List Char → Prop
  | start {c : Char} {text : List Char} (h : SpellsChar chars.start c text) :
      IdentifierName text [c]
  | part {text name piece : List Char} {c : Char} (h : IdentifierName text name)
      (hc : SpellsChar chars.part c piece) : IdentifierName (text ++ piece) (name ++ [c])

/-- The texts that declare a property, and its name: identifier names and string literals. -/
inductive PropertyName : List Char → List Char → Prop
  | identifier {text name : List Char} (h : chars.IdentifierName text name) : PropertyName text name
  | quoted {text name : List Char} (h : readLiteral? text = some (name.flatMap codeUnits, [])) :
      PropertyName text name

/-- What an identifier name ends in front of. -/
def Ends (rest : List Char) : Prop :=
  ∀ c ∈ rest.head?, chars.part c = false ∧ c ≠ '\\'

/-- `Reads Token text name rest`: the text starts with a name of `Token`, and `rest` follows it. -/
def Reads (Token : List Char → List Char → Prop) (text name rest : String) : Prop :=
  ∃ token, text.toList = token ++ rest.toList ∧ Token token name.toList ∧ chars.Ends rest.toList

/-- A name that is written without escapes. -/
def IsName (cs : List Char) : Prop :=
  ∃ c rest, cs = c :: rest ∧ chars.start c = true ∧ ∀ d ∈ rest, chars.part d = true

/-! ### Names that are written as they are -/

variable {chars} {text name : List Char}

/-- What an identifier name names is a name. -/
theorem IdentifierName.isName (h : chars.IdentifierName text name) : chars.IsName name := by
  induction h with
  | start h => exact ⟨_, [], rfl, h.allowed, by simp⟩
  | part _ hc ih =>
    obtain ⟨c, rest, rfl, hstart, hrest⟩ := ih
    refine ⟨c, rest ++ [_], rfl, hstart, ?_⟩
    rw [List.forall_mem_append, List.forall_mem_singleton]
    exact ⟨hrest, hc.allowed⟩

theorem IsName.identifierName (h : chars.IsName name) : chars.IdentifierName name name := by
  obtain ⟨c, rest, rfl, hstart, hrest⟩ := h
  -- Names grow at their end.
  induction rest using List.reverseRecOn with
  | nil => exact .start (.self hstart)
  | append_singleton rest d ih =>
    rw [List.forall_mem_append, List.forall_mem_singleton] at hrest
    exact .part (ih hrest.1) (.self hrest.2)

/-- **An identifier name is its own name just if it has no escapes.** -/
theorem identifierName_self_iff : chars.IdentifierName name name ↔ chars.IsName name :=
  ⟨IdentifierName.isName, IsName.identifierName⟩

theorem length_flatMap_codeUnits_lt (c : Char) (cs : List Char) :
    (cs.flatMap codeUnits).length < ((c :: cs).flatMap codeUnits).length := by
  have hone : 1 ≤ (codeUnits c).length := by
    unfold codeUnits
    split_ifs <;> simp
  rw [List.flatMap_cons, List.length_append]
  omega

/-- Every code unit of a literal takes a code unit of its text, and the quote behind them one. -/
theorem length_readString?_lt {mode : LiteralMode} {cs : List Char} {r : List ℕ × List Char}
    (h : readString? mode cs = some r) :
    r.1.length + (r.2.flatMap codeUnits).length < (cs.flatMap codeUnits).length := by
  -- By the reader's own cases: those that refuse, the quote, those that give no code unit and those
  -- that give some.
  fun_induction readString? mode cs generalizing r with
  | case1 | case4 | case7 | case9 => cases h
  | case2 cs =>
    cases h
    simpa using length_flatMap_codeUnits_lt '"' cs
  | case3 c cs ih => exact (ih h).trans (length_flatMap_codeUnits_lt _ _)
  | case6 cs ih => exact (ih h).trans (length_flatMap_codeUnits_lt _ _)
  | case11 code c cs digit left _ ih => exact (ih h).trans (length_flatMap_codeUnits_lt _ _)
  | case5 c cs _ _ _ ih =>
    obtain ⟨r', hr', rfl⟩ := Option.map_eq_some_iff.1 h
    have hlength := ih hr'
    simp only [List.flatMap_cons, List.length_append]
    omega
  | case8 c cs _ unit _ ih =>
    obtain ⟨r', hr', rfl⟩ := Option.map_eq_some_iff.1 h
    have hlength := ih hr'
    have hmore := length_flatMap_codeUnits_lt c cs
    simp only [List.length_cons]
    omega
  | case10 code c cs digit _ ih =>
    obtain ⟨r', hr', rfl⟩ := Option.map_eq_some_iff.1 h
    have hlength := ih hr'
    have hmore := length_flatMap_codeUnits_lt c cs
    simp only [List.length_cons]
    omega

/-- No literal is the text that it denotes. -/
theorem readLiteral?_ne_self : readLiteral? name ≠ some (name.flatMap codeUnits, []) := by
  intro h
  cases name with
  | nil => cases h
  | cons c cs =>
    have hquote : c = '"' := by
      by_contra hne
      simp [readLiteral?, hne] at h
    subst hquote
    have hlength := length_readString?_lt h
    have hmore := length_flatMap_codeUnits_lt '"' cs
    simp only [List.flatMap_nil, List.length_nil] at hlength
    omega

/-- **A text declares the property of that name just if it is an identifier name** without
escapes. -/
theorem propertyName_self_iff : chars.PropertyName name name ↔ chars.IsName name := by
  constructor
  · rintro (h | h)
    · exact h.isName
    · exact absurd h readLiteral?_ne_self
  · exact fun h => .identifier h.identifierName

/-! ### Reading -/

theorem reads_self_iff (Token : List Char → List Char → Prop) {key rest : String}
    (hends : chars.Ends rest.toList) :
    chars.Reads Token (key ++ rest) key rest ↔ Token key.toList key.toList := by
  constructor
  · rintro ⟨token, htext, htoken, -⟩
    rw [String.toList_append, List.append_cancel_right_eq] at htext
    exact htext ▸ htoken
  · exact fun h => ⟨key.toList, String.toList_append, h, hends⟩

/-! ### ASCII -/

theorem part_of_isAlphanum {c : Char} (h : c.isAlphanum = true) : chars.part c = true := by
  rw [chars.part_ascii c (toNat_lt_of_isAlphanum h), h, Bool.true_or, Bool.true_or]

theorem start_of_isAlphanum {c : Char} (h : c.isAlphanum = true) : chars.start c = c.isAlpha := by
  have hmark : ∀ d : Char, d.isAlphanum = false → (c == d) = false := by
    intro d hd
    rw [beq_eq_false_iff_ne]
    rintro rfl
    cases hd.symm.trans h
  rw [chars.start_ascii c (toNat_lt_of_isAlphanum h), hmark '_' rfl, hmark '$' rfl, Bool.or_false,
    Bool.or_false]

/-- A name of protobuf is a name of TypeScript. -/
theorem isName_of_isIdentifier {s : String} (h : IsIdentifier s) : chars.IsName s.toList := by
  -- letters, digits and underscores of a name are all of ASCII
  have hword : ∀ c, (c.isAlphanum || c == '_') = true →
      chars.part c = true ∧ (c.isDigit = false → chars.start c = true) := by
    intro c hc
    rw [Bool.or_eq_true, beq_iff_eq] at hc
    obtain hc | rfl := hc
    · refine ⟨part_of_isAlphanum hc, fun hdigit => ?_⟩
      rw [start_of_isAlphanum hc]
      rwa [Char.isAlphanum, hdigit, Bool.or_false] at hc
    · exact ⟨chars.part_ascii '_' (by decide), fun _ => chars.start_ascii '_' (by decide)⟩
  rw [IsIdentifier] at h
  cases hs : s.toList with
  | nil =>
    rw [hs] at h
    cases h
  | cons c rest =>
    rw [hs, isIdentifier, Bool.and_eq_true, Bool.not_eq_true_eq_eq_false, List.all_cons,
      Bool.and_eq_true, List.all_eq_true] at h
    obtain ⟨hdigit, hc, hrest⟩ := h
    exact ⟨c, rest, rfl, (hword c hc).2 hdigit, fun d hd => (hword d (hrest d hd)).1⟩

/-- Punctuation ends an identifier name. -/
theorem ends_of_startsWithin {s : String} (h : StartsWithin [' ', '.', ')', ';', '?'] s) :
    chars.Ends s.toList := by
  obtain ⟨c, hc, hhead⟩ := h
  have hpunctuation : c.toNat < 128 ∧ c ≠ '\\' ∧
      (c.isAlphanum || c == '_' || c == '$') = false := by
    simp only [List.mem_cons, List.not_mem_nil, or_false] at hc
    obtain rfl | rfl | rfl | rfl | rfl := hc <;> decide
  obtain ⟨hlt, hbackslash, hno⟩ := hpunctuation
  intro d hd
  obtain rfl := Option.some.inj (hhead.symm.trans hd)
  exact ⟨by rw [chars.part_ascii c hlt, hno], hbackslash⟩

/-- The identifiers without characters beyond ASCII. -/
def ascii : IdentifierChars where
  start c := c.isAlpha || c == '_' || c == '$'
  part c := c.isAlphanum || c == '_' || c == '$'
  start_ascii _ _ := rfl
  part_ascii _ _ := rfl

end IdentifierChars

end ProtoTypeScript
