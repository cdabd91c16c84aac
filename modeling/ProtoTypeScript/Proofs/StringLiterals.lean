import Mathlib.Algebra.Ring.Parity
import Mathlib.Data.List.DropRight
import ProtoTypeScript.Proofs.EscapeGrammar
import ProtoTypeScript.Proofs.QuotedTexts
import ProtoTypeScript.Script.Accessors

/-!
# String literals read back

A reader for the string literals of ECMAScript, as far as this library writes them: between double
quotes stand characters and the escapes of a quote, a backslash, a line feed, a carriage return, a
tab and `\uXXXX`. It stops at the first quote that is not escaped, and gives the code units of the
string. It takes no line terminator as it is, U+2028 and U+2029 included.

* `readLiteral?_quote`: whatever stands behind a literal, the literal of a text ends where it
  should, and its code units are those of the text;
* `stringValue_injective`: no two texts have the same code units;
* `escapedAfter_iff`: a character is escaped just if an odd number of backslashes stands before it;
* `quote_faithful` puts these together, and says that a string field with a default has its literal
  for the default expression.
-/

namespace ProtoTypeScript

namespace Text

/-! ### Strings of code units -/

/-- The UTF-16 code units of a character. -/
def codeUnits (c : Char) : List ℕ :=
  if c.toNat < 0x10000 then [c.toNat]
  else [0xD800 + (c.toNat - 0x10000) / 0x400, 0xDC00 + (c.toNat - 0x10000) % 0x400]

/-- The code units of a text. -/
def stringValue (s : String) : List ℕ :=
  s.toList.flatMap codeUnits

theorem codeUnits_of_lt {c : Char} (h : c.toNat < 0x10000) : codeUnits c = [c.toNat] :=
  if_pos h

/-- No character is a surrogate. -/
theorem toNat_lt_or_lt (c : Char) : c.toNat < 0xD800 ∨ 0xDFFF < c.toNat ∧ c.toNat < 0x110000 :=
  c.valid

theorem codeUnits_append_inj {c d : Char} {xs ys : List ℕ}
    (h : codeUnits c ++ xs = codeUnits d ++ ys) : c = d ∧ xs = ys := by
  have hc := toNat_lt_or_lt c
  have hd := toNat_lt_or_lt d
  rw [← Char.toNat_inj]
  unfold codeUnits at h
  split_ifs at h <;> simp only [List.cons_append, List.nil_append, List.cons.injEq] at h
  · exact h
  · omega
  · omega
  · exact ⟨by omega, h.2.2⟩

theorem flatMap_codeUnits_injective {cs ds : List Char}
    (h : cs.flatMap codeUnits = ds.flatMap codeUnits) : cs = ds := by
  have hne : ∀ c, codeUnits c ≠ [] := fun c => by
    unfold codeUnits
    split_ifs <;> simp
  induction cs generalizing ds with
  | nil =>
    cases ds with
    | nil => rfl
    | cons d ds => simp [hne d] at h
  | cons c cs ih =>
    cases ds with
    | nil => simp [hne c] at h
    | cons d ds =>
      rw [List.flatMap_cons, List.flatMap_cons] at h
      obtain ⟨rfl, hrest⟩ := codeUnits_append_inj h
      rw [ih hrest]

theorem stringValue_injective : Function.Injective stringValue := fun _ _ h =>
  String.toList_inj.1 (flatMap_codeUnits_injective h)

/-! ### The reader -/

/-- The line terminators of ECMAScript. -/
def isLineTerminator (c : Char) : Bool :=
  c.toNat == 0x0A || c.toNat == 0x0D || c.toNat == 0x2028 || c.toNat == 0x2029

/-- Where in a literal the reader is. -/
inductive LiteralMode
  | plain
  /-- After a backslash. -/
  | escaped
  /-- In `\uXXXX`, with so many digits to come after the next one and the number of those before. -/
  | unicode (left code : ℕ)

/-- The code units up to the quote that ends the literal, and what follows the quote. -/
def readString? : LiteralMode → List Char → Option (List ℕ × List Char)
  | _, [] => none
  | .plain, c :: cs =>
    if c = '"' then some ([], cs)
    else if c = '\\' then readString? .escaped cs
    else if isLineTerminator c then none
    else (readString? .plain cs).map fun r => (codeUnits c ++ r.1, r.2)
  | .escaped, c :: cs =>
    if c = 'u' then readString? (.unicode 3 0) cs
    else
      match singleEscapes.lookup c with
      | none => none
      | some unit => (readString? .plain cs).map fun r => (unit :: r.1, r.2)
  | .unicode left code, c :: cs =>
    match CEscape.hexDigits.lookup c, left with
    | none, _ => none
    | some digit, 0 => (readString? .plain cs).map fun r => ((16 * code + digit) :: r.1, r.2)
    | some digit, left + 1 => readString? (.unicode left (16 * code + digit)) cs

/-- The code units of the literal that a text starts with, and what follows the literal. -/
def readLiteral? : List Char → Option (List ℕ × List Char)
  | '"' :: cs => readString? .plain cs
  | _ => none

/-! ### Reading literals -/

variable {c : Char} {cs : List Char}

theorem readString?_unicodeEscape {n : ℕ} (hn : n < 0x10000) (rest : List Char) :
    readString? .plain (unicodeEscape n ++ rest) =
      (readString? .plain rest).map fun r => (n :: r.1, r.2) := by
  have hdigit : ∀ k, CEscape.hexDigits.lookup (Nat.digitChar (k % 16)) = some (k % 16) := by
    have hall : ∀ k < 16, CEscape.hexDigits.lookup (Nat.digitChar k) = some k := by decide
    exact fun k => hall _ (Nat.mod_lt k (by decide))
  have hnumber : 16 * (16 * (16 * (16 * 0 + n / 4096 % 16) + n / 256 % 16) + n / 16 % 16) + n % 16 =
      n := by omega
  simp only [unicodeEscape, List.cons_append, List.nil_append, readString?, hdigit, hnumber,
    if_true, if_false, Char.reduceEq]

theorem Quoted.readString?_append (h : Quoted c cs) (rest : List Char) :
    readString? .plain (cs ++ rest) =
      (readString? .plain rest).map fun r => (codeUnits c ++ r.1, r.2) := by
  cases h with
  | self hc hquote hbackslash =>
    have hterminator : isLineTerminator c = false := by
      unfold IsHarmless at hc
      simp only [isLineTerminator, Bool.or_eq_false_iff, beq_eq_false_iff_ne]
      omega
    simp [readString?, hquote, hbackslash, hterminator]
  | @single mark h =>
    have htable : ∀ e ∈ singleEscapes,
        e.1 ≠ 'u' ∧ singleEscapes.lookup e.1 = some e.2 ∧ e.2 < 0x10000 := by decide
    obtain ⟨hletter, hunit, hlt⟩ := htable _ h
    rw [codeUnits_of_lt hlt]
    simp [readString?, hletter, hunit]
  | unicode h =>
    rw [readString?_unicodeEscape h, codeUnits_of_lt h]
    rfl

/-- A literal ends with its own quote, whatever follows, and denotes the text. -/
theorem readLiteral?_quote (s : String) (rest : List Char) :
    readLiteral? ((quote s).toList ++ rest) = some (stringValue s, rest) := by
  have hinside : ∀ cs : List Char, readString? .plain (cs.flatMap quoteChar ++ '"' :: rest) =
      some (cs.flatMap codeUnits, rest) := by
    intro cs
    induction cs with
    | nil => rfl
    | cons c cs ih =>
      rw [List.flatMap_cons, List.append_assoc, (quoted_quoteChar c).readString?_append, ih,
        Option.map_some, List.flatMap_cons]
  rw [toList_quote, quoteChars, List.cons_append, List.cons_append, List.append_assoc]
  exact hinside s.toList

theorem quote_injective : Function.Injective quote := by
  intro s t h
  have hread := readLiteral?_quote s []
  rw [h, readLiteral?_quote] at hread
  simp only [Option.some.injEq, Prod.mk.injEq, and_true] at hread
  exact stringValue_injective hread.symm

/-! ### Escaped quotes -/

/-- Whether the character after `cs` is escaped: a backslash that is not escaped escapes the next
character. -/
def escapedAfter (escaped : Bool) (cs : List Char) : Bool :=
  cs.foldl (fun escaped c => c == '\\' && !escaped) escaped

theorem escapedAfter_append (escaped : Bool) (xs ys : List Char) :
    escapedAfter escaped (xs ++ ys) = escapedAfter (escapedAfter escaped xs) ys :=
  List.foldl_append

/-- The backslashes right before a character decide whether it is escaped. -/
theorem escapedAfter_iff (cs : List Char) :
    escapedAfter false cs = true ↔ Odd (cs.rtakeWhile (· == '\\')).length := by
  induction cs using List.reverseRecOn with
  | nil => simp [escapedAfter]
  | append_singleton cs c ih =>
    rw [escapedAfter_append]
    by_cases hc : (c == '\\') = true
    · rw [List.rtakeWhile_concat_pos (· == '\\') cs c hc, List.length_append, List.length_singleton,
        Nat.odd_add_one, ← ih]
      simp [escapedAfter, hc]
    · rw [List.rtakeWhile_concat_neg (· == '\\') cs c hc]
      simp [escapedAfter, hc]

theorem Quoted.escapedAfter_eq (h : Quoted c cs) : escapedAfter false cs = false := by
  cases h with
  | self _ _ hbackslash => simp [escapedAfter, hbackslash]
  | single => simp [escapedAfter]
  | unicode =>
    have hdigit := forall_digitChar (P := (· ≠ '\\')) (by decide)
    simp [escapedAfter, unicodeEscape, hdigit]

/-- The only quote in what a character is written as is an escaped one. -/
theorem Quoted.eq_of_quote {before after : List Char} (h : Quoted c (before ++ '"' :: after)) :
    before = ['\\'] ∧ after = [] := by
  generalize hcs : before ++ '"' :: after = cs at h
  have hmem : '"' ∈ cs := by simp [← hcs]
  cases h with
  | self _ hquote => exact absurd (List.mem_singleton.1 hmem).symm hquote
  | single =>
    rcases before with _ | ⟨b, _ | ⟨b', before⟩⟩
    · simp at hcs
    · simp only [List.cons_append, List.nil_append, List.cons.injEq] at hcs
      exact ⟨by rw [hcs.1], hcs.2.2⟩
    · simp at hcs
  | unicode =>
    have hdigit := forall_digitChar (P := ('"' ≠ ·)) (by decide)
    simp [unicodeEscape, hdigit] at hmem

/-- A quote behind the first one ends the literal just if it is not escaped. -/
theorem ends_iff_not_escaped {cs before after : List Char}
    (h : cs.flatMap quoteChar ++ ['"'] = before ++ '"' :: after) :
    after = [] ↔ escapedAfter false before = false := by
  induction cs generalizing before with
  | nil =>
    rcases before with _ | ⟨b, before⟩
    · simpa [escapedAfter, eq_comm] using h
    · simp at h
  | cons c cs ih =>
    rw [List.flatMap_cons, List.append_assoc] at h
    rcases List.append_eq_append_iff.1 h with ⟨inside, rfl, hrest⟩ | ⟨inside, hc, hrest⟩
    · -- The quote stands behind what `c` is written as.
      rw [escapedAfter_append, (quoted_quoteChar c).escapedAfter_eq]
      exact ih hrest
    · rcases inside with _ | ⟨d, inside⟩
      · rw [List.append_nil] at hc
        rw [← hc, (quoted_quoteChar c).escapedAfter_eq]
        exact @ih [] hrest.symm
      · -- The quote is a part of that, and then it stands behind a backslash.
        obtain ⟨rfl, rfl⟩ : d = '"' ∧ after = inside ++ (cs.flatMap quoteChar ++ ['"']) := by
          simpa [eq_comm] using hrest
        obtain ⟨rfl, rfl⟩ := (hc ▸ quoted_quoteChar c).eq_of_quote
        simp [escapedAfter]

end Text

open Text

/-! ### Literals of texts -/

/-- The getter of a field that holds one scalar asks for the default as the declaration has it. -/
theorem FieldDeclaration.getterValue_scalar {d : FieldDeclaration} {scalar : Scalar}
    (htype : d.type = .scalar scalar) (hsingle : d.isRepeated = false) (runtime : String) :
    Script.getterValue runtime d =
      Script.messageCall runtime "getFieldWithDefault"
        ["this", Script.decimal d.number, d.defaultValue] ++ " as " ++ scalar.tsType := by
  simp [Script.getterValue, Script.propertyType, FieldDeclaration.shape, FieldType.shape,
    FieldType.tsType, htype, hsingle]

/-- **The literal of a text denotes the text**, and ends where it should whatever follows. It holds
neither controls nor line terminators and, between its own two, no quote that is not escaped. A
string field is declared with the literal of its default, and its getter asks for that. -/
theorem quote_faithful (s : String) :
    (∀ rest, readLiteral? ((quote s).toList ++ rest) = some (stringValue s, rest)) ∧
    (∀ c ∈ (quote s).toList, IsHarmless c) ∧
    (∀ before after, (quote s).toList = '"' :: before ++ '"' :: after →
      (after = [] ↔ ¬ Odd (before.rtakeWhile (· == '\\')).length)) ∧
    (∀ t, quote s = quote t → s = t) ∧
    ∀ (scope : FileScope) (f : FieldDescriptor), f.valueType = .scalar .string →
      f.isRepeated = false → f.defaultValue? = some s →
      ∃ d, scope.fieldDeclaration f = .ok d ∧ d.defaultValue = quote s ∧
        ∀ runtime, Script.getterValue runtime d =
          Script.messageCall runtime "getFieldWithDefault"
            ["this", Script.decimal f.number, quote s] ++ " as string" := by
  refine ⟨readLiteral?_quote s, fun _ => isHarmless_of_mem_quote, fun before after h => ?_,
    fun _ => @quote_injective _ _, fun scope f htype hsingle hdefault => ?_⟩
  · rw [toList_quote, quoteChars, List.cons_append, List.cons_append, List.cons.injEq] at h
    rw [ends_iff_not_escaped h.2, ← escapedAfter_iff, Bool.not_eq_true]
  · have hexpression : FileScope.scalarExpression? .string s = some (quote s) := rfl
    obtain ⟨d, hd, hnumber, hscalar, hrepeated, hvalue⟩ :=
      FileScope.exists_fieldDeclaration_of_default (s := scope) htype hsingle hdefault hexpression
    refine ⟨d, hd, hvalue, fun runtime => ?_⟩
    rw [FieldDeclaration.getterValue_scalar hscalar hrepeated, hnumber, hvalue, String.append_assoc]
    rfl

/-- A field whose default has a backslash before a quote, a control, a line separator and a
character that takes two code units. -/
def larkField : FieldDescriptor where
  name? := "song"
  number? := some 3
  type? := some 9
  defaultValue? := "\\\"\x07\u2028😀"

theorem quote_faithful_lark :
    quote "\\\"\x07\u2028😀" = "\"\\\\\\\"\\u0007\\u2028😀\"" ∧
    readLiteral? (quote "\\\"\x07\u2028😀").toList =
      some ([0x5C, 0x22, 0x07, 0x2028, 0xD83D, 0xDE00], []) ∧
    (∀ t, quote "\\\"\x07\u2028😀" = quote t → "\\\"\x07\u2028😀" = t) ∧
    Odd ("\\\\\\".toList.rtakeWhile (· == '\\')).length ∧
    ∃ d, (FileScope.ofFile .default .empty {}).fieldDeclaration larkField = .ok d ∧
      Script.getterValue "pb_1" d = "pb_1.Message.getFieldWithDefault(this, 3, " ++
        "\"\\\\\\\"\\u0007\\u2028😀\") as string" := by
  obtain ⟨hread, -, hquotes, hinjective, hfield⟩ := quote_faithful "\\\"\x07\u2028😀"
  have hquote : quote "\\\"\x07\u2028😀" = "\"\\\\\\\"\\u0007\\u2028😀\"" := by
    decide +kernel
  refine ⟨hquote, ?_, hinjective, ?_, ?_⟩
  · have hunits : stringValue "\\\"\x07\u2028😀" = [0x5C, 0x22, 0x07, 0x2028, 0xD83D, 0xDE00] := by
      decide +kernel
    rw [← hunits, ← hread [], List.append_nil]
  · -- The quote after three backslashes is not the last one.
    have hinner := hquotes ['\\', '\\', '\\'] "\\u0007\\u2028😀\"".toList (by
      rw [hquote]
      decide +kernel)
    by_contra hodd
    exact absurd (hinner.2 hodd) (by decide +kernel)
  · obtain ⟨d, hd, -, hgetter⟩ := hfield (.ofFile .default .empty {}) larkField rfl rfl rfl
    refine ⟨d, hd, ?_⟩
    rw [hgetter, hquote]
    decide +kernel

end ProtoTypeScript
