import Mathlib.Data.List.Induction
import Mathlib.Data.List.TakeWhile
import Mathlib.Data.Nat.Digits.Defs
import ProtoTypeScript.Proofs.ScalarDefaults
import ProtoTypeScript.Text.CEscape

/-!
# The grammar of byte strings

`Denotes pair` says which texts are byte strings in C escapes and which bytes they are: raw
characters and escapes one after the other. `pair` says which two characters may follow `\x` and
what number they are.

* `HexPair` is two hexadecimal digits. `SignedHexPair` lets the first be a plus sign as well, and
  this is what decoding reads;
* `decode_eq_some_iff`: decoding reads just the texts of the grammar, each as its bytes;
* `Denotes.of_no_sign`: where no plus sign follows `\x`, pairs of digits are all there is;
* `decode_grammar` says the same of fields: a text that is no byte string is refused, by its field's
  name;
* `decode_accepts_sign`: a text whose hexadecimal escape has a sign is read, though it is none of
  two digits.
-/

namespace ProtoTypeScript

namespace Text.CEscape

/-! ### The grammar -/

/-- The letters and marks after a backslash, with the bytes that they stand for. -/
def simpleEscapes : List (Char × UInt8) :=
  [('a', 7), ('b', 8), ('f', 12), ('n', 10), ('r', 13), ('t', 9), ('v', 11), ('\\', 92), ('?', 63),
    ('\x27', 39), ('\x22', 34)]

/-- The octal digits with their values. -/
def octalDigits : List (Char × Nat) :=
  "01234567".toList.zipIdx

/-- The hexadecimal digits of either case with their values. -/
def hexDigits : List (Char × Nat) :=
  "0123456789abcdef".toList.zipIdx ++ "0123456789ABCDEF".toList.zipIdx

/-- Two hexadecimal digits, and the number that they are. -/
def HexPair (high low : Char) (n : ℕ) : Prop :=
  ∃ i j, (high, i) ∈ hexDigits ∧ (low, j) ∈ hexDigits ∧ n = 16 * i + j

/-- Two hexadecimal digits, or a plus sign and one. -/
def SignedHexPair (high low : Char) (n : ℕ) : Prop :=
  HexPair high low n ∨ high = '+' ∧ (low, n) ∈ hexDigits

/-- One to three octal digits in front of `rest`, and as many as there are. -/
structure OctalRun (digits : List (Char × ℕ)) (rest : List Char) : Prop where
  mem : ∀ d ∈ digits, d ∈ octalDigits
  one_le : 1 ≤ digits.length
  le_three : digits.length ≤ 3
  longest : digits.length < 3 → ∀ c ∈ rest.head?, ∀ n, (c, n) ∉ octalDigits

/-- `Escape pair cs b rest`: behind a backslash, `cs` starts with an escape of the byte `b`, and
`rest` follows it. -/
inductive Escape (pair : Char → Char → ℕ → Prop) : List Char → UInt8 → List Char → Prop
  | simple {c : Char} {b : UInt8} (h : (c, b) ∈ simpleEscapes) (rest : List Char) :
      Escape pair (c :: rest) b rest
  | octal {digits : List (Char × ℕ)} {rest : List Char} (h : OctalRun digits rest) {b : UInt8}
      (hb : b.toNat = Nat.ofDigits 8 (digits.map Prod.snd).reverse) :
      Escape pair (digits.map Prod.fst ++ rest) b rest
  | hex {x high low : Char} (hx : x = 'x' ∨ x = 'X') {b : UInt8} (h : pair high low b.toNat)
      (rest : List Char) : Escape pair (x :: high :: low :: rest) b rest

/-- `Denotes pair cs bytes`: the text consists of characters other than the backslash, which stand
for their UTF-8 bytes, and of escapes. -/
inductive Denotes (pair : Char → Char → ℕ → Prop) : List Char → List UInt8 → Prop
  | nil : Denotes pair [] []
  | raw {c : Char} (hc : c ≠ '\\') {cs : List Char} {bytes : List UInt8}
      (h : Denotes pair cs bytes) : Denotes pair (c :: cs) (String.utf8EncodeChar c ++ bytes)
  | escape {cs rest : List Char} {b : UInt8} (hb : Escape pair cs b rest) {bytes : List UInt8}
      (h : Denotes pair rest bytes) : Denotes pair ('\\' :: cs) (b :: bytes)

/-! ### Digits and simple escapes -/

theorem simpleByte?_eq_some_iff {c : Char} {b : UInt8} :
    simpleByte? c = some b ↔ (c, b) ∈ simpleEscapes := by
  have htable : ∀ e ∈ simpleEscapes, simpleByte? e.1 = some e.2 := by decide
  refine ⟨fun h => ?_, htable (c, b)⟩
  unfold simpleByte? at h
  split at h <;> cases h
  all_goals decide

/-- What holds of every character with a code below a bound can be checked code by code. -/
theorem forall_of_toNat_lt {bound : ℕ} {P : Char → Prop} (h : ∀ n < bound, P (Char.ofNat n))
    {c : Char} (hc : c.toNat < bound) : P c := by
  have hcode := h c.toNat hc
  rwa [Char.ofNat_toNat] at hcode

theorem mem_octalDigits_iff {c : Char} {n : ℕ} :
    (c, n) ∈ octalDigits ↔ isOctal c = true ∧ c.toNat - '0'.toNat = n := by
  have htable : ∀ e ∈ octalDigits, isOctal e.1 = true ∧ e.1.toNat - '0'.toNat = e.2 := by decide
  refine ⟨htable (c, n), ?_⟩
  rintro ⟨hc, rfl⟩
  have hlt : c.toNat < 56 := by
    simp only [isOctal, Bool.and_eq_true, decide_eq_true_eq, Char.le_def,
      UInt32.le_iff_toNat_le] at hc
    exact Nat.lt_succ_of_le hc.2
  revert hc
  exact forall_of_toNat_lt (P := fun c => isOctal c = true → (c, c.toNat - '0'.toNat) ∈ octalDigits)
    (by decide) hlt

theorem exists_mem_octalDigits_iff {c : Char} : (∃ n, (c, n) ∈ octalDigits) ↔ isOctal c = true := by
  simp [mem_octalDigits_iff]

theorem hexValue?_eq_some_iff {c : Char} {n : ℕ} :
    hexValue? c = some n ↔ (c, n) ∈ hexDigits := by
  have htable : ∀ e ∈ hexDigits, hexValue? e.1 = some e.2 := by decide
  refine ⟨fun h => ?_, htable (c, n)⟩
  have hlt : c.toNat < 103 := by
    by_contra hnot
    have hlarge : ∀ d : Char, d.toNat < 103 → ¬ c ≤ d := fun d hd hle =>
      hnot (Nat.lt_of_le_of_lt (UInt32.le_iff_toNat_le.1 hle) hd)
    simp [hexValue?, hlarge '9' (by decide), hlarge 'f' (by decide), hlarge 'F' (by decide)] at h
  exact forall_of_toNat_lt (P := fun c => ∀ n ∈ hexValue? c, (c, n) ∈ hexDigits) (by decide) hlt n h

theorem lt_of_mem_hexDigits {c : Char} {n : ℕ} (h : (c, n) ∈ hexDigits) : n < 16 := by
  have htable : ∀ e ∈ hexDigits, e.2 < 16 := by decide
  exact htable (c, n) h

theorem ofNat_eq_iff {n : ℕ} (hn : n < 256) {b : UInt8} : UInt8.ofNat n = b ↔ b.toNat = n := by
  rw [← UInt8.toNat_inj, UInt8.toNat_ofNat_of_lt' hn, eq_comm]

theorem hexByte?_eq_some_iff {high low : Char} {b : UInt8} :
    hexByte? high low = some b ↔ SignedHexPair high low b.toNat := by
  unfold hexByte? SignedHexPair HexPair
  simp only [← hexValue?_eq_some_iff]
  cases hlow : hexValue? low with
  | none => cases hexValue? high <;> simp
  | some l =>
    have hl := lt_of_mem_hexDigits (hexValue?_eq_some_iff.1 hlow)
    cases hhigh : hexValue? high with
    | none =>
      -- a sign stands for a digit of value zero
      by_cases hplus : high = '+'
      · simp only [hplus, if_true, Option.some.injEq, ofNat_eq_iff (show l < 256 by omega)]
        simp [eq_comm]
      · simp [hplus]
    | some h =>
      have hh := lt_of_mem_hexDigits (hexValue?_eq_some_iff.1 hhigh)
      have hdigit : high ≠ '+' := by
        rintro rfl
        cases hhigh
      simp only [Option.some.injEq, ofNat_eq_iff (show 16 * h + l < 256 by omega)]
      simp [hdigit]

/-! ### Runs of octal digits -/

theorem octalValue_eq_ofDigits {digits : List (Char × ℕ)} (h : ∀ d ∈ digits, d ∈ octalDigits) :
    octalValue (digits.map Prod.fst) = Nat.ofDigits 8 (digits.map Prod.snd).reverse := by
  induction digits using List.reverseRecOn with
  | nil => rfl
  | append_singleton digits d ih =>
    obtain ⟨-, hd⟩ := mem_octalDigits_iff.1 (h d (by simp))
    have hinit := ih fun e he => h e (by simp [he])
    rw [octalValue] at hinit ⊢
    rw [List.map_append, List.foldl_append, hinit, List.map_append, List.reverse_append]
    simp only [List.map_cons, List.map_nil, List.foldl_cons, List.foldl_nil, hd,
      List.reverse_singleton, List.singleton_append, Nat.ofDigits_cons]
    omega

section Greedy

variable {α : Type} {p : α → Bool}

/-- Of at most `n` items in front, those are taken that satisfy `p` and are followed by no other. -/
theorem takeWhile_take_append {n : ℕ} {taken rest : List α} (hp : ∀ x ∈ taken, p x = true)
    (hn : taken.length ≤ n) (hstop : taken.length < n → ∀ x ∈ rest.head?, p x = false) :
    ((taken ++ rest).take n).takeWhile p = taken := by
  induction taken generalizing n with
  | nil =>
    cases n with
    | zero => rfl
    | succ n =>
      cases rest with
      | nil => rfl
      | cons x rest => simp [hstop (Nat.succ_pos n) x rfl]
  | cons x taken ih =>
    cases n with
    | zero => cases hn
    | succ n =>
      rw [List.forall_mem_cons] at hp
      rw [List.cons_append, List.take_succ_cons, List.takeWhile_cons_of_pos hp.1,
        ih hp.2 (Nat.le_of_succ_le_succ hn) fun h => hstop (Nat.succ_lt_succ h)]

theorem exists_eq_takeWhile_take_append (n : ℕ) (xs : List α) :
    ∃ rest, xs = (xs.take n).takeWhile p ++ rest ∧
      (((xs.take n).takeWhile p).length < n → ∀ x ∈ rest.head?, p x = false) := by
  induction n generalizing xs with
  | zero => exact ⟨xs, rfl, fun h => absurd h (Nat.not_lt_zero _)⟩
  | succ n ih =>
    cases xs with
    | nil => exact ⟨[], rfl, fun _ x hx => nomatch hx⟩
    | cons x xs =>
      by_cases hx : p x = true
      · obtain ⟨rest, hxs, hstop⟩ := ih xs
        refine ⟨rest, ?_, fun h => hstop ?_⟩
        · rw [List.take_succ_cons, List.takeWhile_cons_of_pos hx, List.cons_append, ← hxs]
        · rw [List.take_succ_cons, List.takeWhile_cons_of_pos hx] at h
          exact Nat.lt_of_succ_lt_succ h
      · refine ⟨x :: xs, ?_, fun _ y hy => ?_⟩
        · rw [List.take_succ_cons, List.takeWhile_cons_of_neg hx, List.nil_append]
        · obtain rfl := Option.some.inj hy
          simpa using hx

end Greedy

theorem octalRun_cons_iff {d : Char × ℕ} {digits : List (Char × ℕ)} {rest : List Char} :
    OctalRun (d :: digits) rest ↔ d ∈ octalDigits ∧ (∀ e ∈ digits, e ∈ octalDigits) ∧
      digits.length ≤ 2 ∧ (digits.length < 2 → ∀ c ∈ rest.head?, isOctal c = false) := by
  have hnone : ∀ c, isOctal c = false ↔ ∀ n, (c, n) ∉ octalDigits := fun c => by
    rw [← Bool.not_eq_true, ← exists_mem_octalDigits_iff, not_exists]
  simp only [hnone]
  constructor
  · rintro ⟨hmem, -, hlength, hlongest⟩
    rw [List.forall_mem_cons] at hmem
    exact ⟨hmem.1, hmem.2, Nat.le_of_succ_le_succ hlength,
      fun h => hlongest (Nat.succ_lt_succ h)⟩
  · rintro ⟨hd, hmem, hlength, hlongest⟩
    exact ⟨List.forall_mem_cons.2 ⟨hd, hmem⟩, Nat.succ_pos _, Nat.succ_le_succ hlength,
      fun h => hlongest (Nat.lt_of_succ_lt_succ h)⟩

/-! ### Decoding -/

theorem takeEscape_of_octalRun {digits : List (Char × ℕ)} {rest : List Char} {b : UInt8}
    (h : OctalRun digits rest) (hb : b.toNat = Nat.ofDigits 8 (digits.map Prod.snd).reverse) :
    takeEscape (digits.map Prod.fst ++ rest) = some (b, rest) := by
  cases digits with
  | nil => cases h.one_le
  | cons d digits =>
    rw [← octalValue_eq_ofDigits h.mem] at hb
    obtain ⟨hd, hmem, hlength, hstop⟩ := octalRun_cons_iff.1 h
    have hoctal : ∀ c ∈ digits.map Prod.fst, isOctal c = true := by
      rw [List.forall_mem_map]
      exact fun e he => (mem_octalDigits_iff.1 (hmem e he)).1
    have htaken : ((digits.map Prod.fst ++ rest).take 2).takeWhile isOctal =
        digits.map Prod.fst :=
      takeWhile_take_append hoctal (by simpa using hlength) (by simpa using hstop)
    -- no octal digit is a letter of a simple escape
    have htable : ∀ e ∈ octalDigits, simpleByte? e.1 = none ∧ isOctal e.1 = true := by decide
    rw [List.map_cons] at hb ⊢
    rw [List.cons_append]
    unfold takeEscape
    simp only [htable d hd, if_true, htaken, ← hb, b.toNat_lt, List.drop_left, UInt8.ofNat_toNat]

theorem takeEscape_of_escape {cs rest : List Char} {b : UInt8}
    (h : Escape SignedHexPair cs b rest) : takeEscape cs = some (b, rest) := by
  cases h with
  | simple h rest => simp only [takeEscape, simpleByte?_eq_some_iff.2 h]
  | octal h hb => exact takeEscape_of_octalRun h hb
  | @hex x high low hx b h rest =>
    have hletter : simpleByte? x = none ∧ isOctal x = false := by
      rcases hx with rfl | rfl <;> decide
    rw [takeEscape, hletter.1]
    simp only [hletter.2, Bool.false_eq_true, if_false, hx, if_true,
      hexByte?_eq_some_iff.2 h, Option.map_some]

/-- The digits that decoding takes are a run. -/
theorem escape_octal_of_isOctal {c : Char} {cs : List Char} (hc : isOctal c = true) {b : UInt8}
    (hb : b.toNat = octalValue (c :: (cs.take 2).takeWhile isOctal)) :
    Escape SignedHexPair (c :: cs) b (cs.drop ((cs.take 2).takeWhile isOctal).length) := by
  obtain ⟨rest, hcs, hstop⟩ := exists_eq_takeWhile_take_append (p := isOctal) 2 cs
  have hoctal : ∀ d ∈ (cs.take 2).takeWhile isOctal, isOctal d = true := fun d hd =>
    List.mem_takeWhile_imp hd
  have hlength : ((cs.take 2).takeWhile isOctal).length ≤ 2 :=
    Nat.le_trans (List.takeWhile_prefix _).length_le (by simp)
  -- the run is the first digit with those taken, each with its value
  generalize (cs.take 2).takeWhile isOctal = taken at hb hcs hstop hoctal hlength ⊢
  subst hcs
  rw [List.drop_left]
  have hchars : ((c :: taken).map fun d => (d, d.toNat - '0'.toNat)).map Prod.fst = c :: taken := by
    simp [Function.comp_def]
  have hrun : OctalRun ((c :: taken).map fun d => (d, d.toNat - '0'.toNat)) rest := by
    rw [List.map_cons, octalRun_cons_iff, List.forall_mem_map, List.length_map]
    exact ⟨mem_octalDigits_iff.2 ⟨hc, rfl⟩, fun d hd => mem_octalDigits_iff.2 ⟨hoctal d hd, rfl⟩,
      hlength, hstop⟩
  have hvalue := octalValue_eq_ofDigits hrun.mem
  rw [hchars, ← hb] at hvalue
  have hescape : Escape SignedHexPair _ b rest := .octal hrun hvalue
  rwa [hchars, List.cons_append] at hescape

theorem escape_of_takeEscape {cs rest : List Char} {b : UInt8}
    (h : takeEscape cs = some (b, rest)) : Escape SignedHexPair cs b rest := by
  cases cs with
  | nil => cases h
  | cons c cs =>
    unfold takeEscape at h
    cases hsimple : simpleByte? c with
    | some b' =>
      simp only [hsimple, Option.some.injEq, Prod.mk.injEq] at h
      obtain ⟨rfl, rfl⟩ := h
      exact .simple (simpleByte?_eq_some_iff.1 hsimple) _
    | none =>
      simp only [hsimple] at h
      split_ifs at h with hoctal hvalue hx
      · simp only [Option.some.injEq, Prod.mk.injEq] at h
        obtain ⟨hb, rfl⟩ := h
        exact escape_octal_of_isOctal hoctal ((ofNat_eq_iff hvalue).1 hb)
      · match cs, h with
        | high :: low :: cs, h =>
          simp only [Option.map_eq_some_iff, Prod.mk.injEq] at h
          obtain ⟨b', hb', rfl, rfl⟩ := h
          exact .hex hx (hexByte?_eq_some_iff.1 hb') _

/-- Decoding reads the grammar, a sign in front of a hexadecimal digit included. -/
theorem decode_eq_some_iff {cs : List Char} {bytes : List UInt8} :
    decode cs = some bytes ↔ Denotes SignedHexPair cs bytes := by
  constructor
  · intro h
    fun_induction decode cs generalizing bytes with
    | case1 =>
      obtain rfl := Option.some.inj h
      exact .nil
    | case2 => cases h
    | case3 cs b rest hescape _ ih =>
      obtain ⟨bytes, hrest, rfl⟩ := Option.map_eq_some_iff.1 h
      exact .escape (escape_of_takeEscape hescape) (ih hrest)
    | case4 c cs hc _ ih =>
      obtain ⟨bytes, hcs, rfl⟩ := Option.map_eq_some_iff.1 h
      exact .raw hc (ih hcs)
  · intro h
    induction h with
    | nil => exact decode_nil
    | raw hc _ ih => rw [decode_cons hc, ih, Option.map_some]
    | escape hb _ ih => rw [decode_backslash (takeEscape_of_escape hb), ih, Option.map_some]

/-! ### Signs -/

variable {pair : Char → Char → ℕ → Prop}

theorem Escape.suffix {cs rest : List Char} {b : UInt8} (h : Escape pair cs b rest) :
    rest <:+ cs := by
  cases h with
  | simple _ rest => exact List.suffix_cons _ rest
  | octal => exact List.suffix_append _ _
  | hex _ _ rest => exact List.suffix_append [_, _, _] rest

/-- Behind `x` stand the two characters of the escape. -/
theorem Escape.pair_of_letter {x high low : Char} (hx : x = 'x' ∨ x = 'X') {cs rest : List Char}
    {b : UInt8} (h : Escape pair (x :: high :: low :: cs) b rest) : pair high low b.toNat := by
  generalize htext : x :: high :: low :: cs = text at h
  -- the letter is in neither of the other two tables
  cases h with
  | @simple c b h rest =>
    have hletter : ∀ e ∈ simpleEscapes, e.1 ≠ 'x' ∧ e.1 ≠ 'X' := by decide
    obtain ⟨rfl, -⟩ := List.cons.inj htext
    rcases hx with rfl | rfl
    · exact absurd rfl (hletter _ h).1
    · exact absurd rfl (hletter _ h).2
  | @octal digits rest h b hb =>
    have hletter : ∀ e ∈ octalDigits, e.1 ≠ 'x' ∧ e.1 ≠ 'X' := by decide
    cases digits with
    | nil => cases h.one_le
    | cons d digits =>
      obtain ⟨rfl, -⟩ := List.cons.inj htext
      have hd := hletter d (h.mem d List.mem_cons_self)
      rcases hx with hx | hx
      · exact absurd hx hd.1
      · exact absurd hx hd.2
  | hex _ h rest =>
    simp only [List.cons.injEq] at htext
    obtain ⟨-, rfl, rfl, -⟩ := htext
    exact h

theorem Denotes.mono {pair' : Char → Char → ℕ → Prop}
    (hpair : ∀ high low n, pair high low n → pair' high low n) {cs : List Char} {bytes : List UInt8}
    (h : Denotes pair cs bytes) : Denotes pair' cs bytes := by
  induction h with
  | nil => exact .nil
  | raw hc _ ih => exact .raw hc ih
  | escape hb _ ih =>
    refine .escape ?_ ih
    cases hb with
    | simple h => exact .simple h _
    | octal h hb => exact .octal h hb
    | hex hx h => exact .hex hx (hpair _ _ _ h) _

/-- Where no sign follows the letter of an escape, hexadecimal escapes have two digits. -/
theorem Denotes.of_no_sign {cs : List Char} {bytes : List UInt8}
    (h : Denotes SignedHexPair cs bytes)
    (hsign : ∀ x ∈ ['x', 'X'], ¬ ['\\', x, '+'] <:+: cs) : Denotes HexPair cs bytes := by
  induction h with
  | nil => exact .nil
  | raw hc _ ih => exact .raw hc (ih fun x hx h => hsign x hx (List.infix_cons h))
  | @escape cs rest b hb bytes _ ih =>
    refine .escape ?_ (ih fun x hx h => hsign x hx (List.infix_cons (h.trans hb.suffix.isInfix)))
    cases hb with
    | simple h => exact .simple h _
    | octal h hb => exact .octal h hb
    | @hex x high low hx b h =>
      rcases h with h | ⟨rfl, -⟩
      · exact .hex hx h _
      · exact absurd (List.prefix_append ['\\', x, '+'] _).isInfix
          (hsign x (by simpa using hx))

end Text.CEscape

/-! ### Defaults -/

open Text.CEscape

/-- **Decoding accepts exactly the grammar**, and a `bytes` field whose default is no text of it is
refused: the error has the field's name and the text. A sign may stand in front of a single
hexadecimal digit; a text without such a sign is read just if its escapes have two digits. -/
theorem decode_grammar (text : String) :
    (∀ bytes, decode text.toList = some bytes ↔ Denotes SignedHexPair text.toList bytes) ∧
    ((∀ x ∈ ['x', 'X'], ¬ ['\\', x, '+'] <:+: text.toList) →
      ∀ bytes, decode text.toList = some bytes ↔ Denotes HexPair text.toList bytes) ∧
    ∀ (s : FileScope) (f : FieldDescriptor), f.valueType = .scalar .bytes →
      f.defaultValue? = some text → ∀ failure,
        (s.fieldDeclaration f = .error failure ↔ f.isRepeated = false ∧
          (∀ bytes, ¬ Denotes SignedHexPair text.toList bytes) ∧
          failure = .reported (.invalidDefault f.name text)) := by
  refine ⟨fun bytes => decode_eq_some_iff, fun hsign bytes => ?_, fun s f htype hdefault _ => ?_⟩
  · rw [decode_eq_some_iff]
    exact ⟨fun h => h.of_no_sign hsign, fun h => h.mono fun _ _ _ => Or.inl⟩
  · rw [FileScope.fieldDeclaration_eq_error_iff_of_default htype hdefault]
    have hnone : FileScope.scalarExpression? .bytes text = none ↔
        ∀ bytes, ¬ Denotes SignedHexPair text.toList bytes := by
      rw [FileScope.scalarExpression?, Option.map_eq_none_iff, Option.eq_none_iff_forall_ne_some]
      exact forall_congr' fun bytes => not_congr decode_eq_some_iff
    rw [hnone]

/-- A field whose default has an octal escape that is no byte. -/
def shoalField : FieldDescriptor where
  name? := "depth"
  type? := some 12
  defaultValue? := "\\x4a\\400"

theorem decode_grammar_shoal :
    (∀ x ∈ ['x', 'X'], ¬ ['\\', x, '+'] <:+: "\\x4a\\400".toList) ∧
    (∀ bytes, ¬ Denotes HexPair "\\x4a\\400".toList bytes) ∧
    (FileScope.ofFile .default .empty {}).fieldDeclaration shoalField =
      .error (.reported (.invalidDefault "depth" "\\x4a\\400")) := by
  obtain ⟨hdecode, hplain, hfield⟩ := decode_grammar "\\x4a\\400"
  have hplus : '+' ∉ "\\x4a\\400".toList := by decide +kernel
  have hsign : ∀ x ∈ ['x', 'X'], ¬ ['\\', x, '+'] <:+: "\\x4a\\400".toList := fun x _ h =>
    hplus (h.subset (by simp))
  have hnone : decode "\\x4a\\400".toList = none := by decide +kernel
  refine ⟨hsign, fun bytes h => ?_, (hfield _ shoalField rfl rfl _).2 ⟨rfl, fun bytes h => ?_, rfl⟩⟩
  · cases hnone.symm.trans ((hplain hsign bytes).2 h)
  · cases hnone.symm.trans ((hdecode bytes).2 h)

/-- A field whose default has a sign in a hexadecimal escape. -/
def signField : FieldDescriptor where
  name? := "sign"
  type? := some 12
  defaultValue? := "\\x+9"

/-- A sign and a digit are read as two digits are, though they are none. -/
theorem decode_accepts_sign :
    decode "\\x+9".toList = some [9] ∧ (∀ bytes, ¬ Denotes HexPair "\\x+9".toList bytes) ∧
    ∃ d, (FileScope.ofFile .default .empty {}).fieldDeclaration signField = .ok d ∧
      d.defaultValue = "new Uint8Array([9])" := by
  have hdecode : decode "\\x+9".toList = some [9] := by decide +kernel
  refine ⟨hdecode, fun bytes h => ?_, ?_⟩
  · have hplus : ∀ i, ('+', i) ∉ hexDigits := fun i hi =>
      nomatch (hexValue?_eq_some_iff.2 hi : hexValue? '+' = some i)
    cases h with
    | raw hc => exact hc rfl
    | escape hb _ =>
      obtain ⟨i, j, hi, -, -⟩ := hb.pair_of_letter (Or.inl rfl)
      exact hplus i hi
  · obtain ⟨d, hd, -, -, -, hvalue⟩ := FileScope.exists_fieldDeclaration_of_default
      (s := .ofFile .default .empty {}) (f := signField) rfl rfl rfl
      (show FileScope.scalarExpression? .bytes _ = some _ from
        congrArg (Option.map FileScope.bytesExpression) hdecode)
    exact ⟨d, hd, hvalue⟩

end ProtoTypeScript
