import Mathlib.Algebra.Order.Field.Rat
import Mathlib.Data.List.TakeWhile
import Mathlib.Data.Rat.Defs
import Mathlib.Tactic.Ring
import ProtoTypeScript.Text.Numeral

/-!
# The grammar of numbers

`Number Whole Name` says which texts are numbers and which number each is, exactly: a decimal
fraction of any length and exponent is a rational number. It is one grammar for two languages, which
differ in the digits that may stand in front of a point or an exponent (`Whole`) and in the names of
infinity and of the value that is not a number (`Name`).

* `fraction_iff` finds the parts of a fraction by where its digits stop; a text is therefore at most
  one number (`Number.unique`);
* `isDecimalFraction_iff`, `isInteger_iff`: the checks of numerals accept just the texts of the
  grammar with any digits and with names in any case, and of those just the integers of 128 bits;
* `exists_number_tidy_iff`: a number of that grammar is one of TypeScript's as well unless it has a
  digit behind a leading zero or a name that TypeScript does not know.
-/

namespace ProtoTypeScript.Text.Numeral

/-! ### Values -/

/-- A number, exactly. Zero has a sign. -/
inductive Value
  | finite (negative : Bool) (magnitude : ℚ)
  | infinite (negative : Bool)
  | nan
  deriving DecidableEq

instance : Neg Value where
  neg
    | .finite negative magnitude => .finite (!negative) magnitude
    | .infinite negative => .infinite (!negative)
    | .nan => .nan

/-! ### The grammar -/

/-- Digits, perhaps none. -/
def AreDigits (cs : List Char) : Prop :=
  ∀ c ∈ cs, c.isDigit = true

/-- `Signed P cs v`: a text of `P`, perhaps behind a sign. -/
inductive Signed {α : Type} [Neg α] (P : List Char → α → Prop) : List Char → α → Prop
  | bare {cs : List Char} {v : α} (h : P cs v) : Signed P cs v
  | plus {cs : List Char} {v : α} (h : P cs v) : Signed P ('+' :: cs) v
  | minus {cs : List Char} {v : α} (h : P cs v) : Signed P ('-' :: cs) (-v)

/-- One or more digits, and the number they are. -/
structure Digits (cs : List Char) (n : ℤ) : Prop where
  isDigits : isDigits cs = true
  value : n = Nat.ofDigitChars 10 cs 0

/-- Nothing, or a letter `e` in either case in front of digits with or without a sign. -/
inductive Exponent : List Char → ℤ → Prop
  | absent : Exponent [] 0
  | letter {c : Char} (hc : c = 'e' ∨ c = 'E') {cs : List Char} {n : ℤ} (h : Signed Digits cs n) :
      Exponent (c :: cs) n

/-- The number with the digits `whole` before the point and `decimals` behind it. -/
def decimal (whole decimals : List Char) (exponent : ℤ) : ℚ :=
  Nat.ofDigitChars 10 (whole ++ decimals) 0 * 10 ^ (exponent - decimals.length)

/-- Digits of `Whole` with or without a point and digits behind it, or a point and digits. -/
inductive Fraction (Whole : List Char → Prop) : List Char → ℚ → Prop
  | whole {w x : List Char} {n : ℤ} (hw : Whole w) (hx : Exponent x n) :
      Fraction Whole (w ++ x) (decimal w [] n)
  | point {w d x : List Char} {n : ℤ} (hw : Whole w) (hd : AreDigits d) (hx : Exponent x n) :
      Fraction Whole (w ++ '.' :: (d ++ x)) (decimal w d n)
  | leadingPoint {d x : List Char} {n : ℤ} (hd : isDigits d = true) (hx : Exponent x n) :
      Fraction Whole ('.' :: (d ++ x)) (decimal [] d n)

/-- A fraction or a name. -/
inductive Unsigned (Whole : List Char → Prop) (Name : List Char → Value → Prop) :
    List Char → Value → Prop
  | fraction {cs : List Char} {m : ℚ} (h : Fraction Whole cs m) :
      Unsigned Whole Name cs (.finite false m)
  | name {cs : List Char} {v : Value} (h : Name cs v) : Unsigned Whole Name cs v

/-- The texts of numbers. -/
abbrev Number (Whole : List Char → Prop) (Name : List Char → Value → Prop) :
    List Char → Value → Prop :=
  Signed (Unsigned Whole Name)

/-- Any digits, zeros in front included. -/
def AnyWhole (cs : List Char) : Prop :=
  isDigits cs = true

/-- The digit zero, or digits that do not start with it. -/
def TidyWhole (cs : List Char) : Prop :=
  cs = ['0'] ∨ isDigits cs = true ∧ cs.head? ≠ some '0'

/-- The names of special values, in any case. -/
inductive AnyCaseName (cs : List Char) : Value → Prop
  | infinity (h : cs.map Char.toLower = "inf".toList ∨ cs.map Char.toLower = "infinity".toList) :
      AnyCaseName cs (.infinite false)
  | nan (h : cs.map Char.toLower = "nan".toList) : AnyCaseName cs .nan

/-- The names of special values in TypeScript. -/
inductive ScriptName : List Char → Value → Prop
  | infinity : ScriptName "Infinity".toList (.infinite false)
  | nan : ScriptName "NaN".toList .nan

/-! ### Digits -/

theorem isDigits_iff {cs : List Char} : isDigits cs = true ↔ cs ≠ [] ∧ AreDigits cs := by
  simp [isDigits, AreDigits]

theorem parseDigits?_eq_some_iff {cs : List Char} {n : ℕ} :
    parseDigits? cs = some n ↔ Digits cs n := by
  rw [parseDigits?]
  split
  case isTrue h =>
    rw [Option.some.injEq]
    exact ⟨fun hn => ⟨h, by rw [hn]⟩, fun hn => by exact_mod_cast hn.value.symm⟩
  case isFalse h => exact iff_of_false (by simp) fun hn => h hn.isDigits

theorem exists_digits_iff {cs : List Char} : (∃ n, Digits cs n) ↔ isDigits cs = true :=
  ⟨fun ⟨_, h⟩ => h.isDigits, fun h => ⟨_, h, rfl⟩⟩

theorem Digits.unique {cs : List Char} {m n : ℤ} (hm : Digits cs m) (hn : Digits cs n) : m = n :=
  hm.value.trans hn.value.symm

/-! ### Signs -/

/-- The characters of signs. -/
def IsSign (c : Char) : Prop :=
  c = '+' ∨ c = '-'

section Signed

variable {α : Type} [Neg α] {P Q : List Char → α → Prop} {cs : List Char} {v w : α}

theorem Signed.mono (hPQ : ∀ {cs v}, P cs v → Q cs v) (h : Signed P cs v) : Signed Q cs v := by
  cases h with
  | bare h => exact .bare (hPQ h)
  | plus h => exact .plus (hPQ h)
  | minus h => exact .minus (hPQ h)

/-- What a sign is put in front of has none. -/
def Bare (P : List Char → α → Prop) : Prop :=
  ∀ {c cs v}, P (c :: cs) v → ¬ IsSign c

theorem Signed.unique (hbare : Bare P)
    (hunique : ∀ {cs v w}, P cs v → P cs w → v = w) (hv : Signed P cs v) (hw : Signed P cs w) :
    v = w := by
  cases hv with
  | bare hv =>
    cases hw with
    | bare hw => exact hunique hv hw
    | plus _ => exact absurd (.inl rfl) (hbare hv)
    | minus _ => exact absurd (.inr rfl) (hbare hv)
  | plus hv =>
    cases hw with
    | bare hw => exact absurd (.inl rfl) (hbare hw)
    | plus hw => exact hunique hv hw
  | minus hv =>
    cases hw with
    | bare hw => exact absurd (.inr rfl) (hbare hw)
    | minus hw => rw [hunique hv hw]

/-- A function that keeps signs may be applied with the sign or without. -/
theorem signed_map_iff {g : α → α} (hg : ∀ v, g (-v) = -g v) :
    Signed (fun cs w => ∃ v, P cs v ∧ w = g v) cs w ↔ ∃ v, Signed P cs v ∧ w = g v := by
  constructor
  · intro h
    cases h with
    | bare h =>
      obtain ⟨v, hv, rfl⟩ := h
      exact ⟨v, .bare hv, rfl⟩
    | plus h =>
      obtain ⟨v, hv, rfl⟩ := h
      exact ⟨v, .plus hv, rfl⟩
    | minus h =>
      obtain ⟨v, hv, rfl⟩ := h
      exact ⟨-v, .minus hv, (hg v).symm⟩
  · rintro ⟨v, hv, rfl⟩
    cases hv with
    | bare hv => exact .bare ⟨_, hv, rfl⟩
    | plus hv => exact .plus ⟨_, hv, rfl⟩
    | minus hv =>
      rw [hg]
      exact .minus ⟨_, hv, rfl⟩

section Predicate

variable {rest : List Char} {p : α → Prop}

theorem exists_signed_minus_iff (hbare : Bare P) :
    (∃ v, Signed P ('-' :: rest) v ∧ p v) ↔ ∃ v, P rest v ∧ p (-v) := by
  constructor
  · rintro ⟨v, h, hp⟩
    cases h with
    | bare h => exact absurd (.inr rfl) (hbare h)
    | minus h => exact ⟨_, h, hp⟩
  · rintro ⟨v, h, hp⟩
    exact ⟨-v, .minus h, hp⟩

theorem exists_signed_plus_iff (hbare : Bare P) :
    (∃ v, Signed P ('+' :: rest) v ∧ p v) ↔ ∃ v, P rest v ∧ p v := by
  constructor
  · rintro ⟨v, h, hp⟩
    cases h with
    | bare h => exact absurd (.inl rfl) (hbare h)
    | plus h => exact ⟨_, h, hp⟩
  · rintro ⟨v, h, hp⟩
    exact ⟨v, .plus h, hp⟩

theorem exists_signed_bare_iff (hplus : ∀ rest, cs ≠ '+' :: rest)
    (hminus : ∀ rest, cs ≠ '-' :: rest) :
    (∃ v, Signed P cs v ∧ p v) ↔ ∃ v, P cs v ∧ p v := by
  constructor
  · rintro ⟨v, h, hp⟩
    cases h with
    | bare h => exact ⟨v, h, hp⟩
    | plus _ => exact absurd rfl (hplus _)
    | minus _ => exact absurd rfl (hminus _)
  · rintro ⟨v, h, hp⟩
    exact ⟨v, .bare h, hp⟩

end Predicate

/-- Whether a text is one of `P` with a sign shows without the sign. -/
theorem exists_signed_iff (hbare : Bare P) : (∃ v, Signed P cs v) ↔ ∃ v, P (dropSign cs) v := by
  have htrue : ∀ Q : List Char → α → Prop, ∀ cs, (∃ v, Q cs v) ↔ ∃ v, Q cs v ∧ True := by simp
  rw [htrue, htrue]
  unfold dropSign
  split
  case h_1 => exact exists_signed_plus_iff hbare
  case h_2 => exact exists_signed_minus_iff hbare
  case h_3 hplus hminus => exact exists_signed_bare_iff hplus hminus

end Signed

theorem not_isSign_of_isDigit {c : Char} (h : c.isDigit = true) : ¬ IsSign c := by
  rintro (rfl | rfl) <;> cases h

theorem bare_digits : Bare Digits := fun h =>
  not_isSign_of_isDigit ((isDigits_iff.1 h.isDigits).2 _ List.mem_cons_self)

/-! ### Exponents -/

theorem Exponent.unique {cs : List Char} {m n : ℤ} (hm : Exponent cs m) (hn : Exponent cs n) :
    m = n := by
  cases hm with
  | absent =>
    cases hn
    rfl
  | letter _ hm =>
    cases hn with
    | letter _ hn => exact hm.unique bare_digits Digits.unique hn

theorem isExponent_iff {cs : List Char} : isExponent cs = true ↔ ∃ n, Exponent cs n := by
  cases cs with
  | nil => exact iff_of_true rfl ⟨0, .absent⟩
  | cons c cs =>
    simp only [isExponent, Bool.and_eq_true, Bool.or_eq_true, beq_iff_eq, ← exists_digits_iff,
      ← exists_signed_iff bare_digits]
    constructor
    · rintro ⟨hc, n, hn⟩
      exact ⟨n, .letter hc hn⟩
    · rintro ⟨n, h⟩
      cases h with
      | letter hc hn => exact ⟨hc, n, hn⟩

/-- An exponent ends the digits in front of it, and it is not a point. -/
theorem Exponent.head {cs : List Char} {n : ℤ} (h : Exponent cs n) :
    ∀ c ∈ cs.head?, c.isDigit = false ∧ c ≠ '.' := by
  cases h with
  | absent => simp
  | letter hc _ =>
    simp only [List.head?_cons, Option.mem_some_iff, forall_eq']
    obtain rfl | rfl := hc <;> decide

/-! ### Fractions -/

theorem takeWhile_digits_append {d rest : List Char} (hd : AreDigits d)
    (hrest : ∀ c ∈ rest.head?, c.isDigit = false) :
    (d ++ rest).takeWhile Char.isDigit = d ∧ (d ++ rest).dropWhile Char.isDigit = rest := by
  rw [List.takeWhile_append_of_pos hd, List.dropWhile_append_of_pos hd]
  cases rest with
  | nil => simp
  | cons c rest =>
    have hc : c.isDigit = false := hrest c rfl
    simp [hc]

/-- The parts of a fraction: the digits, and an exponent or else a point, further digits and an
exponent. -/
inductive Parts (Whole : List Char → Prop) (cs : List Char) : ℚ → Prop
  | whole {n : ℤ} (hw : Whole (cs.takeWhile Char.isDigit))
      (hx : Exponent (cs.dropWhile Char.isDigit) n) :
      Parts Whole cs (decimal (cs.takeWhile Char.isDigit) [] n)
  | point {rest : List Char} {n : ℤ} (hpoint : cs.dropWhile Char.isDigit = '.' :: rest)
      (hw : Whole (cs.takeWhile Char.isDigit) ∨
        cs.takeWhile Char.isDigit = [] ∧ rest.takeWhile Char.isDigit ≠ [])
      (hx : Exponent (rest.dropWhile Char.isDigit) n) :
      Parts Whole cs (decimal (cs.takeWhile Char.isDigit) (rest.takeWhile Char.isDigit) n)

theorem areDigits_takeWhile (cs : List Char) : AreDigits (cs.takeWhile Char.isDigit) :=
  fun _ hc => List.mem_takeWhile_imp hc

section Fraction

variable {Whole : List Char → Prop} {cs : List Char} {m : ℚ}

theorem fraction_iff (hWhole : ∀ {w}, Whole w → isDigits w = true) :
    Fraction Whole cs m ↔ Parts Whole cs m := by
  constructor
  · intro h
    -- Neither a point nor an exponent starts with a digit, so the digits in front end there.
    cases h with
    | @whole w x n hw hx =>
      obtain ⟨htake, hdrop⟩ := takeWhile_digits_append (isDigits_iff.1 (hWhole hw)).2
        fun c hc => (hx.head c hc).1
      have h : Parts Whole (w ++ x) _ := .whole (htake.symm ▸ hw) (hdrop.symm ▸ hx)
      rwa [htake] at h
    | @point w d x n hw hd hx =>
      obtain ⟨htake, hdrop⟩ := takeWhile_digits_append (isDigits_iff.1 (hWhole hw)).2
        (show ∀ c ∈ ('.' :: (d ++ x)).head?, c.isDigit = false by simp)
      obtain ⟨htaked, hdropd⟩ := takeWhile_digits_append hd fun c hc => (hx.head c hc).1
      have h : Parts Whole (w ++ '.' :: (d ++ x)) _ :=
        .point hdrop (.inl (htake.symm ▸ hw)) (hdropd.symm ▸ hx)
      rwa [htake, htaked] at h
    | @leadingPoint d x n hd hx =>
      obtain ⟨hne, hd⟩ := isDigits_iff.1 hd
      obtain ⟨htake, hdrop⟩ := takeWhile_digits_append hd fun c hc => (hx.head c hc).1
      have h : Parts Whole ('.' :: (d ++ x)) _ :=
        .point rfl (.inr ⟨rfl, htake.symm ▸ hne⟩) (hdrop.symm ▸ hx)
      rwa [htake] at h
  · intro h
    cases h with
    | whole hw hx =>
      have h := Fraction.whole hw hx
      rwa [List.takeWhile_append_dropWhile] at h
    | @point rest n hpoint hw hx =>
      obtain hw | ⟨hempty, hne⟩ := hw
      · have h := Fraction.point hw (areDigits_takeWhile rest) hx
        rwa [List.takeWhile_append_dropWhile, ← hpoint, List.takeWhile_append_dropWhile] at h
      · have hcs : cs = '.' :: rest := by
          have happend := List.takeWhile_append_dropWhile (p := Char.isDigit) (l := cs)
          rw [← happend, hempty, hpoint, List.nil_append]
        have h : Fraction Whole _ _ :=
          .leadingPoint (isDigits_iff.2 ⟨hne, areDigits_takeWhile rest⟩) hx
        rwa [List.takeWhile_append_dropWhile, ← hcs, ← hempty] at h

theorem fraction_any_iff : Fraction AnyWhole cs m ↔ Parts AnyWhole cs m :=
  fraction_iff id

/-- No exponent starts with a point. -/
theorem not_exponent_point {rest : List Char} {n : ℤ} : ¬ Exponent ('.' :: rest) n := by
  rintro (_ | ⟨hc, _⟩)
  revert hc
  decide

theorem Fraction.unique (hWhole : ∀ {w}, Whole w → isDigits w = true) {k : ℚ}
    (hm : Fraction Whole cs m) (hk : Fraction Whole cs k) : m = k := by
  rw [fraction_iff hWhole] at hm hk
  cases hm with
  | whole _ hx =>
    cases hk with
    | whole _ hx' => rw [hx.unique hx']
    | point hpoint _ _ => exact absurd (hpoint ▸ hx) not_exponent_point
  | point hpoint _ hx =>
    cases hk with
    | whole _ hx' => exact absurd (hpoint ▸ hx') not_exponent_point
    | point hpoint' _ hx' =>
      obtain rfl := List.tail_eq_of_cons_eq (hpoint.symm.trans hpoint')
      rw [hx.unique hx']

theorem isDigits_takeWhile {cs : List Char} :
    isDigits (cs.takeWhile Char.isDigit) = !(cs.takeWhile Char.isDigit).isEmpty := by
  rw [isDigits, List.all_takeWhile, Bool.and_true]

theorem isUnsignedFraction_iff :
    isUnsignedFraction cs = true ↔ ∃ m, Fraction AnyWhole cs m := by
  simp only [fraction_any_iff, isUnsignedFraction]
  -- with a point the digits may be on either side of it, without one they are in front
  split
  · rename_i rest hpoint
    simp only [Bool.and_eq_true, isExponent_iff]
    constructor
    · rintro ⟨hdigits, n, hx⟩
      refine ⟨_, .point hpoint ?_ hx⟩
      rw [AnyWhole, isDigits_takeWhile]
      revert hdigits
      cases cs.takeWhile Char.isDigit <;> cases rest.takeWhile Char.isDigit <;> simp
    · rintro ⟨m, h⟩
      cases h with
      | whole _ hx => exact absurd (hpoint ▸ hx) not_exponent_point
      | point hpoint' hw hx =>
        obtain rfl := List.tail_eq_of_cons_eq (hpoint.symm.trans hpoint')
        refine ⟨?_, _, hx⟩
        rw [AnyWhole, isDigits_takeWhile] at hw
        revert hw
        cases cs.takeWhile Char.isDigit <;> cases rest.takeWhile Char.isDigit <;> simp
  · rename_i hpoint
    rw [Bool.and_eq_true, isExponent_iff, ← isDigits_takeWhile]
    constructor
    · rintro ⟨hw, n, hx⟩
      exact ⟨_, .whole hw hx⟩
    · rintro ⟨m, h⟩
      cases h with
      | whole hw hx => exact ⟨hw, _, hx⟩
      | point hpoint' _ _ => exact absurd hpoint' (hpoint _)

/-- A digit behind a zero in front. -/
def HasLeadingZero (cs : List Char) : Prop :=
  ∃ c rest, cs = '0' :: c :: rest ∧ c.isDigit = true

theorem hasLeadingZero_cons_iff {c : Char} {cs : List Char} :
    HasLeadingZero (c :: cs) ↔ c = '0' ∧ cs.takeWhile Char.isDigit ≠ [] := by
  cases cs with
  | nil => simp [HasLeadingZero]
  | cons d cs => cases hd : d.isDigit <;> simp [HasLeadingZero, hd]

theorem tidyWhole_takeWhile_iff :
    TidyWhole (cs.takeWhile Char.isDigit) ↔
      AnyWhole (cs.takeWhile Char.isDigit) ∧ ¬ HasLeadingZero cs := by
  cases cs with
  | nil => simp [TidyWhole, AnyWhole, isDigits]
  | cons c cs =>
    cases hc : c.isDigit with
    | false => simp [TidyWhole, AnyWhole, isDigits, hc]
    | true =>
      -- The digits are `c` and those that follow: only the first of them can be a leading zero.
      have hall : isDigits (c :: cs.takeWhile Char.isDigit) = true :=
        isDigits_iff.2 ⟨by simp, List.forall_mem_cons.2 ⟨hc, areDigits_takeWhile cs⟩⟩
      rw [List.takeWhile_cons_of_pos hc, hasLeadingZero_cons_iff]
      simp only [TidyWhole, AnyWhole, hall, List.cons.injEq, List.head?_cons, true_and, ne_eq,
        Option.some.injEq]
      tauto

theorem not_hasLeadingZero_of_takeWhile_eq_nil (h : cs.takeWhile Char.isDigit = []) :
    ¬ HasLeadingZero cs := by
  rintro ⟨c, rest, rfl, -⟩
  simp at h

theorem fraction_tidy_iff :
    Fraction TidyWhole cs m ↔ Fraction AnyWhole cs m ∧ ¬ HasLeadingZero cs := by
  have hTidy : ∀ {w}, TidyWhole w → isDigits w = true := by
    rintro w (rfl | ⟨h, -⟩)
    · rfl
    · exact h
  rw [fraction_iff hTidy, fraction_any_iff]
  constructor
  · intro h
    cases h with
    | whole hw hx =>
      rw [tidyWhole_takeWhile_iff] at hw
      exact ⟨.whole hw.1 hx, hw.2⟩
    | point hpoint hw hx =>
      rw [tidyWhole_takeWhile_iff] at hw
      obtain ⟨hw, hzero⟩ | hw := hw
      · exact ⟨.point hpoint (.inl hw) hx, hzero⟩
      · exact ⟨.point hpoint (.inr hw) hx, not_hasLeadingZero_of_takeWhile_eq_nil hw.1⟩
  · rintro ⟨h, hzero⟩
    cases h with
    | whole hw hx => exact .whole (tidyWhole_takeWhile_iff.2 ⟨hw, hzero⟩) hx
    | point hpoint hw hx =>
      exact .point hpoint (hw.imp_left fun hw => tidyWhole_takeWhile_iff.2 ⟨hw, hzero⟩) hx

end Fraction

/-! ### Names -/

section Names

variable {cs : List Char} {v w : Value}

theorem isSpecialName_iff : isSpecialName cs = true ↔ ∃ v, AnyCaseName cs v := by
  simp only [isSpecialName, Bool.or_eq_true, beq_iff_eq]
  constructor
  · rintro (h | h)
    · exact ⟨_, .infinity h⟩
    · exact ⟨_, .nan h⟩
  · rintro ⟨v, h | h⟩
    · exact .inl h
    · exact .inr h

theorem AnyCaseName.unique (hv : AnyCaseName cs v) (hw : AnyCaseName cs w) : v = w := by
  cases hv with
  | infinity hv =>
    cases hw with
    | infinity _ => rfl
    | nan hw => simp [hw] at hv
  | nan hv =>
    cases hw with
    | infinity hw => simp [hv] at hw
    | nan _ => rfl

theorem ScriptName.anyCaseName (h : ScriptName cs v) : AnyCaseName cs v := by
  cases h with
  | infinity => exact .infinity (by decide)
  | nan => exact .nan (by decide)

/-- A name starts with a letter. -/
theorem AnyCaseName.head (h : AnyCaseName cs v) :
    ∃ c rest, cs = c :: rest ∧ (c.toLower = 'i' ∨ c.toLower = 'n') := by
  cases cs with
  | nil => rcases h with h | h <;> simp at h
  | cons c rest =>
    refine ⟨c, rest, rfl, ?_⟩
    rcases h with h | h
    · simp only [List.map_cons] at h
      exact .inl (h.elim (fun h => (List.cons.inj h).1) fun h => (List.cons.inj h).1)
    · exact .inr (List.cons.inj h).1

/-- A fraction starts with a digit or a point. -/
theorem Fraction.head {m : ℚ} (h : Fraction AnyWhole cs m) :
    ∃ c rest, cs = c :: rest ∧ (c.isDigit = true ∨ c = '.') := by
  have hdigits : ∀ {w x : List Char}, AnyWhole w →
      ∃ c rest, w ++ x = c :: rest ∧ (c.isDigit = true ∨ c = '.') := by
    intro w x hw
    obtain ⟨hne, hw⟩ := isDigits_iff.1 hw
    obtain ⟨c, w, rfl⟩ := List.exists_cons_of_ne_nil hne
    exact ⟨c, w ++ x, rfl, .inl (hw c List.mem_cons_self)⟩
  cases h with
  | whole hw _ => exact hdigits hw
  | point hw _ _ => exact hdigits hw
  | leadingPoint _ _ => exact ⟨_, _, rfl, .inr rfl⟩

theorem isDigit_toLower {c : Char} (h : c.isDigit = true) : c.toLower = c := by
  have h9 : ('9' : Char).val.toNat = 57 := rfl
  have hA : ('A' : Char).val.toNat = 65 := rfl
  delta Char.toLower
  rw [dif_neg]
  simp only [Char.isDigit, Bool.and_eq_true, decide_eq_true_eq, UInt32.le_iff_toNat_le] at h ⊢
  omega

theorem not_fraction_of_anyCaseName {m : ℚ} (hname : AnyCaseName cs v) :
    ¬ Fraction AnyWhole cs m := by
  intro h
  -- The first character decides.
  obtain ⟨c, rest, rfl, hletter⟩ := hname.head
  obtain ⟨d, rest', hcs, hd⟩ := h.head
  obtain rfl := (List.cons.inj hcs).1
  obtain hdigit | rfl := hd
  · rw [isDigit_toLower hdigit] at hletter
    obtain rfl | rfl := hletter <;> cases hdigit
  · revert hletter
    decide

end Names

/-! ### Numbers -/

section Number

variable {cs : List Char} {v w : Value}

theorem Unsigned.unique (hv : Unsigned AnyWhole AnyCaseName cs v)
    (hw : Unsigned AnyWhole AnyCaseName cs w) : v = w := by
  cases hv with
  | fraction hv =>
    cases hw with
    | fraction hw => rw [hv.unique id hw]
    | name hw => exact absurd hv (not_fraction_of_anyCaseName hw)
  | name hv =>
    cases hw with
    | fraction hw => exact absurd hw (not_fraction_of_anyCaseName hv)
    | name hw => exact hv.unique hw

theorem bare_unsigned : Bare (Unsigned AnyWhole AnyCaseName) := by
  intro c cs v h hsign
  cases h with
  | fraction h =>
    obtain ⟨d, rest, hcs, hd⟩ := h.head
    obtain rfl := (List.cons.inj hcs).1
    obtain hdigit | rfl := hd
    · exact not_isSign_of_isDigit hdigit hsign
    · revert hsign
      simp [IsSign]
  | name h =>
    obtain ⟨d, rest, hcs, hd⟩ := h.head
    obtain rfl := (List.cons.inj hcs).1
    obtain rfl | rfl := hsign <;> revert hd <;> decide

/-- A text is at most one number. -/
theorem Number.unique (hv : Number AnyWhole AnyCaseName cs v)
    (hw : Number AnyWhole AnyCaseName cs w) : v = w :=
  Signed.unique bare_unsigned Unsigned.unique hv hw

/-- **The texts of decimal fractions and special values.** -/
theorem isDecimalFraction_iff :
    isDecimalFraction cs = true ↔ ∃ v, Number AnyWhole AnyCaseName cs v := by
  rw [exists_signed_iff bare_unsigned, isDecimalFraction, Bool.or_eq_true, isSpecialName_iff,
    isUnsignedFraction_iff]
  constructor
  · rintro (⟨v, h⟩ | ⟨m, h⟩)
    · exact ⟨v, .name h⟩
    · exact ⟨_, .fraction h⟩
  · rintro ⟨v, h | h⟩
    · exact .inr ⟨_, h⟩
    · exact .inl ⟨v, h⟩

theorem Unsigned.of_tidy (h : Unsigned TidyWhole ScriptName cs v) :
    Unsigned AnyWhole AnyCaseName cs v := by
  cases h with
  | fraction h => exact .fraction (fraction_tidy_iff.1 h).1
  | name h => exact .name h.anyCaseName

/-- A number of TypeScript is a number of the wider grammar, and the same one. -/
theorem Number.of_tidy (h : Number TidyWhole ScriptName cs v) : Number AnyWhole AnyCaseName cs v :=
  Signed.mono Unsigned.of_tidy h

/-- A name of a special value that is none in TypeScript. -/
def IsForeignName (cs : List Char) : Prop :=
  isSpecialName cs = true ∧ cs ≠ "Infinity".toList ∧ cs ≠ "NaN".toList

theorem exists_scriptName_iff :
    (∃ v, ScriptName cs v) ↔ cs = "Infinity".toList ∨ cs = "NaN".toList := by
  constructor
  · rintro ⟨v, _ | _⟩
    · exact .inl rfl
    · exact .inr rfl
  · rintro (rfl | rfl)
    · exact ⟨_, .infinity⟩
    · exact ⟨_, .nan⟩

theorem exists_unsigned_tidy_iff (h : Unsigned AnyWhole AnyCaseName cs v) :
    (∃ w, Unsigned TidyWhole ScriptName cs w) ↔ ¬ HasLeadingZero cs ∧ ¬ IsForeignName cs := by
  -- a fraction is no name and a name has no leading zero, so one condition is left to each
  cases h with
  | fraction h =>
    have hname : ¬ isSpecialName cs = true := fun hname =>
      have ⟨_, hname⟩ := isSpecialName_iff.1 hname
      not_fraction_of_anyCaseName hname h
    constructor
    · rintro ⟨w, hw | hw⟩
      · exact ⟨(fraction_tidy_iff.1 hw).2, fun hforeign => hname hforeign.1⟩
      · exact absurd h (not_fraction_of_anyCaseName hw.anyCaseName)
    · rintro ⟨hzero, -⟩
      exact ⟨_, .fraction (fraction_tidy_iff.2 ⟨h, hzero⟩)⟩
  | name h =>
    have hzero : ¬ HasLeadingZero cs := by
      rintro ⟨c, rest, rfl, -⟩
      obtain ⟨d, rest', hcs, hd⟩ := h.head
      obtain rfl := (List.cons.inj hcs).1
      revert hd
      decide
    have hname : isSpecialName cs = true := isSpecialName_iff.2 ⟨v, h⟩
    constructor
    · rintro ⟨w, hw | hw⟩
      · exact absurd (fraction_tidy_iff.1 hw).1 (not_fraction_of_anyCaseName h)
      · refine ⟨hzero, fun hforeign => ?_⟩
        obtain rfl | rfl := exists_scriptName_iff.1 ⟨w, hw⟩
        · exact hforeign.2.1 rfl
        · exact hforeign.2.2 rfl
    · rintro ⟨-, hforeign⟩
      have hscript : cs = "Infinity".toList ∨ cs = "NaN".toList := by
        by_contra hnot
        exact hforeign ⟨hname, not_or.1 hnot⟩
      obtain ⟨w, hw⟩ := exists_scriptName_iff.2 hscript
      exact ⟨w, .name hw⟩

/-- **Which numbers are numbers of TypeScript**: those without a zero in front of their digits and
without a foreign name, behind their sign. -/
theorem exists_number_tidy_iff (h : Number AnyWhole AnyCaseName cs v) :
    (∃ w, Number TidyWhole ScriptName cs w) ↔
      ¬ HasLeadingZero (dropSign cs) ∧ ¬ IsForeignName (dropSign cs) := by
  obtain ⟨u, hu⟩ := (exists_signed_iff bare_unsigned).1 ⟨v, h⟩
  rw [← exists_unsigned_tidy_iff hu]
  exact exists_signed_iff fun h => bare_unsigned h.of_tidy

/-! ### Integers -/

/-- Digits alone. -/
inductive Natural (cs : List Char) : Value → Prop
  | digits {n : ℕ} (h : Digits cs n) : Natural cs (.finite false n)

/-- The integers from -2^127 to 2^127 - 1. -/
def Value.FitsSigned : Value → Prop
  | .finite true m => m ≤ signedBound
  | .finite false m => m < signedBound
  | _ => False

theorem Natural.unsigned (h : Natural cs v) : Unsigned AnyWhole AnyCaseName cs v := by
  obtain ⟨hdigits, hn⟩ := h
  have h : Fraction AnyWhole _ _ := .whole hdigits .absent
  rw [List.append_nil, decimal, List.append_nil, ← Nat.cast_inj.1 hn] at h
  simp only [List.length_nil, Nat.cast_zero, sub_zero, zpow_zero, mul_one] at h
  exact .fraction h

theorem bare_natural : Bare Natural := fun h =>
  bare_unsigned h.unsigned

theorem any_parseDigits?_iff {p : ℕ → Bool} :
    (parseDigits? cs).any p = true ↔ ∃ n : ℕ, Digits cs n ∧ p n = true := by
  simp only [Option.any_eq_true, parseDigits?_eq_some_iff]

theorem exists_natural_and_iff {p : Value → Prop} :
    (∃ v, Natural cs v ∧ p v) ↔ ∃ n : ℕ, Digits cs n ∧ p (.finite false n) := by
  constructor
  · rintro ⟨v, ⟨hn⟩, hp⟩
    exact ⟨_, hn, hp⟩
  · rintro ⟨n, hn, hp⟩
    exact ⟨_, .digits hn, hp⟩

theorem Value.fitsSigned_natural {n : ℕ} :
    (Value.finite false n).FitsSigned ↔ n < signedBound :=
  Nat.cast_lt

theorem Value.fitsSigned_neg_natural {n : ℕ} :
    (-Value.finite false n).FitsSigned ↔ n ≤ signedBound :=
  Nat.cast_le

/-- **The texts of integers of 128 bits.** -/
theorem isInteger_iff :
    isInteger cs = true ↔ ∃ v, Signed Natural cs v ∧ v.FitsSigned := by
  unfold isInteger
  split
  case h_1 =>
    rw [exists_signed_minus_iff bare_natural, any_parseDigits?_iff,
      exists_natural_and_iff (p := fun v => (-v).FitsSigned)]
    simp only [decide_eq_true_eq, Value.fitsSigned_neg_natural]
  case h_2 =>
    rw [exists_signed_plus_iff bare_natural, any_parseDigits?_iff, exists_natural_and_iff]
    simp only [decide_eq_true_eq, Value.fitsSigned_natural]
  case h_3 hminus hplus =>
    rw [exists_signed_bare_iff hplus hminus, any_parseDigits?_iff, exists_natural_and_iff]
    simp only [decide_eq_true_eq, Value.fitsSigned_natural]

end Number

end ProtoTypeScript.Text.Numeral
