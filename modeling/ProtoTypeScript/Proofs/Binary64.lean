import Mathlib.Data.Int.Log
import Mathlib.Data.Rat.Floor
import ProtoTypeScript.Proofs.NumeralGrammar

/-!
# Numbers of 64 bits

The numbers that TypeScript computes with have 53 binary digits. A literal stands for the one of
them that is nearest to its decimal fraction, and of two that are equally near for the even one;
what gets too large is infinite.

* `IsBinary64` says which fractions are such numbers;
* `nearest` rounds to the last digit that there is room for. `abs_nearest_sub_le` says that no
  number of 64 bits is nearer, `isBinary64_nearest` that it is one if it is not too large, and
  `nearest_eq_self` that numbers of 64 bits stay as they are;
* `Value.toBinary64` rounds numbers with a sign.
-/

namespace ProtoTypeScript.Text.Numeral

/-! ### Whole numbers -/

/-- The nearest whole number, and of two the even one. -/
def roundEven (x : ℚ) : ℤ :=
  if x - ⌊x⌋ < 1 / 2 then ⌊x⌋
  else if 1 / 2 < x - ⌊x⌋ then ⌊x⌋ + 1
  else if Even ⌊x⌋ then ⌊x⌋ else ⌊x⌋ + 1

@[simp] theorem roundEven_intCast (n : ℤ) : roundEven n = n := by
  simp [roundEven]

/-- No whole number is nearer. -/
theorem abs_roundEven_sub_le (x : ℚ) (n : ℤ) : |(roundEven x : ℚ) - x| ≤ |(n : ℚ) - x| := by
  have hfloor := Int.floor_le x
  have hceil := Int.lt_floor_add_one x
  have hround : |(roundEven x : ℚ) - x| ≤ x - ⌊x⌋ ∧ |(roundEven x : ℚ) - x| ≤ ⌊x⌋ + 1 - x := by
    unfold roundEven
    split_ifs
    all_goals
      push_cast
      rw [abs_le, abs_le]
      refine ⟨⟨?_, ?_⟩, ?_, ?_⟩ <;> linarith
  -- any other is below the floor or above the ceiling
  rcases le_or_gt n ⌊x⌋ with hn | hn
  · have hle : (n : ℚ) ≤ ⌊x⌋ := Int.cast_le.2 hn
    have habs := neg_le_abs ((n : ℚ) - x)
    linarith [hround.1]
  · have hle : (⌊x⌋ : ℚ) + 1 ≤ n := by exact_mod_cast hn
    have habs := le_abs_self ((n : ℚ) - x)
    linarith [hround.2]

theorem roundEven_le {x : ℚ} {n : ℤ} (h : x ≤ n) : roundEven x ≤ n := by
  have hnear := abs_roundEven_sub_le x n
  rw [abs_of_nonneg (sub_nonneg.2 h)] at hnear
  have hle : (roundEven x : ℚ) ≤ n := by linarith [le_abs_self ((roundEven x : ℚ) - x)]
  exact_mod_cast hle

theorem le_roundEven {x : ℚ} {n : ℤ} (h : (n : ℚ) ≤ x) : n ≤ roundEven x := by
  have hnear := abs_roundEven_sub_le x n
  rw [abs_of_nonpos (sub_nonpos.2 h)] at hnear
  have hle : (n : ℚ) ≤ roundEven x := by linarith [neg_le_abs ((roundEven x : ℚ) - x)]
  exact_mod_cast hle

/-! ### Fractions -/

/-- The finite numbers of 64 bits that have no sign: a whole number of 53 binary digits, with a
binary exponent. -/
def IsBinary64 (q : ℚ) : Prop :=
  ∃ (k : ℕ) (e : ℤ), k < 2 ^ 53 ∧ -1074 ≤ e ∧ e ≤ 971 ∧ q = k * 2 ^ e

/-- The binary exponent of the last digit that there is room for. -/
def lastExponent (q : ℚ) : ℤ :=
  max (Int.log 2 q - 52) (-1074)

/-- The fraction that has no digits behind the last that there is room for. -/
def nearest (q : ℚ) : ℚ :=
  roundEven (q / 2 ^ lastExponent q) * 2 ^ lastExponent q

theorem zpow_two_pos (e : ℤ) : (0 : ℚ) < 2 ^ e :=
  zpow_pos two_pos e

theorem zpow_log_le {q : ℚ} (h : 0 < q) : 2 ^ Int.log 2 q ≤ q := by
  exact_mod_cast Int.zpow_log_le_self one_lt_two h

theorem lt_zpow_log (q : ℚ) : q < 2 ^ (Int.log 2 q + 1) := by
  exact_mod_cast Int.lt_zpow_succ_log_self one_lt_two q

theorem mul_zpow_lt {k : ℕ} (h : k < 2 ^ 53) (e : ℤ) : (k : ℚ) * 2 ^ e < 2 ^ (e + 53) := by
  have hk : (k : ℚ) < 2 ^ (53 : ℤ) := by exact_mod_cast h
  rw [add_comm, zpow_add₀ two_ne_zero]
  exact mul_lt_mul_of_pos_right hk (zpow_two_pos e)

theorem IsBinary64.nonneg {q : ℚ} (h : IsBinary64 q) : 0 ≤ q := by
  obtain ⟨k, e, -, -, -, rfl⟩ := h
  exact mul_nonneg (Nat.cast_nonneg k) (zpow_two_pos e).le

theorem IsBinary64.lt {q : ℚ} (h : IsBinary64 q) : q < 2 ^ 1024 := by
  obtain ⟨k, e, hk, -, he, rfl⟩ := h
  calc (k : ℚ) * 2 ^ e < 2 ^ (e + 53) := mul_zpow_lt hk e
    _ ≤ 2 ^ (1024 : ℤ) := zpow_le_zpow_right₀ one_le_two (by omega)
    _ = 2 ^ 1024 := zpow_natCast _ _

theorem lastExponent_add {q : ℚ} (h : -1074 < lastExponent q) :
    lastExponent q + 52 = Int.log 2 q := by
  unfold lastExponent at h ⊢
  omega

/-- No number of 64 bits is nearer. -/
theorem abs_nearest_sub_le {q : ℚ} (hq : 0 < q) {r : ℚ} (hr : IsBinary64 r) :
    |nearest q - q| ≤ |r - q| := by
  -- so it is for all fractions without digits behind the last that there is room for
  have hwhole : ∀ n : ℤ, |nearest q - q| ≤ |n * 2 ^ lastExponent q - q| := by
    intro n
    have hscale : ∀ m : ℤ, |(m : ℚ) * 2 ^ lastExponent q - q| =
        |m - q / 2 ^ lastExponent q| * 2 ^ lastExponent q := by
      intro m
      rw [← abs_of_pos (zpow_two_pos (lastExponent q)), ← abs_mul, sub_mul,
        abs_of_pos (zpow_two_pos (lastExponent q)), div_mul_cancel₀ _ (zpow_two_pos _).ne']
    rw [nearest, hscale, hscale]
    exact mul_le_mul_of_nonneg_right (abs_roundEven_sub_le _ n) (zpow_two_pos _).le
  obtain ⟨k, e, hk, he, -, rfl⟩ := hr
  rcases le_or_gt (lastExponent q) e with hle | hlt
  · obtain ⟨d, rfl⟩ := Int.le.dest hle
    have h := hwhole (k * 2 ^ d : ℕ)
    push_cast at h
    rwa [mul_assoc, ← zpow_natCast, ← zpow_add₀ two_ne_zero, add_comm (d : ℤ)] at h
  · -- with a later digit `r` is below the least number that has 53 of them, and so nearer to none
    have hlast := lastExponent_add (he.trans_lt hlt)
    have hpower : ((2 ^ 52 : ℤ) : ℚ) * 2 ^ lastExponent q = 2 ^ Int.log 2 q := by
      rw [← hlast, add_comm, zpow_add₀ two_ne_zero]
      push_cast
      rfl
    have hbelow : (k : ℚ) * 2 ^ e ≤ 2 ^ Int.log 2 q :=
      (mul_zpow_lt hk e).le.trans (zpow_le_zpow_right₀ one_le_two (by omega))
    have hlog := zpow_log_le hq
    have h := hwhole (2 ^ 52)
    rw [hpower, abs_of_nonpos (sub_nonpos.2 hlog)] at h
    linarith [neg_le_abs ((k : ℚ) * 2 ^ e - q)]

theorem isBinary64_zero : IsBinary64 0 :=
  ⟨0, 0, by decide, by decide, by decide, by simp⟩

/-- Numbers of 64 bits stay as they are. -/
theorem nearest_eq_self {q : ℚ} (h : IsBinary64 q) : nearest q = q := by
  rcases h.nonneg.eq_or_lt with rfl | hpos
  · have hzero : roundEven 0 = 0 := roundEven_intCast 0
    simp [nearest, hzero]
  · have hnear := abs_nearest_sub_le hpos h
    rw [sub_self, abs_zero] at hnear
    exact sub_eq_zero.1 (abs_nonpos_iff.1 hnear)

/-- There is room for 53 digits. -/
theorem div_zpow_lastExponent_lt {q : ℚ} : q / 2 ^ lastExponent q < 2 ^ 53 := by
  rw [div_lt_iff₀ (zpow_two_pos _), ← zpow_natCast, ← zpow_add₀ two_ne_zero]
  have hle : Int.log 2 q - 52 ≤ lastExponent q := le_max_left _ _
  exact (lt_zpow_log q).trans_le (zpow_le_zpow_right₀ one_le_two (by omega))

/-- All 53 digits are used unless the exponent is the least. -/
theorem le_div_zpow_lastExponent {q : ℚ} (hq : 0 < q) (h : -1074 < lastExponent q) :
    2 ^ 52 ≤ q / 2 ^ lastExponent q := by
  have hlog := zpow_log_le hq
  rwa [← lastExponent_add h, add_comm, zpow_add₀ two_ne_zero,
    ← le_div_iff₀ (zpow_two_pos _)] at hlog

theorem le_of_mul_zpow_lt {k : ℕ} {e : ℤ} (hk : 2 ^ 52 ≤ k) (h : (k : ℚ) * 2 ^ e < 2 ^ 1024) :
    e ≤ 971 := by
  have hk' : (2 : ℚ) ^ (52 : ℤ) ≤ k := by exact_mod_cast hk
  have hle := mul_le_mul_of_nonneg_right hk' (zpow_two_pos e).le
  rw [← zpow_add₀ two_ne_zero] at hle
  rw [← zpow_natCast] at h
  have hlt := (zpow_lt_zpow_iff_right₀ one_lt_two).1 (hle.trans_lt h)
  omega

/-- What is rounded is a number of 64 bits, if it is not too large. -/
theorem isBinary64_nearest {q : ℚ} (hq : 0 ≤ q) (h : nearest q < 2 ^ 1024) :
    IsBinary64 (nearest q) := by
  rcases hq.eq_or_lt with rfl | hpos
  · rw [nearest_eq_self isBinary64_zero]
    exact isBinary64_zero
  obtain ⟨k, hk⟩ := Int.eq_ofNat_of_zero_le (a := roundEven (q / 2 ^ lastExponent q))
    (le_roundEven (by exact_mod_cast div_nonneg hq (zpow_two_pos _).le))
  have hle : roundEven (q / 2 ^ lastExponent q) ≤ (2 ^ 53 : ℕ) :=
    roundEven_le (by exact_mod_cast div_zpow_lastExponent_lt.le)
  rw [hk, Nat.cast_le] at hle
  have hvalue : nearest q = k * 2 ^ lastExponent q := by
    rw [nearest, hk]
    rfl
  have hleast : -1074 ≤ lastExponent q := le_max_right _ _
  rcases hle.eq_or_lt with rfl | hlt
  · -- there is one digit too many, but it is a zero
    have hcarry : nearest q = (2 ^ 52 : ℕ) * 2 ^ (lastExponent q + 1) := by
      rw [hvalue, zpow_add_one₀ two_ne_zero]
      push_cast
      ring
    exact ⟨2 ^ 52, _, by decide, by omega, le_of_mul_zpow_lt le_rfl (hcarry ▸ h), hcarry⟩
  · refine ⟨k, lastExponent q, hlt, hleast, ?_, hvalue⟩
    rcases hleast.eq_or_lt with hleast | hleast
    · omega
    · have hfull : ((2 ^ 52 : ℤ) : ℚ) ≤ q / 2 ^ lastExponent q := by
        exact_mod_cast le_div_zpow_lastExponent hpos hleast
      have hround := le_roundEven hfull
      rw [hk] at hround
      exact le_of_mul_zpow_lt (by exact_mod_cast hround) (hvalue ▸ h)

/-! ### Numbers with a sign -/

/-- The number of 64 bits that stands for a number. -/
def Value.toBinary64 : Value → Value
  | .finite negative m =>
    if nearest m < 2 ^ 1024 then .finite negative (nearest m) else .infinite negative
  | v => v

/-- The numbers of 64 bits. -/
def Value.IsBinary64 : Value → Prop
  | .finite _ m => Numeral.IsBinary64 m
  | _ => True

/-- Numbers of the grammars have their sign apart. -/
def Value.HasMagnitude : Value → Prop
  | .finite _ m => 0 ≤ m
  | _ => True

theorem Value.HasMagnitude.neg {v : Value} (h : v.HasMagnitude) : (-v).HasMagnitude := by
  cases v with
  | finite negative m => exact h
  | infinite negative => trivial
  | nan => trivial

theorem Number.hasMagnitude {cs : List Char} {v : Value} (h : Number AnyWhole AnyCaseName cs v) :
    v.HasMagnitude := by
  have hunsigned : ∀ {cs v}, Unsigned AnyWhole AnyCaseName cs v → v.HasMagnitude := by
    intro cs v h
    cases h with
    | fraction h =>
      have hdecimal : ∀ w d n, 0 ≤ decimal w d n := fun w d n =>
        mul_nonneg (Nat.cast_nonneg _) (zpow_nonneg (by norm_num) _)
      cases h <;> exact hdecimal _ _ _
    | name h => cases h <;> trivial
  cases h with
  | bare h => exact hunsigned h
  | plus h => exact hunsigned h
  | minus h => exact (hunsigned h).neg

theorem Value.toBinary64_neg (v : Value) : (-v).toBinary64 = -v.toBinary64 := by
  cases v with
  | finite negative m =>
    change Value.toBinary64 (.finite (!negative) m) = -Value.toBinary64 (.finite negative m)
    simp only [toBinary64]
    split_ifs <;> rfl
  | infinite negative => rfl
  | nan => rfl

theorem Value.IsBinary64.hasMagnitude {v : Value} (h : v.IsBinary64) : v.HasMagnitude := by
  cases v with
  | finite negative m => exact Numeral.IsBinary64.nonneg h
  | infinite negative => trivial
  | nan => trivial

theorem Value.isBinary64_toBinary64 {v : Value} (h : v.HasMagnitude) : v.toBinary64.IsBinary64 := by
  cases v with
  | finite negative m =>
    simp only [toBinary64]
    split_ifs with hlt
    · exact isBinary64_nearest h hlt
    · trivial
  | infinite negative => trivial
  | nan => trivial

/-- Numbers of 64 bits are those that stand for themselves. -/
theorem Value.toBinary64_eq_self_iff {v : Value} (h : v.HasMagnitude) :
    v.toBinary64 = v ↔ v.IsBinary64 := by
  constructor
  · intro heq
    exact heq ▸ isBinary64_toBinary64 h
  · intro hbinary
    cases v with
    | finite negative m =>
      have hself := nearest_eq_self hbinary
      rw [toBinary64, hself, if_pos hbinary.lt]
    | infinite negative => rfl
    | nan => rfl

/-- Rounding twice is rounding once. -/
theorem Value.toBinary64_toBinary64 {v : Value} (h : v.HasMagnitude) :
    v.toBinary64.toBinary64 = v.toBinary64 :=
  have hbinary := isBinary64_toBinary64 h
  (toBinary64_eq_self_iff hbinary.hasMagnitude).2 hbinary

end ProtoTypeScript.Text.Numeral
