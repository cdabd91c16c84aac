import Mathlib.Data.List.Basic
import ProtoTypeScript.Text.Literal

/-!
# Characters of literals

There are three ways of writing a character in a literal, and a literal uses no others. None of them
needs a control or a line terminator.

* `quoted_quoteChar`: the way that is chosen for a character is one of them;
* `isHarmless_of_mem_quote`: so the characters of a literal are harmless.
-/

namespace ProtoTypeScript.Text

/-- The characters that are neither controls nor line terminators. -/
def IsHarmless (c : Char) : Prop :=
  0x20 ≤ c.toNat ∧ ¬ (0x7F ≤ c.toNat ∧ c.toNat ≤ 0x9F) ∧ c.toNat ≠ 0x2028 ∧ c.toNat ≠ 0x2029

instance (c : Char) : Decidable (IsHarmless c) :=
  inferInstanceAs (Decidable (_ ∧ _))

/-- The escapes of one character, with the code units that they stand for. -/
def singleEscapes : List (Char × ℕ) :=
  [('"', 0x22), ('\\', 0x5C), ('n', 0x0A), ('r', 0x0D), ('t', 0x09)]

/-- The ways of writing a character in a literal: as it is, by a mark after a backslash, or by its
code. -/
inductive Quoted (c : Char) : List Char → Prop
  | self (hc : IsHarmless c) (hquote : c ≠ '"') (hbackslash : c ≠ '\\') : Quoted c [c]
  | single {mark : Char} (h : (mark, c.toNat) ∈ singleEscapes) : Quoted c ['\\', mark]
  | unicode (h : c.toNat < 0x10000) : Quoted c (unicodeEscape c.toNat)

theorem quoted_quoteChar (c : Char) : Quoted c (quoteChar c) := by
  unfold quoteChar
  split_ifs with hquote hbackslash hline hreturn htab hescape
  · subst hquote
    exact .single (by decide)
  · subst hbackslash
    exact .single (by decide)
  · subst hline
    exact .single (by decide)
  · subst hreturn
    exact .single (by decide)
  · subst htab
    exact .single (by decide)
  · -- the codes of control characters have four digits at most
    refine .unicode ?_
    simp only [isControl, Bool.or_eq_true, Bool.and_eq_true, decide_eq_true_eq,
      beq_iff_eq] at hescape
    omega
  · refine .self ?_ hquote hbackslash
    simp only [isControl, Bool.or_eq_true, Bool.and_eq_true, decide_eq_true_eq,
      beq_iff_eq] at hescape
    unfold IsHarmless
    omega

/-- A harmless character other than the quote and the backslash is written as it is. -/
theorem quoteChar_of_isHarmless {c : Char} (hc : IsHarmless c) (hquote : c ≠ '"')
    (hbackslash : c ≠ '\\') : quoteChar c = [c] := by
  have hne : ∀ d, ¬ IsHarmless d → c ≠ d := by
    rintro d hd rfl
    exact hd hc
  have hescape : ¬ (isControl c || c.toNat == 0x2028 || c.toNat == 0x2029) = true := by
    unfold IsHarmless at hc
    simp only [isControl, Bool.or_eq_true, Bool.and_eq_true, decide_eq_true_eq, beq_iff_eq]
    omega
  rw [quoteChar, if_neg hquote, if_neg hbackslash, if_neg (hne _ (by decide)),
    if_neg (hne _ (by decide)), if_neg (hne _ (by decide)), if_neg hescape]

/-- What holds of the sixteen digits holds of those of a code. -/
theorem forall_digitChar {P : Char → Prop} (h : ∀ k < 16, P (Nat.digitChar k)) (n : ℕ) :
    P (Nat.digitChar (n % 16)) :=
  h _ (Nat.mod_lt n (by decide))

variable {c : Char} {cs : List Char}

theorem Quoted.isHarmless (h : Quoted c cs) : ∀ d ∈ cs, IsHarmless d := by
  cases h with
  | self hc => exact List.forall_mem_singleton.2 hc
  | single h =>
    have htable : ∀ e ∈ singleEscapes, IsHarmless e.1 := by decide
    exact List.forall_mem_cons.2 ⟨by decide, List.forall_mem_singleton.2 (htable _ h)⟩
  | unicode =>
    have hdigit := forall_digitChar (P := IsHarmless) (by decide)
    simp only [unicodeEscape, List.forall_mem_cons, hdigit, List.not_mem_nil, IsEmpty.forall_iff,
      implies_true, and_true]
    decide

theorem isHarmless_of_mem_quote {s : String} (h : c ∈ (quote s).toList) : IsHarmless c := by
  rw [toList_quote, quoteChars, List.mem_append, List.mem_cons, List.mem_flatMap,
    List.mem_singleton] at h
  rcases h with (rfl | ⟨d, -, h⟩) | rfl
  · decide
  · exact (quoted_quoteChar d).isHarmless c h
  · decide

end ProtoTypeScript.Text
