import Mathlib.Algebra.Group.Nat.Defs
import Mathlib.Order.Basic
import ProtoTypeScript.Wire.Response

/-!
# The order of texts

Texts are ordered by the codes of their characters. The bytes of their UTF-8 encodings, compared
from the left, are in the same order.

* `markedBytes` is the encoding of a code on a given number of bytes: its digits in base 64, each
  with a mark that says where in the encoding it stands;
* `utf8EncodeChar_append_lt`: of two characters, the one with the smaller code comes first, whatever
  stands after them;
* `utf8_lt_utf8` says the same of texts.
-/

namespace ProtoTypeScript.Wire

/-! ### Characters -/

/-- The digits of a number in base 64, of which `more` follow the first. The first has the mark
`lead`, and each other has 128. -/
def markedBytes (lead : ℕ) : (more : ℕ) → ℕ → List UInt8
  | 0, n => [UInt8.ofNat (n + lead)]
  | more + 1, n => markedBytes lead more (n / 64) ++ [UInt8.ofNat (n % 64 + 128)]

theorem toNat_lt_of_char (c : Char) : c.toNat < 0x110000 := by
  have hvalid := c.valid
  change c.toNat < 0xD800 ∨ 0xDFFF < c.toNat ∧ c.toNat < 0x110000 at hvalid
  omega

theorem utf8EncodeChar_eq_markedBytes (c : Char) : String.utf8EncodeChar c =
    if c.toNat ≤ 0x7F then markedBytes 0 0 c.toNat
    else if c.toNat ≤ 0x7FF then markedBytes 0xC0 1 c.toNat
    else if c.toNat ≤ 0xFFFF then markedBytes 0xE0 2 c.toNat
    else markedBytes 0xF0 3 c.toNat := by
  have hcode := toNat_lt_of_char c
  have hval : c.toNat = c.val.toNat := rfl
  rw [hval] at hcode ⊢
  unfold String.utf8EncodeChar
  generalize c.val.toNat = n at hcode ⊢
  simp only [markedBytes, Nat.div_div_eq_div_mul, Nat.reduceMul, Nat.add_zero]
  split_ifs with h1 h2 h3
  · rfl
  · -- the lead byte keeps all that is left of the code
    rw [Nat.mod_eq_of_lt (show n / 64 < 32 by omega)]
    rfl
  · rw [Nat.mod_eq_of_lt (show n / 4096 < 16 by omega)]
    rfl
  · rw [Nat.mod_eq_of_lt (show n / 262144 < 8 by omega)]
    rfl

theorem ofNat_lt_ofNat {m n : ℕ} (h : m < n) (hn : n < 256) : UInt8.ofNat m < UInt8.ofNat n := by
  rw [UInt8.lt_iff_toNat_lt, UInt8.toNat_ofNat_of_lt' (Nat.lt_trans h hn),
    UInt8.toNat_ofNat_of_lt' hn]
  exact h

/-- Of two numbers with as many digits, the smaller has the smaller digits. -/
theorem markedBytes_append_lt {lead more m n : ℕ} (h : m < n) (hn : n / 64 ^ more + lead < 256)
    (xs ys : List UInt8) : markedBytes lead more m ++ xs < markedBytes lead more n ++ ys := by
  induction more generalizing m n xs ys with
  | zero =>
    rw [Nat.pow_zero, Nat.div_one] at hn
    exact .rel (ofNat_lt_ofNat (Nat.add_lt_add_right h lead) hn)
  | succ more ih =>
    rw [markedBytes, markedBytes, List.append_assoc, List.append_assoc]
    rcases Nat.lt_or_eq_of_le (Nat.div_le_div_right (c := 64) (Nat.le_of_lt h)) with hlt | heq
    · refine ih hlt ?_ _ _
      rwa [Nat.div_div_eq_div_mul, ← Nat.pow_succ']
    · rw [heq]
      exact List.append_left_lt (.rel (ofNat_lt_ofNat (by omega) (by omega)))

/-- The first of the digits. -/
theorem exists_markedBytes_eq_cons (lead more n : ℕ) :
    ∃ rest, markedBytes lead more n = UInt8.ofNat (n / 64 ^ more + lead) :: rest := by
  induction more generalizing n with
  | zero => exact ⟨[], by rw [Nat.pow_zero, Nat.div_one]; rfl⟩
  | succ more ih =>
    obtain ⟨rest, hrest⟩ := ih (n / 64)
    refine ⟨rest ++ [UInt8.ofNat (n % 64 + 128)], ?_⟩
    rw [markedBytes, hrest, Nat.div_div_eq_div_mul, ← Nat.pow_succ']
    rfl

/-- The first digits decide if they are different. -/
theorem markedBytes_append_lt_of_lead {lead lead' more more' m n : ℕ}
    (h : m / 64 ^ more + lead < n / 64 ^ more' + lead') (hn : n / 64 ^ more' + lead' < 256)
    (xs ys : List UInt8) : markedBytes lead more m ++ xs < markedBytes lead' more' n ++ ys := by
  obtain ⟨rest, hrest⟩ := exists_markedBytes_eq_cons lead more m
  obtain ⟨rest', hrest'⟩ := exists_markedBytes_eq_cons lead' more' n
  rw [hrest, hrest']
  exact .rel (ofNat_lt_ofNat h hn)

/-- Of two characters the one with the smaller code has the smaller encoding, whatever follows. -/
theorem utf8EncodeChar_append_lt {c d : Char} (h : c < d) (xs ys : List UInt8) :
    String.utf8EncodeChar c ++ xs < String.utf8EncodeChar d ++ ys := by
  have hlt : c.toNat < d.toNat := UInt32.lt_iff_toNat_lt.1 h
  have hcode := toNat_lt_of_char d
  rw [utf8EncodeChar_eq_markedBytes, utf8EncodeChar_eq_markedBytes]
  -- encodings of one length are compared digit by digit, others by their first marks
  split_ifs
  all_goals first
    | omega
    | exact markedBytes_append_lt hlt (by omega) xs ys
    | exact markedBytes_append_lt_of_lead (by omega) (by omega) xs ys

/-! ### Texts -/

theorem flatMap_utf8EncodeChar_lt {cs ds : List Char} (h : cs < ds) :
    cs.flatMap String.utf8EncodeChar < ds.flatMap String.utf8EncodeChar := by
  induction h with
  | @nil d ds =>
    rw [List.flatMap_nil, List.flatMap_cons]
    obtain ⟨b, bs, hd⟩ := List.exists_cons_of_ne_nil (String.utf8EncodeChar_ne_nil (c := d))
    rw [hd]
    exact .nil
  | @rel c cs d ds h =>
    rw [List.flatMap_cons, List.flatMap_cons]
    exact utf8EncodeChar_append_lt h _ _
  | @cons c cs ds _ ih =>
    rw [List.flatMap_cons, List.flatMap_cons]
    exact List.append_left_lt ih

theorem utf8_eq_flatMap (s : String) : utf8 s = s.toList.flatMap String.utf8EncodeChar := by
  rw [utf8, String.toUTF8_eq_toByteArray, ← String.utf8Encode_toList, List.utf8Encode,
    List.toList_data_toByteArray]

/-- The order of texts is that of their bytes. -/
theorem utf8_lt_utf8 {s t : String} (h : s < t) : utf8 s < utf8 t := by
  rw [utf8_eq_flatMap, utf8_eq_flatMap]
  exact flatMap_utf8EncodeChar_lt (String.lt_iff.1 h)

end ProtoTypeScript.Wire
