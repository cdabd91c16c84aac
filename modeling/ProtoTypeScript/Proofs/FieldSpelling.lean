import Mathlib.Data.List.Forall2
import ProtoTypeScript.Wire.Message

/-!
# How fields are spelled

What bytes may stand for a field, said without a decoder. A number has one spelling for each count
of zeros in front of its highest bit; a group is spelled around any run of fields.

* `Varint.Spells`, `SpellsKey` and `SpellsField` are the spellings of numbers, of keys and of fields
  with a value of their own;
* `Skipped levels` is a run of fields that takes no more than `levels` levels: a field takes one,
  and a group one more than its content;
* `Padded` is an encoded message: its own fields in order, and anywhere between them fields whose
  numbers it does not define, as far as a rule allows for them;
* `merge?_of_padded`: a reader that knows the defined numbers makes of a padded message what it
  makes of the message's own fields, if each inserted field fits the levels that are left.
-/

namespace ProtoTypeScript.Wire

/-! ### Numbers -/

namespace Varint

/-- The bytes write a number seven bits to a byte, the lowest first. The highest may be zero. -/
inductive Digits : ℕ → List UInt8 → Prop
  | last {b : UInt8} (h : b.toNat < 128) : Digits b.toNat [b]
  | more {b : UInt8} {n : ℕ} {bytes : List UInt8} (h : 128 ≤ b.toNat) (hrest : Digits n bytes) :
      Digits (b.toNat - 128 + 128 * n) (b :: bytes)

/-- The bytes write a number of 64 bits, and are no more than ten. -/
structure Spells (n : ℕ) (bytes : List UInt8) : Prop where
  digits : Digits n bytes
  length_le : bytes.length ≤ 10
  lt : n < UInt64.size

theorem takeWithin_of_digits {n count : ℕ} {bytes : List UInt8} (h : Digits n bytes)
    (hcount : bytes.length ≤ count) (rest : List UInt8) :
    takeWithin count (bytes ++ rest) = some (n, rest) := by
  induction h generalizing count with
  | last h =>
    obtain ⟨count, rfl⟩ := Nat.exists_eq_succ_of_ne_zero (Nat.ne_of_gt hcount)
    rw [List.singleton_append, takeWithin, if_pos h]
  | more h _ ih =>
    obtain ⟨count, rfl⟩ := Nat.exists_eq_succ_of_ne_zero
      (Nat.ne_of_gt (Nat.lt_of_lt_of_le (Nat.succ_pos _) hcount))
    rw [List.cons_append, takeWithin, if_neg (by omega), ih (Nat.le_of_succ_le_succ hcount)]

theorem take?_of_spells {n : ℕ} {bytes : List UInt8} (h : Spells n bytes) (rest : List UInt8) :
    take? (bytes ++ rest) = some (n, rest) := by
  rw [take?, takeWithin_of_digits h.digits h.length_le]
  exact if_pos h.lt

theorem digits_encode (n : ℕ) : Digits n (encode n) := by
  induction n using Nat.strongRecOn with
  | ind n ih =>
    rw [encode]
    split_ifs with hn
    · have hb : (UInt8.ofNat n).toNat = n := Nat.mod_eq_of_lt (by omega)
      have hlast := Digits.last (b := UInt8.ofNat n) (by omega)
      rwa [hb] at hlast
    · have hb : (UInt8.ofNat (n % 128 + 128)).toNat = n % 128 + 128 :=
        Nat.mod_eq_of_lt (by omega)
      have hmore := Digits.more (b := UInt8.ofNat (n % 128 + 128)) (by omega)
        (ih (n / 128) (by omega))
      rwa [hb, Nat.add_sub_cancel, Nat.mod_add_div] at hmore

theorem length_encode_le (count : ℕ) {n : ℕ} (h : n < Nat.pow 128 (count + 1)) :
    (encode n).length ≤ count + 1 := by
  induction count generalizing n with
  | zero =>
    have hn : n < 128 := h
    rw [encode, if_pos hn]
    exact Nat.le_refl 1
  | succ count ih =>
    rw [encode]
    split_ifs
    · exact Nat.succ_le_succ (Nat.zero_le _)
    · exact Nat.succ_le_succ (ih ((Nat.div_lt_iff_lt_mul (by decide)).2 h))

/-- The shortest form spells the number. -/
theorem spells_encode {n : ℕ} (h : n < UInt64.size) : Spells n (encode n) where
  digits := digits_encode n
  length_le := length_encode_le 9 (Nat.lt_trans h (by decide))
  lt := h

end Varint

/-! ### Keys and values -/

/-- The number that stands for a way of writing. -/
def WireType.number : WireType → ℕ
  | .varint => 0
  | .fixed64 => 1
  | .delimited => 2
  | .groupStart => 3
  | .groupEnd => 4
  | .fixed32 => 5

theorem WireType.number_lt (t : WireType) : t.number < 8 := by
  cases t <;> decide

theorem WireType.ofNumber?_number (t : WireType) : ofNumber? t.number = some t := by
  cases t <;> rfl

/-- The bytes spell a key. -/
structure SpellsKey (number : ℕ) (type : WireType) (bytes : List UInt8) : Prop where
  spells : Varint.Spells (8 * number + type.number) bytes
  pos : 1 ≤ number
  lt : 8 * number + type.number < UInt32.size

theorem takeKey?_of_spells {number : ℕ} {type : WireType} {bytes : List UInt8}
    (h : SpellsKey number type bytes) (rest : List UInt8) :
    takeKey? (bytes ++ rest) = some (⟨number, type⟩, rest) := by
  have hlt := type.number_lt
  have hdiv : (8 * number + type.number) / 8 = number := by omega
  have hmod : (8 * number + type.number) % 8 = type.number := by omega
  rw [takeKey?, Varint.take?_of_spells h.spells]
  dsimp only
  rw [hdiv, hmod, if_pos ⟨h.lt, h.pos⟩, WireType.ofNumber?_number]
  rfl

theorem takeBytes?_append (content rest : List UInt8) :
    takeBytes? content.length (content ++ rest) = some (content, rest) := by
  rw [takeBytes?, if_pos (by simp), List.take_left, List.drop_left]

/-- The bytes spell a field that is no group. -/
inductive SpellsField : Field → List UInt8 → Prop
  | varint {number n : ℕ} {key digits : List UInt8} (hkey : SpellsKey number .varint key)
      (hdigits : Varint.Spells n digits) : SpellsField ⟨number, .varint n⟩ (key ++ digits)
  | fixed64 {number : ℕ} {key content : List UInt8} (hkey : SpellsKey number .fixed64 key)
      (hlength : content.length = 8) : SpellsField ⟨number, .fixed64⟩ (key ++ content)
  | fixed32 {number : ℕ} {key content : List UInt8} (hkey : SpellsKey number .fixed32 key)
      (hlength : content.length = 4) : SpellsField ⟨number, .fixed32⟩ (key ++ content)
  | bytes {number : ℕ} {key length content : List UInt8} (hkey : SpellsKey number .delimited key)
      (hlength : Varint.Spells content.length length) :
      SpellsField ⟨number, .bytes content⟩ (key ++ (length ++ content))

/-- A field that is no group has a key that says so, and its value after it. -/
theorem SpellsField.take {f : Field} {bytes : List UInt8} (h : SpellsField f bytes)
    (rest : List UInt8) : ∃ type after, takeKey? (bytes ++ rest) = some (⟨f.number, type⟩, after) ∧
      type ≠ .groupStart ∧ type ≠ .groupEnd ∧ takeValue? type after = some (f.value, rest) := by
  cases h with
  | varint hkey hdigits =>
    refine ⟨_, _, by rw [List.append_assoc, takeKey?_of_spells hkey], by decide, by decide, ?_⟩
    rw [takeValue?, Varint.take?_of_spells hdigits]
    rfl
  | fixed64 hkey hlength =>
    refine ⟨_, _, by rw [List.append_assoc, takeKey?_of_spells hkey], by decide, by decide, ?_⟩
    rw [takeValue?, ← hlength, takeBytes?_append]
    rfl
  | fixed32 hkey hlength =>
    refine ⟨_, _, by rw [List.append_assoc, takeKey?_of_spells hkey], by decide, by decide, ?_⟩
    rw [takeValue?, ← hlength, takeBytes?_append]
    rfl
  | bytes hkey hlength =>
    refine ⟨_, _, by rw [List.append_assoc, takeKey?_of_spells hkey], by decide, by decide, ?_⟩
    rw [takeValue?, List.append_assoc, Varint.take?_of_spells hlength]
    dsimp only
    rw [takeBytes?_append]
    rfl

theorem takeField?_of_spells {f : Field} {bytes : List UInt8} (h : SpellsField f bytes)
    (limit : ℕ) (rest : List UInt8) : takeField? limit (bytes ++ rest) = some (f, rest) := by
  obtain ⟨type, after, hkey, hstart, -, hvalue⟩ := h.take rest
  rw [takeField?, hkey]
  dsimp only
  rw [if_neg hstart, hvalue]
  rfl

/-! ### Groups -/

/-- The bytes spell fields that take no more than `levels` levels. A field takes one level, and a
group one more than the fields inside it. -/
inductive Skipped : (levels : ℕ) → List Field → List UInt8 → Prop
  | nil {levels : ℕ} : Skipped levels [] []
  | plain {levels : ℕ} {f : Field} {fs : List Field} {bytes rest : List UInt8}
      (hf : SpellsField f bytes) (hrest : Skipped (levels + 1) fs rest) :
      Skipped (levels + 1) (f :: fs) (bytes ++ rest)
  | group {levels number : ℕ} {inner fs : List Field} {start content stop rest : List UInt8}
      (hstart : SpellsKey number .groupStart start) (hinner : Skipped levels inner content)
      (hstop : SpellsKey number .groupEnd stop) (hrest : Skipped (levels + 1) fs rest) :
      Skipped (levels + 1) (⟨number, .group⟩ :: fs) (start ++ (content ++ (stop ++ rest)))

theorem Skipped.one {levels : ℕ} {f : Field} {bytes : List UInt8} (hf : SpellsField f bytes) :
    Skipped (levels + 1) [f] bytes := by
  rw [← List.append_nil bytes]
  exact .plain hf .nil

theorem skipGroups?_of_takeKey? {limit number : ℕ} {outer : List ℕ} {bytes rest : List UInt8}
    {key : Key} (hkey : takeKey? bytes = some (key, rest)) :
    skipGroups? limit (number :: outer) bytes =
      if key.wireType = .groupEnd then
        if key.number = number then skipGroups? limit outer rest else none
      else if limit ≤ (number :: outer).length then none
      else if key.wireType = .groupStart then skipGroups? limit (key.number :: number :: outer) rest
      else (takeValue? key.wireType rest).bind fun after =>
        skipGroups? limit (number :: outer) after.2 := by
  rw [skipGroups?.eq_def]
  dsimp only
  split
  · rename_i hnone
    rw [hkey] at hnone
    cases hnone
  · rename_i key' rest' hsome
    rw [hkey] at hsome
    cases hsome
    refine if_congr Iff.rfl rfl (if_congr Iff.rfl rfl (if_congr Iff.rfl rfl ?_))
    split
    · rename_i hvalue
      rw [hvalue]
      rfl
    · rename_i hvalue
      rw [hvalue]
      rfl

/-- Inside a group the fields that fit are skipped. -/
theorem skipGroups?_of_skipped {levels : ℕ} {fs : List Field} {bytes : List UInt8}
    (h : Skipped levels fs bytes) {limit number : ℕ} {outer : List ℕ}
    (hlimit : (number :: outer).length + levels ≤ limit) (rest : List UInt8) :
    skipGroups? limit (number :: outer) (bytes ++ rest) =
      skipGroups? limit (number :: outer) rest := by
  -- a group inside opens one level more, for which there is room by its own depth
  induction h generalizing number outer rest with
  | nil => rfl
  | plain hf _ ih =>
    obtain ⟨type, after, hkey, hstart, hstop, hvalue⟩ := hf.take (_ ++ rest)
    rw [List.append_assoc, skipGroups?_of_takeKey? hkey, if_neg hstop, if_neg (by omega),
      if_neg hstart, hvalue]
    exact ih hlimit rest
  | @group levels inside _ _ _ content stop after hstart _ hstop _ ihinner ih =>
    have hopen := takeKey?_of_spells hstart (content ++ (stop ++ (after ++ rest)))
    have hclose := takeKey?_of_spells hstop (after ++ rest)
    have hdeeper (n : ℕ) : (n :: number :: outer).length + levels ≤ limit := by
      rw [List.length_cons]
      omega
    simp only [List.append_assoc]
    rw [skipGroups?_of_takeKey? hopen, if_neg nofun, if_neg (by omega), if_pos rfl,
      ihinner (hdeeper _), skipGroups?_of_takeKey? hclose, if_pos rfl, if_pos rfl]
    exact ih hlimit rest

theorem takeField?_of_skipped {levels : ℕ} {f : Field} {bytes : List UInt8}
    (h : Skipped levels [f] bytes) (rest : List UInt8) :
    takeField? levels (bytes ++ rest) = some (f, rest) := by
  cases h with
  | plain hf hnil =>
    cases hnil
    rw [List.append_nil]
    exact takeField?_of_spells hf _ rest
  | @group levels number _ _ start content stop _ hstart hinner hstop hnil =>
    cases hnil
    have hopen := takeKey?_of_spells hstart (content ++ (stop ++ rest))
    have hclose := takeKey?_of_spells hstop rest
    have hlimit : [number].length + levels ≤ levels + 1 := Nat.le_of_eq (Nat.add_comm 1 levels)
    have hskip := skipGroups?_of_skipped hinner hlimit (stop ++ rest)
    simp only [List.append_assoc, List.nil_append]
    rw [takeField?, hopen]
    dsimp only
    rw [if_pos rfl, hskip, skipGroups?_of_takeKey? hclose, if_pos rfl, if_pos rfl, skipGroups?]
    rfl

theorem Skipped.levels_pos {levels : ℕ} {f : Field} {fs : List Field} {bytes : List UInt8}
    (h : Skipped levels (f :: fs) bytes) : levels ≠ 0 := by
  cases h with
  | plain _ _ => exact Nat.succ_ne_zero _
  | group _ _ _ _ => exact Nat.succ_ne_zero _

/-! ### Messages -/

/-- Which fields may be inserted into a message that has some levels below it, and how they are
spelled. -/
abbrev InsertionRule := (levels : ℕ) → Field → List UInt8 → Prop

/-- A field may be inserted if it fits the levels that are left. -/
def fitting : InsertionRule := fun levels f bytes => Skipped levels [f] bytes

/-- The bytes spell the fields of a message in their order. Fields that are not `defined` may be
inserted anywhere between them as the rule says. -/
inductive Padded (rule : InsertionRule) (defined : List ℕ) (levels : ℕ) :
    List Field → List UInt8 → Prop
  | nil : Padded rule defined levels [] []
  | own {f : Field} {fs : List Field} {bytes rest : List UInt8} (hf : SpellsField f bytes)
      (hdefined : f.number ∈ defined) (hrest : Padded rule defined levels fs rest) :
      Padded rule defined levels (f :: fs) (bytes ++ rest)
  | inserted {f : Field} {fs : List Field} {bytes rest : List UInt8} (hf : rule levels f bytes)
      (hundefined : f.number ∉ defined) (hrest : Padded rule defined levels fs rest) :
      Padded rule defined levels fs (bytes ++ rest)

theorem Padded.one {rule : InsertionRule} {defined : List ℕ} {levels : ℕ} {f : Field}
    {bytes : List UInt8} (hf : SpellsField f bytes) (hdefined : f.number ∈ defined) :
    Padded rule defined levels [f] bytes := by
  rw [← List.append_nil bytes]
  exact .own hf hdefined .nil

theorem fields?_of_takeField? {limit : ℕ} {bytes rest : List UInt8} {f : Field}
    (h : takeField? limit bytes = some (f, rest)) :
    fields? limit bytes = (fields? limit rest).map (f :: ·) := by
  cases bytes with
  | nil => cases h
  | cons b bytes =>
    rw [fields?.eq_def]
    dsimp only
    split
    · rename_i hnone
      rw [h] at hnone
      cases hnone
    · rename_i hsome
      rw [h] at hsome
      cases hsome
      rfl

/-- A reader knows no other numbers than these. -/
def FieldReader.KnowsOnly {α : Type} (read : FieldReader α) (numbers : List ℕ) : Prop :=
  ∀ x number value, number ∉ numbers → read x number value = .unknown

section Merging

variable {α : Type} {levels : ℕ} {read : FieldReader α}

/-- A message takes up its first field and then the rest. -/
theorem merge?_of_takeField? {bytes rest : List UInt8} {f : Field}
    (h : takeField? levels bytes = some (f, rest)) (before : α) : merge? levels read before bytes =
      ((read before f.number f.value).resolve levels before).bind fun after =>
        merge? levels read after rest := by
  unfold merge?
  rw [fields?_of_takeField? h]
  cases hresolve : (read before f.number f.value).resolve levels before with
  | none =>
    cases fields? levels rest with
    | none => rfl
    | some fs => simp [mergeFields?, hresolve]
  | some after =>
    cases fields? levels rest with
    | none => rfl
    | some fs => simp [mergeFields?, hresolve]

theorem mergeFields?_cons (before : α) (f : Field) (fs : List Field) :
    mergeFields? levels read before (f :: fs) =
      ((read before f.number f.value).resolve levels before).bind fun after =>
        mergeFields? levels read after fs := by
  rw [mergeFields?]
  cases (read before f.number f.value).resolve levels before with
  | none => rfl
  | some after => rfl

/-- Inserted fields make no difference to a reader that does not know their numbers. -/
theorem merge?_of_padded {defined : List ℕ} (hread : read.KnowsOnly defined) {fs : List Field}
    {bytes : List UInt8} (h : Padded fitting defined levels fs bytes) (before : α) :
    merge? levels read before bytes = mergeFields? levels read before fs := by
  induction h generalizing before with
  | nil =>
    rw [merge?, fields?]
    rfl
  | own hf _ _ ih =>
    rw [merge?_of_takeField? (takeField?_of_spells hf levels _), mergeFields?_cons]
    exact congrArg _ (funext ih)
  | @inserted f fs _ rest hf hundefined _ ih =>
    have hskip : (read before f.number f.value).resolve levels before = some before := by
      rw [hread before f.number f.value hundefined]
      exact if_neg (Skipped.levels_pos hf)
    rw [merge?_of_takeField? (takeField?_of_skipped hf rest), hskip]
    exact ih before

end Merging

end ProtoTypeScript.Wire
