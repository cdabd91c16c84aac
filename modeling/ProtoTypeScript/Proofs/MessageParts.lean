import Mathlib.Algebra.Group.Int.Defs
import ProtoTypeScript.Proofs.FieldSpelling
import ProtoTypeScript.Wire.Response

/-!
# Parts of encoded messages

What stands in an encoded message for a value of its own, said without a decoder.

* `single`, `optional`, `embedded` and `repeated` are the parts of a message: which fields there may
  be for a value that has a default, for one that may be unset, for a message and for a list;
* `Spelled` is a message that is put together from parts, with other fields inserted;
* `Takes` says what a reader makes of a part, `TakesAll` of several ones, and `merge?_of_spelled` of
  a message.
-/

namespace ProtoTypeScript

namespace Wire

/-! ### Values -/

/-- A text as a value. -/
def textValue (s : String) : Value :=
  .bytes (utf8 s)

/-- A number of 32 bits with a sign as a value: its two's complement in 64 bits. -/
def int32Value (n : Int32) : Value :=
  .varint (n.toInt % 2 ^ 64).toNat

/-- A flag as a value. -/
def flagValue (b : Bool) : Value :=
  .varint b.toNat

theorem text?_textValue (s : String) : (textValue s).text? = some s := by
  show String.fromUTF8? ⟨s.toUTF8.data.toList.toArray⟩ = some s
  rw [Array.toArray_toList]
  exact dif_pos s.isValidUTF8

theorem int32?_int32Value (n : Int32) : (int32Value n).int32? = some n := by
  refine congrArg some (Int32.toInt_inj.1 ?_)
  have hlt := n.toInt_lt
  have hle := n.le_toInt
  have hsize : (Int32.size : Int) = 2 ^ 32 := rfl
  rw [Int32.toInt_ofNat', Int.toNat_of_nonneg (by omega), Int.bmod_def, hsize]
  omega

theorem bool?_flagValue (b : Bool) : (flagValue b).bool? = some b := by
  cases b <;> rfl

/-! ### Parts of messages -/

/-- The lists of fields that may stand for a part of a message. -/
abbrev Part := List Field → Prop

section Parts

variable {α : Type}

/-- A value that may be left out if it is the default. -/
def single (number : ℕ) (value : α → Value) (default x : α) : Part :=
  fun fs => fs = [⟨number, value x⟩] ∨ x = default ∧ fs = []

/-- A value that is left out if it is unset. -/
def optional (number : ℕ) (value : α → Value) (x? : Option α) : Part :=
  fun fs => fs = x?.toList.map fun x => ⟨number, value x⟩

/-- A message that may be left out under a condition. -/
def embedded (number : ℕ) (absent : Prop) (encodes : List UInt8 → Prop) : Part :=
  fun fs => (∃ content, encodes content ∧ fs = [⟨number, .bytes content⟩]) ∨ absent ∧ fs = []

/-- A list, each item of which has a field of its own. -/
def repeated (number : ℕ) (isValue : α → Value → Prop) (xs : List α) : Part :=
  List.Forall₂ (fun x f => f.number = number ∧ isValue x f.value) xs

/-- The value is a message that encodes an item. -/
def IsMessage (encodes : α → List UInt8 → Prop) (x : α) (v : Value) : Prop :=
  ∃ content, v = .bytes content ∧ encodes x content

/-- How something is encoded one level further down. -/
def Inside (encodes : ℕ → α → List UInt8 → Prop) : (levels : ℕ) → α → List UInt8 → Prop
  | 0, _, _ => False
  | levels + 1, x, content => encodes levels x content

/-- The fields are those of the parts, one part after the other. -/
inductive InOrder : List Part → List Field → Prop
  | nil : InOrder [] []
  | cons {part : Part} {parts : List Part} {fs rest : List Field} (h : part fs)
      (hrest : InOrder parts rest) : InOrder (part :: parts) (fs ++ rest)

theorem InOrder.present {part : Part} {parts : List Part} {f : Field} {fs : List Field}
    (h : part [f]) (hrest : InOrder parts fs) : InOrder (part :: parts) (f :: fs) :=
  .cons h hrest

theorem InOrder.absent {part : Part} {parts : List Part} {fs : List Field} (h : part [])
    (hrest : InOrder parts fs) : InOrder (part :: parts) fs :=
  .cons h hrest

/-- The bytes spell the parts of a message, with other fields than the defined ones in between. -/
def Spelled (rule : InsertionRule) (defined : List ℕ) (levels : ℕ) (parts : List Part)
    (bytes : List UInt8) : Prop :=
  ∃ fs, InOrder parts fs ∧ Padded rule defined levels fs bytes

end Parts

/-! ### Taking up parts -/

/-- Whatever fields stand for the part, the message becomes another one by them. -/
def Takes {α : Type} (levels : ℕ) (read : FieldReader α) (before : α) (part : Part) (after : α) :
    Prop :=
  ∀ fs, part fs → mergeFields? levels read before fs = some after

/-- So it does by the fields of several parts. -/
def TakesAll {α : Type} (levels : ℕ) (read : FieldReader α) (before : α) (parts : List Part)
    (after : α) : Prop :=
  ∀ fs, InOrder parts fs → mergeFields? levels read before fs = some after

section Taking

variable {α β : Type} {levels number : ℕ} {read : FieldReader α} {before after : α}

theorem mergeFields?_append (fs gs : List Field) : mergeFields? levels read before (fs ++ gs) =
    (mergeFields? levels read before fs).bind fun between =>
      mergeFields? levels read between gs := by
  induction fs generalizing before with
  | nil => rfl
  | cons f fs ih =>
    rw [List.cons_append, mergeFields?_cons, mergeFields?_cons, Option.bind_assoc]
    exact congrArg _ (funext fun between => ih)

theorem mergeFields?_singleton {v : Value} (h : read before number v = .taken after) :
    mergeFields? levels read before [⟨number, v⟩] = some after := by
  rw [mergeFields?_cons, h]
  rfl

theorem TakesAll.nil : TakesAll levels read before [] before := by
  rintro _ ⟨⟩
  rfl

theorem TakesAll.cons {part : Part} {parts : List Part} {between : α}
    (h : Takes levels read before part between)
    (hrest : TakesAll levels read between parts after) :
    TakesAll levels read before (part :: parts) after := by
  rintro _ (_ | ⟨hfs, hgs⟩)
  rw [mergeFields?_append, h _ hfs]
  exact hrest _ hgs

theorem put_some (x : β) (set : β → α) : put (some x) set = .taken (set x) := rfl

theorem Takes.single {value : β → Value} {get : Value → Option β} {default x : β}
    (set : α → β → α) (hget : ∀ x, get (value x) = some x)
    (hread : ∀ v, read before number v = put (get v) (set before))
    (habsent : set before default = before) :
    Takes levels read before (single number value default x) (set before x) := by
  rintro _ (rfl | ⟨rfl, rfl⟩)
  · refine mergeFields?_singleton ?_
    rw [hread, hget, put_some]
  · rw [habsent]
    rfl

theorem Takes.optional {value : β → Value} {get : Value → Option β} {x? : Option β}
    (set : α → Option β → α) (hget : ∀ x, get (value x) = some x)
    (hread : ∀ v, read before number v = put (get v) fun x => set before (some x))
    (habsent : set before none = before) :
    Takes levels read before (optional number value x?) (set before x?) := by
  rintro _ rfl
  cases x? with
  | none =>
    rw [habsent]
    rfl
  | some x =>
    refine mergeFields?_singleton ?_
    rw [hread, hget, put_some]

theorem Takes.embedded {absent : Prop} {encodes : List UInt8 → Prop} {get : Value → Option α}
    (hread : ∀ v, read before number v = .ofOption (get v))
    (hget : ∀ content, encodes content → get (.bytes content) = some after)
    (habsent : absent → before = after) :
    Takes levels read before (embedded number absent encodes) after := by
  rintro _ (⟨content, hcontent, rfl⟩ | ⟨h, rfl⟩)
  · refine mergeFields?_singleton ?_
    rw [hread, hget content hcontent]
    rfl
  · rw [habsent h]
    rfl

/-- A field of a list adds its items, of which it has one. -/
theorem Takes.repeated {γ : Type} {isValue : β → Value → Prop} {get : Value → Option γ}
    {xs : List β} (set : α → List β → α) (items : γ → List β)
    (hread : ∀ ys v, read (set before ys) number v =
      put (get v) fun z => set before (ys ++ items z))
    (hget : ∀ x v, isValue x v → ∃ z, get v = some z ∧ items z = [x])
    (habsent : set before [] = before) :
    Takes levels read before (repeated number isValue xs) (set before xs) := by
  -- from any list on, since the items before have been added already
  have htail : ∀ ys fs, Wire.repeated number isValue xs fs →
      mergeFields? levels read (set before ys) fs = some (set before (ys ++ xs)) := by
    intro ys fs hfs
    induction hfs generalizing ys with
    | nil =>
      rw [List.append_nil]
      rfl
    | @cons x f _ _ hf _ ih =>
      obtain ⟨rfl, hf⟩ := hf
      obtain ⟨z, hz, hitems⟩ := hget x f.value hf
      have hrest := ih (ys ++ [x])
      rw [List.append_assoc] at hrest
      rw [mergeFields?_cons, hread, hz, put_some, hitems]
      exact hrest
  intro fs hfs
  have hall := htail [] fs hfs
  rwa [habsent, List.nil_append] at hall

/-- A message is read part by part. -/
theorem merge?_of_spelled {defined : List ℕ} {parts : List Part} {bytes : List UInt8}
    (hread : read.KnowsOnly defined) (h : Spelled fitting defined levels parts bytes)
    (hparts : TakesAll levels read before parts after) :
    merge? levels read before bytes = some after := by
  obtain ⟨fs, hfs, hbytes⟩ := h
  rw [merge?_of_padded hread hbytes]
  exact hparts fs hfs

theorem submessage?_of_inside {encodes : ℕ → β → List UInt8 → Prop} {x : β}
    {content : List UInt8} {read : ℕ → FieldReader α} (h : Inside encodes levels x content)
    (hread : ∀ levels, encodes levels x content →
      merge? levels (read levels) before content = some after) :
    submessage? levels read before (.bytes content) = some after := by
  cases levels with
  | zero => exact h.elim
  | succ levels => exact hread levels h

/-- A list of messages is taken up message by message. -/
theorem Takes.messages {encodes : ℕ → β → List UInt8 → Prop} {xs : List β} {first : β}
    {readItem : ℕ → FieldReader β} (set : α → List β → α)
    (hread : ∀ ys v, read (set before ys) number v =
      put (submessage? levels readItem first v) fun x => set before (ys ++ [x]))
    (hitem : ∀ levels x content, encodes levels x content →
      merge? levels (readItem levels) first content = some x)
    (habsent : set before [] = before) :
    Takes levels read before (Wire.repeated number (IsMessage (Inside encodes levels)) xs)
      (set before xs) := by
  refine .repeated set (fun x => [x]) hread ?_ habsent
  rintro x _ ⟨content, rfl, hcontent⟩
  exact ⟨x, submessage?_of_inside hcontent fun levels => hitem levels x content, rfl⟩

theorem Takes.texts {xs : List String} (set : α → List String → α)
    (hread : ∀ ys v, read (set before ys) number v = put v.text? fun x => set before (ys ++ [x]))
    (habsent : set before [] = before) :
    Takes levels read before (Wire.repeated number (fun s v => v = textValue s) xs)
      (set before xs) := by
  refine .repeated set (fun x => [x]) hread ?_ habsent
  rintro s _ rfl
  exact ⟨s, text?_textValue s, rfl⟩

end Taking

end Wire

end ProtoTypeScript
