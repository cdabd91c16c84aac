import ProtoTypeScript.Proofs.MessageParts
import ProtoTypeScript.Proofs.Outcome

/-!
# How fields are written

A writer takes the fields of a message part by part, and each in its shortest form. `Written` says
of the fields that they stand for a part, and `spelled_encodeParts` that the bytes of a message are
among those that spell its parts, as long as there are fewer than a length can tell.
-/

namespace ProtoTypeScript.Wire

/-! ### Fields -/

/-- A number is small enough for the key of a field. -/
def IsFieldNumber (number : ℕ) : Prop :=
  1 ≤ number ∧ 8 * number + 7 < UInt32.size

instance : DecidablePred IsFieldNumber := fun _ => inferInstanceAs (Decidable (_ ∧ _))

/-- A value is kept as a whole, so that it can be written. -/
def Value.Writable : Value → Prop
  | varint n => n < UInt64.size
  | bytes _ => True
  | fixed64 | fixed32 | group => False

/-- The shortest form of a field. A value that is not kept as a whole has none. -/
def Field.encode : Field → List UInt8
  | ⟨number, .varint n⟩ => varintField number n
  | ⟨number, .bytes content⟩ => bytesField number content
  | ⟨_, .fixed64⟩ | ⟨_, .fixed32⟩ | ⟨_, .group⟩ => []

theorem spellsKey_encode {number : ℕ} (h : IsFieldNumber number) (type : WireType) :
    SpellsKey number type (Varint.encode (8 * number + type.number)) := by
  have hlt : 8 * number + type.number < UInt32.size :=
    Nat.lt_of_le_of_lt (Nat.add_le_add_left (Nat.le_of_lt_succ type.number_lt) _) h.2
  exact ⟨Varint.spells_encode (Nat.lt_trans hlt (by decide)), h.1, hlt⟩

theorem spellsField_varintField {number n : ℕ} (h : IsFieldNumber number) (hn : n < UInt64.size) :
    SpellsField ⟨number, .varint n⟩ (varintField number n) :=
  .varint (spellsKey_encode h .varint) (Varint.spells_encode hn)

theorem spellsField_bytesField {number : ℕ} (h : IsFieldNumber number) {content : List UInt8}
    (hlength : content.length < UInt64.size) :
    SpellsField ⟨number, .bytes content⟩ (bytesField number content) := by
  rw [bytesField, List.append_assoc]
  exact .bytes (spellsKey_encode h .delimited) (Varint.spells_encode hlength)

theorem length_le_bytesField (number : ℕ) (content : List UInt8) :
    content.length ≤ (bytesField number content).length := by
  rw [bytesField, List.length_append]
  exact Nat.le_add_left _ _

theorem Field.spells_encode {f : Field} (hnumber : IsFieldNumber f.number)
    (hvalue : f.value.Writable) (hlength : f.encode.length < UInt64.size) :
    SpellsField f f.encode := by
  obtain ⟨number, value⟩ := f
  cases value with
  | varint n => exact spellsField_varintField hnumber hvalue
  | bytes content =>
    exact spellsField_bytesField hnumber
      (Nat.lt_of_le_of_lt (length_le_bytesField number content) hlength)
  | fixed64 => exact hvalue.elim
  | fixed32 => exact hvalue.elim
  | group => exact hvalue.elim

theorem writable_textValue (s : String) : (textValue s).Writable :=
  trivial

theorem writable_int32Value (n : Int32) : (int32Value n).Writable := by
  have hsize : (UInt64.size : Int) = 2 ^ 64 := rfl
  show (n.toInt % 2 ^ 64).toNat < UInt64.size
  omega

theorem writable_flagValue (b : Bool) : (flagValue b).Writable := by
  have hsize : 2 ≤ UInt64.size := by decide
  exact Nat.lt_of_lt_of_le b.toNat_lt hsize

/-! ### Parts -/

section Parts

variable {α : Type}

/-- The fields of a value that may be unset. -/
def optionalFields (number : ℕ) (value : α → Value) (x? : Option α) : List Field :=
  x?.toList.map fun x => ⟨number, value x⟩

/-- The field of a message that may be left out. -/
def embeddedFields (number : ℕ) (absent : Prop) [Decidable absent] (content : List UInt8) :
    List Field :=
  if absent then [] else [⟨number, .bytes content⟩]

/-- The fields of a list. -/
def repeatedFields (number : ℕ) (value : α → Value) (xs : List α) : List Field :=
  xs.map fun x => ⟨number, value x⟩

/-- The bytes of a message that has these fields, part by part. -/
def encodeParts (parts : List (List Field)) : List UInt8 :=
  parts.flatten.flatMap Field.encode

/-- The fields can be written, and stand for a part if none of them is too long. -/
structure Written (defined : List ℕ) (part : Part) (fs : List Field) : Prop where
  part : (∀ f ∈ fs, f.encode.length < UInt64.size) → part fs
  number_mem : ∀ f ∈ fs, f.number ∈ defined
  writable : ∀ f ∈ fs, f.value.Writable

variable {defined : List ℕ} {number : ℕ}

theorem Written.single {value : α → Value} {default x : α} (hnumber : number ∈ defined)
    (hvalue : (value x).Writable) :
    Written defined (single number value default x) [⟨number, value x⟩] where
  part _ := .inl rfl
  number_mem := List.forall_mem_singleton.2 hnumber
  writable := List.forall_mem_singleton.2 hvalue

theorem Written.optional {value : α → Value} {x? : Option α} (hnumber : number ∈ defined)
    (hvalue : ∀ x ∈ x?, (value x).Writable) :
    Written defined (optional number value x?) (optionalFields number value x?) where
  part _ := rfl
  number_mem := List.forall_mem_map.2 fun _ _ => hnumber
  writable := List.forall_mem_map.2 fun x hx => hvalue x (Option.mem_toList.1 hx)

theorem Written.embedded {absent : Prop} [Decidable absent] {encodes : List UInt8 → Prop}
    {content : List UInt8} (hnumber : number ∈ defined)
    (hcontent : ¬absent → content.length < UInt64.size → encodes content) :
    Written defined (embedded number absent encodes) (embeddedFields number absent content) := by
  unfold embeddedFields
  split_ifs with habsent
  · exact ⟨fun _ => .inr ⟨habsent, rfl⟩, nofun, nofun⟩
  · refine ⟨fun hlength => .inl ⟨content, hcontent habsent ?_, rfl⟩,
      List.forall_mem_singleton.2 hnumber, List.forall_mem_singleton.2 trivial⟩
    exact Nat.lt_of_le_of_lt (length_le_bytesField number content)
      (hlength _ (List.mem_singleton.2 rfl))

theorem Written.repeated {value : α → Value} {isValue : α → Value → Prop} {xs : List α}
    (hnumber : number ∈ defined) (hvalue : ∀ x, (value x).Writable)
    (hxs : ∀ x ∈ xs, (Field.encode ⟨number, value x⟩).length < UInt64.size → isValue x (value x)) :
    Written defined (repeated number isValue xs) (repeatedFields number value xs) where
  part hlength := by
    rw [Wire.repeated, repeatedFields, List.forall₂_map_right_iff, List.forall₂_same]
    exact fun x hx => ⟨rfl, hxs x hx (hlength _ (List.mem_map_of_mem hx))⟩
  number_mem := List.forall_mem_map.2 fun _ _ => hnumber
  writable := List.forall_mem_map.2 fun x _ => hvalue x

/-- The messages of a list are written one by one. -/
theorem Written.messages {write : α → List UInt8} {encodes : α → List UInt8 → Prop} {xs : List α}
    (hnumber : number ∈ defined)
    (hxs : ∀ x ∈ xs, (write x).length < UInt64.size → encodes x (write x)) :
    Written defined (Wire.repeated number (IsMessage encodes) xs)
      (repeatedFields number (fun x => .bytes (write x)) xs) := by
  refine .repeated hnumber (fun _ => trivial) fun x hx hlength => ⟨write x, rfl, hxs x hx ?_⟩
  exact Nat.lt_of_le_of_lt (length_le_bytesField number (write x)) hlength

end Parts

section Messages

variable {rule : InsertionRule} {defined : List ℕ} {levels : ℕ}

theorem padded_flatMap_encode {fs : List Field}
    (h : ∀ f ∈ fs, SpellsField f f.encode ∧ f.number ∈ defined) :
    Padded rule defined levels fs (fs.flatMap Field.encode) := by
  induction fs with
  | nil => exact .nil
  | cons f fs ih =>
    obtain ⟨⟨hf, hdefined⟩, hfs⟩ := List.forall_mem_cons.1 h
    rw [List.flatMap_cons]
    exact .own hf hdefined (ih hfs)

theorem inOrder_of_written {parts : List Part} {fss : List (List Field)}
    (h : List.Forall₂ (Written defined) parts fss)
    (hlength : ∀ f ∈ fss.flatten, f.encode.length < UInt64.size) : InOrder parts fss.flatten := by
  induction h with
  | nil => exact .nil
  | cons hpart _ ih =>
    rw [List.flatten_cons, List.forall_mem_append] at hlength
    rw [List.flatten_cons]
    exact .cons (hpart.part hlength.1) (ih hlength.2)

/-- A message that is written part by part is spelled. -/
theorem spelled_encodeParts (hnumbers : ∀ number ∈ defined, IsFieldNumber number)
    {parts : List Part} {fss : List (List Field)} (h : List.Forall₂ (Written defined) parts fss)
    (hlength : (encodeParts fss).length < UInt64.size) :
    Spelled rule defined levels parts (encodeParts fss) := by
  have hshort : ∀ f ∈ fss.flatten, f.encode.length < UInt64.size := fun f hf =>
    Nat.lt_of_le_of_lt (List.sublist_flatten_of_mem (List.mem_map_of_mem hf)).length_le hlength
  have hown : ∀ f ∈ fss.flatten, f.number ∈ defined ∧ f.value.Writable := by
    intro f hf
    obtain ⟨fs, hfs, hf⟩ := List.mem_flatten.1 hf
    obtain ⟨part, -, hpart⟩ := Outcome.exists_of_mem_right h hfs
    exact ⟨hpart.number_mem f hf, hpart.writable f hf⟩
  refine ⟨fss.flatten, inOrder_of_written h hshort, padded_flatMap_encode fun f hf => ?_⟩
  obtain ⟨hnumber, hvalue⟩ := hown f hf
  exact ⟨Field.spells_encode (hnumbers _ hnumber) hvalue (hshort f hf), hnumber⟩

end Messages

end ProtoTypeScript.Wire
