import ProtoTypeScript.Wire.Varint

/-!
# Fields on the wire

An encoded message is a sequence of fields. Each has a key, which holds the number of the field and
how its value is written, and the value.

* `fields?` splits bytes into fields, or has no answer when they are malformed;
* a group is one field; it runs to the end tag of its number, groups inside it properly nested, and
  its content is dropped;
* groups nest only so deep: with `limit` levels left, a field may stand inside fewer than `limit`
  open groups.
-/

namespace ProtoTypeScript.Wire

/-! ### Keys and values -/

/-- How a value is written. -/
inductive WireType
  | varint
  | fixed64
  | delimited
  | groupStart
  | groupEnd
  | fixed32
  deriving DecidableEq, Repr

/-- The way of writing that a number stands for. -/
def WireType.ofNumber? : Nat → Option WireType
  | 0 => some .varint
  | 1 => some .fixed64
  | 2 => some .delimited
  | 3 => some .groupStart
  | 4 => some .groupEnd
  | 5 => some .fixed32
  | _ => none

/-- What stands in front of a value. -/
structure Key where
  number : Nat
  wireType : WireType
  deriving DecidableEq, Repr

/-- A value. What fixed numbers and groups hold is not kept. -/
inductive Value
  | varint (n : Nat)
  | fixed64
  | bytes (content : List UInt8)
  | group
  | fixed32
  deriving DecidableEq, Repr

/-- A field. -/
structure Field where
  number : Nat
  value : Value
  deriving DecidableEq, Repr

/-- The key at the front, and what follows it. -/
def takeKey? (bytes : List UInt8) : Option (Key × List UInt8) :=
  match Varint.take? bytes with
  | none => none
  | some (key, rest) =>
    if key < UInt32.size ∧ 1 ≤ key / 8 then
      (WireType.ofNumber? (key % 8)).map fun wireType => (⟨key / 8, wireType⟩, rest)
    else none

/-- The first `count` bytes, if there are so many, and what follows them. -/
def takeBytes? (count : Nat) (bytes : List UInt8) : Option (List UInt8 × List UInt8) :=
  if count ≤ bytes.length then some (bytes.take count, bytes.drop count) else none

/-- The value at the front, unless it is a group, and what follows it. -/
def takeValue? (wireType : WireType) (bytes : List UInt8) : Option (Value × List UInt8) :=
  match wireType with
  | .varint => (Varint.take? bytes).map fun (n, rest) => (.varint n, rest)
  | .fixed64 => (takeBytes? 8 bytes).map fun (_, rest) => (.fixed64, rest)
  | .fixed32 => (takeBytes? 4 bytes).map fun (_, rest) => (.fixed32, rest)
  | .delimited =>
    match Varint.take? bytes with
    | none => none
    | some (count, rest) =>
      (takeBytes? count rest).map fun (content, rest) => (.bytes content, rest)
  | .groupStart => none
  | .groupEnd => none

theorem length_lt_of_takeKey? {bytes rest : List UInt8} {key : Key}
    (h : takeKey? bytes = some (key, rest)) : rest.length < bytes.length := by
  unfold takeKey? at h
  split at h
  · simp at h
  · rename_i hv
    split at h
    · simp only [Option.map_eq_some_iff, Prod.mk.injEq] at h
      obtain ⟨_, _, _, rfl⟩ := h
      exact Varint.length_lt_of_take? hv
    · simp at h

theorem length_le_of_takeBytes? {count : Nat} {bytes content rest : List UInt8}
    (h : takeBytes? count bytes = some (content, rest)) : rest.length ≤ bytes.length := by
  unfold takeBytes? at h
  split at h
  · simp only [Option.some.injEq, Prod.mk.injEq] at h
    simp [← h.2]
  · simp at h

theorem length_le_of_takeValue? {wireType : WireType} {bytes rest : List UInt8} {value : Value}
    (h : takeValue? wireType bytes = some (value, rest)) : rest.length ≤ bytes.length := by
  cases wireType <;> simp only [takeValue?, reduceCtorEq] at h
  case varint =>
    obtain ⟨⟨n, r⟩, hv, h⟩ := Option.map_eq_some_iff.1 h
    cases h
    exact Nat.le_of_lt (Varint.length_lt_of_take? hv)
  case fixed64 =>
    obtain ⟨⟨c, r⟩, hb, h⟩ := Option.map_eq_some_iff.1 h
    cases h
    exact length_le_of_takeBytes? hb
  case delimited =>
    split at h
    · simp at h
    · rename_i hv
      obtain ⟨⟨c, r⟩, hb, h⟩ := Option.map_eq_some_iff.1 h
      cases h
      exact Nat.le_of_lt (Nat.lt_of_le_of_lt (length_le_of_takeBytes? hb)
        (Varint.length_lt_of_take? hv))
  case fixed32 =>
    obtain ⟨⟨c, r⟩, hb, h⟩ := Option.map_eq_some_iff.1 h
    cases h
    exact length_le_of_takeBytes? hb

/-! ### Groups -/

/-- What follows the open groups, the innermost of which has the first of `groups` as its number. -/
def skipGroups? (limit : Nat) (groups : List Nat) (bytes : List UInt8) : Option (List UInt8) :=
  match groups with
  | [] => some bytes
  | number :: outer =>
    match hk : takeKey? bytes with
    | none => none
    | some (key, rest) =>
      have : rest.length < bytes.length := length_lt_of_takeKey? hk
      if key.wireType = .groupEnd then
        if key.number = number then skipGroups? limit outer rest else none
      else if limit ≤ groups.length then none
      else if key.wireType = .groupStart then skipGroups? limit (key.number :: groups) rest
      else
        match hv : takeValue? key.wireType rest with
        | none => none
        | some (_, rest') =>
          have : rest'.length < bytes.length :=
            Nat.lt_of_le_of_lt (length_le_of_takeValue? hv) this
          skipGroups? limit groups rest'
termination_by bytes.length
decreasing_by all_goals assumption

theorem length_le_of_skipGroups? {limit : Nat} {groups : List Nat} {bytes rest : List UInt8}
    (h : skipGroups? limit groups bytes = some rest) : rest.length ≤ bytes.length := by
  induction hn : bytes.length using Nat.strongRecOn generalizing groups bytes with
  | ind n ih =>
    subst hn
    rw [skipGroups?.eq_def] at h
    split at h
    · cases h
      exact Nat.le_refl _
    · split at h
      · cases h
      · rename_i hk
        have hlt := length_lt_of_takeKey? hk
        split at h
        · split at h
          · exact Nat.le_of_lt (Nat.lt_of_le_of_lt (ih _ hlt h rfl) hlt)
          · cases h
        · split at h
          · cases h
          · split at h
            · exact Nat.le_of_lt (Nat.lt_of_le_of_lt (ih _ hlt h rfl) hlt)
            · split at h
              · cases h
              · rename_i hv
                have hlt' := Nat.lt_of_le_of_lt (length_le_of_takeValue? hv) hlt
                exact Nat.le_of_lt (Nat.lt_of_le_of_lt (ih _ hlt' h rfl) hlt')

/-! ### Sequences of fields -/

/-- The field at the front, and what follows it. -/
def takeField? (limit : Nat) (bytes : List UInt8) : Option (Field × List UInt8) :=
  match takeKey? bytes with
  | none => none
  | some (key, rest) =>
    if key.wireType = .groupStart then
      (skipGroups? limit [key.number] rest).map fun rest => (⟨key.number, .group⟩, rest)
    else (takeValue? key.wireType rest).map fun (value, rest) => (⟨key.number, value⟩, rest)

theorem length_lt_of_takeField? {limit : Nat} {bytes rest : List UInt8} {field : Field}
    (h : takeField? limit bytes = some (field, rest)) : rest.length < bytes.length := by
  unfold takeField? at h
  split at h
  · simp at h
  · rename_i hk
    have hlt := length_lt_of_takeKey? hk
    split at h
    · obtain ⟨r, hs, h⟩ := Option.map_eq_some_iff.1 h
      cases h
      exact Nat.lt_of_le_of_lt (length_le_of_skipGroups? hs) hlt
    · obtain ⟨⟨v, r⟩, hv, h⟩ := Option.map_eq_some_iff.1 h
      cases h
      exact Nat.lt_of_le_of_lt (length_le_of_takeValue? hv) hlt

/-- The fields of an encoded message. -/
def fields? (limit : Nat) (bytes : List UInt8) : Option (List Field) :=
  match bytes with
  | [] => some []
  | b :: tail =>
    match h : takeField? limit (b :: tail) with
    | none => none
    | some (field, rest) =>
      have : rest.length < (b :: tail).length := length_lt_of_takeField? h
      (fields? limit rest).map (field :: ·)
termination_by bytes.length
decreasing_by assumption

/-- The numbers that a run of bytes packs. -/
def packedVarints? (bytes : List UInt8) : Option (List Nat) :=
  match bytes with
  | [] => some []
  | b :: tail =>
    match h : Varint.take? (b :: tail) with
    | none => none
    | some (n, rest) =>
      have : rest.length < (b :: tail).length := Varint.length_lt_of_take? h
      (packedVarints? rest).map (n :: ·)
termination_by bytes.length
decreasing_by assumption

/-! ### Reading values -/

namespace Value

/-- A number of 32 bits with a sign: the low bits of a varint. -/
def int32? : Value → Option Int32
  | varint n => some (Int32.ofNat n)
  | _ => none

/-- A flag: whether a varint is not zero. -/
def bool? : Value → Option Bool
  | varint n => some (n != 0)
  | _ => none

/-- The content of a run of bytes. -/
def bytes? : Value → Option (List UInt8)
  | bytes content => some content
  | _ => none

/-- A text: a run of bytes in UTF-8. -/
def text? (v : Value) : Option String :=
  v.bytes?.bind fun content => String.fromUTF8? ⟨content.toArray⟩

/-- The numbers of a repeated field: one, or many that are packed. -/
def int32s? : Value → Option (List Int32)
  | varint n => some [Int32.ofNat n]
  | bytes content => (packedVarints? content).map fun ns => ns.map Int32.ofNat
  | _ => none

end Value

end ProtoTypeScript.Wire
