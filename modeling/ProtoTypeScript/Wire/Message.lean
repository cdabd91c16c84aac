import ProtoTypeScript.Wire.Field

/-!
# Messages on the wire

A message takes up its fields one after the other.

* `Uptake` is what it makes of one field: it does not know the number, the value is malformed, or
  the field is taken;
* `merge?` takes up all fields of an encoded message;
* `submessage?` does so for a message inside another one.

`budget` is how many levels may still be entered. A message inside another takes one, and so does a
field that is skipped.
-/

namespace ProtoTypeScript.Wire

/-- What a message makes of a field. -/
inductive Uptake (α : Type)
  | unknown
  | malformed
  | taken (value : α)

namespace Uptake

/-- The uptake of a field whose number is known. -/
def ofOption {α : Type} : Option α → Uptake α
  | none => malformed
  | some value => taken value

/-- What is left of a message after a field, given what it was before. -/
def resolve {α : Type} (budget : Nat) (before : α) : Uptake α → Option α
  | unknown => if budget = 0 then none else some before
  | malformed => none
  | taken value => some value

end Uptake

/-- How a message takes up a field of some number. -/
abbrev FieldReader (α : Type) := α → Nat → Value → Uptake α

/-- The message after it has taken up the fields. -/
def mergeFields? {α : Type} (budget : Nat) (read : FieldReader α) (before : α) :
    List Field → Option α
  | [] => some before
  | f :: fs =>
    match (read before f.number f.value).resolve budget before with
    | none => none
    | some after => mergeFields? budget read after fs

/-- The message after it has taken up the fields of an encoded message. -/
def merge? {α : Type} (budget : Nat) (read : FieldReader α) (before : α) (bytes : List UInt8) :
    Option α :=
  (fields? budget bytes).bind (mergeFields? budget read before)

/-- The message inside another one after it has taken up a value. -/
def submessage? {α : Type} (budget : Nat) (read : Nat → FieldReader α) (before : α)
    (value : Value) : Option α :=
  match budget with
  | 0 => none
  | budget + 1 => value.bytes?.bind (merge? budget (read budget) before)

end ProtoTypeScript.Wire
