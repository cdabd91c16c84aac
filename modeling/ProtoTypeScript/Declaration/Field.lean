import ProtoTypeScript.Declaration
import ProtoTypeScript.Declaration.Scope
import ProtoTypeScript.Text.CEscape
import ProtoTypeScript.Text.CamelCase
import ProtoTypeScript.Text.Literal
import ProtoTypeScript.Text.Numeral

/-!
# Fields of message classes

* `FileScope.fieldType` is the type of a field: a scalar, a type by its expression, or a map if the
  name leads to a map entry;
* `FileScope.cardinality` says how many values a field has: a map has one, a member of a oneof has
  one, and a plain field of `proto3` has one that is never missing;
* `FileScope.defaultValue` is the expression that an unset field reads as; an explicit default has
  to be a value of the field's type;
* `FileScope.fieldDeclaration` puts them together.

Of several errors the one in the type comes before the one in the default.
-/

namespace ProtoTypeScript

/-! ### What a descriptor says -/

/-- The JSON name of a field: the given one, or the name in lower camel case. -/
def FieldDescriptor.jsonName (f : FieldDescriptor) : String :=
  match f.jsonName? with
  | none => Text.lowerCamel f.name
  | some given => if given = "" then Text.lowerCamel f.name else given

/-- The oneof that a field is a member of. An optional field of `proto3` is in a oneof of its own,
which does not count. -/
def FieldDescriptor.memberOf? (f : FieldDescriptor) : Option Int32 :=
  if f.proto3Optional then none else f.oneofIndex?

namespace FileScope

/-! ### Types and cardinalities -/

/-- The type of a field, where `valueTypeOf` gives the types of map values. -/
def fieldTypeStep (s : FileScope) (valueTypeOf : FieldDescriptor → Except Failure FieldType)
    (f : FieldDescriptor) : Except Failure FieldType :=
  match f.valueType.scalar? with
  | some scalar => .ok (.scalar scalar)
  | none => do
    let r ← report (s.resolve f.typeName)
    match r.kind with
    | .enumeration _ => return .enumeration (← report (s.typeExpression r))
    | .message => return .message (← report (s.typeExpression r))
    | .mapEntry key value =>
      match key.valueType.scalar? with
      | none => .error (.reported (.malformedMapEntry r.name.text))
      | some keyType => do
        let valueType ← valueTypeOf value
        if valueType.isMap then .error (.reported (.malformedMapEntry r.name.text))
        else return .map keyType valueType

/-- The type of a field, if the stack has room for `calls` calls. -/
def fieldTypeWithin (s : FileScope) : (calls : Nat) → FieldDescriptor → Except Failure FieldType
  | 0, _ => .error .stackOverflow
  | calls + 1, f => s.fieldTypeStep (s.fieldTypeWithin calls) f

/-- No stack has room for more calls: each keeps an address of eight bytes to return to, in memory
of `2 ^ 64` bytes. -/
def stackLimit : Nat := UInt64.size / 8

/-- The type of a field. A map entry asks for the type of its values, which may ask again. If that
leads back to the entry, no call returns; otherwise there is at most one for each record, and one
more. -/
def fieldType (s : FileScope) (f : FieldDescriptor) : Except Failure FieldType :=
  s.fieldTypeWithin (s.table.records.length + stackLimit) f

/-- How many values a field of a type has. -/
def cardinality (s : FileScope) (f : FieldDescriptor) (type : FieldType) : Cardinality :=
  if type.isMap then .singular
  else if f.isRepeated then .repeated
  else if f.memberOf?.isSome then .singular
  else if f.proto3Optional || s.file.dialect != .proto3 then .optional
  else .singular

/-- Whether the values of a field are packed. -/
def isPacked (s : FileScope) (f : FieldDescriptor) (type : FieldType) (c : Cardinality) : Bool :=
  c == .repeated && type.isPackable && f.packed?.getD (s.file.dialect != .proto2)

/-! ### Defaults -/

/-- The expression for the bytes of a byte string. -/
def bytesExpression (bytes : List UInt8) : String :=
  "new Uint8Array([" ++ Text.joinWith ", " (bytes.map fun b => toString b.toNat) ++ "])"

/-- The expression for a scalar that is given as a text, if the text is a value of the type. -/
def scalarExpression? (scalar : Scalar) (value : String) : Option String :=
  match scalar with
  | .string => some (Text.quote value)
  | .bytes => (Text.CEscape.decode value.toList).map bytesExpression
  | .bool => if value = "true" ∨ value = "false" then some value else none
  | .double | .float =>
    if value = "inf" then some "Infinity"
    else if value = "-inf" then some "-Infinity"
    else if value = "nan" then some "NaN"
    else if Text.Numeral.isDecimalFraction value.toList then some value
    else none
  | _ => if Text.Numeral.isInteger value.toList then some value else none

/-- The expression for a scalar field that is unset. -/
def scalarDefault (f : FieldDescriptor) (scalar : Scalar) : Except Error String :=
  match f.defaultValue? with
  | none => .ok scalar.zeroValue
  | some value =>
    match scalarExpression? scalar value with
    | some expression => .ok expression
    | none => .error (.invalidDefault f.name value)

/-- The expression for an enum field that is unset. -/
def enumDefault (s : FileScope) (f : FieldDescriptor) (name : String) : Except Error String :=
  match f.defaultValue? with
  | some value => .ok (name ++ "." ++ value)
  | none => do
    let r ← s.resolve f.typeName
    match r.kind with
    | .enumeration (some zero) => return name ++ "." ++ zero
    | _ => return "0"

/-- The expression that an unset field reads as. -/
def defaultValue (s : FileScope) (f : FieldDescriptor) (type : FieldType) (c : Cardinality) :
    Except Error String :=
  if c = .repeated then .ok "[]"
  else
    match type with
    | .map _ _ => .ok "new Map()"
    | .message _ => .ok "undefined"
    | .enumeration name => s.enumDefault f name
    | .scalar scalar => scalarDefault f scalar

/-! ### Declarations -/

/-- The key of a field in plain objects. -/
def objectKey (s : FileScope) (f : FieldDescriptor) : String :=
  if s.config.jsonNames then f.jsonName else f.name

/-- The declaration of a field. -/
def fieldDeclaration (s : FileScope) (f : FieldDescriptor) :
    Except Failure FieldDeclaration := do
  let type ← s.fieldType f
  let cardinality := s.cardinality f type
  let defaultValue ← report (s.defaultValue f type cardinality)
  return {
    name := f.name
    objectKey := s.objectKey f
    number := f.number
    type := type
    cardinality := cardinality
    oneofIndex := f.memberOf?
    defaultValue := defaultValue
    packed := s.isPacked f type cardinality
    deprecated := f.deprecated
  }

end FileScope

end ProtoTypeScript
