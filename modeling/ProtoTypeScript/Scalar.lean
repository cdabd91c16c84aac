/-!
# Scalar types

The value types of protobuf that are not declared by a file: their number in descriptors, the
TypeScript type that holds them, the suffix of the methods that read and write them, the value of an
unset field and whether a repeated field of the type may be packed.
-/

namespace ProtoTypeScript

/-- A scalar value type. -/
inductive Scalar
  | double
  | float
  | int64
  | uint64
  | int32
  | fixed64
  | fixed32
  | bool
  | string
  | bytes
  | uint32
  | sfixed32
  | sfixed64
  | sint32
  | sint64
  deriving DecidableEq, Repr, Inhabited

namespace Scalar

/-- The TypeScript type of a value. -/
def tsType : Scalar → String
  | bool => "boolean"
  | string => "string"
  | bytes => "Uint8Array"
  | _ => "number"

/-- The suffix of the reader's and the writer's methods for the type. -/
def wireMethod : Scalar → String
  | double => "Double"
  | float => "Float"
  | int64 => "Int64"
  | uint64 => "Uint64"
  | int32 => "Int32"
  | fixed64 => "Fixed64"
  | fixed32 => "Fixed32"
  | bool => "Bool"
  | string => "String"
  | bytes => "Bytes"
  | uint32 => "Uint32"
  | sfixed32 => "Sfixed32"
  | sfixed64 => "Sfixed64"
  | sint32 => "Sint32"
  | sint64 => "Sint64"

/-- The expression of the value that an unset field has. -/
def zeroValue : Scalar → String
  | bool => "false"
  | string => "\"\""
  | bytes => "new Uint8Array(0)"
  | _ => "0"

/-- Whether repeated values may be packed into one run of bytes. -/
def isPackable : Scalar → Bool
  | string => false
  | bytes => false
  | _ => true

/-- The types whose values have a length. -/
def hasLength : Scalar → Bool
  | string => true
  | bytes => true
  | _ => false

end Scalar

end ProtoTypeScript
