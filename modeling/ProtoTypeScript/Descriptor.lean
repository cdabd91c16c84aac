import ProtoTypeScript.Scalar

/-!
# Descriptors

The parsed `.proto` files that the protobuf compiler hands over in a request.

* Texts and flags that are unset read as empty and as false. Where it matters that a value is unset,
  and in the fields of map entries, which are shown as they were given, the value is optional.
* Numbers have 32 bits and a sign.
* `FieldDescriptor.valueType` and `FieldDescriptor.isRepeated` read the numbers that stand for types
  and labels: an unset or unknown type is `double`, an unset or unknown label is `optional`.
-/

namespace ProtoTypeScript

/-! ### Fields -/

/-- A field of a message. -/
structure FieldDescriptor where
  name? : Option String := none
  number? : Option Int32 := none
  label? : Option Int32 := none
  type? : Option Int32 := none
  typeName? : Option String := none
  defaultValue? : Option String := none
  jsonName? : Option String := none
  oneofIndex? : Option Int32 := none
  proto3Optional : Bool := false
  packed? : Option Bool := none
  deprecated : Bool := false
  deriving DecidableEq, Repr, Inhabited

/-- What the number of a type stands for: a scalar, or a reference by name. -/
inductive ValueType
  | scalar (scalar : Scalar)
  | group
  | message
  | enumeration
  deriving DecidableEq, Repr

namespace ValueType

/-- The type of a number in a descriptor. -/
def ofNumber : Int → ValueType
  | 2 => scalar .float
  | 3 => scalar .int64
  | 4 => scalar .uint64
  | 5 => scalar .int32
  | 6 => scalar .fixed64
  | 7 => scalar .fixed32
  | 8 => scalar .bool
  | 9 => scalar .string
  | 10 => group
  | 11 => message
  | 12 => scalar .bytes
  | 13 => scalar .uint32
  | 14 => enumeration
  | 15 => scalar .sfixed32
  | 16 => scalar .sfixed64
  | 17 => scalar .sint32
  | 18 => scalar .sint64
  | _ => scalar .double

/-- The scalar type, unless the type is named. -/
def scalar? : ValueType → Option Scalar
  | scalar s => some s
  | _ => none

end ValueType

namespace FieldDescriptor

/-- The name, empty if unset. -/
def name (f : FieldDescriptor) : String := f.name?.getD ""

/-- The number, zero if unset. -/
def number (f : FieldDescriptor) : Int32 := f.number?.getD 0

/-- The name of the type, empty if unset. -/
def typeName (f : FieldDescriptor) : String := f.typeName?.getD ""

/-- The type of a value. -/
def valueType (f : FieldDescriptor) : ValueType :=
  match f.type? with
  | none => .scalar .double
  | some n => .ofNumber n.toInt

/-- Whether the label is `repeated`. -/
def isRepeated (f : FieldDescriptor) : Bool :=
  f.label? == some 3

end FieldDescriptor

/-! ### Enums, messages and services -/

/-- A value of an enum. -/
structure EnumValue where
  name : String := ""
  number : Int32 := 0
  deriving DecidableEq, Repr, Inhabited

/-- An enum. -/
structure EnumDescriptor where
  name : String := ""
  values : List EnumValue := []
  deprecated : Bool := false
  deriving DecidableEq, Repr, Inhabited

/-- A message and the types declared inside it. -/
structure MessageDescriptor where
  name : String := ""
  fields : List FieldDescriptor := []
  nested : List MessageDescriptor := []
  enums : List EnumDescriptor := []
  /-- The names of the oneofs; a field refers to one by its position. -/
  oneofs : List String := []
  deprecated : Bool := false
  /-- The message stands for the entries of a map field. -/
  mapEntry : Bool := false
  deriving Repr, Inhabited

/-- A method of a service. -/
structure MethodDescriptor where
  name : String := ""
  inputType : String := ""
  outputType : String := ""
  clientStreaming : Bool := false
  serverStreaming : Bool := false
  deprecated : Bool := false
  deriving DecidableEq, Repr, Inhabited

/-- A service. -/
structure ServiceDescriptor where
  name : String := ""
  methods : List MethodDescriptor := []
  deprecated : Bool := false
  deriving DecidableEq, Repr, Inhabited

/-! ### Files and requests -/

/-- The revision of the language that a file is written in. -/
inductive Dialect
  | proto2
  | proto3
  | editions
  deriving DecidableEq, Repr, Inhabited

/-- The dialect of a name; names that are not known mean the oldest. -/
def Dialect.ofName (name : String) : Dialect :=
  if name = "proto3" then .proto3
  else if name = "editions" then .editions
  else .proto2

/-- A `.proto` file. -/
structure FileDescriptor where
  name : String := ""
  package : String := ""
  dialectName : String := ""
  dependencies : List String := []
  /-- Positions of the dependencies that the file exports again. -/
  publicDependencies : List Int32 := []
  messages : List MessageDescriptor := []
  enums : List EnumDescriptor := []
  services : List ServiceDescriptor := []
  deprecated : Bool := false
  deriving Repr, Inhabited

namespace FileDescriptor

/-- The dialect that the file is written in. -/
def dialect (f : FileDescriptor) : Dialect := Dialect.ofName f.dialectName

/-- The dependency at a position, if there is one. -/
def dependencyAt? (f : FileDescriptor) (position : Int32) : Option String :=
  if position < 0 then none else f.dependencies[position.toInt.toNat]?

/-- The dependencies that the file exports again. -/
def reexports (f : FileDescriptor) : List String :=
  f.publicDependencies.filterMap f.dependencyAt?

end FileDescriptor

/-- The version of the protobuf compiler. -/
structure CompilerVersion where
  major : Int32 := 0
  minor : Int32 := 0
  patch : Int32 := 0
  suffix : String := ""
  deriving DecidableEq, Repr, Inhabited

/-- What the protobuf compiler asks for. -/
structure Request where
  filesToGenerate : List String := []
  parameter : String := ""
  compilerVersion : CompilerVersion := default
  files : List FileDescriptor := []
  deriving Repr, Inhabited

end ProtoTypeScript
