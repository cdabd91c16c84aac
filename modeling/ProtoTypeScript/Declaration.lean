import ProtoTypeScript.Config
import ProtoTypeScript.Descriptor

/-!
# Declaration trees

A generated file is a tree of declarations before it is text. References in the tree are resolved:
types are TypeScript expressions such as `dependency_1.foo.Bar`.

* `FieldShape` is what a field holds, one map, one or many messages, or one or many values; the
  accessors, the conversions and the wire format of a field follow it;
* `FieldDeclaration.hasPresence` says which fields can tell whether they are set.
-/

namespace ProtoTypeScript

/-! ### Fields -/

/-- The type of the value of a field. -/
inductive FieldType
  | scalar (scalar : Scalar)
  | enumeration (name : String)
  | message (name : String)
  | map (key : Scalar) (value : FieldType)
  deriving DecidableEq, Repr, Inhabited

namespace FieldType

/-- The TypeScript type of one value. -/
def tsType : FieldType → String
  | scalar s => s.tsType
  | enumeration name => name
  | message name => name
  | map key value => "Map<" ++ key.tsType ++ ", " ++ value.tsType ++ ">"

/-- The suffix of the reader's and the writer's methods for the type. -/
def wireMethod : FieldType → String
  | scalar s => s.wireMethod
  | enumeration _ => "Enum"
  | message _ => "Message"
  | map _ _ => "Message"

/-- Whether repeated values may be packed into one run of bytes. -/
def isPackable : FieldType → Bool
  | scalar s => s.isPackable
  | enumeration _ => true
  | message _ => false
  | map _ _ => false

/-- Whether the type is a map. -/
def isMap : FieldType → Bool
  | map _ _ => true
  | _ => false

/-- Whether the type is a message. -/
def isMessage : FieldType → Bool
  | message _ => true
  | _ => false

/-- Whether values of the type have a length. -/
def hasLength : FieldType → Bool
  | scalar s => s.hasLength
  | _ => false

end FieldType

/-- How many values a field has, and whether it knows that it has none. -/
inductive Cardinality
  /-- One value, the default if unset. -/
  | singular
  /-- One value or none. -/
  | optional
  | repeated
  deriving DecidableEq, Repr, Inhabited

/-- A field of a message class. -/
structure FieldDeclaration where
  /-- The name of the property. -/
  name : String
  /-- The key in plain objects. -/
  objectKey : String
  number : Int32
  type : FieldType
  cardinality : Cardinality
  /-- The position of the declared oneof that the field is a member of. -/
  oneofIndex : Option Int32
  /-- The expression that an unset field reads as. -/
  defaultValue : String
  packed : Bool
  deprecated : Bool
  deriving DecidableEq, Repr

/-- What a field holds. -/
inductive FieldShape
  | map (key : Scalar) (value : FieldType)
  | messages (type : String)
  | message (type : String)
  | values (type : FieldType)
  | value (type : FieldType)
  deriving DecidableEq, Repr

/-- The shape of a field of a type, repeated or not. A map is a map either way. -/
def FieldType.shape (type : FieldType) (isRepeated : Bool) : FieldShape :=
  match type with
  | .map key value => .map key value
  | .message name => if isRepeated then .messages name else .message name
  | type => if isRepeated then .values type else .value type

@[simp] theorem FieldType.shape_map (key : Scalar) (value : FieldType) (isRepeated : Bool) :
    (FieldType.map key value).shape isRepeated = .map key value := rfl

@[simp] theorem FieldType.shape_message (name : String) (isRepeated : Bool) :
    (FieldType.message name).shape isRepeated =
      if isRepeated then .messages name else .message name := rfl

@[simp] theorem FieldType.shape_scalar (scalar : Scalar) (isRepeated : Bool) :
    (FieldType.scalar scalar).shape isRepeated =
      if isRepeated then .values (.scalar scalar) else .value (.scalar scalar) := rfl

@[simp] theorem FieldType.shape_enumeration (name : String) (isRepeated : Bool) :
    (FieldType.enumeration name).shape isRepeated =
      if isRepeated then .values (.enumeration name) else .value (.enumeration name) := rfl

namespace FieldDeclaration

/-- Whether the field has many values. -/
def isRepeated (f : FieldDeclaration) : Bool :=
  f.cardinality == .repeated

/-- Whether the field can tell that it is unset. -/
def hasPresence (f : FieldDeclaration) : Bool :=
  f.cardinality == .optional || f.oneofIndex.isSome ||
    (f.cardinality == .singular && f.type.isMessage)

/-- Whether the field is a map. -/
def isMap (f : FieldDeclaration) : Bool :=
  f.type.isMap

/-- What the field holds. -/
def shape (f : FieldDeclaration) : FieldShape :=
  f.type.shape f.isRepeated

end FieldDeclaration

/-! ### Message classes and enums -/

/-- A group of fields of which at most one is set. -/
structure OneofDeclaration where
  name : String
  /-- The position among the declared oneofs of the message. -/
  index : Int32
  /-- The numbers of the members. -/
  members : List Int32
  deriving DecidableEq, Repr

/-- A message class without what is nested in it. -/
structure MessageClass where
  name : String
  /-- The identifier that the runtime library is imported as. -/
  runtime : String
  fields : List FieldDeclaration
  oneofs : List OneofDeclaration
  /-- The numbers of the fields that are read back, in the order of their cases. -/
  arms : List Int32
  deprecated : Bool
  explicitOverride : Bool
  deriving DecidableEq, Repr

namespace MessageClass

/-- The first field with a number. -/
def field? (m : MessageClass) (number : Int32) : Option FieldDeclaration :=
  m.fields.find? (·.number == number)

/-- The place among the class's oneofs of the one declared at a position. -/
def oneofPosition? (m : MessageClass) (index : Int32) : Option Nat :=
  m.oneofs.findIdx? (·.index == index)

/-- The numbers of the repeated fields. -/
def repeatedFields (m : MessageClass) : List Int32 :=
  (m.fields.filter (·.isRepeated)).map (·.number)

/-- The fields that are read back. -/
def armFields (m : MessageClass) : List FieldDeclaration :=
  m.arms.filterMap m.field?

/-- The members of a oneof that are fields of the class. -/
def memberFields (m : MessageClass) (oneof : OneofDeclaration) : List (Int32 × String) :=
  oneof.members.filterMap fun number => (m.field? number).map fun f => (number, f.name)

end MessageClass

/-- An enum. -/
structure EnumDeclaration where
  name : String
  values : List EnumValue
  deprecated : Bool
  deriving DecidableEq, Repr

/-! ### Services -/

/-- A method of a service. -/
structure Method where
  name : String
  /-- The path of its requests. -/
  path : String
  inputType : String
  outputType : String
  clientStreaming : Bool
  serverStreaming : Bool
  deprecated : Bool
  deriving DecidableEq, Repr

/-- Which sides of a call send streams. -/
inductive CallShape
  | unary
  | serverStream
  | clientStream
  | bidirectional
  deriving DecidableEq, Repr

/-- Which sides of the method's calls send streams. -/
def Method.callShape (m : Method) : CallShape :=
  match m.clientStreaming, m.serverStreaming with
  | false, false => .unary
  | false, true => .serverStream
  | true, false => .clientStream
  | true, true => .bidirectional

/-- A service as servers and clients see it. -/
structure Service where
  name : String
  methods : List Method
  deprecated : Bool
  deriving DecidableEq, Repr

/-- A server whose methods are all unimplemented. -/
structure ServerStub where
  name : String
  /-- The identifier of the RPC runtime. -/
  runtime : String
  service : Service
  deriving DecidableEq, Repr

/-- A client of a service. -/
structure ClientStub where
  name : String
  target : Target
  /-- The identifier of the RPC runtime. -/
  runtime : String
  /-- The name of the server stub whose definition the client is built from. -/
  server : String
  service : Service
  /-- Unary calls return promises. -/
  unaryPromise : Bool
  deriving DecidableEq, Repr

/-! ### Trees -/

/-- A declaration of a generated file. -/
inductive Declaration
  | enumeration (declaration : EnumDeclaration)
  /-- A class, and what its namespace holds. -/
  | message (declaration : MessageClass) (nested : List Declaration)
  /-- A namespace; its name may have points. -/
  | namespaceBlock (name : String) (body : List Declaration)
  /-- The types of client methods that the clients of a file share. -/
  | rpcInterfaces (target : Target) (runtime : String)
  | server (stub : ServerStub)
  | client (stub : ClientStub)
  deriving Repr

instance : Inhabited Declaration := ⟨.namespaceBlock "" []⟩

/-- The import of a module under an identifier. -/
structure Import where
  identifier : String
  module : String
  deriving DecidableEq, Repr

/-- A generated file. -/
structure SourceFile where
  /-- The path, relative to the output directory. -/
  name : String
  /-- The lines of the leading comment. -/
  header : List String
  imports : List Import
  body : List Declaration
  deriving Repr

end ProtoTypeScript
