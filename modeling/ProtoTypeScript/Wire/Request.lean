import ProtoTypeScript.Descriptor
import ProtoTypeScript.Wire.Message

/-!
# Requests on the wire

`Request.decode?` reads a request, each kind of message by its own field reader.

* Of a value that is given more than once the last counts, lists grow, and messages are merged.
* Options hold nothing but flags here, so they are read into the descriptor that they belong to.
* A request is at level zero; a message at a level above 100 is refused.
-/

namespace ProtoTypeScript.Wire

/-- The field of an optional or single value. -/
def put {α β : Type} (value : Option β) (set : β → α) : Uptake α :=
  .ofOption (value.map set)

/-- The version of the compiler. -/
def readVersion : FieldReader CompilerVersion := fun v number value =>
  match number with
  | 1 => put value.int32? fun n => { v with major := n }
  | 2 => put value.int32? fun n => { v with minor := n }
  | 3 => put value.int32? fun n => { v with patch := n }
  | 4 => put value.text? fun s => { v with suffix := s }
  | _ => .unknown

/-- The options of a field. -/
def readFieldOptions : FieldReader FieldDescriptor := fun f number value =>
  match number with
  | 2 => put value.bool? fun b => { f with packed? := some b }
  | 3 => put value.bool? fun b => { f with deprecated := b }
  | _ => .unknown

/-- A field of a message. -/
def readField (budget : Nat) : FieldReader FieldDescriptor := fun f number value =>
  match number with
  | 1 => put value.text? fun s => { f with name? := some s }
  | 3 => put value.int32? fun n => { f with number? := some n }
  | 4 => put value.int32? fun n => { f with label? := some n }
  | 5 => put value.int32? fun n => { f with type? := some n }
  | 6 => put value.text? fun s => { f with typeName? := some s }
  | 7 => put value.text? fun s => { f with defaultValue? := some s }
  | 8 => .ofOption (submessage? budget (fun _ => readFieldOptions) f value)
  | 9 => put value.int32? fun n => { f with oneofIndex? := some n }
  | 10 => put value.text? fun s => { f with jsonName? := some s }
  | 17 => put value.bool? fun b => { f with proto3Optional := b }
  | _ => .unknown

/-- A value of an enum. -/
def readEnumValue : FieldReader EnumValue := fun v number value =>
  match number with
  | 1 => put value.text? fun s => { v with name := s }
  | 2 => put value.int32? fun n => { v with number := n }
  | _ => .unknown

/-- The options of an enum. -/
def readEnumOptions : FieldReader EnumDescriptor := fun e number value =>
  match number with
  | 3 => put value.bool? fun b => { e with deprecated := b }
  | _ => .unknown

/-- An enum. -/
def readEnum (budget : Nat) : FieldReader EnumDescriptor := fun e number value =>
  match number with
  | 1 => put value.text? fun s => { e with name := s }
  | 2 => put (submessage? budget (fun _ => readEnumValue) default value) fun v =>
      { e with values := e.values ++ [v] }
  | 3 => .ofOption (submessage? budget (fun _ => readEnumOptions) e value)
  | _ => .unknown

/-- A oneof, of which the name matters. -/
def readOneof : FieldReader String := fun _ number value =>
  match number with
  | 1 => .ofOption value.text?
  | _ => .unknown

/-- The options of a message. -/
def readMessageOptions : FieldReader MessageDescriptor := fun m number value =>
  match number with
  | 3 => put value.bool? fun b => { m with deprecated := b }
  | 7 => put value.bool? fun b => { m with mapEntry := b }
  | _ => .unknown

/-- A message, `nested` being how a message inside it is read. -/
def readMessageFields (budget : Nat) (nested : Value → Option MessageDescriptor) :
    FieldReader MessageDescriptor := fun m number value =>
  match number with
  | 1 => put value.text? fun s => { m with name := s }
  | 2 => put (submessage? budget readField default value) fun f =>
      { m with fields := m.fields ++ [f] }
  | 3 => put (nested value) fun n => { m with nested := m.nested ++ [n] }
  | 4 => put (submessage? budget readEnum default value) fun e =>
      { m with enums := m.enums ++ [e] }
  | 7 => .ofOption (submessage? budget (fun _ => readMessageOptions) m value)
  | 8 => put (submessage? budget (fun _ => readOneof) "" value) fun s =>
      { m with oneofs := m.oneofs ++ [s] }
  | _ => .unknown

/-- A message and the messages inside it. -/
def readMessage (budget : Nat) : FieldReader MessageDescriptor :=
  match budget with
  | 0 => readMessageFields 0 fun _ => none
  | budget + 1 =>
    readMessageFields (budget + 1) fun value =>
      value.bytes?.bind (merge? budget (readMessage budget) {})

/-- The options of a method. -/
def readMethodOptions : FieldReader MethodDescriptor := fun m number value =>
  match number with
  | 33 => put value.bool? fun b => { m with deprecated := b }
  | _ => .unknown

/-- A method of a service. -/
def readMethod (budget : Nat) : FieldReader MethodDescriptor := fun m number value =>
  match number with
  | 1 => put value.text? fun s => { m with name := s }
  | 2 => put value.text? fun s => { m with inputType := s }
  | 3 => put value.text? fun s => { m with outputType := s }
  | 4 => .ofOption (submessage? budget (fun _ => readMethodOptions) m value)
  | 5 => put value.bool? fun b => { m with clientStreaming := b }
  | 6 => put value.bool? fun b => { m with serverStreaming := b }
  | _ => .unknown

/-- The options of a service. -/
def readServiceOptions : FieldReader ServiceDescriptor := fun s number value =>
  match number with
  | 33 => put value.bool? fun b => { s with deprecated := b }
  | _ => .unknown

/-- A service. -/
def readService (budget : Nat) : FieldReader ServiceDescriptor := fun s number value =>
  match number with
  | 1 => put value.text? fun t => { s with name := t }
  | 2 => put (submessage? budget readMethod default value) fun m =>
      { s with methods := s.methods ++ [m] }
  | 3 => .ofOption (submessage? budget (fun _ => readServiceOptions) s value)
  | _ => .unknown

/-- The options of a file. -/
def readFileOptions : FieldReader FileDescriptor := fun f number value =>
  match number with
  | 23 => put value.bool? fun b => { f with deprecated := b }
  | _ => .unknown

/-- A file. -/
def readFile (budget : Nat) : FieldReader FileDescriptor := fun f number value =>
  match number with
  | 1 => put value.text? fun s => { f with name := s }
  | 2 => put value.text? fun s => { f with package := s }
  | 3 => put value.text? fun s => { f with dependencies := f.dependencies ++ [s] }
  | 4 => put (submessage? budget readMessage default value) fun m =>
      { f with messages := f.messages ++ [m] }
  | 5 => put (submessage? budget readEnum default value) fun e =>
      { f with enums := f.enums ++ [e] }
  | 6 => put (submessage? budget readService default value) fun s =>
      { f with services := f.services ++ [s] }
  | 8 => .ofOption (submessage? budget (fun _ => readFileOptions) f value)
  | 10 => put value.int32s? fun ns =>
      { f with publicDependencies := f.publicDependencies ++ ns }
  | 12 => put value.text? fun s => { f with dialectName := s }
  | _ => .unknown

/-- A request. -/
def readRequest (budget : Nat) : FieldReader Request := fun r number value =>
  match number with
  | 1 => put value.text? fun s => { r with filesToGenerate := r.filesToGenerate ++ [s] }
  | 2 => put value.text? fun s => { r with parameter := s }
  | 3 => put (submessage? budget (fun _ => readVersion) r.compilerVersion value) fun v =>
      { r with compilerVersion := v }
  | 15 => put (submessage? budget readFile default value) fun f =>
      { r with files := r.files ++ [f] }
  | _ => .unknown

/-- How many levels of messages there may be below a request. -/
def maxDepth : Nat := 100

end ProtoTypeScript.Wire

namespace ProtoTypeScript

/-- The request that bytes encode. -/
def Request.decode? (bytes : List UInt8) : Option Request :=
  Wire.merge? Wire.maxDepth (Wire.readRequest Wire.maxDepth) {} bytes

end ProtoTypeScript
