import ProtoTypeScript.Declaration
import ProtoTypeScript.Script.Member

/-!
# The wire format

How generated classes write their fields and read them back.

* `WriteStatement.ofField` is the statement of `serialize` for a field, and `ReadStatement.ofField`
  that of `deserialize`; `lines` writes each of them down;
* `serialize` has one statement for each field, in declared order, and `deserialize` one case for
  each arm, followed by the case that skips a field it does not know.

A repeated field that may be packed is read in both encodings, whichever it is written in.
-/

namespace ProtoTypeScript.Script

/-! ### Statements -/

/-- When a single value is written. -/
inductive WriteGuard
  | present
  | nonEmpty
  | differsFrom (default : String)
  deriving DecidableEq, Repr

/-- How a field is written. -/
inductive WriteForm
  | mapEntries (key : Scalar) (value : FieldType)
  | messages (type : String)
  | message
  | packed (method : String)
  | repeated (method : String)
  | value (guard : WriteGuard) (method : String)
  deriving DecidableEq, Repr

/-- The statement that writes a field. -/
structure WriteStatement where
  name : String
  number : Int32
  form : WriteForm
  deriving DecidableEq, Repr

/-- How a field is read. -/
inductive ReadForm
  | mapEntries (key : Scalar) (value : FieldType)
  | messages (type : String)
  | message (type : String)
  /-- Packed values, or one that is not. -/
  | packedOrOne (method : String)
  | one (method : String)
  | value (method : String)
  deriving DecidableEq, Repr

/-- The statement that reads a field. -/
structure ReadStatement where
  name : String
  number : Int32
  form : ReadForm
  deriving DecidableEq, Repr

/-- When a field with a single value is written. -/
def writeGuard (f : FieldDeclaration) : WriteGuard :=
  if f.hasPresence then .present
  else if f.type.hasLength then .nonEmpty
  else .differsFrom f.defaultValue

/-- How the field is written. -/
def writeForm (f : FieldDeclaration) : WriteForm :=
  match f.shape with
  | .map key value => .mapEntries key value
  | .messages type => .messages type
  | .message _ => .message
  | .values type => if f.packed then .packed type.wireMethod else .repeated type.wireMethod
  | .value type => .value (writeGuard f) type.wireMethod

/-- How the field is read. -/
def readForm (f : FieldDeclaration) : ReadForm :=
  match f.shape with
  | .map key value => .mapEntries key value
  | .messages type => .messages type
  | .message type => .message type
  | .values type =>
    if type.isPackable then .packedOrOne type.wireMethod else .one type.wireMethod
  | .value type => .value type.wireMethod

/-- The statement that writes the field. -/
def WriteStatement.ofField (f : FieldDeclaration) : WriteStatement :=
  ⟨f.name, f.number, writeForm f⟩

/-- The statement that reads the field. -/
def ReadStatement.ofField (f : FieldDeclaration) : ReadStatement :=
  ⟨f.name, f.number, readForm f⟩

/-! ### Their lines -/

/-- The condition under which a value is written. -/
def WriteGuard.condition (name : String) : WriteGuard → String
  | present => "this.has_" ++ name
  | nonEmpty => "this." ++ name ++ ".length"
  | differsFrom default => "this." ++ name ++ " != " ++ default

/-- The statement that writes the value of a map entry. -/
def writeMapValue : FieldType → String
  | .message _ => "writer.writeMessage(2, value, () => value.serialize(writer));"
  | type => "writer.write" ++ type.wireMethod ++ "(2, value);"

/-- The lines of a statement that writes a field. -/
def WriteStatement.lines (w : WriteStatement) : List Line :=
  let value := "this." ++ w.name
  let number := decimal w.number
  match w.form with
  | .mapEntries key mapped =>
    block ("for (const [key, value] of " ++ value ++ ") \x7b")
      (block ("writer.writeMessage(" ++ number ++ ", " ++ value ++ ", () => \x7b")
        [line ("writer.write" ++ key.wireMethod ++ "(1, key);"), line (writeMapValue mapped)]
        "\x7d);")
      "\x7d"
  | .messages type =>
    guarded (value ++ ".length")
      ("writer.writeRepeatedMessage(" ++ number ++ ", " ++ value ++ ", (item: " ++ type ++
        ") => item.serialize(writer));")
  | .message =>
    guarded ("this.has_" ++ w.name)
      ("writer.writeMessage(" ++ number ++ ", " ++ value ++ ", () => " ++ value ++
        ".serialize(writer));")
  | .packed method =>
    guarded (value ++ ".length")
      ("writer.writePacked" ++ method ++ "(" ++ number ++ ", " ++ value ++ ");")
  | .repeated method =>
    guarded (value ++ ".length")
      ("writer.writeRepeated" ++ method ++ "(" ++ number ++ ", " ++ value ++ ");")
  | .value guard method =>
    guarded (guard.condition w.name)
      ("writer.write" ++ method ++ "(" ++ number ++ ", " ++ value ++ ");")

/-- The lines of a statement that reads a field. -/
def ReadStatement.lines (runtime : String) (r : ReadStatement) : List Line :=
  let value := "message." ++ r.name
  match r.form with
  | .mapEntries key (.message type) =>
    block ("reader.readMessage(message, () => " ++ runtime ++ ".Map.deserializeBinary(" ++ value ++
        " as any, reader, reader.read" ++ key.wireMethod ++ ", () => \x7b")
      [line "let value;",
        line ("reader.readMessage(message, () => value = " ++ type ++ ".deserialize(reader));"),
        line "return value;"]
      "\x7d));"
  | .mapEntries key mapped =>
    [line ("reader.readMessage(message, () => " ++ runtime ++ ".Map.deserializeBinary(" ++ value ++
      " as any, reader, reader.read" ++ key.wireMethod ++ ", reader.read" ++ mapped.wireMethod ++
      "));")]
  | .messages type =>
    [line ("reader.readMessage(" ++ value ++ ", () => " ++ runtime ++
      ".Message.addToRepeatedWrapperField(message, " ++ decimal r.number ++ ", " ++ type ++
      ".deserialize(reader), " ++ type ++ "));")]
  | .message type =>
    [line ("reader.readMessage(" ++ value ++ ", () => " ++ value ++ " = " ++ type ++
      ".deserialize(reader));")]
  | .packedOrOne method =>
    [line (value ++ " = [..." ++ value ++ ", ...(reader.isDelimited() ? reader.readPacked" ++
      method ++ "() : [reader.read" ++ method ++ "()])];")]
  | .one method =>
    [line (runtime ++ ".Message.addToRepeatedField(message, " ++ decimal r.number ++
      ", reader.read" ++ method ++ "());")]
  | .value method => [line (value ++ " = reader.read" ++ method ++ "();")]

/-- The case of a field that is read. -/
def readCase (runtime : String) (r : ReadStatement) : List Line :=
  line ("case " ++ decimal r.number ++ ":") :: indent (r.lines runtime ++ [line "break;"])

/-! ### Methods -/

/-- The method that writes a message. -/
def serialize (m : MessageClass) : Member :=
  .method false false "serialize"
    (.plain ("(w?: " ++ m.runtime ++ ".BinaryWriter): Uint8Array | void \x7b"))
    ([line ("const writer = w || new " ++ m.runtime ++ ".BinaryWriter();")] ++
      (m.fields.map WriteStatement.ofField).flatMap WriteStatement.lines ++
      guarded "!w" "return writer.getResultBuffer();")

/-- The ways in which `serialize` may be called. -/
def serializeOverloads (m : MessageClass) : List Member :=
  [.overload "serialize" "(): Uint8Array",
    .overload "serialize" ("(w: " ++ m.runtime ++ ".BinaryWriter): void")]

/-- The method that reads a message. -/
def deserialize (m : MessageClass) : Member :=
  .method true false "deserialize"
    (.plain ("(bytes: Uint8Array | " ++ m.runtime ++ ".BinaryReader): " ++ m.name ++ " \x7b"))
    ([line ("const reader = bytes instanceof " ++ m.runtime ++ ".BinaryReader ? bytes : new " ++
        m.runtime ++ ".BinaryReader(bytes), message = new " ++ m.name ++ "();")] ++
      block "while (reader.nextField()) \x7b"
        (guarded "reader.isEndGroup()" "break;" ++
          block "switch (reader.getFieldNumber()) \x7b"
            ((m.armFields.map ReadStatement.ofField).flatMap (readCase m.runtime) ++
              [line "default: reader.skipField();"])
            "\x7d")
        "\x7d" ++
      [line "return message;"])

/-- The methods that write and read a message as bytes. -/
def binaryMethods (m : MessageClass) : List Member :=
  [.method false m.explicitOverride "serializeBinary" (.plain "(): Uint8Array \x7b")
      [line "return this.serialize();"],
    .method true m.explicitOverride "deserializeBinary"
      (.plain ("(bytes: Uint8Array): " ++ m.name ++ " \x7b"))
      [line ("return " ++ m.name ++ ".deserialize(bytes);")]]

end ProtoTypeScript.Script
