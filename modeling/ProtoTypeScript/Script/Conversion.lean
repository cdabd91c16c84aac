import ProtoTypeScript.Declaration
import ProtoTypeScript.Script.Member

/-!
# Conversion from and to plain objects

`fromObject` builds a message from a plain object and `toObject` builds a plain object from a
message. Both use the object keys of fields, and leave out what is not there.
-/

namespace ProtoTypeScript.Script

/-- The type of a value in plain objects. -/
def objectValueType : FieldType → String
  | .scalar s => s.tsType
  | .enumeration name => name
  | .message name => "ReturnType<typeof " ++ name ++ ".prototype.toObject>"
  | .map _ value => "\x7b [key: string]: " ++ objectValueType value ++ " \x7d"

/-- The type of a field in plain objects. -/
def objectType (f : FieldDeclaration) : String :=
  if f.isRepeated then objectValueType f.type ++ "[]" else objectValueType f.type

/-- The keys of plain objects, with their types. -/
def objectEntries (m : MessageClass) : List (String × String) :=
  m.fields.map fun f => (f.objectKey, objectType f)

/-- The key of a map that belongs to a key of an object. -/
def mapKey : Scalar → String
  | .string => "key"
  | .bool => "key === \"true\""
  | _ => "Number(key)"

/-- The value of a map that belongs to a value of an object. -/
def mapValue : FieldType → String
  | .message name => name ++ ".fromObject(value)"
  | _ => "value"

/-- The value of a field that belongs to the value of its key. -/
def fieldFromObject (f : FieldDeclaration) (value : String) : String :=
  match f.shape with
  | .messages name => value ++ ".map(item => " ++ name ++ ".fromObject(item))"
  | .message name => name ++ ".fromObject(" ++ value ++ ")"
  | .map key mapped =>
    "new Map(Object.entries(" ++ value ++ ").map(([key, value]) => [" ++ mapKey key ++ ", " ++
      mapValue mapped ++ "] as [" ++ key.tsType ++ ", " ++ mapped.tsType ++ "]))"
  | .values _ | .value _ => value

/-- The value of a key that belongs to the value of its field. -/
def fieldToObject (f : FieldDeclaration) (value : String) : String :=
  match f.shape with
  | .messages name => value ++ ".map((item: " ++ name ++ ") => item.toObject())"
  | .message _ => value ++ ".toObject()"
  | .map _ mapped =>
    if mapped.isMessage then
      "Object.fromEntries(Array.from(" ++ value ++
        ").map(([key, value]) => [key, value.toObject()]))"
    else "Object.fromEntries(" ++ value ++ ")"
  | .values _ | .value _ => value

/-- The step of `fromObject` for a field. -/
def readKey (f : FieldDeclaration) : List Line :=
  let value := "data." ++ f.objectKey
  guardedBlock (value ++ " != null")
    [line ("message." ++ f.name ++ " = " ++ fieldFromObject f value ++ ";")]

/-- The step of `toObject` for a field. -/
def writeKey (f : FieldDeclaration) : List Line :=
  let value := "this." ++ f.name
  let condition := if f.hasPresence then "this.has_" ++ f.name else value ++ " != null"
  guardedBlock condition [line ("data." ++ f.objectKey ++ " = " ++ fieldToObject f value ++ ";")]

/-- The method that builds a message from a plain object. -/
def fromObject (m : MessageClass) : Member :=
  .method true false "fromObject"
    (.objectTyped "(data: " (objectEntries m) ("): " ++ m.name ++ " \x7b"))
    ([line ("const message = new " ++ m.name ++ "(\x7b\x7d);")] ++ m.fields.flatMap readKey ++
      [line "return message;"])

/-- The method that builds a plain object from a message. -/
def toObject (m : MessageClass) : Member :=
  .method false m.explicitOverride "toObject" (.plain "() \x7b")
    ((Signature.objectTyped "const data: " (objectEntries m) " = \x7b\x7d;").lines ++
      m.fields.flatMap writeKey ++ [line "return data;"])

end ProtoTypeScript.Script
