import ProtoTypeScript.Declaration
import ProtoTypeScript.Script.Member

/-!
# Constructors and accessors

* `constructor` takes the values of fields, or the array that the runtime library works on;
* `fieldAccessors` are the getter and the setter of a field, and the `has_` accessor of a field with
  presence;
* `oneofCase` is the accessor of a oneof, which names the member that is set.

The setter of a member of a oneof names the slot of the oneof: the position of the oneof in the
class, which is also that of its group in `#one_of_decls`.
-/

namespace ProtoTypeScript.Script

/-! ### Expressions -/

/-- The type of the property of a field. -/
def propertyType (f : FieldDeclaration) : String :=
  if f.isRepeated then f.type.tsType ++ "[]" else f.type.tsType

/-- The slot of a oneof. -/
def oneofSlot (position : Nat) : String :=
  "this.#one_of_decls[" ++ toString position ++ "]"

/-- A call of a function of the runtime library's messages. -/
def messageCall (runtime function : String) (arguments : List String) : String :=
  runtime ++ ".Message." ++ function ++ "(" ++ Text.joinWith ", " arguments ++ ")"

/-! ### Constructors -/

/-- The assignment of a value that the constructor is given. -/
def initialValue (f : FieldDeclaration) : List Line :=
  guardedBlock ("\"" ++ f.name ++ "\" in data && data." ++ f.name ++ " != undefined")
    [line ("this." ++ f.name ++ " = data." ++ f.name ++ ";")]

/-- The assignments of the values that the constructor is given. -/
def initialValues (fields : List FieldDeclaration) : List Line :=
  if fields = [] then []
  else
    guardedBlock "!Array.isArray(data) && typeof data == \"object\"" (fields.flatMap initialValue)

/-- The map that a map field starts with. -/
def initialMap (f : FieldDeclaration) : List Line :=
  guarded ("!this." ++ f.name) ("this." ++ f.name ++ " = new Map();")

/-- The constructor of a class. -/
def constructor (m : MessageClass) : Member :=
  .construct
    (.objectTyped "(data?: any[] | " (m.fields.map fun f => (f.name, propertyType f)) ") \x7b")
    ([line "super();",
      line (messageCall m.runtime "initialize"
        ["this", "Array.isArray(data) ? data : []", "0", "-1", numberArray m.repeatedFields,
          "this.#one_of_decls"] ++ ";")] ++
      initialValues m.fields ++ (m.fields.filter (·.isMap)).flatMap initialMap)

/-! ### Accessors of fields -/

/-- What the getter of a field returns. -/
def getterValue (runtime : String) (f : FieldDeclaration) : String :=
  let type := propertyType f
  let number := decimal f.number
  match f.shape with
  | .map _ _ => messageCall runtime "getField" ["this", number] ++ " as any as " ++ type
  | .messages message =>
    messageCall runtime "getRepeatedWrapperField" ["this", message, number] ++ " as " ++ type
  | .message message =>
    messageCall runtime "getWrapperField" ["this", message, number] ++ " as " ++ type
  | .values _ | .value _ =>
    messageCall runtime "getFieldWithDefault" ["this", number, f.defaultValue] ++ " as " ++ type

/-- What the setter of a field does; `slot` is that of its oneof. -/
def setterCall (runtime : String) (f : FieldDeclaration) (slot : Option String) : String :=
  let number := decimal f.number
  match f.shape, slot with
  | .map _ _, _ => messageCall runtime "setField" ["this", number, "value as any"]
  | .messages _, _ => messageCall runtime "setRepeatedWrapperField" ["this", number, "value"]
  | .message _, some slot =>
    messageCall runtime "setOneofWrapperField" ["this", number, slot, "value"]
  | .message _, none => messageCall runtime "setWrapperField" ["this", number, "value"]
  | .values _, some slot | .value _, some slot =>
    messageCall runtime "setOneofField" ["this", number, slot, "value"]
  | .values _, none | .value _, none => messageCall runtime "setField" ["this", number, "value"]

/-- The slot of the oneof that a field is a member of. -/
def fieldSlot (m : MessageClass) (f : FieldDeclaration) : Option String :=
  (f.oneofIndex.bind m.oneofPosition?).map oneofSlot

/-- The accessor that tells whether a field is set. -/
def presenceAccessor (runtime : String) (f : FieldDeclaration) : Member :=
  .getter false ("has_" ++ f.name)
    [line ("return " ++ messageCall runtime "getField" ["this", decimal f.number] ++ " != null;")]

/-- The accessors of a field. -/
def fieldAccessors (m : MessageClass) (f : FieldDeclaration) : List Member :=
  [.getter f.deprecated f.name [line ("return " ++ getterValue m.runtime f ++ ";")],
    .setter f.name (propertyType f) [line (setterCall m.runtime f (fieldSlot m f) ++ ";")]] ++
    (if f.hasPresence then [presenceAccessor m.runtime f] else [])

/-! ### Accessors of oneofs -/

/-- The accessor that names the member of a oneof that is set. -/
def oneofCase (m : MessageClass) (oneof : OneofDeclaration) : Member :=
  let members := m.memberFields oneof
  let alternatives := members.map fun member => " | \"" ++ member.2 ++ "\""
  let cases := members.map fun member => decimal member.1 ++ ": \"" ++ member.2 ++ "\""
  .getter false oneof.name
    ([line "const cases: \x7b"] ++
      indent [line ("[index: number]: \"none\"" ++ String.join alternatives ++ ";")] ++
      [line "\x7d = \x7b"] ++
      indent ((Text.withCommas ("0: \"none\"" :: cases)).map line) ++
      [line "\x7d;",
        line ("return cases[" ++
          messageCall m.runtime "computeOneofCase" ["this", numberArray oneof.members] ++ "];")])

end ProtoTypeScript.Script
