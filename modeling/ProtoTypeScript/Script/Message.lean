import ProtoTypeScript.Script.Accessors
import ProtoTypeScript.Script.Conversion
import ProtoTypeScript.Script.WireFormat

/-!
# Message classes

`members` lists what a message class has, in the order in which it is written, and `messageClass`
gives its lines.
-/

namespace ProtoTypeScript.Script

/-- The members of a message class. -/
def members (m : MessageClass) : List Member :=
  [.slots (m.oneofs.map (·.members)), constructor m] ++
    m.fields.flatMap (fieldAccessors m) ++
    m.oneofs.map (oneofCase m) ++
    [fromObject m, toObject m] ++
    serializeOverloads m ++
    [serialize m, deserialize m] ++
    binaryMethods m

/-- The lines of a message class, without what is nested in it. -/
def messageClass (m : MessageClass) : List Line :=
  deprecation m.deprecated ++
    block ("export class " ++ m.name ++ " extends " ++ m.runtime ++ ".Message \x7b")
      ((members m).flatMap Member.lines) "\x7d"

end ProtoTypeScript.Script
