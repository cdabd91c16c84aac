import ProtoTypeScript.Text.Split

/-!
# Numbers in code

Field numbers, enum values and positions are written in decimal.
-/

namespace ProtoTypeScript.Script

/-- A number with its sign. -/
def decimal (n : Int32) : String :=
  toString n.toInt

/-- Numbers as the elements of an array. -/
def numberArray (ns : List Int32) : String :=
  "[" ++ Text.joinWith ", " (ns.map decimal) ++ "]"

end ProtoTypeScript.Script
