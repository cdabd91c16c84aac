import ProtoTypeScript.Declaration
import ProtoTypeScript.Script.Line
import ProtoTypeScript.Script.Number

/-!
# Enums

An enum has one line for each value, in declared order.
-/

namespace ProtoTypeScript.Script

/-- A value of an enum. -/
def enumValue (v : EnumValue) : String :=
  v.name ++ " = " ++ decimal v.number

/-- The lines of an enum. -/
def enumeration (e : EnumDeclaration) : List Line :=
  deprecation e.deprecated ++
    block ("export enum " ++ e.name ++ " \x7b")
      ((Text.withCommas (e.values.map enumValue)).map line) "\x7d"

end ProtoTypeScript.Script
