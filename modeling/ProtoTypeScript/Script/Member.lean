import ProtoTypeScript.Script.Number
import ProtoTypeScript.Script.Signature

/-!
# Members of classes

A message class is a list of members. `Member.lines` writes one down and `Member.instanceName?` is
the name that it gives the instances of the class, if any.
-/

namespace ProtoTypeScript.Script

/-- A member of a message class. -/
inductive Member
  /-- The numbers of the members of each oneof. -/
  | slots (groups : List (List Int32))
  | construct (signature : Signature) (body : List Line)
  | getter (deprecated : Bool) (name : String) (body : List Line)
  | setter (name valueType : String) (body : List Line)
  /-- A way in which the method of the name may be called. -/
  | overload (name signature : String)
  | method (isStatic overrides : Bool) (name : String) (signature : Signature) (body : List Line)
  deriving DecidableEq, Repr

namespace Member

/-- The words in front of the name of a method. -/
def modifiers (isStatic overrides : Bool) : String :=
  (if isStatic then "static " else "") ++ (if overrides then "override " else "")

/-- The lines of a member. -/
def lines : Member → List Line
  | slots groups =>
    [line ("#one_of_decls: number[][] = [" ++ Text.joinWith ", " (groups.map numberArray) ++ "];")]
  | construct signature body => (signature.withFront "constructor").block body
  | getter deprecated name body =>
    deprecation deprecated ++ block ("get " ++ name ++ "() \x7b") body "\x7d"
  | setter name valueType body =>
    block ("set " ++ name ++ "(value: " ++ valueType ++ ") \x7b") body "\x7d"
  | overload name signature => [line (name ++ signature ++ ";")]
  | method isStatic overrides name signature body =>
    (signature.withFront (modifiers isStatic overrides ++ name)).block body

/-- The property of instances that the member reads or calls. -/
def instanceName? : Member → Option String
  | getter _ name _ => some name
  | method false _ name _ _ => some name
  | _ => none

end Member

end ProtoTypeScript.Script
