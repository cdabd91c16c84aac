import ProtoTypeScript.Version

/-!
# Errors

What makes a run fail. Every error is final for the whole request: the response then carries
`Error.message` and no files.

A run can also come to a recursion without an end. It uses up the stack and the program is stopped,
so there is no response at all; `Failure` has both.
-/

namespace ProtoTypeScript

/-- The causes for which a run is given up. -/
inductive Error
  /-- The targeted compiler is too old for the generated code. -/
  | unsupportedTypeScript (minimum found : TypeScriptVersion)
  /-- A name that no file of the request declares. -/
  | unresolvedType (typeName file : String)
  /-- A type of a file that is not imported. -/
  | missingDependency (file dependency : String)
  /-- A map entry without a scalar key field and a value field that is no map. -/
  | malformedMapEntry (name : String)
  /-- A default that is no value of the type of its field. -/
  | invalidDefault (field value : String)
  | unknownOption (key : String)
  | invalidOption (key value : String)
  deriving DecidableEq, Repr

namespace Error

/-- The text shown to the user. Values stand in it as they are. -/
def message : Error → String
  | unsupportedTypeScript minimum found =>
    "protoc-gen-ts requires TypeScript " ++ minimum.text ++ " or above, but the target is " ++
      found.text ++ "."
  | unresolvedType typeName file =>
    "unresolved type `" ++ typeName ++ "` referenced from `" ++ file ++ "`"
  | missingDependency file dependency =>
    "`" ++ file ++ "` references `" ++ dependency ++ "` but does not import it"
  | malformedMapEntry name =>
    "map entry `" ++ name ++ "` must declare a scalar `key` field and a `value` field"
  | invalidDefault field value =>
    "invalid default value `" ++ value ++ "` for field `" ++ field ++ "`"
  | unknownOption key => "unknown option `" ++ key ++ "`"
  | invalidOption key value => "invalid value `" ++ value ++ "` for option `" ++ key ++ "`"

end Error

/-- What ends a run before it has its result. -/
inductive Failure
  /-- An error, which the response reports. -/
  | reported (e : Error)
  /-- A recursion that goes on until the stack is used up. The program is stopped there. -/
  | stackOverflow
  deriving DecidableEq, Repr

/-- An outcome whose error, if there is one, is reported. -/
def report {α : Type} (x : Except Error α) : Except Failure α :=
  x.mapError .reported

@[simp] theorem report_ok {α : Type} (a : α) : report (.ok a) = .ok a := rfl

@[simp] theorem report_error {α : Type} (e : Error) :
    report (.error e : Except Error α) = .error (.reported e) := rfl

end ProtoTypeScript
