import ProtoTypeScript.Script.Line

/-!
# Signatures with object types

A construct may start with an object type that has one optional key per field. Such a type takes a
line for each key, and no line at all without keys.

`Signature.lines` gives the lines up to the one that opens the body, and `Signature.block` the
whole construct.
-/

namespace ProtoTypeScript.Script

/-- How a construct with a body starts. -/
inductive Signature
  | plain (text : String)
  /-- An object type between two texts, with the types of its keys. -/
  | objectTyped (before : String) (entries : List (String × String)) (after : String)
  deriving DecidableEq, Repr

namespace Signature

/-- The line of a key in an object type. -/
def entry (e : String × String) : Line :=
  line (e.1 ++ "?: " ++ e.2 ++ ";")

/-- The lines of a signature. -/
def lines : Signature → List Line
  | plain text => [line text]
  | objectTyped before entries after =>
    if entries = [] then [line (before ++ "\x7b\x7d" ++ after)]
    else Script.block (before ++ "\x7b") (entries.map entry) ("\x7d" ++ after)

/-- A construct with a body between braces; the signature ends with the opening brace. -/
def block (s : Signature) (body : List Line) : List Line :=
  s.lines ++ indent body ++ [line "\x7d"]

/-- The signature with a text in front. -/
def withFront (front : String) : Signature → Signature
  | plain text => plain (front ++ text)
  | objectTyped before entries after => objectTyped (front ++ before) entries after

end Signature

end ProtoTypeScript.Script
