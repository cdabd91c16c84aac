import ProtoTypeScript.Text.Split

/-!
# Qualified type names

A qualified name starts with a point and has the package, the enclosing messages and the type as
segments between points: `.foo.bar.Outer.Inner`.

* `TypeName.qualified` puts a name together from where the type is declared;
* `TypeName.ofReference` brings a name as fields and methods refer to it into the same form, whether
  or not it is written with a leading point.
-/

namespace ProtoTypeScript

/-- The qualified name of a message or an enum. -/
structure TypeName where
  text : String
  deriving DecidableEq, Repr, Inhabited

namespace TypeName

/-- The text without the points it starts with. -/
def dropPoints (s : String) : String :=
  String.ofList (s.toList.dropWhile (· == '.'))

/-- The text without the points at either end. -/
def trimPoints (s : String) : String :=
  String.ofList (((s.toList.dropWhile (· == '.')).reverse.dropWhile (· == '.')).reverse)

/-- The name of the type `name` inside the messages of `path` in a package. -/
def qualified (package : String) (path : List String) (name : String) : TypeName :=
  ⟨(if package = "" then "" else "." ++ trimPoints package) ++
    (if path = [] then "" else "." ++ Text.joinWith "." (path.map dropPoints)) ++
    (if name = "" then "" else "." ++ name)⟩

/-- The name that a field or a method refers to. -/
def ofReference (typeName : String) : TypeName :=
  ⟨"." ++ dropPoints typeName⟩

end TypeName

end ProtoTypeScript
