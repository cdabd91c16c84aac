import ProtoTypeScript.AliasScope
import ProtoTypeScript.Config
import ProtoTypeScript.TypeTable

/-!
# References from a file

`FileScope` is what a file's references are read in: the configuration, the table of types, the
file itself and the identifiers of its imports. `typeExpression` writes a type as the file refers to
it:

* the path of a type of the same file;
* the identifier of the import, the package and the path of a type of another file, or an error if
  that file is not imported.

Without namespaces a path is one identifier with underscores, and packages are left out.
-/

namespace ProtoTypeScript

/-- What the references of a file are read in. -/
structure FileScope where
  config : Config
  table : TypeTable
  file : FileDescriptor
  aliases : AliasScope
  /-- The identifier of the runtime library. -/
  runtime : String

/-- A path of types as one identifier. -/
def flatIdentifier (path : List String) : String :=
  Text.joinWith "_" path

namespace FileScope

/-- The type that a reference leads to. -/
def resolve (s : FileScope) (typeName : String) : Except Error TypeRecord :=
  s.table.resolve typeName s.file.name

/-- The expression for a type inside the file that declares it. -/
def localExpression (s : FileScope) (path : List String) : String :=
  if s.config.noNamespace then flatIdentifier path else Text.joinWith "." path

/-- The expression for a type in this file. -/
def typeExpression (s : FileScope) (r : TypeRecord) : Except Error String :=
  if r.file = s.file.name then .ok (s.localExpression r.path)
  else
    match s.aliases.identifierFor? r.file with
    | none => .error (.missingDependency s.file.name r.file)
    | some identifier =>
      if s.config.noNamespace ∨ r.package = "" then
        .ok (identifier ++ "." ++ s.localExpression r.path)
      else .ok (identifier ++ "." ++ r.package ++ "." ++ s.localExpression r.path)

/-- The name of a declaration inside the messages of `path`. -/
def declarationName (s : FileScope) (path : List String) (name : String) : String :=
  if s.config.noNamespace ∧ path ≠ [] then flatIdentifier (path ++ [name]) else name

end FileScope

end ProtoTypeScript
