import ProtoTypeScript.Text.Split

/-!
# Module paths

The path of a `.proto` file, without its extension, is the path of the module generated for it.

* `ModulePath.ofFile` drops the extension and resolves `.`, `..` and empty segments; a `..` that
  nothing precedes stays;
* `fileName` is the path as the name of a file with an extension;
* `specifier` is what a module writes to import another: the relative path from its directory,
  with `./` in front unless it starts with a point.

Two modules share the part of their directories that `commonLength` counts, and the path between
them leaves it out. `take_commonLength` says that it is the same part of both.
-/

namespace ProtoTypeScript

/-- A path of segments. -/
structure ModulePath where
  segments : List String
  deriving DecidableEq, Repr, Inhabited

namespace ModulePath

/-- A path without its extension: the last point and what follows it, if that is not empty and has
no slash. -/
def stripExtension (path : List Char) : List Char :=
  let inName := fun c : Char => c != '.' && c != '/'
  match path.reverse.dropWhile inName with
  | '.' :: base => if path.reverse.takeWhile inName = [] then path else base.reverse
  | _ => path

/-- The segments read so far, the last one first, after one more. -/
def push (stack : List String) (segment : String) : List String :=
  if segment = "" ∨ segment = "." then stack
  else if segment = ".." then
    match stack with
    | [] => [".."]
    | last :: rest => if last = ".." then ".." :: stack else rest
  else segment :: stack

/-- The segments with `.`, `..` and empty ones resolved. -/
def resolve (segments : List String) : List String :=
  (segments.foldl push []).reverse

/-- The module path of a file. -/
def ofFile (path : String) : ModulePath :=
  ⟨resolve ((Text.splitOn '/' (stripExtension path.toList)).map String.ofList)⟩

/-- The path as a text. -/
def text (m : ModulePath) : String :=
  Text.joinWith "/" m.segments

/-- The name of the module's file. -/
def fileName (m : ModulePath) (extension : String) : String :=
  m.text ++ extension

/-- The segments but the last. -/
def directory (m : ModulePath) : List String :=
  m.segments.dropLast

/-- The number of segments that two paths have in common at their start. -/
def commonLength : List String → List String → Nat
  | a :: as, b :: bs => if a = b then commonLength as bs + 1 else 0
  | _, _ => 0

/-- The segments that lead from the directory of `importer` to the module. -/
def relativeSegments (m importer : ModulePath) : List String :=
  let common := commonLength importer.directory m.directory
  List.replicate (importer.directory.length - common) ".." ++ m.segments.drop common

/-- The text by which `importer` imports the module. -/
def specifier (m importer : ModulePath) : String :=
  let path := Text.joinWith "/" (m.relativeSegments importer)
  if path.toList.head? = some '.' then path else "./" ++ path

theorem commonLength_le_left (as bs : List String) : commonLength as bs ≤ as.length := by
  fun_induction commonLength as bs with
  | case1 a as bs ih => simp only [List.length_cons]; omega
  | case2 => omega
  | case3 => omega

theorem commonLength_le_right (as bs : List String) : commonLength as bs ≤ bs.length := by
  fun_induction commonLength as bs with
  | case1 a as bs ih => simp only [List.length_cons]; omega
  | case2 => omega
  | case3 => omega

theorem take_commonLength (as bs : List String) :
    as.take (commonLength as bs) = bs.take (commonLength as bs) := by
  fun_induction commonLength as bs with
  | case1 a as bs ih => simp [ih]
  | case2 => simp
  | case3 => simp

end ModulePath

end ProtoTypeScript
