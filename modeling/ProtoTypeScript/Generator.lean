import ProtoTypeScript.Config.Parameter
import ProtoTypeScript.Declaration.File
import ProtoTypeScript.Script.File

/-!
# Runs

`Config.run` turns a request into generated files, one for each file of the request, in its order.
`Request.answer?` is the whole job: it reads the configuration from the request's parameter and
answers with all files or with one error. A run that uses up the stack has no answer.

The errors come in this order: the parameter, the version of TypeScript, the table of types, then
the files one after the other.
-/

namespace ProtoTypeScript

/-- A file to be written. -/
structure GeneratedFile where
  name : String
  content : String
  deriving DecidableEq, Repr

/-- The file that a tree is written to. -/
def GeneratedFile.ofSource (f : SourceFile) : GeneratedFile :=
  ⟨f.name, f.text⟩

/-- The answer to a request: files, or an error and no files. -/
structure Response where
  error : Option String
  files : List GeneratedFile
  deriving DecidableEq, Repr, Inhabited

/-- The number of the feature that every response announces: optional fields in `proto3`. -/
def Response.supportedFeatures : Nat := 1

/-- The response for the outcome of a run, if the program gets as far as to write one. -/
def Response.ofOutcome? : Except Failure (List GeneratedFile) → Option Response
  | .ok files => some ⟨none, files⟩
  | .error (.reported e) => some ⟨some e.message, []⟩
  | .error .stackOverflow => none

namespace Config

/-- Whether code can be generated for the compiler that the configuration names. -/
def checkVersion (c : Config) : Except Error Unit :=
  if c.tsVersion.isSupported then .ok ()
  else .error (.unsupportedTypeScript .minimum c.tsVersion)

/-- The trees of all files of a request. -/
def trees (c : Config) (r : Request) : Except Failure (List SourceFile) := do
  report c.checkVersion
  let table ← report (TypeTable.empty.registerAll r.files)
  SourceFile.lowerAll c table r.compilerVersion .empty r.files

/-- The files generated for a request. -/
def run (c : Config) (r : Request) : Except Failure (List GeneratedFile) := do
  let trees ← c.trees r
  return trees.map GeneratedFile.ofSource

end Config

namespace Request

/-- The files generated for a request under the configuration of its parameter. -/
def run (r : Request) : Except Failure (List GeneratedFile) := do
  let config ← report (Config.ofParameter r.parameter)
  config.run r

/-- The response to a request. -/
def answer? (r : Request) : Option Response :=
  Response.ofOutcome? r.run

end Request

/-! ### Runs that return

To a caller inside the program only the runs exist that return: one that uses up the stack takes the
caller with it. What the functions below say of such a run is never seen. -/

/-- The outcome of a run as its caller sees it. -/
def returned {α : Type} [Inhabited α] : Except Failure α → Except Error α
  | .ok a => .ok a
  | .error (.reported e) => .error e
  | .error .stackOverflow => .ok default

theorem report_returned {α : Type} [Inhabited α] {x : Except Failure α}
    (h : x ≠ .error .stackOverflow) : report (returned x) = x := by
  match x, h with
  | .ok a, _ => rfl
  | .error (.reported e), _ => rfl
  | .error .stackOverflow, h => exact absurd rfl h

/-- The trees of all files of a request, or the error of the run. -/
def Config.sources (c : Config) (r : Request) : Except Error (List SourceFile) :=
  returned (c.trees r)

/-- The files generated for a request, or the error of the run. -/
def Config.generate (c : Config) (r : Request) : Except Error (List GeneratedFile) :=
  returned (c.run r)

/-- The files generated for a request under its own configuration, or the error of the run. -/
def Request.generate (r : Request) : Except Error (List GeneratedFile) :=
  returned r.run

/-- The response to a request whose run returns. -/
def Request.respond (r : Request) : Response :=
  r.answer?.getD default

theorem Request.respond_of_answer? {r : Request} {response : Response}
    (h : r.answer? = some response) : r.respond = response := by
  rw [respond, h]
  rfl

end ProtoTypeScript
