import ProtoTypeScript.Script.Enumeration
import ProtoTypeScript.Script.Message
import ProtoTypeScript.Script.Rpc.Interfaces
import ProtoTypeScript.Script.Rpc.NodeClient
import ProtoTypeScript.Script.Rpc.Server
import ProtoTypeScript.Script.Rpc.WebClient

/-!
# Generated files as text

* `declaration` gives the lines of a declaration; what is nested in a message stands in a namespace
  of the message's name after the class;
* `SourceFile.text` is the text of a generated file: the comment, the imports and the declarations.
-/

namespace ProtoTypeScript
namespace Script

mutual

/-- The lines of a declaration. -/
def declaration : Declaration → List Line
  | .enumeration e => enumeration e
  | .message m nested =>
    messageClass m ++
      match nested with
      | [] => []
      | first :: rest =>
        block ("export namespace " ++ m.name ++ " \x7b") (declaration first ++ declarations rest)
          "\x7d"
  | .namespaceBlock name body =>
    block ("export namespace " ++ name ++ " \x7b") (declarations body) "\x7d"
  | .rpcInterfaces target runtime => rpcInterfaces target runtime
  | .server s => serverStub s
  | .client c =>
    match c.target with
    | .node => NodeClient.lines c
    | .web => WebClient.lines c

/-- The lines of declarations, one after the other. -/
def declarations : List Declaration → List Line
  | [] => []
  | d :: ds => declaration d ++ declarations ds

end

/-- The lines of a comment after its opening one; the last line closes it. -/
def commentLines : List String → List Line
  | [] => []
  | [text] => [line (" * " ++ text ++ " */")]
  | text :: next :: rest => line (" * " ++ text) :: commentLines (next :: rest)

/-- The lines of the comment that a file starts with. -/
def header (texts : List String) : List Line :=
  if texts = [] then [] else line "/**" :: commentLines texts

/-- The line of an import. -/
def importLine (i : Import) : Line :=
  line ("import * as " ++ i.identifier ++ " from " ++ Text.quote i.module ++ ";")

end Script

/-- The lines of a generated file. -/
def SourceFile.lines (f : SourceFile) : List Script.Line :=
  Script.header f.header ++ f.imports.map Script.importLine ++ Script.declarations f.body

/-- The text of a generated file. -/
def SourceFile.text (f : SourceFile) : String :=
  Script.render f.lines

end ProtoTypeScript
