import ProtoTypeScript.Declaration
import ProtoTypeScript.Script.Line
import ProtoTypeScript.Text.Literal
import ProtoTypeScript.Text.Split

/-!
# Server stubs

A server stub has the definition of its service, with an entry for each method, and a handler for
each method that reports it as unimplemented. A handler reports to its callback, or on the call
itself if the response is a stream.
-/

namespace ProtoTypeScript.Script

/-- A flag as a literal. -/
def boolLiteral (b : Bool) : String :=
  if b then "true" else "false"

/-- The function that writes a message into a buffer. -/
def bufferWriter (type : String) : String :=
  "(message: " ++ type ++ ") => Buffer.from(message.serialize())"

/-- The function that reads a message from a buffer. -/
def bufferReader (type : String) : String :=
  "(bytes: Buffer) => " ++ type ++ ".deserialize(new Uint8Array(bytes))"

/-- The lines of a method in the definition of its service, with what separates it from the next. -/
def definitionEntry (m : Method) (separator : String) : List Line :=
  block (m.name ++ ": \x7b")
    ((Text.withCommas
      ["path: " ++ Text.quote m.path,
        "requestStream: " ++ boolLiteral m.clientStreaming,
        "responseStream: " ++ boolLiteral m.serverStreaming,
        "requestSerialize: " ++ bufferWriter m.inputType,
        "requestDeserialize: " ++ bufferReader m.inputType,
        "responseSerialize: " ++ bufferWriter m.outputType,
        "responseDeserialize: " ++ bufferReader m.outputType]).map line)
    ("\x7d" ++ separator)

/-- The lines of all methods in the definition of their service. -/
def definitionEntries : List Method → List Line
  | [] => []
  | [m] => definitionEntry m ""
  | m :: next :: rest => definitionEntry m "," ++ definitionEntries (next :: rest)

/-- The parameters of the handler of a method. -/
def handlerParameters (runtime : String) (m : Method) : String :=
  let types := "<" ++ m.inputType ++ ", " ++ m.outputType ++ ">"
  let callback := ", callback: " ++ runtime ++ ".sendUnaryData<" ++ m.outputType ++ ">"
  match m.callShape with
  | .unary => "call: " ++ runtime ++ ".ServerUnaryCall" ++ types ++ callback
  | .serverStream => "call: " ++ runtime ++ ".ServerWritableStream" ++ types
  | .clientStream => "call: " ++ runtime ++ ".ServerReadableStream" ++ types ++ callback
  | .bidirectional => "call: " ++ runtime ++ ".ServerDuplexStream" ++ types

/-- The status of a method that is not implemented. -/
def unimplementedStatus (runtime : String) (m : Method) : String :=
  "\x7b code: " ++ runtime ++ ".status.UNIMPLEMENTED, details: " ++
    Text.quote ("Method " ++ m.name ++ " is not implemented") ++ " \x7d"

/-- The statement of a handler. -/
def handlerStatement (runtime : String) (m : Method) : String :=
  let status := unimplementedStatus runtime m
  if m.serverStreaming then "call.emit(\"error\", " ++ status ++ ");"
  else "callback(" ++ status ++ ", null);"

/-- The lines of the handler of a method. -/
def handler (runtime : String) (m : Method) : List Line :=
  deprecation m.deprecated ++
    block (m.name ++ "(" ++ handlerParameters runtime m ++ "): void \x7b")
      [line (handlerStatement runtime m)] "\x7d"

/-- The lines of a server stub. -/
def serverStub (s : ServerStub) : List Line :=
  deprecation s.service.deprecated ++
    block ("export class " ++ s.name ++ " \x7b")
      (block "static definition = \x7b" (definitionEntries s.service.methods) "\x7d;" ++
        [line ("[method: string]: " ++ s.runtime ++ ".UntypedHandleCall;")] ++
        s.service.methods.flatMap (handler s.runtime))
      "\x7d"

end ProtoTypeScript.Script
