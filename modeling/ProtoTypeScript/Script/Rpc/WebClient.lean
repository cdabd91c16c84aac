import ProtoTypeScript.Declaration
import ProtoTypeScript.Script.Line
import ProtoTypeScript.Text.Literal

/-!
# Browser clients

A client holds the address of the server and a client of the RPC runtime. A method has a descriptor
and a function that makes the call. Streams of requests are not to be had in browsers, so a method
with such a stream throws.
-/

namespace ProtoTypeScript.Script.WebClient

/-- How a call is made that has one request. -/
structure Call where
  /-- The kind of the method's descriptor. -/
  methodType : String
  /-- The function of the runtime's client. -/
  function : String
  interface : String
  metadata : String
  deriving DecidableEq, Repr

/-- How the call of a method is made, unless its request is a stream. -/
def call? (runtime : String) (m : Method) : Option Call :=
  match m.callShape with
  | .unary =>
    some ⟨"UNARY", "thenableCall", "GrpcWebUnaryServiceInterface", runtime ++ ".Metadata | null"⟩
  | .serverStream =>
    some ⟨"SERVER_STREAMING", "serverStreaming", "GrpcWebStreamServiceInterface",
      runtime ++ ".Metadata"⟩
  | .clientStream => none
  | .bidirectional => none

/-- The descriptor of a method. -/
def descriptor (runtime : String) (m : Method) (c : Call) : Line :=
  line ("private static " ++ m.name ++ " = new " ++ runtime ++ ".MethodDescriptor(" ++
    Text.quote m.path ++ ", " ++ runtime ++ ".MethodType." ++ c.methodType ++ ", " ++ m.inputType ++
    ", " ++ m.outputType ++ ", (message: " ++ m.inputType ++ ") => message.serialize(), " ++
    m.outputType ++ ".deserialize);")

/-- The lines of the function that makes a call. -/
def function (client : String) (m : Method) (c : Call) : List Line :=
  block
    (m.name ++ ": " ++ c.interface ++ "<" ++ m.inputType ++ ", " ++ m.outputType ++
      "> = (message: " ++ m.inputType ++ ", metadata?: " ++ c.metadata ++ ") => \x7b")
    [line ("return this._client." ++ c.function ++ "(this._address + " ++ Text.quote m.path ++
      ", message, metadata || \x7b\x7d, " ++ client ++ "." ++ m.name ++ ");")]
    "\x7d;"

/-- The lines of a method whose request is a stream. -/
def unsupported (m : Method) : List Line :=
  block (m.name ++ "(): never \x7b")
    [line ("throw new Error(" ++
      Text.quote (m.path ++ " uses client streaming, which grpc-web does not support") ++ ");")]
    "\x7d"

/-- The lines of a method. -/
def method (runtime client : String) (m : Method) : List Line :=
  match call? runtime m with
  | none => deprecation m.deprecated ++ unsupported m
  | some c => descriptor runtime m c :: deprecation m.deprecated ++ function client m c

/-- The lines of the constructor. -/
def constructor (runtime : String) : List Line :=
  block
    ("constructor(address: string, credentials?: Object, options?: " ++ runtime ++
      ".GrpcWebClientBaseOptions) \x7b")
    (guarded "!options" "options = \x7b\x7d;" ++
      [line "options.format = options.format || \"text\";",
        line "this._address = address;",
        line ("this._client = new " ++ runtime ++ ".GrpcWebClientBase(options);")])
    "\x7d"

/-- The lines of a client. -/
def lines (c : ClientStub) : List Line :=
  deprecation c.service.deprecated ++
    block ("export class " ++ c.name ++ " \x7b")
      ([line "private _address: string;",
        line ("private _client: " ++ c.runtime ++ ".GrpcWebClientBase;")] ++
        constructor c.runtime ++ c.service.methods.flatMap (method c.runtime c.name))
      "\x7d"

end ProtoTypeScript.Script.WebClient
