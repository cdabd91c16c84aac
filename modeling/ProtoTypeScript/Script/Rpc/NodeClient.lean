import ProtoTypeScript.Declaration
import ProtoTypeScript.Script.Line
import ProtoTypeScript.Text.Literal

/-!
# Node.js clients

A client extends the one that the RPC runtime makes from the definition of the service. For each
method it has a function of the interface of the method's calls, which hands the call on. A unary
call may return a promise instead of reporting to a callback.
-/

namespace ProtoTypeScript.Script.NodeClient

/-- The head of the function of a method. -/
def head (m : Method) (interface parameters result : String) : String :=
  m.name ++ ": " ++ interface ++ "<" ++ m.inputType ++ ", " ++ m.outputType ++ "> = (" ++
    parameters ++ "): " ++ result ++ " => \x7b"

/-- The parameter of a request. -/
def messageParameter (m : Method) : String :=
  "message: " ++ m.inputType

/-- The type of a callback for the response. -/
def callbackType (runtime : String) (m : Method) : String :=
  runtime ++ ".requestCallback<" ++ m.outputType ++ ">"

/-- Metadata and options of calls that return their result. Options may stand in the place of
metadata. -/
def optionalParameters (runtime : String) : String :=
  "metadata?: " ++ runtime ++ ".Metadata | " ++ runtime ++ ".CallOptions, options?: " ++ runtime ++
    ".CallOptions"

/-- Metadata, options and callback; the callback may stand in the place of either. -/
def callbackParameters (runtime : String) (m : Method) : String :=
  let callback := callbackType runtime m
  "metadata: " ++ runtime ++ ".Metadata | " ++ runtime ++ ".CallOptions | " ++ callback ++
    ", options?: " ++ runtime ++ ".CallOptions | " ++ callback ++ ", callback?: " ++ callback

/-- The statement that hands a call on. -/
def handOn (m : Method) (arguments : String) : List Line :=
  [line ("return super." ++ m.name ++ "(" ++ arguments ++ ");")]

/-- The lines of a unary method that returns a promise. -/
def promiseMethod (runtime : String) (m : Method) : List Line :=
  block
    (head m "GrpcPromiseServiceInterface"
      (messageParameter m ++ ", " ++ optionalParameters runtime)
      ("Promise<" ++ m.outputType ++ ">"))
    (guardedBlock "!metadata" [line ("metadata = new " ++ runtime ++ ".Metadata;")] ++
      guardedBlock "!options" [line "options = \x7b\x7d;"] ++
      block
        ("return new Promise((resolve, reject) => super." ++ m.name ++
          "(message, metadata, options, (error: " ++ runtime ++ ".ServiceError, response: " ++
          m.outputType ++ ") => \x7b")
        (guardedBlock "error" [line "reject(error);"] ++
          block "else \x7b" [line "resolve(response);"] "\x7d")
        "\x7d));")
    "\x7d;"

/-- The lines of a unary method that reports to a callback. -/
def unaryMethod (runtime : String) (m : Method) : List Line :=
  block
    (head m "GrpcUnaryServiceInterface"
      (messageParameter m ++ ", " ++ callbackParameters runtime m) (runtime ++ ".ClientUnaryCall"))
    (handOn m "message, metadata, options, callback") "\x7d;"

/-- The lines of a method whose response is a stream. -/
def serverStreamMethod (runtime : String) (m : Method) : List Line :=
  block
    (head m "GrpcStreamServiceInterface" (messageParameter m ++ ", " ++ optionalParameters runtime)
      (runtime ++ ".ClientReadableStream<" ++ m.outputType ++ ">"))
    (handOn m "message, metadata, options") "\x7d;"

/-- The lines of a method whose request is a stream. -/
def clientStreamMethod (runtime : String) (m : Method) : List Line :=
  block
    (head m "GrpcWritableServiceInterface" (callbackParameters runtime m)
      (runtime ++ ".ClientWritableStream<" ++ m.inputType ++ ">"))
    (handOn m "metadata, options, callback") "\x7d;"

/-- The lines of a method whose request and response are streams. -/
def bidirectionalMethod (runtime : String) (m : Method) : List Line :=
  block
    (head m "GrpcChunkServiceInterface" (optionalParameters runtime)
      (runtime ++ ".ClientDuplexStream<" ++ m.inputType ++ ", " ++ m.outputType ++ ">"))
    (handOn m "metadata, options") "\x7d;"

/-- The lines of a method. -/
def method (runtime : String) (unaryPromise : Bool) (m : Method) : List Line :=
  deprecation m.deprecated ++
    match m.callShape with
    | .unary => if unaryPromise then promiseMethod runtime m else unaryMethod runtime m
    | .serverStream => serverStreamMethod runtime m
    | .clientStream => clientStreamMethod runtime m
    | .bidirectional => bidirectionalMethod runtime m

/-- The lines of the constructor. -/
def constructor (runtime : String) : List Line :=
  block
    ("constructor(address: string, credentials: " ++ runtime ++
      ".ChannelCredentials, options?: Partial<" ++ runtime ++ ".ChannelOptions>) \x7b")
    [line "super(address, credentials, options);"] "\x7d"

/-- The lines of a client. -/
def lines (c : ClientStub) : List Line :=
  deprecation c.service.deprecated ++
    block
      ("export class " ++ c.name ++ " extends " ++ c.runtime ++ ".makeGenericClientConstructor(" ++
        c.server ++ ".definition, " ++ Text.quote c.service.name ++ ", \x7b\x7d) \x7b")
      (constructor c.runtime ++ c.service.methods.flatMap (method c.runtime c.unaryPromise))
      "\x7d"

end ProtoTypeScript.Script.NodeClient
