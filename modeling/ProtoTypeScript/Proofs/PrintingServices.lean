import ProtoTypeScript.Proofs.Printing
import ProtoTypeScript.Script.Rpc.Interfaces
import ProtoTypeScript.Script.Rpc.NodeClient
import ProtoTypeScript.Script.Rpc.Server
import ProtoTypeScript.Script.Rpc.WebClient

/-!
# Printing services

The steps of server stubs, of clients, and of the interfaces that clients share. They are blocks
within blocks, and `writes_serverStub`, `writes_nodeClient` and `writes_webClient` follow their
nesting.
-/

namespace ProtoTypeScript.Script

/-! ### Interfaces -/

/-- The steps of an interface. -/
def RpcInterface.steps (i : RpcInterface) : List Step :=
  blockSteps ("interface " ++ i.name ++ "<P, R> \x7b") (i.signatures.map .line) "\x7d"

/-- The steps of the interfaces that the clients of a target share. -/
def rpcInterfacesSteps (target : Target) (runtime : String) : List Step :=
  match target with
  | .node => (RpcInterface.node runtime).flatMap RpcInterface.steps
  | .web => (RpcInterface.web runtime).flatMap RpcInterface.steps

theorem writes_rpcInterfaces (target : Target) (runtime : String) :
    Writes (rpcInterfacesSteps target runtime) 0 (rpcInterfaces target runtime) 0 := by
  cases target with
  | node => exact .flatMap fun i _ => writes_block (.lines i.signatures)
  | web => exact .flatMap fun i _ => writes_block (.lines i.signatures)

/-! ### Server stubs -/

/-- The steps of a method in the definition of its service, with what separates it from the next. -/
def definitionEntrySteps (m : Method) (separator : String) : List Step :=
  blockSteps (m.name ++ ": \x7b")
    ((Text.withCommas
      ["path: " ++ Text.quote m.path,
        "requestStream: " ++ boolLiteral m.clientStreaming,
        "responseStream: " ++ boolLiteral m.serverStreaming,
        "requestSerialize: " ++ bufferWriter m.inputType,
        "requestDeserialize: " ++ bufferReader m.inputType,
        "responseSerialize: " ++ bufferWriter m.outputType,
        "responseDeserialize: " ++ bufferReader m.outputType]).map .line)
    ("\x7d" ++ separator)

/-- The steps of all methods in the definition of their service. -/
def definitionEntriesSteps : List Method → List Step
  | [] => []
  | [m] => definitionEntrySteps m ""
  | m :: next :: rest => definitionEntrySteps m "," ++ definitionEntriesSteps (next :: rest)

/-- The steps of the handler of a method. -/
def handlerSteps (runtime : String) (m : Method) : List Step :=
  deprecationSteps m.deprecated ++
    blockSteps (m.name ++ "(" ++ handlerParameters runtime m ++ "): void \x7b")
      [.line (handlerStatement runtime m)] "\x7d"

/-- The steps of a server stub. -/
def serverStubSteps (s : ServerStub) : List Step :=
  deprecationSteps s.service.deprecated ++
    blockSteps ("export class " ++ s.name ++ " \x7b")
      (blockSteps "static definition = \x7b" (definitionEntriesSteps s.service.methods) "\x7d;" ++
        [.line ("[method: string]: " ++ s.runtime ++ ".UntypedHandleCall;")] ++
        s.service.methods.flatMap (handlerSteps s.runtime))
      "\x7d"

theorem writes_definitionEntry (m : Method) (separator : String) :
    Writes (definitionEntrySteps m separator) 0 (definitionEntry m separator) 0 :=
  writes_block (.lines _)

theorem writes_definitionEntries (methods : List Method) :
    Writes (definitionEntriesSteps methods) 0 (definitionEntries methods) 0 := by
  fun_induction definitionEntries methods with
  | case1 => exact .nil
  | case2 m => exact writes_definitionEntry m ""
  | case3 m next rest ih => exact (writes_definitionEntry m ",").append ih

theorem writes_handler (runtime : String) (m : Method) :
    Writes (handlerSteps runtime m) 0 (handler runtime m) 0 :=
  (writes_deprecation m.deprecated).append (writes_block (.line _ .nil))

theorem writes_serverStub (s : ServerStub) : Writes (serverStubSteps s) 0 (serverStub s) 0 := by
  have hdefinition := @writes_block "static definition = \x7b" "\x7d;" _ _
    (writes_definitionEntries s.service.methods)
  have hhandlers : Writes (s.service.methods.flatMap (handlerSteps s.runtime)) 0
      (s.service.methods.flatMap (handler s.runtime)) 0 :=
    .flatMap fun m _ => writes_handler s.runtime m
  exact (writes_deprecation s.service.deprecated).append
    (writes_block ((hdefinition.append (.line _ .nil)).append hhandlers))

/-! ### Node.js clients -/

namespace NodeClient

/-- The steps of a unary method that returns a promise. -/
def promiseMethodSteps (runtime : String) (m : Method) : List Step :=
  blockSteps
    (head m "GrpcPromiseServiceInterface"
      (messageParameter m ++ ", " ++ optionalParameters runtime)
      ("Promise<" ++ m.outputType ++ ">"))
    (blockSteps ("if (" ++ "!metadata" ++ ") \x7b")
        [.line ("metadata = new " ++ runtime ++ ".Metadata;")] "\x7d" ++
      blockSteps ("if (" ++ "!options" ++ ") \x7b") [.line "options = \x7b\x7d;"] "\x7d" ++
      blockSteps
        ("return new Promise((resolve, reject) => super." ++ m.name ++
          "(message, metadata, options, (error: " ++ runtime ++ ".ServiceError, response: " ++
          m.outputType ++ ") => \x7b")
        (blockSteps ("if (" ++ "error" ++ ") \x7b") [.line "reject(error);"] "\x7d" ++
          blockSteps "else \x7b" [.line "resolve(response);"] "\x7d")
        "\x7d));")
    "\x7d;"

/-- The steps of a method that hands its call on. -/
def handOnSteps (m : Method) (interface parameters result arguments : String) : List Step :=
  blockSteps (head m interface parameters result)
    [.line ("return super." ++ m.name ++ "(" ++ arguments ++ ");")] "\x7d;"

/-- The steps of a method. -/
def methodSteps (runtime : String) (unaryPromise : Bool) (m : Method) : List Step :=
  deprecationSteps m.deprecated ++
    match m.callShape with
    | .unary =>
      if unaryPromise then promiseMethodSteps runtime m
      else handOnSteps m "GrpcUnaryServiceInterface"
        (messageParameter m ++ ", " ++ callbackParameters runtime m) (runtime ++ ".ClientUnaryCall")
        "message, metadata, options, callback"
    | .serverStream =>
      handOnSteps m "GrpcStreamServiceInterface"
        (messageParameter m ++ ", " ++ optionalParameters runtime)
        (runtime ++ ".ClientReadableStream<" ++ m.outputType ++ ">") "message, metadata, options"
    | .clientStream =>
      handOnSteps m "GrpcWritableServiceInterface" (callbackParameters runtime m)
        (runtime ++ ".ClientWritableStream<" ++ m.inputType ++ ">") "metadata, options, callback"
    | .bidirectional =>
      handOnSteps m "GrpcChunkServiceInterface" (optionalParameters runtime)
        (runtime ++ ".ClientDuplexStream<" ++ m.inputType ++ ", " ++ m.outputType ++ ">")
        "metadata, options"

/-- The steps of the constructor. -/
def constructorSteps (runtime : String) : List Step :=
  blockSteps
    ("constructor(address: string, credentials: " ++ runtime ++
      ".ChannelCredentials, options?: Partial<" ++ runtime ++ ".ChannelOptions>) \x7b")
    [.line "super(address, credentials, options);"] "\x7d"

/-- The steps of a client. -/
def steps (c : ClientStub) : List Step :=
  deprecationSteps c.service.deprecated ++
    blockSteps
      ("export class " ++ c.name ++ " extends " ++ c.runtime ++ ".makeGenericClientConstructor(" ++
        c.server ++ ".definition, " ++ Text.quote c.service.name ++ ", \x7b\x7d) \x7b")
      (constructorSteps c.runtime ++
        c.service.methods.flatMap (methodSteps c.runtime c.unaryPromise))
      "\x7d"

theorem writes_promiseMethod (runtime : String) (m : Method) :
    Writes (promiseMethodSteps runtime m) 0 (promiseMethod runtime m) 0 := by
  have hmetadata := @writes_block ("if (" ++ "!metadata" ++ ") \x7b") "\x7d" _ _
    (.line ("metadata = new " ++ runtime ++ ".Metadata;") .nil)
  have hoptions := @writes_block ("if (" ++ "!options" ++ ") \x7b") "\x7d" _ _
    (.line "options = \x7b\x7d;" .nil)
  have hanswer := (@writes_block ("if (" ++ "error" ++ ") \x7b") "\x7d" _ _
      (.line "reject(error);" .nil)).append
    (@writes_block "else \x7b" "\x7d" _ _ (.line "resolve(response);" .nil))
  exact writes_block ((hmetadata.append hoptions).append (writes_block hanswer))

theorem writes_handOn (m : Method) (interface parameters result arguments : String) :
    Writes (handOnSteps m interface parameters result arguments) 0
      (block (head m interface parameters result) (handOn m arguments) "\x7d;") 0 :=
  writes_block (.line _ .nil)

theorem writes_method (runtime : String) (unaryPromise : Bool) (m : Method) :
    Writes (methodSteps runtime unaryPromise m) 0 (method runtime unaryPromise m) 0 := by
  refine (writes_deprecation m.deprecated).append ?_
  cases m.callShape with
  | unary =>
    cases unaryPromise with
    | false => exact writes_handOn _ _ _ _ _
    | true => exact writes_promiseMethod runtime m
  | serverStream | clientStream | bidirectional => exact writes_handOn _ _ _ _ _

end NodeClient

theorem writes_nodeClient (c : ClientStub) :
    Writes (NodeClient.steps c) 0 (NodeClient.lines c) 0 := by
  have hmethods : Writes
      (c.service.methods.flatMap (NodeClient.methodSteps c.runtime c.unaryPromise)) 0
      (c.service.methods.flatMap (NodeClient.method c.runtime c.unaryPromise)) 0 :=
    .flatMap fun m _ => NodeClient.writes_method c.runtime c.unaryPromise m
  exact (writes_deprecation c.service.deprecated).append
    (writes_block ((writes_block (.line _ .nil)).append hmethods))

/-! ### Browser clients -/

namespace WebClient

/-- The steps of the function that makes a call. -/
def functionSteps (client : String) (m : Method) (c : Call) : List Step :=
  blockSteps
    (m.name ++ ": " ++ c.interface ++ "<" ++ m.inputType ++ ", " ++ m.outputType ++
      "> = (message: " ++ m.inputType ++ ", metadata?: " ++ c.metadata ++ ") => \x7b")
    [.line ("return this._client." ++ c.function ++ "(this._address + " ++ Text.quote m.path ++
      ", message, metadata || \x7b\x7d, " ++ client ++ "." ++ m.name ++ ");")]
    "\x7d;"

/-- The steps of a method whose request is a stream. -/
def unsupportedSteps (m : Method) : List Step :=
  blockSteps (m.name ++ "(): never \x7b")
    [.line ("throw new Error(" ++
      Text.quote (m.path ++ " uses client streaming, which grpc-web does not support") ++ ");")]
    "\x7d"

/-- The steps of a method. -/
def methodSteps (runtime client : String) (m : Method) : List Step :=
  match call? runtime m with
  | none => deprecationSteps m.deprecated ++ unsupportedSteps m
  | some c =>
    .line (descriptor runtime m c).text :: deprecationSteps m.deprecated ++ functionSteps client m c

/-- The steps of the constructor. -/
def constructorSteps (runtime : String) : List Step :=
  blockSteps
    ("constructor(address: string, credentials?: Object, options?: " ++ runtime ++
      ".GrpcWebClientBaseOptions) \x7b")
    (guardedSteps "!options" "options = \x7b\x7d;" ++
      [.line "options.format = options.format || \"text\";",
        .line "this._address = address;",
        .line ("this._client = new " ++ runtime ++ ".GrpcWebClientBase(options);")])
    "\x7d"

/-- The steps of a client. -/
def steps (c : ClientStub) : List Step :=
  deprecationSteps c.service.deprecated ++
    blockSteps ("export class " ++ c.name ++ " \x7b")
      ([.line "private _address: string;",
        .line ("private _client: " ++ c.runtime ++ ".GrpcWebClientBase;")] ++
        constructorSteps c.runtime ++ c.service.methods.flatMap (methodSteps c.runtime c.name))
      "\x7d"

theorem writes_constructor (runtime : String) :
    Writes (constructorSteps runtime) 0 (constructor runtime) 0 :=
  writes_block ((writes_guarded "!options" "options = \x7b\x7d;").append
    (.line _ (.line _ (.line _ .nil))))

theorem writes_method (runtime client : String) (m : Method) :
    Writes (methodSteps runtime client m) 0 (method runtime client m) 0 := by
  rw [methodSteps, method]
  cases call? runtime m with
  | none => exact (writes_deprecation m.deprecated).append (writes_block (.line _ .nil))
  | some c => exact .line _ ((writes_deprecation m.deprecated).append (writes_block (.line _ .nil)))

end WebClient

theorem writes_webClient (c : ClientStub) :
    Writes (WebClient.steps c) 0 (WebClient.lines c) 0 := by
  have hmethods : Writes (c.service.methods.flatMap (WebClient.methodSteps c.runtime c.name)) 0
      (c.service.methods.flatMap (WebClient.method c.runtime c.name)) 0 :=
    .flatMap fun m _ => WebClient.writes_method c.runtime c.name m
  exact (writes_deprecation c.service.deprecated).append
    (writes_block (.line _ (.line _ ((WebClient.writes_constructor c.runtime).append hmethods))))

end ProtoTypeScript.Script
