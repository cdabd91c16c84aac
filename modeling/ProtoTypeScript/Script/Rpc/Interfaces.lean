import ProtoTypeScript.Config
import ProtoTypeScript.Script.Line
import ProtoTypeScript.Text.Split

/-!
# Types of client methods

The clients of a file share an interface for each shape of call. An interface lists the ways in
which such a method may be called, with `P` for the request and `R` for the response.
-/

namespace ProtoTypeScript.Script

/-- An interface and the signatures of its calls. -/
structure RpcInterface where
  name : String
  signatures : List String
  deriving DecidableEq, Repr

namespace RpcInterface

/-- The callback of a call with one response. -/
def callback (runtime : String) : String :=
  "callback: " ++ runtime ++ ".requestCallback<R>"

/-- The metadata of a call. -/
def metadata (runtime : String) : String :=
  "metadata: " ++ runtime ++ ".Metadata"

/-- The options of a call that needs them. -/
def options (runtime : String) : String :=
  "options: " ++ runtime ++ ".CallOptions"

/-- The options of a call that may leave them out. -/
def optionalOptions (runtime : String) : String :=
  "options?: " ++ runtime ++ ".CallOptions"

/-- A way to make a call. -/
def signature (parameters : List String) (result : String) : String :=
  "(" ++ Text.joinWith ", " parameters ++ "): " ++ result ++ ";"

/-- Calls that report to a callback, after the parameters `first`. -/
def callbackCalls (runtime : String) (first : List String) (result : String) : List String :=
  [signature (first ++ [metadata runtime, options runtime, callback runtime]) result,
    signature (first ++ [metadata runtime, callback runtime]) result,
    signature (first ++ [options runtime, callback runtime]) result,
    signature (first ++ [callback runtime]) result]

/-- Calls that return their result, after the parameters `first`. -/
def returningCalls (runtime : String) (first : List String) (result : String) : List String :=
  [signature (first ++ [metadata runtime, optionalOptions runtime]) result,
    signature (first ++ [optionalOptions runtime]) result]

/-- The interfaces of Node.js clients. -/
def node (runtime : String) : List RpcInterface :=
  [⟨"GrpcUnaryServiceInterface",
      callbackCalls runtime ["message: P"] (runtime ++ ".ClientUnaryCall")⟩,
    ⟨"GrpcStreamServiceInterface",
      returningCalls runtime ["message: P"] (runtime ++ ".ClientReadableStream<R>")⟩,
    ⟨"GrpcWritableServiceInterface",
      callbackCalls runtime [] (runtime ++ ".ClientWritableStream<P>")⟩,
    ⟨"GrpcChunkServiceInterface",
      returningCalls runtime [] (runtime ++ ".ClientDuplexStream<P, R>")⟩,
    ⟨"GrpcPromiseServiceInterface", returningCalls runtime ["message: P"] "Promise<R>"⟩]

/-- The interfaces of browser clients. -/
def web (runtime : String) : List RpcInterface :=
  [⟨"GrpcWebUnaryServiceInterface",
      [signature ["message: P", "metadata?: " ++ runtime ++ ".Metadata | null"] "Promise<R>"]⟩,
    ⟨"GrpcWebStreamServiceInterface",
      [signature ["message: P", "metadata?: " ++ runtime ++ ".Metadata"]
        (runtime ++ ".ClientReadableStream<R>")]⟩]

/-- The lines of an interface. -/
def lines (i : RpcInterface) : List Line :=
  block ("interface " ++ i.name ++ "<P, R> \x7b") (i.signatures.map line) "\x7d"

end RpcInterface

/-- The lines of the interfaces that the clients of a target share. -/
def rpcInterfaces (target : Target) (runtime : String) : List Line :=
  match target with
  | .node => (RpcInterface.node runtime).flatMap RpcInterface.lines
  | .web => (RpcInterface.web runtime).flatMap RpcInterface.lines

end ProtoTypeScript.Script
