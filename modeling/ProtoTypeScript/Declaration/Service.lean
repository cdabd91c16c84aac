import ProtoTypeScript.Declaration
import ProtoTypeScript.Declaration.Scope

/-!
# Servers and clients

The services of a file become the interfaces that clients share, then a server stub and a client
for each service in turn. Server and client carry the same `Service`.
-/

namespace ProtoTypeScript

/-- The identifiers of the RPC runtimes in a file. -/
structure RpcRuntimes where
  grpc : String
  grpcWeb : String
  deriving DecidableEq, Repr

/-- The identifier of the runtime that clients of a target use. -/
def RpcRuntimes.client (r : RpcRuntimes) : Target → String
  | .node => r.grpc
  | .web => r.grpcWeb

namespace FileScope

/-- The name of a service with its package. -/
def servicePath (s : FileScope) (name : String) : String :=
  if s.file.package = "" then name else s.file.package ++ "." ++ name

/-- A method of a service. -/
def method (s : FileScope) (service : String) (m : MethodDescriptor) : Except Error Method := do
  let input ← s.resolve m.inputType
  let inputType ← s.typeExpression input
  let output ← s.resolve m.outputType
  let outputType ← s.typeExpression output
  return {
    name := m.name
    path := "/" ++ s.servicePath service ++ "/" ++ m.name
    inputType := inputType
    outputType := outputType
    clientStreaming := m.clientStreaming
    serverStreaming := m.serverStreaming
    deprecated := m.deprecated
  }

/-- A service with its methods in declared order. -/
def service (s : FileScope) (d : ServiceDescriptor) : Except Error Service := do
  let methods ← d.methods.mapM (s.method d.name)
  return ⟨d.name, methods, d.deprecated⟩

/-- The name of the server stub of a service. -/
def serverName (service : String) : String :=
  "Unimplemented" ++ service ++ "Service"

/-- The server and the client of a service. -/
def stubs (s : FileScope) (runtimes : RpcRuntimes) (service : Service) : List Declaration :=
  [.server {
      name := serverName service.name
      runtime := runtimes.grpc
      service := service },
    .client {
      name := service.name ++ "Client"
      target := s.config.target
      runtime := runtimes.client s.config.target
      server := serverName service.name
      service := service
      unaryPromise := s.config.unaryRpcPromise }]

/-- The declarations for all services of the file. -/
def serviceDeclarations (s : FileScope) (runtimes : RpcRuntimes) :
    Except Error (List Declaration) := do
  let services ← s.file.services.mapM s.service
  return .rpcInterfaces s.config.target (runtimes.client s.config.target) ::
    services.flatMap (s.stubs runtimes)

end FileScope

end ProtoTypeScript
