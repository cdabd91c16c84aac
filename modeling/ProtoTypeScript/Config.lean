import ProtoTypeScript.Version

/-!
# Configurations

The choices that shape the generated code. `Config.default` is what a request without parameters
gets.
-/

namespace ProtoTypeScript

/-- The flavour of the generated clients. -/
inductive Target
  /-- Clients on Node.js, built on the package that the configuration names. -/
  | node
  /-- Browser clients, built on `grpc-web`. -/
  | web
  deriving DecidableEq, Repr, Inhabited

/-- The options of a run. -/
structure Config where
  target : Target
  /-- The module that the runtime of servers and Node.js clients is imported from. -/
  grpcPackage : String
  /-- Declarations stand at the top level, nested ones beside their parents. -/
  noNamespace : Bool
  /-- Services are left out. -/
  noGrpc : Bool
  /-- Unary calls of Node.js clients return promises. -/
  unaryRpcPromise : Bool
  /-- Plain objects use JSON names as keys. -/
  jsonNames : Bool
  /-- Methods that override inherited ones say so. -/
  explicitOverride : Bool
  tsVersion : TypeScriptVersion
  deriving DecidableEq, Repr

/-- Node.js clients on `@grpc/grpc-js`, no flag set, TypeScript 5.0. -/
def Config.default : Config where
  target := .node
  grpcPackage := "@grpc/grpc-js"
  noNamespace := false
  noGrpc := false
  unaryRpcPromise := false
  jsonNames := false
  explicitOverride := false
  tsVersion := ⟨5, 0⟩

instance : Inhabited Config := ⟨Config.default⟩

end ProtoTypeScript
