import ProtoTypeScript.Declaration.Imports
import ProtoTypeScript.Declaration.Message
import ProtoTypeScript.Declaration.Service

/-!
# Generated files as trees

`SourceFile.lower` is the tree of a file. Its imports are those of the dependencies, then the
runtime library if there is an enum or a message, then the RPC packages if there are services. Its
body is the enums, the messages and the services, inside a namespace named after the package.

`SourceFile.lowerAll` takes one file after the other. The scope that identifiers are made in goes
from each to the next and is reset between them, so that every tree is the one of
`SourceFile.ofDescriptor`, which starts from a new scope.
-/

namespace ProtoTypeScript

/-- The lines of the comment that a generated file starts with. -/
def FileDescriptor.header (f : FileDescriptor) (version : CompilerVersion) : List String :=
  ["Generated by the protoc-gen-ts.  DO NOT EDIT!",
    "compiler version: " ++ toString version.major.toInt ++ "." ++ toString version.minor.toInt ++
      "." ++ toString version.patch.toInt,
    "source: " ++ f.name,
    "git: https://github.com/thesayyn/protoc-gen-ts"] ++
    (if f.deprecated then ["@deprecated"] else [])

/-- The identifiers that every file starts with: those of the runtime library and the RPC packages,
and the scope that knows of them. -/
def AliasScope.startFile (s : AliasScope) : String × RpcRuntimes × AliasScope :=
  let (runtime, s) := s.uniqueName "pb"
  let (grpc, s) := s.uniqueName "grpc"
  let (grpcWeb, s) := s.uniqueName "grpc_web"
  (runtime, ⟨grpc, grpcWeb⟩, s)

/-- The scope with identifiers for the files that a file can refer to, and their imports. -/
def FileDescriptor.importInto (f : FileDescriptor) (table : TypeTable) (s : AliasScope) :
    AliasScope × List Import :=
  s.importAll (ModulePath.ofFile f.name)
    (ImportClosure.namesFrom s.dependencies table.reexports f.name f.dependencies)

namespace FileScope

/-- The enums and messages of the file. -/
def typeDeclarations (s : FileScope) : Except Failure (List Declaration) := do
  let messages ← s.file.messages.mapM (s.messageDeclarations [])
  return (s.file.enums.map fun e => .enumeration (s.enumDeclaration [] e)) ++ messages.flatten

/-- Whether servers and clients are generated for the file. -/
def hasRpc (s : FileScope) : Bool :=
  !s.config.noGrpc && !s.file.services.isEmpty

/-- The servers and clients of the file, if they are generated. -/
def rpcDeclarations (s : FileScope) (runtimes : RpcRuntimes) : Except Error (List Declaration) :=
  if s.hasRpc then s.serviceDeclarations runtimes else .ok []

/-- The imports of the RPC packages. -/
def rpcImports (s : FileScope) (runtimes : RpcRuntimes) : List Import :=
  if s.hasRpc then
    ⟨runtimes.grpc, s.config.grpcPackage⟩ ::
      (if s.config.target = .web then [⟨runtimes.grpcWeb, "grpc-web"⟩] else [])
  else []

/-- The import of the runtime library by a file with the given enums and messages. -/
def runtimeImports (s : FileScope) (types : List Declaration) : List Import :=
  if types = [] then [] else [⟨s.runtime, "google-protobuf"⟩]

/-- The declarations inside the namespace of the file's package, if it has one. -/
def inNamespace (s : FileScope) (body : List Declaration) : List Declaration :=
  if s.file.package = "" ∨ s.config.noNamespace then body
  else [.namespaceBlock s.file.package body]

end FileScope

namespace SourceFile

/-- The tree of a file whose identifiers are made in the scope `aliases`, and the scope after it. -/
def lower (config : Config) (table : TypeTable) (version : CompilerVersion) (aliases : AliasScope)
    (file : FileDescriptor) : Except Failure (SourceFile × AliasScope) := do
  let (runtime, runtimes, started) := aliases.startFile
  let (bound, imports) := file.importInto table started
  let s : FileScope := ⟨config, table, file, bound, runtime⟩
  let types ← s.typeDeclarations
  let services ← report (s.rpcDeclarations runtimes)
  return ({
    name := (ModulePath.ofFile file.name).fileName ".ts"
    header := file.header version
    imports := imports ++ s.runtimeImports types ++ s.rpcImports runtimes
    body := s.inNamespace (types ++ services)
  }, bound)

/-- The trees of files, one after the other. All identifiers are made in one scope, which is reset
after each file. -/
def lowerAll (config : Config) (table : TypeTable) (version : CompilerVersion)
    (aliases : AliasScope) : List FileDescriptor → Except Failure (List SourceFile)
  | [] => .ok []
  | file :: files => do
    let (tree, aliases) ← lower config table version aliases file
    let trees ← lowerAll config table version aliases.reset files
    return tree :: trees

end SourceFile

/-! ### Files that start from a new scope -/

/-- The identifiers that a file starts with in a new scope. -/
def AliasScope.forFile : String × RpcRuntimes × AliasScope :=
  AliasScope.empty.startFile

/-- The aliases of the files that a file can refer to, and their imports, in a new scope. -/
def FileDescriptor.importDependencies (f : FileDescriptor) (table : TypeTable) :
    AliasScope × List Import :=
  f.importInto table AliasScope.forFile.2.2

/-- The scope of a file's references. -/
def FileScope.ofFile (config : Config) (table : TypeTable) (file : FileDescriptor) : FileScope :=
  ⟨config, table, file, (file.importDependencies table).1, AliasScope.forFile.1⟩

/-- The tree of a file that starts from a new scope. -/
def SourceFile.ofDescriptor (config : Config) (table : TypeTable) (version : CompilerVersion)
    (file : FileDescriptor) : Except Failure SourceFile := do
  let (tree, _) ← SourceFile.lower config table version .empty file
  return tree

end ProtoTypeScript
