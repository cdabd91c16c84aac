import ProtoTypeScript.Proofs.PrintedClients
import ProtoTypeScript.Proofs.Runs
import ProtoTypeScript.Proofs.Scopes
import ProtoTypeScript.Proofs.Services

/-!
# Servers and clients agree

A file with services has a server and a client for each of them, which carry the same service.
`StubsAgree` says that this is the service of the descriptor, and that what is printed for both are
its methods: the server defines and handles each of them, and the client calls each of them under
the name and the path that the server defines.

`FileScope.Serves` says so of a file, and `generate_stubs_agree` that every file that is
generated with services is such a file.
-/

namespace ProtoTypeScript

open Outcome Script

/-- The path of the calls of a method. -/
def FileDescriptor.route (f : FileDescriptor) (service method : String) : String :=
  "/" ++ (if f.package = "" then "" else f.package ++ ".") ++ service ++ "/" ++ method

/-- The names of services and methods are identifiers. -/
structure FileDescriptor.ValidServices (f : FileDescriptor) : Prop where
  services : ∀ d ∈ f.services, IsIdentifier d.name
  methods : ∀ d ∈ f.services, ∀ m ∈ d.methods, IsIdentifier m.name

/-! ### Agreement -/

/-- The statements that are printed for a declaration at some depth. -/
def Script.printedStatements (depth : ℕ) (d : Declaration) : List String :=
  statements (printed depth d)

/-- A server and a client are those of a service in a file. -/
structure StubsAgree (c : Config) (f : FileDescriptor) (d : ServiceDescriptor)
    (server : ServerStub) (client : ClientStub) : Prop where
  /-- Both carry one service, -/
  service : client.service = server.service
  /-- and the client names the server. -/
  serverName : client.server = server.name
  target : client.target = c.target
  /-- The service is the one of the descriptor. -/
  name : server.service.name = d.name
  methods : List.Forall₂ (fun m method => method.name = m.name ∧
      method.path = f.route d.name m.name ∧ method.clientStreaming = m.clientStreaming ∧
      method.serverStreaming = m.serverStreaming) d.methods server.service.methods
  /-- The server defines its methods, -/
  definition : ∀ depth, readings readDefinition? (printedStatements depth (.server server)) =
    server.service.methods.map .ofMethod
  /-- and it handles them. -/
  handlers : ∀ depth, readings readHandler? (printedStatements depth (.server server)) =
    server.service.methods.map .ofMethod
  /-- A Node.js client calls each of them by its name. -/
  members : c.target = .node → ∀ depth,
    readings readMember? (printedStatements depth (.client client)) =
      server.service.methods.map (.ofMethod c.unaryRpcPromise)
  /-- A browser client has a descriptor and a function for those with one request, -/
  descriptors : c.target = .web → ∀ depth,
    readings readDescriptor? (printedStatements depth (.client client)) =
      (server.service.methods.filter (!·.clientStreaming)).map .ofMethod
  functions : c.target = .web → ∀ depth,
    readings readFunction? (printedStatements depth (.client client)) =
      (server.service.methods.filter (!·.clientStreaming)).map (.ofMethod client.name)
  /-- and throws for the others. -/
  unsupported : c.target = .web → ∀ depth,
    readings readUnsupported? (printedStatements depth (.client client)) =
      (server.service.methods.filter (·.clientStreaming)).map (·.name)

/-! ### Names -/

theorem IsIdentifier.append {name : String} (h : IsIdentifier name) {suffix : List Char}
    (hsuffix : suffix.all isNameChar = true) : IsIdentifier (name ++ String.ofList suffix) := by
  have hall : ∀ c ∈ (name ++ String.ofList suffix).toList, isNameChar c = true := by
    rw [String.toList_append, String.toList_ofList, List.forall_mem_append]
    exact ⟨h.all, List.all_eq_true.1 hsuffix⟩
  unfold IsIdentifier at h ⊢
  rw [String.toList_append] at hall ⊢
  cases hname : name.toList with
  | nil =>
    rw [hname] at h
    cases h
  | cons first rest =>
    rw [hname] at h hall
    rw [isIdentifier, Bool.and_eq_true] at h
    rw [List.cons_append, isIdentifier, Bool.and_eq_true, List.all_eq_true]
    exact ⟨h.1, hall⟩

/-- Checks the characters of a literal. -/
theorem isPlain_literal {cs : List Char} (h : cs.all isPlain = true) :
    ∀ c ∈ (String.ofList cs).toList, isPlain c = true := by
  rw [String.toList_ofList]
  exact List.all_eq_true.1 h

theorem isPlain_of_isIdentifier {name : String} (h : IsIdentifier name) :
    ∀ c ∈ name.toList, isPlain c = true := by
  intro c hc
  have hname : isNameChar c = true := h.all c hc
  rw [isPlain, hname]
  rfl

theorem FileDescriptor.ValidNames.isPlain_package {f : FileDescriptor} (h : f.ValidNames) :
    ∀ c ∈ f.package.toList, isPlain c = true := by
  intro c hc
  by_cases hdot : c = '.'
  · rw [hdot]
    decide
  rcases h.package with hempty | hsegments
  · rw [hempty] at hc
    cases hc
  · obtain ⟨segment, hsegment, hin⟩ := Text.exists_mem_splitOn hc hdot
    have hidentifier : IsIdentifier (String.ofList segment) := by
      rw [IsIdentifier, String.toList_ofList]
      exact hsegments segment hsegment
    exact isPlain_of_isIdentifier hidentifier c (by rwa [String.toList_ofList])

namespace FileDescriptor

variable {f : FileDescriptor}

theorem isPlain_route (h : f.ValidNames) {service method : String} (hservice : IsIdentifier service)
    (hmethod : IsIdentifier method) : ∀ c ∈ (f.route service method).toList, isPlain c = true := by
  have hslash : ∀ c ∈ "/".toList, isPlain c = true := isPlain_literal (by decide)
  have hpackage : ∀ c ∈ (if f.package = "" then "" else f.package ++ ".").toList,
      isPlain c = true := by
    split_ifs
    · exact isPlain_literal (by decide)
    · rw [String.toList_append, List.forall_mem_append]
      exact ⟨h.isPlain_package, isPlain_literal (by decide)⟩
  unfold route
  rw [String.toList_append, String.toList_append, String.toList_append, String.toList_append,
    List.forall_mem_append, List.forall_mem_append, List.forall_mem_append, List.forall_mem_append]
  exact ⟨⟨⟨⟨hslash, hpackage⟩, isPlain_of_isIdentifier hservice⟩, hslash⟩,
    isPlain_of_isIdentifier hmethod⟩

end FileDescriptor

/-! ### Lowered services -/

namespace FileScope

variable {c : Config} {files : List FileDescriptor} {file : FileDescriptor}

theorem path_eq_route (s : FileScope) (service method : String) :
    "/" ++ s.servicePath service ++ "/" ++ method = s.file.route service method := by
  unfold servicePath FileDescriptor.route
  split_ifs with hpackage
  · rw [String.append_empty]
  · rw [← String.toList_inj]
    simp

/-- A lowered service has the methods of its descriptor. -/
theorem methods_of_service {s : FileScope} {d : ServiceDescriptor} {service : Service}
    (h : s.service d = .ok service) : service.name = d.name ∧
      List.Forall₂ (fun m method => method.name = m.name ∧
        method.path = s.file.route d.name m.name ∧ method.clientStreaming = m.clientStreaming ∧
        method.serverStreaming = m.serverStreaming) d.methods service.methods := by
  obtain ⟨methods, hmethods, rfl⟩ := service_eq_ok_iff.1 h
  refine ⟨rfl, hmethods.imp fun m method hmethod => ?_⟩
  obtain ⟨input, inputType, output, outputType, -, -, -, -, rfl⟩ := method_eq_ok_iff.1 hmethod
  exact ⟨rfl, s.path_eq_route d.name m.name, rfl, rfl⟩

/-- A lowered service can be read back, if the names in the request are identifiers. -/
theorem readableService_of_service (hfiles : ∀ g ∈ files, g.ValidNames ∧ g.ValidServices)
    (hfile : file ∈ files) {d : ServiceDescriptor} (hd : d ∈ file.services) {service : Service}
    (h : (FileScope.ofFile c (.ofFiles files) file).service d = .ok service) :
    ReadableService service := by
  have hservice := (hfiles file hfile).2.services d hd
  obtain ⟨methods, hmethods, rfl⟩ := service_eq_ok_iff.1 h
  refine ⟨hservice, fun method hmethod => ?_⟩
  obtain ⟨m, hm, hlowered⟩ := exists_of_mem_right hmethods hmethod
  obtain ⟨input, inputType, output, outputType, hin, hinType, hout, houtType, rfl⟩ :=
    method_eq_ok_iff.1 hlowered
  have hname := (hfiles file hfile).2.methods d hd m hm
  have htypes : ∀ {n r text}, (FileScope.ofFile c (.ofFiles files) file).resolve n = .ok r →
      (FileScope.ofFile c (.ofFiles files) file).typeExpression r = .ok text → OneLine text :=
    fun hr htext => oneLine_typeExpression (fun g hg => (hfiles g hg).1) (resolve_eq_ok_iff.1 hr)
      htext
  refine ⟨hname, ?_, htypes hin hinType, htypes hout houtType⟩
  rw [path_eq_route]
  exact FileDescriptor.isPlain_route (hfiles file hfile).1 hservice hname

end FileScope

/-! ### Printed stubs -/

namespace Script

/-- The statements of a declaration are the texts of its lines. -/
theorem printedStatements_eq {d : Declaration} {lines : List Line} (hd : declaration d = lines)
    (hlines : OneLines lines) (hstarts : Every Starts lines) (depth : ℕ) :
    printedStatements depth d = texts lines := by
  subst hd
  exact statements_printed hlines hstarts depth

theorem printedStatements_server {s : ServerStub} (h : ReadableService s.service)
    (hname : OneLine s.name) (hruntime : OneLine s.runtime) (depth : ℕ) :
    printedStatements depth (.server s) = texts (serverStub s) := by
  have hstrings : ∀ text ∈ s.strings, OneLine text := by
    rw [ServerStub.strings, List.forall_mem_append, List.forall_mem_cons,
      List.forall_mem_singleton]
    exact ⟨⟨hname, hruntime⟩, h.strings⟩
  exact printedStatements_eq (by rw [declaration]) (oneLines_serverStub hstrings)
    (starts_serverStub h) depth

section

variable {c : ClientStub} (h : ReadableService c.service)
  (hnames : OneLine c.name ∧ OneLine c.runtime ∧ OneLine c.server)

include h hnames

theorem oneLine_clientStrings : ∀ text ∈ c.strings, OneLine text := by
  rw [ClientStub.strings, List.forall_mem_append, List.forall_mem_cons, List.forall_mem_cons,
    List.forall_mem_singleton]
  exact ⟨hnames, h.strings⟩

theorem printedStatements_nodeClient (htarget : c.target = .node) (depth : ℕ) :
    printedStatements depth (.client c) = texts (NodeClient.lines c) :=
  printedStatements_eq (by rw [declaration, htarget])
    (oneLines_nodeClient (oneLine_clientStrings h hnames)) (starts_nodeClient h) depth

theorem printedStatements_webClient (htarget : c.target = .web) (depth : ℕ) :
    printedStatements depth (.client c) = texts (WebClient.lines c) :=
  printedStatements_eq (by rw [declaration, htarget])
    (oneLines_webClient (oneLine_clientStrings h hnames)) (starts_webClient h) depth

end

end Script

namespace FileScope

/-- The server of a service. -/
def serverOf (runtimes : RpcRuntimes) (service : Service) : ServerStub where
  name := serverName service.name
  runtime := runtimes.grpc
  service := service

/-- The client of a service. -/
def clientOf (c : Config) (runtimes : RpcRuntimes) (service : Service) : ClientStub where
  name := service.name ++ "Client"
  target := c.target
  runtime := runtimes.client c.target
  server := serverName service.name
  service := service
  unaryPromise := c.unaryRpcPromise

/-- The stubs of a service that can be read back are those of its descriptor. -/
theorem stubsAgree {s : FileScope} {d : ServiceDescriptor} {service : Service}
    (hservice : s.service d = .ok service) (h : ReadableService service) {runtimes : RpcRuntimes}
    (hgrpc : IsIdentifier runtimes.grpc)
    (hclient : IsIdentifier (runtimes.client s.config.target)) :
    StubsAgree s.config s.file d (serverOf runtimes service)
      (clientOf s.config runtimes service) := by
  have hserverName : OneLine (serverName service.name) := by
    unfold serverName
    simp [h.name.oneLine]
  have hclientName : IsIdentifier (clientOf s.config runtimes service).name :=
    h.name.append (by decide)
  have hstrings : OneLine (clientOf s.config runtimes service).name ∧
      OneLine (clientOf s.config runtimes service).runtime ∧
      OneLine (clientOf s.config runtimes service).server :=
    ⟨hclientName.oneLine, hclient.oneLine, hserverName⟩
  have hserver : ∀ depth, printedStatements depth (.server (serverOf runtimes service)) =
      texts (serverStub (serverOf runtimes service)) :=
    printedStatements_server (s := serverOf runtimes service) h hserverName hgrpc.oneLine
  obtain ⟨hname, hmethods⟩ := methods_of_service hservice
  refine ⟨rfl, rfl, rfl, hname, hmethods, fun depth => ?_, fun depth => ?_, fun htarget depth => ?_,
    fun htarget depth => ?_, fun htarget depth => ?_, fun htarget depth => ?_⟩
  · rw [hserver]
    exact readings_definition h
  · rw [hserver]
    exact readings_handlers hgrpc h
  · rw [printedStatements_nodeClient h hstrings htarget]
    exact readings_nodeMembers h
  · rw [printedStatements_webClient h hstrings htarget]
    exact readings_webDescriptors h hclient
  · rw [printedStatements_webClient h hstrings htarget]
    exact readings_webFunctions h hclientName
  · rw [printedStatements_webClient h hstrings htarget]
    exact readings_webUnsupported h

end FileScope

/-! ### Text of a file -/

namespace Script

theorem declarations_append (xs ys : List Declaration) :
    declarations (xs ++ ys) = declarations xs ++ declarations ys := by
  induction xs with
  | nil => rfl
  | cons x xs ih => rw [List.cons_append, declarations, declarations, ih, List.append_assoc]

/-- Declarations are printed one after the other. -/
theorem join_printed (depth : ℕ) (ds : List Declaration) :
    String.join (ds.map (printed depth)) = render (indentBy depth (declarations ds)) := by
  induction ds with
  | nil => rfl
  | cons d ds ih =>
    rw [List.map_cons, String.join_cons, ih, printed_eq, declarations, indentBy_append,
      render_append]

end Script

/-- In the text of a file what is printed for the last declarations of its namespace stands
together. -/
theorem SourceFile.exists_text_eq {s : FileScope} {tree : SourceFile} {xs ys : List Declaration}
    (h : tree.body = s.inNamespace (xs ++ ys)) : ∃ depth front back,
      tree.text = front ++ String.join (ys.map (printed depth)) ++ back := by
  unfold FileScope.inNamespace at h
  split_ifs at h
  · -- without a block the declarations end the text
    refine ⟨0, render (Script.header tree.header ++ tree.imports.map importLine ++
      declarations xs), "", ?_⟩
    rw [SourceFile.text, SourceFile.lines, h, declarations_append, ← List.append_assoc,
      render_append, join_printed, indentBy_zero, String.append_empty]
  · refine ⟨1, render (Script.header tree.header ++ tree.imports.map importLine ++
      line ("export namespace " ++ s.file.package ++ " \x7b") :: indent (declarations xs)),
      render [line "\x7d"], ?_⟩
    have hblock : declarations [.namespaceBlock s.file.package (xs ++ ys)] =
        (line ("export namespace " ++ s.file.package ++ " \x7b") :: indent (declarations xs)) ++
          (indent (declarations ys) ++ [line "\x7d"]) := by
      rw [declarations, declaration, declarations, declarations_append, block, indent_append]
      simp
    rw [SourceFile.text, SourceFile.lines, h, hblock, ← List.append_assoc, ← List.append_assoc,
      render_append, render_append, join_printed]
    rfl

/-! ### Files -/

/-- The declarations for services with the given servers and clients. -/
def FileScope.stubDeclarations (s : FileScope) (stubs : List (ServerStub × ClientStub)) :
    List Declaration :=
  .rpcInterfaces s.config.target (AliasScope.forFile.2.1.client s.config.target) ::
    stubs.flatMap fun stub => [.server stub.1, .client stub.2]

/-- The tree declares enums and messages, then the servers and clients of the services of its
file. -/
structure FileScope.Serves (s : FileScope) (tree : SourceFile) (types : List Declaration)
    (stubs : List (ServerStub × ClientStub)) : Prop where
  isType : ∀ d ∈ types, d.IsType
  body : tree.body = s.inNamespace (types ++ s.stubDeclarations stubs)
  services : List.Forall₂ (fun d stub => StubsAgree s.config s.file d stub.1 stub.2)
    s.file.services stubs
  /-- What is printed for servers and clients stands in the text, one after the other. -/
  text : ∃ depth front back,
    tree.text = front ++ String.join ((s.stubDeclarations stubs).map (printed depth)) ++ back

section

variable {c : Config} {files : List FileDescriptor} {file : FileDescriptor}

/-- A lowered file with services serves them. -/
theorem SourceFile.exists_serves (hfiles : ∀ g ∈ files, g.ValidNames ∧ g.ValidServices)
    (hfile : file ∈ files) {version : CompilerVersion} {tree : SourceFile}
    (h : SourceFile.ofDescriptor c (.ofFiles files) version file = .ok tree)
    (hgrpc : c.noGrpc = false) (hservices : file.services ≠ []) :
    ∃ types stubs, (FileScope.ofFile c (.ofFiles files) file).Serves tree types stubs := by
  obtain ⟨types, rpc, htypes, hrpc, rfl⟩ := ofDescriptor_eq_ok_iff.1 h
  have hruntimes : AliasScope.forFile.2.1 = ⟨"grpc_1", "grpc_web_1"⟩ := by decide
  have hserver : IsIdentifier AliasScope.forFile.2.1.grpc := by
    rw [hruntimes]
    exact isIdentifier_literal (by decide)
  have hclient : IsIdentifier (AliasScope.forFile.2.1.client c.target) := by
    rw [hruntimes]
    cases c.target <;> exact isIdentifier_literal (by decide)
  -- the identifiers of the libraries are fixed, since they are the first that are given out
  rw [FileScope.rpcDeclarations, if_pos (FileScope.hasRpc_iff.2 ⟨hgrpc, hservices⟩)] at hrpc
  obtain ⟨services, hlowered, rfl⟩ := FileScope.serviceDeclarations_eq_ok_iff.1 hrpc
  refine ⟨types, services.map fun service => (FileScope.serverOf AliasScope.forFile.2.1 service,
    FileScope.clientOf c AliasScope.forFile.2.1 service), ?_⟩
  have hdeclarations : (FileScope.ofFile c (.ofFiles files) file).stubDeclarations
      (services.map fun service => (FileScope.serverOf AliasScope.forFile.2.1 service,
        FileScope.clientOf c AliasScope.forFile.2.1 service)) =
      .rpcInterfaces c.target (AliasScope.forFile.2.1.client c.target) ::
        services.flatMap ((FileScope.ofFile c (.ofFiles files) file).stubs
          AliasScope.forFile.2.1) := by
    rw [FileScope.stubDeclarations, List.flatMap_map]
    rfl
  refine ⟨FileScope.isType_typeDeclarations htypes, by rw [hdeclarations]; rfl, ?_,
    exists_text_eq (by rw [hdeclarations]; rfl)⟩
  rw [List.forall₂_map_right_iff]
  refine ((List.forall₂_and_left _ _).2 ⟨fun d hd => hd, hlowered⟩).imp ?_
  rintro d service ⟨hd, hservice⟩
  exact FileScope.stubsAgree hservice
    (FileScope.readableService_of_service hfiles hfile hd hservice) hserver hclient

end

/-- **Servers and clients agree with each other and with the descriptor**, in every file that is
generated with services, if names are identifiers. -/
theorem generate_stubs_agree {c : Config} {r : Request} {out : List GeneratedFile}
    (hnames : ∀ f ∈ r.files, f.ValidNames ∧ f.ValidServices) (hgrpc : c.noGrpc = false)
    (h : c.run r = .ok out) :
    ∃ trees, c.trees r = .ok trees ∧ out = trees.map GeneratedFile.ofSource ∧
      List.Forall₂ (fun f tree => f.services ≠ [] →
        ∃ types stubs, (FileScope.ofFile c (.ofFiles r.files) f).Serves tree types stubs)
        r.files trees := by
  obtain ⟨trees, htrees, rfl⟩ := Config.run_eq_ok_iff.1 h
  obtain ⟨-, -, hall⟩ := Config.trees_eq_ok_iff.1 htrees
  refine ⟨trees, htrees, rfl, ?_⟩
  refine ((List.forall₂_and_left _ _).2 ⟨fun f hf => hf, hall⟩).imp ?_
  rintro f tree ⟨hf, htree⟩ hservices
  exact SourceFile.exists_serves hnames hf htree hgrpc hservices

/-- A file with services of all kinds of calls. -/
def chatFile : FileDescriptor where
  name := "chat.proto"
  package := "talk.room"
  dialectName := "proto3"
  messages := [{
    name := "Text"
    fields := [{ name? := "body", number? := some 1, type? := some 9 }] }]
  services := [
    { name := "Chat"
      methods := [
        { name := "Send", inputType := ".talk.room.Text", outputType := ".talk.room.Text" },
        { name := "Watch", inputType := ".talk.room.Text", outputType := ".talk.room.Text",
          serverStreaming := true },
        { name := "Upload", inputType := ".talk.room.Text", outputType := ".talk.room.Text",
          clientStreaming := true },
        { name := "Talk", inputType := ".talk.room.Text", outputType := ".talk.room.Text",
          clientStreaming := true, serverStreaming := true, deprecated := true }] },
    { name := "Admin"
      methods := [
        { name := "Reset", inputType := ".talk.room.Text", outputType := ".talk.room.Text" }] }]

/-- A request for the file. -/
def chatRequest : Request where
  files := [chatFile]

/-- The chat's servers and clients for the browser. -/
theorem generate_stubs_agree_chat : (∀ f ∈ chatRequest.files, f.ValidNames ∧ f.ValidServices) ∧
    { Config.default with target := .web }.noGrpc = false ∧ chatFile.services ≠ [] ∧
    ∃ out tree, { Config.default with target := .web }.run chatRequest = .ok out ∧
      out = [GeneratedFile.ofSource tree] ∧
      ∃ types stubs, (FileScope.ofFile { Config.default with target := .web }
        (.ofFiles chatRequest.files) chatFile).Serves tree types stubs := by
  have hnames : ∀ f ∈ chatRequest.files, f.ValidNames ∧ f.ValidServices := by
    intro f hf
    rw [List.mem_singleton.1 hf]
    exact ⟨⟨.inr (by decide), by decide +kernel, by decide +kernel⟩,
      by decide +kernel, by decide +kernel⟩
  have hok : ({ Config.default with target := .web }.run chatRequest).isOk := by
    decide +kernel
  obtain ⟨out, hout⟩ := isOk_iff.1 hok
  obtain ⟨trees, -, rfl, hall⟩ := generate_stubs_agree hnames (by decide) hout
  obtain ⟨tree, rest, hserves, hrest, rfl⟩ := List.forall₂_cons_left_iff.1 hall
  obtain rfl := List.forall₂_nil_left_iff.1 hrest
  exact ⟨hnames, rfl, by decide, _, tree, hout, rfl, hserves (by decide)⟩

end ProtoTypeScript
