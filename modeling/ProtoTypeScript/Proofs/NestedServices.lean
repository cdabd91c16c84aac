import ProtoTypeScript.Proofs.Nesting
import ProtoTypeScript.Script.Rpc.Interfaces
import ProtoTypeScript.Script.Rpc.NodeClient
import ProtoTypeScript.Script.Rpc.Server
import ProtoTypeScript.Script.Rpc.WebClient

/-!
# Nested brackets in servers and clients

The lines of servers, of clients of both targets and of the interfaces that clients share are well
nested if the names that are written into them are raw. The name of a service and the paths of its
methods stand in string literals only and may be any texts.
-/

namespace ProtoTypeScript

/-! ### Plain declarations -/

/-- The names that the method is written with are raw. -/
structure Method.Plain (m : Method) : Prop where
  name : Script.IsRaw m.name
  inputType : Script.IsRaw m.inputType
  outputType : Script.IsRaw m.outputType

/-- The names that the server is written with are raw. -/
structure ServerStub.Plain (s : ServerStub) : Prop where
  name : Script.IsRaw s.name
  runtime : Script.IsRaw s.runtime
  methods : ∀ m ∈ s.service.methods, m.Plain

/-- The names that the client is written with are raw. -/
structure ClientStub.Plain (c : ClientStub) : Prop where
  name : Script.IsRaw c.name
  runtime : Script.IsRaw c.runtime
  server : Script.IsRaw c.server
  methods : ∀ m ∈ c.service.methods, m.Plain

instance Method.decidablePlain (m : Method) : Decidable m.Plain :=
  decidable_of_iff (Script.IsRaw m.name ∧ Script.IsRaw m.inputType ∧ Script.IsRaw m.outputType)
    ⟨fun ⟨name, inputType, outputType⟩ => ⟨name, inputType, outputType⟩,
      fun h => ⟨h.name, h.inputType, h.outputType⟩⟩

instance ServerStub.decidablePlain (s : ServerStub) : Decidable s.Plain :=
  decidable_of_iff (Script.IsRaw s.name ∧ Script.IsRaw s.runtime ∧
      ∀ m ∈ s.service.methods, m.Plain)
    ⟨fun ⟨name, runtime, methods⟩ => ⟨name, runtime, methods⟩,
      fun h => ⟨h.name, h.runtime, h.methods⟩⟩

instance ClientStub.decidablePlain (c : ClientStub) : Decidable c.Plain :=
  decidable_of_iff (Script.IsRaw c.name ∧ Script.IsRaw c.runtime ∧ Script.IsRaw c.server ∧
      ∀ m ∈ c.service.methods, m.Plain)
    ⟨fun ⟨name, runtime, server, methods⟩ => ⟨name, runtime, server, methods⟩,
      fun h => ⟨h.name, h.runtime, h.server, h.methods⟩⟩

namespace Script

/-! ### Interfaces -/

namespace RpcInterface

section

variable {runtime : String} (hruntime : IsRaw runtime)

include hruntime

theorem wellNested_callback : WellNested (callback runtime) := by
  rw [callback, String.append_assoc]
  exact .lit rfl <| .code hruntime.wellNested <| .last rfl

theorem wellNested_metadata : WellNested (metadata runtime) := by
  rw [metadata, String.append_assoc]
  exact .lit rfl <| .code hruntime.wellNested <| .last rfl

theorem wellNested_options : WellNested (options runtime) := by
  rw [options, String.append_assoc]
  exact .lit rfl <| .code hruntime.wellNested <| .last rfl

theorem wellNested_optionalOptions : WellNested (optionalOptions runtime) := by
  rw [optionalOptions, String.append_assoc]
  exact .lit rfl <| .code hruntime.wellNested <| .last rfl

omit hruntime in
theorem wellNested_signature {parameters : List String} {result : String}
    (hparameters : ∀ p ∈ parameters, WellNested p) (hresult : WellNested result) :
    WellNested (signature parameters result) := by
  simp only [signature, String.append_assoc]
  exact .lit rfl <| .code (wellNested_joinWith hparameters) <| .lit rfl <| .code hresult <|
    .last rfl

theorem wellNested_callbackCalls {first : List String} {result : String}
    (hfirst : ∀ p ∈ first, WellNested p) (hresult : WellNested result) :
    ∀ text ∈ callbackCalls runtime first result, WellNested text := by
  have hsignature : ∀ rest : List String, (∀ p ∈ rest, WellNested p) →
      WellNested (signature (first ++ rest) result) :=
    fun rest hrest => wellNested_signature (List.forall_mem_append.2 ⟨hfirst, hrest⟩) hresult
  have hcallback := wellNested_callback hruntime
  have hmetadata := wellNested_metadata hruntime
  have hoptions := wellNested_options hruntime
  rw [callbackCalls, List.forall_mem_cons, List.forall_mem_cons, List.forall_mem_cons,
    List.forall_mem_singleton]
  refine ⟨hsignature _ ?_, hsignature _ ?_, hsignature _ ?_, hsignature _ ?_⟩
  · simp [hcallback, hmetadata, hoptions]
  · simp [hcallback, hmetadata]
  · simp [hcallback, hoptions]
  · simp [hcallback]

theorem wellNested_returningCalls {first : List String} {result : String}
    (hfirst : ∀ p ∈ first, WellNested p) (hresult : WellNested result) :
    ∀ text ∈ returningCalls runtime first result, WellNested text := by
  have hsignature : ∀ rest : List String, (∀ p ∈ rest, WellNested p) →
      WellNested (signature (first ++ rest) result) :=
    fun rest hrest => wellNested_signature (List.forall_mem_append.2 ⟨hfirst, hrest⟩) hresult
  have hmetadata := wellNested_metadata hruntime
  have hoptions := wellNested_optionalOptions hruntime
  rw [returningCalls, List.forall_mem_cons, List.forall_mem_singleton]
  refine ⟨hsignature _ ?_, hsignature _ ?_⟩
  · simp [hmetadata, hoptions]
  · simp [hoptions]

theorem wellNested_node : ∀ i ∈ node runtime, WellNested i.name ∧
    ∀ text ∈ i.signatures, WellNested text := by
  have hmessage : ∀ p ∈ ["message: P"], WellNested p := List.forall_mem_singleton.2 (.last rfl)
  have hnone : ∀ p ∈ ([] : List String), WellNested p := List.forall_mem_nil _
  have hresult : ∀ {suffix : String}, WellNested suffix → WellNested (runtime ++ suffix) :=
    fun hsuffix => .code hruntime.wellNested hsuffix
  simp only [node, List.forall_mem_cons, List.not_mem_nil, false_imp_iff, implies_true, and_true]
  exact ⟨⟨.last rfl, wellNested_callbackCalls hruntime hmessage (hresult (.last rfl))⟩,
    ⟨.last rfl, wellNested_returningCalls hruntime hmessage (hresult (.last rfl))⟩,
    ⟨.last rfl, wellNested_callbackCalls hruntime hnone (hresult (.last rfl))⟩,
    ⟨.last rfl, wellNested_returningCalls hruntime hnone (hresult (.last rfl))⟩,
    ⟨.last rfl, wellNested_returningCalls hruntime hmessage (.last rfl)⟩⟩

theorem wellNested_web : ∀ i ∈ web runtime, WellNested i.name ∧
    ∀ text ∈ i.signatures, WellNested text := by
  have hcode := hruntime.wellNested
  have hnullable : WellNested ("metadata?: " ++ runtime ++ ".Metadata | null") := by
    rw [String.append_assoc]
    exact .lit rfl <| .code hcode <| .last rfl
  have hmetadata : WellNested ("metadata?: " ++ runtime ++ ".Metadata") := by
    rw [String.append_assoc]
    exact .lit rfl <| .code hcode <| .last rfl
  have hparameters : ∀ {metadata : String}, WellNested metadata →
      ∀ p ∈ ["message: P", metadata], WellNested p :=
    fun h => List.forall_mem_cons.2 ⟨.last rfl, List.forall_mem_singleton.2 h⟩
  simp only [web, List.forall_mem_cons, List.not_mem_nil, false_imp_iff, implies_true, and_true]
  exact ⟨⟨.last rfl, wellNested_signature (hparameters hnullable) (.last rfl)⟩,
    ⟨.last rfl, wellNested_signature (hparameters hmetadata) (.code hcode <| .last rfl)⟩⟩

end

theorem wellNested_lines {i : RpcInterface} (hname : WellNested i.name)
    (hsignatures : ∀ text ∈ i.signatures, WellNested text) : WellNestedLines i.lines := by
  refine .block ['\x7d'] ?_ (.map_line hsignatures) (.last rfl)
  rw [String.append_assoc]
  exact .lit rfl <| .code hname <| .last rfl

end RpcInterface

theorem wellNested_rpcInterfaces (target : Target) {runtime : String} (hruntime : IsRaw runtime) :
    WellNestedLines (rpcInterfaces target runtime) := by
  cases target with
  | node =>
    refine .flatMap fun i hi => ?_
    obtain ⟨hname, hsignatures⟩ := RpcInterface.wellNested_node hruntime i hi
    exact RpcInterface.wellNested_lines hname hsignatures
  | web =>
    refine .flatMap fun i hi => ?_
    obtain ⟨hname, hsignatures⟩ := RpcInterface.wellNested_web hruntime i hi
    exact RpcInterface.wellNested_lines hname hsignatures

/-! ### Servers -/

theorem wellNested_boolLiteral (b : Bool) : WellNested (boolLiteral b) := by
  cases b <;> exact .last rfl

theorem wellNested_bufferWriter {type : String} (h : IsRaw type) :
    WellNested (bufferWriter type) := by
  unfold bufferWriter
  rw [String.append_assoc]
  exact .lit rfl <| .code h.wellNested <| .last rfl

theorem wellNested_bufferReader {type : String} (h : IsRaw type) :
    WellNested (bufferReader type) := by
  unfold bufferReader
  rw [String.append_assoc]
  exact .lit rfl <| .code h.wellNested <| .last rfl

theorem wellNested_definitionEntry {m : Method} (h : m.Plain) {separator : String}
    (hseparator : WellNested separator) : WellNestedLines (definitionEntry m separator) := by
  have hlast : Takes ("\x7d" ++ separator) ⟨.code, ['\x7d']⟩ ⟨.code, []⟩ :=
    .lit rfl hseparator
  refine .block ['\x7d'] (.code h.name.wellNested <| .last rfl) (.map_line ?_) hlast
  refine wellNested_withCommas ?_
  simp only [List.forall_mem_cons, List.not_mem_nil, false_imp_iff, implies_true, and_true]
  exact ⟨.lit rfl <| .lastCode (wellNested_quote _),
    .lit rfl <| .lastCode (wellNested_boolLiteral _),
    .lit rfl <| .lastCode (wellNested_boolLiteral _),
    .lit rfl <| .lastCode (wellNested_bufferWriter h.inputType),
    .lit rfl <| .lastCode (wellNested_bufferReader h.inputType),
    .lit rfl <| .lastCode (wellNested_bufferWriter h.outputType),
    .lit rfl <| .lastCode (wellNested_bufferReader h.outputType)⟩

theorem wellNested_definitionEntries {methods : List Method} (h : ∀ m ∈ methods, m.Plain) :
    WellNestedLines (definitionEntries methods) := by
  fun_induction definitionEntries methods with
  | case1 => exact .nil
  | case2 m => exact wellNested_definitionEntry (h m List.mem_cons_self) (.last rfl)
  | case3 m next rest ih =>
    rw [List.forall_mem_cons] at h
    exact .append (wellNested_definitionEntry h.1 (.last rfl)) (ih h.2)

theorem wellNested_handlerParameters {m : Method} (h : m.Plain) {runtime : String}
    (hruntime : IsRaw runtime) : WellNested (handlerParameters runtime m) := by
  have hcall : ∀ {kind : String}, WellNested kind → WellNested ("call: " ++ runtime ++ kind) := by
    intro kind hkind
    rw [String.append_assoc]
    exact .lit rfl <| .code hruntime.wellNested hkind
  have htypes : WellNested ("<" ++ m.inputType ++ ", " ++ m.outputType ++ ">") := by
    simp only [String.append_assoc]
    exact .lit rfl <| .code h.inputType.wellNested <| .lit rfl <| .code h.outputType.wellNested <|
      .last rfl
  have hcallback : WellNested
      (", callback: " ++ runtime ++ ".sendUnaryData<" ++ m.outputType ++ ">") := by
    simp only [String.append_assoc]
    exact .lit rfl <| .code hruntime.wellNested <| .lit rfl <| .code h.outputType.wellNested <|
      .last rfl
  unfold handlerParameters
  dsimp only
  cases m.callShape with
  | unary => exact .append (.append (hcall (.last rfl)) htypes) hcallback
  | serverStream => exact .append (hcall (.last rfl)) htypes
  | clientStream => exact .append (.append (hcall (.last rfl)) htypes) hcallback
  | bidirectional => exact .append (hcall (.last rfl)) htypes

theorem wellNested_handlerStatement (m : Method) {runtime : String} (hruntime : IsRaw runtime) :
    WellNested (handlerStatement runtime m) := by
  have hstatus : WellNested (unimplementedStatus runtime m) := by
    simp only [unimplementedStatus, String.append_assoc]
    exact .lit rfl <| .code hruntime.wellNested <| .lit rfl <| .code (wellNested_quote _) <|
      .last rfl
  unfold handlerStatement
  dsimp only
  split_ifs
  · rw [String.append_assoc]
    exact .lit rfl <| .code hstatus <| .last rfl
  · rw [String.append_assoc]
    exact .lit rfl <| .code hstatus <| .last rfl

theorem wellNested_handler {m : Method} (h : m.Plain) {runtime : String}
    (hruntime : IsRaw runtime) : WellNestedLines (handler runtime m) := by
  refine .append (.deprecation _) (.block ['\x7d'] ?_
    (.singleton (wellNested_handlerStatement m hruntime)) (.last rfl))
  simp only [String.append_assoc]
  exact .code h.name.wellNested <| .lit rfl <| .code (wellNested_handlerParameters h hruntime) <|
    .last rfl

theorem wellNested_serverStub {s : ServerStub} (h : s.Plain) : WellNestedLines (serverStub s) := by
  have hdefinition : WellNestedLines
      (block "static definition = \x7b" (definitionEntries s.service.methods) "\x7d;") :=
    .block ['\x7d'] (.last rfl) (wellNested_definitionEntries h.methods) (.last rfl)
  have hhandlers : WellNestedLines (s.service.methods.flatMap (handler s.runtime)) :=
    .flatMap fun m hm => wellNested_handler (h.methods m hm) h.runtime
  refine .append (.deprecation _) (.block ['\x7d'] ?_
    (.append (.append hdefinition (.singleton ?_)) hhandlers) (.last rfl))
  · rw [String.append_assoc]
    exact .lit rfl <| .code h.name.wellNested <| .last rfl
  · rw [String.append_assoc]
    exact .lit rfl <| .code h.runtime.wellNested <| .last rfl

/-! ### Node.js clients -/

namespace NodeClient

section

variable {runtime : String} (hruntime : IsRaw runtime) {m : Method} (h : m.Plain)

include h

/-- The head of a function leaves its brace open. -/
theorem takes_head {interface parameters result : String} (hinterface : WellNested interface)
    (hparameters : WellNested parameters) (hresult : WellNested result) :
    Takes (head m interface parameters result) ⟨.code, []⟩ ⟨.code, ['\x7d']⟩ := by
  simp only [head, String.append_assoc]
  exact .code h.name.wellNested <| .lit rfl <| .code hinterface <| .lit rfl <|
    .code h.inputType.wellNested <| .lit rfl <| .code h.outputType.wellNested <| .lit rfl <|
    .code hparameters <| .lit rfl <| .code hresult <| .last rfl

theorem wellNested_messageParameters {parameters : String} (hparameters : WellNested parameters) :
    WellNested (messageParameter m ++ ", " ++ parameters) := by
  simp only [messageParameter, String.append_assoc]
  exact .lit rfl <| .code h.inputType.wellNested <| .lit rfl <| .lastCode hparameters

/-- A function whose only statement hands the call on. -/
theorem wellNested_handOn {interface parameters result arguments : String}
    (hinterface : WellNested interface) (hparameters : WellNested parameters)
    (hresult : WellNested result) (harguments : WellNested arguments) :
    WellNestedLines (block (head m interface parameters result) (handOn m arguments) "\x7d;") := by
  refine .block ['\x7d'] (takes_head h hinterface hparameters hresult) (.singleton ?_) (.last rfl)
  simp only [String.append_assoc]
  exact .lit rfl <| .code h.name.wellNested <| .lit rfl <| .code harguments <| .last rfl

include hruntime

omit h in
theorem wellNested_optionalParameters : WellNested (optionalParameters runtime) := by
  have hrun := hruntime.wellNested
  unfold optionalParameters
  simp only [String.append_assoc]
  exact .lit rfl <| .code hrun <| .lit rfl <| .code hrun <| .lit rfl <| .code hrun <| .last rfl

theorem wellNested_callbackParameters : WellNested (callbackParameters runtime m) := by
  have hrun := hruntime.wellNested
  have hcallback : WellNested (callbackType runtime m) := by
    simp only [callbackType, String.append_assoc]
    exact .code hrun <| .lit rfl <| .code h.outputType.wellNested <| .last rfl
  unfold callbackParameters
  simp only [String.append_assoc]
  exact .lit rfl <| .code hrun <| .lit rfl <| .code hrun <| .lit rfl <| .code hcallback <|
    .lit rfl <| .code hrun <| .lit rfl <| .code hcallback <| .lit rfl <| .lastCode hcallback

theorem wellNested_promiseMethod : WellNestedLines (promiseMethod runtime m) := by
  have hparameters := wellNested_messageParameters h (wellNested_optionalParameters hruntime)
  have hresult : WellNested ("Promise<" ++ m.outputType ++ ">") := by
    rw [String.append_assoc]
    exact .lit rfl <| .code h.outputType.wellNested <| .last rfl
  have hmetadata : WellNested ("metadata = new " ++ runtime ++ ".Metadata;") := by
    rw [String.append_assoc]
    exact .lit rfl <| .code hruntime.wellNested <| .last rfl
  have helse : WellNestedLines (block "else \x7b" [line "resolve(response);"] "\x7d") :=
    .block ['\x7d'] (.last rfl) (.singleton (.last rfl)) (.last rfl)
  have hcall : Takes ("return new Promise((resolve, reject) => super." ++ m.name ++
      "(message, metadata, options, (error: " ++ runtime ++ ".ServiceError, response: " ++
      m.outputType ++ ") => \x7b") ⟨.code, []⟩ ⟨.code, ['\x7d', ')', ')']⟩ := by
    simp only [String.append_assoc]
    exact .lit rfl <| .code h.name.wellNested <| .lit rfl <| .code hruntime.wellNested <|
      .lit rfl <| .code h.outputType.wellNested <| .last rfl
  refine .block ['\x7d'] (takes_head h (.last rfl) hparameters hresult)
    (.append (.append (.guardedBlock (.last rfl) (.singleton hmetadata))
      (.guardedBlock (.last rfl) (.singleton (.last rfl)))) ?_) (.last rfl)
  exact .block _ hcall (.append (.guardedBlock (.last rfl) (.singleton (.last rfl))) helse)
    (.last rfl)

theorem wellNested_unaryMethod : WellNestedLines (unaryMethod runtime m) := by
  have hparameters := wellNested_messageParameters h (wellNested_callbackParameters hruntime h)
  have hresult : WellNested (runtime ++ ".ClientUnaryCall") :=
    .code hruntime.wellNested <| .last rfl
  exact wellNested_handOn h (.last rfl) hparameters hresult (.last rfl)

theorem wellNested_serverStreamMethod : WellNestedLines (serverStreamMethod runtime m) := by
  have hparameters := wellNested_messageParameters h (wellNested_optionalParameters hruntime)
  have hresult : WellNested (runtime ++ ".ClientReadableStream<" ++ m.outputType ++ ">") := by
    simp only [String.append_assoc]
    exact .code hruntime.wellNested <| .lit rfl <| .code h.outputType.wellNested <| .last rfl
  exact wellNested_handOn h (.last rfl) hparameters hresult (.last rfl)

theorem wellNested_clientStreamMethod : WellNestedLines (clientStreamMethod runtime m) := by
  have hresult : WellNested (runtime ++ ".ClientWritableStream<" ++ m.inputType ++ ">") := by
    simp only [String.append_assoc]
    exact .code hruntime.wellNested <| .lit rfl <| .code h.inputType.wellNested <| .last rfl
  have hparameters := wellNested_callbackParameters hruntime h
  exact wellNested_handOn h (.last rfl) hparameters hresult (.last rfl)

theorem wellNested_bidirectionalMethod : WellNestedLines (bidirectionalMethod runtime m) := by
  have hresult : WellNested (runtime ++ ".ClientDuplexStream<" ++ m.inputType ++ ", " ++
      m.outputType ++ ">") := by
    simp only [String.append_assoc]
    exact .code hruntime.wellNested <| .lit rfl <| .code h.inputType.wellNested <| .lit rfl <|
      .code h.outputType.wellNested <| .last rfl
  have hparameters := wellNested_optionalParameters hruntime
  exact wellNested_handOn h (.last rfl) hparameters hresult (.last rfl)

theorem wellNested_method (unaryPromise : Bool) :
    WellNestedLines (method runtime unaryPromise m) := by
  refine .append (.deprecation _) ?_
  cases m.callShape with
  | unary =>
    dsimp only
    split_ifs
    · exact wellNested_promiseMethod hruntime h
    · exact wellNested_unaryMethod hruntime h
  | serverStream => exact wellNested_serverStreamMethod hruntime h
  | clientStream => exact wellNested_clientStreamMethod hruntime h
  | bidirectional => exact wellNested_bidirectionalMethod hruntime h

omit h in
theorem wellNested_constructor : WellNestedLines (constructor runtime) := by
  refine .block ['\x7d'] ?_ (.singleton (.last rfl)) (.last rfl)
  simp only [String.append_assoc]
  exact .lit rfl <| .code hruntime.wellNested <| .lit rfl <| .code hruntime.wellNested <| .last rfl

end

theorem wellNested_lines {c : ClientStub} (h : c.Plain) : WellNestedLines (lines c) := by
  have hmethods : WellNestedLines
      (c.service.methods.flatMap (method c.runtime c.unaryPromise)) :=
    .flatMap fun m hm => wellNested_method h.runtime (h.methods m hm) c.unaryPromise
  refine .append (.deprecation _)
    (.block ['\x7d'] ?_ (.append (wellNested_constructor h.runtime) hmethods) (.last rfl))
  simp only [String.append_assoc]
  exact .lit rfl <| .code h.name.wellNested <| .lit rfl <| .code h.runtime.wellNested <| .lit rfl <|
    .code h.server.wellNested <| .lit rfl <| .code (wellNested_quote _) <| .last rfl

end NodeClient

/-! ### Browser clients -/

namespace WebClient

section

variable {runtime : String} (hruntime : IsRaw runtime) {m : Method}

include hruntime

theorem wellNested_call? {c : Call} (hc : call? runtime m = some c) :
    WellNested c.methodType ∧ WellNested c.function ∧ WellNested c.interface ∧
      WellNested c.metadata := by
  have hrun := hruntime.wellNested
  unfold call? at hc
  split at hc
  · cases hc
    exact ⟨.last rfl, .last rfl, .last rfl, .code hrun <| .last rfl⟩
  · cases hc
    exact ⟨.last rfl, .last rfl, .last rfl, .code hrun <| .last rfl⟩
  · cases hc
  · cases hc

theorem wellNested_descriptor (h : m.Plain) {c : Call} (hc : WellNested c.methodType) :
    WellNested (descriptor runtime m c).text := by
  have hrun := hruntime.wellNested
  have hinput := h.inputType.wellNested
  have houtput := h.outputType.wellNested
  simp only [descriptor, line, String.append_assoc]
  exact .lit rfl <| .code h.name.wellNested <| .lit rfl <| .code hrun <| .lit rfl <|
    .code (wellNested_quote _) <| .lit rfl <| .code hrun <| .lit rfl <| .code hc <| .lit rfl <|
    .code hinput <| .lit rfl <| .code houtput <| .lit rfl <| .code hinput <| .lit rfl <|
    .code houtput <| .last rfl

omit hruntime in
theorem wellNested_function {client : String} (hclient : IsRaw client) (h : m.Plain) {c : Call}
    (hfunction : WellNested c.function) (hinterface : WellNested c.interface)
    (hmetadata : WellNested c.metadata) : WellNestedLines (function client m c) := by
  refine .block ['\x7d'] ?_ (.singleton ?_) (.last rfl)
  · simp only [String.append_assoc]
    exact .code h.name.wellNested <| .lit rfl <| .code hinterface <| .lit rfl <|
      .code h.inputType.wellNested <| .lit rfl <| .code h.outputType.wellNested <| .lit rfl <|
      .code h.inputType.wellNested <| .lit rfl <| .code hmetadata <| .last rfl
  · simp only [String.append_assoc]
    exact .lit rfl <| .code hfunction <| .lit rfl <| .code (wellNested_quote _) <| .lit rfl <|
      .code hclient.wellNested <| .lit rfl <| .code h.name.wellNested <| .last rfl

omit hruntime in
theorem wellNested_unsupported (h : m.Plain) : WellNestedLines (unsupported m) := by
  refine .block ['\x7d'] (.code h.name.wellNested <| .last rfl) (.singleton ?_) (.last rfl)
  rw [String.append_assoc]
  exact .lit rfl <| .code (wellNested_quote _) <| .last rfl

theorem wellNested_method {client : String} (hclient : IsRaw client) (h : m.Plain) :
    WellNestedLines (method runtime client m) := by
  unfold method
  cases hc : call? runtime m with
  | none => exact .append (.deprecation _) (wellNested_unsupported h)
  | some c =>
    obtain ⟨htype, hfunction, hinterface, hmetadata⟩ := wellNested_call? hruntime hc
    exact .append (.cons (wellNested_descriptor hruntime h htype) (.deprecation _))
      (wellNested_function hclient h hfunction hinterface hmetadata)

theorem wellNested_constructor : WellNestedLines (constructor runtime) := by
  have hclient : WellNested
      ("this._client = new " ++ runtime ++ ".GrpcWebClientBase(options);") := by
    rw [String.append_assoc]
    exact .lit rfl <| .code hruntime.wellNested <| .last rfl
  refine .block ['\x7d'] ?_ (.append (.guarded (.last rfl) (.last rfl))
    (.cons (.last rfl) (.cons (.last rfl) (.singleton hclient)))) (.last rfl)
  rw [String.append_assoc]
  exact .lit rfl <| .code hruntime.wellNested <| .last rfl

end

theorem wellNested_lines {c : ClientStub} (h : c.Plain) : WellNestedLines (lines c) := by
  have hclient : WellNested ("private _client: " ++ c.runtime ++ ".GrpcWebClientBase;") := by
    rw [String.append_assoc]
    exact .lit rfl <| .code h.runtime.wellNested <| .last rfl
  have hmethods : WellNestedLines (c.service.methods.flatMap (method c.runtime c.name)) :=
    .flatMap fun m hm => wellNested_method h.runtime h.name (h.methods m hm)
  refine .append (.deprecation _) (.block ['\x7d'] ?_ (.append (.append
    (.cons (.last rfl) (.singleton hclient)) (wellNested_constructor h.runtime)) hmethods)
    (.last rfl))
  rw [String.append_assoc]
  exact .lit rfl <| .code h.name.wellNested <| .last rfl

end WebClient

end Script

end ProtoTypeScript
