import ProtoTypeScript.Proofs.OneLineMessages
import ProtoTypeScript.Script.File

/-!
# Lines of services and declarations

`oneLines_declaration`: if no string of a declaration has a line feed, no line of it has one.
Services and clients come first; a declaration is then taken apart with what it encloses.
-/

namespace ProtoTypeScript

namespace Script

/-! ### Enums and interfaces -/

theorem oneLines_enumeration {e : EnumDeclaration} (h : ∀ text ∈ e.strings, OneLine text) :
    OneLines (enumeration e) := by
  rw [EnumDeclaration.strings, List.forall_mem_cons, List.forall_mem_map] at h
  have hvalues : ∀ text ∈ Text.withCommas (e.values.map enumValue), OneLine text :=
    oneLine_withCommas (List.forall_mem_map.2 fun v hv => by simp [enumValue, h.2 v hv])
  exact .append (.deprecation e.deprecated) (.block (by simp [h.1]) (.map_line hvalues) (by simp))

namespace RpcInterface

theorem oneLine_signature {parameters : List String} {result : String}
    (hparameters : ∀ p ∈ parameters, OneLine p) (hresult : OneLine result) :
    OneLine (signature parameters result) := by
  have hlist : OneLine (Text.joinWith ", " parameters) :=
    oneLine_joinWith (oneLine_literal rfl) hparameters
  unfold signature
  simp [hlist, hresult]

section

variable {runtime : String} (hruntime : OneLine runtime)

include hruntime

theorem oneLine_callbackCalls {first : List String} {result : String}
    (hfirst : ∀ p ∈ first, OneLine p) (hresult : OneLine result) :
    ∀ text ∈ callbackCalls runtime first result, OneLine text := by
  have hsignature : ∀ rest : List String, (∀ p ∈ rest, OneLine p) →
      OneLine (signature (first ++ rest) result) :=
    fun rest hrest => oneLine_signature (List.forall_mem_append.2 ⟨hfirst, hrest⟩) hresult
  unfold callbackCalls metadata options callback
  rw [List.forall_mem_cons, List.forall_mem_cons, List.forall_mem_cons,
    List.forall_mem_singleton]
  exact ⟨hsignature _ (by simp [hruntime]), hsignature _ (by simp [hruntime]),
    hsignature _ (by simp [hruntime]), hsignature _ (by simp [hruntime])⟩

theorem oneLine_returningCalls {first : List String} {result : String}
    (hfirst : ∀ p ∈ first, OneLine p) (hresult : OneLine result) :
    ∀ text ∈ returningCalls runtime first result, OneLine text := by
  have hsignature : ∀ rest : List String, (∀ p ∈ rest, OneLine p) →
      OneLine (signature (first ++ rest) result) :=
    fun rest hrest => oneLine_signature (List.forall_mem_append.2 ⟨hfirst, hrest⟩) hresult
  unfold returningCalls metadata optionalOptions
  rw [List.forall_mem_cons, List.forall_mem_singleton]
  exact ⟨hsignature _ (by simp [hruntime]), hsignature _ (by simp [hruntime])⟩

theorem oneLine_node : ∀ i ∈ node runtime, OneLine i.name ∧ ∀ s ∈ i.signatures, OneLine s := by
  have hmessage : ∀ p ∈ ["message: P"], OneLine p := List.forall_mem_singleton.2 (by simp)
  have hnone : ∀ p ∈ ([] : List String), OneLine p := List.forall_mem_nil _
  simp only [node, List.forall_mem_cons, List.not_mem_nil, false_imp_iff, implies_true, and_true]
  exact ⟨⟨by simp, oneLine_callbackCalls hruntime hmessage (by simp [hruntime])⟩,
    ⟨by simp, oneLine_returningCalls hruntime hmessage (by simp [hruntime])⟩,
    ⟨by simp, oneLine_callbackCalls hruntime hnone (by simp [hruntime])⟩,
    ⟨by simp, oneLine_returningCalls hruntime hnone (by simp [hruntime])⟩,
    ⟨by simp, oneLine_returningCalls hruntime hmessage (by simp)⟩⟩

theorem oneLine_web : ∀ i ∈ web runtime, OneLine i.name ∧ ∀ s ∈ i.signatures, OneLine s := by
  simp only [web, List.forall_mem_cons, List.not_mem_nil, false_imp_iff, implies_true, and_true]
  exact ⟨⟨by simp, oneLine_signature (by simp [hruntime]) (by simp)⟩,
    ⟨by simp, oneLine_signature (by simp [hruntime]) (by simp [hruntime])⟩⟩

end

theorem oneLines_lines {i : RpcInterface} (hname : OneLine i.name)
    (hsignatures : ∀ s ∈ i.signatures, OneLine s) : OneLines i.lines :=
  .block (by simp [hname]) (.map_line hsignatures) (by simp)

end RpcInterface

theorem oneLines_rpcInterfaces (target : Target) {runtime : String} (h : OneLine runtime) :
    OneLines (rpcInterfaces target runtime) := by
  cases target with
  | node =>
    refine .flatMap fun i hi => ?_
    obtain ⟨hname, hsignatures⟩ := RpcInterface.oneLine_node h i hi
    exact RpcInterface.oneLines_lines hname hsignatures
  | web =>
    refine .flatMap fun i hi => ?_
    obtain ⟨hname, hsignatures⟩ := RpcInterface.oneLine_web h i hi
    exact RpcInterface.oneLines_lines hname hsignatures

/-! ### Services -/

section Methods

variable {runtime : String} {m : Method} (hruntime : OneLine runtime)
  (h : ∀ text ∈ m.strings, OneLine text)

include h

theorem oneLine_methodName : OneLine m.name :=
  h _ (by simp [Method.strings])

theorem oneLine_inputType : OneLine m.inputType :=
  h _ (by simp [Method.strings])

theorem oneLine_outputType : OneLine m.outputType :=
  h _ (by simp [Method.strings])

theorem oneLines_definitionEntry {separator : String} (hseparator : OneLine separator) :
    OneLines (definitionEntry m separator) := by
  have hinput := oneLine_inputType h
  have houtput := oneLine_outputType h
  have hwriter : ∀ {type}, OneLine type → OneLine (bufferWriter type) := by
    intro type htype
    unfold bufferWriter
    simp [htype]
  have hreader : ∀ {type}, OneLine type → OneLine (bufferReader type) := by
    intro type htype
    unfold bufferReader
    simp [htype]
  have hflag : ∀ b, OneLine (boolLiteral b) := by
    intro b
    cases b <;> exact oneLine_literal rfl
  refine .block (by simp [oneLine_methodName h]) (.map_line (oneLine_withCommas ?_))
    (by simp [hseparator])
  simp [hflag, oneLine_quote, hwriter, hreader, hinput, houtput]

include hruntime

theorem oneLines_handler : OneLines (handler runtime m) := by
  have hname := oneLine_methodName h
  have hinput := oneLine_inputType h
  have houtput := oneLine_outputType h
  have hparameters : OneLine (handlerParameters runtime m) := by
    unfold handlerParameters
    cases m.callShape <;> simp [hruntime, hinput, houtput]
  have hstatement : OneLine (handlerStatement runtime m) := by
    unfold handlerStatement
    dsimp only
    split_ifs <;> simp [unimplementedStatus, oneLine_quote, hruntime]
  exact .append (.deprecation m.deprecated)
    (.block (by simp [hname, hparameters]) (.cons hstatement .nil) (by simp))

end Methods

theorem oneLines_definitionEntries {methods : List Method}
    (h : ∀ m ∈ methods, ∀ text ∈ m.strings, OneLine text) :
    OneLines (definitionEntries methods) := by
  fun_induction definitionEntries methods with
  | case1 => exact .nil
  | case2 m => exact oneLines_definitionEntry (h m List.mem_cons_self) (by simp)
  | case3 m next rest ih =>
    rw [List.forall_mem_cons] at h
    exact .append (oneLines_definitionEntry h.1 (by simp)) (ih h.2)

theorem oneLine_serviceMethod {s : Service} (h : ∀ text ∈ s.strings, OneLine text) {m : Method}
    (hm : m ∈ s.methods) : ∀ text ∈ m.strings, OneLine text :=
  fun text htext => h text (List.mem_cons_of_mem _ (List.mem_flatMap.2 ⟨m, hm, htext⟩))

theorem oneLines_serverStub {s : ServerStub} (h : ∀ text ∈ s.strings, OneLine text) :
    OneLines (serverStub s) := by
  rw [ServerStub.strings, List.forall_mem_append, List.forall_mem_cons,
    List.forall_mem_singleton] at h
  obtain ⟨⟨hname, hruntime⟩, hservice⟩ := h
  have hdefinition : OneLines
      (block "static definition = \x7b" (definitionEntries s.service.methods) "\x7d;") :=
    .block (by simp) (oneLines_definitionEntries fun m hm => oneLine_serviceMethod hservice hm)
      (by simp)
  have hhandlers : OneLines (s.service.methods.flatMap (handler s.runtime)) :=
    .flatMap fun m hm => oneLines_handler hruntime (oneLine_serviceMethod hservice hm)
  exact .append (.deprecation s.service.deprecated) (.block (by simp [hname])
    (.append (.append hdefinition (.cons (by simp [hruntime]) .nil)) hhandlers) (by simp))

/-! ### Node.js clients -/

namespace NodeClient

variable {runtime : String} {m : Method} (hruntime : OneLine runtime)
  (h : ∀ text ∈ m.strings, OneLine text)

include h

theorem oneLine_head {interface parameters result : String} (hinterface : OneLine interface)
    (hparameters : OneLine parameters) (hresult : OneLine result) :
    OneLine (head m interface parameters result) := by
  unfold head
  simp [oneLine_methodName h, oneLine_inputType h, oneLine_outputType h, hinterface, hparameters,
    hresult]

theorem oneLines_handOn {interface parameters result arguments : String}
    (hhead : OneLine (head m interface parameters result)) (harguments : OneLine arguments) :
    OneLines (block (head m interface parameters result) (handOn m arguments) "\x7d;") :=
  .block hhead (.cons (by simp [oneLine_methodName h, harguments]) .nil) (by simp)

include hruntime

theorem oneLines_method (unaryPromise : Bool) : OneLines (method runtime unaryPromise m) := by
  have hname := oneLine_methodName h
  have hinput := oneLine_inputType h
  have houtput := oneLine_outputType h
  have hoptional : OneLine (optionalParameters runtime) := by
    unfold optionalParameters
    simp [hruntime]
  have hcallback : OneLine (callbackParameters runtime m) := by
    unfold callbackParameters callbackType
    simp [hruntime, houtput]
  have hmessage : OneLine (messageParameter m) := by
    unfold messageParameter
    simp [hinput]
  refine .append (.deprecation m.deprecated) ?_
  cases m.callShape with
  | unary =>
    cases unaryPromise with
    | false =>
      exact oneLines_handOn h (oneLine_head h (by simp)
        (by simp [hmessage, hcallback]) (by simp [hruntime])) (by simp)
    | true =>
      have hanswer : OneLines (guardedBlock "error" [line "reject(error);"] ++
          block "else \x7b" [line "resolve(response);"] "\x7d") :=
        .append (.guardedBlock (by simp) (.cons (by simp) .nil))
          (.block (by simp) (.cons (by simp) .nil) (by simp))
      exact .block (oneLine_head h (by simp) (by simp [hmessage, hoptional])
          (by simp [houtput]))
        (.append (.append (.guardedBlock (by simp) (.cons (by simp [hruntime]) .nil))
          (.guardedBlock (by simp) (.cons (by simp) .nil)))
          (.block (by simp [hname, hruntime, houtput]) hanswer (by simp))) (by simp)
  | serverStream =>
    exact oneLines_handOn h (oneLine_head h (by simp)
      (by simp [hmessage, hoptional]) (by simp [hruntime, houtput])) (by simp)
  | clientStream =>
    exact oneLines_handOn h (oneLine_head h (by simp) hcallback (by simp [hruntime, hinput]))
      (by simp)
  | bidirectional =>
    exact oneLines_handOn h (oneLine_head h (by simp) hoptional
      (by simp [hruntime, hinput, houtput])) (by simp)

end NodeClient

theorem oneLines_nodeClient {c : ClientStub} (h : ∀ text ∈ c.strings, OneLine text) :
    OneLines (NodeClient.lines c) := by
  rw [ClientStub.strings, List.forall_mem_append] at h
  obtain ⟨hnames, hservice⟩ := h
  simp only [List.forall_mem_cons] at hnames
  obtain ⟨hname, hruntime, hserver, -⟩ := hnames
  have hconstructor : OneLines (NodeClient.constructor c.runtime) :=
    .block (by simp [hruntime]) (.cons (by simp) .nil) (by simp)
  have hmethods : OneLines
      (c.service.methods.flatMap (NodeClient.method c.runtime c.unaryPromise)) :=
    .flatMap fun m hm =>
      NodeClient.oneLines_method hruntime (oneLine_serviceMethod hservice hm) c.unaryPromise
  exact .append (.deprecation c.service.deprecated)
    (.block (by simp [hname, hruntime, hserver, oneLine_quote]) (.append hconstructor hmethods)
      (by simp))

/-! ### Browser clients -/

namespace WebClient

variable {runtime client : String} {m : Method} (hruntime : OneLine runtime)
  (hclient : OneLine client) (h : ∀ text ∈ m.strings, OneLine text)

include hruntime in
theorem oneLine_call {c : Call} (hc : call? runtime m = some c) :
    OneLine c.methodType ∧ OneLine c.function ∧ OneLine c.interface ∧ OneLine c.metadata := by
  unfold call? at hc
  cases hshape : m.callShape with
  | unary | serverStream =>
    rw [hshape] at hc
    obtain rfl := Option.some.inj hc
    simp [hruntime]
  | clientStream | bidirectional =>
    rw [hshape] at hc
    cases hc

include hruntime hclient h

theorem oneLines_method : OneLines (method runtime client m) := by
  have hname := oneLine_methodName h
  have hinput := oneLine_inputType h
  have houtput := oneLine_outputType h
  unfold method
  cases hc : call? runtime m with
  | none =>
    exact .append (.deprecation m.deprecated) (.block (by simp [hname])
      (.cons (by simp [oneLine_quote]) .nil) (by simp))
  | some c =>
    obtain ⟨htype, hfunction, hinterface, hmetadata⟩ := oneLine_call hruntime hc
    have hdescriptor : OneLine (descriptor runtime m c).text := by
      simp [descriptor, line, hname, hruntime, oneLine_quote, htype, hinput, houtput]
    exact .cons hdescriptor (.append (.deprecation m.deprecated)
      (.block (by simp [hname, hinterface, hinput, houtput, hmetadata])
        (.cons (by simp [hfunction, oneLine_quote, hclient, hname]) .nil) (by simp)))

end WebClient

theorem oneLines_webClient {c : ClientStub} (h : ∀ text ∈ c.strings, OneLine text) :
    OneLines (WebClient.lines c) := by
  rw [ClientStub.strings, List.forall_mem_append] at h
  obtain ⟨hnames, hservice⟩ := h
  simp only [List.forall_mem_cons] at hnames
  obtain ⟨hname, hruntime, -, -⟩ := hnames
  have hconstructor : OneLines (WebClient.constructor c.runtime) :=
    .block (by simp [hruntime]) (.append (.guarded (by simp) (by simp))
      (.cons (by simp) (.cons (by simp) (.cons (by simp [hruntime]) .nil)))) (by simp)
  have hmethods : OneLines (c.service.methods.flatMap (WebClient.method c.runtime c.name)) :=
    .flatMap fun m hm =>
      WebClient.oneLines_method hruntime hname (oneLine_serviceMethod hservice hm)
  exact .append (.deprecation c.service.deprecated) (.block (by simp [hname])
    (.append (.append (.cons (by simp) (.cons (by simp [hruntime]) .nil)) hconstructor) hmethods)
    (by simp))

/-! ### Declarations -/

mutual

/-- The lines of a declaration are as its strings are: without line feeds. -/
theorem oneLines_declaration : ∀ {d : Declaration}, (∀ text ∈ d.strings, OneLine text) →
    OneLines (declaration d)
  | .enumeration e, h => oneLines_enumeration h
  | .message m nested, h => by
    rw [Declaration.strings, List.forall_mem_append] at h
    have hnested := oneLines_declarations h.2
    cases nested with
    | nil =>
      rw [declaration]
      exact .append (oneLines_messageClass h.1) .nil
    | cons first rest =>
      rw [declarations] at hnested
      rw [declaration]
      exact .append (oneLines_messageClass h.1)
        (.block (by simp [oneLine_className h.1]) hnested (by simp))
  | .namespaceBlock name body, h => by
    rw [Declaration.strings, List.forall_mem_cons] at h
    exact .block (by simp [h.1]) (oneLines_declarations h.2) (by simp)
  | .rpcInterfaces target runtime, h =>
    oneLines_rpcInterfaces target (List.forall_mem_singleton.1 h)
  | .server s, h => oneLines_serverStub h
  | .client c, h => by
    rw [declaration]
    cases c.target with
    | node => exact oneLines_nodeClient h
    | web => exact oneLines_webClient h

theorem oneLines_declarations : ∀ {ds : List Declaration},
    (∀ text ∈ Declaration.stringsOf ds, OneLine text) → OneLines (declarations ds)
  | [], _ => .nil
  | d :: ds, h => by
    rw [Declaration.stringsOf, List.forall_mem_append] at h
    rw [declarations]
    exact .append (oneLines_declaration h.1) (oneLines_declarations h.2)

end

end Script

end ProtoTypeScript
