import ProtoTypeScript.Proofs.Readings

/-!
# Servers read back

The text of a server stub has the definition of its service and a handler for each method.

* `readDefinition?` reads an entry of a definition: the name of the method, its path and its flags;
* `readHandler?` reads a handler: the name of the method, the type of its call, and whether it
  replies on the call or to a callback;
* `readings_definition` and `readings_handlers`: these are the methods of the service, in order.
-/

namespace ProtoTypeScript

namespace Script

/-- The method can be read back: its name is an identifier, its path needs no escapes, and its types
are on one line. -/
structure ReadableMethod (m : Method) : Prop where
  name : IsIdentifier m.name
  path : ∀ c ∈ m.path.toList, isPlain c = true
  input : OneLine m.inputType
  output : OneLine m.outputType

/-- The service can be read back. -/
structure ReadableService (s : Service) : Prop where
  name : IsIdentifier s.name
  methods : ∀ m ∈ s.methods, ReadableMethod m

theorem ReadableService.strings {s : Service} (h : ReadableService s) :
    ∀ text ∈ s.strings, OneLine text := by
  rw [Service.strings, List.forall_mem_cons, List.forall_mem_flatMap]
  refine ⟨h.name.oneLine, fun m hm => ?_⟩
  have hread := h.methods m hm
  have hpath : OneLine m.path := fun hmem => absurd (hread.path _ hmem) (by decide)
  rw [Method.strings, List.forall_mem_cons, List.forall_mem_cons, List.forall_mem_cons,
    List.forall_mem_singleton]
  exact ⟨hread.name.oneLine, hpath, hread.input, hread.output⟩

/-- The marks by which entries and handlers are known. -/
def serverMarks : List String :=
  [": \x7b", "(call: "]

theorem passed_close : ∀ text ∈ ["\x7d"], Passed serverMarks text :=
  List.forall_mem_singleton.2 (Front.Fits.self.passed (by decide))

/-! ### Definitions -/

/-- An entry in the definition of a service. -/
structure DefinitionEntry where
  name : String
  path : String
  requestStream : Bool
  responseStream : Bool
  deriving DecidableEq, Repr

/-- The entry of a method. -/
def DefinitionEntry.ofMethod (m : Method) : DefinitionEntry :=
  ⟨m.name, m.path, m.clientStreaming, m.serverStreaming⟩

/-- The flag that a statement sets. -/
def readFlag? (key statement : String) : Option Bool :=
  if statement = key ++ "true," then some true
  else if statement = key ++ "false," then some false
  else none

/-- The path that a statement sets. -/
def readPath? (statement : String) : Option String := do
  let rest ← "path: ".toList.isPrefixOf? statement.toList
  let (path, rest) ← takeText rest
  if rest = ",".toList then some path else none

/-- The entry that a statement begins. -/
def readDefinition? (head : String) (body : List String) : Option DefinitionEntry := do
  let (name, _) ← readHead? ": \x7b" head
  match body with
  | path :: request :: response :: _ => do
    let path ← readPath? path
    let requestStream ← readFlag? "requestStream: " request
    let responseStream ← readFlag? "responseStream: " response
    return ⟨name, path, requestStream, responseStream⟩
  | _ => none

theorem beginsAt_readDefinition? : BeginsAt ": \x7b" readDefinition? := by
  intro statement h rest
  rw [readDefinition?, h]
  rfl

theorem readFlag?_boolLiteral (key : String) (b : Bool) :
    readFlag? key (key ++ boolLiteral b ++ ",") = some b := by
  rw [String.append_assoc, readFlag?]
  cases b with
  | true => exact if_pos rfl
  | false =>
    have hne : key ++ (boolLiteral false ++ ",") ≠ key ++ "true," := by
      rw [Ne, String.append_right_inj]
      decide
    rw [if_neg hne]
    exact if_pos rfl

theorem readPath?_quote {path : String} (h : ∀ c ∈ path.toList, isPlain c = true) :
    readPath? ("path: " ++ Text.quote path ++ ",") = some path := by
  have htext : ("path: " ++ Text.quote path ++ ",").toList = "path: ".toList ++
      ("\"".toList ++ (path.toList ++ ("\"".toList ++ ",".toList))) := by
    rw [quote_of_isPlain h]
    simp
  rw [readPath?, htext, isPrefixOf?_append]
  simp only [Option.bind_eq_bind, Option.bind_some, takeText_append h]
  rfl

theorem readDefinition?_eq_some {head name path request response text : String} {rest : List Char}
    {requestStream responseStream : Bool} (hhead : readHead? ": \x7b" head = some (name, rest))
    (hpath : readPath? path = some text)
    (hrequest : readFlag? "requestStream: " request = some requestStream)
    (hresponse : readFlag? "responseStream: " response = some responseStream)
    (body : List String) : readDefinition? head (path :: request :: response :: body) =
      some ⟨name, text, requestStream, responseStream⟩ := by
  rw [readDefinition?, hhead]
  simp only [Option.bind_eq_bind, Option.bind_some, hpath, hrequest, hresponse]
  rfl

section Methods

variable {m : Method} (h : ReadableMethod m)

/-- The texts of an entry after its head. -/
def entryBody (m : Method) (separator : String) : List String :=
  ["path: " ++ Text.quote m.path ++ ",",
    "requestStream: " ++ boolLiteral m.clientStreaming ++ ",",
    "responseStream: " ++ boolLiteral m.serverStreaming ++ ",",
    "requestSerialize: " ++ bufferWriter m.inputType ++ ",",
    "requestDeserialize: " ++ bufferReader m.inputType ++ ",",
    "responseSerialize: " ++ bufferWriter m.outputType ++ ",",
    "responseDeserialize: " ++ bufferReader m.outputType, "\x7d" ++ separator]

theorem texts_definitionEntry (m : Method) (separator : String) :
    texts (definitionEntry m separator) = (m.name ++ ": \x7b") :: entryBody m separator := by
  rw [definitionEntry, texts_block, texts, List.map_map]
  rfl

include h

/-- Only the first line of an entry begins something. -/
theorem passed_entryBody (separator : String) :
    ∀ text ∈ entryBody m separator, Passed serverMarks text := by
  have hflag : ∀ b, Passed serverMarks ("requestStream: " ++ boolLiteral b ++ ",") ∧
      Passed serverMarks ("responseStream: " ++ boolLiteral b ++ ",") := by
    intro b
    cases b with
    | true =>
      exact ⟨(Front.Fits.self.prepend.append ",").passed (by decide),
        (Front.Fits.self.prepend.append ",").passed (by decide)⟩
    | false =>
      exact ⟨(Front.Fits.self.prepend.append ",").passed (by decide),
        (Front.Fits.self.prepend.append ",").passed (by decide)⟩
  have hwriter : ∀ type, (Front.literal _).Fits (bufferWriter type) :=
    fun type => (Front.Fits.self.append type).append _
  have hreader : ∀ type, (Front.literal _).Fits (bufferReader type) :=
    fun type => (Front.Fits.self.append type).append _
  have hpath : (Front.literal ['"']).Fits (Text.quote m.path) := by
    rw [quote_of_isPlain h.path]
    exact (Front.Fits.self.append _).append _
  rw [entryBody, List.forall_mem_cons, List.forall_mem_cons, List.forall_mem_cons,
    List.forall_mem_cons, List.forall_mem_cons, List.forall_mem_cons, List.forall_mem_cons,
    List.forall_mem_singleton]
  exact ⟨(hpath.prepend.append ",").passed (by decide),
    (hflag _).1, (hflag _).2,
    ((hwriter _).prepend.append ",").passed (by decide),
    ((hreader _).prepend.append ",").passed (by decide),
    ((hwriter _).prepend.append ",").passed (by decide),
    (hreader _).prepend.passed (by decide),
    (Front.Fits.self.append separator).passed (by decide)⟩

theorem readings_definitionEntry (separator : String) (rest : List String) :
    readings readDefinition? (texts (definitionEntry m separator) ++ rest) =
      .ofMethod m :: readings readDefinition? rest := by
  have hhead : readHead? ": \x7b" (m.name ++ ": \x7b") = some (m.name, []) :=
    readHead?_self h.name (by decide) (by decide)
  rw [texts_definitionEntry]
  refine readings_construct beginsAt_readDefinition? ?_ List.mem_cons_self
    (passed_entryBody h separator)
  exact readDefinition?_eq_some hhead (readPath?_quote h.path) (readFlag?_boolLiteral _ _)
    (readFlag?_boolLiteral _ _) _

end Methods

/-- A definition is read as the methods of the service. -/
theorem readings_definitionEntries {ms : List Method} (h : ∀ m ∈ ms, ReadableMethod m)
    (rest : List String) : readings readDefinition? (texts (definitionEntries ms) ++ rest) =
      ms.map .ofMethod ++ readings readDefinition? rest := by
  fun_induction definitionEntries ms with
  | case1 => rfl
  | case2 m =>
    rw [List.forall_mem_singleton] at h
    exact readings_definitionEntry h "" rest
  | case3 m next ms ih =>
    rw [List.forall_mem_cons] at h
    rw [texts_append, List.append_assoc, readings_definitionEntry h.1, ih h.2]
    rfl

/-! ### Handlers -/

/-- A handler: the type of its call, and whether it replies on the call. -/
structure HandlerReading where
  name : String
  callType : String
  emits : Bool
  deriving DecidableEq, Repr

/-- The type of the call of a handler. -/
def serverCallType : CallShape → String
  | .unary => "ServerUnaryCall"
  | .serverStream => "ServerWritableStream"
  | .clientStream => "ServerReadableStream"
  | .bidirectional => "ServerDuplexStream"

/-- The handler of a method. -/
def HandlerReading.ofMethod (m : Method) : HandlerReading :=
  ⟨m.name, serverCallType m.callShape, m.serverStreaming⟩

/-- Whether a statement replies on the call rather than to a callback. -/
def readReply? (statement : String) : Option Bool :=
  match "call.emit(".toList.isPrefixOf? statement.toList with
  | some _ => some true
  | none => ("callback(".toList.isPrefixOf? statement.toList).map fun _ => false

/-- The type of a call, after the identifier of the runtime. -/
def readCallType? (cs : List Char) : Option String := do
  let rest ← ".".toList.isPrefixOf? (takeName cs).2
  return (takeName rest).1

/-- The handler that a statement begins. -/
def readHandler? (head : String) (body : List String) : Option HandlerReading := do
  let (name, rest) ← readHead? "(call: " head
  let callType ← readCallType? rest
  match body with
  | statement :: close :: _ =>
    if close = "\x7d" then do
      let emits ← readReply? statement
      return ⟨name, callType, emits⟩
    else none
  | _ => none

theorem beginsAt_readHandler? : BeginsAt "(call: " readHandler? := by
  intro statement h rest
  rw [readHandler?, h]
  rfl

/-- The parameters of a handler start with its call. -/
theorem handlerParameters_eq (runtime : String) (m : Method) : ∃ rest,
    handlerParameters runtime m =
      "call: " ++ runtime ++ "." ++ serverCallType m.callShape ++ "<" ++ rest := by
  have hcallback : ∀ callType, ∃ rest, "call: " ++ runtime ++ ("." ++ callType) ++
      ("<" ++ m.inputType ++ ", " ++ m.outputType ++ ">") ++
        (", callback: " ++ runtime ++ ".sendUnaryData<" ++ m.outputType ++ ">") =
      "call: " ++ runtime ++ "." ++ callType ++ "<" ++ rest := by
    intro callType
    refine ⟨m.inputType ++ ", " ++ m.outputType ++ ">" ++
      (", callback: " ++ runtime ++ ".sendUnaryData<" ++ m.outputType ++ ">"), ?_⟩
    rw [← String.toList_inj]
    simp
  have hstream : ∀ callType, ∃ rest, "call: " ++ runtime ++ ("." ++ callType) ++
      ("<" ++ m.inputType ++ ", " ++ m.outputType ++ ">") =
      "call: " ++ runtime ++ "." ++ callType ++ "<" ++ rest := by
    intro callType
    refine ⟨m.inputType ++ ", " ++ m.outputType ++ ">", ?_⟩
    rw [← String.toList_inj]
    simp
  unfold handlerParameters
  cases m.callShape with
  | unary => exact hcallback "ServerUnaryCall"
  | serverStream => exact hstream "ServerWritableStream"
  | clientStream => exact hcallback "ServerReadableStream"
  | bidirectional => exact hstream "ServerDuplexStream"

theorem readCallType?_eq {runtime callType : String} (hruntime : IsIdentifier runtime)
    (hcallType : IsIdentifier callType) (rest : List Char) : readCallType?
      (runtime.toList ++ (".".toList ++ (callType.toList ++ ("<".toList ++ rest)))) =
      some callType := by
  have hstop : ("<".toList ++ rest).head?.any isNameChar = false := rfl
  rw [readCallType?, takeName_append hruntime rfl, isPrefixOf?_append]
  simp only [Option.bind_eq_bind, Option.bind_some, takeName_append hcallType hstop]
  rfl

theorem passed_handlerStatement (runtime : String) (m : Method) :
    Passed serverMarks (handlerStatement runtime m) := by
  have hstatus : (Front.literal _).Fits (unimplementedStatus runtime m) :=
    (((Front.Fits.self.append _).append _).append _).append _
  unfold handlerStatement
  dsimp only
  split_ifs
  · exact ((Front.Fits.self.append _).append _).passed (by decide)
  · exact (hstatus.prepend.append _).passed (by decide)

theorem readReply?_handlerStatement (runtime : String) (m : Method) :
    readReply? (handlerStatement runtime m) = some m.serverStreaming := by
  unfold handlerStatement
  dsimp only
  split_ifs with hstream
  · have htext : ("call.emit(\"error\", " ++ unimplementedStatus runtime m ++ ");").toList =
        "call.emit(".toList ++ ("\"error\", ".toList ++
          ((unimplementedStatus runtime m).toList ++ ");".toList)) := by
      simp
    rw [readReply?, htext, isPrefixOf?_append, hstream]
  · have hapart : Apart "call.emit(" "callback(" := by decide
    rw [readReply?, String.append_assoc, isPrefixOf?_eq_none_of_apart hapart, String.toList_append,
      isPrefixOf?_append, Bool.eq_false_iff.2 hstream]
    rfl

theorem readHandler?_handler {runtime : String} {m : Method} (hruntime : IsIdentifier runtime)
    (h : ReadableMethod m) (rest : List String) :
    readHandler? (m.name ++ "(" ++ handlerParameters runtime m ++ "): void \x7b")
      (handlerStatement runtime m :: "\x7d" :: rest) = some (.ofMethod m) := by
  have hcallType : IsIdentifier (serverCallType m.callShape) := by
    cases m.callShape <;> exact isIdentifier_literal (by decide)
  obtain ⟨more, hparameters⟩ := handlerParameters_eq runtime m
  have htext : m.name ++ "(" ++ handlerParameters runtime m ++ "): void \x7b" = m.name ++
      ("(call: " ++ (runtime ++ ("." ++ (serverCallType m.callShape ++
        ("<" ++ (more ++ "): void \x7b")))))) := by
    rw [hparameters, ← String.toList_inj]
    simp
  rw [htext, readHandler?, readHead?_append h.name (by decide) (by decide)]
  simp only [Option.bind_eq_bind, Option.bind_some, String.toList_append,
    readCallType?_eq hruntime hcallType, readReply?_handlerStatement]
  rfl

/-- The lines after the head of a handler begin nothing, and neither does a comment before it. -/
theorem readings_handler {runtime : String} {m : Method} (hruntime : IsIdentifier runtime)
    (h : ReadableMethod m) (rest : List String) :
    readings readHandler? (texts (handler runtime m) ++ rest) =
      .ofMethod m :: readings readHandler? rest := by
  have hcomment : Passed serverMarks "/** @deprecated */" :=
    Front.Fits.self.passed (by decide)
  have hbody : ∀ text ∈ [handlerStatement runtime m, "\x7d"], Passed serverMarks text :=
    List.forall_mem_cons.2 ⟨passed_handlerStatement runtime m, passed_close⟩
  have hmark : "(call: " ∈ serverMarks := by decide
  have hread : readHandler? (m.name ++ "(" ++ handlerParameters runtime m ++ "): void \x7b")
      ([handlerStatement runtime m, "\x7d"] ++ rest) = some (.ofMethod m) :=
    readHandler?_handler hruntime h rest
  rw [handler, texts_append, List.append_assoc,
    readings_append_of_passed beginsAt_readHandler? hmark
      (Every.deprecation hcomment m.deprecated), texts_block]
  exact readings_construct beginsAt_readHandler? hread hmark hbody

/-! ### Servers -/

/-- No line of a definition begins a handler. -/
theorem passed_definitionEntries {ms : List Method} (h : ∀ m ∈ ms, ReadableMethod m) :
    Every (Passed ["(call: "]) (definitionEntries ms) := by
  have hentry : ∀ {m}, ReadableMethod m → ∀ separator,
      Every (Passed ["(call: "]) (definitionEntry m separator) := by
    intro m hm separator
    rw [Every, texts_definitionEntry, List.forall_mem_cons]
    refine ⟨(Front.Fits.named hm.name).passed (by decide), fun text htext => ?_⟩
    exact (passed_entryBody hm separator text htext).mono (by decide)
  fun_induction definitionEntries ms with
  | case1 => exact .nil
  | case2 m => exact hentry (List.forall_mem_singleton.1 h) ""
  | case3 m next ms ih =>
    rw [List.forall_mem_cons] at h
    exact .append (hentry h.1 ",") (ih h.2)

/-- No line of a handler begins an entry. -/
theorem passed_handler (runtime : String) {m : Method} (h : ReadableMethod m) :
    Every (Passed [": \x7b"]) (handler runtime m) := by
  have hstatement := passed_handlerStatement runtime m
  exact .append (.deprecation (Front.Fits.self.passed (by decide)) _)
    (.block ((((Front.Fits.named h.name).append _).append _).passed (by decide))
      (.cons (hstatement.mono (by decide)) .nil)
      (Front.Fits.self.passed (by decide)))

section Stub

variable {s : ServerStub} (hruntime : IsIdentifier s.runtime) (h : ReadableService s.service)

theorem texts_serverStub (s : ServerStub) : texts (serverStub s) =
    (texts (deprecation s.service.deprecated) ++
      ["export class " ++ s.name ++ " \x7b", "static definition = \x7b"]) ++
    (texts (definitionEntries s.service.methods) ++
      (["\x7d;", "[method: string]: " ++ s.runtime ++ ".UntypedHandleCall;"] ++
        (s.service.methods.flatMap (fun m => texts (handler s.runtime m)) ++ ["\x7d"]))) := by
  simp [serverStub, texts_flatMap, line]

/-- The lines of a server before the definition of its methods begin nothing. -/
theorem passed_serverFront (s : ServerStub) : ∀ text ∈ texts (deprecation s.service.deprecated) ++
    ["export class " ++ s.name ++ " \x7b", "static definition = \x7b"],
    Passed serverMarks text := by
  rw [List.forall_mem_append, List.forall_mem_cons, List.forall_mem_singleton]
  exact ⟨Every.deprecation (Front.Fits.self.passed (by decide)) _,
    ((Front.Fits.self.append _).append _).passed (by decide),
    Front.Fits.self.passed (by decide)⟩

/-- The lines between the definition and the handlers begin nothing. -/
theorem passed_serverMiddle (s : ServerStub) :
    ∀ text ∈ ["\x7d;", "[method: string]: " ++ s.runtime ++ ".UntypedHandleCall;"],
      Passed serverMarks text := by
  rw [List.forall_mem_cons, List.forall_mem_singleton]
  exact ⟨Front.Fits.self.passed (by decide),
    ((Front.Fits.self.append _).append _).passed (by decide)⟩

include h

/-- The definition of a service has one entry for each method. -/
theorem readings_definition :
    readings readDefinition? (texts (serverStub s)) = s.service.methods.map .ofMethod := by
  have hmark : ": \x7b" ∈ serverMarks := by decide
  have hhandlers : ∀ text ∈ s.service.methods.flatMap (fun m => texts (handler s.runtime m)),
      Passed [": \x7b"] text :=
    List.forall_mem_flatMap.2 fun m hm => passed_handler s.runtime (h.methods m hm)
  rw [texts_serverStub,
    readings_append_of_passed beginsAt_readDefinition? hmark (passed_serverFront s),
    readings_definitionEntries h.methods,
    readings_append_of_passed beginsAt_readDefinition? hmark (passed_serverMiddle s),
    readings_append_of_passed beginsAt_readDefinition? (List.mem_singleton_self _) hhandlers,
    readings_of_passed beginsAt_readDefinition? hmark passed_close, List.append_nil]

/-- No line of a server starts with a space. -/
theorem starts_serverStub : Every Starts (serverStub s) := by
  rw [Every, texts_serverStub]
  refine List.forall_mem_append.2 ⟨fun text htext => (passed_serverFront s text htext).starts,
    List.forall_mem_append.2 ⟨fun text htext =>
      (passed_definitionEntries h.methods text htext).starts,
    List.forall_mem_append.2 ⟨fun text htext => (passed_serverMiddle s text htext).starts,
    List.forall_mem_append.2 ⟨?_, fun text htext => (passed_close text htext).starts⟩⟩⟩⟩
  rw [List.forall_mem_flatMap]
  exact fun m hm text htext => (passed_handler s.runtime (h.methods m hm) text htext).starts

include hruntime

/-- A server has one handler for each method. -/
theorem readings_handlers :
    readings readHandler? (texts (serverStub s)) = s.service.methods.map .ofMethod := by
  have hmark : "(call: " ∈ serverMarks := by decide
  rw [texts_serverStub,
    readings_append_of_passed beginsAt_readHandler? hmark (passed_serverFront s),
    readings_append_of_passed beginsAt_readHandler? (List.mem_singleton_self _)
      (passed_definitionEntries h.methods),
    readings_append_of_passed beginsAt_readHandler? hmark (passed_serverMiddle s),
    readings_flatMap (g := fun m => [HandlerReading.ofMethod m])
      fun m hm rest => readings_handler hruntime (h.methods m hm) rest,
    readings_of_passed beginsAt_readHandler? hmark passed_close, List.append_nil,
    List.map_eq_flatMap]

end Stub

end Script

end ProtoTypeScript
