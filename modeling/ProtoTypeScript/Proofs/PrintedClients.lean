import ProtoTypeScript.Proofs.PrintedServers

/-!
# Clients read back

A client has members for the methods of its service.

* `readMember?` reads a member of a Node.js client: its name, its interface, and the methods of the
  underlying client that it calls;
* `readDescriptor?` reads the descriptor of a method in a browser client, `readFunction?` the
  function that makes the call, and `readUnsupported?` the member of a method that is not to be had;
* `readings_nodeMembers`: a Node.js client has one member for each method;
* `readings_webDescriptors`, `readings_webFunctions` and `readings_webUnsupported`: a browser client
  has a descriptor and a function for each method whose request is no stream, and a member that
  throws for each other.
-/

namespace ProtoTypeScript

namespace Script

/-- The marks by which members of clients are known. -/
def clientMarks : List String :=
  [" static ", ": ", "(): never \x7b"]

theorem passed_deprecation (deprecated : Bool) :
    Every (Passed clientMarks) (deprecation deprecated) :=
  .deprecation (Front.Fits.self.passed (by decide)) deprecated

theorem passed_memberClose : Passed clientMarks "\x7d;" :=
  Front.Fits.self.passed (by decide)

theorem passed_clientClose : Passed clientMarks "\x7d" :=
  Front.Fits.self.passed (by decide)

/-! ### Members of Node.js clients -/

/-- A member of a Node.js client. -/
structure MemberReading where
  name : String
  interface : String
  /-- The methods of the underlying client that it calls. -/
  calls : List String
  deriving DecidableEq, Repr

/-- The interface of the calls of a method. -/
def nodeInterface (unaryPromise : Bool) : CallShape → String
  | .unary => if unaryPromise then "GrpcPromiseServiceInterface" else "GrpcUnaryServiceInterface"
  | .serverStream => "GrpcStreamServiceInterface"
  | .clientStream => "GrpcWritableServiceInterface"
  | .bidirectional => "GrpcChunkServiceInterface"

/-- The member of a method. -/
def MemberReading.ofMethod (unaryPromise : Bool) (m : Method) : MemberReading :=
  ⟨m.name, nodeInterface unaryPromise m.callShape, [m.name]⟩

/-- The method of the underlying client that a statement returns a call of, or a promise of it. -/
def readSuperCall? (statement : String) : Option String := do
  let rest ← "return ".toList.isPrefixOf? statement.toList
  match "super.".toList.isPrefixOf? rest with
  | some rest => some (takeName rest).1
  | none =>
    let rest ← "new Promise((resolve, reject) => super.".toList.isPrefixOf? rest
    some (takeName rest).1

/-- The member that a statement begins. -/
def readMember? (head : String) (body : List String) : Option MemberReading := do
  let (name, rest) ← readHead? ": " head
  return ⟨name, (takeName rest).1, (body.takeWhile (· ≠ "\x7d;")).filterMap readSuperCall?⟩

theorem beginsAt_readMember? : BeginsAt ": " readMember? := by
  intro statement h rest
  rw [readMember?, h]
  rfl

theorem readSuperCall?_eq_none {cs : List Char} (h : Differ "return ".toList cs) (rest : String) :
    readSuperCall? (String.ofList cs ++ rest) = none := by
  have htext : (String.ofList cs ++ rest).toList = cs ++ rest.toList := by
    rw [String.toList_append, String.toList_ofList]
  rw [readSuperCall?, htext, isPrefixOf?_eq_none_of_differ h]
  rfl

theorem readSuperCall?_return {name : String} (h : IsIdentifier name) (rest : String) :
    readSuperCall? ("return " ++ ("super." ++ (name ++ ("(" ++ rest)))) = some name := by
  rw [readSuperCall?, String.toList_append, isPrefixOf?_append]
  simp only [Option.bind_eq_bind, Option.bind_some, String.toList_append, isPrefixOf?_append]
  rw [takeName_append h rfl]

theorem readSuperCall?_promise {name : String} (h : IsIdentifier name) (rest : String) :
    readSuperCall? ("return " ++ ("new Promise((resolve, reject) => super." ++
      (name ++ ("(" ++ rest)))) = some name := by
  have hapart : Apart "super." "new Promise((resolve, reject) => super." :=
    apart_iff.2 (by decide)
  rw [readSuperCall?, String.toList_append, isPrefixOf?_append]
  simp only [Option.bind_eq_bind, Option.bind_some]
  rw [isPrefixOf?_eq_none_of_apart hapart]
  simp only [String.toList_append, isPrefixOf?_append, Option.bind_some]
  rw [takeName_append h rfl]

/-- A text that goes on otherwise than another is not the other. -/
theorem ne_of_differ {text : String} {cs : List Char} (h : Differ text.toList cs) (rest : String) :
    String.ofList cs ++ rest ≠ text := by
  intro heq
  have hnone := isPrefixOf?_eq_none_of_differ h rest.toList
  have hself := isPrefixOf?_append text.toList []
  have hlist : cs ++ rest.toList = text.toList := by
    rw [← heq, String.toList_append, String.toList_ofList]
  rw [List.append_nil, ← hlist, hlist] at hself
  rw [hlist, hself] at hnone
  cases hnone

namespace NodeClient

variable {m : Method}

/-- A statement within a member: it begins no member, and it does not end this one. -/
structure Inside (text : String) : Prop where
  passed : Passed clientMarks text
  ne_close : text ≠ "\x7d;"

/-- A statement within a member that calls nothing. -/
structure Idle (text : String) : Prop extends Inside text where
  call : readSuperCall? text = none

theorem idle_of_fits {cs : List Char} {text : String} (h : (Front.literal cs).Fits text)
    (hfront : (Front.literal cs).Starts ∧ ∀ mark ∈ clientMarks, (Front.literal cs).Unlike mark)
    (hdiffer : Differ "\x7d;".toList cs ∧ Differ "return ".toList cs) : Idle text := by
  have hpassed := h.passed hfront
  obtain ⟨rest, rfl⟩ := h
  exact { passed := hpassed
          ne_close := ne_of_differ hdiffer.1 rest
          call := readSuperCall?_eq_none hdiffer.2 rest }

theorem idle_close : Idle "\x7d" where
  passed := passed_clientClose
  ne_close := by decide
  call := rfl

/-- The lines are a member for the method: a head, and a body that calls the method of the
underlying client. -/
def IsMember (unaryPromise : Bool) (m : Method) (lines : List Line) : Prop :=
  ∃ parameters result body,
    texts lines = head m (nodeInterface unaryPromise m.callShape) parameters result ::
      (body ++ ["\x7d;"]) ∧
    (∀ text ∈ body, Inside text) ∧ body.filterMap readSuperCall? = [m.name]

theorem isMember_handOn (h : IsIdentifier m.name) {unaryPromise : Bool} {interface : String}
    (hinterface : nodeInterface unaryPromise m.callShape = interface)
    (parameters result arguments : String) : IsMember unaryPromise m
      (block (head m interface parameters result) (handOn m arguments) "\x7d;") := by
  have hstatement : "return super." ++ m.name ++ "(" ++ arguments ++ ");" =
      "return " ++ ("super." ++ (m.name ++ ("(" ++ (arguments ++ ");")))) := by
    rw [← String.toList_inj]
    simp
  refine ⟨parameters, result, ["return super." ++ m.name ++ "(" ++ arguments ++ ");"], ?_, ?_, ?_⟩
  · rw [texts_block, hinterface]
    rfl
  · have hpassed : Passed clientMarks ("return super." ++ m.name ++ "(" ++ arguments ++ ");") :=
      ((((Front.Fits.self.append _).append _).append _).append _).passed (by decide)
    exact List.forall_mem_singleton.2 ⟨hpassed, hstatement ▸ ne_of_differ (by decide) _⟩
  · rw [hstatement, List.filterMap_cons_some (readSuperCall?_return h _), List.filterMap_nil]

/-- The statement that makes a promise. -/
def promiseStatement (runtime : String) (m : Method) : String :=
  "return new Promise((resolve, reject) => super." ++ m.name ++
    "(message, metadata, options, (error: " ++ runtime ++ ".ServiceError, response: " ++
    m.outputType ++ ") => \x7b"

/-- The statements before that. -/
def promiseBefore (runtime : String) : List String :=
  ["if (!metadata) \x7b", "metadata = new " ++ runtime ++ ".Metadata;", "\x7d",
    "if (!options) \x7b", "options = \x7b\x7d;", "\x7d"]

/-- The statements that settle the promise. -/
def promiseAfter : List String :=
  ["if (error) \x7b", "reject(error);", "\x7d", "else \x7b", "resolve(response);", "\x7d",
    "\x7d));"]

theorem idle_promiseBefore (runtime : String) : ∀ text ∈ promiseBefore runtime, Idle text := by
  have hmetadata : (Front.literal _).Fits
      ("metadata = new " ++ runtime ++ ".Metadata;") :=
    (Front.Fits.self.append runtime).append _
  rw [promiseBefore, List.forall_mem_cons, List.forall_mem_cons, List.forall_mem_cons,
    List.forall_mem_cons, List.forall_mem_cons, List.forall_mem_singleton]
  exact ⟨idle_of_fits .self (by decide) (by decide),
    idle_of_fits hmetadata (by decide) (by decide), idle_close,
    idle_of_fits .self (by decide) (by decide),
    idle_of_fits .self (by decide) (by decide), idle_close⟩

theorem idle_promiseAfter : ∀ text ∈ promiseAfter, Idle text := by
  rw [promiseAfter, List.forall_mem_cons, List.forall_mem_cons, List.forall_mem_cons,
    List.forall_mem_cons, List.forall_mem_cons, List.forall_mem_cons, List.forall_mem_singleton]
  exact ⟨idle_of_fits .self (by decide) (by decide),
    idle_of_fits .self (by decide) (by decide), idle_close,
    idle_of_fits .self (by decide) (by decide),
    idle_of_fits .self (by decide) (by decide), idle_close,
    idle_of_fits .self (by decide) (by decide)⟩

theorem promiseStatement_eq (runtime : String) (m : Method) : promiseStatement runtime m =
    "return " ++ ("new Promise((resolve, reject) => super." ++ (m.name ++ ("(" ++
      ("message, metadata, options, (error: " ++ runtime ++ ".ServiceError, response: " ++
        m.outputType ++ ") => \x7b")))) := by
  have hstart : "return new Promise((resolve, reject) => super." =
      "return " ++ "new Promise((resolve, reject) => super." := by simp
  have hopen : "(message, metadata, options, (error: " =
      "(" ++ "message, metadata, options, (error: " := by simp
  unfold promiseStatement
  rw [hstart, hopen, ← String.toList_inj]
  simp only [String.toList_append, List.append_assoc]

theorem inside_promiseStatement (runtime : String) (m : Method) :
    Inside (promiseStatement runtime m) := by
  have hpassed : Passed clientMarks (promiseStatement runtime m) :=
    ((((((Front.Fits.self.append _).append _).append _).append _).append _).append _).passed
      (by decide)
  exact ⟨hpassed, promiseStatement_eq runtime m ▸ ne_of_differ (by decide) _⟩

theorem readSuperCall?_promiseStatement (h : IsIdentifier m.name) (runtime : String) :
    readSuperCall? (promiseStatement runtime m) = some m.name := by
  rw [promiseStatement_eq]
  exact readSuperCall?_promise h _

/-- The statement that makes the promise is the only one with a call. -/
theorem isMember_promiseMethod (h : IsIdentifier m.name) (runtime : String)
    (hshape : m.callShape = .unary) : IsMember true m (promiseMethod runtime m) := by
  have hnone : ∀ {statements : List String}, (∀ text ∈ statements, Idle text) →
      statements.filterMap readSuperCall? = [] :=
    fun hidle => List.filterMap_eq_nil_iff.2 fun text htext => (hidle text htext).call
  refine ⟨messageParameter m ++ ", " ++ optionalParameters runtime,
    "Promise<" ++ m.outputType ++ ">",
    promiseBefore runtime ++ promiseStatement runtime m :: promiseAfter, ?_, ?_, ?_⟩
  · rw [promiseMethod, texts_block, hshape]
    rfl
  · rw [List.forall_mem_append, List.forall_mem_cons]
    exact ⟨fun text htext => (idle_promiseBefore runtime text htext).toInside,
      inside_promiseStatement runtime m, fun text htext => (idle_promiseAfter text htext).toInside⟩
  · rw [List.filterMap_append, hnone (idle_promiseBefore runtime), List.nil_append,
      List.filterMap_cons_some (readSuperCall?_promiseStatement h runtime), hnone idle_promiseAfter]

/-- Every shape of call has a member. -/
theorem isMember_method (h : IsIdentifier m.name) (runtime : String) (unaryPromise : Bool) :
    ∃ lines, method runtime unaryPromise m = deprecation m.deprecated ++ lines ∧
      IsMember unaryPromise m lines := by
  refine ⟨_, rfl, ?_⟩
  cases hshape : m.callShape with
  | unary =>
    cases unaryPromise with
    | false => exact isMember_handOn h (by rw [hshape]; rfl) _ _ _
    | true => exact isMember_promiseMethod h runtime hshape
  | serverStream | clientStream | bidirectional =>
    exact isMember_handOn h (by rw [hshape]; rfl) _ _ _

/-- A member is read at its head, and nothing else of it begins a member. -/
theorem readings_method (h : IsIdentifier m.name) (runtime : String) (unaryPromise : Bool)
    (rest : List String) :
    readings readMember? (texts (method runtime unaryPromise m) ++ rest) =
      .ofMethod unaryPromise m :: readings readMember? rest := by
  have hmark : ": " ∈ clientMarks := by decide
  have hinterface : IsIdentifier (nodeInterface unaryPromise m.callShape) := by
    cases m.callShape <;> cases unaryPromise <;> exact isIdentifier_literal (by decide)
  obtain ⟨lines, hmethod, parameters, result, body, htexts, hinside, hcalls⟩ :=
    isMember_method h runtime unaryPromise
  have hbody : ∀ text ∈ body ++ ["\x7d;"], Passed clientMarks text := by
    rw [List.forall_mem_append, List.forall_mem_singleton]
    exact ⟨fun text htext => (hinside text htext).passed,
      Front.Fits.self.passed (by decide)⟩
  have hhead : head m (nodeInterface unaryPromise m.callShape) parameters result = m.name ++
      (": " ++ (nodeInterface unaryPromise m.callShape ++ ("<" ++ (m.inputType ++ ", " ++
        m.outputType ++ "> = (" ++ parameters ++ "): " ++ result ++ " => \x7b")))) := by
    rw [head, ← String.toList_inj]
    simp
  -- the reader looks for the calls up to the line that closes the member
  have hread : readMember? (head m (nodeInterface unaryPromise m.callShape) parameters result)
      (body ++ ["\x7d;"] ++ rest) = some (.ofMethod unaryPromise m) := by
    have hwithin : ∀ text ∈ body, decide (text ≠ "\x7d;") = true :=
      fun text htext => decide_eq_true (hinside text htext).ne_close
    rw [hhead, readMember?, readHead?_append h (by decide) (by decide), List.append_assoc,
      List.takeWhile_append_of_pos hwithin, List.singleton_append,
      List.takeWhile_cons_of_neg (by decide), List.append_nil, hcalls, String.toList_append,
      String.toList_append]
    simp only [Option.bind_eq_bind, Option.bind_some]
    rw [takeName_append hinterface rfl]
    rfl
  rw [hmethod, texts_append, List.append_assoc, readings_append_of_passed beginsAt_readMember? hmark
    (passed_deprecation m.deprecated), htexts]
  exact readings_construct beginsAt_readMember? hread hmark hbody

/-- No line of a method starts with a space. -/
theorem starts_method (h : IsIdentifier m.name) (runtime : String) (unaryPromise : Bool) :
    Every Starts (method runtime unaryPromise m) := by
  obtain ⟨lines, hmethod, parameters, result, body, htexts, hinside, -⟩ :=
    isMember_method h runtime unaryPromise
  have hhead : Starts (head m (nodeInterface unaryPromise m.callShape) parameters result) := by
    unfold head
    simp only [String.append_assoc]
    exact (starts_of_isIdentifier h).append _
  rw [hmethod]
  refine .append ((passed_deprecation m.deprecated).mono fun _ => Passed.starts) ?_
  rw [Every, htexts, List.forall_mem_cons, List.forall_mem_append, List.forall_mem_singleton]
  exact ⟨hhead, fun text htext => (hinside text htext).passed.starts,
    passed_memberClose.starts⟩

end NodeClient

section NodeStub

/-- What a Node.js client has before its members. -/
def nodeFront (c : ClientStub) : List Line :=
  deprecation c.service.deprecated ++
    line ("export class " ++ c.name ++ " extends " ++ c.runtime ++
      ".makeGenericClientConstructor(" ++ c.server ++ ".definition, " ++
      Text.quote c.service.name ++ ", \x7b\x7d) \x7b") :: NodeClient.constructor c.runtime

theorem passed_nodeFront (c : ClientStub) : Every (Passed clientMarks) (nodeFront c) := by
  have hhead : (Front.literal _).Fits ("export class " ++ c.name ++ " extends " ++
      c.runtime ++ ".makeGenericClientConstructor(" ++ c.server ++ ".definition, " ++
      Text.quote c.service.name ++ ", \x7b\x7d) \x7b") :=
    ((((((Front.Fits.self.append _).append _).append _).append _).append _).append
      _).append _ |>.append _
  have hconstructor : (Front.literal _).Fits
      ("constructor(address: string, credentials: " ++ c.runtime ++
        ".ChannelCredentials, options?: Partial<" ++ c.runtime ++ ".ChannelOptions>) \x7b") :=
    ((Front.Fits.self.append _).append _).append _
      |>.append _
  exact .append (passed_deprecation _) (.cons (hhead.passed (by decide))
    (.block (hconstructor.passed (by decide))
      (.cons (Front.Fits.self.passed (by decide)) .nil) passed_clientClose))

theorem texts_nodeClient (c : ClientStub) : texts (NodeClient.lines c) = texts (nodeFront c) ++
    (c.service.methods.flatMap (fun m => texts (NodeClient.method c.runtime c.unaryPromise m)) ++
      ["\x7d"]) := by
  rw [NodeClient.lines, nodeFront, texts_append, texts_append, texts_block, texts_append,
    texts_flatMap, texts_cons]
  simp [line]

variable {c : ClientStub} (h : ReadableService c.service)

include h

/-- A Node.js client has one member for each method. -/
theorem readings_nodeMembers : readings readMember? (texts (NodeClient.lines c)) =
    c.service.methods.map (.ofMethod c.unaryPromise) := by
  have hmark : ": " ∈ clientMarks := by decide
  rw [texts_nodeClient, readings_append_of_passed beginsAt_readMember? hmark (passed_nodeFront c),
    readings_flatMap (g := fun m => [MemberReading.ofMethod c.unaryPromise m])
      fun m hm rest => NodeClient.readings_method (h.methods m hm).name _ _ rest,
    readings_of_passed beginsAt_readMember? hmark (List.forall_mem_singleton.2 passed_clientClose),
    List.append_nil, List.map_eq_flatMap]

/-- No line of a Node.js client starts with a space. -/
theorem starts_nodeClient : Every Starts (NodeClient.lines c) := by
  rw [Every, texts_nodeClient]
  refine List.forall_mem_append.2 ⟨fun text htext => (passed_nodeFront c text htext).starts,
    List.forall_mem_append.2 ⟨?_, List.forall_mem_singleton.2 passed_clientClose.starts⟩⟩
  rw [List.forall_mem_flatMap]
  exact fun m hm => NodeClient.starts_method (h.methods m hm).name _ _

end NodeStub

/-! ### Methods of browser clients -/

/-- The descriptor of a method in a browser client. -/
structure DescriptorReading where
  name : String
  path : String
  /-- The kind of its calls. -/
  methodType : String
  deriving DecidableEq, Repr

/-- The kind of calls with one request. -/
def webMethodType (serverStreaming : Bool) : String :=
  if serverStreaming then "SERVER_STREAMING" else "UNARY"

/-- The descriptor of a method whose request is no stream. -/
def DescriptorReading.ofMethod (m : Method) : DescriptorReading :=
  ⟨m.name, m.path, webMethodType m.serverStreaming⟩

/-- The function that makes the calls of a method. -/
structure FunctionReading where
  name : String
  interface : String
  /-- The function of the runtime's client that it calls. -/
  function : String
  path : String
  /-- The class and the name of the descriptor that it calls with. -/
  descriptor : String × String
  deriving DecidableEq, Repr

/-- The interface of calls with one request. -/
def webInterface (serverStreaming : Bool) : String :=
  if serverStreaming then "GrpcWebStreamServiceInterface" else "GrpcWebUnaryServiceInterface"

/-- The function of the runtime's client for calls with one request. -/
def webFunction (serverStreaming : Bool) : String :=
  if serverStreaming then "serverStreaming" else "thenableCall"

/-- The function for a method whose request is no stream. -/
def FunctionReading.ofMethod (client : String) (m : Method) : FunctionReading :=
  ⟨m.name, webInterface m.serverStreaming, webFunction m.serverStreaming, m.path,
    (client, m.name)⟩

/-- The descriptor that a statement makes. -/
def readDescriptor? (head : String) (_ : List String) : Option DescriptorReading := do
  let (_, rest) ← readHead? " static " head
  let (name, rest) := takeName rest
  let rest ← " = new ".toList.isPrefixOf? rest
  let rest ← ".MethodDescriptor(".toList.isPrefixOf? (takeName rest).2
  let (path, rest) ← takeText rest
  let rest ← ", ".toList.isPrefixOf? rest
  let rest ← ".MethodType.".toList.isPrefixOf? (takeName rest).2
  return ⟨name, path, (takeName rest).1⟩

/-- The call that a statement makes: the function, the path, and the descriptor. -/
def readWebCall? (statement : String) : Option (String × String × String × String) := do
  let rest ← "return this._client.".toList.isPrefixOf? statement.toList
  let (function, rest) := takeName rest
  let rest ← "(this._address + ".toList.isPrefixOf? rest
  let (path, rest) ← takeText rest
  let rest ← ", message, metadata || \x7b\x7d, ".toList.isPrefixOf? rest
  let (client, rest) := takeName rest
  let rest ← ".".toList.isPrefixOf? rest
  return (function, path, client, (takeName rest).1)

/-- The function that a statement begins. -/
def readFunction? (head : String) (body : List String) : Option FunctionReading := do
  let (name, rest) ← readHead? ": " head
  let statement ← body.head?
  let (function, path, descriptor) ← readWebCall? statement
  return ⟨name, (takeName rest).1, function, path, descriptor⟩

/-- The name of the method that a statement begins a member for that throws. -/
def readUnsupported? (head : String) (body : List String) : Option String := do
  let (name, _) ← readHead? "(): never \x7b" head
  let statement ← body.head?
  if "throw new Error(".toList.isPrefixOf statement.toList then some name else none

theorem beginsAt_readDescriptor? : BeginsAt " static " readDescriptor? := by
  intro statement h rest
  rw [readDescriptor?, h]
  rfl

theorem beginsAt_readFunction? : BeginsAt ": " readFunction? := by
  intro statement h rest
  rw [readFunction?, h]
  rfl

theorem beginsAt_readUnsupported? : BeginsAt "(): never \x7b" readUnsupported? := by
  intro statement h rest
  rw [readUnsupported?, h]
  rfl

namespace WebClient

variable {runtime client : String} {m : Method}

/-- How the call of a method is made whose request is no stream. -/
def callOf (runtime : String) (m : Method) : Call where
  methodType := webMethodType m.serverStreaming
  function := webFunction m.serverStreaming
  interface := webInterface m.serverStreaming
  metadata := runtime ++ if m.serverStreaming then ".Metadata" else ".Metadata | null"

theorem call?_eq (runtime : String) (m : Method) :
    call? runtime m = if m.clientStreaming then none else some (callOf runtime m) := by
  unfold call? callOf Method.callShape
  cases m.clientStreaming <;> cases m.serverStreaming <;> rfl

/-- The statement that makes a descriptor. -/
def descriptorText (runtime : String) (m : Method) : String :=
  (descriptor runtime m (callOf runtime m)).text

/-- The head of a function that makes a call. -/
def functionHead (runtime : String) (m : Method) : String :=
  m.name ++ ": " ++ (callOf runtime m).interface ++ "<" ++ m.inputType ++ ", " ++ m.outputType ++
    "> = (message: " ++ m.inputType ++ ", metadata?: " ++ (callOf runtime m).metadata ++ ") => \x7b"

theorem functionHead_eq (runtime : String) (m : Method) : functionHead runtime m =
    m.name ++ (": " ++ (webInterface m.serverStreaming ++ ("<" ++ (m.inputType ++ ", " ++
      m.outputType ++ "> = (message: " ++ m.inputType ++ ", metadata?: " ++
        (callOf runtime m).metadata ++ ") => \x7b")))) := by
  unfold functionHead callOf
  rw [← String.toList_inj]
  simp

/-- The statement that makes a call. -/
def callStatement (runtime client : String) (m : Method) : String :=
  "return this._client." ++ (callOf runtime m).function ++ "(this._address + " ++
    Text.quote m.path ++ ", message, metadata || \x7b\x7d, " ++ client ++ "." ++ m.name ++ ");"

/-- The statement that throws. -/
def throwStatement (m : Method) : String :=
  "throw new Error(" ++
    Text.quote (m.path ++ " uses client streaming, which grpc-web does not support") ++ ");"

/-- What a client has for a method whose request is a stream. -/
theorem texts_method_of_clientStreaming (hstream : m.clientStreaming = true) :
    texts (method runtime client m) = texts (deprecation m.deprecated) ++
      (m.name ++ "(): never \x7b") :: [throwStatement m, "\x7d"] := by
  rw [method, call?_eq, if_pos hstream]
  simp only [texts_append, unsupported, texts_block]
  rfl

/-- What a client has for another method. -/
theorem texts_method_of_not_clientStreaming (hstream : m.clientStreaming = false) :
    texts (method runtime client m) = descriptorText runtime m ::
      (texts (deprecation m.deprecated) ++
        functionHead runtime m :: [callStatement runtime client m, "\x7d;"]) := by
  rw [method, call?_eq, if_neg (by simp [hstream])]
  simp only [texts_cons, texts_append, function, texts_block]
  rfl

section

variable (hruntime : IsIdentifier runtime) (h : ReadableMethod m)

/-! #### Statements that begin something else -/

theorem passed_descriptorText (runtime : String) (m : Method) :
    Passed [": ", "(): never \x7b"] (descriptorText runtime m) := by
  unfold descriptorText descriptor line
  simp only [String.append_assoc]
  exact (Front.Fits.self.append _).passed (by decide)

theorem passed_callStatement (runtime client : String) (m : Method) :
    Passed clientMarks (callStatement runtime client m) := by
  unfold callStatement
  simp only [String.append_assoc]
  exact (Front.Fits.self.append _).passed (by decide)

theorem passed_throwStatement (m : Method) : Passed clientMarks (throwStatement m) :=
  ((Front.Fits.self.append _).append _).passed (by decide)

include h

theorem passed_functionHead (runtime : String) :
    Passed [" static ", "(): never \x7b"] (functionHead runtime m) := by
  have hfits : (Front.name _).Fits (functionHead runtime m) :=
    ⟨m.name, _, h.name, functionHead_eq runtime m⟩
  exact hfits.passed (by decide)

theorem passed_unsupportedHead :
    Passed [" static ", ": "] (m.name ++ "(): never \x7b") :=
  (Front.Fits.named h.name).passed (by decide)

theorem quoted_append (rest : String) :
    Text.quote m.path ++ rest = "\"" ++ (m.path ++ ("\"" ++ rest)) := by
  rw [quote_of_isPlain h.path, String.append_assoc, String.append_assoc]

include hruntime

theorem readDescriptor?_descriptor (body : List String) :
    readDescriptor? (descriptorText runtime m) body = some (.ofMethod m) := by
  have htype : IsIdentifier (webMethodType m.serverStreaming) := by
    cases m.serverStreaming <;> exact isIdentifier_literal (by decide)
  -- the text split where the reader splits it: names, fixed parts and the quoted path
  have htext : descriptorText runtime m = "private" ++ (" static " ++
      (m.name ++ (" = new " ++ (runtime ++ (".MethodDescriptor(" ++ (Text.quote m.path ++ (", " ++
        (runtime ++ (".MethodType." ++ (webMethodType m.serverStreaming ++ (", " ++ (m.inputType ++
          ", " ++ m.outputType ++ ", (message: " ++ m.inputType ++ ") => message.serialize(), " ++
            m.outputType ++ ".deserialize);")))))))))))) := by
    unfold descriptorText descriptor callOf line
    rw [← String.toList_inj]
    simp
  rw [htext, quoted_append h, readDescriptor?,
    readHead?_append (isIdentifier_literal (by decide)) (by decide) (by decide)]
  simp only [Option.bind_eq_bind, Option.bind_some, String.toList_append]
  rw [takeName_append h.name rfl]
  simp only [isPrefixOf?_append, Option.bind_some]
  rw [takeName_append hruntime rfl]
  simp only [isPrefixOf?_append, Option.bind_some, takeText_append h.path]
  rw [takeName_append hruntime rfl]
  simp only [isPrefixOf?_append, Option.bind_some]
  rw [takeName_append htype rfl]
  rfl

omit hruntime in
theorem readWebCall?_callStatement (hclient : IsIdentifier client) :
    readWebCall? (callStatement runtime client m) =
      some (webFunction m.serverStreaming, m.path, client, m.name) := by
  have hfunction : IsIdentifier (webFunction m.serverStreaming) := by
    cases m.serverStreaming <;> exact isIdentifier_literal (by decide)
  have htext : callStatement runtime client m = "return this._client." ++
      (webFunction m.serverStreaming ++ ("(this._address + " ++ (Text.quote m.path ++
        (", message, metadata || \x7b\x7d, " ++ (client ++ ("." ++ (m.name ++ ");"))))))) := by
    unfold callStatement callOf
    rw [← String.toList_inj]
    simp
  rw [htext, quoted_append h, readWebCall?]
  simp only [String.toList_append, isPrefixOf?_append, Option.bind_eq_bind, Option.bind_some]
  rw [takeName_append hfunction rfl]
  simp only [isPrefixOf?_append, Option.bind_some, takeText_append h.path]
  rw [takeName_append hclient rfl]
  simp only [isPrefixOf?_append, Option.bind_some]
  rw [takeName_append h.name rfl]
  rfl

omit hruntime in
theorem readFunction?_functionHead (hclient : IsIdentifier client) (rest : List String) :
    readFunction? (functionHead runtime m) (callStatement runtime client m :: rest) =
      some (.ofMethod client m) := by
  have hinterface : IsIdentifier (webInterface m.serverStreaming) := by
    cases m.serverStreaming <;> exact isIdentifier_literal (by decide)
  rw [functionHead_eq, readFunction?, readHead?_append h.name (by decide) (by decide)]
  simp only [Option.bind_eq_bind, Option.bind_some, String.toList_append, List.head?_cons,
    readWebCall?_callStatement h hclient]
  rw [takeName_append hinterface rfl]
  rfl

omit hruntime in
theorem readUnsupported?_unsupportedHead (rest : List String) :
    readUnsupported? (m.name ++ "(): never \x7b") (throwStatement m :: rest) = some m.name := by
  have hhead : readHead? "(): never \x7b" (m.name ++ "(): never \x7b") = some (m.name, []) :=
    readHead?_self h.name (by decide) (by decide)
  have hthrow : "throw new Error(".toList.isPrefixOf (throwStatement m).toList = true := by
    have htext : throwStatement m = "throw new Error(" ++ (Text.quote (m.path ++
        " uses client streaming, which grpc-web does not support") ++ ");") :=
      String.append_assoc ..
    rw [htext, String.toList_append]
    exact List.isPrefixOf_iff_prefix.2 (List.prefix_append _ _)
  rw [readUnsupported?, hhead]
  simp only [Option.bind_eq_bind, Option.bind_some, List.head?_cons]
  rw [if_pos hthrow]

/-! #### Readings of a method -/

omit h hruntime in
theorem passed_afterHead (runtime client : String) (m : Method) :
    ∀ text ∈ [callStatement runtime client m, "\x7d;"], Passed clientMarks text :=
  List.forall_mem_cons.2 ⟨passed_callStatement runtime client m,
    List.forall_mem_singleton.2 (Front.Fits.self.passed (by decide))⟩

omit h hruntime in
theorem passed_afterUnsupported (m : Method) :
    ∀ text ∈ [throwStatement m, "\x7d"], Passed clientMarks text :=
  List.forall_mem_cons.2 ⟨passed_throwStatement m, List.forall_mem_singleton.2 passed_clientClose⟩

omit hruntime in
/-- A method whose request is a stream has neither descriptor nor function. -/
theorem passed_method_of_clientStreaming (hstream : m.clientStreaming = true) :
    Every (Passed [" static ", ": "]) (method runtime client m) := by
  rw [Every, texts_method_of_clientStreaming hstream, List.forall_mem_append, List.forall_mem_cons]
  exact ⟨fun text htext => (passed_deprecation _ text htext).mono (by decide),
    passed_unsupportedHead h,
    fun text htext => (passed_afterUnsupported m text htext).mono (by decide)⟩

omit hruntime in
/-- After the descriptor, there is neither another nor a member that throws. -/
theorem passed_afterDescriptor (runtime client : String) :
    ∀ text ∈ texts (deprecation m.deprecated) ++
      functionHead runtime m :: [callStatement runtime client m, "\x7d;"],
      Passed [" static ", "(): never \x7b"] text := by
  rw [List.forall_mem_append, List.forall_mem_cons]
  exact ⟨fun text htext => (passed_deprecation _ text htext).mono (by decide),
    passed_functionHead h runtime,
    fun text htext => (passed_afterHead runtime client m text htext).mono (by decide)⟩

theorem readings_descriptor (rest : List String) :
    readings readDescriptor? (texts (method runtime client m) ++ rest) =
      (if !m.clientStreaming then [.ofMethod m] else []) ++ readings readDescriptor? rest := by
  cases hstream : m.clientStreaming with
  | true =>
    exact readings_append_of_passed beginsAt_readDescriptor? List.mem_cons_self
      (passed_method_of_clientStreaming h hstream) rest
  | false =>
    rw [texts_method_of_not_clientStreaming hstream]
    exact readings_construct beginsAt_readDescriptor? (readDescriptor?_descriptor hruntime h _)
      List.mem_cons_self (passed_afterDescriptor h runtime client)

omit hruntime in
theorem readings_function (hclient : IsIdentifier client) (rest : List String) :
    readings readFunction? (texts (method runtime client m) ++ rest) =
      (if !m.clientStreaming then [.ofMethod client m] else []) ++ readings readFunction? rest := by
  cases hstream : m.clientStreaming with
  | true =>
    exact readings_append_of_passed beginsAt_readFunction?
      (List.mem_cons_of_mem _ List.mem_cons_self) (passed_method_of_clientStreaming h hstream) rest
  | false =>
    have hmark : ": " ∈ clientMarks := by decide
    have hdescriptor : ∀ text ∈ [descriptorText runtime m],
        Passed [": ", "(): never \x7b"] text :=
      List.forall_mem_singleton.2 (passed_descriptorText runtime m)
    have hread : readFunction? (functionHead runtime m)
        ([callStatement runtime client m, "\x7d;"] ++ rest) = some (.ofMethod client m) :=
      readFunction?_functionHead h hclient _
    -- the descriptor and the comment come before the function and begin none
    rw [texts_method_of_not_clientStreaming hstream, ← List.singleton_append, List.append_assoc,
      List.append_assoc,
      readings_append_of_passed beginsAt_readFunction? List.mem_cons_self hdescriptor,
      readings_append_of_passed beginsAt_readFunction? hmark (passed_deprecation m.deprecated)]
    exact readings_construct beginsAt_readFunction? hread hmark (passed_afterHead runtime client m)

omit hruntime in
theorem readings_unsupported (rest : List String) :
    readings readUnsupported? (texts (method runtime client m) ++ rest) =
      (if m.clientStreaming then [m.name] else []) ++ readings readUnsupported? rest := by
  have hmark : "(): never \x7b" ∈ clientMarks := by decide
  cases hstream : m.clientStreaming with
  | true =>
    have hread : readUnsupported? (m.name ++ "(): never \x7b")
        ([throwStatement m, "\x7d"] ++ rest) = some m.name :=
      readUnsupported?_unsupportedHead h _
    rw [texts_method_of_clientStreaming hstream, List.append_assoc,
      readings_append_of_passed beginsAt_readUnsupported? hmark (passed_deprecation m.deprecated)]
    exact readings_construct beginsAt_readUnsupported? hread hmark (passed_afterUnsupported m)
  | false =>
    have hpassed : ∀ text ∈ texts (method runtime client m), Passed ["(): never \x7b"] text := by
      rw [texts_method_of_not_clientStreaming hstream, List.forall_mem_cons]
      exact ⟨(passed_descriptorText runtime m).mono (by decide), fun text htext =>
        (passed_afterDescriptor h runtime client text htext).mono (by decide)⟩
    exact readings_append_of_passed beginsAt_readUnsupported? List.mem_cons_self hpassed rest

omit hruntime in
/-- No line of a method starts with a space. -/
theorem starts_method (runtime client : String) : Every Starts (method runtime client m) := by
  cases hstream : m.clientStreaming with
  | true => exact (passed_method_of_clientStreaming h hstream).mono fun _ => Passed.starts
  | false =>
    rw [Every, texts_method_of_not_clientStreaming hstream, List.forall_mem_cons]
    exact ⟨(passed_descriptorText runtime m).starts,
      fun text htext => (passed_afterDescriptor h runtime client text htext).starts⟩

end

end WebClient

section WebStub

/-- What a browser client has before the members for its methods. -/
def webFront (c : ClientStub) : List Line :=
  deprecation c.service.deprecated ++
    line ("export class " ++ c.name ++ " \x7b") :: line "private _address: string;" ::
      line ("private _client: " ++ c.runtime ++ ".GrpcWebClientBase;") ::
        WebClient.constructor c.runtime

theorem passed_webFront (c : ClientStub) : Every (Passed clientMarks) (webFront c) := by
  have hclient : (Front.literal _).Fits
      ("private _client: " ++ c.runtime ++ ".GrpcWebClientBase;") :=
    (Front.Fits.self.append _).append _
  have hconstructor :
      (Front.literal _).Fits
        ("constructor(address: string, credentials?: Object, options?: " ++ c.runtime ++
          ".GrpcWebClientBaseOptions) \x7b") :=
    (Front.Fits.self.append
      _).append _
  have hassign : (Front.literal _).Fits
      ("this._client = new " ++ c.runtime ++ ".GrpcWebClientBase(options);") :=
    (Front.Fits.self.append _).append _
  have hbody : Every (Passed clientMarks) (guarded "!options" "options = \x7b\x7d;" ++
      [line "options.format = options.format || \"text\";", line "this._address = address;",
        line ("this._client = new " ++ c.runtime ++ ".GrpcWebClientBase(options);")]) :=
    .append (.guarded (((Front.Fits.self.append _).append _).passed (by decide))
        (Front.Fits.self.passed (by decide)))
      (.cons (Front.Fits.self.passed (by decide))
        (.cons (Front.Fits.self.passed (by decide))
          (.cons (hassign.passed (by decide)) .nil)))
  exact .append (passed_deprecation _)
    (.cons (((Front.Fits.self.append _).append _).passed (by decide))
      (.cons (Front.Fits.self.passed (by decide))
        (.cons (hclient.passed (by decide))
          (.block (hconstructor.passed (by decide)) hbody passed_clientClose))))

theorem texts_webClient (c : ClientStub) : texts (WebClient.lines c) = texts (webFront c) ++
    (c.service.methods.flatMap (fun m => texts (WebClient.method c.runtime c.name m)) ++
      ["\x7d"]) := by
  rw [WebClient.lines, webFront, texts_append, texts_append, texts_block, texts_append,
    texts_flatMap]
  simp [line]

variable {c : ClientStub} (h : ReadableService c.service)

include h

theorem readings_webFunctions (hname : IsIdentifier c.name) :
    readings readFunction? (texts (WebClient.lines c)) =
      (c.service.methods.filter (!·.clientStreaming)).map (.ofMethod c.name) := by
  have hmark : ": " ∈ clientMarks := by decide
  rw [texts_webClient, readings_append_of_passed beginsAt_readFunction? hmark (passed_webFront c),
    readings_flatMap fun m hm rest => WebClient.readings_function (h.methods m hm) hname rest,
    readings_of_passed beginsAt_readFunction? hmark
      (List.forall_mem_singleton.2 passed_clientClose),
    List.append_nil]
  exact flatMap_if_singleton ..

theorem readings_webUnsupported : readings readUnsupported? (texts (WebClient.lines c)) =
    (c.service.methods.filter (·.clientStreaming)).map (·.name) := by
  have hmark : "(): never \x7b" ∈ clientMarks := by decide
  rw [texts_webClient,
    readings_append_of_passed beginsAt_readUnsupported? hmark (passed_webFront c),
    readings_flatMap fun m hm rest => WebClient.readings_unsupported (h.methods m hm) rest,
    readings_of_passed beginsAt_readUnsupported? hmark
      (List.forall_mem_singleton.2 passed_clientClose),
    List.append_nil]
  exact flatMap_if_singleton ..

theorem readings_webDescriptors (hruntime : IsIdentifier c.runtime) :
    readings readDescriptor? (texts (WebClient.lines c)) =
      (c.service.methods.filter (!·.clientStreaming)).map .ofMethod := by
  have hmark : " static " ∈ clientMarks := by decide
  rw [texts_webClient, readings_append_of_passed beginsAt_readDescriptor? hmark (passed_webFront c),
    readings_flatMap fun m hm rest => WebClient.readings_descriptor hruntime (h.methods m hm) rest,
    readings_of_passed beginsAt_readDescriptor? hmark
      (List.forall_mem_singleton.2 passed_clientClose),
    List.append_nil]
  exact flatMap_if_singleton ..

/-- No line of a browser client starts with a space. -/
theorem starts_webClient : Every Starts (WebClient.lines c) := by
  rw [Every, texts_webClient]
  refine List.forall_mem_append.2 ⟨fun text htext => (passed_webFront c text htext).starts,
    List.forall_mem_append.2 ⟨?_, List.forall_mem_singleton.2 passed_clientClose.starts⟩⟩
  rw [List.forall_mem_flatMap]
  exact fun m hm => WebClient.starts_method (h.methods m hm) _ _

end WebStub

end Script

end ProtoTypeScript
