import ProtoTypeScript.Proofs.MessageParts

/-!
# Encoded requests

Which bytes encode a request, said without a decoder. The fields of each message come in ascending
order. What is unset is left out, and what has its default may be, unless the difference counts.
Between the fields of any message there may be others, whose numbers neither `descriptor.proto` nor
`plugin.proto` defines for it.

* `Encodes` says so for each kind of message. `levels` is how many levels there may be below it: a
  message inside another one has one less;
* each kind has one lemma, `merge?_of_encodes`, which says that its reader gets back what was
  encoded, and `Request.decode?_of_encodes` says it of a request.
-/

namespace ProtoTypeScript

open Wire

/-! ### Which numbers are defined -/

namespace Wire

/-- The numbers of a request's fields. -/
def requestNumbers : List ℕ := [1, 2, 3, 15, 17]

/-- The numbers of a version's fields. -/
def versionNumbers : List ℕ := [1, 2, 3, 4]

/-- The numbers of a file's fields. -/
def fileNumbers : List ℕ := [1, 2, 3, 4, 5, 6, 7, 8, 9, 10, 11, 12, 14, 15]

/-- The numbers of the options of a file. -/
def fileOptionNumbers : List ℕ :=
  [1, 8, 9, 10, 11, 16, 17, 18, 20, 23, 27, 31, 36, 37, 39, 40, 41, 42, 44, 45, 50, 999]

/-- The numbers of a message's fields. -/
def messageNumbers : List ℕ := [1, 2, 3, 4, 5, 6, 7, 8, 9, 10, 11]

/-- The numbers of the options of a message. -/
def messageOptionNumbers : List ℕ := [1, 2, 3, 7, 11, 12, 999]

/-- The numbers of a field's own fields. -/
def fieldNumbers : List ℕ := [1, 2, 3, 4, 5, 6, 7, 8, 9, 10, 17]

/-- The numbers of the options of a field. -/
def fieldOptionNumbers : List ℕ := [1, 2, 3, 5, 6, 10, 15, 16, 17, 18, 19, 20, 21, 22, 999]

/-- The numbers of a oneof's fields. -/
def oneofNumbers : List ℕ := [1, 2]

/-- The numbers of an enum's fields. -/
def enumNumbers : List ℕ := [1, 2, 3, 4, 5, 6]

/-- The numbers of the options of an enum. -/
def enumOptionNumbers : List ℕ := [2, 3, 6, 7, 999]

/-- The numbers of the fields of an enum's value. -/
def enumValueNumbers : List ℕ := [1, 2, 3]

/-- The numbers of a service's fields. -/
def serviceNumbers : List ℕ := [1, 2, 3]

/-- The numbers of the options of a service. -/
def serviceOptionNumbers : List ℕ := [33, 34, 999]

/-- The numbers of a method's fields. -/
def methodNumbers : List ℕ := [1, 2, 3, 4, 5, 6]

/-- The numbers of the options of a method. -/
def methodOptionNumbers : List ℕ := [33, 34, 35, 999]

end Wire

/-! ### Encodings -/

section Encodings

variable (rule : InsertionRule) (levels : ℕ)

/-- The bytes encode the version of the compiler. -/
def CompilerVersion.Encodes (v : CompilerVersion) : List UInt8 → Prop :=
  Spelled rule versionNumbers levels
    [single 1 int32Value 0 v.major, single 2 int32Value 0 v.minor, single 3 int32Value 0 v.patch,
      single 4 textValue "" v.suffix]

/-- The bytes encode the options of a field. -/
def FieldDescriptor.EncodesOptions (f : FieldDescriptor) : List UInt8 → Prop :=
  Spelled rule fieldOptionNumbers levels
    [optional 2 flagValue f.packed?, single 3 flagValue false f.deprecated]

/-- The bytes encode a field. -/
def FieldDescriptor.Encodes (f : FieldDescriptor) : List UInt8 → Prop :=
  Spelled rule fieldNumbers levels
    [optional 1 textValue f.name?, optional 3 int32Value f.number?, optional 4 int32Value f.label?,
      optional 5 int32Value f.type?, optional 6 textValue f.typeName?,
      optional 7 textValue f.defaultValue?,
      embedded 8 (f.packed? = none ∧ f.deprecated = false)
        (Inside (FieldDescriptor.EncodesOptions rule) levels f),
      optional 9 int32Value f.oneofIndex?, optional 10 textValue f.jsonName?,
      single 17 flagValue false f.proto3Optional]

/-- The bytes encode a value of an enum. -/
def EnumValue.Encodes (v : EnumValue) : List UInt8 → Prop :=
  Spelled rule enumValueNumbers levels
    [single 1 textValue "" v.name, single 2 int32Value 0 v.number]

/-- The bytes encode the options of an enum. -/
def EnumDescriptor.EncodesOptions (e : EnumDescriptor) : List UInt8 → Prop :=
  Spelled rule enumOptionNumbers levels [single 3 flagValue false e.deprecated]

/-- The bytes encode an enum. -/
def EnumDescriptor.Encodes (e : EnumDescriptor) : List UInt8 → Prop :=
  Spelled rule enumNumbers levels
    [single 1 textValue "" e.name,
      repeated 2 (IsMessage (Inside (EnumValue.Encodes rule) levels)) e.values,
      embedded 3 (e.deprecated = false) (Inside (EnumDescriptor.EncodesOptions rule) levels e)]

/-- The bytes encode a oneof of a name. -/
def EncodesOneof (name : String) : List UInt8 → Prop :=
  Spelled rule oneofNumbers levels [single 1 textValue "" name]

/-- The bytes encode the options of a message. -/
def MessageDescriptor.EncodesOptions (m : MessageDescriptor) : List UInt8 → Prop :=
  Spelled rule messageOptionNumbers levels
    [single 3 flagValue false m.deprecated, single 7 flagValue false m.mapEntry]

/-- The bytes encode a message, where `nested` says it of the messages inside it. -/
def MessageDescriptor.EncodesWith (nested : MessageDescriptor → List UInt8 → Prop)
    (m : MessageDescriptor) : List UInt8 → Prop :=
  Spelled rule messageNumbers levels
    [single 1 textValue "" m.name,
      repeated 2 (IsMessage (Inside (FieldDescriptor.Encodes rule) levels)) m.fields,
      repeated 3 (IsMessage nested) m.nested,
      repeated 4 (IsMessage (Inside (EnumDescriptor.Encodes rule) levels)) m.enums,
      embedded 7 (m.deprecated = false ∧ m.mapEntry = false)
        (Inside (MessageDescriptor.EncodesOptions rule) levels m),
      repeated 8 (IsMessage (Inside (EncodesOneof rule) levels)) m.oneofs]

/-- The bytes encode a message and the messages inside it. -/
def MessageDescriptor.Encodes : (levels : ℕ) → MessageDescriptor → List UInt8 → Prop
  | 0 => MessageDescriptor.EncodesWith rule 0 fun _ _ => False
  | levels + 1 => MessageDescriptor.EncodesWith rule (levels + 1) (MessageDescriptor.Encodes levels)

/-- The bytes encode the options of a method. -/
def MethodDescriptor.EncodesOptions (m : MethodDescriptor) : List UInt8 → Prop :=
  Spelled rule methodOptionNumbers levels [single 33 flagValue false m.deprecated]

/-- The bytes encode a method of a service. -/
def MethodDescriptor.Encodes (m : MethodDescriptor) : List UInt8 → Prop :=
  Spelled rule methodNumbers levels
    [single 1 textValue "" m.name, single 2 textValue "" m.inputType,
      single 3 textValue "" m.outputType,
      embedded 4 (m.deprecated = false) (Inside (MethodDescriptor.EncodesOptions rule) levels m),
      single 5 flagValue false m.clientStreaming, single 6 flagValue false m.serverStreaming]

/-- The bytes encode the options of a service. -/
def ServiceDescriptor.EncodesOptions (s : ServiceDescriptor) : List UInt8 → Prop :=
  Spelled rule serviceOptionNumbers levels [single 33 flagValue false s.deprecated]

/-- The bytes encode a service. -/
def ServiceDescriptor.Encodes (s : ServiceDescriptor) : List UInt8 → Prop :=
  Spelled rule serviceNumbers levels
    [single 1 textValue "" s.name,
      repeated 2 (IsMessage (Inside (MethodDescriptor.Encodes rule) levels)) s.methods,
      embedded 3 (s.deprecated = false) (Inside (ServiceDescriptor.EncodesOptions rule) levels s)]

/-- The bytes encode the options of a file. -/
def FileDescriptor.EncodesOptions (f : FileDescriptor) : List UInt8 → Prop :=
  Spelled rule fileOptionNumbers levels [single 23 flagValue false f.deprecated]

/-- The bytes encode a file. -/
def FileDescriptor.Encodes (f : FileDescriptor) : List UInt8 → Prop :=
  Spelled rule fileNumbers levels
    [single 1 textValue "" f.name, single 2 textValue "" f.package,
      repeated 3 (fun s v => v = textValue s) f.dependencies,
      repeated 4 (IsMessage (Inside (MessageDescriptor.Encodes rule) levels)) f.messages,
      repeated 5 (IsMessage (Inside (EnumDescriptor.Encodes rule) levels)) f.enums,
      repeated 6 (IsMessage (Inside (ServiceDescriptor.Encodes rule) levels)) f.services,
      embedded 8 (f.deprecated = false) (Inside (FileDescriptor.EncodesOptions rule) levels f),
      repeated 10 (fun n v => v = int32Value n) f.publicDependencies,
      single 12 textValue "" f.dialectName]

/-- The bytes encode a request. -/
def Request.Encodes (r : Request) : List UInt8 → Prop :=
  Spelled rule requestNumbers levels
    [repeated 1 (fun s v => v = textValue s) r.filesToGenerate, single 2 textValue "" r.parameter,
      embedded 3 (r.compilerVersion = default)
        (Inside (CompilerVersion.Encodes rule) levels r.compilerVersion),
      repeated 15 (IsMessage (Inside (FileDescriptor.Encodes rule) levels)) r.files]

end Encodings

/-! ### Decoding -/

namespace Wire

theorem readVersion_knowsOnly : FieldReader.KnowsOnly readVersion versionNumbers := by
  intro v number value hnumber
  unfold readVersion
  split
  all_goals first | rfl | exact absurd (by decide) hnumber

theorem readFieldOptions_knowsOnly : FieldReader.KnowsOnly readFieldOptions fieldOptionNumbers := by
  intro f number value hnumber
  unfold readFieldOptions
  split
  all_goals first | rfl | exact absurd (by decide) hnumber

theorem readField_knowsOnly (levels : ℕ) :
    FieldReader.KnowsOnly (readField levels) fieldNumbers := by
  intro f number value hnumber
  unfold readField
  split
  all_goals first | rfl | exact absurd (by decide) hnumber

theorem readEnumValue_knowsOnly : FieldReader.KnowsOnly readEnumValue enumValueNumbers := by
  intro v number value hnumber
  unfold readEnumValue
  split
  all_goals first | rfl | exact absurd (by decide) hnumber

theorem readEnumOptions_knowsOnly : FieldReader.KnowsOnly readEnumOptions enumOptionNumbers := by
  intro e number value hnumber
  unfold readEnumOptions
  split
  all_goals first | rfl | exact absurd (by decide) hnumber

theorem readEnum_knowsOnly (levels : ℕ) : FieldReader.KnowsOnly (readEnum levels) enumNumbers := by
  intro e number value hnumber
  unfold readEnum
  split
  all_goals first | rfl | exact absurd (by decide) hnumber

theorem readOneof_knowsOnly : FieldReader.KnowsOnly readOneof oneofNumbers := by
  intro s number value hnumber
  unfold readOneof
  split
  all_goals first | rfl | exact absurd (by decide) hnumber

theorem readMessageOptions_knowsOnly :
    FieldReader.KnowsOnly readMessageOptions messageOptionNumbers := by
  intro m number value hnumber
  unfold readMessageOptions
  split
  all_goals first | rfl | exact absurd (by decide) hnumber

theorem readMessageFields_knowsOnly (levels : ℕ)
    (nested : Value → Option MessageDescriptor) :
    FieldReader.KnowsOnly (readMessageFields levels nested) messageNumbers := by
  intro m number value hnumber
  unfold readMessageFields
  split
  all_goals first | rfl | exact absurd (by decide) hnumber

theorem readMethodOptions_knowsOnly :
    FieldReader.KnowsOnly readMethodOptions methodOptionNumbers := by
  intro m number value hnumber
  unfold readMethodOptions
  split
  all_goals first | rfl | exact absurd (by decide) hnumber

theorem readMethod_knowsOnly (levels : ℕ) :
    FieldReader.KnowsOnly (readMethod levels) methodNumbers := by
  intro m number value hnumber
  unfold readMethod
  split
  all_goals first | rfl | exact absurd (by decide) hnumber

theorem readServiceOptions_knowsOnly :
    FieldReader.KnowsOnly readServiceOptions serviceOptionNumbers := by
  intro s number value hnumber
  unfold readServiceOptions
  split
  all_goals first | rfl | exact absurd (by decide) hnumber

theorem readService_knowsOnly (levels : ℕ) :
    FieldReader.KnowsOnly (readService levels) serviceNumbers := by
  intro s number value hnumber
  unfold readService
  split
  all_goals first | rfl | exact absurd (by decide) hnumber

theorem readFileOptions_knowsOnly : FieldReader.KnowsOnly readFileOptions fileOptionNumbers := by
  intro f number value hnumber
  unfold readFileOptions
  split
  all_goals first | rfl | exact absurd (by decide) hnumber

theorem readFile_knowsOnly (levels : ℕ) : FieldReader.KnowsOnly (readFile levels) fileNumbers := by
  intro f number value hnumber
  unfold readFile
  split
  all_goals first | rfl | exact absurd (by decide) hnumber

theorem readRequest_knowsOnly (levels : ℕ) :
    FieldReader.KnowsOnly (readRequest levels) requestNumbers := by
  intro r number value hnumber
  unfold readRequest
  split
  all_goals first | rfl | exact absurd (by decide) hnumber

end Wire

section Decoding

variable {levels : ℕ} {bytes : List UInt8}

theorem CompilerVersion.merge?_of_encodes {v : CompilerVersion}
    (h : v.Encodes fitting levels bytes) :
    merge? levels readVersion default bytes = some v :=
  merge?_of_spelled readVersion_knowsOnly h <|
    .cons (.single (fun v n => { v with major := n }) int32?_int32Value (fun _ => rfl) rfl) <|
    .cons (.single (fun v n => { v with minor := n }) int32?_int32Value (fun _ => rfl) rfl) <|
    .cons (.single (fun v n => { v with patch := n }) int32?_int32Value (fun _ => rfl) rfl) <|
    .cons (.single (fun v s => { v with suffix := s }) text?_textValue (fun _ => rfl) rfl) .nil

/-! Options are read into the descriptor that they belong to, whatever else it holds by then. -/

theorem FieldDescriptor.merge?_of_encodesOptions {f : FieldDescriptor}
    (h : f.EncodesOptions fitting levels bytes) (g : FieldDescriptor) (hpacked : g.packed? = none)
    (hdeprecated : g.deprecated = false) : merge? levels readFieldOptions g bytes =
      some { g with packed? := f.packed?, deprecated := f.deprecated } :=
  merge?_of_spelled readFieldOptions_knowsOnly h <|
    .cons (.optional (fun f b => { f with packed? := b }) bool?_flagValue (fun _ => rfl)
      (by rw [← hpacked])) <|
    .cons (.single (fun f b => { f with deprecated := b }) bool?_flagValue (fun _ => rfl)
      (by rw [← hdeprecated])) .nil

theorem FieldDescriptor.merge?_of_encodes {f : FieldDescriptor}
    (h : f.Encodes fitting levels bytes) :
    merge? levels (readField levels) default bytes = some f := by
  refine merge?_of_spelled (readField_knowsOnly levels) h <|
    .cons (.optional (fun f s => { f with name? := s }) text?_textValue (fun _ => rfl) rfl) <|
    .cons (.optional (fun f n => { f with number? := n }) int32?_int32Value (fun _ => rfl) rfl) <|
    .cons (.optional (fun f n => { f with label? := n }) int32?_int32Value (fun _ => rfl) rfl) <|
    .cons (.optional (fun f n => { f with type? := n }) int32?_int32Value (fun _ => rfl) rfl) <|
    .cons (.optional (fun f s => { f with typeName? := s }) text?_textValue (fun _ => rfl) rfl) <|
    .cons (.optional (fun f s => { f with defaultValue? := s }) text?_textValue
      (fun _ => rfl) rfl) ?_
  -- what is read so far is one record again, so that the elaborator does not carry every update on
  dsimp only
  refine .cons (.embedded (fun _ => rfl) (fun _ hcontent => submessage?_of_inside hcontent
    fun _ hoptions => merge?_of_encodesOptions hoptions _ rfl rfl) ?_) <|
    .cons (.optional (fun f n => { f with oneofIndex? := n }) int32?_int32Value
      (fun _ => rfl) rfl) <|
    .cons (.optional (fun f s => { f with jsonName? := s }) text?_textValue (fun _ => rfl) rfl) <|
    .cons (.single (fun f b => { f with proto3Optional := b }) bool?_flagValue
      (fun _ => rfl) rfl) .nil
  rintro ⟨hpacked, hdeprecated⟩
  rw [hpacked, hdeprecated]
  rfl

theorem EnumValue.merge?_of_encodes {v : EnumValue} (h : v.Encodes fitting levels bytes) :
    merge? levels readEnumValue default bytes = some v :=
  merge?_of_spelled readEnumValue_knowsOnly h <|
    .cons (.single (fun v s => { v with name := s }) text?_textValue (fun _ => rfl) rfl) <|
    .cons (.single (fun v n => { v with number := n }) int32?_int32Value (fun _ => rfl) rfl) .nil

theorem EnumDescriptor.merge?_of_encodesOptions {e : EnumDescriptor}
    (h : e.EncodesOptions fitting levels bytes) (g : EnumDescriptor)
    (hdeprecated : g.deprecated = false) :
    merge? levels readEnumOptions g bytes = some { g with deprecated := e.deprecated } :=
  merge?_of_spelled readEnumOptions_knowsOnly h <|
    .cons (.single (fun e b => { e with deprecated := b }) bool?_flagValue (fun _ => rfl)
      (by rw [← hdeprecated])) .nil

theorem EnumDescriptor.merge?_of_encodes {e : EnumDescriptor} (h : e.Encodes fitting levels bytes) :
    merge? levels (readEnum levels) default bytes = some e := by
  refine merge?_of_spelled (readEnum_knowsOnly levels) h <|
    .cons (.single (fun e s => { e with name := s }) text?_textValue (fun _ => rfl) rfl) <|
    .cons (.messages (fun e vs => { e with values := vs }) (fun _ _ => rfl)
      (fun _ _ _ => EnumValue.merge?_of_encodes) rfl) <|
    .cons (.embedded (fun _ => rfl) (fun _ hcontent => submessage?_of_inside hcontent
      fun _ hoptions => merge?_of_encodesOptions hoptions _ rfl) ?_) .nil
  intro hdeprecated
  rw [hdeprecated]
  rfl

theorem merge?_of_encodesOneof {name : String} (h : EncodesOneof fitting levels name bytes) :
    merge? levels readOneof "" bytes = some name :=
  merge?_of_spelled readOneof_knowsOnly h <|
    .cons (.single (fun _ s => s) text?_textValue
      (fun _ => congrArg Uptake.ofOption Option.map_id'.symm) rfl) .nil

theorem MessageDescriptor.merge?_of_encodesOptions {m : MessageDescriptor}
    (h : m.EncodesOptions fitting levels bytes) (n : MessageDescriptor)
    (hdeprecated : n.deprecated = false) (hentry : n.mapEntry = false) :
    merge? levels readMessageOptions n bytes =
      some { n with deprecated := m.deprecated, mapEntry := m.mapEntry } := by
  cases n
  cases hdeprecated
  cases hentry
  exact merge?_of_spelled readMessageOptions_knowsOnly h <|
    .cons (.single (fun m b => { m with deprecated := b }) bool?_flagValue (fun _ => rfl) rfl) <|
    .cons (.single (fun m b => { m with mapEntry := b }) bool?_flagValue (fun _ => rfl) rfl) .nil

theorem MessageDescriptor.merge?_of_encodesWith {m : MessageDescriptor}
    {encodes : MessageDescriptor → List UInt8 → Prop} {nested : Value → Option MessageDescriptor}
    (hnested : ∀ n content, encodes n content → nested (.bytes content) = some n)
    (h : m.EncodesWith fitting levels encodes bytes) :
    merge? levels (readMessageFields levels nested) {} bytes = some m := by
  cases m
  refine merge?_of_spelled (readMessageFields_knowsOnly levels nested) h <|
    .cons (.single (fun m s => { m with name := s }) text?_textValue (fun _ => rfl) rfl) <|
    .cons (.messages (fun m fs => { m with fields := fs }) (fun _ _ => rfl)
      (fun _ _ _ => FieldDescriptor.merge?_of_encodes) rfl) <|
    .cons (.repeated (fun m ns => { m with nested := ns }) (fun n => [n]) (fun _ _ => rfl)
      (fun n _ hn => ?_) rfl) <|
    .cons (.messages (fun m es => { m with enums := es }) (fun _ _ => rfl)
      (fun _ _ _ => EnumDescriptor.merge?_of_encodes) rfl) <|
    .cons (.embedded (fun _ => rfl) (fun _ hcontent => submessage?_of_inside hcontent
      fun _ hoptions => merge?_of_encodesOptions hoptions _ rfl rfl) ?_) <|
    .cons (.messages (fun m names => { m with oneofs := names }) (fun _ _ => rfl)
      (fun _ _ _ => merge?_of_encodesOneof) rfl) .nil
  · obtain ⟨content, rfl, hcontent⟩ := hn
    exact ⟨n, hnested n content hcontent, rfl⟩
  · rintro ⟨hdeprecated, hentry⟩
    rw [hdeprecated, hentry]

/-- A message is read with as many levels as it was encoded for. -/
theorem MessageDescriptor.merge?_of_encodes {m : MessageDescriptor}
    (h : m.Encodes fitting levels bytes) :
    merge? levels (readMessage levels) {} bytes = some m := by
  induction levels generalizing m bytes with
  | zero => exact merge?_of_encodesWith (fun _ _ hn => hn.elim) h
  | succ levels ih => exact merge?_of_encodesWith (fun _ _ hn => ih hn) h

theorem MethodDescriptor.merge?_of_encodesOptions {m : MethodDescriptor}
    (h : m.EncodesOptions fitting levels bytes) (n : MethodDescriptor)
    (hdeprecated : n.deprecated = false) :
    merge? levels readMethodOptions n bytes = some { n with deprecated := m.deprecated } :=
  merge?_of_spelled readMethodOptions_knowsOnly h <|
    .cons (.single (fun m b => { m with deprecated := b }) bool?_flagValue (fun _ => rfl)
      (by rw [← hdeprecated])) .nil

theorem MethodDescriptor.merge?_of_encodes {m : MethodDescriptor}
    (h : m.Encodes fitting levels bytes) :
    merge? levels (readMethod levels) default bytes = some m := by
  refine merge?_of_spelled (readMethod_knowsOnly levels) h <|
    .cons (.single (fun m s => { m with name := s }) text?_textValue (fun _ => rfl) rfl) <|
    .cons (.single (fun m s => { m with inputType := s }) text?_textValue (fun _ => rfl) rfl) <|
    .cons (.single (fun m s => { m with outputType := s }) text?_textValue (fun _ => rfl) rfl) <|
    .cons (.embedded (fun _ => rfl) (fun _ hcontent => submessage?_of_inside hcontent
      fun _ hoptions => merge?_of_encodesOptions hoptions _ rfl) ?_) <|
    .cons (.single (fun m b => { m with clientStreaming := b }) bool?_flagValue
      (fun _ => rfl) rfl) <|
    .cons (.single (fun m b => { m with serverStreaming := b }) bool?_flagValue
      (fun _ => rfl) rfl) .nil
  intro hdeprecated
  rw [hdeprecated]
  rfl

theorem ServiceDescriptor.merge?_of_encodesOptions {d : ServiceDescriptor}
    (h : d.EncodesOptions fitting levels bytes) (e : ServiceDescriptor)
    (hdeprecated : e.deprecated = false) :
    merge? levels readServiceOptions e bytes = some { e with deprecated := d.deprecated } :=
  merge?_of_spelled readServiceOptions_knowsOnly h <|
    .cons (.single (fun d b => { d with deprecated := b }) bool?_flagValue (fun _ => rfl)
      (by rw [← hdeprecated])) .nil

theorem ServiceDescriptor.merge?_of_encodes {d : ServiceDescriptor}
    (h : d.Encodes fitting levels bytes) :
    merge? levels (readService levels) default bytes = some d := by
  refine merge?_of_spelled (readService_knowsOnly levels) h <|
    .cons (.single (fun d s => { d with name := s }) text?_textValue (fun _ => rfl) rfl) <|
    .cons (.messages (fun d ms => { d with methods := ms }) (fun _ _ => rfl)
      (fun _ _ _ => MethodDescriptor.merge?_of_encodes) rfl) <|
    .cons (.embedded (fun _ => rfl) (fun _ hcontent => submessage?_of_inside hcontent
      fun _ hoptions => merge?_of_encodesOptions hoptions _ rfl) ?_) .nil
  intro hdeprecated
  rw [hdeprecated]
  rfl

theorem FileDescriptor.merge?_of_encodesOptions {f : FileDescriptor}
    (h : f.EncodesOptions fitting levels bytes) (g : FileDescriptor)
    (hdeprecated : g.deprecated = false) :
    merge? levels readFileOptions g bytes = some { g with deprecated := f.deprecated } :=
  merge?_of_spelled readFileOptions_knowsOnly h <|
    .cons (.single (fun f b => { f with deprecated := b }) bool?_flagValue (fun _ => rfl)
      (by rw [← hdeprecated])) .nil

theorem FileDescriptor.merge?_of_encodes {f : FileDescriptor}
    (h : f.Encodes fitting levels bytes) :
    merge? levels (readFile levels) default bytes = some f := by
  refine merge?_of_spelled (readFile_knowsOnly levels) h <|
    .cons (.single (fun f s => { f with name := s }) text?_textValue (fun _ => rfl) rfl) <|
    .cons (.single (fun f s => { f with package := s }) text?_textValue (fun _ => rfl) rfl) <|
    .cons (.texts (fun f ds => { f with dependencies := ds }) (fun _ _ => rfl) rfl) <|
    .cons (.messages (fun f ms => { f with messages := ms }) (fun _ _ => rfl)
      (fun _ _ _ => MessageDescriptor.merge?_of_encodes) rfl) <|
    .cons (.messages (fun f es => { f with enums := es }) (fun _ _ => rfl)
      (fun _ _ _ => EnumDescriptor.merge?_of_encodes) rfl) <|
    .cons (.messages (fun f ss => { f with services := ss }) (fun _ _ => rfl)
      (fun _ _ _ => ServiceDescriptor.merge?_of_encodes) rfl) ?_
  dsimp only
  refine .cons (.embedded (fun _ => rfl) (fun _ hcontent => submessage?_of_inside hcontent
      fun _ hoptions => merge?_of_encodesOptions hoptions _ rfl) ?_) <|
    .cons (.repeated (fun f ns => { f with publicDependencies := ns }) id (fun _ _ => rfl)
      (fun n _ hn => ?_) rfl) <|
    .cons (.single (fun f s => { f with dialectName := s }) text?_textValue (fun _ => rfl) rfl) .nil
  · intro hdeprecated
    rw [hdeprecated]
    rfl
  · subst hn
    exact ⟨[n], congrArg (Option.map fun n => [n]) (int32?_int32Value n), rfl⟩

theorem Request.merge?_of_encodes {r : Request} (h : r.Encodes fitting levels bytes) :
    merge? levels (readRequest levels) {} bytes = some r := by
  have hversion : Takes levels (readRequest levels)
      { filesToGenerate := r.filesToGenerate, parameter := r.parameter }
      (embedded 3 (r.compilerVersion = default)
        (Inside (CompilerVersion.Encodes fitting) levels r.compilerVersion))
      { filesToGenerate := r.filesToGenerate, parameter := r.parameter,
        compilerVersion := r.compilerVersion } := by
    refine .embedded (fun _ => rfl) (fun content hcontent => ?_) fun hdefault => by rw [hdefault]
    rw [submessage?_of_inside hcontent fun _ => CompilerVersion.merge?_of_encodes]
    rfl
  exact merge?_of_spelled (readRequest_knowsOnly levels) h <|
    .cons (.texts (fun r ns => { r with filesToGenerate := ns }) (fun _ _ => rfl) rfl) <|
    .cons (.single (fun r s => { r with parameter := s }) text?_textValue (fun _ => rfl) rfl) <|
    .cons hversion <|
    .cons (.messages (fun r fs => { r with files := fs }) (fun _ _ => rfl)
      (fun _ _ _ => FileDescriptor.merge?_of_encodes) rfl) .nil

end Decoding

/-- **An encoded request is decoded to itself**, whatever fields are inserted that fit. -/
theorem Request.decode?_of_encodes {r : Request} {bytes : List UInt8}
    (h : r.Encodes fitting maxDepth bytes) : Request.decode? bytes = some r :=
  Request.merge?_of_encodes h

end ProtoTypeScript
