import ProtoTypeScript.Proofs.FieldWriting
import ProtoTypeScript.Proofs.RequestEncoding

/-!
# Written requests

`Request.encode` writes a request as its compiler does: every number in its shortest form, no other
fields than the defined ones, and no options where they are all unset.

* `Fits` says for each kind of message that what is inside it needs no more levels than there are;
* `Request.encodes_encode`: what is written for a request that fits is among its encodings, so each
  request has one, as long as it is not longer than a length can tell.
-/

namespace ProtoTypeScript

open Wire

/-! ### Writing -/

/-- The bytes of the version of the compiler. -/
def CompilerVersion.encode (v : CompilerVersion) : List UInt8 :=
  encodeParts [[⟨1, int32Value v.major⟩], [⟨2, int32Value v.minor⟩], [⟨3, int32Value v.patch⟩],
    [⟨4, textValue v.suffix⟩]]

/-- The bytes of the options of a field. -/
def FieldDescriptor.encodeOptions (f : FieldDescriptor) : List UInt8 :=
  encodeParts [optionalFields 2 flagValue f.packed?, [⟨3, flagValue f.deprecated⟩]]

/-- The bytes of a field. -/
def FieldDescriptor.encode (f : FieldDescriptor) : List UInt8 :=
  encodeParts [optionalFields 1 textValue f.name?, optionalFields 3 int32Value f.number?,
    optionalFields 4 int32Value f.label?, optionalFields 5 int32Value f.type?,
    optionalFields 6 textValue f.typeName?, optionalFields 7 textValue f.defaultValue?,
    embeddedFields 8 (f.packed? = none ∧ f.deprecated = false) f.encodeOptions,
    optionalFields 9 int32Value f.oneofIndex?, optionalFields 10 textValue f.jsonName?,
    [⟨17, flagValue f.proto3Optional⟩]]

/-- The bytes of a value of an enum. -/
def EnumValue.encode (v : EnumValue) : List UInt8 :=
  encodeParts [[⟨1, textValue v.name⟩], [⟨2, int32Value v.number⟩]]

/-- The bytes of the options of an enum. -/
def EnumDescriptor.encodeOptions (e : EnumDescriptor) : List UInt8 :=
  encodeParts [[⟨3, flagValue e.deprecated⟩]]

/-- The bytes of an enum. -/
def EnumDescriptor.encode (e : EnumDescriptor) : List UInt8 :=
  encodeParts [[⟨1, textValue e.name⟩], repeatedFields 2 (fun v => .bytes v.encode) e.values,
    embeddedFields 3 (e.deprecated = false) e.encodeOptions]

/-- The bytes of a oneof of a name. -/
def encodeOneof (name : String) : List UInt8 :=
  encodeParts [[⟨1, textValue name⟩]]

/-- The bytes of the options of a message. -/
def MessageDescriptor.encodeOptions (deprecated mapEntry : Bool) : List UInt8 :=
  encodeParts [[⟨3, flagValue deprecated⟩], [⟨7, flagValue mapEntry⟩]]

mutual

/-- The bytes of a message and the messages inside it. -/
def MessageDescriptor.encode : MessageDescriptor → List UInt8
  | ⟨name, fields, nested, enums, oneofs, deprecated, mapEntry⟩ =>
    encodeParts [[⟨1, textValue name⟩], repeatedFields 2 (fun f => .bytes f.encode) fields,
      repeatedFields 3 .bytes (MessageDescriptor.listEncode nested),
      repeatedFields 4 (fun e => .bytes e.encode) enums,
      embeddedFields 7 (deprecated = false ∧ mapEntry = false)
        (MessageDescriptor.encodeOptions deprecated mapEntry),
      repeatedFields 8 (fun name => .bytes (encodeOneof name)) oneofs]

/-- The bytes of messages. -/
def MessageDescriptor.listEncode : List MessageDescriptor → List (List UInt8)
  | [] => []
  | m :: ms => m.encode :: MessageDescriptor.listEncode ms

end

/-- The bytes of the options of a method. -/
def MethodDescriptor.encodeOptions (m : MethodDescriptor) : List UInt8 :=
  encodeParts [[⟨33, flagValue m.deprecated⟩]]

/-- The bytes of a method of a service. -/
def MethodDescriptor.encode (m : MethodDescriptor) : List UInt8 :=
  encodeParts [[⟨1, textValue m.name⟩], [⟨2, textValue m.inputType⟩],
    [⟨3, textValue m.outputType⟩], embeddedFields 4 (m.deprecated = false) m.encodeOptions,
    [⟨5, flagValue m.clientStreaming⟩], [⟨6, flagValue m.serverStreaming⟩]]

/-- The bytes of the options of a service. -/
def ServiceDescriptor.encodeOptions (s : ServiceDescriptor) : List UInt8 :=
  encodeParts [[⟨33, flagValue s.deprecated⟩]]

/-- The bytes of a service. -/
def ServiceDescriptor.encode (s : ServiceDescriptor) : List UInt8 :=
  encodeParts [[⟨1, textValue s.name⟩], repeatedFields 2 (fun m => .bytes m.encode) s.methods,
    embeddedFields 3 (s.deprecated = false) s.encodeOptions]

/-- The bytes of the options of a file. -/
def FileDescriptor.encodeOptions (f : FileDescriptor) : List UInt8 :=
  encodeParts [[⟨23, flagValue f.deprecated⟩]]

/-- The bytes of a file. -/
def FileDescriptor.encode (f : FileDescriptor) : List UInt8 :=
  encodeParts [[⟨1, textValue f.name⟩], [⟨2, textValue f.package⟩],
    repeatedFields 3 textValue f.dependencies,
    repeatedFields 4 (fun m => .bytes m.encode) f.messages,
    repeatedFields 5 (fun e => .bytes e.encode) f.enums,
    repeatedFields 6 (fun s => .bytes s.encode) f.services,
    embeddedFields 8 (f.deprecated = false) f.encodeOptions,
    repeatedFields 10 int32Value f.publicDependencies, [⟨12, textValue f.dialectName⟩]]

/-- The bytes of a request. -/
def Request.encode (r : Request) : List UInt8 :=
  encodeParts [repeatedFields 1 textValue r.filesToGenerate, [⟨2, textValue r.parameter⟩],
    embeddedFields 3 (r.compilerVersion = default) r.compilerVersion.encode,
    repeatedFields 15 (fun f => .bytes f.encode) r.files]

/-! ### Levels -/

/-- What fits one level further down. -/
def Below {α : Type} (fits : ℕ → α → Prop) : (levels : ℕ) → α → Prop
  | 0, _ => False
  | levels + 1, x => fits levels x

section Levels

variable (levels : ℕ)

/-- The options of a field fit. -/
def FieldDescriptor.Fits (f : FieldDescriptor) : Prop :=
  (f.packed? = none ∧ f.deprecated = false) ∨ levels ≠ 0

/-- The values and the options of an enum fit. -/
def EnumDescriptor.Fits (e : EnumDescriptor) : Prop :=
  (e.values = [] ∧ e.deprecated = false) ∨ levels ≠ 0

/-- What is inside a message fits, where `nested` says it of the messages. -/
structure MessageDescriptor.FitsWith (nested : MessageDescriptor → Prop) (m : MessageDescriptor) :
    Prop where
  fields : ∀ f ∈ m.fields, Below FieldDescriptor.Fits levels f
  nested : ∀ n ∈ m.nested, nested n
  enums : ∀ e ∈ m.enums, Below EnumDescriptor.Fits levels e
  others : (m.oneofs = [] ∧ m.deprecated = false ∧ m.mapEntry = false) ∨ levels ≠ 0

/-- What is inside a message and inside the messages in it fits. -/
def MessageDescriptor.Fits : (levels : ℕ) → MessageDescriptor → Prop
  | 0 => MessageDescriptor.FitsWith 0 fun _ => False
  | levels + 1 => MessageDescriptor.FitsWith (levels + 1) (MessageDescriptor.Fits levels)

/-- The options of a method fit. -/
def MethodDescriptor.Fits (m : MethodDescriptor) : Prop :=
  m.deprecated = false ∨ levels ≠ 0

/-- The methods and the options of a service fit. -/
structure ServiceDescriptor.Fits (s : ServiceDescriptor) : Prop where
  methods : ∀ m ∈ s.methods, Below MethodDescriptor.Fits levels m
  options : s.deprecated = false ∨ levels ≠ 0

/-- What is inside a file fits. -/
structure FileDescriptor.Fits (f : FileDescriptor) : Prop where
  messages : ∀ m ∈ f.messages, Below MessageDescriptor.Fits levels m
  enums : ∀ e ∈ f.enums, Below EnumDescriptor.Fits levels e
  services : ∀ s ∈ f.services, Below ServiceDescriptor.Fits levels s
  options : f.deprecated = false ∨ levels ≠ 0

/-- What is inside a request fits. -/
structure Request.Fits (r : Request) : Prop where
  files : ∀ f ∈ r.files, Below FileDescriptor.Fits levels f
  version : r.compilerVersion = default ∨ levels ≠ 0

end Levels

namespace Wire

variable {α : Type} {levels : ℕ} {encodes : ℕ → α → List UInt8 → Prop} {x : α}
  {content : List UInt8}

theorem inside_of_below {fits : ℕ → α → Prop} (h : Below fits levels x)
    (hx : ∀ levels, fits levels x → encodes levels x content) :
    Inside encodes levels x content := by
  cases levels with
  | zero => exact h.elim
  | succ levels => exact hx levels h

theorem inside_of_ne_zero (h : levels ≠ 0) (hx : ∀ levels, encodes levels x content) :
    Inside encodes levels x content := by
  obtain ⟨levels, rfl⟩ := Nat.exists_eq_succ_of_ne_zero h
  exact hx levels

end Wire

/-! ### What is written is an encoding -/

section Encodings

variable {rule : InsertionRule} {levels : ℕ}

theorem CompilerVersion.encodes_encode {v : CompilerVersion} (h : v.encode.length < UInt64.size) :
    v.Encodes rule levels v.encode :=
  spelled_encodeParts (by decide)
    (.cons (.single (by decide) (writable_int32Value _)) <|
    .cons (.single (by decide) (writable_int32Value _)) <|
    .cons (.single (by decide) (writable_int32Value _)) <|
    .cons (.single (by decide) (writable_textValue _)) .nil) h

theorem FieldDescriptor.encodes_encodeOptions {f : FieldDescriptor}
    (h : f.encodeOptions.length < UInt64.size) : f.EncodesOptions rule levels f.encodeOptions :=
  spelled_encodeParts (by decide)
    (.cons (.optional (by decide) fun b _ => writable_flagValue b) <|
    .cons (.single (by decide) (writable_flagValue _)) .nil) h

theorem FieldDescriptor.encodes_encode {f : FieldDescriptor} (hfits : f.Fits levels)
    (h : f.encode.length < UInt64.size) : f.Encodes rule levels f.encode :=
  spelled_encodeParts (by decide)
    (.cons (.optional (by decide) fun s _ => writable_textValue s) <|
    .cons (.optional (by decide) fun n _ => writable_int32Value n) <|
    .cons (.optional (by decide) fun n _ => writable_int32Value n) <|
    .cons (.optional (by decide) fun n _ => writable_int32Value n) <|
    .cons (.optional (by decide) fun s _ => writable_textValue s) <|
    .cons (.optional (by decide) fun s _ => writable_textValue s) <|
    .cons (.embedded (by decide) fun hpresent hlength =>
      inside_of_ne_zero (hfits.resolve_left hpresent) fun _ => encodes_encodeOptions hlength) <|
    .cons (.optional (by decide) fun n _ => writable_int32Value n) <|
    .cons (.optional (by decide) fun s _ => writable_textValue s) <|
    .cons (.single (by decide) (writable_flagValue _)) .nil) h

theorem EnumValue.encodes_encode {v : EnumValue} (h : v.encode.length < UInt64.size) :
    v.Encodes rule levels v.encode :=
  spelled_encodeParts (by decide)
    (.cons (.single (by decide) (writable_textValue _)) <|
    .cons (.single (by decide) (writable_int32Value _)) .nil) h

theorem EnumDescriptor.encodes_encodeOptions {e : EnumDescriptor}
    (h : e.encodeOptions.length < UInt64.size) : e.EncodesOptions rule levels e.encodeOptions :=
  spelled_encodeParts (by decide) (.cons (.single (by decide) (writable_flagValue _)) .nil) h

theorem EnumDescriptor.encodes_encode {e : EnumDescriptor} (hfits : e.Fits levels)
    (h : e.encode.length < UInt64.size) : e.Encodes rule levels e.encode :=
  spelled_encodeParts (by decide)
    (.cons (.single (by decide) (writable_textValue _)) <|
    .cons (.messages (by decide) fun _ hv hlength =>
      inside_of_ne_zero (hfits.resolve_left fun hnone => List.ne_nil_of_mem hv hnone.1)
        fun _ => EnumValue.encodes_encode hlength) <|
    .cons (.embedded (by decide) fun hpresent hlength =>
      inside_of_ne_zero (hfits.resolve_left fun hnone => hpresent hnone.2)
        fun _ => encodes_encodeOptions hlength) .nil) h

theorem encodes_encodeOneof {name : String} (h : (encodeOneof name).length < UInt64.size) :
    EncodesOneof rule levels name (encodeOneof name) :=
  spelled_encodeParts (by decide) (.cons (.single (by decide) (writable_textValue _)) .nil) h

theorem MessageDescriptor.encodes_encodeOptions {m : MessageDescriptor}
    (h : (encodeOptions m.deprecated m.mapEntry).length < UInt64.size) :
    m.EncodesOptions rule levels (encodeOptions m.deprecated m.mapEntry) :=
  spelled_encodeParts (by decide)
    (.cons (.single (by decide) (writable_flagValue _)) <|
    .cons (.single (by decide) (writable_flagValue _)) .nil) h

theorem MessageDescriptor.listEncode_eq (ms : List MessageDescriptor) :
    MessageDescriptor.listEncode ms = ms.map MessageDescriptor.encode := by
  induction ms with
  | nil => rfl
  | cons m ms ih => rw [MessageDescriptor.listEncode, ih, List.map_cons]

theorem MessageDescriptor.encode_eq (m : MessageDescriptor) :
    m.encode = encodeParts [[⟨1, textValue m.name⟩],
      repeatedFields 2 (fun f => .bytes f.encode) m.fields,
      repeatedFields 3 (fun n => .bytes n.encode) m.nested,
      repeatedFields 4 (fun e => .bytes e.encode) m.enums,
      embeddedFields 7 (m.deprecated = false ∧ m.mapEntry = false)
        (encodeOptions m.deprecated m.mapEntry),
      repeatedFields 8 (fun name => .bytes (encodeOneof name)) m.oneofs] := by
  cases m with
  | mk name fields nested enums oneofs deprecated mapEntry =>
    have hnested : repeatedFields 3 .bytes (listEncode nested) =
        repeatedFields 3 (fun n => .bytes n.encode) nested := by
      rw [listEncode_eq, repeatedFields, List.map_map]
      rfl
    rw [encode, hnested]

theorem MessageDescriptor.encodes_encode_of_fitsWith {m : MessageDescriptor}
    {fits : MessageDescriptor → Prop} {encodes : MessageDescriptor → List UInt8 → Prop}
    (hnested : ∀ n, fits n → n.encode.length < UInt64.size → encodes n n.encode)
    (hfits : m.FitsWith levels fits) (h : m.encode.length < UInt64.size) :
    m.EncodesWith rule levels encodes m.encode := by
  rw [encode_eq] at h ⊢
  refine spelled_encodeParts (by decide)
    (.cons (.single (by decide) (writable_textValue _)) <|
    .cons (.messages (by decide) fun f hf hlength => inside_of_below (hfits.fields f hf)
      fun _ hbelow => FieldDescriptor.encodes_encode hbelow hlength) <|
    .cons (.messages (by decide) fun n hn => hnested n (hfits.nested n hn)) <|
    .cons (.messages (by decide) fun e he hlength => inside_of_below (hfits.enums e he)
      fun _ hbelow => EnumDescriptor.encodes_encode hbelow hlength) <|
    .cons (.embedded (by decide) fun hpresent hlength => ?_) <|
    .cons (.messages (by decide) fun name hname hlength => ?_) .nil) h
  · exact inside_of_ne_zero (hfits.others.resolve_left fun hnone => hpresent hnone.2)
      fun _ => encodes_encodeOptions hlength
  · exact inside_of_ne_zero
      (hfits.others.resolve_left fun hnone => List.ne_nil_of_mem hname hnone.1)
      fun _ => encodes_encodeOneof hlength

theorem MessageDescriptor.encodes_encode {m : MessageDescriptor} (hfits : m.Fits levels)
    (h : m.encode.length < UInt64.size) : m.Encodes rule levels m.encode := by
  induction levels generalizing m with
  | zero => exact encodes_encode_of_fitsWith (fun _ hn _ => hn.elim) hfits h
  | succ levels ih => exact encodes_encode_of_fitsWith (fun _ hn hlength => ih hn hlength) hfits h

theorem MethodDescriptor.encodes_encodeOptions {m : MethodDescriptor}
    (h : m.encodeOptions.length < UInt64.size) : m.EncodesOptions rule levels m.encodeOptions :=
  spelled_encodeParts (by decide) (.cons (.single (by decide) (writable_flagValue _)) .nil) h

theorem MethodDescriptor.encodes_encode {m : MethodDescriptor} (hfits : m.Fits levels)
    (h : m.encode.length < UInt64.size) : m.Encodes rule levels m.encode :=
  spelled_encodeParts (by decide)
    (.cons (.single (by decide) (writable_textValue _)) <|
    .cons (.single (by decide) (writable_textValue _)) <|
    .cons (.single (by decide) (writable_textValue _)) <|
    .cons (.embedded (by decide) fun hpresent hlength =>
      inside_of_ne_zero (hfits.resolve_left hpresent) fun _ => encodes_encodeOptions hlength) <|
    .cons (.single (by decide) (writable_flagValue _)) <|
    .cons (.single (by decide) (writable_flagValue _)) .nil) h

theorem ServiceDescriptor.encodes_encodeOptions {s : ServiceDescriptor}
    (h : s.encodeOptions.length < UInt64.size) : s.EncodesOptions rule levels s.encodeOptions :=
  spelled_encodeParts (by decide) (.cons (.single (by decide) (writable_flagValue _)) .nil) h

theorem ServiceDescriptor.encodes_encode {s : ServiceDescriptor} (hfits : s.Fits levels)
    (h : s.encode.length < UInt64.size) : s.Encodes rule levels s.encode :=
  spelled_encodeParts (by decide)
    (.cons (.single (by decide) (writable_textValue _)) <|
    .cons (.messages (by decide) fun m hm hlength => inside_of_below (hfits.methods m hm)
      fun _ hbelow => MethodDescriptor.encodes_encode hbelow hlength) <|
    .cons (.embedded (by decide) fun hpresent hlength =>
      inside_of_ne_zero (hfits.options.resolve_left hpresent)
        fun _ => encodes_encodeOptions hlength) .nil) h

theorem FileDescriptor.encodes_encodeOptions {f : FileDescriptor}
    (h : f.encodeOptions.length < UInt64.size) : f.EncodesOptions rule levels f.encodeOptions :=
  spelled_encodeParts (by decide) (.cons (.single (by decide) (writable_flagValue _)) .nil) h

theorem FileDescriptor.encodes_encode {f : FileDescriptor} (hfits : f.Fits levels)
    (h : f.encode.length < UInt64.size) : f.Encodes rule levels f.encode :=
  spelled_encodeParts (by decide)
    (.cons (.single (by decide) (writable_textValue _)) <|
    .cons (.single (by decide) (writable_textValue _)) <|
    .cons (.repeated (by decide) writable_textValue fun _ _ _ => rfl) <|
    .cons (.messages (by decide) fun m hm hlength => inside_of_below (hfits.messages m hm)
      fun _ hbelow => MessageDescriptor.encodes_encode hbelow hlength) <|
    .cons (.messages (by decide) fun e he hlength => inside_of_below (hfits.enums e he)
      fun _ hbelow => EnumDescriptor.encodes_encode hbelow hlength) <|
    .cons (.messages (by decide) fun s hs hlength => inside_of_below (hfits.services s hs)
      fun _ hbelow => ServiceDescriptor.encodes_encode hbelow hlength) <|
    .cons (.embedded (by decide) fun hpresent hlength =>
      inside_of_ne_zero (hfits.options.resolve_left hpresent)
        fun _ => encodes_encodeOptions hlength) <|
    .cons (.repeated (by decide) writable_int32Value fun _ _ _ => rfl) <|
    .cons (.single (by decide) (writable_textValue _)) .nil) h

/-- What is written for a request is one of its encodings. -/
theorem Request.encodes_encode {r : Request} (hfits : r.Fits levels)
    (h : r.encode.length < UInt64.size) : r.Encodes rule levels r.encode :=
  spelled_encodeParts (by decide)
    (.cons (.repeated (by decide) writable_textValue fun _ _ _ => rfl) <|
    .cons (.single (by decide) (writable_textValue _)) <|
    .cons (.embedded (by decide) fun hpresent hlength =>
      inside_of_ne_zero (hfits.version.resolve_left hpresent)
        fun _ => CompilerVersion.encodes_encode hlength) <|
    .cons (.messages (by decide) fun f hf hlength => inside_of_below (hfits.files f hf)
      fun _ hbelow => FileDescriptor.encodes_encode hbelow hlength) .nil) h

end Encodings

end ProtoTypeScript
