import ProtoTypeScript.Proofs.OneLine
import ProtoTypeScript.Proofs.WireFormat

/-!
# Writers and readers agree

The class of a lowered message has a method that writes its fields and one that reads them back.

* `texts_serialize` and `texts_deserialize` list the statements of both;
* `WireAgreement` says how these fit together: every field is written once and has one case, in
  declared order, and the statements for it are compatible;
* `serialize_deserialize_agree`: this holds of the printed methods, if the fields have distinct
  positive numbers and the names are identifiers.
-/

namespace ProtoTypeScript

open Outcome

/-- The class that a message inside the messages of `path` is lowered to. -/
def FileScope.LowersMessage (s : FileScope) (path : List String) (d : MessageDescriptor)
    (m : MessageClass) : Prop :=
  ∃ fields, d.fields.mapM s.fieldDeclaration = .ok fields ∧ m = s.messageClass path d fields

namespace Script

/-! ### Statements of the methods -/

/-- The statements of `serialize` before those that write fields. -/
def serializeHead (m : MessageClass) : List String :=
  ["serialize(w?: " ++ m.runtime ++ ".BinaryWriter): Uint8Array | void \x7b",
    "const writer = w || new " ++ m.runtime ++ ".BinaryWriter();"]

/-- The statements of `serialize` after those that write fields. -/
def serializeTail : List String :=
  ["if (!w)", "return writer.getResultBuffer();", "\x7d"]

/-- The statements of `deserialize` before the cases. -/
def deserializeHead (m : MessageClass) : List String :=
  ["static deserialize(bytes: Uint8Array | " ++ m.runtime ++ ".BinaryReader): " ++ m.name ++
      " \x7b",
    "const reader = bytes instanceof " ++ m.runtime ++ ".BinaryReader ? bytes : new " ++
      m.runtime ++ ".BinaryReader(bytes), message = new " ++ m.name ++ "();",
    "while (reader.nextField()) \x7b", "if (reader.isEndGroup())", "break;",
    "switch (reader.getFieldNumber()) \x7b"]

/-- The case that skips a field that is not known. -/
def skipStatement : String :=
  "default: reader.skipField();"

/-- The statements of `deserialize` after the cases. -/
def deserializeTail : List String :=
  ["\x7d", "\x7d", "return message;", "\x7d"]

/-- The case of a field whose statements are `read`. -/
def caseStatements (f : FieldDeclaration) (read : List String) : List String :=
  ("case " ++ decimal f.number ++ ":") :: read ++ ["break;"]

/-- The statements of a method with a plain signature. -/
theorem texts_method (isStatic : Bool) (name signature : String) (body : List Line) :
    texts (Member.method isStatic false name (.plain signature) body).lines =
      (Member.modifiers isStatic false ++ name ++ signature) :: texts body ++ ["\x7d"] := by
  simp [Member.lines, Signature.block, Signature.withFront, Signature.lines, line]

theorem texts_serialize (m : MessageClass) : texts (serialize m).lines =
    serializeHead m ++ m.fields.flatMap writeStatements ++ serializeTail := by
  have hfields : texts ((m.fields.map WriteStatement.ofField).flatMap WriteStatement.lines) =
      m.fields.flatMap writeStatements := by
    rw [texts_flatMap, List.flatMap_map]
    rfl
  have hhead : Member.modifiers false false ++ "serialize" ++
      ("(w?: " ++ m.runtime ++ ".BinaryWriter): Uint8Array | void \x7b") =
      "serialize(w?: " ++ m.runtime ++ ".BinaryWriter): Uint8Array | void \x7b" := by
    simp only [← String.append_assoc]
    rfl
  rw [serialize, texts_method, hhead, texts_append, texts_append, hfields, texts_guarded]
  simp [serializeHead, serializeTail, line]

theorem texts_readCase (runtime : String) (f : FieldDeclaration) :
    texts (readCase runtime (.ofField f)) = caseStatements f (readStatements runtime f) := by
  simp [readCase, caseStatements, readStatements, line, ReadStatement.ofField]

/-- With distinct numbers every field is read back. -/
theorem armFields_eq {m : MessageClass} (harms : m.arms = m.fields.map (·.number))
    (hnumbers : (m.fields.map (·.number)).Nodup) : m.armFields = m.fields := by
  have hfield : ∀ f ∈ m.fields, m.field? f.number = some f := by
    intro f hf
    have hfind := (find?_eq_some_iff_mem hnumbers).2 ⟨hf, rfl⟩
    simpa [MessageClass.field?, beq_eq_decide] using hfind
  rw [MessageClass.armFields, harms, List.filterMap_map]
  exact (List.filterMap_congr hfield).trans List.filterMap_some

theorem texts_deserialize {m : MessageClass} (hfields : m.armFields = m.fields) :
    texts (deserialize m).lines = deserializeHead m ++
      m.fields.flatMap (fun f => caseStatements f (readStatements m.runtime f)) ++
      skipStatement :: deserializeTail := by
  have hcases : texts ((m.armFields.map ReadStatement.ofField).flatMap (readCase m.runtime)) =
      m.fields.flatMap (fun f => caseStatements f (readStatements m.runtime f)) := by
    rw [texts_flatMap, List.flatMap_map, hfields]
    exact List.flatMap_congr fun f _ => texts_readCase m.runtime f
  have hhead : Member.modifiers true false ++ "deserialize" ++
      ("(bytes: Uint8Array | " ++ m.runtime ++ ".BinaryReader): " ++ m.name ++ " \x7b") =
      "static deserialize(bytes: Uint8Array | " ++ m.runtime ++ ".BinaryReader): " ++ m.name ++
        " \x7b" := by
    simp only [← String.append_assoc]
    rfl
  rw [deserialize, texts_method, hhead]
  simp only [texts_append, texts_block, texts_guarded, hcases]
  simp [deserializeHead, deserializeTail, skipStatement, line]

/-! ### Agreement -/

/-- The statements `write` and `read` of the methods of a class agree. There is a write and a case
for each of the numbers of the fields, in their order, and the last case skips a field. What writes
a field and what reads it back are compatible. -/
structure WireAgreement (m : MessageClass) (numbers : List Nat) (write read : List String) :
    Prop where
  writes : write.filterMap writtenNumber? = numbers
  cases : read.filterMap caseNumber? = numbers
  skips : read.count skipStatement = 1
  compatible : ∃ writes reads : FieldDeclaration → List String,
    (∀ f ∈ m.fields, WireCompatible m.runtime f (writes f) (reads f)) ∧
    write = serializeHead m ++ m.fields.flatMap writes ++ serializeTail ∧
    read = deserializeHead m ++ m.fields.flatMap (fun f => caseStatements f (reads f)) ++
      skipStatement :: deserializeTail

theorem filterMap_flatMap_eq_map {α β γ : Type} {f : β → Option γ} {g : α → List β} {h : α → γ}
    {xs : List α} (hg : ∀ x ∈ xs, (g x).filterMap f = [h x]) :
    (xs.flatMap g).filterMap f = xs.map h := by
  induction xs with
  | nil => rfl
  | cons x xs ih =>
    rw [List.flatMap_cons, List.filterMap_append, hg x List.mem_cons_self,
      ih fun y hy => hg y (List.mem_cons_of_mem _ hy)]
    rfl

section Starts

variable (m : MessageClass)

theorem startsWithin_serializeHead : ∀ text ∈ serializeHead m, StartsWithin ['s', 'c'] text := by
  simp only [serializeHead, String.append_assoc, List.forall_mem_cons]
  exact ⟨.literal_append (by decide), .literal_append (by decide), List.forall_mem_nil _⟩

theorem startsWithin_serializeTail :
    ∀ text ∈ serializeTail, StartsWithin ['i', 'r', '\x7d'] text := by
  simp only [serializeTail, List.forall_mem_cons]
  exact ⟨.literal (by decide), .literal (by decide), .literal (by decide), List.forall_mem_nil _⟩

theorem startsWithin_deserializeHead :
    ∀ text ∈ deserializeHead m, StartsWithin ['s', 'c', 'w', 'i', 'b'] text := by
  simp only [deserializeHead, String.append_assoc, List.forall_mem_cons]
  exact ⟨.literal_append (by decide), .literal_append (by decide), .literal (by decide),
    .literal (by decide), .literal (by decide), .literal (by decide), List.forall_mem_nil _⟩

theorem startsWithin_deserializeTail :
    ∀ text ∈ deserializeTail, StartsWithin ['\x7d', 'r'] text := by
  simp only [deserializeTail, List.forall_mem_cons]
  exact ⟨.literal (by decide), .literal (by decide), .literal (by decide), .literal (by decide),
    List.forall_mem_nil _⟩

theorem startsWithin_case (n : Int32) : StartsWithin ['c'] ("case " ++ decimal n ++ ":") := by
  rw [String.append_assoc]
  exact .literal_append (by decide)

end Starts

section OneLine

variable {m : MessageClass} (hruntime : OneLine m.runtime)

include hruntime

theorem oneLine_serializeHead : ∀ text ∈ serializeHead m, OneLine text := by
  simp only [serializeHead, String.append_assoc, List.forall_mem_cons, oneLine_append]
  exact ⟨⟨oneLine_literal rfl, hruntime, oneLine_literal rfl⟩,
    ⟨oneLine_literal rfl, hruntime, oneLine_literal rfl⟩, List.forall_mem_nil _⟩

omit hruntime in
theorem oneLine_serializeTail : ∀ text ∈ serializeTail, OneLine text := by
  simp only [serializeTail, List.forall_mem_cons]
  exact ⟨oneLine_literal rfl, oneLine_literal rfl, oneLine_literal rfl, List.forall_mem_nil _⟩

theorem oneLine_deserializeHead (hname : OneLine m.name) :
    ∀ text ∈ deserializeHead m, OneLine text := by
  simp only [deserializeHead, String.append_assoc, List.forall_mem_cons, oneLine_append]
  exact ⟨⟨oneLine_literal rfl, hruntime, oneLine_literal rfl, hname, oneLine_literal rfl⟩,
    ⟨oneLine_literal rfl, hruntime, oneLine_literal rfl, hruntime, oneLine_literal rfl, hname,
      oneLine_literal rfl⟩, oneLine_literal rfl, oneLine_literal rfl, oneLine_literal rfl,
    oneLine_literal rfl, List.forall_mem_nil _⟩

omit hruntime in
theorem oneLine_deserializeTail : ∀ text ∈ deserializeTail, OneLine text := by
  simp only [deserializeTail, List.forall_mem_cons]
  exact ⟨oneLine_literal rfl, oneLine_literal rfl, oneLine_literal rfl, oneLine_literal rfl,
    List.forall_mem_nil _⟩

omit hruntime in
theorem oneLine_case {n : Int32} (h : 0 < n) : OneLine ("case " ++ decimal n ++ ":") :=
  oneLine_append.2 ⟨oneLine_append.2 ⟨oneLine_literal rfl, oneLine_decimal h⟩, oneLine_literal rfl⟩

end OneLine

/-- A field that the printer has compatible statements for, on one line each. -/
structure Writable (f : FieldDeclaration) : Prop where
  positive : 0 < f.number
  compatible : WireCompatible "pb_1" f (writeStatements f) (readStatements "pb_1" f)
  name : OneLine f.name
  type : f.type.OneLine
  default : f.type.hasLength = false → OneLine f.defaultValue

section Agreement

variable {m : MessageClass} (hruntime : m.runtime = "pb_1") (hfields : ∀ f ∈ m.fields, Writable f)

include hfields

theorem filterMap_writtenNumber?_serialize : (serializeHead m ++ m.fields.flatMap writeStatements ++
    serializeTail).filterMap writtenNumber? = m.fields.map (·.number.toNatClampNeg) := by
  have hhead : (serializeHead m).filterMap writtenNumber? = [] :=
    List.filterMap_eq_nil_iff.2 fun text htext =>
      writtenNumber?_eq_none (startsWithin_serializeHead m text htext) (by decide)
  have htail : serializeTail.filterMap writtenNumber? = [] :=
    List.filterMap_eq_nil_iff.2 fun text htext =>
      writtenNumber?_eq_none (startsWithin_serializeTail text htext) (by decide)
  rw [List.filterMap_append, List.filterMap_append, hhead, htail, List.append_nil, List.nil_append]
  exact filterMap_flatMap_eq_map fun f hf =>
    (hfields f hf).compatible.filterMap_writtenNumber? (hfields f hf).positive

omit hfields in
theorem filterMap_caseNumber?_case {f : FieldDeclaration} (hf : Writable f) :
    (caseStatements f (readStatements "pb_1" f)).filterMap caseNumber? =
      [f.number.toNatClampNeg] := by
  have hread : (readStatements "pb_1" f).filterMap caseNumber? = [] :=
    List.filterMap_eq_nil_iff.2 fun text htext =>
      caseNumber?_eq_none (hf.compatible.startsWithin_read text htext) (by decide)
  have hstart : StartsWithin ['b'] "break;" := .literal (by decide)
  have hbreak : caseNumber? "break;" = none := caseNumber?_eq_none hstart (by decide)
  rw [caseStatements, List.cons_append, List.filterMap_cons_some (caseNumber?_case hf.positive),
    List.filterMap_append, hread, List.filterMap_cons_none hbreak]
  rfl

omit hfields in
theorem filterMap_caseNumber?_deserializeHead (m : MessageClass) :
    (deserializeHead m).filterMap caseNumber? = [] := by
  have hconst : ∀ rest, caseNumber? ("const reader = bytes instanceof " ++ rest) = none := by
    intro rest
    rw [caseNumber?, String.toList_append]
    rfl
  have hreader : ∀ rest,
      caseNumber? ("static deserialize(bytes: Uint8Array | " ++ rest) = none := by
    intro rest
    have hstart : StartsWithin ['s'] ("static deserialize(bytes: Uint8Array | " ++ rest) :=
      .literal_append (by decide)
    exact caseNumber?_eq_none hstart (by decide)
  simp only [deserializeHead, String.append_assoc, List.filterMap_cons_none (hreader _),
    List.filterMap_cons_none (hconst _)]
  decide

theorem filterMap_caseNumber?_deserialize : (deserializeHead m ++
    m.fields.flatMap (fun f => caseStatements f (readStatements "pb_1" f)) ++
    skipStatement :: deserializeTail).filterMap caseNumber? =
      m.fields.map (·.number.toNatClampNeg) := by
  have hstart : StartsWithin ['d'] skipStatement := .literal (by decide)
  have hskip : caseNumber? skipStatement = none := caseNumber?_eq_none hstart (by decide)
  have htail : deserializeTail.filterMap caseNumber? = [] :=
    List.filterMap_eq_nil_iff.2 fun text htext =>
      caseNumber?_eq_none (startsWithin_deserializeTail text htext) (by decide)
  rw [List.filterMap_append, List.filterMap_append, filterMap_caseNumber?_deserializeHead m,
    List.filterMap_cons_none hskip, htail, List.append_nil, List.nil_append]
  exact filterMap_flatMap_eq_map fun f hf => filterMap_caseNumber?_case (hfields f hf)

omit hfields in
theorem startsWithin_caseStatements {f : FieldDeclaration} (hf : Writable f) :
    ∀ text ∈ caseStatements f (readStatements "pb_1" f),
      StartsWithin ['c', 'b', 'm', 'r', 'p', 'l', '\x7d'] text := by
  intro text htext
  rw [caseStatements, List.cons_append, List.mem_cons, List.mem_append, List.mem_singleton] at htext
  rcases htext with rfl | hread | rfl
  · exact (startsWithin_case f.number).mono (by decide)
  · exact (hf.compatible.startsWithin_read text hread).mono (by decide)
  · exact .literal (by decide)

/-- The case that skips a field stands once. -/
theorem count_skipStatement : (deserializeHead m ++
    m.fields.flatMap (fun f => caseStatements f (readStatements "pb_1" f)) ++
    skipStatement :: deserializeTail).count skipStatement = 1 := by
  -- every other statement starts with a character other than that of `default`
  have hne : ∀ {cs text}, StartsWithin cs text → 'd' ∉ cs → text ≠ skipStatement := by
    rintro cs text h hd rfl
    exact h.head?_ne hd (by rfl)
  have hhead : (deserializeHead m).count skipStatement = 0 := by
    rw [List.count_eq_zero]
    intro hmem
    exact hne (startsWithin_deserializeHead m _ hmem) (by decide) rfl
  have htail : deserializeTail.count skipStatement = 0 := by
    rw [List.count_eq_zero]
    intro hmem
    exact hne (startsWithin_deserializeTail _ hmem) (by decide) rfl
  have hcases : (m.fields.flatMap fun f => caseStatements f (readStatements "pb_1" f)).count
      skipStatement = 0 := by
    rw [List.count_eq_zero, List.mem_flatMap]
    rintro ⟨f, hf, hmem⟩
    exact hne (startsWithin_caseStatements (hfields f hf) _ hmem) (by decide) rfl
  rw [List.count_append, List.count_append, hhead, hcases, List.count_cons_self, htail]

theorem isStatement_serialize (hruntime : OneLine m.runtime) :
    ∀ text ∈ serializeHead m ++ m.fields.flatMap writeStatements ++ serializeTail,
      IsStatement text := by
  intro text htext
  rw [List.mem_append, List.mem_append, List.mem_flatMap] at htext
  rcases htext with (hhead | ⟨f, hf, hwrite⟩) | htail
  · exact .of_startsWithin (oneLine_serializeHead hruntime text hhead)
      (startsWithin_serializeHead m text hhead) (by decide)
  · have hw := hfields f hf
    have hone := hw.compatible.oneLine_write hw.name (oneLine_decimal hw.positive) hw.type
      hw.default text hwrite
    exact .of_startsWithin hone (hw.compatible.startsWithin_write text hwrite) (by decide)
  · exact .of_startsWithin (oneLine_serializeTail text htail)
      (startsWithin_serializeTail text htail) (by decide)

omit hfields in
theorem oneLine_caseStatements {f : FieldDeclaration} (hf : Writable f) :
    ∀ text ∈ caseStatements f (readStatements "pb_1" f), OneLine text := by
  intro text htext
  rw [caseStatements, List.cons_append, List.mem_cons, List.mem_append, List.mem_singleton] at htext
  rcases htext with rfl | hread | rfl
  · exact oneLine_case hf.positive
  · exact hf.compatible.oneLine_read hf.name (oneLine_decimal hf.positive) hf.type text hread
  · exact oneLine_literal rfl

theorem isStatement_deserialize (hruntime : OneLine m.runtime) (hname : OneLine m.name) :
    ∀ text ∈ deserializeHead m ++
      m.fields.flatMap (fun f => caseStatements f (readStatements "pb_1" f)) ++
      skipStatement :: deserializeTail, IsStatement text := by
  intro text htext
  rw [List.mem_append, List.mem_append, List.mem_flatMap, List.mem_cons] at htext
  rcases htext with (hhead | ⟨f, hf, hcase⟩) | rfl | htail
  · exact .of_startsWithin (oneLine_deserializeHead hruntime hname text hhead)
      (startsWithin_deserializeHead m text hhead) (by decide)
  · exact .of_startsWithin (oneLine_caseStatements (hfields f hf) text hcase)
      (startsWithin_caseStatements (hfields f hf) text hcase) (by decide)
  · have hstart : StartsWithin ['d'] skipStatement := .literal (by decide)
    exact .of_startsWithin (oneLine_literal rfl) hstart (by decide)
  · exact .of_startsWithin (oneLine_deserializeTail text htail)
      (startsWithin_deserializeTail text htail) (by decide)

/-- The printed methods of a class with writable fields that are all read back agree. -/
theorem wireAgreement_of_writable (hruntime : m.runtime = "pb_1") (hname : OneLine m.name)
    (harms : m.armFields = m.fields) (depth : Nat) :
    WireAgreement m (m.fields.map (·.number.toNatClampNeg))
      (statements (render (indentBy depth (serialize m).lines)))
      (statements (render (indentBy depth (deserialize m).lines))) := by
  have honce : OneLine m.runtime := hruntime ▸ oneLine_literal rfl
  have hwrite := texts_serialize m
  have hread := texts_deserialize harms
  rw [hruntime] at hread
  -- the texts are one line each and not empty, so that reading gives back what was printed
  rw [statements_render (by rw [texts_indentBy, hwrite]; exact isStatement_serialize hfields honce),
    statements_render (by
      rw [texts_indentBy, hread]
      exact isStatement_deserialize hfields honce hname),
    texts_indentBy, texts_indentBy, hwrite, hread]
  exact {
    writes := filterMap_writtenNumber?_serialize hfields
    cases := filterMap_caseNumber?_deserialize hfields
    skips := count_skipStatement hfields
    compatible := ⟨writeStatements, readStatements "pb_1", fun f hf => by
      rw [hruntime]
      exact (hfields f hf).compatible, rfl, rfl⟩ }

end Agreement

end Script

/-! ### Lowered messages -/

open Script

variable {c : Config} {files : List FileDescriptor} {file : FileDescriptor}

theorem FileScope.isMap_of_hasType_map {s : FileScope} {f : FieldDescriptor}
    {key : Scalar} {value : FieldType} (h : s.HasType f (.map key value)) :
    value.isMap = false := by
  cases h with
  | map _ _ _ _ _ hmap => exact hmap

/-- The fields of lowered messages are writable, if their names are identifiers. -/
theorem FileScope.writable_of_fieldDeclaration (hfiles : ∀ g ∈ files, g.ValidNames)
    {f : FieldDescriptor} {d : FieldDeclaration} (hname : IsIdentifier f.name)
    (hpositive : 0 < f.number)
    (hdefault : ∀ name, (FileScope.ofFile c (.ofFiles files) file).fieldType f =
      .ok (.enumeration name) → ∀ value, f.defaultValue? = some value → IsIdentifier value)
    (h : (FileScope.ofFile c (.ofFiles files) file).fieldDeclaration f = .ok d) : Writable d := by
  obtain ⟨type, value, htype, hvalue, rfl⟩ := fieldDeclaration_eq_ok_iff.1 h
  have hderivation := fieldType_eq_ok_iff.1 htype
  refine ⟨hpositive, wireCompatible_ofField _ ?_ ?_, hname.oneLine,
    oneLine_of_hasType hfiles hderivation, fun hlength => ?_⟩
  · rintro key mapped rfl
    exact isMap_of_hasType_map hderivation
  · intro hpacked
    simp only [isPacked, Bool.and_eq_true] at hpacked
    exact hpacked.1.2
  · refine oneLine_defaultValue hfiles hlength htype ?_ hvalue
    rintro name rfl v hv
    exact hdefault name htype v hv

/-- **The printed writer and reader of a lowered message agree**, if its fields have distinct
positive numbers and the names are identifiers. -/
theorem serialize_deserialize_agree {path : List String} {d : MessageDescriptor}
    {m : MessageClass}
    (hlowers : (FileScope.ofFile c (.ofFiles files) file).LowersMessage path d m)
    (hnumbers : (d.fields.map (·.number)).Nodup) (hpositive : ∀ f ∈ d.fields, 0 < f.number)
    (hfiles : ∀ g ∈ files, g.ValidNames)
    (hnames : (FileScope.ofFile c (.ofFiles files) file).ValidNames path d) (depth : ℕ) :
    WireAgreement m (d.fields.map (·.number.toNatClampNeg))
      (statements (render (indentBy depth (serialize m).lines)))
      (statements (render (indentBy depth (deserialize m).lines))) := by
  obtain ⟨fields, hfields, rfl⟩ := hlowers
  have hdeclared := mapM_eq_ok_iff.1 hfields
  have hsame : fields.map (·.number) = d.fields.map (·.number) := by
    refine map_eq_map_of_forall₂ hdeclared fun f g hg => ?_
    obtain ⟨type, value, -, -, rfl⟩ := FileScope.fieldDeclaration_eq_ok_iff.1 hg
    rfl
  have hwritable : ∀ g ∈ fields, Writable g := by
    intro g hg
    obtain ⟨f, hf, hdeclaration⟩ := exists_of_mem_right hdeclared hg
    exact FileScope.writable_of_fieldDeclaration hfiles (hnames.fields f hf) (hpositive f hf)
      (hnames.defaults f hf) hdeclaration
  have hmap : fields.map (·.number.toNatClampNeg) = d.fields.map (·.number.toNatClampNeg) := by
    have hcongr := congrArg (List.map Int32.toNatClampNeg) hsame
    rwa [List.map_map, List.map_map] at hcongr
  rw [← hmap]
  -- distinct numbers leave each field a case of its own
  exact wireAgreement_of_writable hwritable rfl (FileScope.oneLine_declarationName _ hnames.message)
    (armFields_eq rfl (hsame ▸ hnumbers)) depth

/-- A message with fields of each kind. -/
def harbourMessage : MessageDescriptor where
  name := "Harbour"
  fields := [
    { name? := "depth", number? := some 1, type? := some 5 },
    { name? := "berths", number? := some 5, type? := some 13, label? := some 3 },
    { name? := "names", number? := some 2, type? := some 9, label? := some 3 },
    { name? := "weather", number? := some 7, type? := some 14, typeName? := ".port.Weather",
      defaultValue? := some "FOG" },
    { name? := "nearest", number? := some 3, type? := some 11, typeName? := ".port.Harbour" },
    { name? := "pilots", number? := some 4, type? := some 11, label? := some 3,
      typeName? := ".port.Harbour.PilotsEntry" }]
  nested := [{
    name := "PilotsEntry"
    fields := [{ name? := "key", type? := some 9 },
      { name? := "value", type? := some 11, typeName? := ".port.Harbour" }]
    mapEntry := true }]

/-- A file with the message and an enum. -/
def harbourFile : FileDescriptor where
  name := "harbour.proto"
  package := "port"
  messages := [harbourMessage]
  enums := [{ name := "Weather", values := [⟨"CLEAR", 0⟩, ⟨"FOG", 1⟩] }]

theorem serialize_deserialize_agree_harbour : ∃ m,
    (FileScope.ofFile .default (.ofFiles [harbourFile]) harbourFile).LowersMessage [] harbourMessage
      m ∧
    (harbourMessage.fields.map (·.number)).Nodup ∧ (∀ f ∈ harbourMessage.fields, 0 < f.number) ∧
    (∀ g ∈ [harbourFile], g.ValidNames) ∧
    (FileScope.ofFile .default (.ofFiles [harbourFile]) harbourFile).ValidNames [] harbourMessage ∧
    WireAgreement m [1, 5, 2, 7, 3, 4]
      (statements (render (indentBy 2 (serialize m).lines)))
      (statements (render (indentBy 2 (deserialize m).lines))) := by
  have hok : (harbourMessage.fields.mapM
      (FileScope.ofFile .default (.ofFiles [harbourFile]) harbourFile).fieldDeclaration).isOk := by
    decide +kernel
  obtain ⟨fields, hfields⟩ := isOk_iff.1 hok
  have hnumbers : (harbourMessage.fields.map (·.number)).Nodup := by decide
  have hpositive : ∀ f ∈ harbourMessage.fields, 0 < f.number := by decide
  have hfiles : ∀ g ∈ [harbourFile], g.ValidNames := by
    intro g hg
    rw [List.mem_singleton.1 hg]
    exact ⟨.inr (by decide), by decide +kernel, by decide +kernel⟩
  have hnames : (FileScope.ofFile .default (.ofFiles [harbourFile]) harbourFile).ValidNames []
      harbourMessage := by
    have hdefaults : ∀ f ∈ harbourMessage.fields, ∀ value ∈ f.defaultValue?,
        IsIdentifier value := by
      decide +kernel
    exact ⟨by decide +kernel, by decide +kernel, fun f hf _ _ value => hdefaults f hf value⟩
  exact ⟨_, ⟨fields, hfields, rfl⟩, hnumbers, hpositive, hfiles, hnames,
    serialize_deserialize_agree ⟨fields, hfields, rfl⟩ hnumbers hpositive hfiles hnames 2⟩

end ProtoTypeScript
