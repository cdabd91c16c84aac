import ProtoTypeScript.Proofs.Imports
import ProtoTypeScript.Proofs.Lowering
import ProtoTypeScript.Proofs.PrintedLines
import ProtoTypeScript.Proofs.Registration
import ProtoTypeScript.Script.WireFormat

/-!
# The wire format of a field

The statements that write a field and those that read it back are printed by two case distinctions
of their own.

* `WireCompatible` says which statements fit together, for each kind of field;
* `wireCompatible_ofField`: those of every field do, if values of maps are no maps;
* `WireCompatible.filterMap_writtenNumber?`: what is written has the number of the field;
* `WireCompatible.oneLine_write` and `WireCompatible.oneLine_read`: a statement takes one line, if
  names do.
-/

namespace ProtoTypeScript

open Outcome

/-- Every name in the type is on one line. -/
def FieldType.OneLine : FieldType → Prop
  | .scalar _ => True
  | .enumeration name => ProtoTypeScript.OneLine name
  | .message name => ProtoTypeScript.OneLine name
  | .map _ value => value.OneLine

namespace Script

/-! ### Statements for one field -/

section Compatible

variable (runtime : String) (f : FieldDeclaration)

/-- The property of a field in `serialize`. -/
def ownProperty : String :=
  "this." ++ f.name

/-- The property of a field in `deserialize`. -/
def readProperty : String :=
  "message." ++ f.name

/-- The statement that appends packed values, or one that is not. -/
def readEither : String :=
  readProperty f ++ " = [..." ++ readProperty f ++
    ", ...(reader.isDelimited() ? reader.readPacked" ++ f.type.wireMethod ++
    "() : [reader.read" ++ f.type.wireMethod ++ "()])];"

/-- The statements that write a field and those that read it back, for each kind of field. -/
inductive WireCompatible : List String → List String → Prop
  | value (hone : f.cardinality ≠ .repeated) (hmap : f.type.isMap = false)
      (hmessage : f.type.isMessage = false) :
      WireCompatible
        ["if (" ++ (writeGuard f).condition f.name ++ ")",
          "writer.write" ++ f.type.wireMethod ++ "(" ++ decimal f.number ++ ", " ++
            ownProperty f ++ ");"]
        [readProperty f ++ " = reader.read" ++ f.type.wireMethod ++ "();"]
  | packed (hmany : f.cardinality = .repeated) (hpackable : f.type.isPackable = true)
      (hpacked : f.packed = true) :
      WireCompatible
        ["if (" ++ (ownProperty f ++ ".length") ++ ")",
          "writer.writePacked" ++ f.type.wireMethod ++ "(" ++ decimal f.number ++ ", " ++
            ownProperty f ++ ");"]
        [readEither f]
  | unpacked (hmany : f.cardinality = .repeated) (hpackable : f.type.isPackable = true)
      (hpacked : f.packed = false) :
      WireCompatible
        ["if (" ++ (ownProperty f ++ ".length") ++ ")",
          "writer.writeRepeated" ++ f.type.wireMethod ++ "(" ++ decimal f.number ++ ", " ++
            ownProperty f ++ ");"]
        [readEither f]
  | appended (hmany : f.cardinality = .repeated) (hmap : f.type.isMap = false)
      (hmessage : f.type.isMessage = false) (hpackable : f.type.isPackable = false) :
      WireCompatible
        ["if (" ++ (ownProperty f ++ ".length") ++ ")",
          "writer.writeRepeated" ++ f.type.wireMethod ++ "(" ++ decimal f.number ++ ", " ++
            ownProperty f ++ ");"]
        [runtime ++ ".Message.addToRepeatedField(message, " ++ decimal f.number ++
          ", reader.read" ++ f.type.wireMethod ++ "());"]
  | message (type : String) (hone : f.cardinality ≠ .repeated) (htype : f.type = .message type) :
      WireCompatible
        ["if (" ++ ("this.has_" ++ f.name) ++ ")",
          "writer.writeMessage(" ++ decimal f.number ++ ", " ++ ownProperty f ++ ", () => " ++
            ownProperty f ++ ".serialize(writer));"]
        ["reader.readMessage(" ++ readProperty f ++ ", () => " ++ readProperty f ++ " = " ++
          type ++ ".deserialize(reader));"]
  | messages (type : String) (hmany : f.cardinality = .repeated)
      (htype : f.type = .message type) :
      WireCompatible
        ["if (" ++ (ownProperty f ++ ".length") ++ ")",
          "writer.writeRepeatedMessage(" ++ decimal f.number ++ ", " ++ ownProperty f ++
            ", (item: " ++ type ++ ") => item.serialize(writer));"]
        ["reader.readMessage(" ++ readProperty f ++ ", () => " ++ runtime ++
          ".Message.addToRepeatedWrapperField(message, " ++ decimal f.number ++ ", " ++ type ++
          ".deserialize(reader), " ++ type ++ "));"]
  | mapOfValues (key : Scalar) (value : FieldType) (htype : f.type = .map key value)
      (hmap : value.isMap = false) (hmessage : value.isMessage = false) :
      WireCompatible
        ["for (const [key, value] of " ++ ownProperty f ++ ") \x7b",
          "writer.writeMessage(" ++ decimal f.number ++ ", " ++ ownProperty f ++ ", () => \x7b",
          "writer.write" ++ key.wireMethod ++ "(1, key);",
          "writer.write" ++ value.wireMethod ++ "(2, value);", "\x7d);", "\x7d"]
        ["reader.readMessage(message, () => " ++ runtime ++ ".Map.deserializeBinary(" ++
          readProperty f ++ " as any, reader, reader.read" ++ key.wireMethod ++
          ", reader.read" ++ value.wireMethod ++ "));"]
  | mapOfMessages (key : Scalar) (type : String) (htype : f.type = .map key (.message type)) :
      WireCompatible
        ["for (const [key, value] of " ++ ownProperty f ++ ") \x7b",
          "writer.writeMessage(" ++ decimal f.number ++ ", " ++ ownProperty f ++ ", () => \x7b",
          "writer.write" ++ key.wireMethod ++ "(1, key);",
          "writer.writeMessage(2, value, () => value.serialize(writer));", "\x7d);", "\x7d"]
        ["reader.readMessage(message, () => " ++ runtime ++ ".Map.deserializeBinary(" ++
          readProperty f ++ " as any, reader, reader.read" ++ key.wireMethod ++ ", () => \x7b",
          "let value;",
          "reader.readMessage(message, () => value = " ++ type ++ ".deserialize(reader));",
          "return value;", "\x7d));"]

/-- The statements that write a field. -/
def writeStatements : List String :=
  texts (WriteStatement.ofField f).lines

/-- The statements that read a field. -/
def readStatements : List String :=
  texts ((ReadStatement.ofField f).lines runtime)

variable {f}

theorem shape_of_value (hmap : f.type.isMap = false) (hmessage : f.type.isMessage = false) :
    f.shape = if f.isRepeated then .values f.type else .value f.type := by
  rw [FieldDeclaration.shape]
  cases htype : f.type with
  | scalar scalar => rw [FieldType.shape_scalar]
  | enumeration name => rw [FieldType.shape_enumeration]
  | message name =>
    rw [htype] at hmessage
    cases hmessage
  | map key value =>
    rw [htype] at hmap
    cases hmap

theorem wireCompatible_value (hmap : f.type.isMap = false) (hmessage : f.type.isMessage = false)
    (hpacked : f.packed = true → f.type.isPackable = true) :
    WireCompatible runtime f (writeStatements f) (readStatements runtime f) := by
  rw [writeStatements, readStatements, WriteStatement.ofField, ReadStatement.ofField, writeForm,
    readForm, shape_of_value hmap hmessage]
  cases hrepeated : f.isRepeated with
  | false => exact .value (by simpa [FieldDeclaration.isRepeated] using hrepeated) hmap hmessage
  | true =>
    have hmany : f.cardinality = .repeated := by
      simpa [FieldDeclaration.isRepeated] using hrepeated
    simp only [if_true]
    cases hpack : f.packed with
    | true =>
      rw [if_pos rfl, if_pos (hpacked hpack)]
      exact .packed hmany (hpacked hpack) hpack
    | false =>
      rw [if_neg (by decide)]
      by_cases hpackable : f.type.isPackable = true
      · rw [if_pos hpackable]
        exact .unpacked hmany hpackable hpack
      · rw [if_neg hpackable]
        exact .appended hmany hmap hmessage (by simpa using hpackable)

theorem wireCompatible_message {type : String} (htype : f.type = .message type) :
    WireCompatible runtime f (writeStatements f) (readStatements runtime f) := by
  have hshape : f.shape = if f.isRepeated then .messages type else .message type := by
    rw [FieldDeclaration.shape, htype, FieldType.shape_message]
  rw [writeStatements, readStatements, WriteStatement.ofField, ReadStatement.ofField, writeForm,
    readForm, hshape]
  cases hmany : f.isRepeated with
  | true => exact .messages type (by simpa [FieldDeclaration.isRepeated] using hmany) htype
  | false => exact .message type (by simpa [FieldDeclaration.isRepeated] using hmany) htype

theorem wireCompatible_map {key : Scalar} {value : FieldType} (htype : f.type = .map key value)
    (hmap : value.isMap = false) :
    WireCompatible runtime f (writeStatements f) (readStatements runtime f) := by
  have hshape : f.shape = .map key value := by
    rw [FieldDeclaration.shape, htype, FieldType.shape_map]
  rw [writeStatements, readStatements, WriteStatement.ofField, ReadStatement.ofField, writeForm,
    readForm, hshape]
  cases value with
  | scalar scalar => exact .mapOfValues key _ htype rfl rfl
  | enumeration name => exact .mapOfValues key _ htype rfl rfl
  | message name => exact .mapOfMessages key name htype
  | map key' value' => cases hmap

end Compatible

/-- What the printer writes for a field is compatible if the values of a map are no maps and what is
packed may be. -/
theorem wireCompatible_ofField (runtime : String) {f : FieldDeclaration}
    (hmap : ∀ key value, f.type = .map key value → value.isMap = false)
    (hpacked : f.packed = true → f.type.isPackable = true) :
    WireCompatible runtime f (writeStatements f) (readStatements runtime f) := by
  cases htype : f.type with
  | map key value => exact wireCompatible_map runtime htype (hmap key value htype)
  | message type => exact wireCompatible_message runtime htype
  | scalar scalar =>
    exact wireCompatible_value runtime (by rw [htype]; rfl) (by rw [htype]; rfl) hpacked
  | enumeration name =>
    exact wireCompatible_value runtime (by rw [htype]; rfl) (by rw [htype]; rfl) hpacked

theorem paren_notMem_wireMethod (type : FieldType) : '(' ∉ type.wireMethod.toList := by
  cases type with
  | scalar scalar => cases scalar <;> decide
  | enumeration name => exact show '(' ∉ "Enum".toList by decide
  | message name => exact show '(' ∉ "Message".toList by decide
  | map key value => exact show '(' ∉ "Message".toList by decide

theorem writtenNumber?_guard (condition : String) :
    writtenNumber? ("if (" ++ condition ++ ")") = none := by
  have hstart : StartsWithin ['i'] ("if (" ++ condition ++ ")") := by
    rw [String.append_assoc]
    exact .literal_append (by decide)
  exact writtenNumber?_eq_none hstart (by decide)

/-- What is written for the parts of a map entry is no property. -/
theorem writtenNumber?_part {method part : String} (number rest : List Char)
    (hmethod : '(' ∉ method.toList) (hpart : part.toList = '(' :: (number ++ ',' :: rest))
    (hnumber : ',' ∉ number) (hrest : " this.".toList.isPrefixOf? rest = none) :
    writtenNumber? ("writer.write" ++ method ++ part) = none := by
  have htext : ("writer.write" ++ method ++ part).toList =
      "writer.write".toList ++ (method.toList ++ '(' :: (number ++ ',' :: rest)) := by
    simp [hpart]
  rw [writtenNumber?, htext, isPrefixOf?_append]
  simp only [Option.bind_eq_bind, Option.bind_some, Text.splitOnce?_append hmethod,
    Text.splitOnce?_append hnumber, hrest, Option.bind_none]

theorem filterMap_guarded {n : Int32} (hpos : 0 < n) (condition : String) {statement : String}
    (method rest : List Char) (hmethod : '(' ∉ method)
    (hstatement : statement.toList = "writer.write".toList ++ (method ++ '(' ::
      ((decimal n).toList ++ ',' :: (" this.".toList ++ rest)))) :
    ["if (" ++ condition ++ ")", statement].filterMap writtenNumber? = [n.toNatClampNeg] := by
  rw [List.filterMap_cons_none (writtenNumber?_guard condition),
    List.filterMap_cons_some (writtenNumber?_write hpos method rest hmethod hstatement),
    List.filterMap_nil]

/-- The statements for a map write one property, whatever they write for its values. -/
theorem filterMap_entries {f : FieldDeclaration} (hpos : 0 < f.number) (key : Scalar)
    {value : String} (hvalue : writtenNumber? value = none) :
    ["for (const [key, value] of " ++ ownProperty f ++ ") \x7b",
      "writer.writeMessage(" ++ decimal f.number ++ ", " ++ ownProperty f ++ ", () => \x7b",
      "writer.write" ++ key.wireMethod ++ "(1, key);", value, "\x7d);", "\x7d"].filterMap
        writtenNumber? = [f.number.toNatClampNeg] := by
  have hfor : writtenNumber? ("for (const [key, value] of " ++ ownProperty f ++ ") \x7b") =
      none := by
    have hstart : StartsWithin ['f'] ("for (const [key, value] of " ++ ownProperty f ++
        ") \x7b") := by
      rw [String.append_assoc]
      exact .literal_append (by decide)
    exact writtenNumber?_eq_none hstart (by decide)
  have hmessage : writtenNumber? ("writer.writeMessage(" ++ decimal f.number ++ ", " ++
      ownProperty f ++ ", () => \x7b") = some f.number.toNatClampNeg :=
    writtenNumber?_write hpos "Message".toList (f.name ++ ", () => \x7b").toList (by decide)
      (by simp [ownProperty])
  -- what is written inside an entry has the number of its part, and no property
  have hkey : writtenNumber? ("writer.write" ++ key.wireMethod ++ "(1, key);") = none :=
    writtenNumber?_part ['1'] " key);".toList (paren_notMem_wireMethod (.scalar key)) (by decide)
      (by decide) (by decide)
  have hclose : writtenNumber? "\x7d);" = none := by decide
  have hend : writtenNumber? "\x7d" = none := by decide
  rw [List.filterMap_cons_none hfor, List.filterMap_cons_some hmessage,
    List.filterMap_cons_none hkey, List.filterMap_cons_none hvalue,
    List.filterMap_cons_none hclose, List.filterMap_cons_none hend, List.filterMap_nil]

theorem oneLine_wireMethod (type : FieldType) : OneLine type.wireMethod := by
  cases type with
  | scalar scalar => cases scalar <;> exact oneLine_literal rfl
  | enumeration name => exact oneLine_literal rfl
  | message name => exact oneLine_literal rfl
  | map key value => exact oneLine_literal rfl

theorem oneLine_condition {f : FieldDeclaration} (hname : OneLine f.name)
    (hdefault : f.type.hasLength = false → OneLine f.defaultValue) :
    OneLine ((writeGuard f).condition f.name) := by
  unfold writeGuard
  split_ifs with hpresence hlength
  · exact oneLine_append.2 ⟨oneLine_literal rfl, hname⟩
  · simp only [WriteGuard.condition, oneLine_append]
    exact ⟨⟨oneLine_literal rfl, hname⟩, oneLine_literal rfl⟩
  · simp only [WriteGuard.condition, oneLine_append]
    exact ⟨⟨⟨oneLine_literal rfl, hname⟩, oneLine_literal rfl⟩, hdefault (by simpa using hlength)⟩

namespace WireCompatible

variable {runtime : String} {f : FieldDeclaration} {write read : List String}

/-- One of the statements writes a property, under the number of the field. -/
theorem filterMap_writtenNumber? (h : WireCompatible runtime f write read) (hpos : 0 < f.number) :
    write.filterMap writtenNumber? = [f.number.toNatClampNeg] := by
  have hmethod := paren_notMem_wireMethod f.type
  cases h with
  | value =>
    exact filterMap_guarded hpos _ f.type.wireMethod.toList (f.name.toList ++ ");".toList) hmethod
      (by simp [ownProperty])
  | packed =>
    exact filterMap_guarded hpos _ ("Packed".toList ++ f.type.wireMethod.toList)
      (f.name.toList ++ ");".toList) (by simp [hmethod]) (by simp [ownProperty])
  | unpacked | appended =>
    exact filterMap_guarded hpos _ ("Repeated".toList ++ f.type.wireMethod.toList)
      (f.name.toList ++ ");".toList) (by simp [hmethod]) (by simp [ownProperty])
  | message type =>
    exact filterMap_guarded hpos _ "Message".toList
      (f.name ++ ", () => this." ++ f.name ++ ".serialize(writer));").toList (by decide)
      (by simp [ownProperty])
  | messages type =>
    exact filterMap_guarded hpos _ "RepeatedMessage".toList
      (f.name ++ ", (item: " ++ type ++ ") => item.serialize(writer));").toList (by decide)
      (by simp [ownProperty])
  | mapOfValues key value =>
    have hvalue : writtenNumber? ("writer.write" ++ value.wireMethod ++ "(2, value);") = none :=
      writtenNumber?_part ['2'] " value);".toList (paren_notMem_wireMethod value) (by decide)
        (by decide) (by decide)
    exact filterMap_entries hpos key hvalue
  | mapOfMessages key type => exact filterMap_entries hpos key (by decide)

theorem startsWithin_write (h : WireCompatible runtime f write read) :
    ∀ text ∈ write, StartsWithin ['i', 'w', 'f', '\x7d'] text := by
  cases h with
  | mapOfValues key value =>
    simp only [String.append_assoc, List.forall_mem_cons]
    exact ⟨.literal_append (by decide), .literal_append (by decide), .literal_append (by decide),
      .literal_append (by decide), .literal (by decide), .literal (by decide),
      List.forall_mem_nil _⟩
  | mapOfMessages key type =>
    simp only [String.append_assoc, List.forall_mem_cons]
    exact ⟨.literal_append (by decide), .literal_append (by decide), .literal_append (by decide),
      .literal (by decide), .literal (by decide), .literal (by decide), List.forall_mem_nil _⟩
  | _ =>
    simp only [String.append_assoc, List.forall_mem_cons]
    exact ⟨.literal_append (by decide), .literal_append (by decide), List.forall_mem_nil _⟩

theorem startsWithin_read (h : WireCompatible "pb_1" f write read) :
    ∀ text ∈ read, StartsWithin ['m', 'r', 'p', 'l', '\x7d'] text := by
  cases h with
  | mapOfMessages key type =>
    simp only [String.append_assoc, List.forall_mem_cons]
    exact ⟨.literal_append (by decide), .literal (by decide), .literal_append (by decide),
      .literal (by decide), .literal (by decide), List.forall_mem_nil _⟩
  | _ =>
    simp only [readEither, readProperty, String.append_assoc, List.forall_mem_singleton]
    exact .literal_append (by decide)

theorem oneLine_write (h : WireCompatible runtime f write read) (hname : OneLine f.name)
    (hnumber : OneLine (decimal f.number)) (htype : f.type.OneLine)
    (hdefault : f.type.hasLength = false → OneLine f.defaultValue) :
    ∀ text ∈ write, OneLine text := by
  -- the parts of a text are literals, names, methods of the wire and decimals, one line each
  have hliteral : ∀ {cs : List Char}, cs.all (· != '\n') = true → OneLine (String.ofList cs) :=
    oneLine_literal
  have hmethod := oneLine_wireMethod f.type
  have hown : OneLine (ownProperty f) := oneLine_append.2 ⟨hliteral rfl, hname⟩
  cases h with
  | value =>
    have hcondition := oneLine_condition hname hdefault
    simp only [String.append_assoc, List.forall_mem_cons, oneLine_append]
    exact ⟨⟨hliteral rfl, hcondition, hliteral rfl⟩, ⟨hliteral rfl, hmethod, hliteral rfl, hnumber,
      hliteral rfl, hown, hliteral rfl⟩, List.forall_mem_nil _⟩
  | packed | unpacked | appended =>
    simp only [String.append_assoc, List.forall_mem_cons, oneLine_append]
    exact ⟨⟨hliteral rfl, hown, hliteral rfl, hliteral rfl⟩, ⟨hliteral rfl, hmethod, hliteral rfl,
      hnumber, hliteral rfl, hown, hliteral rfl⟩, List.forall_mem_nil _⟩
  | message type =>
    simp only [String.append_assoc, List.forall_mem_cons, oneLine_append]
    exact ⟨⟨hliteral rfl, hliteral rfl, hname, hliteral rfl⟩, ⟨hliteral rfl, hnumber, hliteral rfl,
      hown, hliteral rfl, hown, hliteral rfl⟩, List.forall_mem_nil _⟩
  | messages type _ hmessage =>
    have htype : OneLine type := by rwa [hmessage] at htype
    simp only [String.append_assoc, List.forall_mem_cons, oneLine_append]
    exact ⟨⟨hliteral rfl, hown, hliteral rfl, hliteral rfl⟩, ⟨hliteral rfl, hnumber, hliteral rfl,
      hown, hliteral rfl, htype, hliteral rfl⟩, List.forall_mem_nil _⟩
  | mapOfValues key value =>
    have hkey := oneLine_wireMethod (.scalar key)
    have hvalue := oneLine_wireMethod value
    simp only [String.append_assoc, List.forall_mem_cons, oneLine_append]
    exact ⟨⟨hliteral rfl, hown, hliteral rfl⟩, ⟨hliteral rfl, hnumber, hliteral rfl, hown,
      hliteral rfl⟩, ⟨hliteral rfl, hkey, hliteral rfl⟩, ⟨hliteral rfl, hvalue, hliteral rfl⟩,
      hliteral rfl, hliteral rfl, List.forall_mem_nil _⟩
  | mapOfMessages key type =>
    have hkey := oneLine_wireMethod (.scalar key)
    simp only [String.append_assoc, List.forall_mem_cons, oneLine_append]
    exact ⟨⟨hliteral rfl, hown, hliteral rfl⟩, ⟨hliteral rfl, hnumber, hliteral rfl, hown,
      hliteral rfl⟩, ⟨hliteral rfl, hkey, hliteral rfl⟩, hliteral rfl, hliteral rfl, hliteral rfl,
      List.forall_mem_nil _⟩

theorem oneLine_read (h : WireCompatible "pb_1" f write read) (hname : OneLine f.name)
    (hnumber : OneLine (decimal f.number)) (htype : f.type.OneLine) :
    ∀ text ∈ read, OneLine text := by
  have hliteral : ∀ {cs : List Char}, cs.all (· != '\n') = true → OneLine (String.ofList cs) :=
    oneLine_literal
  have hmethod := oneLine_wireMethod f.type
  have hproperty : OneLine (readProperty f) := oneLine_append.2 ⟨hliteral rfl, hname⟩
  cases h with
  | value =>
    simp only [List.forall_mem_singleton, String.append_assoc, oneLine_append]
    exact ⟨hproperty, hliteral rfl, hmethod, hliteral rfl⟩
  | packed | unpacked =>
    simp only [readEither, List.forall_mem_singleton, String.append_assoc, oneLine_append]
    exact ⟨hproperty, hliteral rfl, hproperty, hliteral rfl, hmethod, hliteral rfl, hmethod,
      hliteral rfl⟩
  | appended =>
    simp only [List.forall_mem_singleton, String.append_assoc, oneLine_append]
    exact ⟨hliteral rfl, hliteral rfl, hnumber, hliteral rfl, hmethod, hliteral rfl⟩
  | message type _ hmessage =>
    have htype : OneLine type := by rwa [hmessage] at htype
    simp only [List.forall_mem_singleton, String.append_assoc, oneLine_append]
    exact ⟨hliteral rfl, hproperty, hliteral rfl, hproperty, hliteral rfl, htype, hliteral rfl⟩
  | messages type _ hmessage =>
    have htype : OneLine type := by rwa [hmessage] at htype
    simp only [List.forall_mem_singleton, String.append_assoc, oneLine_append]
    exact ⟨hliteral rfl, hproperty, hliteral rfl, hliteral rfl, hliteral rfl, hnumber,
      hliteral rfl, htype, hliteral rfl, htype, hliteral rfl⟩
  | mapOfValues key value =>
    have hkey := oneLine_wireMethod (.scalar key)
    have hvalue := oneLine_wireMethod value
    simp only [List.forall_mem_singleton, String.append_assoc, oneLine_append]
    exact ⟨hliteral rfl, hliteral rfl, hliteral rfl, hproperty, hliteral rfl, hkey, hliteral rfl,
      hvalue, hliteral rfl⟩
  | mapOfMessages key type hmessage =>
    have hkey := oneLine_wireMethod (.scalar key)
    have htype : OneLine type := by rwa [hmessage] at htype
    simp only [String.append_assoc, List.forall_mem_cons, oneLine_append]
    exact ⟨⟨hliteral rfl, hliteral rfl, hliteral rfl, hproperty, hliteral rfl, hkey, hliteral rfl⟩,
      hliteral rfl, ⟨hliteral rfl, htype, hliteral rfl⟩, hliteral rfl, hliteral rfl,
      List.forall_mem_nil _⟩

end WireCompatible

end Script

end ProtoTypeScript
