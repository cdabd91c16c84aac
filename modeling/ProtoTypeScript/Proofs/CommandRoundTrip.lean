import ProtoTypeScript.Command
import ProtoTypeScript.Proofs.ErrorPrecedence
import ProtoTypeScript.Proofs.RequestWriting
import ProtoTypeScript.Proofs.ResponseDecoding

/-!
# The command and the generator

What the command makes of bytes is what the generator makes of the request that they encode.

* `command_responds`: each request that fits has an encoding; whatever fields that fit are inserted
  into one, the command writes a response that is received as the generator's, if that has one; and
  it refuses bytes that are no request;
* `command_refuses_reef`: a field that does not fit makes the command refuse the request, even a
  plain one. Nothing fits into a message at the lowest level.
-/

namespace ProtoTypeScript

open Wire

/-- **The command answers over the wire what the generator answers.** -/
theorem command_responds :
    (∀ r : Request, r.Fits maxDepth → r.encode.length < UInt64.size →
      r.Encodes fitting maxDepth r.encode) ∧
    (∀ (r : Request) (input : List UInt8), r.Encodes fitting maxDepth input → ¬ r.Overflows →
      ∃ response, r.answer? = some response ∧ (response.encode.length < UInt64.size →
        ∃ output, runCommand input = ⟨some 0, some output⟩ ∧
          ReceivedResponse.decode? output = some ⟨response.error, some 1, response.files⟩)) ∧
    ∀ input, Request.decode? input = none → runCommand input = ⟨some 1, none⟩ := by
  refine ⟨fun r hfits hlength => ?_, fun r input hinput hreturns => ?_, fun input hinput => ?_⟩
  · exact Request.encodes_encode hfits hlength
  · obtain ⟨response, hanswer⟩ :=
      Option.ne_none_iff_exists'.1 (Request.answer?_eq_none_iff.not.2 hreturns)
    refine ⟨response, hanswer, fun hlength => ⟨response.encode, ?_, ?_⟩⟩
    · exact runCommand_of_answer? (Request.decode?_of_encodes hinput) hanswer
    · exact ReceivedResponse.decode?_encode hlength
  · exact runCommand_of_decode?_eq_none hinput

/-! ### A request with inserted fields -/

/-- A request for a file with one enum. -/
def kelpRequest : Request where
  files := [{ name := "kelp.proto", enums := [{ name := "Kelp" }] }]

/-- A group of the number 12 with a number inside. -/
def kelpGroup : List UInt8 :=
  Varint.encode 99 ++ (varintField 1 7 ++ (Varint.encode 100 ++ []))

/-- The request, with the group inside the enum and a number in front of the file. -/
def kelpInput : List UInt8 :=
  varintField 4 1 ++ (bytesField 15 (textField 1 "kelp.proto" ++
    bytesField 5 (textField 1 "Kelp" ++ (kelpGroup ++ []))) ++ [])

theorem kelpEnum_encodes (levels : ℕ) : EnumDescriptor.Encodes fitting (levels + 2)
    { name := "Kelp" } (textField 1 "Kelp" ++ (kelpGroup ++ [])) := by
  have hinner : SpellsField ⟨1, .varint 7⟩ (varintField 1 7) :=
    spellsField_varintField (by decide) (by decide)
  have hgroup : Skipped (levels + 2) [⟨12, .group⟩] kelpGroup :=
    .group (spellsKey_encode (by decide) .groupStart) (.one hinner)
      (spellsKey_encode (by decide) .groupEnd) .nil
  refine ⟨[⟨1, textValue "Kelp"⟩], .present (.inl rfl) <| .absent .nil <|
    .absent (.inr ⟨rfl, rfl⟩) .nil, ?_⟩
  exact .own (spellsField_bytesField (by decide) (by decide +kernel)) (by decide) <|
    .inserted hgroup (by decide) .nil

theorem kelpRequest_encodes : kelpRequest.Encodes fitting maxDepth kelpInput := by
  have hfile : FileDescriptor.Encodes fitting 99
      { name := "kelp.proto", enums := [{ name := "Kelp" }] }
      (textField 1 "kelp.proto" ++ bytesField 5 (textField 1 "Kelp" ++ (kelpGroup ++ []))) := by
    refine ⟨[⟨1, textValue "kelp.proto"⟩, ⟨5, .bytes _⟩], ?_,
      .own (spellsField_bytesField (by decide) (by decide +kernel)) (by decide) <|
      .one (spellsField_bytesField (by decide) (by decide +kernel)) (by decide)⟩
    exact .present (.inl rfl) <| .absent (.inr ⟨rfl, rfl⟩) <| .absent .nil <| .absent .nil <|
      .present (.cons ⟨rfl, _, rfl, kelpEnum_encodes 96⟩ .nil) <| .absent .nil <|
      .absent (.inr ⟨rfl, rfl⟩) <| .absent .nil <| .absent (.inr ⟨rfl, rfl⟩) .nil
  have hnumber : SpellsField ⟨4, .varint 1⟩ (varintField 4 1) :=
    spellsField_varintField (by decide) (by decide)
  refine ⟨[⟨15, .bytes _⟩], ?_, .inserted (.one hnumber) (by decide) <|
    .own (spellsField_bytesField (by decide) (by decide +kernel)) (by decide) .nil⟩
  exact .absent .nil <| .absent (.inr ⟨rfl, rfl⟩) <| .absent (.inr ⟨rfl, rfl⟩) <|
    .present (.cons ⟨rfl, _, rfl, hfile⟩ .nil) .nil

theorem kelpRequest_fits : kelpRequest.Fits maxDepth where
  files := List.forall_mem_singleton.2
    { messages := List.forall_mem_nil _
      enums := List.forall_mem_singleton.2 (.inl ⟨rfl, rfl⟩)
      services := List.forall_mem_nil _
      options := .inl rfl }
  version := .inl rfl

theorem command_responds_kelp :
    (kelpRequest.Fits maxDepth ∧ kelpRequest.encode.length < UInt64.size ∧
      kelpRequest.Encodes fitting maxDepth kelpRequest.encode) ∧
    (kelpRequest.Encodes fitting maxDepth kelpInput ∧ ¬ kelpRequest.Overflows ∧
      ∃ response, kelpRequest.answer? = some response ∧ response.encode.length < UInt64.size ∧
        ∃ output, runCommand kelpInput = ⟨some 0, some output⟩ ∧ ReceivedResponse.decode? output =
          some ⟨response.error, some 1, response.files⟩) ∧
    Request.decode? [0] = none ∧ runCommand [0] = ⟨some 1, none⟩ := by
  have hshort : kelpRequest.encode.length < UInt64.size := by decide +kernel
  have hlength : ∃ response ∈ kelpRequest.answer?, response.encode.length < UInt64.size := by
    decide +kernel
  have hnone : Request.decode? [0] = none := by decide +kernel
  obtain ⟨response, hresponse, hlength⟩ := hlength
  have hreturns : ¬ kelpRequest.Overflows :=
    Request.answer?_eq_none_iff.not.1 (Option.ne_none_iff_exists'.2 ⟨response, hresponse⟩)
  obtain ⟨hencodes, hresponds, hrefuses⟩ := command_responds
  obtain ⟨_, hanswer, houtput⟩ := hresponds kelpRequest kelpInput kelpRequest_encodes hreturns
  obtain rfl := Option.some.inj (hresponse.symm.trans hanswer)
  exact ⟨⟨kelpRequest_fits, hshort, hencodes kelpRequest kelpRequest_fits hshort⟩,
    ⟨kelpRequest_encodes, hreturns, response, hresponse, hlength, houtput hlength⟩,
    hnone, hrefuses [0] hnone⟩

/-! ### A field that does not fit -/

/-- A plain field may be inserted into any message, and a group that fits. -/
def plainAnywhere : InsertionRule := fun levels f bytes =>
  SpellsField f bytes ∨ Skipped levels [f] bytes

namespace Wire

theorem merge?_eq_none_of_spells {α : Type} {levels : ℕ} {read : FieldReader α} {before : α}
    {f : Field} {bytes : List UInt8} (h : SpellsField f bytes)
    (hread : (read before f.number f.value).resolve levels before = none) :
    merge? levels read before bytes = none := by
  have htake := takeField?_of_spells h levels []
  rw [List.append_nil] at htake
  rw [merge?_of_takeField? htake, hread]
  rfl

/-- Where no level is left, a field that is not known makes a message malformed. -/
theorem merge?_zero_of_unknown {α : Type} {read : FieldReader α} {numbers : List ℕ} {before : α}
    {f : Field} {bytes : List UInt8} (hread : read.KnowsOnly numbers) (h : SpellsField f bytes)
    (hunknown : f.number ∉ numbers) : merge? 0 read before bytes = none := by
  refine merge?_eq_none_of_spells h ?_
  rw [hread before f.number f.value hunknown]
  rfl

end Wire

/-- Messages inside one another, with so many levels below the outermost. -/
def reefMessage : (levels : ℕ) → MessageDescriptor
  | 0 => {}
  | levels + 1 => { nested := [reefMessage levels] }

theorem reefMessage_fits (levels : ℕ) : (reefMessage levels).Fits levels := by
  induction levels with
  | zero =>
    exact ⟨List.forall_mem_nil _, List.forall_mem_nil _, List.forall_mem_nil _,
      .inl ⟨rfl, rfl, rfl⟩⟩
  | succ levels ih =>
    exact ⟨List.forall_mem_nil _, List.forall_mem_singleton.2 ih, List.forall_mem_nil _,
      .inl ⟨rfl, rfl, rfl⟩⟩

/-- The messages, with a number inserted into the innermost. -/
def reefMessageBytes : (levels : ℕ) → List UInt8
  | 0 => varintField 15 0
  | levels + 1 => bytesField 3 (reefMessageBytes levels)

theorem length_reefMessageBytes_le (levels : ℕ) (h : levels ≤ 98) :
    (reefMessageBytes levels).length ≤ 11 * levels + 2 := by
  induction levels with
  | zero => decide +kernel
  | succ levels ih =>
    have hle := ih (Nat.le_of_succ_le h)
    have hsize : 11 * 98 + 2 < Nat.pow 128 (9 + 1) := by decide
    have hlength := Varint.length_encode_le 9 (n := (reefMessageBytes levels).length) (by omega)
    have hkey : (Varint.encode (8 * 3 + 2)).length = 1 := by decide +kernel
    rw [reefMessageBytes, bytesField, List.length_append, List.length_append, hkey]
    omega

theorem spellsField_reefMessageBytes {number : ℕ} (hnumber : IsFieldNumber number) {levels : ℕ}
    (h : levels ≤ 98) : SpellsField ⟨number, .bytes (reefMessageBytes levels)⟩
      (bytesField number (reefMessageBytes levels)) := by
  have hle := length_reefMessageBytes_le levels h
  have hsize : 11 * 98 + 2 < UInt64.size := by decide
  exact spellsField_bytesField hnumber (by omega)

theorem reefMessage_encodes (levels : ℕ) (h : levels ≤ 98) :
    (reefMessage levels).Encodes plainAnywhere levels (reefMessageBytes levels) := by
  induction levels with
  | zero =>
    have hfield : SpellsField ⟨15, .varint 0⟩ (varintField 15 0) :=
      spellsField_varintField (by decide) (by decide)
    refine ⟨[], ?_, ?_⟩
    · exact .absent (.inr ⟨rfl, rfl⟩) <| .absent .nil <| .absent .nil <| .absent .nil <|
        .absent (.inr ⟨⟨rfl, rfl⟩, rfl⟩) <| .absent .nil .nil
    · rw [reefMessageBytes, ← List.append_nil (varintField 15 0)]
      exact .inserted (.inl hfield) (by decide) .nil
  | succ levels ih =>
    have hle := Nat.le_of_succ_le h
    refine ⟨[⟨3, .bytes (reefMessageBytes levels)⟩], ?_,
      .one (spellsField_reefMessageBytes (by decide) hle) (by simp [messageNumbers])⟩
    exact .absent (.inr ⟨rfl, rfl⟩) <| .absent .nil <|
      .present (.cons ⟨rfl, _, rfl, ih hle⟩ .nil) <| .absent .nil <|
      .absent (.inr ⟨⟨rfl, rfl⟩, rfl⟩) <| .absent .nil .nil

theorem merge?_reefMessageBytes (levels : ℕ) (h : levels ≤ 98) :
    merge? levels (readMessage levels) {} (reefMessageBytes levels) = none := by
  induction levels with
  | zero =>
    exact merge?_zero_of_unknown (readMessageFields_knowsOnly 0 _)
      (spellsField_varintField (by decide) (by decide)) (by decide)
  | succ levels ih =>
    have hle := Nat.le_of_succ_le h
    refine merge?_eq_none_of_spells (spellsField_reefMessageBytes (by decide) hle) ?_
    show (put (merge? levels (readMessage levels) {} (reefMessageBytes levels)) _).resolve _ _ =
      none
    rw [ih hle]
    rfl

/-- A request that is answered with an error, and has messages down to the lowest level. -/
def reefRequest : Request where
  parameter := "x"
  files := [{ messages := [reefMessage 98] }]

/-- The request, with the number in the innermost message. -/
def reefInput : List UInt8 :=
  textField 2 "x" ++ bytesField 15 (bytesField 4 (reefMessageBytes 98))

theorem command_refuses_reef : reefRequest.Fits maxDepth ∧
    reefRequest.Encodes plainAnywhere maxDepth reefInput ∧
    runCommand reefInput = ⟨some 1, none⟩ := by
  have hmessage : SpellsField ⟨4, .bytes (reefMessageBytes 98)⟩
      (bytesField 4 (reefMessageBytes 98)) :=
    spellsField_reefMessageBytes (by decide) (Nat.le_refl 98)
  have hfile : SpellsField ⟨15, .bytes (bytesField 4 (reefMessageBytes 98))⟩
      (bytesField 15 (bytesField 4 (reefMessageBytes 98))) :=
    spellsField_bytesField (by decide) (by decide +kernel)
  have hparameter : SpellsField ⟨2, textValue "x"⟩ (textField 2 "x") :=
    spellsField_bytesField (by decide) (by decide +kernel)
  refine ⟨?_, ?_, ?_⟩
  · exact ⟨List.forall_mem_singleton.2 ⟨List.forall_mem_singleton.2 (reefMessage_fits 98),
      List.forall_mem_nil _, List.forall_mem_nil _, .inl rfl⟩, .inl rfl⟩
  · have hencodes : FileDescriptor.Encodes plainAnywhere 99 { messages := [reefMessage 98] }
        (bytesField 4 (reefMessageBytes 98)) := by
      refine ⟨[⟨4, .bytes (reefMessageBytes 98)⟩], ?_, .one hmessage (by decide)⟩
      exact .absent (.inr ⟨rfl, rfl⟩) <| .absent (.inr ⟨rfl, rfl⟩) <| .absent .nil <|
        .present (.cons ⟨rfl, _, rfl, reefMessage_encodes 98 (Nat.le_refl 98)⟩ .nil) <|
        .absent .nil <| .absent .nil <| .absent (.inr ⟨rfl, rfl⟩) <| .absent .nil <|
        .absent (.inr ⟨rfl, rfl⟩) .nil
    refine ⟨[⟨2, textValue "x"⟩, ⟨15, .bytes _⟩], ?_,
      .own hparameter (by decide) (.one hfile (by decide))⟩
    exact .absent .nil <| .present (.inl rfl) <| .absent (.inr ⟨rfl, rfl⟩) <|
      .present (.cons ⟨rfl, _, rfl, hencodes⟩ .nil) .nil
  · refine runCommand_of_decode?_eq_none ?_
    have hnone : merge? 99 (readFile 99) default (bytesField 4 (reefMessageBytes 98)) = none := by
      refine merge?_eq_none_of_spells hmessage ?_
      show (put (merge? 98 (readMessage 98) {} (reefMessageBytes 98)) _).resolve _ _ = none
      rw [merge?_reefMessageBytes 98 (Nat.le_refl 98)]
      rfl
    rw [Request.decode?, reefInput, merge?_of_takeField? (takeField?_of_spells hparameter _ _)]
    show merge? maxDepth (readRequest maxDepth) { parameter := "x" } _ = none
    refine merge?_eq_none_of_spells hfile ?_
    show (put (merge? 99 (readFile 99) default (bytesField 4 (reefMessageBytes 98))) _).resolve
      _ _ = none
    rw [hnone]
    rfl

end ProtoTypeScript
