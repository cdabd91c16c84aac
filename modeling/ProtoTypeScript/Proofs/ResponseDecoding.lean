import ProtoTypeScript.Proofs.FieldWriting

/-!
# Reading responses

The compiler reads what the command writes. `ReceivedResponse.decode?` reads a response by the rules
that requests are read by, and `decode?_encode` says that it gets the error, the announced features
and the files of the response that was written, as long as this has fewer bytes than a length can
tell.
-/

namespace ProtoTypeScript

open Wire

/-! ### The reader -/

/-- A response as the compiler receives it. -/
structure ReceivedResponse where
  error : Option String := none
  supportedFeatures : Option ℕ := none
  files : List GeneratedFile := []
  deriving DecidableEq, Repr

namespace Wire

/-- A number without a sign. -/
def Value.number? : Value → Option ℕ
  | varint n => some n
  | _ => none

/-- A generated file. -/
def readGeneratedFile : FieldReader GeneratedFile := fun f number value =>
  match number with
  | 1 => put value.text? fun s => { f with name := s }
  | 15 => put value.text? fun s => { f with content := s }
  | _ => .unknown

/-- A response. -/
def readResponse (levels : ℕ) : FieldReader ReceivedResponse := fun r number value =>
  match number with
  | 1 => put value.text? fun s => { r with error := some s }
  | 2 => put value.number? fun n => { r with supportedFeatures := some n }
  | 15 => put (submessage? levels (fun _ => readGeneratedFile) ⟨"", ""⟩ value) fun f =>
      { r with files := r.files ++ [f] }
  | _ => .unknown

theorem readGeneratedFile_knowsOnly : FieldReader.KnowsOnly readGeneratedFile [1, 15] := by
  intro f number value hnumber
  unfold readGeneratedFile
  split
  all_goals first | rfl | exact absurd (by decide) hnumber

theorem readResponse_knowsOnly (levels : ℕ) :
    FieldReader.KnowsOnly (readResponse levels) [1, 2, 15] := by
  intro r number value hnumber
  unfold readResponse
  split
  all_goals first | rfl | exact absurd (by decide) hnumber

end Wire

/-- The response that bytes encode. -/
def ReceivedResponse.decode? (bytes : List UInt8) : Option ReceivedResponse :=
  merge? maxDepth (readResponse maxDepth) {} bytes

/-! ### What is written -/

/-- The bytes encode a generated file. -/
def GeneratedFile.Encodes (levels : ℕ) (f : GeneratedFile) : List UInt8 → Prop :=
  Spelled fitting [1, 15] levels [single 1 textValue "" f.name, single 15 textValue "" f.content]

theorem GeneratedFile.merge?_of_encodes {levels : ℕ} {f : GeneratedFile} {bytes : List UInt8}
    (h : f.Encodes levels bytes) : merge? levels readGeneratedFile ⟨"", ""⟩ bytes = some f :=
  merge?_of_spelled readGeneratedFile_knowsOnly h <|
    .cons (.single (fun f s => { f with name := s }) text?_textValue (fun _ => rfl) rfl) <|
    .cons (.single (fun f s => { f with content := s }) text?_textValue (fun _ => rfl) rfl) .nil

theorem GeneratedFile.encode_eq (f : GeneratedFile) :
    f.encode = encodeParts [[⟨1, textValue f.name⟩], [⟨15, textValue f.content⟩]] := by
  show textField 1 f.name ++ textField 15 f.content =
    textField 1 f.name ++ (textField 15 f.content ++ [])
  rw [List.append_nil]

theorem GeneratedFile.encodes_encode (levels : ℕ) {f : GeneratedFile}
    (h : f.encode.length < UInt64.size) : f.Encodes levels f.encode := by
  rw [encode_eq] at h ⊢
  exact spelled_encodeParts (by decide) (.cons (.single (by decide) (writable_textValue _)) <|
    .cons (.single (by decide) (writable_textValue _)) .nil) h

/-- The bytes encode a response. -/
def Response.Encodes (levels : ℕ) (r : Response) : List UInt8 → Prop :=
  Spelled fitting [1, 2, 15] levels
    [optional 1 textValue r.error, optional 2 Value.varint (some Response.supportedFeatures),
      repeated 15 (IsMessage (Inside GeneratedFile.Encodes levels)) r.files]

theorem Response.merge?_of_encodes {levels : ℕ} {r : Response} {bytes : List UInt8}
    (h : r.Encodes levels bytes) : merge? levels (readResponse levels) {} bytes =
      some ⟨r.error, some Response.supportedFeatures, r.files⟩ :=
  merge?_of_spelled (readResponse_knowsOnly levels) h <|
    .cons (.optional (fun r s => { r with error := s }) text?_textValue (fun _ => rfl) rfl) <|
    .cons (.optional (fun r n => { r with supportedFeatures := n }) (fun _ => rfl)
      (fun _ => rfl) rfl) <|
    .cons (.messages (fun r fs => { r with files := fs }) (fun _ _ => rfl)
      (fun _ _ _ => GeneratedFile.merge?_of_encodes) rfl) .nil

theorem Response.encode_eq (r : Response) :
    r.encode = encodeParts [optionalFields 1 textValue r.error,
      optionalFields 2 Value.varint (some supportedFeatures),
      repeatedFields 15 (fun f => .bytes f.encode) r.files] := by
  have hfiles : (repeatedFields 15 (fun f => .bytes f.encode) r.files).flatMap Field.encode =
      r.files.flatMap fun f => bytesField 15 f.encode := by
    rw [repeatedFields, List.flatMap_map]
    rfl
  unfold encode encodeParts
  rw [← hfiles]
  cases r.error with
  | none => simp [optionalFields, Field.encode]
  | some message => simp [optionalFields, Field.encode, textValue, textField]

theorem Response.encodes_encode (levels : ℕ) {r : Response} (h : r.encode.length < UInt64.size) :
    r.Encodes (levels + 1) r.encode := by
  have hfeatures : (Value.varint supportedFeatures).Writable := by
    show 1 < UInt64.size
    decide
  rw [encode_eq] at h ⊢
  exact spelled_encodeParts (by decide)
    (.cons (.optional (by decide) fun s _ => writable_textValue s) <|
    .cons (.optional (by decide) fun _ hn => Option.mem_some.1 hn ▸ hfeatures) <|
    .cons (.messages (by decide) fun _ _ => GeneratedFile.encodes_encode levels) .nil) h

/-- A response that was written is received as it was. -/
theorem ReceivedResponse.decode?_encode {r : Response} (h : r.encode.length < UInt64.size) :
    ReceivedResponse.decode? r.encode = some ⟨r.error, some Response.supportedFeatures, r.files⟩ :=
  Response.merge?_of_encodes (Response.encodes_encode 99 h)

end ProtoTypeScript
