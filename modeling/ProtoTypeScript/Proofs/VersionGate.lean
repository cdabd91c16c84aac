import ProtoTypeScript.Proofs.ErrorPrecedence
import ProtoTypeScript.Proofs.ParameterWriting
import ProtoTypeScript.Proofs.PrintedLines

/-!
# The gate for versions

A run is refused if the code that it would generate cannot be compiled by the version of TypeScript
that its parameter names.

* `TypeScriptVersion.ofName_numbers`: one to three numbers between points are read as a version;
* `refusal` is the text that names the refused version, and no other error has such a text
  (`Error.isRefusal_of_message`);
* `NeverRefuses` says that a stage of a run does not refuse versions, which holds of all stages but
  one (`Request.FailsWith.version_of_isRefusal`);
* `version_gate`: a response is a refusal exactly if the version is below 4.9, whatever else is
  wrong with the request.
-/

namespace ProtoTypeScript

open Outcome

/-! ### Versions and their texts -/

namespace TypeScriptVersion

theorem point_notMem_toString (n : Nat) : '.' ∉ (toString n).toList :=
  fun hmem => absurd (Text.Numeral.isDigit_of_mem_toString hmem) (by decide)

/-- Numbers between points are read one by one. -/
theorem mapM_splitOn_joinWith (numbers : List UInt32) (hne : numbers ≠ []) :
    (Text.splitOn '.' (Text.joinWith "." (numbers.map fun n => toString n.toNat)).toList).mapM
      Text.Numeral.parseUInt32? = some numbers := by
  have hparts : ∀ part ∈ numbers.map (fun n => toString n.toNat), '.' ∉ part.toList :=
    List.forall_mem_map.2 fun n _ => point_notMem_toString n.toNat
  rw [Text.splitOn_joinWith rfl hparts (by simpa using hne), List.map_map]
  clear hne hparts
  induction numbers with
  | nil => rfl
  | cons n numbers ih =>
    rw [List.map_cons, List.mapM_cons, Function.comp_apply, Text.Numeral.parseUInt32?_toString, ih]
    rfl

/-- A major number alone, one with a minor number, and both with a number that is not kept. -/
theorem ofName_numbers (major minor patch : UInt32) :
    ofName (toString major.toNat) = .ok ⟨major, 0⟩ ∧
    ofName (toString major.toNat ++ "." ++ toString minor.toNat) = .ok ⟨major, minor⟩ ∧
    ofName (toString major.toNat ++ "." ++ toString minor.toNat ++ "." ++ toString patch.toNat) =
      .ok ⟨major, minor⟩ := by
  have hone := mapM_splitOn_joinWith [major] (by simp)
  have htwo := mapM_splitOn_joinWith [major, minor] (by simp)
  have hthree := mapM_splitOn_joinWith [major, minor, patch] (by simp)
  simp only [List.map_cons, List.map_nil, Text.joinWith, ← String.append_assoc] at hone htwo hthree
  refine ⟨?_, ?_, ?_⟩
  · rw [ofName, parse?, hone]
  · rw [ofName, parse?, htwo]
  · rw [ofName, parse?, hthree]

theorem text_injective : Function.Injective text := by
  intro v w h
  rw [← Option.some.injEq, ← parse?_text v, h, parse?_text]

/-- Below the minimum the major number decides first, then the minor one. -/
theorem isSupported_eq_false_iff (v : TypeScriptVersion) :
    v.isSupported = false ↔ v.major < 4 ∨ v.major = 4 ∧ v.minor < 9 := by
  rw [← Bool.not_eq_true, isSupported_iff, UInt32.lt_iff_toNat_lt, UInt32.lt_iff_toNat_lt,
    ← UInt32.toNat_inj]
  change _ ↔ v.major.toNat < 4 ∨ v.major.toNat = 4 ∧ v.minor.toNat < 9
  omega

end TypeScriptVersion

/-! ### Refusals -/

/-- The text that refuses a version. -/
def refusal (major minor : UInt32) : String :=
  "protoc-gen-ts requires TypeScript 4.9 or above, but the target is " ++
    toString major.toNat ++ "." ++ toString minor.toNat ++ "."

theorem refusal_eq (v : TypeScriptVersion) : refusal v.major v.minor =
    "protoc-gen-ts requires TypeScript 4.9 or above, but the target is " ++ v.text ++ "." := by
  unfold refusal TypeScriptVersion.text
  simp only [String.append_assoc]

theorem eq_of_refusal_eq {v w : TypeScriptVersion}
    (h : refusal v.major v.minor = refusal w.major w.minor) : v = w := by
  rw [refusal_eq, refusal_eq, String.append_left_inj, String.append_right_inj] at h
  exact TypeScriptVersion.text_injective h

theorem StartsWithin.append {cs : List Char} {s : String} (h : StartsWithin cs s) (t : String) :
    StartsWithin cs (s ++ t) := by
  obtain ⟨c, hc, hhead⟩ := h
  exact ⟨c, hc, by rw [String.toList_append, List.head?_append, hhead]; rfl⟩

theorem startsWithin_refusal (v : TypeScriptVersion) :
    StartsWithin ['p'] (refusal v.major v.minor) := by
  rw [refusal_eq]
  exact ((StartsWithin.literal (by decide)).append _).append _

namespace Error

/-- The error refuses a version. -/
def IsRefusal : Error → Prop
  | .unsupportedTypeScript _ _ => True
  | _ => False

theorem message_unsupportedTypeScript (v : TypeScriptVersion) :
    (unsupportedTypeScript .minimum v).message = refusal v.major v.minor := by
  have hfront : "protoc-gen-ts requires TypeScript " ++ TypeScriptVersion.minimum.text ++
      " or above, but the target is " =
      "protoc-gen-ts requires TypeScript 4.9 or above, but the target is " := by decide +kernel
  rw [refusal_eq, ← hfront]
  rfl

/-- The texts of the other errors start with other words. -/
theorem startsWithin_message {e : Error} (h : ¬ e.IsRefusal) :
    StartsWithin ['u', '`', 'm', 'i'] e.message := by
  cases e with
  | unsupportedTypeScript minimum found => exact absurd trivial h
  | unresolvedType typeName file =>
    exact ((((StartsWithin.literal (by decide)).append _).append _).append _).append _
  | missingDependency file dependency =>
    exact ((((StartsWithin.literal (by decide)).append _).append _).append _).append _
  | malformedMapEntry name => exact ((StartsWithin.literal (by decide)).append _).append _
  | invalidDefault field value =>
    exact ((((StartsWithin.literal (by decide)).append _).append _).append _).append _
  | unknownOption key => exact ((StartsWithin.literal (by decide)).append _).append _
  | invalidOption key value =>
    exact ((((StartsWithin.literal (by decide)).append _).append _).append _).append _

theorem isRefusal_of_message {e : Error} {v : TypeScriptVersion}
    (h : e.message = refusal v.major v.minor) : e.IsRefusal := by
  by_contra hother
  obtain ⟨c, hc, hhead⟩ := startsWithin_message hother
  rw [h] at hhead
  refine (startsWithin_refusal v).head?_ne ?_ hhead
  rw [List.mem_singleton]
  rintro rfl
  exact absurd hc (by decide)

end Error

/-! ### Stages that do not refuse -/

/-- If the computation fails, then not because of the version. -/
def NeverRefuses {α : Type} (x : Except Error α) : Prop :=
  ∀ e, x = .error e → ¬ e.IsRefusal

namespace NeverRefuses

variable {α β : Type}

theorem ok (a : α) : NeverRefuses (.ok a) :=
  fun _ h => nomatch h

theorem error {e : Error} (h : ¬ e.IsRefusal) : NeverRefuses (.error e : Except Error α) :=
  fun _ he => Except.error.inj he ▸ h

theorem bind {x : Except Error α} {f : α → Except Error β} (hx : NeverRefuses x)
    (hf : ∀ a, NeverRefuses (f a)) : NeverRefuses (x >>= f) := by
  intro e h
  rcases bind_eq_error_iff.1 h with h | ⟨a, -, h⟩
  · exact hx e h
  · exact hf a e h

/-- What is computed from a result is no further stage. -/
theorem bind_pure {x : Except Error α} (hx : NeverRefuses x) (f : α → β) :
    NeverRefuses (x >>= fun a => pure (f a)) :=
  hx.bind fun a => ok (f a)

end NeverRefuses

namespace Setting

theorem neverRefuses_required (key : String) (value : Option String) :
    NeverRefuses (required key value) := by
  unfold required
  split
  · exact .error id
  · split
    · exact .error id
    · exact .ok _

theorem neverRefuses_flag (key : String) (value : Option String) :
    NeverRefuses (flag key value) := by
  unfold flag
  split
  · exact .ok _
  · split
    · exact .ok _
    · split
      · exact .ok _
      · exact .error id

theorem neverRefuses_targetOfName (name : String) : NeverRefuses (Target.ofName name) := by
  unfold Target.ofName
  split
  · exact .ok _
  · split
    · exact .ok _
    · exact .error id

theorem neverRefuses_versionOfName (name : String) :
    NeverRefuses (TypeScriptVersion.ofName name) := by
  unfold TypeScriptVersion.ofName
  split
  · exact .ok _
  · exact .error id

theorem neverRefuses_ofToken (token : List Char) : NeverRefuses (ofToken token) := by
  unfold ofToken ofKeyValue
  generalize (keyValue token).1 = key
  generalize (keyValue token).2 = value
  split
  · exact (neverRefuses_required _ _).bind fun name => (neverRefuses_targetOfName name).bind_pure _
  split
  · exact (neverRefuses_required _ _).bind_pure _
  split
  · exact (neverRefuses_required _ _).bind fun name =>
      (neverRefuses_versionOfName name).bind_pure _
  split
  · exact (neverRefuses_flag _ _).bind_pure _
  split
  · exact (neverRefuses_flag _ _).bind_pure _
  split
  · exact (neverRefuses_flag _ _).bind_pure _
  split
  · exact (neverRefuses_flag _ _).bind_pure _
  split
  · exact (neverRefuses_flag _ _).bind_pure _
  · exact .error id

end Setting

namespace FileScope

variable (s : FileScope)

theorem neverRefuses_resolve (typeName : String) : NeverRefuses (s.resolve typeName) := by
  unfold resolve TypeTable.resolve
  split
  · exact .ok _
  · exact .error id

theorem neverRefuses_typeExpression (r : TypeRecord) : NeverRefuses (s.typeExpression r) := by
  unfold typeExpression
  split
  · exact .ok _
  · split
    · exact .error id
    · split <;> exact .ok _

variable {s} in
theorem TypeFails.not_isRefusal {f : FieldDescriptor} {e : Error} (h : s.TypeFails f e) :
    ¬ e.IsRefusal := by
  induction h with
  | unresolved _ hr => exact s.neverRefuses_resolve _ _ hr
  | inexpressible _ _ _ hname => exact s.neverRefuses_typeExpression _ _ hname
  | malformed => exact id
  | value _ _ _ _ ih => exact ih

theorem neverRefuses_defaultValue (f : FieldDescriptor) (type : FieldType) (c : Cardinality) :
    NeverRefuses (s.defaultValue f type c) := by
  unfold defaultValue
  split
  · exact .ok _
  cases type with
  | map key value => exact .ok _
  | message name => exact .ok _
  | enumeration name =>
    change NeverRefuses (s.enumDefault f name)
    unfold enumDefault
    split
    · exact .ok _
    · refine (s.neverRefuses_resolve _).bind fun r => ?_
      split <;> exact .ok _
  | scalar scalar =>
    change NeverRefuses (scalarDefault f scalar)
    unfold scalarDefault
    split
    · exact .ok _
    · split
      · exact .ok _
      · exact .error id

variable {s} in
theorem not_isRefusal_of_fieldDeclaration {f : FieldDescriptor} {e : Error}
    (h : s.fieldDeclaration f = .error (.reported e)) : ¬ e.IsRefusal := by
  rcases bind_eq_error_iff.1 h with htype | ⟨type, -, h⟩
  · exact (typeFails_of_fieldType htype).not_isRefusal
  rcases bind_eq_error_iff.1 h with hdefault | ⟨value, -, h⟩
  · exact s.neverRefuses_defaultValue f type _ e (report_eq_reported_iff.1 hdefault)
  · cases h

theorem neverRefuses_method (service : String) (m : MethodDescriptor) :
    NeverRefuses (s.method service m) :=
  (s.neverRefuses_resolve _).bind fun input => (s.neverRefuses_typeExpression input).bind fun _ =>
    (s.neverRefuses_resolve _).bind fun output =>
      (s.neverRefuses_typeExpression output).bind_pure _

end FileScope

/-- The error of a file is that of a field or of a method. -/
theorem SourceFile.not_isRefusal_of_ofDescriptor {c : Config} {table : TypeTable}
    {version : CompilerVersion} {file : FileDescriptor} {e : Error}
    (h : SourceFile.ofDescriptor c table version file = .error (.reported e)) : ¬ e.IsRefusal := by
  rcases ofDescriptor_eq_error_iff.1 h with hfields | ⟨-, e', hsame, hrpc⟩
  · obtain ⟨f, -, hfield⟩ := hfields.exists_mem
    exact FileScope.not_isRefusal_of_fieldDeclaration hfield
  · obtain rfl := Failure.reported.inj hsame
    obtain ⟨-, d, -, m, -, hmethod⟩ := FileScope.exists_method_of_rpcDeclarations_eq_error hrpc
    exact FileScope.neverRefuses_method _ d.name m e hmethod

/-! ### The gate -/

namespace Request

variable {r : Request}

/-- The only stage that refuses is the one that looks at the version. -/
theorem FailsWith.version_of_isRefusal {e : Error} (h : r.FailsWith (.reported e))
    (he : e.IsRefusal) : ∃ c, Config.ofParameter r.parameter = .ok c ∧
      c.tsVersion.isSupported = false ∧ e = .unsupportedTypeScript .minimum c.tsVersion := by
  cases h with
  | parameter h =>
    obtain ⟨before, token, after, -, -, htoken⟩ := h
    exact absurd he (Setting.neverRefuses_ofToken token e htoken)
  | version hc h => exact ⟨_, hc, h, rfl⟩
  | mapEntry => exact he.elim
  | file hc hversion hentries h =>
    obtain ⟨f, -, hf⟩ := h.exists_mem
    exact absurd he (SourceFile.not_isRefusal_of_ofDescriptor hf)

theorem answer?_eq_of_error {e : Error} (h : r.FailsWith (.reported e)) :
    r.answer? = some ⟨some e.message, []⟩ := by
  rw [answer?, run_eq_error_iff.2 h]
  rfl

theorem failsWith_of_error {response : Response} {text : String}
    (hanswer : r.answer? = some response) (h : response.error = some text) :
    ∃ e, r.FailsWith (.reported e) ∧ e.message = text := by
  rw [answer?] at hanswer
  cases hr : r.run with
  | error failure =>
    rw [hr] at hanswer
    cases failure with
    | reported e =>
      obtain rfl := Option.some.inj hanswer
      exact ⟨e, run_eq_error_iff.1 hr, Option.some.inj h⟩
    | stackOverflow => cases hanswer
  | ok files =>
    rw [hr] at hanswer
    obtain rfl := Option.some.inj hanswer
    cases h

/-- A response with the text of a refusal refuses the version of the parameter. -/
theorem exists_config_of_refusal {v : TypeScriptVersion} {response : Response}
    (hanswer : r.answer? = some response)
    (h : response.error = some (refusal v.major v.minor)) :
    ∃ c, Config.ofParameter r.parameter = .ok c ∧ c.tsVersion = v ∧
      (v.major < 4 ∨ v.major = 4 ∧ v.minor < 9) := by
  obtain ⟨e, he, hmessage⟩ := failsWith_of_error hanswer h
  obtain ⟨c, hc, hold, rfl⟩ := he.version_of_isRefusal (Error.isRefusal_of_message hmessage)
  rw [Error.message_unsupportedTypeScript] at hmessage
  obtain rfl := eq_of_refusal_eq hmessage
  exact ⟨c, hc, rfl, (TypeScriptVersion.isSupported_eq_false_iff _).1 hold⟩

end Request

/-- **The gate for versions.** A response refuses the version of the parameter, with both of its
numbers and without files, exactly if it is below 4.9, whatever the files of the request are; no
other response has the text of a refusal, that of a request with a broken parameter included. One to
three numbers name a version, and the text of a version is read as that version. -/
theorem version_gate (r : Request) :
    (∀ c, Config.ofParameter r.parameter = .ok c →
      (r.answer? = some ⟨some (refusal c.tsVersion.major c.tsVersion.minor), []⟩ ↔
        c.tsVersion.major < 4 ∨ c.tsVersion.major = 4 ∧ c.tsVersion.minor < 9)) ∧
    (∀ response ∈ r.answer?, ∀ major minor, response.error = some (refusal major minor) →
      ∃ c, Config.ofParameter r.parameter = .ok c ∧ c.tsVersion = ⟨major, minor⟩ ∧
        (major < 4 ∨ major = 4 ∧ minor < 9)) ∧
    (∀ major minor patch : UInt32,
      TypeScriptVersion.ofName (toString major.toNat) = .ok ⟨major, 0⟩ ∧
      TypeScriptVersion.ofName (toString major.toNat ++ "." ++ toString minor.toNat) =
        .ok ⟨major, minor⟩ ∧
      TypeScriptVersion.ofName (toString major.toNat ++ "." ++ toString minor.toNat ++ "." ++
        toString patch.toNat) = .ok ⟨major, minor⟩) ∧
    ∀ v : TypeScriptVersion, TypeScriptVersion.ofName v.text = .ok v := by
  refine ⟨fun c hc => ⟨fun h => ?_, fun hold => ?_⟩, fun response hanswer major minor h => ?_,
    TypeScriptVersion.ofName_numbers, Setting.ofName_text⟩
  · obtain ⟨-, -, -, hold⟩ := Request.exists_config_of_refusal h rfl
    exact hold
  · have hunsupported := (TypeScriptVersion.isSupported_eq_false_iff _).2 hold
    rw [Request.answer?_eq_of_error (.version hc hunsupported),
      Error.message_unsupportedTypeScript]
  · exact Request.exists_config_of_refusal (v := ⟨major, minor⟩) hanswer h

/-- A map entry without fields and a reference to a type that is nowhere declared. -/
def heathMessage : MessageDescriptor where
  name := "Heath"
  fields := [{ name? := "moor", number? := some 1, type? := some 11, typeName? := ".Bog" }]
  nested := [{ name := "PeatEntry", mapEntry := true }]

def heathRequest : Request where
  parameter := "ts_version=4.8.4"
  files := [{ name := "heath.proto", messages := [heathMessage] }]

theorem version_gate_heath :
    heathRequest.answer? = some ⟨some
      "protoc-gen-ts requires TypeScript 4.9 or above, but the target is 4.8.", []⟩ ∧
    { heathRequest with parameter := "ts_version=4.10" }.answer? ≠
      some ⟨some (refusal 4 10), []⟩ := by
  have hold : Config.ofParameter heathRequest.parameter =
      .ok { Config.default with tsVersion := ⟨4, 8⟩ } := by decide +kernel
  have hten : Config.ofParameter "ts_version=4.10" =
      .ok { Config.default with tsVersion := ⟨4, 10⟩ } := by decide +kernel
  have htext : refusal 4 8 =
      "protoc-gen-ts requires TypeScript 4.9 or above, but the target is 4.8." := by
    decide +kernel
  constructor
  · rw [← htext]
    exact ((version_gate heathRequest).1 _ hold).2 (by decide)
  · intro h
    exact absurd (((version_gate { heathRequest with parameter := "ts_version=4.10" }).1 _
      hten).1 h) (by decide)

end ProtoTypeScript
