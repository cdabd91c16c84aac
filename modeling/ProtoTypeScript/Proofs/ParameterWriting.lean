import ProtoTypeScript.Generator
import ProtoTypeScript.Proofs.ConfigSettings

/-!
# Configurations written as parameters

Every configuration can be written as a parameter, in many ways: its eight settings may come in any
order, white space may stand around tokens, keys and values, blank tokens may stand between them,
and a flag that is set may be written as its bare key.

* `Setting.Spelling` are the ways to write one setting, and `Setting.Spellings` those to write a
  list of settings between commas;
* `Setting.IsValue` are the texts that can be values: a comma, or white space at the ends, would not
  be read as part of the value;
* `Setting.Spelling.exists_token`: a setting that is written is one token, which makes it again;
* `Config.foldl_apply_eq`: the eight settings, made in any order, give the configuration;
* `configuration_as_parameter` puts them together.
-/

namespace ProtoTypeScript

open Outcome

/-! ### Settings as texts -/

/-- The name of a target. -/
def Target.name : Target → String
  | .node => "node"
  | .web => "web"

namespace Setting

/-- The value as it is written behind the key. -/
def valueText : Setting → String
  | target t => t.name
  | grpcPackage p => p
  | tsVersion v => v.text
  | noNamespace b | noGrpc b | unaryRpcPromise b | jsonNames b | explicitOverride b => toString b

/-- The setting is a flag that is set. -/
def IsSetFlag : Setting → Prop
  | target _ | grpcPackage _ | tsVersion _ => False
  | noNamespace b | noGrpc b | unaryRpcPromise b | jsonNames b | explicitOverride b => b = true

/-- The text can be a value: there is some of it, without commas or white space at its ends. -/
structure IsValue (text : String) : Prop where
  ne_empty : text ≠ ""
  comma_notMem : ',' ∉ text.toList
  isTrimmed : Text.IsTrimmed text.toList

/-- The texts that make a setting. -/
inductive Spelling (s : Setting) : String → Prop
  /-- The key, an equals sign and the value, with white space around each of them. -/
  | keyValue (before afterKey beforeValue after : String) :
    Text.AllBlank before.toList → Text.AllBlank afterKey.toList →
    Text.AllBlank beforeValue.toList → Text.AllBlank after.toList →
    Spelling s (before ++ s.key.name ++ afterKey ++ "=" ++ beforeValue ++ s.valueText ++ after)
  /-- The bare key of a flag that is set. -/
  | bareKey (before after : String) :
    Text.AllBlank before.toList → Text.AllBlank after.toList → s.IsSetFlag →
    Spelling s (before ++ s.key.name ++ after)

/-- The parts between commas that make settings, in their order. -/
inductive Spellings : List Setting → List String → Prop
  | nil : Spellings [] []
  | blank {settings : List Setting} {parts : List String} (part : String) :
    Text.AllBlank part.toList → Spellings settings parts → Spellings settings (part :: parts)
  | cons {s : Setting} {settings : List Setting} {part : String} {parts : List String} :
    s.Spelling part → Spellings settings parts → Spellings (s :: settings) (part :: parts)

/-- The setting as `key=value`. -/
def text (s : Setting) : String :=
  s.key.name ++ "=" ++ s.valueText

theorem spelling_text (s : Setting) : s.Spelling s.text := by
  have h := Spelling.keyValue (s := s) "" "" "" "" Text.allBlank_nil Text.allBlank_nil
    Text.allBlank_nil Text.allBlank_nil
  simpa [text] using h

theorem spellings_text (settings : List Setting) : Spellings settings (settings.map text) := by
  induction settings with
  | nil => exact .nil
  | cons s settings ih => exact .cons (spelling_text s) ih

/-! ### Keys and values -/

/-- A key has no comma, no equals sign and no white space. -/
theorem Key.forall_mem_name (k : Key) :
    ∀ c ∈ k.name.toList, c ≠ ',' ∧ c ≠ '=' ∧ Text.isBlank c = false := by
  cases k <;> simp [Key.name, Text.isBlank]

theorem Key.toList_name_ne_nil (k : Key) : k.name.toList ≠ [] := by
  cases k <;> simp [Key.name]

theorem Key.isTrimmed_name (k : Key) : Text.IsTrimmed k.name.toList :=
  Text.isTrimmed_of_forall fun c hc => (k.forall_mem_name c hc).2.2

theorem isValue_text (v : TypeScriptVersion) : IsValue v.text := by
  have hchars : ∀ c ∈ v.text.toList, c ≠ ',' ∧ Text.isBlank c = false := by
    intro c hc
    rcases TypeScriptVersion.isDigit_or_eq_of_mem_text hc with h | rfl
    · refine ⟨?_, Text.isBlank_eq_false_of_isDigit h⟩
      rintro rfl
      revert h
      decide
    · decide
  refine ⟨?_, fun hmem => (hchars ',' hmem).1 rfl,
    Text.isTrimmed_of_forall fun c hc => (hchars c hc).2⟩
  intro h
  have hlist := v.toList_text
  rw [h] at hlist
  simp at hlist

theorem isValue_valueText {s : Setting} (h : ∀ p, s = .grpcPackage p → IsValue p) :
    IsValue s.valueText := by
  cases s with
  | target t => cases t <;> exact ⟨by decide, by decide, by decide⟩
  | grpcPackage p => exact h p rfl
  | tsVersion v => exact isValue_text v
  | noNamespace b | noGrpc b | unaryRpcPromise b | jsonNames b | explicitOverride b =>
    cases b <;> exact ⟨by decide, by decide, by decide⟩

/-! ### Settings read back -/

theorem ofName_name (t : Target) : Target.ofName t.name = .ok t := by
  cases t <;> rfl

theorem ofName_text (v : TypeScriptVersion) : TypeScriptVersion.ofName v.text = .ok v := by
  rw [TypeScriptVersion.ofName, v.parse?_text]

theorem flag_toString (key : String) (b : Bool) : flag key (some (toString b)) = .ok b := by
  cases b <;> rfl

/-- A key with the value of a setting makes the setting. -/
theorem ofKeyValue_valueText {s : Setting} (h : s.valueText ≠ "") :
    ofKeyValue s.key.name (some s.valueText) = .ok s := by
  have hrequired : ∀ key, required key (some s.valueText) = .ok s.valueText := by
    intro key
    rw [required, if_neg h]
  cases s with
  | target t =>
    exact bind_eq_ok_iff.2 ⟨t.name, hrequired _, bind_eq_ok_iff.2 ⟨t, ofName_name t, rfl⟩⟩
  | grpcPackage p =>
    exact bind_eq_ok_iff.2 ⟨p, hrequired _, rfl⟩
  | tsVersion v =>
    exact bind_eq_ok_iff.2 ⟨v.text, hrequired _, bind_eq_ok_iff.2 ⟨v, ofName_text v, rfl⟩⟩
  | noNamespace b | noGrpc b | unaryRpcPromise b | jsonNames b | explicitOverride b =>
    exact bind_eq_ok_iff.2 ⟨b, flag_toString _ b, rfl⟩

/-- The bare key of a flag sets it. -/
theorem ofKeyValue_none {s : Setting} (h : s.IsSetFlag) :
    ofKeyValue s.key.name none = .ok s := by
  cases s <;> cases h <;> rfl

/-- The key and the value of a token are cut apart at its first equals sign. -/
theorem keyValue_append {name afterKey beforeValue value : List Char}
    (hname : '=' ∉ name) (htrimmed : Text.IsTrimmed name) (hafter : Text.AllBlank afterKey)
    (hbefore : Text.AllBlank beforeValue) (hvalue : Text.IsTrimmed value) :
    keyValue (name ++ afterKey ++ '=' :: (beforeValue ++ value)) =
      (String.ofList name, some (String.ofList value)) := by
  have hkey : '=' ∉ name ++ afterKey := by
    rw [List.mem_append, not_or]
    exact ⟨hname, hafter.notMem (by decide)⟩
  have htrimKey : Text.trimBlanks (name ++ afterKey) = name :=
    Text.trimBlanks_append Text.allBlank_nil htrimmed hafter
  have htrimValue : Text.trimBlanks (beforeValue ++ value ++ []) = value :=
    Text.trimBlanks_append hbefore hvalue Text.allBlank_nil
  rw [List.append_nil] at htrimValue
  rw [keyValue, Text.splitOnce?_append hkey]
  simp only [htrimKey, htrimValue]

/-- A setting that is written is one token, which makes it again. -/
theorem Spelling.exists_token {s : Setting} {part : String} (h : s.Spelling part)
    (hvalue : IsValue s.valueText) :
    ∃ token, tokens part = [token] ∧ ofToken token = .ok s := by
  have hcomma : ',' ∉ s.key.name.toList := fun hmem => (s.key.forall_mem_name _ hmem).1 rfl
  have hequals : '=' ∉ s.key.name.toList := fun hmem => (s.key.forall_mem_name _ hmem).2.1 rfl
  cases h with
  | keyValue before afterKey beforeValue after hbefore hafterKey hbeforeValue hafter =>
    have hvalueNe : s.valueText.toList ≠ [] := by simpa using hvalue.ne_empty
    -- without its outer blanks the token reaches from the key to the end of the value
    refine ⟨s.key.name.toList ++ (afterKey.toList ++ '=' :: beforeValue.toList) ++
      s.valueText.toList, ?_, ?_⟩
    · refine tokens_of_framed (by simp) hbefore hafter
        (s.key.isTrimmed_name.append s.key.toList_name_ne_nil hvalue.isTrimmed hvalueNe _)
        (by simp) ?_
      simp [hcomma, hvalue.comma_notMem, hafterKey.notMem, hbeforeValue.notMem, Text.isBlank]
    · have hcut := keyValue_append hequals s.key.isTrimmed_name hafterKey hbeforeValue
        hvalue.isTrimmed
      rw [ofToken, List.append_assoc, List.append_assoc, List.cons_append, ← List.append_assoc,
        hcut, String.ofList_toList, String.ofList_toList]
      exact ofKeyValue_valueText hvalue.ne_empty
  | bareKey before after hbefore hafter hset =>
    refine ⟨s.key.name.toList, ?_, ?_⟩
    · exact tokens_of_framed (by simp) hbefore hafter s.key.isTrimmed_name
        s.key.toList_name_ne_nil hcomma
    · rw [ofToken, Setting.keyValue, Text.splitOnce?_of_notMem hequals, String.ofList_toList]
      exact ofKeyValue_none hset

/-! ### Lists of settings -/

theorem tokens_joinWith (parts : List String) :
    tokens (Text.joinWith "," parts) = parts.flatMap tokens := by
  induction parts with
  | nil => rfl
  | cons part parts ih =>
    by_cases hnil : parts = []
    · simp [hnil]
    · rw [Text.joinWith_cons_of_ne_nil _ _ hnil, tokens_append, ih, List.flatMap_cons]

/-- Settings that are written are read in their order; blank parts are passed over. -/
theorem Spellings.mapM_ofToken {settings : List Setting} {parts : List String}
    (h : Spellings settings parts) (hvalue : ∀ s ∈ settings, IsValue s.valueText) :
    (parts.flatMap tokens).mapM ofToken = .ok settings := by
  induction h with
  | nil => rfl
  | blank part hpart _ ih =>
    rw [List.flatMap_cons, tokens_of_blank hpart, List.nil_append]
    exact ih hvalue
  | cons hs _ ih =>
    obtain ⟨token, htokens, htoken⟩ := hs.exists_token (hvalue _ List.mem_cons_self)
    have hrest := ih fun s hs => hvalue s (List.mem_cons_of_mem _ hs)
    rw [List.flatMap_cons, htokens, List.singleton_append, List.mapM_cons, htoken, hrest]
    rfl

end Setting

/-! ### Configurations -/

namespace Config

open Setting

/-- The settings of a configuration. -/
def settings (c : Config) : List Setting :=
  Key.all.map c.setting

/-- The parameters that write out a configuration: each setting once, in any order. -/
def Spelling (c : Config) (parameter : String) : Prop :=
  ∃ settings parts, settings.Perm c.settings ∧ Spellings settings parts ∧
    parameter = Text.joinWith "," parts

/-- The settings of a configuration, made in any order, give the configuration. -/
theorem foldl_apply_eq {c : Config} {settings : List Setting} (h : settings.Perm c.settings)
    (d : Config) : settings.foldl Setting.apply d = c := by
  apply eq_of_setting
  intro k
  have hone : c.settings.filter (·.key = k) = [c.setting k] := by
    cases k <;> rfl
  -- so the order of the settings does not matter, each key has only one
  have hperm := h.filter (·.key = k)
  rw [hone] at hperm
  rw [setting_foldl_apply, List.perm_singleton.1 hperm]
  rfl

theorem isValue_of_mem_settings {c : Config} (h : IsValue c.grpcPackage) {s : Setting}
    (hs : s ∈ c.settings) : IsValue s.valueText := by
  obtain ⟨k, -, rfl⟩ := List.mem_map.1 hs
  apply isValue_valueText
  intro p hp
  cases k <;> cases hp
  exact h

/-- A configuration that is written out is read back. -/
theorem ofParameter_of_spelling {c : Config} (hpackage : IsValue c.grpcPackage)
    {parameter : String} (h : c.Spelling parameter) : ofParameter parameter = .ok c := by
  obtain ⟨settings, parts, hperm, hparts, rfl⟩ := h
  have hvalue : ∀ s ∈ settings, IsValue s.valueText := fun s hs =>
    isValue_of_mem_settings hpackage (hperm.mem_iff.1 hs)
  have hread := hparts.mapM_ofToken hvalue
  rw [ofParameter, tokens_joinWith, hread, ← foldl_apply_eq hperm .default]
  rfl

end Config

/-- **Every configuration can be written as a parameter**, if the package can be a value: with its
settings in any order, as `key=value` between commas or in any other spelling. Each parameter that
writes it out is read as the configuration, to which the settings made in any order lead as well,
and a request with the parameter is answered as the configuration answers it. -/
theorem configuration_as_parameter {c : Config} (hpackage : Setting.IsValue c.grpcPackage) :
    (∀ settings : List Setting, settings.Perm c.settings →
      settings.foldl Setting.apply .default = c ∧
        c.Spelling (Text.joinWith "," (settings.map Setting.text))) ∧
    (∀ parameter, c.Spelling parameter → Config.ofParameter parameter = .ok c) ∧
    ∀ r : Request, c.Spelling r.parameter → r.answer? = Response.ofOutcome? (c.run r) := by
  refine ⟨fun settings hperm => ⟨Config.foldl_apply_eq hperm _, ?_⟩, fun parameter h => ?_,
    fun r h => ?_⟩
  · exact ⟨settings, _, hperm, Setting.spellings_text settings, rfl⟩
  · exact Config.ofParameter_of_spelling hpackage h
  · rw [Request.answer?, Request.run, Config.ofParameter_of_spelling hpackage h]
    rfl

/-- Every setting is made, with an equals sign in the package and the largest minor version. -/
def deltaConfig : Config where
  target := .web
  grpcPackage := "@grpc/delta=1"
  noNamespace := true
  noGrpc := false
  unaryRpcPromise := true
  jsonNames := false
  explicitOverride := true
  tsVersion := ⟨5, 4294967295⟩

def deltaParameter : String :=
  " json_names = false,, no_namespace\t,grpc_package\u00a0=\u2003@grpc/delta=1," ++
    "ts_version=5.4294967295, \t,target= web,no_grpc=false,explicit_override =true," ++
    "unary_rpc_promise"

def deltaRequest : Request where
  parameter := deltaParameter
  files := [{ name := "delta.proto" }]

theorem configuration_as_parameter_delta :
    Setting.IsValue deltaConfig.grpcPackage ∧ deltaConfig.Spelling deltaParameter ∧
    deltaConfig.settings.reverse.foldl Setting.apply .default = deltaConfig ∧
    Config.ofParameter deltaParameter = .ok deltaConfig ∧
    deltaRequest.answer? = Response.ofOutcome? (deltaConfig.run deltaRequest) := by
  have hpackage : Setting.IsValue deltaConfig.grpcPackage := ⟨by decide, by decide, by decide⟩
  have hspelling : deltaConfig.Spelling deltaParameter := by
    have hb : Text.AllBlank "".toList := Text.allBlank_nil
    exact ⟨[Setting.Key.jsonNames, .noNamespace, .grpcPackage, .tsVersion, .target, .noGrpc,
        .explicitOverride, .unaryRpcPromise].map deltaConfig.setting, _, by decide,
      .cons (.keyValue " " " " " " "" (by decide) (by decide) (by decide) hb) <|
      .blank "" hb <|
      .cons (.bareKey " " "\t" (by decide) (by decide) rfl) <|
      .cons (.keyValue "" "\u00a0" "\u2003" "" hb (by decide) (by decide) hb) <|
      .cons (.keyValue "" "" "" "" hb hb hb hb) <|
      .blank " \t" (by decide) <|
      .cons (.keyValue "" "" " " "" hb hb (by decide) hb) <|
      .cons (.keyValue "" "" "" "" hb hb hb hb) <|
      .cons (.keyValue "" " " "" "" hb (by decide) hb hb) <|
      .cons (.bareKey "" "" hb hb rfl) .nil, by decide +kernel⟩
  obtain ⟨horder, hread, hrespond⟩ := configuration_as_parameter hpackage
  refine ⟨hpackage, hspelling, ?_, hread _ hspelling, hrespond _ hspelling⟩
  exact (horder _ (List.reverse_perm _)).1

end ProtoTypeScript
