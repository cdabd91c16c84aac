import ProtoTypeScript.Config.Parameter
import ProtoTypeScript.Proofs.Outcome

/-!
# The settings of a configuration

A configuration is its eight settings, one for each key, and a parameter is read token by token.

* `Setting.Key` are the keys, and `Config.setting` is what a configuration has set for one; two
  configurations with the same settings are the same (`Config.eq_of_setting`);
* `Setting.tokenKey` is the key of a token, which is that of the setting it makes
  (`tokenKey_eq_of_ofToken`);
* `Setting.tokens_append`: a comma keeps tokens apart, `Setting.tokens_of_blank`: there are none in
  white space, and `Setting.tokens_of_framed`: white space around a token is no part of it;
* `Config.ofParameter_eq_ok_iff`: a parameter is accepted if every token makes a setting, whatever
  stands beside it, and otherwise refused as the leftmost one is that makes none;
* `Config.setting_ofParameter`: a setting is made by the last token with its key.
-/

namespace ProtoTypeScript

open Outcome

/-! ### Keys -/

namespace Setting

/-- What a setting is about. -/
inductive Key
  | target
  | grpcPackage
  | tsVersion
  | noNamespace
  | noGrpc
  | unaryRpcPromise
  | jsonNames
  | explicitOverride
  deriving DecidableEq, Repr

namespace Key

/-- The keys in the order of the options. -/
def all : List Key :=
  [target, grpcPackage, tsVersion, noNamespace, noGrpc, unaryRpcPromise, jsonNames,
    explicitOverride]

theorem mem_all (k : Key) : k ∈ all := by
  cases k <;> decide

/-- The key as it is written in a parameter. -/
def name : Key → String
  | target => "target"
  | grpcPackage => "grpc_package"
  | tsVersion => "ts_version"
  | noNamespace => "no_namespace"
  | noGrpc => "no_grpc"
  | unaryRpcPromise => "unary_rpc_promise"
  | jsonNames => "json_names"
  | explicitOverride => "explicit_override"

theorem name_injective : Function.Injective name := by
  intro k l h
  have hall : ∀ k ∈ all, ∀ l ∈ all, k.name = l.name → k = l := by decide
  exact hall k (mem_all k) l (mem_all l) h

end Key

/-- The key of a setting. -/
def key : Setting → Key
  | target _ => .target
  | grpcPackage _ => .grpcPackage
  | tsVersion _ => .tsVersion
  | noNamespace _ => .noNamespace
  | noGrpc _ => .noGrpc
  | unaryRpcPromise _ => .unaryRpcPromise
  | jsonNames _ => .jsonNames
  | explicitOverride _ => .explicitOverride

end Setting

namespace Config

/-- What a configuration has set for a key. -/
def setting (c : Config) : Setting.Key → Setting
  | .target => .target c.target
  | .grpcPackage => .grpcPackage c.grpcPackage
  | .tsVersion => .tsVersion c.tsVersion
  | .noNamespace => .noNamespace c.noNamespace
  | .noGrpc => .noGrpc c.noGrpc
  | .unaryRpcPromise => .unaryRpcPromise c.unaryRpcPromise
  | .jsonNames => .jsonNames c.jsonNames
  | .explicitOverride => .explicitOverride c.explicitOverride

/-- A configuration is its settings. -/
theorem eq_of_setting {c d : Config} (h : ∀ k, c.setting k = d.setting k) : c = d := by
  have htarget := Setting.target.inj (h .target)
  have hpackage := Setting.grpcPackage.inj (h .grpcPackage)
  have hversion := Setting.tsVersion.inj (h .tsVersion)
  have hnamespace := Setting.noNamespace.inj (h .noNamespace)
  have hgrpc := Setting.noGrpc.inj (h .noGrpc)
  have hpromise := Setting.unaryRpcPromise.inj (h .unaryRpcPromise)
  have hnames := Setting.jsonNames.inj (h .jsonNames)
  have hoverride := Setting.explicitOverride.inj (h .explicitOverride)
  obtain ⟨⟩ := c
  obtain ⟨⟩ := d
  simp_all

/-- A setting that is made changes what is set for its key and nothing else. -/
theorem setting_apply (c : Config) (s : Setting) (k : Setting.Key) :
    (s.apply c).setting k = if s.key = k then s else c.setting k := by
  cases s <;> cases k <;> rfl

/-- Of several settings for one key the last is left. -/
theorem setting_foldl_apply (settings : List Setting) (c : Config) (k : Setting.Key) :
    (settings.foldl Setting.apply c).setting k =
      ((settings.filter (·.key = k)).getLast?).getD (c.setting k) := by
  induction settings generalizing c with
  | nil => rfl
  | cons s settings ih =>
    rw [List.foldl_cons, ih, setting_apply]
    by_cases hk : s.key = k
    · rw [if_pos hk, List.filter_cons_of_pos (by simpa using hk), List.getLast?_cons,
        Option.getD_some]
    · rw [if_neg hk, List.filter_cons_of_neg (by simpa using hk)]

end Config

/-! ### Tokens -/

namespace Setting

/-- The key of a token. -/
def tokenKey (token : List Char) : String :=
  (keyValue token).1

theorem name_key_of_ofKeyValue {key : String} {value : Option String} {s : Setting}
    (h : ofKeyValue key value = .ok s) : s.key.name = key := by
  unfold ofKeyValue at h
  split_ifs at h with h₁ h₂ h₃ h₄ h₅ h₆ h₇ h₈
  · obtain ⟨name, -, h⟩ := bind_eq_ok_iff.1 h
    obtain ⟨t, rfl⟩ := exists_of_bind_pure_eq_ok h
    exact h₁.symm
  · obtain ⟨p, rfl⟩ := exists_of_bind_pure_eq_ok h
    exact h₂.symm
  · obtain ⟨name, -, h⟩ := bind_eq_ok_iff.1 h
    obtain ⟨v, rfl⟩ := exists_of_bind_pure_eq_ok h
    exact h₃.symm
  · obtain ⟨b, rfl⟩ := exists_of_bind_pure_eq_ok h
    exact h₄.symm
  · obtain ⟨b, rfl⟩ := exists_of_bind_pure_eq_ok h
    exact h₅.symm
  · obtain ⟨b, rfl⟩ := exists_of_bind_pure_eq_ok h
    exact h₆.symm
  · obtain ⟨b, rfl⟩ := exists_of_bind_pure_eq_ok h
    exact h₇.symm
  · obtain ⟨b, rfl⟩ := exists_of_bind_pure_eq_ok h
    exact h₈.symm

/-- A token makes a setting for its key. -/
theorem tokenKey_eq_of_ofToken {token : List Char} {s : Setting} (h : ofToken token = .ok s) :
    tokenKey token = s.key.name :=
  (name_key_of_ofKeyValue h).symm

/-- The settings that tokens make; tokens that make none are left out. -/
def ofTokens (tokens : List (List Char)) : List Setting :=
  tokens.filterMap fun token => (ofToken token).toOption

theorem ofTokens_append (ts us : List (List Char)) :
    ofTokens (ts ++ us) = ofTokens ts ++ ofTokens us :=
  List.filterMap_append

theorem ofTokens_singleton {token : List Char} {s : Setting} (h : ofToken token = .ok s) :
    ofTokens [token] = [s] := by
  simp [ofTokens, h, Except.toOption]

/-- The settings for a key are those of the tokens with that key. -/
theorem filter_key_ofTokens (ts : List (List Char)) (k : Key) :
    (ofTokens ts).filter (·.key = k) = ofTokens (ts.filter (tokenKey · = k.name)) := by
  induction ts with
  | nil => rfl
  | cons t ts ih =>
    have hcons : ∀ us, ofTokens (t :: us) = ofTokens [t] ++ ofTokens us := ofTokens_append [t]
    rw [hcons, List.filter_append, ih, List.filter_cons]
    cases ht : ofToken t with
    | error e =>
      have hnone : ofTokens [t] = [] := by simp [ofTokens, ht, Except.toOption]
      rw [hnone]
      split_ifs
      · rw [hcons, hnone]
        rfl
      · rfl
    | ok s =>
      have hkey : tokenKey t = k.name ↔ s.key = k := by
        rw [tokenKey_eq_of_ofToken ht, Key.name_injective.eq_iff]
      rw [ofTokens_singleton ht]
      by_cases hk : s.key = k
      · rw [if_pos (by simpa using hkey.2 hk), hcons, ofTokens_singleton ht,
          List.filter_cons_of_pos (by simpa using hk)]
        rfl
      · rw [if_neg (by simpa using fun h => hk (hkey.1 h)),
          List.filter_cons_of_neg (by simpa using hk)]
        rfl

/-- A comma keeps the tokens before it and those behind it apart. -/
theorem tokens_append (a b : String) : tokens (a ++ "," ++ b) = tokens a ++ tokens b := by
  have hlist : (a ++ "," ++ b).toList = a.toList ++ ',' :: b.toList := by simp
  rw [tokens, hlist, Text.splitOn_append, List.map_append, List.filter_append]
  rfl

/-- There are no tokens in white space. -/
theorem tokens_of_blank {blanks : String} (h : Text.AllBlank blanks.toList) :
    tokens blanks = [] := by
  rw [tokens, Text.splitOn_of_notMem (h.notMem (by decide)), List.map_singleton,
    Text.trimBlanks_of_all h]
  rfl

/-- A text with white space around it is one token, if it has no comma. -/
theorem tokens_of_framed {part : String} {before token after : List Char}
    (hpart : part.toList = before ++ token ++ after) (hbefore : Text.AllBlank before)
    (hafter : Text.AllBlank after) (htrimmed : Text.IsTrimmed token) (hne : token ≠ [])
    (hcomma : ',' ∉ token) : tokens part = [token] := by
  have hnone : ',' ∉ before ++ token ++ after := by
    rw [List.mem_append, List.mem_append, not_or, not_or]
    exact ⟨⟨hbefore.notMem (by decide), hcomma⟩, hafter.notMem (by decide)⟩
  rw [tokens, hpart, Text.splitOn_of_notMem hnone, List.map_singleton,
    Text.trimBlanks_append hbefore htrimmed hafter]
  simp [hne]

end Setting

/-! ### Accepted parameters -/

namespace Config

open Setting

/-- A parameter is accepted if every token makes a setting, and the settings are made in order. -/
theorem ofParameter_eq_ok_iff {parameter : String} {c : Config} :
    ofParameter parameter = .ok c ↔ (∀ token ∈ tokens parameter, ∃ s, ofToken token = .ok s) ∧
      (ofTokens (tokens parameter)).foldl Setting.apply .default = c := by
  rw [ofParameter, bind_eq_ok_iff]
  constructor
  · rintro ⟨settings, hsettings, h⟩
    obtain ⟨hall, rfl⟩ := mapM_eq_ok_iff_forall.1 hsettings
    exact ⟨hall, pure_eq_ok_iff.1 h⟩
  · rintro ⟨hall, rfl⟩
    exact ⟨_, mapM_eq_ok_iff_forall.2 ⟨hall, rfl⟩, rfl⟩

/-- A parameter is refused as its leftmost token is that makes no setting. -/
theorem ofParameter_eq_error_iff {parameter : String} {e : Error} :
    ofParameter parameter = .error e ↔
      FirstFailure ofToken (tokens parameter) e := by
  rw [ofParameter, bind_eq_error_iff, ← mapM_eq_error_iff]
  refine or_iff_left ?_
  rintro ⟨settings, -, ⟨⟩⟩

/-- What an accepted parameter sets for a key is what the last token with the key says. -/
theorem setting_ofParameter {parameter : String} {c : Config} (h : ofParameter parameter = .ok c)
    (k : Key) : c.setting k = ((ofTokens ((tokens parameter).filter
      (tokenKey · = k.name))).getLast?).getD (Config.default.setting k) := by
  obtain ⟨-, rfl⟩ := ofParameter_eq_ok_iff.1 h
  rw [setting_foldl_apply, filter_key_ofTokens]

end Config

end ProtoTypeScript
