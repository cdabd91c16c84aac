import ProtoTypeScript.Config
import ProtoTypeScript.Error
import ProtoTypeScript.Text.Blank
import ProtoTypeScript.Text.Split

/-!
# Parameters

A parameter is a list of `key` or `key=value` tokens between commas, such as
`target=web,no_namespace`. Blanks around tokens, keys and values do not count, and neither do blank
tokens.

* `Setting.ofToken` reads one token;
* `Setting.apply` is its effect on a configuration;
* `Config.ofParameter` applies the settings of all tokens, from left to right, to the default
  configuration, or fails as the leftmost token does that is no setting.

Whether a token is a setting depends on that token alone.
-/

namespace ProtoTypeScript

/-- One choice made by a token of a parameter. -/
inductive Setting
  | target (target : Target)
  | grpcPackage (package : String)
  | tsVersion (version : TypeScriptVersion)
  | noNamespace (enabled : Bool)
  | noGrpc (enabled : Bool)
  | unaryRpcPromise (enabled : Bool)
  | jsonNames (enabled : Bool)
  | explicitOverride (enabled : Bool)
  deriving DecidableEq, Repr

/-- The target of a name. -/
def Target.ofName (name : String) : Except Error Target :=
  if name = "node" then .ok .node
  else if name = "web" then .ok .web
  else .error (.invalidOption "target" name)

/-- The version that an option names. -/
def TypeScriptVersion.ofName (name : String) : Except Error TypeScriptVersion :=
  match TypeScriptVersion.parse? name with
  | some version => .ok version
  | none => .error (.invalidOption "ts_version" name)

namespace Setting

/-- The value of a key that needs one. -/
def required (key : String) (value : Option String) : Except Error String :=
  match value with
  | none => .error (.invalidOption key "")
  | some v => if v = "" then .error (.invalidOption key v) else .ok v

/-- The value of a flag, which is set by its bare key as well. -/
def flag (key : String) (value : Option String) : Except Error Bool :=
  match value with
  | none => .ok true
  | some v =>
    if v = "true" then .ok true
    else if v = "false" then .ok false
    else .error (.invalidOption key v)

/-- The setting of a key and the value it is given, if any. -/
def ofKeyValue (key : String) (value : Option String) : Except Error Setting :=
  if key = "target" then return target (← Target.ofName (← required key value))
  else if key = "grpc_package" then return grpcPackage (← required key value)
  else if key = "ts_version" then
    return tsVersion (← TypeScriptVersion.ofName (← required key value))
  else if key = "no_namespace" then return noNamespace (← flag key value)
  else if key = "no_grpc" then return noGrpc (← flag key value)
  else if key = "unary_rpc_promise" then return unaryRpcPromise (← flag key value)
  else if key = "json_names" then return jsonNames (← flag key value)
  else if key = "explicit_override" then return explicitOverride (← flag key value)
  else .error (.unknownOption key)

/-- The key of a token without outer blanks, and its value if there is an equals sign. -/
def keyValue (token : List Char) : String × Option String :=
  match Text.splitOnce? '=' token with
  | none => (String.ofList token, none)
  | some (key, value) =>
    (String.ofList (Text.trimBlanks key), some (String.ofList (Text.trimBlanks value)))

/-- The setting that a token without outer blanks makes. -/
def ofToken (token : List Char) : Except Error Setting :=
  ofKeyValue (keyValue token).1 (keyValue token).2

/-- The configuration with the setting made. -/
def apply (c : Config) : Setting → Config
  | target t => { c with target := t }
  | grpcPackage p => { c with grpcPackage := p }
  | tsVersion v => { c with tsVersion := v }
  | noNamespace b => { c with noNamespace := b }
  | noGrpc b => { c with noGrpc := b }
  | unaryRpcPromise b => { c with unaryRpcPromise := b }
  | jsonNames b => { c with jsonNames := b }
  | explicitOverride b => { c with explicitOverride := b }

/-- The tokens of a parameter that are not blank, without outer blanks. -/
def tokens (parameter : String) : List (List Char) :=
  ((Text.splitOn ',' parameter.toList).map Text.trimBlanks).filter (· ≠ [])

end Setting

/-- The default configuration with the settings of a parameter made. -/
def Config.ofParameter (parameter : String) : Except Error Config := do
  let settings ← (Setting.tokens parameter).mapM Setting.ofToken
  return settings.foldl Setting.apply Config.default

end ProtoTypeScript
