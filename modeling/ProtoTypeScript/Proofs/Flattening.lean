import Mathlib.Data.Option.Defs
import ProtoTypeScript.Proofs.Runs

/-!
# Runs without namespaces

A configuration and the one that differs from it in having no namespaces lead to trees that differ
in names and nesting alone.

* `SameType` relates the expressions for one type in the two trees of a file: a path below the
  package's namespace, and one identifier;
* `Flattens` says what a declaration becomes: a class comes after what was nested in it, and every
  enum and class is named after its whole path;
* `FlattenedFile` is the relation between the two trees of a file, in which nothing else differs;
* `flattening_simulates`: both runs fail with the same error, or the trees of both are so related.

The two runs are followed side by side, with one lemma for each function that declares something.
-/

namespace ProtoTypeScript

open Outcome

/-! ### Trees that differ in names and nesting -/

/-- The expressions for one type of the files in a file that has the identifiers of its imports:
with namespaces the path, for a type of another file below an import and a package, and without
them the path as one identifier. -/
inductive SameType (files : List FileDescriptor) (file : FileDescriptor) (aliases : AliasScope) :
    String → String → Prop
  | within {g : FileDescriptor} {t : DeclaredType} (hg : g ∈ files) (ht : t ∈ g.types)
      (hfile : g.name = file.name) :
      SameType files file aliases (Text.joinWith "." t.path) (Text.joinWith "_" t.path)
  | imported {g : FileDescriptor} {t : DeclaredType} {identifier : String} (hg : g ∈ files)
      (ht : t ∈ g.types) (hfile : g.name ≠ file.name)
      (hidentifier : aliases.identifierFor? g.name = some identifier) :
      SameType files file aliases
        (identifier ++ "." ++ (if g.package = "" then "" else g.package ++ ".") ++
          Text.joinWith "." t.path)
        (identifier ++ "." ++ Text.joinWith "_" t.path)

section Relations

variable (R : String → String → Prop)

/-- The types are the same up to the expressions in them. -/
inductive FieldType.Renamed : FieldType → FieldType → Prop
  | scalar (scalar : Scalar) : Renamed (.scalar scalar) (.scalar scalar)
  | enumeration {name name' : String} (h : R name name') :
      Renamed (.enumeration name) (.enumeration name')
  | message {name name' : String} (h : R name name') : Renamed (.message name) (.message name')
  | map (key : Scalar) {value value' : FieldType} (h : Renamed value value') :
      Renamed (.map key value) (.map key value')

/-- A default that is a value of the enum is that value of the renamed enum, and any other default
is the same. -/
structure DefaultFollows (name name' default default' : String) : Prop where
  value : ∀ v, default = name ++ "." ++ v → default' = name' ++ "." ++ v
  other : (∀ v, default ≠ name ++ "." ++ v) → default' = default

/-- The fields are the same up to the expressions in their types and in defaults that are values of
enums. -/
structure FieldDeclaration.Renamed (f f' : FieldDeclaration) : Prop where
  type : FieldType.Renamed R f.type f'.type
  enumDefault : ∀ name name', f.type = .enumeration name → f'.type = .enumeration name' →
    DefaultFollows name name' f.defaultValue f'.defaultValue
  otherDefault : (∀ name, f.type ≠ .enumeration name) → f'.defaultValue = f.defaultValue
  rest : f' = { f with type := f'.type, defaultValue := f'.defaultValue }

/-- The methods are the same up to the expressions for their types. -/
structure Method.Renamed (m m' : Method) : Prop where
  input : R m.inputType m'.inputType
  output : R m.outputType m'.outputType
  rest : m' = { m with inputType := m'.inputType, outputType := m'.outputType }

/-- The services are the same up to the expressions in their methods. -/
structure Service.Renamed (s s' : Service) : Prop where
  methods : List.Forall₂ (Method.Renamed R) s.methods s'.methods
  rest : s' = { s with methods := s'.methods }

mutual

/-- What becomes of a declaration inside the messages of `path`: the declarations nested in a class
come before it, and every enum and class gets the name of its whole path. -/
inductive Flattens : List String → Declaration → List Declaration → Prop
  | enumeration (path : List String) (e : EnumDeclaration) :
      Flattens path (.enumeration e)
        [.enumeration { e with name := Text.joinWith "_" (path ++ [e.name]) }]
  | message {path : List String} {m : MessageClass} {nested nested' : List Declaration}
      {fields' : List FieldDeclaration}
      (hfields : List.Forall₂ (FieldDeclaration.Renamed R) m.fields fields')
      (hnested : ListFlattens (path ++ [m.name]) nested nested') :
      Flattens path (.message m nested)
        (nested' ++ [.message
          { m with name := Text.joinWith "_" (path ++ [m.name]), fields := fields' } []])
  | rpcInterfaces (path : List String) (target : Target) (runtime : String) :
      Flattens path (.rpcInterfaces target runtime) [.rpcInterfaces target runtime]
  | server {path : List String} {stub : ServerStub} {service' : Service}
      (h : Service.Renamed R stub.service service') :
      Flattens path (.server stub) [.server { stub with service := service' }]
  | client {path : List String} {stub : ClientStub} {service' : Service}
      (h : Service.Renamed R stub.service service') :
      Flattens path (.client stub) [.client { stub with service := service' }]

/-- What becomes of declarations inside the messages of `path`, one after the other. -/
inductive ListFlattens : List String → List Declaration → List Declaration → Prop
  | nil (path : List String) : ListFlattens path [] []
  | cons {path : List String} {d : Declaration} {ds part rest : List Declaration}
      (hd : Flattens path d part) (hds : ListFlattens path ds rest) :
      ListFlattens path (d :: ds) (part ++ rest)

end

/-- The trees are the same but for the namespace of the package and what stands in it. -/
structure FlattenedFile (package : String) (tree tree' : SourceFile) : Prop where
  body : ∃ ds, tree.body = (if package = "" then ds else [.namespaceBlock package ds]) ∧
    ListFlattens R [] ds tree'.body
  rest : tree' = { tree with body := tree'.body }

end Relations

variable {R : String → String → Prop}

theorem FieldType.Renamed.isMap_eq {type type' : FieldType} (h : type.Renamed R type') :
    type'.isMap = type.isMap := by
  cases h <;> rfl

theorem FieldType.Renamed.isPackable_eq {type type' : FieldType} (h : type.Renamed R type') :
    type'.isPackable = type.isPackable := by
  cases h <;> rfl

theorem ListFlattens.append {path : List String} {ds es ds' es' : List Declaration}
    (hds : ListFlattens R path ds ds') (hes : ListFlattens R path es es') :
    ListFlattens R path (ds ++ es) (ds' ++ es') := by
  induction ds generalizing ds' with
  | nil =>
    cases hds
    exact hes
  | cons d ds ih =>
    cases hds with
    | cons hd hds =>
      rw [List.cons_append, List.append_assoc]
      exact .cons hd (ih hds)

theorem ListFlattens.singleton {path : List String} {d : Declaration} {ds : List Declaration}
    (h : Flattens R path d ds) : ListFlattens R path [d] ds := by
  have hone := ListFlattens.cons h (.nil path)
  rwa [List.append_nil] at hone

theorem ListFlattens.flatten {path : List String} {parts parts' : List (List Declaration)}
    (h : List.Forall₂ (ListFlattens R path) parts parts') :
    ListFlattens R path parts.flatten parts'.flatten := by
  induction h with
  | nil => exact .nil path
  | cons hpart _ ih => exact hpart.append ih

theorem Flattens.ne_nil {path : List String} {d : Declaration} {ds : List Declaration}
    (h : Flattens R path d ds) : ds ≠ [] := by
  cases h <;> simp

theorem ListFlattens.eq_nil_iff {path : List String} {ds ds' : List Declaration}
    (h : ListFlattens R path ds ds') : ds' = [] ↔ ds = [] := by
  cases h with
  | nil => exact Iff.rfl
  | cons hd _ => simp [hd.ne_nil]

/-! ### Two scopes of a file -/

/-- The configuration without namespaces. -/
def Config.flattened (c : Config) : Config :=
  { c with noNamespace := true }

namespace FileScope

/-- The scope of the same file under the configuration without namespaces. -/
def flattened (s : FileScope) : FileScope :=
  { s with config := s.config.flattened }

variable {s : FileScope}

theorem flattened_declarationName (s : FileScope) (path : List String) (name : String) :
    s.flattened.declarationName path name = Text.joinWith "_" (path ++ [name]) := by
  unfold declarationName
  by_cases hpath : path = []
  · simp [hpath]
  · exact if_pos ⟨rfl, hpath⟩

theorem declarationName_of_namespaces (hs : s.config.noNamespace = false) (path : List String)
    (name : String) : s.declarationName path name = name := by
  simp [declarationName, hs]

theorem localExpression_of_namespaces (hs : s.config.noNamespace = false) (path : List String) :
    s.localExpression path = Text.joinWith "." path := by
  simp [localExpression, hs]

theorem typeExpression_of_eq {r : TypeRecord} (h : r.file = s.file.name) :
    s.typeExpression r = .ok (s.localExpression r.path) :=
  if_pos h

/-- A type has an expression in both scopes or in neither. -/
theorem typeExpression_agree (hs : s.config.noNamespace = false) {files : List FileDescriptor}
    {g : FileDescriptor} {t : DeclaredType} (hg : g ∈ files) (ht : t ∈ g.types) {r : TypeRecord}
    (hr : g.record t = .ok r) : Agree (SameType files s.file s.aliases) (s.typeExpression r)
      (s.flattened.typeExpression r) := by
  obtain ⟨-, hfile, hpackage, hpath, -⟩ := FileDescriptor.record_eq_ok_iff.1 hr
  by_cases hsame : r.file = s.file.name
  · rw [typeExpression_of_eq hsame, typeExpression_of_eq (s := s.flattened) hsame,
      localExpression_of_namespaces hs, hpath]
    exact .ok (.within hg ht (hfile ▸ hsame))
  · rw [typeExpression_of_ne hsame, typeExpression_of_ne (s := s.flattened) hsame]
    have hexported : s.exportedExpression r =
        (if g.package = "" then "" else g.package ++ ".") ++ Text.joinWith "." t.path := by
      rw [exportedExpression, localExpression_of_namespaces hs, hpackage, hpath]
      by_cases hg : g.package = "" <;> simp [hs, hg]
    have hflattened : s.flattened.exportedExpression r = Text.joinWith "_" t.path := by
      rw [← hpath]
      exact if_pos (Or.inl rfl)
    rw [hexported, hflattened]
    have haliases : s.flattened.aliases = s.aliases := rfl
    rw [haliases]
    cases hidentifier : s.aliases.identifierFor? r.file with
    | none => exact .error _
    | some identifier =>
      simp only [← String.append_assoc]
      exact .ok (.imported hg ht (hfile ▸ hsame) (hfile ▸ hidentifier))

end FileScope

/-! ### Declarations side by side -/

theorem defaultFollows_value (name name' value : String) :
    DefaultFollows name name' (name ++ "." ++ value) (name' ++ "." ++ value) := by
  refine ⟨fun v hv => ?_, fun h => absurd rfl (h value)⟩
  rw [(String.append_right_inj _).1 hv]

/-- A text without points is no value of an enum. -/
theorem defaultFollows_same (name name' : String) {default : String}
    (h : '.' ∉ default.toList) : DefaultFollows name name' default default := by
  refine ⟨fun v hv => absurd ?_ h, fun _ => rfl⟩
  rw [hv]
  simp

namespace FileScope

section SideBySide

variable {s : FileScope} (hs : s.config.noNamespace = false)
  (hR : ∀ typeName r, s.resolve typeName = .ok r →
    Agree R (s.typeExpression r) (s.flattened.typeExpression r))

include hR

theorem fieldTypeStep_agree {typeOf typeOf' : FieldDescriptor → Except Failure FieldType}
    (h : ∀ f, Agree (FieldType.Renamed R) (typeOf f) (typeOf' f)) (f : FieldDescriptor) :
    Agree (FieldType.Renamed R) (s.fieldTypeStep typeOf f)
      (s.flattened.fieldTypeStep typeOf' f) := by
  unfold fieldTypeStep
  cases f.valueType.scalar? with
  | some scalar => exact .ok (.scalar scalar)
  | none =>
    -- both scopes look the name up in the same table
    refine (Agree.of_eq (s.resolve f.typeName)).report.bind ?_
    rintro _ r ⟨hr, rfl⟩
    cases r.kind with
    | message => exact (hR _ _ hr).report.bind fun name name' hname => .ok (.message hname)
    | enumeration zero =>
      exact (hR _ _ hr).report.bind fun name name' hname => .ok (.enumeration hname)
    | mapEntry key value =>
      cases hkey : key.valueType.scalar? with
      | none =>
        simp only [hkey]
        exact .error _
      | some keyType =>
        simp only [hkey]
        refine (h value).bind fun type type' htype => ?_
        rw [htype.isMap_eq]
        by_cases hmap : type.isMap = true
        · rw [if_pos hmap, if_pos hmap]
          exact .error _
        · rw [if_neg hmap, if_neg hmap]
          exact .ok (.map keyType htype)

theorem fieldType_agree (f : FieldDescriptor) :
    Agree (FieldType.Renamed R) (s.fieldType f) (s.flattened.fieldType f) := by
  have hcalls : ∀ calls f, Agree (FieldType.Renamed R) (s.fieldTypeWithin calls f)
      (s.flattened.fieldTypeWithin calls f) := by
    intro calls
    induction calls with
    | zero => exact fun f => .error _
    | succ calls ih => exact fieldTypeStep_agree hR ih
  exact hcalls _ f

omit hR in
theorem enumDefault_agree (f : FieldDescriptor) (name name' : String) :
    Agree (DefaultFollows name name') (s.enumDefault f name)
      (s.flattened.enumDefault f name') := by
  unfold enumDefault
  cases f.defaultValue? with
  | some value => exact .ok (defaultFollows_value name name' value)
  | none =>
    refine (Agree.of_eq (s.resolve f.typeName)).bind ?_
    rintro _ r ⟨-, rfl⟩
    split
    · exact .ok (defaultFollows_value name name' _)
    · exact .ok (defaultFollows_same name name' (by decide))

omit hR in
theorem defaultValue_agree (f : FieldDescriptor) {type type' : FieldType}
    (h : type.Renamed R type') (c : Cardinality) :
    Agree (fun default default' =>
      (∀ name name', type = .enumeration name → type' = .enumeration name' →
        DefaultFollows name name' default default') ∧
      ((∀ name, type ≠ .enumeration name) → default' = default))
      (s.defaultValue f type c) (s.flattened.defaultValue f type' c) := by
  unfold defaultValue
  by_cases hc : c = .repeated
  · rw [if_pos hc, if_pos hc]
    exact .ok ⟨fun name name' _ _ => defaultFollows_same name name' (by decide), fun _ => rfl⟩
  · rw [if_neg hc, if_neg hc]
    -- only the default of an enum is written with a name that changes
    cases h with
    | scalar scalar =>
      cases hdefault : scalarDefault f scalar with
      | error e => simpa only [hdefault] using .error e
      | ok value =>
        simp only [hdefault]
        exact .ok ⟨by simp, fun _ => rfl⟩
    | @enumeration name name' h =>
      refine (enumDefault_agree f name name').mono fun default default' hfollows => ⟨?_, ?_⟩
      · rintro _ _ ⟨⟩ ⟨⟩
        exact hfollows
      · exact fun hother => absurd rfl (hother name)
    | message h => exact .ok ⟨by simp, fun _ => rfl⟩
    | map key h => exact .ok ⟨by simp, fun _ => rfl⟩

theorem fieldDeclaration_agree (f : FieldDescriptor) :
    Agree (FieldDeclaration.Renamed R) (s.fieldDeclaration f) (s.flattened.fieldDeclaration f) := by
  refine (fieldType_agree hR f).bind fun type type' htype => ?_
  have hcardinality : s.flattened.cardinality f type' = s.cardinality f type := by
    unfold cardinality
    rw [htype.isMap_eq]
    rfl
  have hpacked : s.flattened.isPacked f type' (s.cardinality f type) =
      s.isPacked f type (s.cardinality f type) := by
    unfold isPacked
    rw [htype.isPackable_eq]
    rfl
  simp only [hcardinality, hpacked]
  refine (defaultValue_agree f htype _).report.bind fun default default' hdefault => ?_
  exact .ok ⟨htype, hdefault.1, hdefault.2, rfl⟩

include hs

omit hR in
theorem enumDeclarations_flattens (path : List String) (es : List EnumDescriptor) :
    ListFlattens R path (es.map fun e => .enumeration (s.enumDeclaration path e))
      (es.map fun e => .enumeration (s.flattened.enumDeclaration path e)) := by
  induction es with
  | nil => exact .nil path
  | cons e es ih =>
    have hone := Flattens.enumeration (R := R) path (s.enumDeclaration path e)
    rw [enumDeclaration, declarationName_of_namespaces hs] at hone
    rw [List.map_cons, List.map_cons, enumDeclaration, declarationName_of_namespaces hs,
      enumDeclaration, flattened_declarationName]
    exact .cons hone ih

omit hs hR in
theorem nestedDeclarations_agree {path : List String} {ms : List MessageDescriptor}
    (h : ∀ m ∈ ms, Agree (ListFlattens R path) (s.messageDeclarations path m)
      (s.flattened.messageDeclarations path m)) :
    Agree (ListFlattens R path) (s.nestedDeclarations path ms)
      (s.flattened.nestedDeclarations path ms) := by
  induction ms with
  | nil => exact .ok (.nil path)
  | cons m ms ih =>
    have hrest := ih fun n hn => h n (List.mem_cons_of_mem _ hn)
    rw [nestedDeclarations, nestedDeclarations]
    by_cases hm : m.mapEntry = true
    · rw [if_pos hm, if_pos hm]
      exact hrest
    · rw [if_neg hm, if_neg hm]
      refine (h m List.mem_cons_self).bind fun first first' hfirst => ?_
      exact hrest.bind fun rest rest' hrest => .ok (hfirst.append hrest)

omit hR in
theorem messageClass_flattens {path : List String} (m : MessageDescriptor)
    {ds ds' : List FieldDeclaration} {nested nested' : List Declaration}
    (hds : List.Forall₂ (FieldDeclaration.Renamed R) ds ds')
    (hnested : ListFlattens R (path ++ [m.name]) nested nested') :
    Flattens R path (.message (s.messageClass path m ds) nested)
      (nested' ++ [.message (s.flattened.messageClass path m ds') []]) := by
  have hname : (s.messageClass path m ds).name = m.name :=
    declarationName_of_namespaces hs path m.name
  have harms : ds'.map (·.number) = ds.map (·.number) :=
    map_eq_map_of_forall₂ hds fun f f' hf => by rw [hf.rest]
  have hclass : s.flattened.messageClass path m ds' = { s.messageClass path m ds with
      name := Text.joinWith "_" (path ++ [(s.messageClass path m ds).name]), fields := ds' } := by
    rw [hname]
    simp only [messageClass, flattened_declarationName, harms]
    rfl
  rw [hclass]
  exact .message hds (by rwa [hname])

/-- A message fails in both scopes or in neither, and what it declares is flattened. -/
theorem messageDeclarations_agree (path : List String) (m : MessageDescriptor) :
    Agree (ListFlattens R path) (s.messageDeclarations path m)
      (s.flattened.messageDeclarations path m) := by
  induction m using MessageDescriptor.nestedInduction generalizing path with
  | _ m ih =>
    cases m with
    | mk name fields nested enums oneofs deprecated mapEntry =>
      rw [messageDeclarations, messageDeclarations]
      have hnested := nestedDeclarations_agree fun n hn => ih n hn (path ++ [name])
      refine hnested.bind fun messages messages' hmessages => ?_
      refine (Agree.mapM fun f _ => fieldDeclaration_agree hR f).bind fun ds ds' hds => ?_
      have hinside := (enumDeclarations_flattens hs (path ++ [name]) enums).append hmessages
      -- the class stands around what is nested, or after it
      simp only [placeNested, hs, Bool.false_eq_true, if_false]
      exact .ok (.singleton (messageClass_flattens hs _ hds hinside))

theorem typeDeclarations_agree : Agree (ListFlattens R []) s.typeDeclarations
    s.flattened.typeDeclarations := by
  refine (Agree.mapM fun m _ => messageDeclarations_agree hs hR [] m).bind fun ds ds' hds => ?_
  exact .ok ((enumDeclarations_flattens hs [] _).append (.flatten hds))

omit hs in
theorem method_agree (service : String) (m : MethodDescriptor) :
    Agree (Method.Renamed R) (s.method service m) (s.flattened.method service m) := by
  refine (Agree.of_eq (s.resolve m.inputType)).bind ?_
  rintro _ input ⟨hin, rfl⟩
  refine (hR _ _ hin).bind fun inputType inputType' hinType => ?_
  refine (Agree.of_eq (s.resolve m.outputType)).bind ?_
  rintro _ output ⟨hout, rfl⟩
  refine (hR _ _ hout).bind fun outputType outputType' houtType => ?_
  exact .ok ⟨hinType, houtType, rfl⟩

omit hs in
theorem service_agree (d : ServiceDescriptor) :
    Agree (Service.Renamed R) (s.service d) (s.flattened.service d) := by
  refine (Agree.mapM fun m _ => method_agree hR d.name m).bind fun methods methods' h => ?_
  exact .ok ⟨h, rfl⟩

omit hs hR in
theorem stubs_flattens {runtimes : RpcRuntimes} {services services' : List Service}
    (h : List.Forall₂ (Service.Renamed R) services services') :
    ListFlattens R [] (services.flatMap (s.stubs runtimes))
      (services'.flatMap (s.flattened.stubs runtimes)) := by
  induction h with
  | nil => exact .nil []
  | @cons service service' _ _ hservice _ ih =>
    rw [List.flatMap_cons, List.flatMap_cons]
    refine ListFlattens.append ?_ ih
    have hname : service'.name = service.name := by rw [hservice.rest]
    rw [stubs, stubs, hname]
    exact .cons (.server hservice) (.singleton (.client hservice))

omit hs in
theorem rpcDeclarations_agree (runtimes : RpcRuntimes) : Agree (ListFlattens R [])
    (s.rpcDeclarations runtimes) (s.flattened.rpcDeclarations runtimes) := by
  unfold rpcDeclarations
  have hrpc : s.flattened.hasRpc = s.hasRpc := rfl
  rw [hrpc]
  by_cases h : s.hasRpc = true
  · rw [if_pos h, if_pos h]
    refine (Agree.mapM fun d _ => service_agree hR d).bind fun services services' hservices => ?_
    exact .ok (.cons (.rpcInterfaces [] _ _) (stubs_flattens hservices))
  · rw [if_neg h, if_neg h]
    exact .ok (.nil [])

end SideBySide

end FileScope

/-! ### Trees and runs side by side -/

section Run

variable {c : Config} (hc : c.noNamespace = false) {files : List FileDescriptor}

include hc

/-- A file has a tree under both configurations or under neither. -/
theorem SourceFile.ofDescriptor_agree (version : CompilerVersion) (file : FileDescriptor) :
    Agree (FlattenedFile
        (SameType files file (file.importDependencies (.ofFiles files)).1) file.package)
      (SourceFile.ofDescriptor c (.ofFiles files) version file)
      (SourceFile.ofDescriptor c.flattened (.ofFiles files) version file) := by
  have hs : (FileScope.ofFile c (.ofFiles files) file).config.noNamespace = false := hc
  -- whatever a name leads to was recorded for a type of one of the files
  have hR : ∀ typeName r,
      (FileScope.ofFile c (.ofFiles files) file).resolve typeName = .ok r →
      Agree (SameType files file (file.importDependencies (.ofFiles files)).1)
        ((FileScope.ofFile c (.ofFiles files) file).typeExpression r)
        ((FileScope.ofFile c (.ofFiles files) file).flattened.typeExpression r) := by
    intro typeName r hr
    have hmem := (TypeTable.mem_of_find?_eq_some (FileScope.resolve_eq_ok_iff.1 hr)).1
    obtain ⟨g, hg, t, ht, hrecord⟩ := TypeTable.mem_records_ofFiles_iff.1 hmem
    exact FileScope.typeExpression_agree hs hg ht hrecord
  rw [ofDescriptor_eq_bind, ofDescriptor_eq_bind]
  refine (FileScope.typeDeclarations_agree hs hR).bind fun types types' htypes => ?_
  refine (FileScope.rpcDeclarations_agree hR _).report.bind fun services services' hservices => ?_
  refine .ok ⟨⟨types ++ services, ?_, ?_⟩, ?_⟩
  · simp only [FileScope.inNamespace, hs, Bool.false_eq_true, or_false]
    rfl
  · have hbody : FileScope.inNamespace (FileScope.ofFile c.flattened (.ofFiles files) file)
        (types' ++ services') = types' ++ services' := if_pos (Or.inr rfl)
    simp only [hbody]
    exact htypes.append hservices
  · have himports : FileScope.runtimeImports (FileScope.ofFile c.flattened (.ofFiles files) file)
        types' = FileScope.runtimeImports (FileScope.ofFile c (.ofFiles files) file) types := by
      simp only [FileScope.runtimeImports, htypes.eq_nil_iff]
      rfl
    simp only [himports]
    rfl

theorem Config.trees_agree (r : Request) :
    Agree (fun trees trees' => ∃ both : List (SourceFile × SourceFile),
        trees = both.map Prod.fst ∧ trees' = both.map Prod.snd ∧
        List.Forall₂ (fun file tree => FlattenedFile
          (SameType r.files file (file.importDependencies (.ofFiles r.files)).1) file.package
          tree.1 tree.2) r.files both)
      (c.trees r) (c.flattened.trees r) := by
  rw [trees_eq_bind, trees_eq_bind]
  refine (Agree.of_eq c.checkVersion).report.bind ?_
  rintro _ _ -
  refine (Agree.of_eq (TypeTable.empty.registerAll r.files)).report.bind ?_
  rintro _ table ⟨htable, rfl⟩
  obtain ⟨-, rfl⟩ := TypeTable.registerAll_eq_ok_iff.1 htable
  exact Agree.mapM_zip fun file _ => SourceFile.ofDescriptor_agree hc r.compilerVersion file

/-- A configuration with namespaces and the same one without them fail on the same requests, with
the same error or both because the stack is used up. Where they succeed, every file has two trees,
and the one without namespaces is the other one flattened. -/
theorem flattening_simulates (r : Request) :
    (∃ e, c.run r = .error e ∧ c.flattened.run r = .error e) ∨
    ∃ both : List (SourceFile × SourceFile),
      c.trees r = .ok (both.map Prod.fst) ∧ c.flattened.trees r = .ok (both.map Prod.snd) ∧
      c.run r = .ok (both.map fun tree => .ofSource tree.1) ∧
      c.flattened.run r = .ok (both.map fun tree => .ofSource tree.2) ∧
      List.Forall₂ (fun file tree => FlattenedFile
        (SameType r.files file (file.importDependencies (.ofFiles r.files)).1) file.package
        tree.1 tree.2) r.files both := by
  rcases (Config.trees_agree hc r).cases with
    ⟨e, htrees, htrees'⟩ | ⟨trees, trees', htrees, htrees', both, rfl, rfl, hboth⟩
  · exact .inl ⟨e, bind_eq_error_iff.2 (.inl htrees), bind_eq_error_iff.2 (.inl htrees')⟩
  · refine .inr ⟨both, htrees, htrees', ?_, ?_, hboth⟩
    · exact Config.run_eq_ok_iff.2 ⟨_, htrees, by rw [List.map_map]; rfl⟩
    · exact Config.run_eq_ok_iff.2 ⟨_, htrees', by rw [List.map_map]; rfl⟩

end Run

/-- A file with a message that holds an enum, and one with a field of each inside another. -/
def orchardRequest : Request where
  files := [
    { name := "fruit.proto"
      package := "fruit"
      messages := [{ name := "Apple", enums := [{ name := "Sort", values := [⟨"COX", 0⟩] }] }] },
    { name := "orchard.proto"
      package := "plant.orchard"
      dependencies := ["fruit.proto"]
      messages := [{
        name := "Row"
        fields := [{ name? := "tree", type? := some 11, typeName? := ".plant.orchard.Row.Tree" }]
        nested := [{
          name := "Tree"
          fields := [
            { name? := "apple", type? := some 11, typeName? := ".fruit.Apple" },
            { name? := "sort", type? := some 14, typeName? := ".fruit.Apple.Sort" }] }] }] }]

theorem flattening_simulates_orchard : Config.default.noNamespace = false ∧
    ∃ both : List (SourceFile × SourceFile),
      Config.default.trees orchardRequest = .ok (both.map Prod.fst) ∧
      Config.default.flattened.trees orchardRequest = .ok (both.map Prod.snd) ∧
      List.Forall₂ (fun file tree => FlattenedFile
        (SameType orchardRequest.files file
          (file.importDependencies (.ofFiles orchardRequest.files)).1) file.package
        tree.1 tree.2) orchardRequest.files both := by
  have hc : Config.default.noNamespace = false := rfl
  have hok : (Config.default.run orchardRequest).isOk := by decide +kernel
  obtain ⟨out, hout⟩ := isOk_iff.1 hok
  rcases flattening_simulates hc orchardRequest with
    ⟨e, herror, -⟩ | ⟨both, htrees, htrees', -, -, hboth⟩
  · rw [hout] at herror
    cases herror
  · exact ⟨hc, both, htrees, htrees', hboth⟩

end ProtoTypeScript
