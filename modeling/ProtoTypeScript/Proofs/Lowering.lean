import ProtoTypeScript.Declaration.File
import ProtoTypeScript.Proofs.DeclaredTypes

/-!
# How the tree of a file comes about

What has to succeed for a declaration, and what it then is: one lemma for each of fields, messages,
methods, services and files. Proofs about trees go through these lemmas.

What is said of every declaration for an enum or a message, at any depth, is proved by induction on
`FileScope.IsTypeDeclaration`.
-/

namespace ProtoTypeScript

open Outcome

namespace FileScope

variable {s : FileScope}

theorem resolve_eq_ok_iff {typeName : String} {r : TypeRecord} :
    s.resolve typeName = .ok r ↔ s.table.find? (.ofReference typeName) = some r :=
  TypeTable.resolve_eq_ok_iff

/-- The expression for a type below an import of the module that declares it. -/
def exportedExpression (s : FileScope) (r : TypeRecord) : String :=
  if s.config.noNamespace ∨ r.package = "" then s.localExpression r.path
  else r.package ++ "." ++ s.localExpression r.path

theorem typeExpression_of_ne {r : TypeRecord} (h : r.file ≠ s.file.name) :
    s.typeExpression r = match s.aliases.identifierFor? r.file with
      | none => .error (.missingDependency s.file.name r.file)
      | some identifier => .ok (identifier ++ "." ++ s.exportedExpression r) := by
  unfold typeExpression exportedExpression
  rw [if_neg h]
  cases s.aliases.identifierFor? r.file with
  | none => rfl
  | some identifier =>
    dsimp only
    split_ifs
    · rfl
    · simp only [String.append_assoc]

/-- A type of another file is written after the identifier of its import. -/
theorem typeExpression_eq_ok_iff {r : TypeRecord} {text : String} :
    s.typeExpression r = .ok text ↔
      (r.file = s.file.name ∧ text = s.localExpression r.path) ∨
      (r.file ≠ s.file.name ∧ ∃ identifier, s.aliases.identifierFor? r.file = some identifier ∧
        text = identifier ++ "." ++ s.exportedExpression r) := by
  by_cases hfile : r.file = s.file.name
  · rw [typeExpression, if_pos hfile, Except.ok.injEq]
    simp [hfile, eq_comm]
  · rw [typeExpression_of_ne hfile]
    cases s.aliases.identifierFor? r.file with
    | none => simp [hfile]
    | some identifier => simp [hfile, eq_comm]

/-- The type of a field, as a derivation of it. -/
inductive HasType (s : FileScope) : FieldDescriptor → FieldType → Prop
  | scalar {f : FieldDescriptor} {scalar : Scalar}
      (h : f.valueType.scalar? = some scalar) : HasType s f (.scalar scalar)
  | enumeration {f : FieldDescriptor} {r : TypeRecord} {zero : Option String}
      {name : String} (h : f.valueType.scalar? = none) (hr : s.resolve f.typeName = .ok r)
      (hkind : r.kind = .enumeration zero) (hname : s.typeExpression r = .ok name) :
      HasType s f (.enumeration name)
  | message {f : FieldDescriptor} {r : TypeRecord} {name : String}
      (h : f.valueType.scalar? = none) (hr : s.resolve f.typeName = .ok r)
      (hkind : r.kind = .message) (hname : s.typeExpression r = .ok name) :
      HasType s f (.message name)
  | map {f key value : FieldDescriptor} {r : TypeRecord} {keyType : Scalar}
      {valueType : FieldType} (h : f.valueType.scalar? = none)
      (hr : s.resolve f.typeName = .ok r) (hkind : r.kind = .mapEntry key value)
      (hkey : key.valueType.scalar? = some keyType) (hvalue : HasType s value valueType)
      (hmap : valueType.isMap = false) : HasType s f (.map keyType valueType)

/-- Why a field has no type, as a derivation of the error. -/
inductive TypeFails (s : FileScope) : FieldDescriptor → Error → Prop
  | unresolved {f : FieldDescriptor} {e : Error} (h : f.valueType.scalar? = none)
      (hr : s.resolve f.typeName = .error e) : TypeFails s f e
  | inexpressible {f : FieldDescriptor} {r : TypeRecord} {e : Error}
      (h : f.valueType.scalar? = none) (hr : s.resolve f.typeName = .ok r)
      (hkind : ∀ key value, r.kind ≠ .mapEntry key value) (hname : s.typeExpression r = .error e) :
      TypeFails s f e
  /-- The key of the entry is no scalar, or its values are maps. -/
  | malformed {f : FieldDescriptor} {r : TypeRecord} (h : f.valueType.scalar? = none)
      (hr : s.resolve f.typeName = .ok r) : TypeFails s f (.malformedMapEntry r.name.text)
  | value {f key value : FieldDescriptor} {r : TypeRecord} {e : Error}
      (h : f.valueType.scalar? = none) (hr : s.resolve f.typeName = .ok r)
      (hkind : r.kind = .mapEntry key value) (hvalue : TypeFails s value e) : TypeFails s f e

section Step

variable {valueTypeOf : FieldDescriptor → Except Failure FieldType} {f : FieldDescriptor}

theorem hasType_of_fieldTypeStep
    (hvalueType : ∀ value type, valueTypeOf value = .ok type → s.HasType value type)
    {type : FieldType} (h : s.fieldTypeStep valueTypeOf f = .ok type) : s.HasType f type := by
  unfold fieldTypeStep at h
  cases hscalar : f.valueType.scalar? with
  | some scalar =>
    rw [hscalar, Except.ok.injEq] at h
    exact h ▸ .scalar hscalar
  | none =>
    rw [hscalar] at h
    obtain ⟨r, hr, h⟩ := bind_eq_ok_iff.1 h
    rw [report_eq_ok_iff] at hr
    cases hkind : r.kind with
    | message =>
      rw [hkind] at h
      obtain ⟨name, hname, h⟩ := bind_eq_ok_iff.1 h
      exact pure_eq_ok_iff.1 h ▸ .message hscalar hr hkind (report_eq_ok_iff.1 hname)
    | enumeration zero =>
      rw [hkind] at h
      obtain ⟨name, hname, h⟩ := bind_eq_ok_iff.1 h
      exact pure_eq_ok_iff.1 h ▸ .enumeration hscalar hr hkind (report_eq_ok_iff.1 hname)
    | mapEntry key value =>
      cases hkey : key.valueType.scalar? with
      | none =>
        simp only [hkind, hkey] at h
        cases h
      | some keyType =>
        simp only [hkind, hkey] at h
        obtain ⟨valueType, hvalue, h⟩ := bind_eq_ok_iff.1 h
        split_ifs at h with hmap
        exact pure_eq_ok_iff.1 h ▸
          .map hscalar hr hkind hkey (hvalueType _ _ hvalue) (by simpa using hmap)

theorem typeFails_of_fieldTypeStep
    (hvalueType : ∀ value e, valueTypeOf value = .error (.reported e) → s.TypeFails value e)
    {e : Error} (h : s.fieldTypeStep valueTypeOf f = .error (.reported e)) : s.TypeFails f e := by
  unfold fieldTypeStep at h
  cases hscalar : f.valueType.scalar? with
  | some scalar => simp [hscalar] at h
  | none =>
    rw [hscalar] at h
    rcases bind_eq_error_iff.1 h with hr | ⟨r, hr, h⟩
    · exact .unresolved hscalar (report_eq_reported_iff.1 hr)
    rw [report_eq_ok_iff] at hr
    cases hkind : r.kind with
    | message =>
      rw [hkind] at h
      rcases bind_eq_error_iff.1 h with hname | ⟨name, -, h⟩
      · exact .inexpressible hscalar hr (by simp [hkind]) (report_eq_reported_iff.1 hname)
      · cases h
    | enumeration zero =>
      rw [hkind] at h
      rcases bind_eq_error_iff.1 h with hname | ⟨name, -, h⟩
      · exact .inexpressible hscalar hr (by simp [hkind]) (report_eq_reported_iff.1 hname)
      · cases h
    | mapEntry key value =>
      cases hkey : key.valueType.scalar? with
      | none =>
        simp only [hkind, hkey] at h
        cases h
        exact .malformed hscalar hr
      | some keyType =>
        simp only [hkind, hkey] at h
        rcases bind_eq_error_iff.1 h with hvalue | ⟨type, -, h⟩
        · exact .value hscalar hr hkind (hvalueType _ _ hvalue)
        · split_ifs at h with hmap
          · cases h
            exact .malformed hscalar hr
          · cases h

end Step

theorem hasType_of_fieldTypeWithin {calls : ℕ} {f : FieldDescriptor} {type : FieldType}
    (h : s.fieldTypeWithin calls f = .ok type) : s.HasType f type := by
  induction calls generalizing f type with
  | zero => cases h
  | succ calls ih => exact hasType_of_fieldTypeStep (fun _ _ => ih) h

/-- A type that is no map is found in one call. -/
theorem HasType.within_of_isMap {f : FieldDescriptor} {type : FieldType} (h : s.HasType f type)
    (hmap : type.isMap = false) (calls : ℕ) : s.fieldTypeWithin (calls + 1) f = .ok type := by
  rw [fieldTypeWithin, fieldTypeStep]
  cases h with
  | scalar h => rw [h]
  | enumeration h hr hkind hname =>
    rw [h]
    exact bind_eq_ok_iff.2 ⟨_, report_eq_ok_iff.2 hr, by rw [hkind, hname]; rfl⟩
  | message h hr hkind hname =>
    rw [h]
    exact bind_eq_ok_iff.2 ⟨_, report_eq_ok_iff.2 hr, by rw [hkind, hname]; rfl⟩
  | map => cases hmap

/-- Every type is found in two calls, since the values of a map are no maps. -/
theorem HasType.within {f : FieldDescriptor} {type : FieldType} (h : s.HasType f type)
    (calls : ℕ) : s.fieldTypeWithin (calls + 2) f = .ok type := by
  cases hmap : type.isMap with
  | false => exact h.within_of_isMap hmap (calls + 1)
  | true =>
    cases h with
    | @map _ _ _ r keyType valueType h hr hkind hkey hvalue hno =>
      rw [fieldTypeWithin, fieldTypeStep, h]
      refine bind_eq_ok_iff.2 ⟨r, report_eq_ok_iff.2 hr, ?_⟩
      simp only [hkind, hkey]
      exact bind_eq_ok_iff.2 ⟨valueType, hvalue.within_of_isMap hno calls, if_neg (by simp [hno])⟩
    | scalar | enumeration | message => cases hmap

/-- The stack has room for two calls beside one for each record. -/
theorem exists_fieldType_eq (s : FileScope) : ∃ calls, s.table.records.length ≤ calls ∧
    s.fieldType = s.fieldTypeWithin (calls + 2) := by
  have hlimit : 2 ≤ stackLimit := by decide
  refine ⟨s.table.records.length + (stackLimit - 2), Nat.le_add_right _ _, ?_⟩
  have hcalls : s.table.records.length + stackLimit =
      s.table.records.length + (stackLimit - 2) + 2 := by omega
  funext f
  rw [fieldType, hcalls]

theorem fieldType_eq_ok_iff {f : FieldDescriptor} {type : FieldType} :
    s.fieldType f = .ok type ↔ s.HasType f type := by
  refine ⟨hasType_of_fieldTypeWithin, fun h => ?_⟩
  obtain ⟨calls, -, hcalls⟩ := s.exists_fieldType_eq
  rw [hcalls]
  exact h.within calls

theorem typeFails_of_fieldTypeWithin {calls : ℕ} {f : FieldDescriptor} {e : Error}
    (h : s.fieldTypeWithin calls f = .error (.reported e)) : s.TypeFails f e := by
  induction calls generalizing f e with
  | zero => cases h
  | succ calls ih => exact typeFails_of_fieldTypeStep (fun _ _ => ih) h

theorem typeFails_of_fieldType {f : FieldDescriptor} {e : Error}
    (h : s.fieldType f = .error (.reported e)) : s.TypeFails f e :=
  typeFails_of_fieldTypeWithin h

theorem fieldDeclaration_eq_ok_iff {f : FieldDescriptor} {d : FieldDeclaration} :
    s.fieldDeclaration f = .ok d ↔ ∃ type value, s.fieldType f = .ok type ∧
      s.defaultValue f type (s.cardinality f type) = .ok value ∧
      d = ⟨f.name, s.objectKey f, f.number, type, s.cardinality f type, f.memberOf?, value,
        s.isPacked f type (s.cardinality f type), f.deprecated⟩ := by
  simp only [fieldDeclaration, bind_eq_ok_iff, pure_eq_ok_iff, report_eq_ok_iff]
  constructor
  · rintro ⟨type, htype, value, hvalue, rfl⟩
    exact ⟨type, value, htype, hvalue, rfl⟩
  · rintro ⟨type, value, htype, hvalue, rfl⟩
    exact ⟨type, htype, value, hvalue, rfl⟩

/-- Nested messages are declared one after the other, map entries left out. -/
theorem nestedDeclarations_eq_ok_iff {path : List String} {ms : List MessageDescriptor}
    {ds : List Declaration} :
    s.nestedDeclarations path ms = .ok ds ↔ ∃ parts,
      List.Forall₂ (fun m part => s.messageDeclarations path m = .ok part)
        (ms.filter fun m => !m.mapEntry) parts ∧ ds = parts.flatten := by
  induction ms generalizing ds with
  | nil =>
    rw [nestedDeclarations, Except.ok.injEq]
    simp [eq_comm]
  | cons m ms ih =>
    rw [nestedDeclarations]
    by_cases hm : m.mapEntry = true
    · rw [if_pos hm, List.filter_cons_of_neg (by simpa using hm)]
      exact ih
    · rw [if_neg hm, List.filter_cons_of_pos (by simpa using hm), bind_eq_ok_iff]
      constructor
      · rintro ⟨first, hfirst, h⟩
        obtain ⟨rest, hrest, h⟩ := bind_eq_ok_iff.1 h
        obtain ⟨parts, hparts, rfl⟩ := ih.1 hrest
        exact ⟨first :: parts, .cons hfirst hparts, (pure_eq_ok_iff.1 h).symm⟩
      · rintro ⟨parts, hparts, rfl⟩
        obtain ⟨first, rest, hfirst, hrest, rfl⟩ := List.forall₂_cons_left_iff.1 hparts
        exact ⟨first, hfirst, bind_eq_ok_iff.2 ⟨_, ih.2 ⟨rest, hrest, rfl⟩, rfl⟩⟩

/-- The class of a message, with the enums and then the messages inside it. -/
theorem messageDeclarations_eq_ok_iff {path : List String} {m : MessageDescriptor}
    {ds : List Declaration} :
    s.messageDeclarations path m = .ok ds ↔ ∃ messages fields,
      s.nestedDeclarations (path ++ [m.name]) m.nested = .ok messages ∧
      m.fields.mapM s.fieldDeclaration = .ok fields ∧
      ds = s.placeNested (s.messageClass path m fields)
        ((m.enums.map fun e => .enumeration (s.enumDeclaration (path ++ [m.name]) e)) ++
          messages) := by
  cases m
  simp only [messageDeclarations, bind_eq_ok_iff, pure_eq_ok_iff]
  constructor
  · rintro ⟨messages, hmessages, fields, hfields, rfl⟩
    exact ⟨messages, fields, hmessages, hfields, rfl⟩
  · rintro ⟨messages, fields, hmessages, hfields, rfl⟩
    exact ⟨messages, hmessages, fields, hfields, rfl⟩

theorem typeDeclarations_eq_ok_iff {ds : List Declaration} :
    s.typeDeclarations = .ok ds ↔ ∃ parts,
      List.Forall₂ (fun m part => s.messageDeclarations [] m = .ok part) s.file.messages parts ∧
      ds = (s.file.enums.map fun e => .enumeration (s.enumDeclaration [] e)) ++ parts.flatten := by
  simp only [typeDeclarations, bind_eq_ok_iff, pure_eq_ok_iff, mapM_eq_ok_iff]
  constructor
  · rintro ⟨parts, hparts, rfl⟩
    exact ⟨parts, hparts, rfl⟩
  · rintro ⟨parts, hparts, rfl⟩
    exact ⟨parts, hparts, rfl⟩

/-- What the file declares for an enum or a message. The class of a message has such declarations
inside it, and nothing without namespaces. -/
inductive IsTypeDeclaration (s : FileScope) : Declaration → Prop
  | enumeration (path : List String) (e : EnumDescriptor) :
      IsTypeDeclaration s (.enumeration (s.enumDeclaration path e))
  | message (path : List String) (m : MessageDescriptor) (fields : List FieldDeclaration)
      {nested : List Declaration} (hflat : s.config.noNamespace = true → nested = [])
      (hnested : ∀ d ∈ nested, IsTypeDeclaration s d) :
      IsTypeDeclaration s (.message (s.messageClass path m fields) nested)

/-- Declared enums with what is declared for messages beside them. -/
theorem isTypeDeclaration_of_mem_append {path : List String} (es : List EnumDescriptor)
    {ms : List MessageDescriptor} {parts : List (List Declaration)}
    (hparts : List.Forall₂ (fun m part => s.messageDeclarations path m = .ok part) ms parts)
    (h : ∀ m ∈ ms, ∀ part, s.messageDeclarations path m = .ok part →
      ∀ d ∈ part, s.IsTypeDeclaration d) :
    ∀ d ∈ (es.map fun e => .enumeration (s.enumDeclaration path e)) ++ parts.flatten,
      s.IsTypeDeclaration d := by
  intro d hd
  rcases List.mem_append.1 hd with hd | hd
  · obtain ⟨e, -, rfl⟩ := List.mem_map.1 hd
    exact .enumeration path e
  · obtain ⟨part, hpart, hd⟩ := List.mem_flatten.1 hd
    obtain ⟨m, hm, hok⟩ := exists_of_mem_right hparts hpart
    exact h m hm part hok d hd

theorem isTypeDeclaration_of_messageDeclarations {path : List String} {m : MessageDescriptor}
    {ds : List Declaration} (h : s.messageDeclarations path m = .ok ds) :
    ∀ d ∈ ds, s.IsTypeDeclaration d := by
  induction m using MessageDescriptor.nestedInduction generalizing path ds with
  | _ m ih =>
    obtain ⟨messages, fields, hmessages, -, rfl⟩ := messageDeclarations_eq_ok_iff.1 h
    obtain ⟨parts, hparts, rfl⟩ := nestedDeclarations_eq_ok_iff.1 hmessages
    have hinside := isTypeDeclaration_of_mem_append m.enums hparts
      fun n hn part hok => ih n (List.mem_filter.1 hn).1 hok
    -- the class stands beside what is nested or around it
    unfold placeNested
    split_ifs with hflat
    · exact List.forall_mem_append.2
        ⟨hinside, List.forall_mem_singleton.2 (.message path m fields (fun _ => rfl) (by simp))⟩
    · exact List.forall_mem_singleton.2
        (.message path m fields (fun h => absurd h hflat) hinside)

theorem isTypeDeclaration_of_typeDeclarations {ds : List Declaration}
    (h : s.typeDeclarations = .ok ds) : ∀ d ∈ ds, s.IsTypeDeclaration d := by
  obtain ⟨parts, hparts, rfl⟩ := typeDeclarations_eq_ok_iff.1 h
  exact isTypeDeclaration_of_mem_append s.file.enums hparts
    fun m _ part hok => isTypeDeclaration_of_messageDeclarations hok

theorem method_eq_ok_iff {service : String} {m : MethodDescriptor} {d : Method} :
    s.method service m = .ok d ↔ ∃ input inputType output outputType,
      s.resolve m.inputType = .ok input ∧ s.typeExpression input = .ok inputType ∧
      s.resolve m.outputType = .ok output ∧ s.typeExpression output = .ok outputType ∧
      d = ⟨m.name, "/" ++ s.servicePath service ++ "/" ++ m.name, inputType, outputType,
        m.clientStreaming, m.serverStreaming, m.deprecated⟩ := by
  simp only [method, bind_eq_ok_iff, pure_eq_ok_iff]
  constructor
  · rintro ⟨input, hin, inputType, hinType, output, hout, outputType, houtType, rfl⟩
    exact ⟨input, inputType, output, outputType, hin, hinType, hout, houtType, rfl⟩
  · rintro ⟨input, inputType, output, outputType, hin, hinType, hout, houtType, rfl⟩
    exact ⟨input, hin, inputType, hinType, output, hout, outputType, houtType, rfl⟩

theorem service_eq_ok_iff {d : ServiceDescriptor} {service : Service} :
    s.service d = .ok service ↔ ∃ methods,
      List.Forall₂ (fun m method => s.method d.name m = .ok method) d.methods methods ∧
      service = ⟨d.name, methods, d.deprecated⟩ := by
  simp only [FileScope.service, bind_eq_ok_iff, pure_eq_ok_iff, mapM_eq_ok_iff]
  constructor
  · rintro ⟨methods, hmethods, rfl⟩
    exact ⟨methods, hmethods, rfl⟩
  · rintro ⟨methods, hmethods, rfl⟩
    exact ⟨methods, hmethods, rfl⟩

theorem serviceDeclarations_eq_ok_iff {runtimes : RpcRuntimes} {ds : List Declaration} :
    s.serviceDeclarations runtimes = .ok ds ↔ ∃ services,
      List.Forall₂ (fun d service => s.service d = .ok service) s.file.services services ∧
      ds = .rpcInterfaces s.config.target (runtimes.client s.config.target) ::
        services.flatMap (s.stubs runtimes) := by
  simp only [serviceDeclarations, bind_eq_ok_iff, pure_eq_ok_iff, mapM_eq_ok_iff]
  constructor
  · rintro ⟨services, hservices, rfl⟩
    exact ⟨services, hservices, rfl⟩
  · rintro ⟨services, hservices, rfl⟩
    exact ⟨services, hservices, rfl⟩

end FileScope

/-- Every file of a request starts from a new scope: the one scope of all files is reset before it
gets to the next file. -/
theorem SourceFile.lowerAll_empty (config : Config) (table : TypeTable) (version : CompilerVersion)
    (files : List FileDescriptor) : SourceFile.lowerAll config table version .empty files =
      files.mapM (SourceFile.ofDescriptor config table version) := by
  induction files with
  | nil => rfl
  | cons file files ih =>
    rw [lowerAll, List.mapM_cons, ofDescriptor, ← ih]
    simp only [AliasScope.reset_eq_empty, bind_assoc, pure_bind]

theorem SourceFile.ofDescriptor_eq_bind (config : Config) (table : TypeTable)
    (version : CompilerVersion) (file : FileDescriptor) :
    SourceFile.ofDescriptor config table version file = (do
      let types ← (FileScope.ofFile config table file).typeDeclarations
      let services ← report
        ((FileScope.ofFile config table file).rpcDeclarations AliasScope.forFile.2.1)
      return {
        name := (ModulePath.ofFile file.name).fileName ".ts"
        header := file.header version
        imports := (file.importDependencies table).2 ++
          (FileScope.ofFile config table file).runtimeImports types ++
          (FileScope.ofFile config table file).rpcImports AliasScope.forFile.2.1
        body := (FileScope.ofFile config table file).inNamespace (types ++ services) }) := by
  simp only [ofDescriptor, lower, bind_assoc, pure_bind]
  rfl

theorem SourceFile.ofDescriptor_eq_ok_iff {config : Config} {table : TypeTable}
    {version : CompilerVersion} {file : FileDescriptor} {tree : SourceFile} :
    SourceFile.ofDescriptor config table version file = .ok tree ↔ ∃ types services,
      (FileScope.ofFile config table file).typeDeclarations = .ok types ∧
      (FileScope.ofFile config table file).rpcDeclarations AliasScope.forFile.2.1 = .ok services ∧
      tree = {
        name := (ModulePath.ofFile file.name).fileName ".ts"
        header := file.header version
        imports := (file.importDependencies table).2 ++
          (FileScope.ofFile config table file).runtimeImports types ++
          (FileScope.ofFile config table file).rpcImports AliasScope.forFile.2.1
        body := (FileScope.ofFile config table file).inNamespace (types ++ services) } := by
  simp only [SourceFile.ofDescriptor_eq_bind, bind_eq_ok_iff, pure_eq_ok_iff, report_eq_ok_iff]
  constructor
  · rintro ⟨types, htypes, services, hservices, rfl⟩
    exact ⟨types, services, htypes, hservices, rfl⟩
  · rintro ⟨types, services, htypes, hservices, rfl⟩
    exact ⟨types, htypes, services, hservices, rfl⟩

end ProtoTypeScript
