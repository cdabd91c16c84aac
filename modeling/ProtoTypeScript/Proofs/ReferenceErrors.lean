import ProtoTypeScript.Proofs.FileErrors
import ProtoTypeScript.Proofs.Imports
import ProtoTypeScript.Proofs.Runs
import ProtoTypeScript.Proofs.Services

/-!
# Which references fail

A run is given up for a name that no file declares and for a type of a file that is not imported.

* `FieldRefers` and `FileDescriptor.References` say which names a file refers to: those of its
  fields, where the name of a map entry stands for what its values refer to, and those of its
  methods;
* `Available` says that a type of the name is declared in the file itself or in one that can be
  reached from its dependencies; `available_iff` says that this is when a name has an expression;
* `references_fail_iff_unavailable`: no error of the two kinds without a name that is not available,
  and no file with such a name.
-/

namespace ProtoTypeScript

open Outcome

/-! ### Reference names -/

/-- A file of the list declares the type under the qualified name that the reference stands for. -/
structure Names (files : List FileDescriptor) (typeName : String) (g : FileDescriptor)
    (t : DeclaredType) : Prop where
  file : g ∈ files
  type : t ∈ g.types
  name : g.qualifiedName t = .ofReference typeName

/-- The field refers to the name: its own, or one that the values of the map entry refer to that
its own name leads to. -/
inductive FieldRefers (files : List FileDescriptor) : FieldDescriptor → String → Prop
  | direct {f : FieldDescriptor} (h : f.valueType.scalar? = none)
      (hentry : ∀ g t, Names files f.typeName g t → t.descriptor.isMapEntry = false) :
      FieldRefers files f f.typeName
  | entry {f key value : FieldDescriptor} {g : FileDescriptor} {t : DeclaredType}
      {m : MessageDescriptor} {name : String} (h : f.valueType.scalar? = none)
      (hnames : Names files f.typeName g t) (hdescriptor : t.descriptor = .message m)
      (hm : m.mapEntry = true) (hfields : m.fields = [key, value])
      (hvalue : FieldRefers files value name) : FieldRefers files f name

/-- The names that a file refers to: those of the fields of its messages, map entries inside
messages aside, and those of its methods if servers and clients are generated. -/
inductive FileDescriptor.References (c : Config) (files : List FileDescriptor)
    (file : FileDescriptor) : String → Prop
  | field {t : DeclaredType} {m : MessageDescriptor} {f : FieldDescriptor} {name : String}
      (ht : t ∈ file.loweredTypes) (hm : t.descriptor = .message m) (hf : f ∈ m.fields)
      (hname : FieldRefers files f name) : References c files file name
  | method {d : ServiceDescriptor} {m : MethodDescriptor} {name : String}
      (hgrpc : c.noGrpc = false) (hd : d ∈ file.services) (hm : m ∈ d.methods)
      (hname : name = m.inputType ∨ name = m.outputType) : References c files file name

/-- A type of the name is declared in the file or in one that can be reached from it. -/
def Available (files : List FileDescriptor) (file : FileDescriptor) (name : String) : Prop :=
  ∃ g t, Names files name g t ∧
    (g.name = file.name ∨ Reachable files file.dependencies g.name)

/-- A name that no file declares, or a type of a file that is not imported. -/
def Error.IsReferenceError : Error → Prop
  | .unresolvedType _ _ => True
  | .missingDependency _ _ => True
  | _ => False

namespace FileScope

variable {s : FileScope} {e : Error}

/-- A method fails where one of its two types has no expression. -/
theorem method_eq_error {service : String} {m : MethodDescriptor}
    (h : s.method service m = .error e) : ∃ name, (name = m.inputType ∨ name = m.outputType) ∧
      ¬ ∃ r text, s.resolve name = .ok r ∧ s.typeExpression r = .ok text := by
  rcases bind_eq_error_iff.1 h with hin | ⟨input, hin, h⟩
  · exact ⟨_, Or.inl rfl, by simp [hin]⟩
  rcases bind_eq_error_iff.1 h with hinType | ⟨inputType, -, h⟩
  · exact ⟨_, Or.inl rfl, by simp [hin, hinType]⟩
  rcases bind_eq_error_iff.1 h with hout | ⟨output, hout, h⟩
  · exact ⟨_, Or.inr rfl, by simp [hout]⟩
  rcases bind_eq_error_iff.1 h with houtType | ⟨outputType, -, h⟩
  · exact ⟨_, Or.inr rfl, by simp [hout, houtType]⟩
  · cases h

/-- A default that is missing or no value of its type is no error in a reference: the type of the
field was found. -/
theorem not_isReferenceError_of_defaultValue {f : FieldDescriptor} {type : FieldType}
    (htype : s.fieldType f = .ok type) {c : Cardinality} (h : s.defaultValue f type c = .error e) :
    ¬ e.IsReferenceError := by
  unfold defaultValue at h
  split_ifs at h
  cases type with
  | map key value => cases h
  | message name => cases h
  | scalar scalar =>
    simp only [scalarDefault] at h
    split at h
    · cases h
    · split at h <;> cases h
      exact id
  | enumeration name =>
    -- the name of the enum was resolved for the type
    cases fieldType_eq_ok_iff.1 htype with
    | enumeration _ hr hkind _ =>
      simp only [enumDefault] at h
      split at h
      · cases h
      · rcases bind_eq_error_iff.1 h with herror | ⟨r, -, h⟩
        · rw [hr] at herror
          cases herror
        · split at h <;> cases h

end FileScope

/-! ### Available names have an expression -/

section Request

variable {c : Config} {files : List FileDescriptor} {file : FileDescriptor}

section Registered

variable (htypes : (files.flatMap (·.typeNames)).Nodup)

include htypes

theorem resolve_eq_ok_iff_names {typeName : String} {r : TypeRecord} :
    (FileScope.ofFile c (.ofFiles files) file).resolve typeName = .ok r ↔
      ∃ g t, Names files typeName g t ∧ g.record t = .ok r := by
  rw [FileScope.resolve_eq_ok_iff]
  refine (TypeTable.find?_ofFiles_eq_some_iff htypes).trans ⟨?_, ?_⟩
  · rintro ⟨g, hg, t, ht, hr, hname⟩
    exact ⟨g, t, ⟨hg, ht, (FileDescriptor.record_eq_ok_iff.1 hr).1 ▸ hname⟩, hr⟩
  · rintro ⟨g, t, ⟨hg, ht, hname⟩, hr⟩
    exact ⟨g, hg, t, ht, hr, (FileDescriptor.record_eq_ok_iff.1 hr).1.trans hname⟩

/-- A name whose record is that of a map entry names one with the entry's two fields. -/
theorem exists_entry_of_resolve {typeName : String} {r : TypeRecord}
    (hr : (FileScope.ofFile c (.ofFiles files) file).resolve typeName = .ok r)
    {key value : FieldDescriptor} (hkind : r.kind = .mapEntry key value) :
    ∃ g t m, Names files typeName g t ∧ t.descriptor = .message m ∧ m.mapEntry = true ∧
      m.fields = [key, value] := by
  obtain ⟨g, t, hnamed, hrecord⟩ := (resolve_eq_ok_iff_names htypes).1 hr
  have hdescriptor := (FileDescriptor.record_eq_ok_iff.1 hrecord).2.2.2.2
  rw [hkind] at hdescriptor
  obtain ⟨m, ht, hm, hfields⟩ := TypeDescriptor.exists_of_kind_mapEntry hdescriptor
  exact ⟨g, t, m, hnamed, ht, hm, hfields⟩

/-- A name that stands for itself does not lead to the record of a map entry. -/
theorem kind_ne_mapEntry_of_direct {typeName : String}
    (hentry : ∀ g t, Names files typeName g t → t.descriptor.isMapEntry = false)
    {r : TypeRecord} (hr : (FileScope.ofFile c (.ofFiles files) file).resolve typeName = .ok r)
    (key value : FieldDescriptor) : r.kind ≠ .mapEntry key value := by
  intro hkind
  obtain ⟨g, t, m, hnamed, ht, hm, -⟩ := exists_entry_of_resolve htypes hr hkind
  have hnone := hentry g t hnamed
  rw [ht] at hnone
  exact absurd (hm.symm.trans hnone) (by decide)

variable (hwell : ∀ f ∈ files, f.EntriesWellFormed)

include hwell

/-- A name leads to the record of a type that it names, whichever file declares that. -/
theorem record_of_names {typeName : String} {g : FileDescriptor} {t : DeclaredType}
    (h : Names files typeName g t) {r : TypeRecord}
    (hr : (FileScope.ofFile c (.ofFiles files) file).resolve typeName = .ok r) :
    g.record t = .ok r := by
  obtain ⟨r', hr'⟩ := hwell g h.file t h.type
  rw [(resolve_eq_ok_iff_names htypes).2 ⟨g, t, h, hr'⟩, Except.ok.injEq] at hr
  exact hr ▸ hr'

/-- The record of a map entry has the entry's two fields. -/
theorem kind_of_names_entry {typeName : String} {g : FileDescriptor} {t : DeclaredType}
    (h : Names files typeName g t) {m : MessageDescriptor} (hdescriptor : t.descriptor = .message m)
    (hm : m.mapEntry = true) {key value : FieldDescriptor} (hfields : m.fields = [key, value])
    {r : TypeRecord} (hr : (FileScope.ofFile c (.ofFiles files) file).resolve typeName = .ok r) :
    r.kind = .mapEntry key value := by
  have hrecord := record_of_names htypes hwell h hr
  obtain ⟨-, -, -, -, hkind⟩ := FileDescriptor.record_eq_ok_iff.1 hrecord
  rw [hdescriptor, TypeDescriptor.kind_mapEntry hm] at hkind
  obtain ⟨key', value', hfields', -, -, -, hkind⟩ := hkind
  rw [hfields, List.cons.injEq, List.cons.injEq] at hfields'
  rw [hkind, hfields'.1, hfields'.2.1]

/-- A name whose record is not that of a map entry names no map entry. -/
theorem isMapEntry_of_names {typeName : String} {g : FileDescriptor} {t : DeclaredType}
    (h : Names files typeName g t) {r : TypeRecord}
    (hr : (FileScope.ofFile c (.ofFiles files) file).resolve typeName = .ok r)
    (hkind : ∀ key value, r.kind ≠ .mapEntry key value) : t.descriptor.isMapEntry = false := by
  have hrecord := record_of_names htypes hwell h hr
  obtain ⟨-, -, -, -, hdescriptor⟩ := FileDescriptor.record_eq_ok_iff.1 hrecord
  cases ht : t.descriptor with
  | enumeration e => rfl
  | message m =>
    rw [ht] at hdescriptor
    cases hm : m.mapEntry with
    | false => exact hm
    | true =>
      obtain ⟨key, value, -, -, -, -, hr⟩ := (TypeDescriptor.kind_mapEntry hm).1 hdescriptor
      exact absurd hr (hkind key value)

variable (hnames : (files.map (·.name)).Nodup) (hfile : file ∈ files)

include hnames hfile

omit htypes in
/-- A file imports what can be reached from its dependencies, itself aside. -/
theorem mem_importNames_iff {d : String} : d ∈ file.importNames (.ofFiles files) ↔
    d ≠ file.name ∧ Reachable files file.dependencies d := by
  have htable : TypeTable.empty.registerEach files = .ofFiles files :=
    TypeTable.registerEach_of_registerAll (TypeTable.registerAll_eq_ok_iff.2 ⟨hwell, rfl⟩)
  have hdrains := ImportClosure.drains_names (TypeTable.ofFiles files).reexports file.name
    file.dependencies
  change ImportClosure.Drains (TypeTable.ofFiles files).reexportsOf _ _ _ _ at hdrains
  rw [← htable, reexportsOf_registerEach hnames, htable] at hdrains
  exact hdrains.mem_iff hnames hfile

omit htypes in
theorem exists_typeExpression_iff {r : TypeRecord} :
    (∃ text, (FileScope.ofFile c (.ofFiles files) file).typeExpression r = .ok text) ↔
      r.file = file.name ∨ Reachable files file.dependencies r.file := by
  constructor
  · rintro ⟨text, h⟩
    rcases FileScope.typeExpression_eq_ok_iff.1 h with ⟨hsame, -⟩ | ⟨-, identifier, hbound, -⟩
    · exact Or.inl hsame
    · refine Or.inr ((mem_importNames_iff hwell hnames hfile).1 ?_).2
      by_contra hmem
      have hunbound := FileDescriptor.identifierFor?_of_notMem hmem
      exact Option.some_ne_none identifier (hbound.symm.trans hunbound)
  · intro h
    by_cases hsame : r.file = file.name
    · exact ⟨_, FileScope.typeExpression_eq_ok_iff.2 (Or.inl ⟨hsame, rfl⟩)⟩
    · have hmem := (mem_importNames_iff hwell hnames hfile).2 ⟨hsame, h.resolve_left hsame⟩
      obtain ⟨i, hi⟩ := List.mem_iff_getElem?.1 hmem
      have hbound := FileDescriptor.identifierFor?_of_getElem? hi
      exact ⟨_, FileScope.typeExpression_eq_ok_iff.2 (Or.inr ⟨hsame, _, hbound, rfl⟩)⟩

/-- A name is available exactly if it leads to a type that has an expression in the file. -/
theorem available_iff {name : String} : Available files file name ↔
    ∃ r text, (FileScope.ofFile c (.ofFiles files) file).resolve name = .ok r ∧
      (FileScope.ofFile c (.ofFiles files) file).typeExpression r = .ok text := by
  constructor
  · rintro ⟨g, t, h, hreach⟩
    obtain ⟨r, hr⟩ := hwell g h.file t h.type
    rw [← (FileDescriptor.record_eq_ok_iff.1 hr).2.1] at hreach
    obtain ⟨text, htext⟩ := (exists_typeExpression_iff hwell hnames hfile).2 hreach
    exact ⟨r, text, (resolve_eq_ok_iff_names htypes).2 ⟨g, t, h, hr⟩, htext⟩
  · rintro ⟨r, text, hr, htext⟩
    obtain ⟨g, t, h, hrecord⟩ := (resolve_eq_ok_iff_names htypes).1 hr
    have hreach := (exists_typeExpression_iff hwell hnames hfile).1 ⟨text, htext⟩
    rw [(FileDescriptor.record_eq_ok_iff.1 hrecord).2.1] at hreach
    exact ⟨g, t, h, hreach⟩

/-! ### The references of fields -/

/-- The type of a field fails with an error in a reference only for a name that is not available. -/
theorem exists_unavailable_of_typeFails {f : FieldDescriptor} {e : Error}
    (h : (FileScope.ofFile c (.ofFiles files) file).TypeFails f e) (he : e.IsReferenceError) :
    ∃ name, FieldRefers files f name ∧ ¬ Available files file name := by
  induction h with
  | unresolved hscalar hr =>
    refine ⟨_, .direct hscalar fun g t hnamed => ?_, ?_⟩
    · obtain ⟨r, hrecord⟩ := hwell g hnamed.file t hnamed.type
      rw [(resolve_eq_ok_iff_names htypes).2 ⟨g, t, hnamed, hrecord⟩] at hr
      cases hr
    · rw [available_iff (c := c) htypes hwell hnames hfile]
      simp [hr]
  | inexpressible hscalar hr hkind hexpression =>
    refine ⟨_, .direct hscalar fun g t hnamed => ?_, ?_⟩
    · exact isMapEntry_of_names htypes hwell hnamed hr hkind
    · rw [available_iff (c := c) htypes hwell hnames hfile]
      simp [hr, hexpression]
  | malformed hscalar hr => exact he.elim
  | value hscalar hr hkind _ ih =>
    -- the entry stands for what its values refer to
    obtain ⟨g, t, m, hnamed, hdescriptor, hm, hfields⟩ := exists_entry_of_resolve htypes hr hkind
    obtain ⟨name, hname, hnone⟩ := ih he
    exact ⟨name, .entry hscalar hnamed hdescriptor hm hfields hname, hnone⟩

/-- Beyond its type, a field has no references of its own. -/
theorem exists_unavailable_of_fieldDeclaration {f : FieldDescriptor} {e : Error}
    (he : e.IsReferenceError)
    (h : (FileScope.ofFile c (.ofFiles files) file).fieldDeclaration f = .error (.reported e)) :
    ∃ name, FieldRefers files f name ∧ ¬ Available files file name := by
  rcases bind_eq_error_iff.1 h with htype | ⟨type, htype, h⟩
  · exact exists_unavailable_of_typeFails htypes hwell hnames hfile
      (FileScope.typeFails_of_fieldType htype) he
  rcases bind_eq_error_iff.1 h with hdefault | ⟨value, -, h⟩
  · rw [report_eq_reported_iff] at hdefault
    exact absurd he (FileScope.not_isReferenceError_of_defaultValue htype hdefault)
  · cases h

/-- A field that has a type refers to available names only. -/
theorem FieldRefers.available {f : FieldDescriptor} {name : String} (h : FieldRefers files f name)
    {type : FieldType}
    (htype : (FileScope.ofFile c (.ofFiles files) file).HasType f type) :
    Available files file name := by
  -- by the references of the field; the type says what its record is
  induction h generalizing type with
  | direct h hentry =>
    rw [available_iff (c := c) htypes hwell hnames hfile]
    cases htype with
    | scalar hscalar => simp [h] at hscalar
    | enumeration _ hr _ htext => exact ⟨_, _, hr, htext⟩
    | message _ hr _ htext => exact ⟨_, _, hr, htext⟩
    | map _ hr hkind => exact absurd hkind (kind_ne_mapEntry_of_direct htypes hentry hr _ _)
  | entry h hnamed hdescriptor hm hfields _ ih =>
    cases htype with
    | scalar hscalar => simp [h] at hscalar
    | enumeration _ hr hkind _ =>
      simp [kind_of_names_entry htypes hwell hnamed hdescriptor hm hfields hr] at hkind
    | message _ hr hkind _ =>
      simp [kind_of_names_entry htypes hwell hnamed hdescriptor hm hfields hr] at hkind
    | map _ hr hkind _ hvalue _ =>
      rw [kind_of_names_entry htypes hwell hnamed hdescriptor hm hfields hr] at hkind
      cases hkind
      exact ih hvalue

/-! ### The references of files -/

/-- An error in a reference is for a name that is not available. -/
theorem exists_unavailable_of_ofDescriptor {version : CompilerVersion} {e : Error}
    (he : e.IsReferenceError)
    (h : SourceFile.ofDescriptor c (.ofFiles files) version file = .error (.reported e)) :
    ∃ name, file.References c files name ∧ ¬ Available files file name := by
  rcases SourceFile.ofDescriptor_eq_error_iff.1 h with hfield | ⟨-, e', hsame, hservices⟩
  · obtain ⟨f, hf, herror⟩ := hfield.exists_mem
    obtain ⟨t, ht, m, hm, hmem⟩ := FileDescriptor.mem_loweredFields_iff.1 hf
    obtain ⟨name, hname, hnone⟩ :=
      exists_unavailable_of_fieldDeclaration htypes hwell hnames hfile he herror
    exact ⟨name, .field ht hm hmem hname, hnone⟩
  · obtain rfl := Failure.reported.inj hsame
    obtain ⟨hgrpc, d, hd, m, hm, herror⟩ :=
      FileScope.exists_method_of_rpcDeclarations_eq_error hservices
    obtain ⟨name, hname, hnone⟩ := FileScope.method_eq_error herror
    exact ⟨name, .method hgrpc hd hm hname,
      (available_iff htypes hwell hnames hfile).not.2 hnone⟩

/-- A file that has a tree refers to available names only. -/
theorem FileDescriptor.References.available {name : String} (h : file.References c files name)
    {version : CompilerVersion} {tree : SourceFile}
    (htree : SourceFile.ofDescriptor c (.ofFiles files) version file = .ok tree) :
    Available files file name := by
  cases h with
  | field ht hm hf hname =>
    obtain ⟨d, -, -, hlowers⟩ := exists_of_mem_left (SourceFile.ofDescriptor_lowers htree) ht
    rw [hm] at hlowers
    obtain ⟨fields, -, hfields, -, -⟩ := hlowers
    obtain ⟨field, -, hfield⟩ := exists_of_mem_left (mapM_eq_ok_iff.1 hfields) hf
    obtain ⟨type, value, htype, -, -⟩ := FileScope.fieldDeclaration_eq_ok_iff.1 hfield
    exact hname.available htypes hwell hnames hfile (FileScope.fieldType_eq_ok_iff.1 htype)
  | @method d m name hgrpc hd hm hname =>
    obtain ⟨services, hservices, -⟩ := SourceFile.ofDescriptor_services htree
    rw [FileDescriptor.rpcServices, if_neg (by simp [hgrpc])] at hservices
    obtain ⟨service, -, hservice⟩ := exists_of_mem_left hservices hd
    obtain ⟨methods, hmethods, -⟩ := FileScope.service_eq_ok_iff.1 hservice
    obtain ⟨method, -, hmethod⟩ := exists_of_mem_left hmethods hm
    obtain ⟨input, inputType, output, outputType, hin, hinType, hout, houtType, -⟩ :=
      FileScope.method_eq_ok_iff.1 hmethod
    rw [available_iff (c := c) htypes hwell hnames hfile]
    rcases hname with rfl | rfl
    · exact ⟨input, inputType, hin, hinType⟩
    · exact ⟨output, outputType, hout, houtType⟩

end Registered

end Request

/-- **References fail exactly for names that are not available**: a file whose names all are gets
no error for a reference, and a file with one that is not gets no tree, nor does any file of its
run. -/
theorem references_fail_iff_unavailable {c : Config} {r : Request}
    (hnames : (r.files.map (·.name)).Nodup) (htypes : (r.files.flatMap (·.typeNames)).Nodup)
    {table : TypeTable} (htable : TypeTable.empty.registerAll r.files = .ok table)
    {file : FileDescriptor} (hfile : file ∈ r.files) :
    ((∀ name, file.References c r.files name → Available r.files file name) →
      ∀ e, SourceFile.ofDescriptor c table r.compilerVersion file = .error (.reported e) →
        ¬ e.IsReferenceError) ∧
    ∀ name, file.References c r.files name → ¬ Available r.files file name →
      (∃ failure, SourceFile.ofDescriptor c table r.compilerVersion file = .error failure) ∧
      (∃ failure, c.run r = .error failure) ∧
      ∀ response ∈ Response.ofOutcome? (c.run r), response.files = [] := by
  obtain ⟨hwell, rfl⟩ := TypeTable.registerAll_eq_ok_iff.1 htable
  refine ⟨fun havailable e h he => ?_, fun name hname hnone => ?_⟩
  · obtain ⟨name, hname, hnone⟩ :=
      exists_unavailable_of_ofDescriptor htypes hwell hnames hfile he h
    exact hnone (havailable name hname)
  have hfails : ∀ tree,
      SourceFile.ofDescriptor c (.ofFiles r.files) r.compilerVersion file ≠ .ok tree :=
    fun tree htree => hnone (hname.available htypes hwell hnames hfile htree)
  refine ⟨?_, ?_⟩
  · cases h : SourceFile.ofDescriptor c (.ofFiles r.files) r.compilerVersion file with
    | error failure => exact ⟨failure, rfl⟩
    | ok tree => exact absurd h (hfails tree)
  · cases h : c.run r with
    | error failure => exact ⟨⟨failure, rfl⟩, Response.files_of_error failure⟩
    | ok out =>
      obtain ⟨trees, htrees, -⟩ := Config.run_eq_ok_iff.1 h
      obtain ⟨tree, -, htree⟩ := exists_of_mem_left (Config.trees_eq_ok_iff.1 htrees).2.2 hfile
      exact absurd htree (hfails tree)

/-- A file with a map whose values are messages of a file that its only dependency exports again. -/
def oasisFile : FileDescriptor where
  name := "oasis.proto"
  dependencies := ["canal.proto"]
  messages := [{
    name := "Oasis"
    fields := [{ name? := "wells", type? := some 11, typeName? := ".Oasis.WellsEntry" }]
    nested := [{
      name := "WellsEntry"
      fields := [{ name? := "key", type? := some 9 },
        { name? := "value", type? := some 11, typeName? := ".water.Well" }]
      mapEntry := true }] }]

/-- A message that refers to the message of the values. -/
def duneMessage : MessageDescriptor where
  name := "Dune"
  fields := [{ name? := "mirage", type? := some 11, typeName? := ".water.Well" }]

/-- A file that refers to that message without a dependency. -/
def desertFile : FileDescriptor where
  name := "desert.proto"
  messages := [duneMessage]

/-- A request for both files and those between them and the message. -/
def desertRequest : Request where
  files := [oasisFile, desertFile,
    { name := "canal.proto", dependencies := ["well.proto"], publicDependencies := [0] },
    { name := "well.proto", package := "water", messages := [{ name := "Well" }] }]

theorem Reachable.nonempty {files : List FileDescriptor} {dependencies : List String} {d : String}
    (h : Reachable files dependencies d) : dependencies ≠ [] := by
  induction h with
  | dependency hd => exact List.ne_nil_of_mem hd
  | reexport _ _ _ _ _ ih => exact ih

theorem references_fail_iff_unavailable_desert :
    (desertRequest.files.map (·.name)).Nodup ∧
    (desertRequest.files.flatMap (·.typeNames)).Nodup ∧
    TypeTable.empty.registerAll desertRequest.files = .ok (.ofFiles desertRequest.files) ∧
    ((∀ name, oasisFile.References .default desertRequest.files name →
        Available desertRequest.files oasisFile name) ∧
      ∀ e, SourceFile.ofDescriptor .default (.ofFiles desertRequest.files) default oasisFile =
        .error (.reported e) → ¬ e.IsReferenceError) ∧
    ∃ name, desertFile.References .default desertRequest.files name ∧
      ¬ Available desertRequest.files desertFile name ∧
      (∃ failure, Config.default.run desertRequest = .error failure) := by
  have hnames : (desertRequest.files.map (·.name)).Nodup := by decide
  have htypes : (desertRequest.files.flatMap (·.typeNames)).Nodup := by decide
  have htable : TypeTable.empty.registerAll desertRequest.files =
      .ok (.ofFiles desertRequest.files) := rfl
  have hoasis : oasisFile ∈ desertRequest.files := List.mem_cons_self
  have hdesert : desertFile ∈ desertRequest.files := List.mem_cons_of_mem _ List.mem_cons_self
  have hwell := (TypeTable.registerAll_eq_ok_iff.1 htable).1
  have hok : (SourceFile.ofDescriptor .default (.ofFiles desertRequest.files) default
      oasisFile).isOk := by decide +kernel
  obtain ⟨tree, htree⟩ := isOk_iff.1 hok
  have havailable : ∀ name, oasisFile.References .default desertRequest.files name →
      Available desertRequest.files oasisFile name :=
    fun name h => h.available htypes hwell hnames hoasis htree
  have hrefers : desertFile.References .default desertRequest.files ".water.Well" := by
    have hordinary : ∀ g ∈ desertRequest.files, ∀ t ∈ g.types,
        g.qualifiedName t = .ofReference ".water.Well" → t.descriptor.isMapEntry = false := by
      decide
    have hlowered : ⟨[], .message duneMessage⟩ ∈ desertFile.loweredTypes :=
      List.mem_singleton_self _
    refine .field hlowered rfl List.mem_cons_self (.direct rfl fun g t h => ?_)
    exact hordinary g h.file t h.type h.name
  have hnone : ¬ Available desertRequest.files desertFile ".water.Well" := by
    have hother : ∀ g ∈ desertRequest.files, ∀ t ∈ g.types,
        g.qualifiedName t = .ofReference ".water.Well" → g.name ≠ desertFile.name := by decide
    rintro ⟨g, t, h, hsame | hreach⟩
    · exact hother g h.file t h.type h.name hsame
    · exact hreach.nonempty rfl
  refine ⟨hnames, htypes, htable, ⟨havailable, ?_⟩, ".water.Well", hrefers, hnone, ?_⟩
  · exact (references_fail_iff_unavailable hnames htypes htable hoasis).1 havailable
  · exact ((references_fail_iff_unavailable hnames htypes htable hdesert).2 _ hrefers hnone).2.1

end ProtoTypeScript
