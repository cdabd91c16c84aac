import ProtoTypeScript.Proofs.Imports
import ProtoTypeScript.Proofs.LoweredTypes
import ProtoTypeScript.Proofs.RelativePath
import ProtoTypeScript.Proofs.Runs
import ProtoTypeScript.Proofs.Services

/-!
# Where references lead

A reference in a descriptor is a qualified name; in a tree it is a TypeScript expression. What such
an expression leads to is said here without the functions that write it:

* `Leads`: in its own module a type is reached by its path below the namespace of the package, in
  another one through an import whose specifier, joined to the directory of the importer, is the
  name of the other module's file;
* `Run.Refers`: an expression leads to the declaration of the type that a qualified name names;
* `Run.Denotes`: the type of a field in a tree is the type of the field in the descriptor.

`references_denote` says that every reference of a run leads to its type.
-/

namespace ProtoTypeScript

open Outcome

/-! ### What an expression leads to -/

/-- A file and the tree that is generated for it. -/
structure GeneratedModule where
  file : FileDescriptor
  tree : SourceFile

/-- The text, read in the module `here`, leads to the path `below` under the package's namespace in
the module `there`. -/
inductive Leads (c : Config) (here there : GeneratedModule) (below : List String) : String → Prop
  | within (h : there = here) : Leads c here there below (Text.joinWith "." below)
  | imported {i : Import} {rest : String} (hother : there.file.name ≠ here.file.name)
      (hone : here.tree.imports.filter (·.identifier = i.identifier) = [i])
      (hmodule : ModulePath.joined here.tree.name i.module ++ ".ts" = there.tree.name)
      (hrest : namespaceSegments rest = there.file.packageSegments c ++ below) :
      Leads c here there below (i.identifier ++ "." ++ rest)

/-- A configuration and the modules that are generated under it. -/
structure Run where
  config : Config
  modules : List GeneratedModule

namespace Run

/-- The files of the run. -/
def files (run : Run) : List FileDescriptor :=
  run.modules.map (·.file)

/-- The scope of a module's references. -/
def scope (run : Run) (m : GeneratedModule) : FileScope :=
  .ofFile run.config (.ofFiles run.files) m.file

/-- The text, read in the module `here`, leads to the declaration of a type of the given sort that
has the name `typeName`. -/
def Refers (run : Run) (here : GeneratedModule) (sort : TypeDescriptor → Prop)
    (typeName : String) (text : String) : Prop :=
  ∃ there ∈ run.modules, ∃ t ∈ there.file.types,
    there.file.qualifiedName t = .ofReference typeName ∧ sort t.descriptor ∧
    ∃ d ∈ there.tree.types,
      (run.scope there).Lowers (there.file.packageSegments run.config) t d ∧
      ∃ below, d.1 = there.file.packageSegments run.config ++ below ∧
        Leads run.config here there below text

/-- The type is an enum. -/
def IsEnumeration : TypeDescriptor → Prop
  | .enumeration _ => True
  | .message _ => False

/-- The type is a message that does not stand for map entries. -/
def IsOrdinaryMessage : TypeDescriptor → Prop
  | .enumeration _ => False
  | .message m => m.mapEntry = false

instance : DecidablePred IsOrdinaryMessage
  | .enumeration _ => inferInstanceAs (Decidable False)
  | .message m => inferInstanceAs (Decidable (m.mapEntry = false))

/-- In the module `here` the field has the type: a scalar as in the descriptor, an expression that
leads to the enum or the message, or a map if the name is that of a map entry. -/
inductive Denotes (run : Run) (here : GeneratedModule) : FieldDescriptor → FieldType → Prop
  | scalar {f : FieldDescriptor} {scalar : Scalar} (h : f.valueType.scalar? = some scalar) :
      Denotes run here f (.scalar scalar)
  | enumeration {f : FieldDescriptor} {text : String} (h : f.valueType.scalar? = none)
      (hrefers : run.Refers here IsEnumeration f.typeName text) :
      Denotes run here f (.enumeration text)
  | message {f : FieldDescriptor} {text : String} (h : f.valueType.scalar? = none)
      (hrefers : run.Refers here IsOrdinaryMessage f.typeName text) :
      Denotes run here f (.message text)
  | map {f key value : FieldDescriptor} {there : GeneratedModule} {t : DeclaredType}
      {m : MessageDescriptor} {keyType : Scalar} {valueType : FieldType}
      (h : f.valueType.scalar? = none) (hthere : there ∈ run.modules) (ht : t ∈ there.file.types)
      (hname : there.file.qualifiedName t = .ofReference f.typeName)
      (hentry : t.descriptor = .message m ∧ m.mapEntry = true ∧ m.fields = [key, value])
      (hkey : key.valueType.scalar? = some keyType) (hvalue : Denotes run here value valueType) :
      Denotes run here f (.map keyType valueType)

/-- Every reference in the module leads to its type. -/
structure ReferencesDenote (run : Run) (here : GeneratedModule) : Prop where
  /-- The class of every message has its fields, with their types. -/
  fields : ∀ t ∈ here.file.types, ∀ m, t.descriptor = .message m → m.mapEntry = false →
    ∃ d nested, (here.file.packageSegments run.config ++ run.config.place t.path,
        Declaration.message d nested) ∈ here.tree.types ∧
      List.Forall₂ (fun f field => field.name = f.name ∧ field.number = f.number ∧
        run.Denotes here f field.type) m.fields d.fields
  /-- Server and client of every service have its methods, with their types. -/
  methods : ∃ services, here.tree.services = services.flatMap (fun s => [s, s]) ∧
    List.Forall₂ (fun d s => s.name = d.name ∧
      List.Forall₂ (fun m method => method.name = m.name ∧
        run.Refers here IsOrdinaryMessage m.inputType method.inputType ∧
        run.Refers here IsOrdinaryMessage m.outputType method.outputType) d.methods s.methods)
      (here.file.rpcServices run.config) services
  /-- With namespaces, no path leads to two declarations. -/
  distinct : run.config.noNamespace = false → (here.tree.types.map (·.1)).Nodup

end Run

/-! ### Paths in expressions -/

theorem namespaceSegments_append (package rest : String) :
    namespaceSegments (package ++ "." ++ rest) =
      namespaceSegments package ++ namespaceSegments rest := by
  unfold namespaceSegments
  rw [String.toList_append, String.toList_append, List.append_assoc, ← List.map_append]
  show (Text.splitOn '.' (package.toList ++ '.' :: rest.toList)).map String.ofList = _
  rw [Text.splitOn_append]

theorem namespaceSegments_joinWith {segments : List String} (h : ∀ s ∈ segments, '.' ∉ s.toList)
    (hne : segments ≠ []) : namespaceSegments (Text.joinWith "." segments) = segments := by
  rw [namespaceSegments, Text.splitOn_joinWith rfl h hne, List.map_map]
  simp [Function.comp_def]

theorem Config.point_notMem_place (c : Config) {path : List String}
    (h : ∀ s ∈ path, '.' ∉ s.toList) : ∀ s ∈ c.place path, '.' ∉ s.toList := by
  unfold place
  split_ifs
  · intro s hs
    rw [List.mem_singleton.1 hs]
    exact Text.notMem_joinWith (by decide) h
  · exact h

theorem Config.place_ne_nil (c : Config) {path : List String} (h : path ≠ []) :
    c.place path ≠ [] := by
  unfold place
  split_ifs
  · exact List.cons_ne_nil _ _
  · exact h

theorem FileScope.localExpression_eq (s : FileScope) (path : List String) :
    s.localExpression path = Text.joinWith "." (s.config.place path) := by
  unfold localExpression Config.place
  split_ifs <;> rfl

/-- The expression of an exported type walks through the package and then through the path. -/
theorem FileScope.namespaceSegments_exportedExpression (s : FileScope) {f : FileDescriptor}
    {r : TypeRecord} (hpackage : r.package = f.package) (hne : r.path ≠ [])
    (hpath : ∀ name ∈ r.path, '.' ∉ name.toList) :
    namespaceSegments (s.exportedExpression r) =
      f.packageSegments s.config ++ s.config.place r.path := by
  have hlocal : namespaceSegments (s.localExpression r.path) = s.config.place r.path := by
    rw [localExpression_eq]
    exact namespaceSegments_joinWith (s.config.point_notMem_place hpath) (s.config.place_ne_nil hne)
  unfold exportedExpression FileDescriptor.packageSegments
  rw [hpackage]
  by_cases hnone : s.config.noNamespace = true ∨ f.package = ""
  · rw [if_pos hnone, if_pos hnone.symm, hlocal, List.nil_append]
  · rw [if_neg hnone, if_neg fun h => hnone h.symm, namespaceSegments_append, hlocal]

/-! ### Expressions of a run -/

/-- What makes the references between files unambiguous: names are distinct and have no points
inside, map entries stand inside messages and hold no types, methods take and return messages, and
no module lies outside the output directory. -/
structure FilesWellFormed (files : List FileDescriptor) : Prop where
  names : (files.map (·.name)).Nodup
  types : (files.flatMap (·.typeNames)).Nodup
  segments : ∀ f ∈ files, ∀ t ∈ f.types, ∀ s ∈ t.path, '.' ∉ s.toList
  entries : ∀ f ∈ files, f.EntriesAreLeaves
  methods : ∀ f ∈ files, ∀ d ∈ f.services, ∀ m ∈ d.methods, ∀ name ∈ [m.inputType, m.outputType],
    ∀ g ∈ files, ∀ t ∈ g.types, g.qualifiedName t = .ofReference name →
      Run.IsOrdinaryMessage t.descriptor
  modules : ∀ f ∈ files, ".." ∉ (ModulePath.ofFile f.name).segments
  /-- No file imports more files than 32 bits can count. -/
  imports : ∀ f ∈ files, (f.importNames (.ofFiles files)).length ≤ UInt32.size

namespace Run

variable {run : Run}

/-- Every module has the tree of its file. -/
def IsGenerated (run : Run) (version : CompilerVersion) : Prop :=
  ∀ m ∈ run.modules,
    SourceFile.ofDescriptor run.config (.ofFiles run.files) version m.file = .ok m.tree

theorem IsEnumeration.isMapEntry_eq_false {d : TypeDescriptor} (h : IsEnumeration d) :
    d.isMapEntry = false := by
  cases d with
  | enumeration e => rfl
  | message m => exact h.elim

theorem IsOrdinaryMessage.isMapEntry_eq_false {d : TypeDescriptor} (h : IsOrdinaryMessage d) :
    d.isMapEntry = false := by
  cases d with
  | enumeration e => exact h.elim
  | message m => exact h

theorem isEnumeration_of_kind {d : TypeDescriptor} {q : TypeName} {zero : Option String}
    (h : d.kind q = .ok (.enumeration zero)) : IsEnumeration d := by
  cases d with
  | enumeration e => trivial
  | message m =>
    cases hm : m.mapEntry with
    | false => cases (TypeDescriptor.kind_message hm).1 h
    | true =>
      obtain ⟨key, value, -, -, -, -, hkind⟩ := (TypeDescriptor.kind_mapEntry hm).1 h
      cases hkind

theorem isOrdinaryMessage_of_kind {d : TypeDescriptor} {q : TypeName}
    (h : d.kind q = .ok .message) : IsOrdinaryMessage d := by
  cases d with
  | enumeration e => cases TypeDescriptor.kind_enumeration.1 h
  | message m =>
    cases hm : m.mapEntry with
    | false => exact hm
    | true =>
      obtain ⟨key, value, -, -, -, -, hkind⟩ := (TypeDescriptor.kind_mapEntry hm).1 h
      cases hkind

theorem mem_files {m : GeneratedModule} (h : m ∈ run.modules) : m.file ∈ run.files :=
  List.mem_map_of_mem h

theorem eq_of_name_eq (hwell : FilesWellFormed run.files) {a b : GeneratedModule}
    (ha : a ∈ run.modules) (hb : b ∈ run.modules) (h : a.file.name = b.file.name) : a = b := by
  have hnames := hwell.names
  rw [files, List.map_map] at hnames
  exact List.inj_on_of_nodup_map hnames ha hb h

section Generated

variable (hwell : FilesWellFormed run.files) {version : CompilerVersion}
  (hrun : run.IsGenerated version)

include hwell hrun

/-- The expression for a type of another module starts with the identifier of its import. -/
theorem leads_of_identifierFor? {here there : GeneratedModule} (hhere : here ∈ run.modules)
    (hthere : there ∈ run.modules) (hother : there.file.name ≠ here.file.name)
    {identifier : String}
    (hidentifier : (run.scope here).aliases.identifierFor? there.file.name = some identifier)
    {below : List String} {rest : String}
    (hrest : namespaceSegments rest = there.file.packageSegments run.config ++ below) :
    Leads run.config here there below (identifier ++ "." ++ rest) := by
  have hname : ∀ m ∈ run.modules, m.tree.name = (ModulePath.ofFile m.file.name).fileName ".ts" := by
    intro m hm
    obtain ⟨types, services, -, -, htree⟩ := SourceFile.ofDescriptor_eq_ok_iff.1 (hrun m hm)
    rw [htree]
  obtain ⟨i, hi, rfl, hspecifier⟩ : ∃ i ∈ here.tree.imports, i.identifier = identifier ∧
      i.module = (ModulePath.ofFile there.file.name).specifier (.ofFile here.file.name) := by
    obtain ⟨types, services, -, -, htree⟩ := SourceFile.ofDescriptor_eq_ok_iff.1 (hrun here hhere)
    obtain ⟨i, hi, himport⟩ := FileDescriptor.exists_import_of_identifierFor? hidentifier
    rw [htree, List.append_assoc]
    exact ⟨i, List.mem_append_left _ hi, himport⟩
  -- no other import has the identifier
  have hone := filter_eq_singleton_of_mem
    (SourceFile.nodup_identifiers_imports (hwell.imports _ (mem_files hhere)) (hrun here hhere)) hi
  refine .imported hother hone ?_ hrest
  rw [hspecifier, hname here hhere, hname there hthere]
  exact ModulePath.joined_specifier (hwell.modules _ (mem_files hhere))

/-- The expression for a type leads to where the type is declared. -/
theorem leads_of_typeExpression {here there : GeneratedModule} (hhere : here ∈ run.modules)
    (hthere : there ∈ run.modules) {t : DeclaredType} (ht : t ∈ there.file.types) {r : TypeRecord}
    (hr : there.file.record t = .ok r) {text : String}
    (h : (run.scope here).typeExpression r = .ok text) :
    Leads run.config here there (run.config.place t.path) text := by
  obtain ⟨-, hfile, hpackage, hpath, -⟩ := FileDescriptor.record_eq_ok_iff.1 hr
  have hpoint := hwell.segments _ (mem_files hthere) t ht
  rw [FileScope.typeExpression_eq_ok_iff, hfile, hpath] at h
  rcases h with ⟨hsame, rfl⟩ | ⟨hother, identifier, hidentifier, rfl⟩
  · rw [FileScope.localExpression_eq]
    exact .within (eq_of_name_eq hwell hthere hhere hsame)
  · refine leads_of_identifierFor? hwell hrun hhere hthere hother hidentifier ?_
    exact FileScope.namespaceSegments_exportedExpression _ hpackage
      (hpath ▸ t.path_ne_nil) (hpath ▸ hpoint) |>.trans (by rw [hpath]; rfl)

omit hrun in
theorem exists_declared {here : GeneratedModule} {typeName : String} {r : TypeRecord}
    (h : (run.scope here).resolve typeName = .ok r) :
    ∃ there ∈ run.modules, ∃ t ∈ there.file.types,
      there.file.record t = .ok r ∧ there.file.qualifiedName t = .ofReference typeName := by
  rw [FileScope.resolve_eq_ok_iff] at h
  obtain ⟨f, hf, t, ht, hr, hname⟩ := (TypeTable.find?_ofFiles_eq_some_iff hwell.types).1 h
  obtain ⟨there, hthere, rfl⟩ := List.mem_map.1 hf
  exact ⟨there, hthere, t, ht, hr, (FileDescriptor.record_eq_ok_iff.1 hr).1 ▸ hname⟩

/-- A type that stands for no map entries has a declaration. -/
theorem exists_lowers {m : GeneratedModule} (hm : m ∈ run.modules) {t : DeclaredType}
    (ht : t ∈ m.file.types) (hentry : t.descriptor.isMapEntry = false) :
    ∃ d ∈ m.tree.types, (run.scope m).Lowers (m.file.packageSegments run.config) t d := by
  exact SourceFile.exists_lowers (hrun m hm) (hwell.entries _ (mem_files hm)) ht hentry

theorem refers_of_typeExpression {here there : GeneratedModule} (hhere : here ∈ run.modules)
    (hthere : there ∈ run.modules) {t : DeclaredType} (ht : t ∈ there.file.types) {r : TypeRecord}
    (hr : there.file.record t = .ok r) {typeName : String}
    (hname : there.file.qualifiedName t = .ofReference typeName)
    (hentry : t.descriptor.isMapEntry = false) {sort : TypeDescriptor → Prop}
    (hsort : sort t.descriptor) {text : String}
    (h : (run.scope here).typeExpression r = .ok text) : run.Refers here sort typeName text := by
  obtain ⟨d, hd, hlowers⟩ := exists_lowers hwell hrun hthere ht hentry
  exact ⟨there, hthere, t, ht, hname, hsort, d, hd, hlowers, run.config.place t.path, hlowers.1,
    leads_of_typeExpression hwell hrun hhere hthere ht hr h⟩

/-- The type that is found for a field is that of the descriptor. -/
theorem denotes_of_hasType {here : GeneratedModule} (hhere : here ∈ run.modules)
    {f : FieldDescriptor} {type : FieldType} (h : (run.scope here).HasType f type) :
    run.Denotes here f type := by
  induction h with
  | scalar h => exact .scalar h
  | enumeration h hr hkind htext =>
    obtain ⟨there, hthere, t, ht, hrecord, hname⟩ := exists_declared hwell hr
    have hdescriptor := (FileDescriptor.record_eq_ok_iff.1 hrecord).2.2.2.2
    rw [hkind] at hdescriptor
    have hsort := isEnumeration_of_kind hdescriptor
    exact .enumeration h (refers_of_typeExpression hwell hrun hhere hthere ht hrecord hname
      hsort.isMapEntry_eq_false hsort htext)
  | message h hr hkind htext =>
    obtain ⟨there, hthere, t, ht, hrecord, hname⟩ := exists_declared hwell hr
    have hdescriptor := (FileDescriptor.record_eq_ok_iff.1 hrecord).2.2.2.2
    rw [hkind] at hdescriptor
    have hsort := isOrdinaryMessage_of_kind hdescriptor
    exact .message h (refers_of_typeExpression hwell hrun hhere hthere ht hrecord hname
      hsort.isMapEntry_eq_false hsort htext)
  | map h hr hkind hkey _ _ ih =>
    obtain ⟨there, hthere, t, ht, hrecord, hname⟩ := exists_declared hwell hr
    have hdescriptor := (FileDescriptor.record_eq_ok_iff.1 hrecord).2.2.2.2
    rw [hkind] at hdescriptor
    -- the name is that of the entry, and the value's reference is read in the same module
    obtain ⟨m, hm⟩ := TypeDescriptor.exists_of_kind_mapEntry hdescriptor
    exact .map h hthere ht hname hm hkey ih

theorem refers_of_method {here : GeneratedModule} (hhere : here ∈ run.modules)
    {d : ServiceDescriptor} (hd : d ∈ here.file.services) {m : MethodDescriptor}
    (hm : m ∈ d.methods) {typeName : String} (hname : typeName ∈ [m.inputType, m.outputType])
    {r : TypeRecord} (hr : (run.scope here).resolve typeName = .ok r) {text : String}
    (h : (run.scope here).typeExpression r = .ok text) :
    run.Refers here IsOrdinaryMessage typeName text := by
  obtain ⟨there, hthere, t, ht, hrecord, hqualified⟩ := exists_declared hwell hr
  have hsort := hwell.methods _ (mem_files hhere) d hd m hm typeName hname _ (mem_files hthere) t ht
    hqualified
  exact refers_of_typeExpression hwell hrun hhere hthere ht hrecord hqualified
    hsort.isMapEntry_eq_false hsort h

/-- The class of a message has the fields of the descriptor. -/
theorem denotes_fields {here : GeneratedModule} (hhere : here ∈ run.modules) {t : DeclaredType}
    (ht : t ∈ here.file.types) {m : MessageDescriptor} (hdescriptor : t.descriptor = .message m)
    (hm : m.mapEntry = false) :
    ∃ d nested, (here.file.packageSegments run.config ++ run.config.place t.path,
        Declaration.message d nested) ∈ here.tree.types ∧
      List.Forall₂ (fun f field => field.name = f.name ∧ field.number = f.number ∧
        run.Denotes here f field.type) m.fields d.fields := by
  obtain ⟨fields, nested, hclass, hfields⟩ := SourceFile.exists_class (hrun here hhere)
    (hwell.entries _ (mem_files hhere)) ht hdescriptor hm
  refine ⟨_, nested, hclass, ?_⟩
  refine (mapM_eq_ok_iff.1 hfields).imp fun f field hfield => ?_
  obtain ⟨type, value, htype, -, rfl⟩ := FileScope.fieldDeclaration_eq_ok_iff.1 hfield
  exact ⟨rfl, rfl,
    denotes_of_hasType hwell hrun hhere (FileScope.fieldType_eq_ok_iff.1 htype)⟩

/-- A service that is generated has the methods of the descriptor. -/
theorem refers_methods {here : GeneratedModule} (hhere : here ∈ run.modules)
    {d : ServiceDescriptor} (hd : d ∈ here.file.services) {s : Service}
    (h : (run.scope here).service d = .ok s) : s.name = d.name ∧
      List.Forall₂ (fun m method => method.name = m.name ∧
        run.Refers here IsOrdinaryMessage m.inputType method.inputType ∧
        run.Refers here IsOrdinaryMessage m.outputType method.outputType) d.methods s.methods := by
  obtain ⟨methods, hmethods, rfl⟩ := FileScope.service_eq_ok_iff.1 h
  have hall := (List.forall₂_and_left _ _).2 ⟨fun m hm => hm, hmethods⟩
  refine ⟨rfl, hall.imp fun m method hmethod => ?_⟩
  obtain ⟨input, inputType, output, outputType, hin, hinType, hout, houtType, rfl⟩ :=
    FileScope.method_eq_ok_iff.1 hmethod.2
  refine ⟨rfl, ?_, ?_⟩
  · exact refers_of_method hwell hrun hhere hd hmethod.1 (by simp) hin hinType
  · exact refers_of_method hwell hrun hhere hd hmethod.1 (by simp) hout houtType

/-- Every reference in a module of a run leads to its type. -/
theorem referencesDenote {here : GeneratedModule} (hhere : here ∈ run.modules) :
    run.ReferencesDenote here := by
  refine ⟨fun t ht m => denotes_fields hwell hrun hhere ht, ?_, fun hnested => ?_⟩
  · obtain ⟨services, hok, hservices⟩ := SourceFile.ofDescriptor_services (hrun here hhere)
    have hmem : ∀ d ∈ here.file.rpcServices run.config, d ∈ here.file.services := by
      intro d hd
      unfold FileDescriptor.rpcServices at hd
      split_ifs at hd
      · exact absurd hd List.not_mem_nil
      · exact hd
    have hall := (List.forall₂_and_left _ _).2 ⟨hmem, hok⟩
    exact ⟨services, hservices, hall.imp fun d s hs => refers_methods hwell hrun hhere hs.1 hs.2⟩
  · have hown : here.file.typeNames.Nodup :=
      (List.nodup_flatMap.1 hwell.types).1 _ (mem_files hhere)
    exact SourceFile.ofDescriptor_nodup (hrun here hhere) hnested hown
      (hwell.entries _ (mem_files hhere))

end Generated

theorem exists_modules {R : FileDescriptor → SourceFile → Prop} {files : List FileDescriptor}
    {trees : List SourceFile} (h : List.Forall₂ R files trees) :
    ∃ modules : List GeneratedModule, modules.map (·.file) = files ∧
      modules.map (·.tree) = trees ∧ ∀ m ∈ modules, R m.file m.tree := by
  induction h with
  | nil => exact ⟨[], rfl, rfl, by simp⟩
  | @cons f tree _ _ htree _ ih =>
    obtain ⟨modules, rfl, rfl, hmodules⟩ := ih
    exact ⟨⟨f, tree⟩ :: modules, rfl, rfl, List.forall_mem_cons.2 ⟨htree, hmodules⟩⟩

/-- A successful run, as the list of its modules. -/
theorem exists_of_sources {c : Config} {r : Request} {trees : List SourceFile}
    (h : c.trees r = .ok trees) : ∃ run : Run, run.config = c ∧ run.files = r.files ∧
      run.modules.map (·.tree) = trees ∧ run.IsGenerated r.compilerVersion := by
  obtain ⟨-, -, hall⟩ := Config.trees_eq_ok_iff.1 h
  obtain ⟨modules, hfiles, htrees, hmodules⟩ := exists_modules hall
  refine ⟨⟨c, modules⟩, rfl, hfiles, htrees, ?_⟩
  intro m hm
  rw [Run.files, hfiles]
  exact hmodules m hm

end Run

/-- **References denote their types**: in the trees of a successful run every type of a field and
every type of a method leads to the declaration of the type that the descriptor refers to. -/
theorem references_denote {c : Config} {r : Request} (hwell : FilesWellFormed r.files)
    {out : List GeneratedFile} (h : c.run r = .ok out) :
    ∃ run : Run, run.config = c ∧ run.files = r.files ∧
      c.trees r = .ok (run.modules.map (·.tree)) ∧
      out = run.modules.map (fun m => .ofSource m.tree) ∧
      ∀ here ∈ run.modules, run.ReferencesDenote here := by
  obtain ⟨trees, htrees, rfl⟩ := Config.run_eq_ok_iff.1 h
  obtain ⟨run, hconfig, hfiles, rfl, hrun⟩ := Run.exists_of_sources htrees
  refine ⟨run, hconfig, hfiles, htrees, List.map_map, fun here hhere => ?_⟩
  rw [← hfiles] at hwell
  exact Run.referencesDenote hwell hrun hhere

/-- A file with a message that holds an enum. -/
def seedFile : FileDescriptor where
  name := "seed.proto"
  package := "plant.seed"
  messages := [{ name := "Seed", enums := [{ name := "Colour", values := [⟨"BROWN", 0⟩] }] }]

/-- A file with a map and a service, which refer to the other file. -/
def gardenFile : FileDescriptor where
  name := "garden/bed.proto"
  package := "garden"
  dependencies := ["seed.proto"]
  messages := [{
    name := "Bed"
    fields := [
      { name? := "rows", type? := some 11, typeName? := ".garden.Bed.RowsEntry" },
      { name? := "colour", type? := some 14, typeName? := ".plant.seed.Seed.Colour" }]
    nested := [{
      name := "RowsEntry"
      fields := [{ name? := "key", type? := some 5 },
        { name? := "value", type? := some 11, typeName? := ".plant.seed.Seed" }]
      mapEntry := true }] }]
  services := [{
    name := "Gardener"
    methods := [{ name := "Sow", inputType := ".plant.seed.Seed", outputType := ".garden.Bed" }] }]

/-- A request for both files. -/
def gardenRequest : Request where
  files := [gardenFile, seedFile]

theorem references_denote_garden : FilesWellFormed gardenRequest.files ∧
    ∃ out, Config.default.run gardenRequest = .ok out ∧
      ∃ run : Run, run.config = .default ∧ run.files = gardenRequest.files ∧
        Config.default.trees gardenRequest = .ok (run.modules.map (·.tree)) ∧
        out = run.modules.map (fun m => .ofSource m.tree) ∧
        ∀ here ∈ run.modules, run.ReferencesDenote here := by
  have hwell : FilesWellFormed gardenRequest.files := by
    refine ⟨by decide, by decide, by decide, ?_, by decide, by decide, by decide +kernel⟩
    intro f hf
    rcases List.mem_pair.1 hf with rfl | rfl
    · refine ⟨by decide, ?_⟩
      simp [gardenFile, FileDescriptor.types, MessageDescriptor.types, MessageDescriptor.listTypes]
    · refine ⟨by decide, ?_⟩
      simp [seedFile, FileDescriptor.types, MessageDescriptor.types, MessageDescriptor.listTypes]
  have hok : (Config.default.run gardenRequest).isOk := by decide +kernel
  obtain ⟨out, hout⟩ := isOk_iff.1 hok
  exact ⟨hwell, out, hout, references_denote hwell hout⟩

end ProtoTypeScript
