import ProtoTypeScript.Proofs.ConfigScopes
import ProtoTypeScript.Proofs.Imports
import ProtoTypeScript.Proofs.Runs

/-!
# Orthogonal options

Each option changes what it is there for and nothing else.

* `SourceFile.withoutRpc` takes the servers, the clients and their imports out of a tree. A run that
  succeeds does so without RPC as well, and this is what becomes of its trees; so the options of RPC
  and the version of TypeScript change nothing else;
* `MessageClass.withoutKeys` takes the keys of plain objects out of a class. JSON names change
  nothing else in a tree, and in the printed class nothing but the conversions from and to plain
  objects;
* explicit overrides change nothing but the flag of every class.
-/

namespace ProtoTypeScript

open Outcome

/-! ### Trees without RPC -/

mutual

/-- The declaration without servers and clients, if anything is left of it. -/
def Declaration.withoutRpc : Declaration → List Declaration
  | .enumeration e => [.enumeration e]
  | .message m nested => [.message m (Declaration.listWithoutRpc nested)]
  | .namespaceBlock name body => [.namespaceBlock name (Declaration.listWithoutRpc body)]
  | .rpcInterfaces _ _ => []
  | .server _ => []
  | .client _ => []

/-- The declarations without servers and clients. -/
def Declaration.listWithoutRpc : List Declaration → List Declaration
  | [] => []
  | d :: ds => d.withoutRpc ++ Declaration.listWithoutRpc ds

end

/-- The identifiers that the RPC packages are imported as. -/
def rpcIdentifiers : List String :=
  [AliasScope.forFile.2.1.grpc, AliasScope.forFile.2.1.grpcWeb]

/-- The tree without servers and clients and the imports that only they need. -/
def SourceFile.withoutRpc (f : SourceFile) : SourceFile :=
  { f with
    imports := f.imports.filter fun i => i.identifier ∉ rpcIdentifiers
    body := Declaration.listWithoutRpc f.body }

theorem Declaration.listWithoutRpc_eq (ds : List Declaration) :
    Declaration.listWithoutRpc ds = ds.flatMap Declaration.withoutRpc := by
  induction ds with
  | nil => rfl
  | cons d ds ih => rw [Declaration.listWithoutRpc, ih, List.flatMap_cons]

theorem Declaration.listWithoutRpc_append (ds es : List Declaration) :
    Declaration.listWithoutRpc (ds ++ es) =
      Declaration.listWithoutRpc ds ++ Declaration.listWithoutRpc es := by
  rw [listWithoutRpc_eq, listWithoutRpc_eq, listWithoutRpc_eq, List.flatMap_append]

theorem Declaration.listWithoutRpc_eq_self {ds : List Declaration}
    (h : ∀ d ∈ ds, d.withoutRpc = [d]) : Declaration.listWithoutRpc ds = ds := by
  rw [listWithoutRpc_eq, List.flatMap_congr h, List.flatMap_singleton']

namespace FileScope

variable {s : FileScope}

/-- Enums, messages and what is inside them hold no servers or clients. -/
theorem IsTypeDeclaration.withoutRpc_eq {d : Declaration} (h : s.IsTypeDeclaration d) :
    d.withoutRpc = [d] := by
  induction h with
  | enumeration path e => rfl
  | message path m fields _ _ ih =>
    rw [Declaration.withoutRpc, Declaration.listWithoutRpc_eq_self ih]

theorem listWithoutRpc_typeDeclarations {ds : List Declaration} (h : s.typeDeclarations = .ok ds) :
    Declaration.listWithoutRpc ds = ds :=
  Declaration.listWithoutRpc_eq_self fun d hd =>
    (isTypeDeclaration_of_typeDeclarations h d hd).withoutRpc_eq

/-- The declarations for services are made of servers and clients. -/
theorem listWithoutRpc_rpcDeclarations {runtimes : RpcRuntimes} {ds : List Declaration}
    (h : s.rpcDeclarations runtimes = .ok ds) : Declaration.listWithoutRpc ds = [] := by
  unfold rpcDeclarations at h
  split_ifs at h
  · obtain ⟨services, -, rfl⟩ := serviceDeclarations_eq_ok_iff.1 h
    rw [Declaration.listWithoutRpc, Declaration.withoutRpc, List.nil_append,
      Declaration.listWithoutRpc_eq, List.flatMap_assoc, List.flatMap_eq_nil_iff]
    exact fun service _ => rfl
  · cases h
    rfl

theorem listWithoutRpc_inNamespace (body : List Declaration) :
    Declaration.listWithoutRpc (s.inNamespace body) =
      s.inNamespace (Declaration.listWithoutRpc body) := by
  unfold inNamespace
  split_ifs
  · rfl
  · rfl

/-- Of the imports of a file those of the RPC packages have an identifier of one. -/
theorem filter_imports {config : Config} {table : TypeTable} {file : FileDescriptor}
    (types : List Declaration) :
    ((file.importDependencies table).2 ++ (ofFile config table file).runtimeImports types ++
      (ofFile config table file).rpcImports AliasScope.forFile.2.1).filter
        (fun i => i.identifier ∉ rpcIdentifiers) =
      (file.importDependencies table).2 ++ (ofFile config table file).runtimeImports types := by
  -- dependencies and the library of messages have other identifiers, RPC libraries these
  have hdependencies : ∀ i ∈ (file.importDependencies table).2,
      i.identifier ∉ rpcIdentifiers := by
    intro i hi
    rw [FileDescriptor.importDependencies_imports] at hi
    obtain ⟨n, d, -, rfl⟩ := List.mem_mapIdx.1 hi
    have hsubset : rpcIdentifiers ⊆ libraryIdentifiers := by decide
    exact fun hmem => dependencyIdentifier_notMem n (hsubset hmem)
  have hruntime : ∀ i ∈ (ofFile config table file).runtimeImports types,
      i.identifier ∉ rpcIdentifiers := by
    intro i hi
    unfold runtimeImports at hi
    split_ifs at hi
    · exact absurd hi List.not_mem_nil
    · obtain rfl := List.mem_singleton.1 hi
      show AliasScope.forFile.1 ∉ rpcIdentifiers
      decide
  have hrpc : ∀ i ∈ (ofFile config table file).rpcImports AliasScope.forFile.2.1,
      i.identifier ∈ rpcIdentifiers := by
    intro i hi
    unfold rpcImports at hi
    split_ifs at hi
    · rcases List.mem_pair.1 hi with rfl | rfl
      · exact List.mem_cons_self
      · exact List.mem_cons_of_mem _ List.mem_cons_self
    · obtain rfl := List.mem_singleton.1 hi
      exact List.mem_cons_self
    · exact absurd hi List.not_mem_nil
  rw [List.filter_append, List.filter_append,
    List.filter_eq_self.2 fun i hi => decide_eq_true (hdependencies i hi),
    List.filter_eq_self.2 fun i hi => decide_eq_true (hruntime i hi),
    List.filter_eq_nil_iff.2 fun i hi => by simpa using hrpc i hi, List.append_nil]

end FileScope

/-! ### Options of RPC -/

/-- The configurations have the same options for enums and messages. -/
structure Config.SameTypes (c c' : Config) : Prop where
  noNamespace : c'.noNamespace = c.noNamespace
  jsonNames : c'.jsonNames = c.jsonNames
  explicitOverride : c'.explicitOverride = c.explicitOverride

/-- The configuration with services left out. -/
def Config.withoutRpc (c : Config) : Config :=
  { c with noGrpc := true }

namespace FileScope

variable {s : FileScope} {c : Config}

/-- Enums and messages depend on their own options only. -/
theorem typeDeclarations_of_sameTypes (h : s.config.SameTypes c) :
    (s.withConfig c).typeDeclarations = s.typeDeclarations := by
  have hclasses := typeDeclarations_agree_of_classes h.noNamespace id id fun path m => by
    rw [fieldDeclaration_of_sameKeys h.noNamespace h.jsonNames]
    refine (Agree.of_eq _).mono fun fields fields' hsame => ?_
    rw [hsame.2, messageClass_withConfig h.noNamespace, h.explicitOverride]
    rfl
  rcases hclasses.cases with ⟨e, he, he'⟩ | ⟨ds, ds', hds, hds', hsame⟩
  · rw [he, he']
  · rw [SameClasses, Declaration.listMapClasses_id, Declaration.listMapClasses_id] at hsame
    rw [hds, hds', hsame]

end FileScope

namespace SourceFile

variable {c : Config} {table : TypeTable} {version : CompilerVersion} {file : FileDescriptor}

/-- A file that has a tree has one without RPC, which is the former without what RPC adds to it. -/
theorem ofDescriptor_withoutRpc {tree : SourceFile}
    (h : ofDescriptor c table version file = .ok tree) :
    ofDescriptor c.withoutRpc table version file = .ok tree.withoutRpc := by
  obtain ⟨types, services, htypes, hservices, rfl⟩ := ofDescriptor_eq_ok_iff.1 h
  refine ofDescriptor_eq_ok_iff.2 ⟨types, [], ?_, rfl, ?_⟩
  · rw [← htypes]
    exact FileScope.typeDeclarations_of_sameTypes (s := .ofFile c table file) ⟨rfl, rfl, rfl⟩
  · have hbody : Declaration.listWithoutRpc
        ((FileScope.ofFile c table file).inNamespace (types ++ services)) =
        (FileScope.ofFile c.withoutRpc table file).inNamespace (types ++ []) := by
      rw [FileScope.listWithoutRpc_inNamespace, Declaration.listWithoutRpc_append,
        FileScope.listWithoutRpc_typeDeclarations htypes,
        FileScope.listWithoutRpc_rpcDeclarations hservices]
      rfl
    rw [withoutRpc]
    simp only [FileScope.filter_imports, hbody]
    rw [← List.append_nil (_ ++ FileScope.runtimeImports _ _)]
    rfl

/-- Without RPC a tree depends on the options for enums and messages only. -/
theorem ofDescriptor_of_sameTypes {c' : Config} (h : c.SameTypes c') :
    ofDescriptor c'.withoutRpc table version file =
      ofDescriptor c.withoutRpc table version file := by
  have hnamespace : (FileScope.ofFile c'.withoutRpc table file).inNamespace =
      (FileScope.ofFile c.withoutRpc table file).inNamespace := by
    funext body
    unfold FileScope.inNamespace
    show (if file.package = "" ∨ c'.noNamespace = true then _ else _) =
      (if file.package = "" ∨ c.noNamespace = true then _ else _)
    rw [h.noNamespace]
    rfl
  have htypes : (FileScope.ofFile c'.withoutRpc table file).typeDeclarations =
      (FileScope.ofFile c.withoutRpc table file).typeDeclarations :=
    FileScope.typeDeclarations_of_sameTypes (s := .ofFile c.withoutRpc table file)
      (c := c'.withoutRpc) ⟨h.noNamespace, h.jsonNames, h.explicitOverride⟩
  rw [ofDescriptor_eq_bind, ofDescriptor_eq_bind, htypes, hnamespace]
  rfl

/-- The trees of files without RPC. -/
theorem mapM_withoutRpc {files : List FileDescriptor} {trees : List SourceFile}
    (h : List.Forall₂ (fun file tree => ofDescriptor c table version file = .ok tree)
      files trees) :
    files.mapM (ofDescriptor c.withoutRpc table version) = .ok (trees.map withoutRpc) := by
  rw [mapM_eq_ok_iff, List.forall₂_map_right_iff]
  exact h.imp fun file tree htree => ofDescriptor_withoutRpc htree

end SourceFile

/-! ### Options of classes -/

/-- The options that only classes look at, set to other values. -/
def Config.withClassOptions (c : Config) (jsonNames explicitOverride : Bool) : Config :=
  { c with jsonNames := jsonNames, explicitOverride := explicitOverride }

/-- The class without the keys of its fields in plain objects. -/
def MessageClass.withoutKeys (m : MessageClass) : MessageClass :=
  { m with fields := m.fields.map fun f => { f with objectKey := "" } }

/-- The class with its methods marked as overrides, or not. -/
def MessageClass.withOverride (explicitOverride : Bool) (m : MessageClass) : MessageClass :=
  { m with explicitOverride := explicitOverride }

namespace FileScope

variable {s : FileScope} {g g' : MessageClass → MessageClass}

/-- Servers and clients do not look at the options of classes. -/
theorem rpcDeclarations_withClassOptions (s : FileScope) (jsonNames explicitOverride : Bool)
    (runtimes : RpcRuntimes) :
    (s.withConfig (s.config.withClassOptions jsonNames explicitOverride)).rpcDeclarations runtimes =
      s.rpcDeclarations runtimes := by
  unfold rpcDeclarations serviceDeclarations
  rw [funext fun d => service_withConfig (s := s)
    (c := s.config.withClassOptions jsonNames explicitOverride) rfl d]
  rfl

theorem sameClasses_rpcDeclarations {runtimes : RpcRuntimes} {ds : List Declaration}
    (h : s.rpcDeclarations runtimes = .ok ds) : SameClasses g g' ds ds := by
  have hsame : ∀ g, Declaration.listMapClasses g ds = ds := by
    intro g
    unfold rpcDeclarations at h
    split_ifs at h
    · obtain ⟨services, -, rfl⟩ := serviceDeclarations_eq_ok_iff.1 h
      rw [Declaration.listMapClasses, Declaration.listMapClasses_eq, List.map_flatMap]
      rfl
    · cases h
      rfl
  rw [SameClasses, hsame, hsame]

theorem listMapClasses_inNamespace (body : List Declaration) :
    Declaration.listMapClasses g (s.inNamespace body) =
      s.inNamespace (Declaration.listMapClasses g body) := by
  unfold inNamespace
  split_ifs
  · rfl
  · rfl

/-- Under the same names, classes differ in the keys of their fields and in the flag. -/
theorem messageClass_agree_withoutKeys {c : Config} (hnames : c.noNamespace = s.config.noNamespace)
    (hoverride : c.explicitOverride = s.config.explicitOverride) (path : List String)
    (m : MessageDescriptor) : Agree (fun fields fields' =>
        ((s.withConfig c).messageClass path m fields').withoutKeys =
          (s.messageClass path m fields).withoutKeys)
      (m.fields.mapM s.fieldDeclaration) (m.fields.mapM (s.withConfig c).fieldDeclaration) := by
  have hfields : ∀ f ∈ m.fields, Agree (fun d d' : FieldDeclaration =>
      { d' with objectKey := "" } = { d with objectKey := "" } ∧ d'.number = d.number)
      (s.fieldDeclaration f) ((s.withConfig c).fieldDeclaration f) := by
    intro f _
    rw [fieldDeclaration_withConfig hnames]
    cases s.fieldDeclaration f with
    | error e => exact .error e
    | ok d => exact .ok ⟨rfl, rfl⟩
  refine (Agree.mapM hfields).mono fun ds ds' hds => ?_
  have hkeys : (ds'.map fun d => { d with objectKey := "" }) =
      ds.map fun d => { d with objectKey := "" } :=
    map_eq_map_of_forall₂ hds fun d d' hd => hd.1
  have harms : ds'.map (·.number) = ds.map (·.number) :=
    map_eq_map_of_forall₂ hds fun d d' hd => hd.2
  rw [messageClass_withConfig hnames, hoverride]
  simp only [MessageClass.withoutKeys, messageClass, hkeys, harms]

/-- Under the same names and keys, classes differ in the flag. -/
theorem messageClass_agree_withOverride {c : Config}
    (hnames : c.noNamespace = s.config.noNamespace) (hkeys : c.jsonNames = s.config.jsonNames)
    (path : List String) (m : MessageDescriptor) : Agree (fun fields fields' =>
        id ((s.withConfig c).messageClass path m fields') =
          (s.messageClass path m fields).withOverride c.explicitOverride)
      (m.fields.mapM s.fieldDeclaration) (m.fields.mapM (s.withConfig c).fieldDeclaration) := by
  rw [fieldDeclaration_of_sameKeys hnames hkeys]
  refine (Agree.of_eq _).mono fun fields fields' hsame => ?_
  rw [hsame.2, messageClass_withConfig hnames]
  rfl

end FileScope

section ClassOptions

variable {c : Config} (jsonNames explicitOverride : Bool) (g g' : MessageClass → MessageClass)
  (hclass : ∀ (table : TypeTable) (file : FileDescriptor) (path : List String)
    (m : MessageDescriptor), Agree
      (fun fields fields' =>
        g' ((FileScope.ofFile (c.withClassOptions jsonNames explicitOverride) table
          file).messageClass path m fields') =
        g ((FileScope.ofFile c table file).messageClass path m fields))
      (m.fields.mapM (FileScope.ofFile c table file).fieldDeclaration)
      (m.fields.mapM (FileScope.ofFile (c.withClassOptions jsonNames explicitOverride) table
        file).fieldDeclaration))

include hclass

theorem SourceFile.ofDescriptor_agree_of_classes (table : TypeTable) (version : CompilerVersion)
    (file : FileDescriptor) :
    Agree (fun tree tree' => tree'.mapClasses g' = tree.mapClasses g)
      (SourceFile.ofDescriptor c table version file)
      (SourceFile.ofDescriptor (c.withClassOptions jsonNames explicitOverride) table version
        file) := by
  have htypes := FileScope.typeDeclarations_agree_of_classes (s := .ofFile c table file)
    (c := c.withClassOptions jsonNames explicitOverride) rfl g g' (hclass table file)
  rw [ofDescriptor_eq_bind, ofDescriptor_eq_bind]
  refine htypes.bind fun types types' htypes => ?_
  have hrpc : (FileScope.ofFile (c.withClassOptions jsonNames explicitOverride) table
      file).rpcDeclarations AliasScope.forFile.2.1 =
      (FileScope.ofFile c table file).rpcDeclarations AliasScope.forFile.2.1 :=
    (FileScope.ofFile c table file).rpcDeclarations_withClassOptions jsonNames explicitOverride _
  rw [hrpc]
  refine (Agree.of_eq _).report.bind ?_
  rintro services _ ⟨hservices, rfl⟩
  have hbody := htypes.append (FileScope.sameClasses_rpcDeclarations hservices)
  -- the library of messages is imported for the same files
  have hempty : types' = [] ↔ types = [] := by
    rw [← Declaration.listMapClasses_eq_nil_iff (g := g'), htypes,
      Declaration.listMapClasses_eq_nil_iff]
  refine .ok ?_
  unfold SourceFile.mapClasses
  dsimp only
  rw [FileScope.listMapClasses_inNamespace, FileScope.listMapClasses_inNamespace, hbody]
  unfold FileScope.runtimeImports
  rw [if_congr hempty rfl rfl]
  rfl

theorem Config.trees_agree_of_classes (r : Request) :
    Agree (List.Forall₂ fun tree tree' => tree'.mapClasses g' = tree.mapClasses g)
      (c.trees r) ((c.withClassOptions jsonNames explicitOverride).trees r) := by
  rw [trees_eq_bind, trees_eq_bind]
  refine (Agree.of_eq c.checkVersion).report.bind fun _ _ _ => ?_
  refine (Agree.of_eq (TypeTable.empty.registerAll r.files)).report.bind ?_
  rintro _ table ⟨-, rfl⟩
  exact Agree.mapM fun file _ =>
    SourceFile.ofDescriptor_agree_of_classes jsonNames explicitOverride g g' hclass table
      r.compilerVersion file

end ClassOptions

/-! ### Printed classes -/

mutual

/-- The classes of a declaration, each before what is nested in it. -/
def Declaration.classes : Declaration → List MessageClass
  | .enumeration _ => []
  | .message m nested => m :: Declaration.listClasses nested
  | .namespaceBlock _ body => Declaration.listClasses body
  | .rpcInterfaces _ _ => []
  | .server _ => []
  | .client _ => []

/-- The classes of declarations. -/
def Declaration.listClasses : List Declaration → List MessageClass
  | [] => []
  | d :: ds => d.classes ++ Declaration.listClasses ds

end

/-- The classes of a tree. -/
def SourceFile.classes (f : SourceFile) : List MessageClass :=
  Declaration.listClasses f.body

mutual

theorem Declaration.classes_mapClasses (g : MessageClass → MessageClass) :
    ∀ d : Declaration, (d.mapClasses g).classes = d.classes.map g
  | .enumeration _ => rfl
  | .message m nested => by
    rw [Declaration.mapClasses, Declaration.classes, Declaration.classes, List.map_cons,
      Declaration.listClasses_listMapClasses g nested]
  | .namespaceBlock name body => by
    rw [Declaration.mapClasses, Declaration.classes, Declaration.classes,
      Declaration.listClasses_listMapClasses g body]
  | .rpcInterfaces _ _ => rfl
  | .server _ => rfl
  | .client _ => rfl

theorem Declaration.listClasses_listMapClasses (g : MessageClass → MessageClass) :
    ∀ ds : List Declaration, Declaration.listClasses (Declaration.listMapClasses g ds) =
      (Declaration.listClasses ds).map g
  | [] => rfl
  | d :: ds => by
    rw [Declaration.listMapClasses, Declaration.listClasses, Declaration.listClasses,
      List.map_append, Declaration.classes_mapClasses g d,
      Declaration.listClasses_listMapClasses g ds]

end

namespace Script

/-- The members of a class before the conversions from and to plain objects. -/
def membersBefore (m : MessageClass) : List Member :=
  [.slots (m.oneofs.map (·.members)), constructor m] ++ m.fields.flatMap (fieldAccessors m) ++
    m.oneofs.map (oneofCase m)

/-- The conversions from and to plain objects. -/
def conversions (m : MessageClass) : List Member :=
  [fromObject m, toObject m]

/-- The members of a class after the conversions from and to plain objects. -/
def membersAfter (m : MessageClass) : List Member :=
  serializeOverloads m ++ [serialize m, deserialize m] ++ binaryMethods m

/-- The text of a class that stands at some depth. -/
def classText (depth : ℕ) (m : MessageClass) : String :=
  render (indentBy depth (messageClass m))

/-- The text of members that stand at some depth. -/
def membersText (depth : ℕ) (members : List Member) : String :=
  render (indentBy depth (members.flatMap Member.lines))

/-- The text of the line that a class begins with, and of its comment. -/
def headText (depth : ℕ) (m : MessageClass) : String :=
  render (indentBy depth (deprecation m.deprecated ++
    [line ("export class " ++ m.name ++ " extends " ++ m.runtime ++ ".Message \x7b")]))

theorem members_eq (m : MessageClass) :
    members m = membersBefore m ++ conversions m ++ membersAfter m := by
  simp only [members, membersBefore, conversions, membersAfter, List.append_assoc]

theorem classText_eq (depth : ℕ) (m : MessageClass) : classText depth m =
    (headText depth m ++ membersText (depth + 1) (membersBefore m)) ++
      membersText (depth + 1) (conversions m) ++
      (membersText (depth + 1) (membersAfter m) ++ render (indentBy depth [line "\x7d"])) := by
  have hlines : messageClass m = (deprecation m.deprecated ++
      [line ("export class " ++ m.name ++ " extends " ++ m.runtime ++ ".Message \x7b")]) ++
      indent ((membersBefore m).flatMap Member.lines ++ (conversions m).flatMap Member.lines ++
        (membersAfter m).flatMap Member.lines) ++ [line "\x7d"] := by
    rw [messageClass, block, members_eq, List.flatMap_append, List.flatMap_append,
      List.append_assoc (deprecation _), List.append_assoc (deprecation _)]
    rfl
  have hinside : ∀ lines, indentBy depth (indent lines) = indentBy (depth + 1) lines := by
    intro lines
    rw [indent, indentBy_add, Nat.add_comm]
  unfold classText headText membersText
  rw [hlines, indentBy_append, indentBy_append _ _ (indent _), hinside]
  simp only [indentBy_append, render_append, String.append_assoc]

/-! The keys of plain objects are read by the conversions only. -/

section WithoutKeys

variable (m : MessageClass)

theorem field?_withoutKeys (number : Int32) : m.withoutKeys.field? number =
    (m.field? number).map fun f => { f with objectKey := "" } := by
  unfold MessageClass.field? MessageClass.withoutKeys
  rw [List.find?_map]
  rfl

theorem memberFields_withoutKeys (oneof : OneofDeclaration) :
    m.withoutKeys.memberFields oneof = m.memberFields oneof := by
  unfold MessageClass.memberFields
  simp only [field?_withoutKeys, Option.map_map]
  rfl

theorem armFields_withoutKeys :
    m.withoutKeys.armFields = m.armFields.map fun f => { f with objectKey := "" } := by
  unfold MessageClass.armFields
  rw [List.map_filterMap]
  simp only [field?_withoutKeys]
  rfl

theorem oneofCases_withoutKeys :
    m.withoutKeys.oneofs.map (oneofCase m.withoutKeys) = m.oneofs.map (oneofCase m) := by
  refine List.map_congr_left fun oneof _ => ?_
  unfold oneofCase
  rw [memberFields_withoutKeys]
  rfl

theorem accessors_withoutKeys : m.withoutKeys.fields.flatMap (fieldAccessors m.withoutKeys) =
    m.fields.flatMap (fieldAccessors m) := by
  rw [MessageClass.withoutKeys, List.flatMap_map]
  rfl

theorem serialize_withoutKeys : serialize m.withoutKeys = serialize m := by
  unfold serialize MessageClass.withoutKeys
  rw [List.map_map]
  rfl

theorem deserialize_withoutKeys : deserialize m.withoutKeys = deserialize m := by
  unfold deserialize
  rw [armFields_withoutKeys, List.map_map]
  rfl

theorem constructor_withoutKeys : constructor m.withoutKeys = constructor m := by
  have hrepeated : m.withoutKeys.repeatedFields = m.repeatedFields := by
    unfold MessageClass.repeatedFields MessageClass.withoutKeys
    rw [List.filter_map, List.map_map]
    rfl
  have hvalues : initialValues m.withoutKeys.fields = initialValues m.fields := by
    unfold initialValues MessageClass.withoutKeys
    rw [List.flatMap_map, if_congr List.map_eq_nil_iff rfl rfl]
    rfl
  unfold constructor
  rw [hrepeated, hvalues]
  unfold MessageClass.withoutKeys
  rw [List.map_map, List.filter_map, List.flatMap_map]
  rfl

theorem membersBefore_withoutKeys : membersBefore m.withoutKeys = membersBefore m := by
  unfold membersBefore
  rw [constructor_withoutKeys, accessors_withoutKeys, oneofCases_withoutKeys]
  rfl

theorem membersAfter_withoutKeys : membersAfter m.withoutKeys = membersAfter m := by
  unfold membersAfter
  rw [serialize_withoutKeys, deserialize_withoutKeys]
  rfl

end WithoutKeys

/-- The printed classes have the same methods for the wire and the same accessors, and their texts
differ in nothing but the conversions from and to plain objects. -/
structure SameButConversions (m m' : MessageClass) : Prop where
  serialize : serialize m' = serialize m
  deserialize : deserialize m' = deserialize m
  accessors : m'.fields.flatMap (fieldAccessors m') = m.fields.flatMap (fieldAccessors m)
  oneofCases : m'.oneofs.map (oneofCase m') = m.oneofs.map (oneofCase m)
  text : ∀ depth, ∃ before after,
    classText depth m = before ++ membersText (depth + 1) (conversions m) ++ after ∧
    classText depth m' = before ++ membersText (depth + 1) (conversions m') ++ after

theorem sameButConversions_of_withoutKeys {m m' : MessageClass}
    (h : m'.withoutKeys = m.withoutKeys) : SameButConversions m m' where
  serialize := by rw [← serialize_withoutKeys m', h, serialize_withoutKeys]
  deserialize := by rw [← deserialize_withoutKeys m', h, deserialize_withoutKeys]
  accessors := by rw [← accessors_withoutKeys m', h, accessors_withoutKeys]
  oneofCases := by rw [← oneofCases_withoutKeys m', h, oneofCases_withoutKeys]
  text := by
    intro depth
    have hhead : headText depth m' = headText depth m := by
      show headText depth m'.withoutKeys = headText depth m.withoutKeys
      rw [h]
    have hbefore : membersBefore m' = membersBefore m := by
      rw [← membersBefore_withoutKeys m', h, membersBefore_withoutKeys]
    have hafter : membersAfter m' = membersAfter m := by
      rw [← membersAfter_withoutKeys m', h, membersAfter_withoutKeys]
    exact ⟨_, _, classText_eq depth m, by rw [classText_eq, hhead, hbefore, hafter]⟩

end Script

/-- The trees are the same but for the keys of plain objects, and so are their printed classes but
for the conversions from and to these. -/
structure SourceFile.SameButKeys (tree tree' : SourceFile) : Prop where
  mapClasses : tree'.mapClasses MessageClass.withoutKeys = tree.mapClasses MessageClass.withoutKeys
  classes : List.Forall₂ Script.SameButConversions tree.classes tree'.classes

theorem SourceFile.sameButKeys_of_mapClasses {tree tree' : SourceFile}
    (h : tree'.mapClasses MessageClass.withoutKeys = tree.mapClasses MessageClass.withoutKeys) :
    tree.SameButKeys tree' where
  mapClasses := h
  classes := by
    have hclasses : tree.classes.map MessageClass.withoutKeys =
        tree'.classes.map MessageClass.withoutKeys := by
      unfold SourceFile.classes
      rw [← Declaration.listClasses_listMapClasses, ← Declaration.listClasses_listMapClasses]
      exact (congrArg (fun f => Declaration.listClasses f.body) h).symm
    rw [← List.forall₂_eq_eq_eq, List.forall₂_map_left_iff, List.forall₂_map_right_iff] at hclasses
    exact hclasses.imp fun m m' hm => Script.sameButConversions_of_withoutKeys hm.symm

/-! ### All options -/

/-- **Options are orthogonal.** The options of RPC and the version of TypeScript change nothing but
servers, clients and their imports; a run that succeeds does so without RPC, with the trees it had
but for these. JSON names change nothing but the keys of plain objects and what is printed of them,
and explicit overrides nothing but the flag of every class; neither makes a run fail or succeed. -/
theorem options_orthogonal (c : Config) (r : Request) :
    (∀ c' trees trees', c.SameTypes c' → c.trees r = .ok trees → c'.trees r = .ok trees' →
      trees'.map SourceFile.withoutRpc = trees.map SourceFile.withoutRpc) ∧
    (∀ trees, c.trees r = .ok trees →
      c.withoutRpc.trees r = .ok (trees.map SourceFile.withoutRpc)) ∧
    (∀ jsonNames, Agree (List.Forall₂ SourceFile.SameButKeys) (c.trees r)
      ({ c with jsonNames := jsonNames }.trees r)) ∧
    (∀ explicitOverride, Agree (fun trees trees' => trees' =
        trees.map (SourceFile.mapClasses (MessageClass.withOverride explicitOverride)))
      (c.trees r) ({ c with explicitOverride := explicitOverride }.trees r)) := by
  refine ⟨?_, ?_, ?_, ?_⟩
  · intro c' trees trees' hsame htrees htrees'
    obtain ⟨-, -, hfiles⟩ := Config.trees_eq_ok_iff.1 htrees
    obtain ⟨-, -, hfiles'⟩ := Config.trees_eq_ok_iff.1 htrees'
    -- both runs are compared with the one that has no RPC
    have hc := SourceFile.mapM_withoutRpc hfiles
    have hc' := SourceFile.mapM_withoutRpc hfiles'
    have hfile : SourceFile.ofDescriptor c'.withoutRpc (.ofFiles r.files) r.compilerVersion =
        SourceFile.ofDescriptor c.withoutRpc (.ofFiles r.files) r.compilerVersion :=
      funext fun file => SourceFile.ofDescriptor_of_sameTypes hsame
    rw [hfile, hc] at hc'
    exact (Except.ok.inj hc').symm
  · intro trees htrees
    obtain ⟨hversion, hwell, hfiles⟩ := Config.trees_eq_ok_iff.1 htrees
    exact Config.trees_eq_ok_iff.2
      ⟨hversion, hwell, mapM_eq_ok_iff.1 (SourceFile.mapM_withoutRpc hfiles)⟩
  · intro jsonNames
    have hclasses := Config.trees_agree_of_classes jsonNames c.explicitOverride
      MessageClass.withoutKeys MessageClass.withoutKeys
      (fun table file => FileScope.messageClass_agree_withoutKeys (s := .ofFile c table file)
        (c := c.withClassOptions jsonNames c.explicitOverride) rfl rfl) r
    refine hclasses.mono fun trees trees' htrees => htrees.imp fun tree tree' htree => ?_
    exact SourceFile.sameButKeys_of_mapClasses htree
  · intro explicitOverride
    have hclasses := Config.trees_agree_of_classes c.jsonNames explicitOverride
      (MessageClass.withOverride explicitOverride) id
      (fun table file => FileScope.messageClass_agree_withOverride (s := .ofFile c table file)
        (c := c.withClassOptions c.jsonNames explicitOverride) rfl rfl) r
    refine hclasses.mono fun trees trees' htrees => ?_
    rw [← List.map_id trees']
    refine map_eq_map_of_forall₂ htrees fun tree tree' htree => ?_
    rw [← htree, SourceFile.mapClasses, Declaration.listMapClasses_id]
    rfl

/-- A file with a class that has a key of its own, and a service. -/
def lagoonRequest : Request where
  files := [{
    name := "lagoon.proto"
    package := "lagoon"
    messages := [{
      name := "Tide"
      fields := [{ name? := "water_level", number? := some 1, type? := some 5 }]
      enums := [{ name := "Turn", values := [⟨"EBB", 0⟩] }] }]
    services := [{
      name := "Gauge"
      methods := [
        { name := "Read", inputType := ".lagoon.Tide", outputType := ".lagoon.Tide" }] }] }]

/-- Browser clients for an older TypeScript, with promises. -/
def lagoonConfig : Config :=
  { Config.default with target := .web, unaryRpcPromise := true, tsVersion := ⟨4, 9⟩ }

theorem options_orthogonal_lagoon : Config.default.SameTypes lagoonConfig ∧
    ∃ trees trees', Config.default.trees lagoonRequest = .ok trees ∧
      lagoonConfig.trees lagoonRequest = .ok trees' ∧
      trees'.map SourceFile.withoutRpc = trees.map SourceFile.withoutRpc ∧
      Config.default.withoutRpc.trees lagoonRequest =
        .ok (trees.map SourceFile.withoutRpc) := by
  have hsame : Config.default.SameTypes lagoonConfig := ⟨rfl, rfl, rfl⟩
  have hok : (Config.default.trees lagoonRequest).isOk := by decide +kernel
  have hok' : (lagoonConfig.trees lagoonRequest).isOk := by decide +kernel
  obtain ⟨trees, htrees⟩ := isOk_iff.1 hok
  obtain ⟨trees', htrees'⟩ := isOk_iff.1 hok'
  obtain ⟨hrpc, hwithout, -, -⟩ := options_orthogonal Config.default lagoonRequest
  exact ⟨hsame, trees, trees', htrees, htrees', hrpc _ _ _ hsame htrees htrees',
    hwithout _ htrees⟩

end ProtoTypeScript
