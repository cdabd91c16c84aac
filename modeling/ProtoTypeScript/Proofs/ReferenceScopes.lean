import ProtoTypeScript.Proofs.ReferenceErrors
import ProtoTypeScript.Proofs.References
import ProtoTypeScript.Proofs.Scopes

/-!
# What references find

The expression for a type of the same file is its path below the namespace of the package, wherever
the class stands that refers to it. Its first name is looked up from the inside out, so that a type
inside one of the messages around the class can stand in its way.

* `Reaches` says that an expression at a place finds the declaration of a type;
* `FileDescriptor.Shadows` says that a type inside the messages around a class has the name;
* `references_reach_iff`: exactly the references whose first name is not shadowed reach their type.
  `reference_captured` is a run with one that is.
-/

namespace ProtoTypeScript

open Outcome

/-- The expression in the type of a field: in that of its values for a map, none for a scalar. -/
def FieldType.reference? : FieldType → Option String
  | .scalar _ => none
  | .enumeration text => some text
  | .message text => some text
  | .map _ value => value.reference?

/-- The name that the path of a type starts with. -/
def DeclaredType.outermost (t : DeclaredType) : String :=
  t.enclosing.headD t.descriptor.name

theorem DeclaredType.path_eq_cons (t : DeclaredType) : ∃ rest, t.path = t.outermost :: rest := by
  obtain ⟨enclosing, descriptor⟩ := t
  cases enclosing with
  | nil => exact ⟨[], rfl⟩
  | cons first rest => exact ⟨rest ++ [descriptor.name], rfl⟩

/-- One of the messages `enclosing` has a type of the name directly inside it. -/
def FileDescriptor.Shadows (file : FileDescriptor) (enclosing : List String) (name : String) :
    Prop :=
  ∃ t ∈ file.types, t.descriptor.isMapEntry = false ∧ t.descriptor.name = name ∧
    t.enclosing ≠ [] ∧ t.enclosing <+: enclosing

section Request

variable (c : Config) (files : List FileDescriptor) (file : FileDescriptor) (tree : SourceFile)

/-- At a place in the tree of the file, the expression finds the declaration of the type. -/
def Reaches (place : List String) (t : DeclaredType) (text : String) : Prop :=
  ∃ d ∈ tree.types,
    (FileScope.ofFile c (.ofFiles files) file).Lowers (file.packageSegments c) t d ∧
      tree.resolve? place (namespaceSegments text) = some d.1

/-- In a class inside the messages `enclosing`, the expression of a field that refers to a type of
the same file reaches that type exactly if its first name is not shadowed. -/
def ReachesUnlessShadowed (enclosing : List String) (f : FieldDescriptor)
    (field : FieldDeclaration) : Prop :=
  ∀ name, FieldRefers files f name →
    ∀ t ∈ file.types, file.qualifiedName t = .ofReference name →
      ∃ text, field.type.reference? = some text ∧
        (Reaches c files file tree (file.packageSegments c ++ enclosing) t text ↔
          ¬ file.Shadows enclosing t.outermost)

end Request

section Request

variable {c : Config} {files : List FileDescriptor} {file : FileDescriptor} {tree : SourceFile}
  {version : CompilerVersion}

/-! ### The expression of a field -/

theorem FieldRefers.isMapEntry_eq_false {f : FieldDescriptor} {name : String}
    (h : FieldRefers files f name) {g : FileDescriptor} {t : DeclaredType}
    (hnamed : Names files name g t) : t.descriptor.isMapEntry = false := by
  induction h with
  | direct _ hentry => exact hentry g t hnamed
  | entry _ _ _ _ _ _ ih => exact ih hnamed

section Registered

variable (htypes : (files.flatMap (·.typeNames)).Nodup)
  (hwell : ∀ f ∈ files, f.EntriesWellFormed)

include htypes hwell

/-- A type of the same file is written as its path. -/
theorem typeExpression_of_names {typeName : String} {t : DeclaredType}
    (h : Names files typeName file t) {r : TypeRecord} {text : String}
    (hr : (FileScope.ofFile c (.ofFiles files) file).resolve typeName = .ok r)
    (htext : (FileScope.ofFile c (.ofFiles files) file).typeExpression r = .ok text) :
    text = (FileScope.ofFile c (.ofFiles files) file).localExpression t.path := by
  obtain ⟨-, hown, -, hpath, -⟩ :=
    FileDescriptor.record_eq_ok_iff.1 (record_of_names htypes hwell h hr)
  rcases FileScope.typeExpression_eq_ok_iff.1 htext with ⟨-, rfl⟩ | ⟨hother, -⟩
  · rw [hpath]
  · exact absurd hown hother

/-- A reference to a type of the same file is the path of the type. -/
theorem FieldRefers.reference?_eq {f : FieldDescriptor} {name : String}
    (h : FieldRefers files f name) {t : DeclaredType} (hnamed : Names files name file t)
    {type : FieldType} (htype : (FileScope.ofFile c (.ofFiles files) file).HasType f type) :
    type.reference? =
      some ((FileScope.ofFile c (.ofFiles files) file).localExpression t.path) := by
  induction h generalizing type with
  | direct h hentry =>
    cases htype with
    | scalar hscalar => simp [h] at hscalar
    | enumeration _ hr _ htext =>
      exact congrArg some (typeExpression_of_names htypes hwell hnamed hr htext)
    | message _ hr _ htext =>
      exact congrArg some (typeExpression_of_names htypes hwell hnamed hr htext)
    | map _ hr hkind _ _ _ =>
      -- a map is named after its entry
      exact absurd hkind (kind_ne_mapEntry_of_direct htypes hentry hr _ _)
  | entry h hentry hdescriptor hm hfields _ ih =>
    cases htype with
    | scalar hscalar => simp [h] at hscalar
    | enumeration _ hr hkind _ =>
      simp [kind_of_names_entry htypes hwell hentry hdescriptor hm hfields hr] at hkind
    | message _ hr hkind _ =>
      simp [kind_of_names_entry htypes hwell hentry hdescriptor hm hfields hr] at hkind
    | map _ hr hkind _ hvalue _ =>
      rw [kind_of_names_entry htypes hwell hentry hdescriptor hm hfields hr] at hkind
      cases hkind
      rw [FieldType.reference?]
      exact ih hnamed hvalue

end Registered

/-! ### The lookup of an expression -/

section Generated

variable (hnested : c.noNamespace = false)
  (htree : SourceFile.ofDescriptor c (.ofFiles files) version file = .ok tree)
  (hentries : file.EntriesAreLeaves)

include hnested htree hentries

/-- Inside the package a name is declared exactly if a type of one of the messages has it. -/
theorem mem_declaredPaths_iff_exists {enclosing : List String} (hne : enclosing ≠ [])
    {name : String} :
    file.packageSegments c ++ enclosing ++ [name] ∈ tree.declaredPaths ↔
      ∃ t ∈ file.types, t.descriptor.isMapEntry = false ∧ t.descriptor.name = name ∧
        t.enclosing = enclosing := by
  have hdeep : 2 ≤ (enclosing ++ [name]).length := by
    have hpos := List.length_pos_iff.2 hne
    rw [List.length_append, List.length_singleton]
    omega
  rw [List.append_assoc, SourceFile.mem_declaredPaths_iff hnested htree hdeep]
  refine exists_congr fun t => ?_
  rw [FileDescriptor.mem_loweredTypes_iff hentries, DeclaredType.path, and_assoc]
  refine and_congr_right fun _ => and_congr_right fun _ => ⟨fun h => ?_, ?_⟩
  · obtain ⟨henclosing, hname⟩ := List.append_inj' h rfl
    exact ⟨List.singleton_inj.1 hname, henclosing⟩
  · rintro ⟨rfl, rfl⟩
    rfl

/-- A first name is looked up in the namespace of the package exactly if no block inside has it. -/
theorem blockOf?_eq_some_iff_not_shadows {t : DeclaredType} (ht : t ∈ file.types)
    (hentry : t.descriptor.isMapEntry = false) {enclosing : List String} :
    tree.blockOf? (file.packageSegments c ++ enclosing) t.outermost =
      some (file.packageSegments c) ↔ ¬ file.Shadows enclosing t.outermost := by
  have hlowered := (FileDescriptor.mem_loweredTypes_iff hentries).2 ⟨ht, hentry⟩
  have hfirst : file.packageSegments c ++ [t.outermost] ∈ tree.declaredPaths := by
    obtain ⟨rest, hpath⟩ := t.path_eq_cons
    have hdeclared := SourceFile.mem_declaredPaths_of_mem hnested htree hlowered
    rw [hpath, List.append_cons] at hdeclared
    exact SourceFile.mem_declaredPaths_of_append (by simp) hdeclared
  rw [SourceFile.blockOf?_eq_some_iff]
  constructor
  · rintro ⟨-, -, hinner⟩ ⟨u, hu, hnone, hname, hne, hprefix⟩
    refine hinner (file.packageSegments c ++ u.enclosing)
      ((List.prefix_append_right_inj _).2 hprefix) ?_ ?_
    · have hpos := List.length_pos_iff.2 hne
      rw [List.length_append]
      omega
    · exact (mem_declaredPaths_iff_exists hnested htree hentries hne).2 ⟨u, hu, hnone, hname, rfl⟩
  · intro hshadows
    refine ⟨List.prefix_append _ _, hfirst, fun inner hprefix hlength hdeclared => ?_⟩
    -- a longer block is the package's with some of the messages
    obtain ⟨messages, rfl⟩ : file.packageSegments c <+: inner :=
      List.prefix_of_prefix_length_le (List.prefix_append _ _) hprefix hlength.le
    have hne : messages ≠ [] := by
      rintro rfl
      simp at hlength
    obtain ⟨u, hu, hnone, hname, rfl⟩ :=
      (mem_declaredPaths_iff_exists hnested htree hentries hne).1 hdeclared
    exact hshadows ⟨u, hu, hnone, hname, hne, (List.prefix_append_right_inj _).1 hprefix⟩

/-- The path of a type is resolved to the declaration of the type exactly if its first name is
not shadowed. -/
theorem resolve?_path_eq_some_iff {t : DeclaredType} (ht : t ∈ file.types)
    (hentry : t.descriptor.isMapEntry = false) {enclosing : List String} :
    tree.resolve? (file.packageSegments c ++ enclosing) t.path =
      some (file.packageSegments c ++ t.path) ↔ ¬ file.Shadows enclosing t.outermost := by
  have hdeclared := SourceFile.mem_declaredPaths_of_mem hnested htree
    ((FileDescriptor.mem_loweredTypes_iff hentries).2 ⟨ht, hentry⟩)
  rw [← blockOf?_eq_some_iff_not_shadows hnested htree hentries ht hentry]
  obtain ⟨rest, hpath⟩ := t.path_eq_cons
  rw [hpath] at hdeclared ⊢
  rw [SourceFile.resolve?_cons_eq_some_iff]
  constructor
  · rintro ⟨block, hblock, hsame, -⟩
    obtain rfl := List.append_cancel_right hsame
    exact hblock
  · intro hblock
    exact ⟨_, hblock, rfl, hdeclared⟩

theorem reaches_localExpression_iff {t : DeclaredType} (ht : t ∈ file.types)
    (hentry : t.descriptor.isMapEntry = false) (hpoints : ∀ s ∈ t.path, '.' ∉ s.toList)
    {enclosing : List String} :
    Reaches c files file tree (file.packageSegments c ++ enclosing) t
        ((FileScope.ofFile c (.ofFiles files) file).localExpression t.path) ↔
      ¬ file.Shadows enclosing t.outermost := by
  have hplace : c.place t.path = t.path := if_neg (by simp [hnested])
  have hsegments : namespaceSegments
      ((FileScope.ofFile c (.ofFiles files) file).localExpression t.path) = t.path := by
    rw [FileScope.localExpression_eq]
    exact hplace.symm ▸ namespaceSegments_joinWith hpoints t.path_ne_nil
  rw [← resolve?_path_eq_some_iff hnested htree hentries ht hentry, Reaches, hsegments]
  constructor
  · rintro ⟨d, -, hlowers, hresolve⟩
    rw [hresolve, hlowers.1]
    exact congrArg (fun path => some (file.packageSegments c ++ path)) hplace
  · intro hresolve
    obtain ⟨d, hd, hlowers⟩ := SourceFile.exists_lowers htree hentries ht hentry
    refine ⟨d, hd, hlowers, ?_⟩
    rw [hresolve, hlowers.1]
    exact congrArg (fun path => some (file.packageSegments c ++ path)) hplace.symm

end Generated

/-- The references in the class of a message. -/
theorem reachesUnlessShadowed_of_fieldDeclaration (hnested : c.noNamespace = false)
    (htypes : (files.flatMap (·.typeNames)).Nodup) (hwell : ∀ f ∈ files, f.EntriesWellFormed)
    (hfile : file ∈ files) (hentries : file.EntriesAreLeaves)
    (hpoints : ∀ t ∈ file.types, ∀ s ∈ t.path, '.' ∉ s.toList)
    (htree : SourceFile.ofDescriptor c (.ofFiles files) version file = .ok tree)
    {f : FieldDescriptor} {field : FieldDeclaration}
    (h : (FileScope.ofFile c (.ofFiles files) file).fieldDeclaration f = .ok field)
    (enclosing : List String) : ReachesUnlessShadowed c files file tree enclosing f field := by
  intro name hrefers t ht hname
  obtain ⟨type, value, htype, -, rfl⟩ := FileScope.fieldDeclaration_eq_ok_iff.1 h
  have hnamed : Names files name file t := ⟨hfile, ht, hname⟩
  refine ⟨_, hrefers.reference?_eq htypes hwell hnamed
    (FileScope.fieldType_eq_ok_iff.1 htype), ?_⟩
  exact reaches_localExpression_iff hnested htree hentries ht (hrefers.isMapEntry_eq_false hnamed)
    (hpoints t ht)

end Request

/-- **References reach their types unless they are shadowed**: in the trees of a successful run with
namespaces, what a field refers to in its own file is found from the class of the field exactly if
no type inside one of the messages around that class has the name that the reference starts with. -/
theorem references_reach_iff {c : Config} {r : Request} (hnested : c.noNamespace = false)
    (htypes : (r.files.flatMap (·.typeNames)).Nodup)
    (hentries : ∀ f ∈ r.files, f.EntriesAreLeaves)
    (hpoints : ∀ f ∈ r.files, ∀ t ∈ f.types, ∀ s ∈ t.path, '.' ∉ s.toList)
    {out : List GeneratedFile} (h : c.run r = .ok out) :
    ∃ trees, c.trees r = .ok trees ∧ out = trees.map .ofSource ∧
      List.Forall₂ (fun file tree =>
        ∀ t ∈ file.types, ∀ m, t.descriptor = .message m → m.mapEntry = false →
          ∃ d nested,
            (file.packageSegments c ++ t.path, Declaration.message d nested) ∈ tree.types ∧
            List.Forall₂ (ReachesUnlessShadowed c r.files file tree t.enclosing) m.fields d.fields)
        r.files trees := by
  obtain ⟨trees, htrees, rfl⟩ := Config.run_eq_ok_iff.1 h
  obtain ⟨-, hwell, hall⟩ := Config.trees_eq_ok_iff.1 htrees
  refine ⟨trees, htrees, rfl, ?_⟩
  refine ((List.forall₂_and_left _ _).2 ⟨fun f hf => hf, hall⟩).imp ?_
  rintro file tree ⟨hfile, htree⟩ t ht m hdescriptor hm
  obtain ⟨fields, nested, hclass, hfields⟩ :=
    SourceFile.exists_class htree (hentries file hfile) ht hdescriptor hm
  have hplace : c.place t.path = t.path := if_neg (by simp [hnested])
  rw [hplace] at hclass
  refine ⟨_, nested, hclass, (mapM_eq_ok_iff.1 hfields).imp fun f field hfield => ?_⟩
  exact reachesUnlessShadowed_of_fieldDeclaration hnested htypes hwell hfile (hentries file hfile)
    (hpoints file hfile) htree hfield t.enclosing

/-- A field that refers to a message at the top of its file. -/
def besideField : FieldDescriptor where
  name? := "beside"
  label? := some 1
  number? := some 1
  type? := some 11
  typeName? := ".grove.Tree"

/-- A message with the field. -/
def gapMessage : MessageDescriptor where
  name := "Gap"
  fields := [besideField]

/-- A file with two messages of one name: one at its top, and one beside the message that refers to
that one. -/
def groveFile : FileDescriptor where
  name := "grove.proto"
  package := "grove"
  messages := [{ name := "Tree" }, { name := "Row", nested := [{ name := "Tree" }, gapMessage] }]

/-- A request for the file. -/
def groveRequest : Request where
  files := [groveFile]

theorem entriesAreLeaves_groveFile : groveFile.EntriesAreLeaves := by
  refine ⟨by decide, ?_⟩
  simp [groveFile, gapMessage, FileDescriptor.types, MessageDescriptor.types,
    MessageDescriptor.listTypes]

theorem references_reach_iff_grove :
    (groveRequest.files.flatMap (·.typeNames)).Nodup ∧
    (∀ f ∈ groveRequest.files, f.EntriesAreLeaves) ∧
    (∀ f ∈ groveRequest.files, ∀ t ∈ f.types, ∀ s ∈ t.path, '.' ∉ s.toList) ∧
    ∃ out, Config.default.run groveRequest = .ok out ∧
      ∃ trees, Config.default.trees groveRequest = .ok trees ∧ out = trees.map .ofSource ∧
        List.Forall₂ (fun file tree =>
          ∀ t ∈ file.types, ∀ m, t.descriptor = .message m → m.mapEntry = false →
            ∃ d nested, (file.packageSegments .default ++ t.path,
                Declaration.message d nested) ∈ tree.types ∧
              List.Forall₂ (ReachesUnlessShadowed .default groveRequest.files file tree
                t.enclosing) m.fields d.fields)
          groveRequest.files trees := by
  have htypes : (groveRequest.files.flatMap (·.typeNames)).Nodup := by decide
  have hentries : ∀ f ∈ groveRequest.files, f.EntriesAreLeaves :=
    List.forall_mem_singleton.2 entriesAreLeaves_groveFile
  have hpoints : ∀ f ∈ groveRequest.files, ∀ t ∈ f.types, ∀ s ∈ t.path, '.' ∉ s.toList := by
    decide
  have hok : (Config.default.run groveRequest).isOk := by decide +kernel
  obtain ⟨out, hout⟩ := isOk_iff.1 hok
  exact ⟨htypes, hentries, hpoints, out, hout,
    references_reach_iff rfl htypes hentries hpoints hout⟩

/-- The field refers to the message at the top of the file, its type in the tree is `Tree`, and from
its class this name finds the message beside the class. -/
theorem reference_captured :
    (groveRequest.files.flatMap (·.typeNames)).Nodup ∧
    (∀ f ∈ groveRequest.files, f.EntriesAreLeaves) ∧
    (∀ f ∈ groveRequest.files, ∀ t ∈ f.types, ∀ s ∈ t.path, '.' ∉ s.toList) ∧
    ∃ out tree, Config.default.run groveRequest = .ok out ∧
      Config.default.trees groveRequest = .ok [tree] ∧
      FieldRefers groveRequest.files besideField ".grove.Tree" ∧
      Names groveRequest.files ".grove.Tree" groveFile ⟨[], .message { name := "Tree" }⟩ ∧
      (∃ d ∈ tree.types, d.1 = ["grove", "Row", "Gap"] ∧
        ∃ m nested, d.2 = .message m nested ∧ m.fields.map (·.type) = [.message "Tree"]) ∧
      tree.resolve? ["grove", "Row"] ["Tree"] = some ["grove", "Row", "Tree"] ∧
      ¬ Reaches .default groveRequest.files groveFile tree ["grove", "Row"]
        ⟨[], .message { name := "Tree" }⟩ "Tree" := by
  have hok : (Config.default.run groveRequest).isOk := by decide +kernel
  obtain ⟨out, hout⟩ := isOk_iff.1 hok
  obtain ⟨trees, hsources, -⟩ := Config.run_eq_ok_iff.1 hout
  obtain ⟨tree, rest, htree, hrest, rfl⟩ :=
    List.forall₂_cons_left_iff.1 (Config.trees_eq_ok_iff.1 hsources).2.2
  obtain rfl := List.forall₂_nil_left_iff.1 hrest
  have hresolve : (SourceFile.ofDescriptor .default (.ofFiles groveRequest.files)
      groveRequest.compilerVersion groveFile).toOption.bind
        (·.resolve? ["grove", "Row"] ["Tree"]) = some ["grove", "Row", "Tree"] := by
    decide +kernel
  rw [htree] at hresolve
  have hexpression : (gapMessage.fields.mapM (FileScope.ofFile .default
      (.ofFiles groveRequest.files) groveFile).fieldDeclaration).toOption.map
        (·.map (·.type)) = some [.message "Tree"] := by
    decide +kernel
  have hgap : ⟨["Row"], .message gapMessage⟩ ∈ groveFile.loweredTypes := by
    simp [groveFile, gapMessage, FileDescriptor.loweredTypes, MessageDescriptor.loweredTypes,
      MessageDescriptor.listLoweredTypes]
  obtain ⟨d, hd, hpath, fields, nested, hfields, hclass, -⟩ :=
    exists_of_mem_left (SourceFile.ofDescriptor_lowers htree) hgap
  rw [hfields] at hexpression
  have hordinary : ∀ g ∈ groveRequest.files, ∀ t ∈ g.types,
      g.qualifiedName t = .ofReference ".grove.Tree" → t.descriptor.isMapEntry = false := by
    decide
  have hnames : Names groveRequest.files ".grove.Tree" groveFile
      ⟨[], .message { name := "Tree" }⟩ := by
    refine ⟨List.mem_singleton_self _, ?_, by decide⟩
    simp [groveFile, FileDescriptor.types, MessageDescriptor.types]
  refine ⟨by decide, List.forall_mem_singleton.2 entriesAreLeaves_groveFile, by decide, out,
    tree, hout, hsources, .direct rfl fun g t h => hordinary g h.file t h.type h.name, hnames,
    ⟨d, hd, hpath, _, nested, hclass, Option.some.inj hexpression⟩, hresolve, ?_⟩
  rintro ⟨e, -, ⟨hplace, -⟩, hfound⟩
  have hsegments : namespaceSegments "Tree" = ["Tree"] := by decide
  rw [hsegments, hplace] at hfound
  exact absurd (hfound.symm.trans hresolve) (by decide)

end ProtoTypeScript
