import ProtoTypeScript.Proofs.LoweredTypes
import ProtoTypeScript.Proofs.Registration

/-!
# What the table of types answers

The name of a type is put together from the package, the messages around it and the type itself, and
it is looked up by the text of a reference.

* `FileDescriptor.nameSegments` are the segments of a type's name, and `dottedName` joins them with
  points; `qualifiedName_eq` says that the recorded name is that with a point in front, if no
  segment is empty or holds a point;
* `TypeDescriptor.HasKind` says without the table what a type is recorded as;
* `TypeTable.size_ofFiles`: the table has as many names as the files have types;
* `table_exact`: a reference leads to the record of the type with its name if there is one, and is
  unresolved otherwise.
-/

namespace ProtoTypeScript

/-! ### Names -/

namespace TypeName

/-- The segments with a point in front of each. -/
def pointed : List String → String
  | [] => ""
  | segment :: segments => "." ++ segment ++ pointed segments

theorem pointed_append (xs ys : List String) : pointed (xs ++ ys) = pointed xs ++ pointed ys := by
  induction xs with
  | nil => simp [pointed]
  | cons x xs ih => simp [pointed, ih, String.append_assoc]

theorem pointed_eq {segments : List String} (h : segments ≠ []) :
    pointed segments = "." ++ Text.joinWith "." segments := by
  induction segments with
  | nil => exact absurd rfl h
  | cons segment segments ih =>
    by_cases hnil : segments = []
    · simp [hnil, pointed]
    · rw [pointed, ih hnil, Text.joinWith_cons_of_ne_nil _ _ hnil]
      simp only [String.append_assoc]

theorem dropPoints_of_notMem {s : String} (h : '.' ∉ s.toList) : dropPoints s = s := by
  have hkeep : s.toList.dropWhile (· == '.') = s.toList := by
    cases hs : s.toList with
    | nil => rfl
    | cons c cs =>
      have hc : c ≠ '.' := by
        rintro rfl
        simp [hs] at h
      simp [hc]
  rw [dropPoints, hkeep, String.ofList_toList]

theorem joinWith_namespaceSegments (name : String) :
    Text.joinWith "." (namespaceSegments name) = name := by
  rw [namespaceSegments, Text.joinWith_splitOn rfl, String.ofList_toList]

end TypeName

namespace FileDescriptor

/-- The segments of a package, whose outer points do not count. -/
def packageNames (f : FileDescriptor) : List String :=
  if f.package = "" then [] else namespaceSegments (TypeName.trimPoints f.package)

/-- The segments of a type's name: those of the package, then the path of the type. -/
def nameSegments (f : FileDescriptor) (t : DeclaredType) : List String :=
  f.packageNames ++ t.path

/-- The name of a type, with points between its segments. -/
def dottedName (f : FileDescriptor) (t : DeclaredType) : String :=
  Text.joinWith "." (f.nameSegments t)

/-- No segment of the type's name is empty or holds a point. -/
def HasPlainName (f : FileDescriptor) (t : DeclaredType) : Prop :=
  ∀ s ∈ f.nameSegments t, s ≠ "" ∧ '.' ∉ s.toList

instance (f : FileDescriptor) (t : DeclaredType) : Decidable (f.HasPlainName t) :=
  inferInstanceAs (Decidable (∀ s ∈ f.nameSegments t, _ ∧ _))

variable {f : FileDescriptor} {t : DeclaredType}

theorem pointed_packageNames (f : FileDescriptor) : TypeName.pointed f.packageNames =
    if f.package = "" then "" else "." ++ TypeName.trimPoints f.package := by
  unfold packageNames
  by_cases h : f.package = ""
  · rw [if_pos h, if_pos h]
    rfl
  · have hne : namespaceSegments (TypeName.trimPoints f.package) ≠ [] := by
      unfold namespaceSegments
      simp [Text.splitOn_ne_nil]
    rw [if_neg h, if_neg h, TypeName.pointed_eq hne, TypeName.joinWith_namespaceSegments]

/-- A type is recorded under its name with a point in front. -/
theorem qualifiedName_eq (h : f.HasPlainName t) : f.qualifiedName t = ⟨"." ++ f.dottedName t⟩ := by
  have hpath : ∀ s ∈ t.path, s ≠ "" ∧ '.' ∉ s.toList := fun s hs =>
    h s (List.mem_append_right _ hs)
  have hname : t.descriptor.name ≠ "" := (hpath _ (by simp [DeclaredType.path])).1
  -- the messages around the type have no points to drop
  have henclosing : t.enclosing.map TypeName.dropPoints = t.enclosing := by
    have hdrop : ∀ s ∈ t.enclosing, TypeName.dropPoints s = s := by
      intro s hs
      exact TypeName.dropPoints_of_notMem (hpath s (by simp [DeclaredType.path, hs])).2
    rw [List.map_congr_left hdrop, List.map_id']
  have hpointed : (if t.enclosing = [] then "" else
      "." ++ Text.joinWith "." (t.enclosing.map TypeName.dropPoints)) =
        TypeName.pointed t.enclosing := by
    by_cases hnil : t.enclosing = []
    · rw [if_pos hnil, hnil]
      rfl
    · rw [if_neg hnil, henclosing, TypeName.pointed_eq hnil]
  have hne : f.nameSegments t ≠ [] := by
    unfold nameSegments
    simp [t.path_ne_nil]
  rw [qualifiedName, TypeName.qualified, hpointed, ← f.pointed_packageNames, if_neg hname,
    dottedName, ← TypeName.pointed_eq hne, nameSegments, DeclaredType.path,
    TypeName.pointed_append, TypeName.pointed_append]
  simp [TypeName.pointed, String.append_assoc]

end FileDescriptor

/-! ### Kinds -/

/-- What a type is recorded as. -/
inductive TypeDescriptor.HasKind : TypeDescriptor → TypeKind → Prop
  | message {m : MessageDescriptor} (h : m.mapEntry = false) : HasKind (.message m) .message
  | mapEntry {m : MessageDescriptor} {key value : FieldDescriptor} (h : m.mapEntry = true)
    (hfields : m.fields = [key, value]) (hkey : key.name = "key") (hvalue : value.name = "value") :
    HasKind (.message m) (.mapEntry key value)
  /-- The first value is zero. -/
  | zero {e : EnumDescriptor} {first : EnumValue} {others : List EnumValue}
    (hvalues : e.values = first :: others) (hfirst : first.number = 0) :
    HasKind (.enumeration e) (.enumeration (some first.name))
  /-- There is no value, or the first one is not zero. -/
  | nonzero {e : EnumDescriptor} (hfirst : ∀ first ∈ e.values.head?, first.number ≠ 0) :
    HasKind (.enumeration e) (.enumeration none)

theorem TypeDescriptor.hasKind_of_kind {d : TypeDescriptor} {q : TypeName} {k : TypeKind}
    (h : d.kind q = .ok k) : d.HasKind k := by
  cases d with
  | enumeration e =>
    obtain rfl := kind_enumeration.1 h
    unfold EnumDescriptor.kind
    rcases hvalues : e.values with _ | ⟨first, others⟩
    · exact .nonzero (by simp [hvalues])
    · by_cases hfirst : first.number = 0
      · simp only [if_pos hfirst]
        exact .zero hvalues hfirst
      · simp only [if_neg hfirst]
        exact .nonzero (by simp [hvalues, hfirst])
  | message m =>
    cases hm : m.mapEntry with
    | false =>
      obtain rfl := (kind_message hm).1 h
      exact .message hm
    | true =>
      obtain ⟨key, value, hfields, hkey, hvalue, -, rfl⟩ := (kind_mapEntry hm).1 h
      exact .mapEntry hm hfields hkey hvalue

/-- The record says where the type is declared and what it is. -/
structure FileDescriptor.IsRecordOf (f : FileDescriptor) (t : DeclaredType) (r : TypeRecord) :
    Prop where
  name : r.name.text = "." ++ f.dottedName t
  file : r.file = f.name
  package : r.package = f.package
  path : r.path = t.path
  kind : t.descriptor.HasKind r.kind

theorem FileDescriptor.isRecordOf_of_record {f : FileDescriptor} {t : DeclaredType} {r : TypeRecord}
    (hplain : f.HasPlainName t) (h : f.record t = .ok r) : f.IsRecordOf t r := by
  obtain ⟨hname, hfile, hpackage, hpath, hkind⟩ := record_eq_ok_iff.1 h
  refine ⟨?_, hfile, hpackage, hpath, TypeDescriptor.hasKind_of_kind hkind⟩
  rw [hname, qualifiedName_eq hplain]

/-! ### Lookups -/

namespace TypeTable

variable {files : List FileDescriptor}

theorem length_records_ofFiles (hwell : ∀ f ∈ files, f.EntriesWellFormed) :
    (ofFiles files).records.length = (files.flatMap (·.types)).length := by
  have hfile : ∀ f ∈ files, f.records.length = f.types.length := by
    intro f hf
    have hlength := congrArg List.length (hwell f hf).declarations_eq
    rw [f.declarations_eq, List.length_map, List.length_map] at hlength
    exact hlength.symm
  rw [ofFiles, List.length_reverse, List.length_flatMap, List.length_flatMap,
    List.map_congr_left hfile]

/-- With distinct names, none of the records hides another. -/
theorem size_ofFiles (hwell : ∀ f ∈ files, f.EntriesWellFormed)
    (hdistinct : (files.flatMap (·.typeNames)).Nodup) :
    (ofFiles files).size = (files.flatMap (·.types)).length := by
  have hperm : ((ofFiles files).records.map (·.name)).eraseDups.Perm
      ((ofFiles files).records.map (·.name)) :=
    (List.perm_ext_iff_of_nodup (nodup_eraseDups _) (nodup_names_ofFiles hdistinct)).2
      fun _ => List.mem_eraseDups
  rw [size, hperm.length_eq, List.length_map, length_records_ofFiles hwell]

theorem typeNames_eq_dottedNames (hplain : ∀ f ∈ files, ∀ t ∈ f.types, f.HasPlainName t) :
    files.flatMap (·.typeNames) =
      (files.flatMap fun f => f.types.map f.dottedName).map fun name => ⟨"." ++ name⟩ := by
  rw [List.map_flatMap]
  refine List.flatMap_congr fun f hf => ?_
  rw [FileDescriptor.typeNames, List.map_map]
  exact List.map_congr_left fun t ht => FileDescriptor.qualifiedName_eq (hplain f hf t ht)

theorem nodup_typeNames (hplain : ∀ f ∈ files, ∀ t ∈ f.types, f.HasPlainName t)
    (hdistinct : (files.flatMap fun f => f.types.map f.dottedName).Nodup) :
    (files.flatMap (·.typeNames)).Nodup := by
  rw [typeNames_eq_dottedNames hplain]
  refine hdistinct.map fun name name' h => ?_
  exact (String.append_right_inj _).1 (congrArg TypeName.text h)

theorem find?_ofReference_eq_some_iff (hplain : ∀ f ∈ files, ∀ t ∈ f.types, f.HasPlainName t)
    (hdistinct : (files.flatMap (·.typeNames)).Nodup) (typeName : String) (r : TypeRecord) :
    (ofFiles files).find? (.ofReference typeName) = some r ↔ ∃ f ∈ files, ∃ t ∈ f.types,
      f.dottedName t = TypeName.dropPoints typeName ∧ f.record t = .ok r := by
  rw [find?_ofFiles_eq_some_iff hdistinct]
  have hname : ∀ f ∈ files, ∀ t ∈ f.types, f.record t = .ok r →
      (r.name = .ofReference typeName ↔ f.dottedName t = TypeName.dropPoints typeName) := by
    intro f hf t ht hr
    rw [(FileDescriptor.record_eq_ok_iff.1 hr).1,
      FileDescriptor.qualifiedName_eq (hplain f hf t ht), TypeName.ofReference,
      TypeName.mk.injEq, String.append_right_inj]
  constructor
  · rintro ⟨f, hf, t, ht, hr, heq⟩
    exact ⟨f, hf, t, ht, (hname f hf t ht hr).1 heq, hr⟩
  · rintro ⟨f, hf, t, ht, heq, hr⟩
    exact ⟨f, hf, t, ht, hr, (hname f hf t ht hr).2 heq⟩

/-- **The table is exact.** After the files are registered it has as many names as the files have
types. A reference, whose leading points do not count, leads to the record of the type with that
name, and it is unresolved if there is no such type. -/
theorem table_exact {table : TypeTable} (htable : empty.registerAll files = .ok table)
    (hplain : ∀ f ∈ files, ∀ t ∈ f.types, f.HasPlainName t)
    (hdistinct : (files.flatMap fun f => f.types.map f.dottedName).Nodup) :
    table.size = (files.flatMap (·.types)).length ∧
    ∀ typeName fromFile,
      ((∃ r, table.resolve typeName fromFile = .ok r) ↔
        ∃ f ∈ files, ∃ t ∈ f.types, f.dottedName t = TypeName.dropPoints typeName) ∧
      (∀ f ∈ files, ∀ t ∈ f.types, f.dottedName t = TypeName.dropPoints typeName →
        ∃ r, table.resolve typeName fromFile = .ok r ∧ f.IsRecordOf t r) ∧
      ((∀ f ∈ files, ∀ t ∈ f.types, f.dottedName t ≠ TypeName.dropPoints typeName) →
        table.resolve typeName fromFile = .error (.unresolvedType typeName fromFile)) := by
  obtain ⟨hwell, rfl⟩ := registerAll_eq_ok_iff.1 htable
  have hnames := nodup_typeNames hplain hdistinct
  have hfind := find?_ofReference_eq_some_iff hplain hnames
  -- a type of that name is the only one, so that its record is the one found
  have hfound : ∀ typeName fromFile, ∀ f ∈ files, ∀ t ∈ f.types,
      f.dottedName t = TypeName.dropPoints typeName →
        ∃ r, (ofFiles files).resolve typeName fromFile = .ok r ∧ f.IsRecordOf t r := by
    intro typeName fromFile f hf t ht heq
    obtain ⟨r, hr⟩ := hwell f hf t ht
    refine ⟨r, resolve_eq_ok_iff.2 ((hfind typeName r).2 ⟨f, hf, t, ht, heq, hr⟩), ?_⟩
    exact FileDescriptor.isRecordOf_of_record (hplain f hf t ht) hr
  refine ⟨size_ofFiles hwell hnames, fun typeName fromFile => ⟨?_, hfound typeName fromFile, ?_⟩⟩
  · constructor
    · rintro ⟨r, hr⟩
      obtain ⟨f, hf, t, ht, heq, -⟩ := (hfind typeName r).1 (resolve_eq_ok_iff.1 hr)
      exact ⟨f, hf, t, ht, heq⟩
    · rintro ⟨f, hf, t, ht, heq⟩
      obtain ⟨r, hr, -⟩ := hfound typeName fromFile f hf t ht heq
      exact ⟨r, hr⟩
  · intro hother
    apply resolve_of_find?_eq_none
    by_contra hsome
    obtain ⟨r, hr⟩ := Option.ne_none_iff_exists'.1 hsome
    obtain ⟨f, hf, t, ht, heq, -⟩ := (hfind typeName r).1 hr
    exact hother f hf t ht heq

/-- An enum whose first value is zero. -/
def tideEnum : EnumDescriptor where
  name := "Tide"
  values := [⟨"LOW", 0⟩, ⟨"HIGH", 1⟩]

/-- Files with nested types, a map entry and a package that starts with a point. -/
def bayFiles : List FileDescriptor :=
  [{ name := "dune.proto", messages := [{ name := "Dune" }] },
    { name := "bay.proto", package := ".coast.v1"
      enums := [{ name := "Sand", values := [⟨"WET", 1⟩] }]
      messages := [{ name := "Bay", enums := [tideEnum], nested :=
        [{ name := "BoatsEntry", mapEntry := true, fields :=
          [{ name? := some "key", type? := some 9 }, { name? := some "value", type? := some 5 }] },
          { name := "Cove" }] }] }]

theorem table_exact_bay :
    empty.registerAll bayFiles = .ok (ofFiles bayFiles) ∧
    (∀ f ∈ bayFiles, ∀ t ∈ f.types, f.HasPlainName t) ∧
    (bayFiles.flatMap fun f => f.types.map f.dottedName).Nodup ∧
    (ofFiles bayFiles).size = 6 ∧
    (∃ f ∈ bayFiles, ∃ r, (ofFiles bayFiles).resolve "..coast.v1.Bay.Tide" "dune.proto" = .ok r ∧
      f.IsRecordOf ⟨["Bay"], .enumeration tideEnum⟩ r) ∧
    (ofFiles bayFiles).resolve "coast.v1.Tide" "dune.proto" =
      .error (.unresolvedType "coast.v1.Tide" "dune.proto") := by
  have htable : empty.registerAll bayFiles = .ok (ofFiles bayFiles) := rfl
  have hplain : ∀ f ∈ bayFiles, ∀ t ∈ f.types, f.HasPlainName t := by decide +kernel
  have hdistinct : (bayFiles.flatMap fun f => f.types.map f.dottedName).Nodup := by decide +kernel
  obtain ⟨hsize, hresolve⟩ := table_exact htable hplain hdistinct
  refine ⟨htable, hplain, hdistinct, hsize, ?_, ?_⟩
  · have hmem : (⟨["Bay"], .enumeration tideEnum⟩ : DeclaredType) ∈ (bayFiles[1]).types := by
      simp [bayFiles, FileDescriptor.types, MessageDescriptor.types]
    obtain ⟨r, hr, hrecord⟩ := (hresolve "..coast.v1.Bay.Tide" "dune.proto").2.1 bayFiles[1]
      (by simp [bayFiles]) _ hmem (by decide +kernel)
    exact ⟨_, by simp [bayFiles], r, hr, hrecord⟩
  · exact (hresolve "coast.v1.Tide" "dune.proto").2.2 (by decide +kernel)

end TypeTable

end ProtoTypeScript
