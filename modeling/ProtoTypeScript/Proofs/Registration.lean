import Mathlib.Data.List.Flatten
import Mathlib.Data.List.Nodup
import ProtoTypeScript.Proofs.DeclaredTypes

/-!
# The table of a list of files

`TypeTable.ofFiles` is the table of files whatever their order of registration leads through: the
records of their types and their exports, the latest first.

* `registerAll_eq_ok_iff`: all files are registered exactly if no map entry of theirs is malformed,
  and the table is then that of the files;
* `find?_ofFiles_eq_some_iff`: with distinct qualified names, a name is found exactly if a file
  declares it;
* `reexportsOf_ofFiles`: with distinct file names, the exports of a file are those it declares.

`TypeTable.registerEach` goes on after a file that cannot be registered. It has the same exports.
-/

namespace ProtoTypeScript

/-! ### Keys without repetition -/

theorem find?_eq_some_iff_mem {α κ : Type} [DecidableEq κ] {key : α → κ} {xs : List α}
    (h : (xs.map key).Nodup) {k : κ} {x : α} :
    xs.find? (fun y => key y = k) = some x ↔ x ∈ xs ∧ key x = k := by
  constructor
  · intro hx
    exact ⟨List.mem_of_find?_eq_some hx, by simpa using List.find?_some hx⟩
  · rintro ⟨hx, rfl⟩
    cases hfind : xs.find? (fun y => key y = key x) with
    | none => simpa using List.find?_eq_none.1 hfind x hx
    | some y =>
      have hkey : key y = key x := by simpa using List.find?_some hfind
      rw [List.inj_on_of_nodup_map h (List.mem_of_find?_eq_some hfind) hx hkey]

theorem filter_eq_singleton_of_mem {α κ : Type} [DecidableEq κ] {key : α → κ} {xs : List α}
    (h : (xs.map key).Nodup) {x : α} (hx : x ∈ xs) : xs.filter (fun y => key y = key x) = [x] := by
  induction xs with
  | nil => exact absurd hx List.not_mem_nil
  | cons y ys ih =>
    rw [List.map_cons, List.nodup_cons] at h
    rcases List.mem_cons.1 hx with rfl | hx
    · rw [List.filter_cons_of_pos (by simp), List.cons.injEq, List.filter_eq_nil_iff]
      refine ⟨rfl, fun z hz hkey => h.1 ?_⟩
      exact of_decide_eq_true hkey ▸ List.mem_map_of_mem hz
    · have hne : key y ≠ key x := fun heq => h.1 (heq ▸ List.mem_map_of_mem hx)
      rw [List.filter_cons_of_neg (by simpa using hne)]
      exact ih h.2 hx

theorem lookup_eq_some_iff_mem {κ β : Type} [DecidableEq κ] {xs : List (κ × β)}
    (h : (xs.map (·.1)).Nodup) {k : κ} {v : β} : xs.lookup k = some v ↔ (k, v) ∈ xs := by
  induction xs with
  | nil => simp
  | cons x xs ih =>
    obtain ⟨a, b⟩ := x
    rw [List.map_cons, List.nodup_cons] at h
    rw [List.lookup_cons, List.mem_cons, ← ih h.2]
    by_cases hk : k = a
    · subst hk
      have hnone : xs.lookup k ≠ some v := by
        rw [Ne, ih h.2]
        exact fun hv => h.1 (List.mem_map.2 ⟨_, hv, rfl⟩)
      simp [hnone, eq_comm]
    · have hbeq : (k == a) = false := by simp [hk]
      simp [hbeq, hk]

theorem nodup_eraseDups {α : Type} [DecidableEq α] (xs : List α) : xs.eraseDups.Nodup := by
  induction hn : xs.length using Nat.strongRecOn generalizing xs with
  | ind n ih =>
    cases xs with
    | nil => exact List.nodup_nil
    | cons x xs =>
      have hlength := List.length_filter_le (fun y => !y == x) xs
      rw [List.length_cons] at hn
      rw [List.eraseDups_cons, List.nodup_cons, List.mem_eraseDups]
      exact ⟨by simp, ih _ (by omega) _ rfl⟩

/-! ### What a file adds to a table -/

namespace FileDescriptor

/-- Every map entry of the file has a scalar key field and a value field. -/
def EntriesWellFormed (f : FileDescriptor) : Prop :=
  ∀ t ∈ f.types, ∃ r, f.record t = .ok r

/-- The records of the file's types, malformed map entries left out. -/
def records (f : FileDescriptor) : List TypeRecord :=
  f.types.filterMap fun t => (f.record t).toOption

/-- The entry that lists what the file exports again, if there is something. -/
def exportEntries (f : FileDescriptor) : List (String × List String) :=
  if f.reexports = [] then [] else [(f.name, f.reexports)]

@[simp] theorem reverse_exportEntries (f : FileDescriptor) :
    f.exportEntries.reverse = f.exportEntries := by
  unfold exportEntries
  split <;> rfl

theorem mem_records_iff {f : FileDescriptor} {r : TypeRecord} :
    r ∈ f.records ↔ ∃ t ∈ f.types, f.record t = .ok r := by
  have hok : ∀ o : Except Error TypeRecord, o.toOption = some r ↔ o = .ok r := fun o => by
    cases o <;> simp [Except.toOption]
  simp only [records, List.mem_filterMap, hok]

theorem EntriesWellFormed.declarations_eq {f : FileDescriptor} (h : f.EntriesWellFormed) :
    f.declarations = f.records.map .ok := by
  have haux : ∀ ts : List DeclaredType, (∀ t ∈ ts, ∃ r, f.record t = .ok r) →
      ts.map f.record = (ts.filterMap fun t => (f.record t).toOption).map .ok := by
    intro ts hts
    induction ts with
    | nil => rfl
    | cons t ts ih =>
      obtain ⟨r, hr⟩ := hts t List.mem_cons_self
      rw [List.map_cons, List.filterMap_cons, hr, ih fun t ht => hts t (List.mem_cons_of_mem _ ht)]
      rfl
  rw [f.declarations_eq, haux f.types h]
  rfl

/-- The records of a file have the names of its types, none twice if no name is declared twice. -/
theorem records_names_sublist (f : FileDescriptor) :
    (f.records.map (·.name)).Sublist f.typeNames := by
  have haux : ∀ ts : List DeclaredType,
      ((ts.filterMap fun t => (f.record t).toOption).map (·.name)).Sublist
        (ts.map f.qualifiedName) := by
    intro ts
    induction ts with
    | nil => exact .slnil
    | cons t ts ih =>
      cases hr : f.record t with
      | error e => simpa [hr, Except.toOption] using ih.cons _
      | ok r => simpa [hr, Except.toOption, (record_eq_ok_iff.1 hr).1] using ih
  exact haux f.types

end FileDescriptor

namespace TypeTable

theorem insertAll_map_ok (t : TypeTable) (rs : List TypeRecord) :
    t.insertAll (rs.map .ok) = ({ t with records := rs.reverse ++ t.records }, none) := by
  induction rs generalizing t with
  | nil => rfl
  | cons r rs ih => simp [insertAll, ih, insert]

theorem insertAll_snd_eq_none_iff (t : TypeTable) (ds : List (Except Error TypeRecord)) :
    (t.insertAll ds).2 = none ↔ ∀ d ∈ ds, ∃ r, d = .ok r := by
  induction ds generalizing t with
  | nil => simp [insertAll]
  | cons d ds ih =>
    cases d with
    | error e => simp [insertAll]
    | ok r => simp [insertAll, ih]

theorem insertAll_reexports (t : TypeTable) (ds : List (Except Error TypeRecord)) :
    (t.insertAll ds).1.reexports = t.reexports := by
  induction ds generalizing t with
  | nil => rfl
  | cons d ds ih =>
    cases d with
    | error e => rfl
    | ok r => rw [insertAll, ih]; rfl

theorem setReexports_eq (t : TypeTable) (f : FileDescriptor) :
    t.setReexports f.name f.reexports = { t with reexports := f.exportEntries ++ t.reexports } := by
  unfold setReexports FileDescriptor.exportEntries
  split <;> rfl

/-- A file is registered to its end exactly if its map entries are well formed. -/
theorem register_snd_eq_none_iff (t : TypeTable) (f : FileDescriptor) :
    (t.register f).2 = none ↔ f.EntriesWellFormed := by
  rw [register, insertAll_snd_eq_none_iff, f.declarations_eq]
  simp [FileDescriptor.EntriesWellFormed]

theorem register_of_wellFormed (t : TypeTable) {f : FileDescriptor} (h : f.EntriesWellFormed) :
    t.register f =
      (⟨f.records.reverse ++ t.records, f.exportEntries ++ t.reexports⟩, none) := by
  rw [register, h.declarations_eq, insertAll_map_ok, setReexports_eq]

/-- The exports of a file are taken up whether or not its types can be registered. -/
theorem register_reexports (t : TypeTable) (f : FileDescriptor) :
    (t.register f).1.reexports = f.exportEntries ++ t.reexports := by
  rw [register, insertAll_reexports, setReexports_eq]

/-! ### The table of all files -/

/-- The records and the exports of files. -/
def ofFiles (files : List FileDescriptor) : TypeTable where
  records := (files.flatMap (·.records)).reverse
  reexports := (files.flatMap (·.exportEntries)).reverse

theorem ofFiles_cons (f : FileDescriptor) (fs : List FileDescriptor) :
    ofFiles (f :: fs) = ⟨(ofFiles fs).records ++ f.records.reverse,
      (ofFiles fs).reexports ++ f.exportEntries⟩ := by
  simp [ofFiles]

/-- The table after every file in turn, each up to its first error. -/
def registerEach (t : TypeTable) (files : List FileDescriptor) : TypeTable :=
  files.foldl (fun t f => (t.register f).1) t

theorem registerAll_cons (t : TypeTable) (f : FileDescriptor) (fs : List FileDescriptor) :
    t.registerAll (f :: fs) =
      match (t.register f).2 with
      | none => (t.register f).1.registerAll fs
      | some e => .error e := by
  rw [registerAll]
  cases h : t.register f with
  | mk t' e => cases e <;> rfl

theorem registerAll_eq_ok_iff_append {t t' : TypeTable} {files : List FileDescriptor} :
    t.registerAll files = .ok t' ↔ (∀ f ∈ files, f.EntriesWellFormed) ∧
      t' = ⟨(ofFiles files).records ++ t.records, (ofFiles files).reexports ++ t.reexports⟩ := by
  induction files generalizing t with
  | nil => simp [registerAll, ofFiles, eq_comm]
  | cons f fs ih =>
    rw [registerAll_cons, List.forall_mem_cons, ← t.register_snd_eq_none_iff f]
    cases h : (t.register f).2 with
    | some e => simp
    | none =>
      have hf := (t.register_snd_eq_none_iff f).1 h
      simp [ih, register_of_wellFormed t hf, ofFiles_cons]

/-- All files are registered exactly if their map entries are well formed. -/
theorem registerAll_eq_ok_iff {t : TypeTable} {files : List FileDescriptor} :
    empty.registerAll files = .ok t ↔ (∀ f ∈ files, f.EntriesWellFormed) ∧ t = ofFiles files := by
  rw [registerAll_eq_ok_iff_append]
  simp [empty]

theorem registerEach_of_registerAll {t t' : TypeTable} {files : List FileDescriptor}
    (h : t.registerAll files = .ok t') : t.registerEach files = t' := by
  induction files generalizing t with
  | nil => simpa [registerAll, registerEach] using h
  | cons f fs ih =>
    rw [registerAll_cons] at h
    cases he : (t.register f).2 with
    | some e => simp [he] at h
    | none => exact ih (by simpa [he] using h)

theorem registerEach_reexports (t : TypeTable) (files : List FileDescriptor) :
    (t.registerEach files).reexports = (ofFiles files).reexports ++ t.reexports := by
  induction files generalizing t with
  | nil => rfl
  | cons f fs ih =>
    have hfs := ih (t.register f).1
    rw [register_reexports, ← List.append_assoc] at hfs
    rw [ofFiles_cons]
    exact hfs

/-! ### What the table of all files answers -/

variable {files : List FileDescriptor}

theorem mem_records_ofFiles_iff {r : TypeRecord} :
    r ∈ (ofFiles files).records ↔ ∃ f ∈ files, ∃ t ∈ f.types, f.record t = .ok r := by
  simp [ofFiles, FileDescriptor.mem_records_iff]

theorem nodup_names_ofFiles (h : (files.flatMap (·.typeNames)).Nodup) :
    ((ofFiles files).records.map (·.name)).Nodup := by
  have hsub := List.Sublist.flatMap_right files fun f _ => f.records_names_sublist
  rw [ofFiles, List.map_reverse, List.nodup_reverse, List.map_flatMap]
  exact h.sublist hsub

theorem find?_ofFiles_eq_some_iff (h : (files.flatMap (·.typeNames)).Nodup) {n : TypeName}
    {r : TypeRecord} : (ofFiles files).find? n = some r ↔
      ∃ f ∈ files, ∃ t ∈ f.types, f.record t = .ok r ∧ r.name = n := by
  rw [find?, find?_eq_some_iff_mem (nodup_names_ofFiles h), mem_records_ofFiles_iff]
  constructor
  · rintro ⟨⟨f, hf, t, ht, hr⟩, hn⟩
    exact ⟨f, hf, t, ht, hr, hn⟩
  · rintro ⟨f, hf, t, ht, hr, hn⟩
    exact ⟨⟨f, hf, t, ht, hr⟩, hn⟩

theorem mem_exports_ofFiles_iff {name : String} {exports : List String} :
    (name, exports) ∈ (ofFiles files).reexports ↔
      ∃ f ∈ files, f.reexports ≠ [] ∧ f.name = name ∧ f.reexports = exports := by
  have hentry : ∀ f : FileDescriptor, (name, exports) ∈ f.exportEntries ↔
      f.reexports ≠ [] ∧ f.name = name ∧ f.reexports = exports := fun f => by
    unfold FileDescriptor.exportEntries
    split_ifs with hf <;> simp [hf, eq_comm]
  simp [ofFiles, hentry]

theorem nodup_exports_ofFiles (h : (files.map (·.name)).Nodup) :
    ((ofFiles files).reexports.map (·.1)).Nodup := by
  have hsub : ((files.flatMap (·.exportEntries)).map (·.1)).Sublist (files.map (·.name)) := by
    rw [List.map_flatMap, ← List.flatMap_singleton' (files.map (·.name)), List.flatMap_map]
    refine List.Sublist.flatMap_right files fun f _ => ?_
    unfold FileDescriptor.exportEntries
    split_ifs <;> simp
  rw [ofFiles, List.map_reverse, List.nodup_reverse]
  exact h.sublist hsub

theorem reexportsOf_ofFiles (h : (files.map (·.name)).Nodup) {f : FileDescriptor}
    (hf : f ∈ files) : (ofFiles files).reexportsOf f.name = f.reexports := by
  rw [reexportsOf]
  cases hl : (ofFiles files).reexports.lookup f.name with
  | some exports =>
    rw [lookup_eq_some_iff_mem (nodup_exports_ofFiles h), mem_exports_ofFiles_iff] at hl
    obtain ⟨g, hg, -, hname, rfl⟩ := hl
    rw [List.inj_on_of_nodup_map h hg hf hname, Option.getD_some]
  | none =>
    by_contra hne
    have hmem : (f.name, f.reexports) ∈ (ofFiles files).reexports :=
      mem_exports_ofFiles_iff.2 ⟨f, hf, fun hnil => hne hnil.symm, rfl, rfl⟩
    rw [(lookup_eq_some_iff_mem (nodup_exports_ofFiles h)).2 hmem] at hl
    cases hl

theorem reexportsOf_ofFiles_of_notMem {name : String} (hname : name ∉ files.map (·.name)) :
    (ofFiles files).reexportsOf name = [] := by
  have hl : (ofFiles files).reexports.lookup name = none := by
    refine List.lookup_eq_none_iff.2 fun entry hentry => ?_
    obtain ⟨f, hf, -, hfile, -⟩ := mem_exports_ofFiles_iff.1 hentry
    have hne : name ≠ entry.1 := fun heq => hname (heq ▸ hfile ▸ List.mem_map_of_mem hf)
    simpa using hne
  rw [reexportsOf, hl, Option.getD_none]

/-! ### What the table holds of one file -/

/-- What a table holds: under each recorded name the latest record. -/
def entries (t : TypeTable) : List TypeRecord :=
  (t.records.map (·.name)).eraseDups.filterMap t.find?

/-- What a table holds of the types of a file. -/
def recordsOf (t : TypeTable) (file : String) : List TypeRecord :=
  t.entries.filter (·.file = file)

theorem mem_of_find?_eq_some {t : TypeTable} {n : TypeName} {r : TypeRecord}
    (h : t.find? n = some r) : r ∈ t.records ∧ r.name = n :=
  ⟨List.mem_of_find?_eq_some h, by simpa using List.find?_some h⟩

theorem mem_entries_iff {t : TypeTable} {r : TypeRecord} :
    r ∈ t.entries ↔ t.find? r.name = some r := by
  rw [entries, List.mem_filterMap]
  constructor
  · rintro ⟨n, -, hn⟩
    rwa [(mem_of_find?_eq_some hn).2]
  · intro h
    have hmem := List.mem_map_of_mem (f := fun r : TypeRecord => r.name) (mem_of_find?_eq_some h).1
    exact ⟨r.name, List.mem_eraseDups.2 hmem, h⟩

theorem nodup_entries (t : TypeTable) : t.entries.Nodup := by
  refine (nodup_eraseDups _).filterMap fun n n' r hn hn' => ?_
  rw [← (mem_of_find?_eq_some hn).2, ← (mem_of_find?_eq_some hn').2]

/-- The later files answer first. -/
theorem find?_ofFiles_append (fs gs : List FileDescriptor) (n : TypeName) :
    (ofFiles (fs ++ gs)).find? n = ((ofFiles gs).find? n).or ((ofFiles fs).find? n) := by
  simp [find?, ofFiles]

/-- A name of its types finds the record of a file, if no later file declares the name. -/
theorem find?_ofFiles_of_mem_records {earlier later : List FileDescriptor} {f : FileDescriptor}
    (hown : f.typeNames.Nodup)
    (hlater : ∀ g ∈ later, g ≠ f → ∀ n ∈ g.typeNames, n ∉ f.typeNames) {r : TypeRecord}
    (hr : r ∈ f.records) : (ofFiles (earlier ++ f :: later)).find? r.name = some r := by
  have hname : ∀ g : FileDescriptor, ∀ r ∈ g.records, r.name ∈ g.typeNames := fun g r hr =>
    g.records_names_sublist.subset (List.mem_map_of_mem hr)
  have hself : (ofFiles [f]).find? r.name = some r := by
    obtain ⟨t, ht, hrecord⟩ := FileDescriptor.mem_records_iff.1 hr
    refine (find?_ofFiles_eq_some_iff (by simpa using hown)).2 ?_
    exact ⟨f, List.mem_singleton_self f, t, ht, hrecord, rfl⟩
  rw [← List.singleton_append, find?_ofFiles_append, find?_ofFiles_append, hself]
  cases hfind : (ofFiles later).find? r.name with
  | none => rfl
  | some r' =>
    -- among the later files only the file itself, once more, declares the name
    obtain ⟨hmem, hrname⟩ := mem_of_find?_eq_some hfind
    obtain ⟨g, hg, t, ht, hr'⟩ := mem_records_ofFiles_iff.1 hmem
    have hr'g := FileDescriptor.mem_records_iff.2 ⟨t, ht, hr'⟩
    have hgf : g = f := by
      by_contra hne
      exact hlater g hg hne r'.name (hname g r' hr'g) (hrname ▸ hname f r hr)
    have hnames := hown.sublist f.records_names_sublist
    rw [List.inj_on_of_nodup_map hnames (hgf ▸ hr'g) hr hrname]
    rfl

/-- The table of all files holds of a file what the file declares, if no other file has its name
and no later one declares a name of its types. -/
theorem recordsOf_ofFiles_perm {earlier later : List FileDescriptor} {f : FileDescriptor}
    (hown : f.typeNames.Nodup) (hearlier : ∀ g ∈ earlier, g ≠ f → g.name ≠ f.name)
    (hlater : ∀ g ∈ later, g ≠ f → g.name ≠ f.name ∧ ∀ n ∈ g.typeNames, n ∉ f.typeNames) :
    ((ofFiles (earlier ++ f :: later)).recordsOf f.name).Perm f.records := by
  have hnodup : f.records.Nodup := (hown.sublist f.records_names_sublist).of_map
  have hother : ∀ g ∈ earlier ++ f :: later, g ≠ f → g.name ≠ f.name := by
    intro g hg hne
    rcases List.mem_append.1 hg with hg | hg
    · exact hearlier g hg hne
    · rcases List.mem_cons.1 hg with rfl | hg
      · exact absurd rfl hne
      · exact (hlater g hg hne).1
  -- neither list repeats a record, so it is enough that they have the same members
  refine (List.perm_ext_iff_of_nodup ((nodup_entries _).filter _) hnodup).2 fun r => ?_
  rw [List.mem_filter, mem_entries_iff, decide_eq_true_eq]
  constructor
  · rintro ⟨hfind, hfile⟩
    obtain ⟨g, hg, t, ht, hr⟩ := mem_records_ofFiles_iff.1 (mem_of_find?_eq_some hfind).1
    have hgf : g = f := by
      by_contra hne
      exact hother g hg hne ((FileDescriptor.record_eq_ok_iff.1 hr).2.1 ▸ hfile)
    exact FileDescriptor.mem_records_iff.2 ⟨t, hgf ▸ ht, hgf ▸ hr⟩
  · intro hr
    obtain ⟨t, -, hrecord⟩ := FileDescriptor.mem_records_iff.1 hr
    refine ⟨?_, (FileDescriptor.record_eq_ok_iff.1 hrecord).2.1⟩
    exact find?_ofFiles_of_mem_records hown (fun g hg hne => (hlater g hg hne).2) hr

end TypeTable

end ProtoTypeScript
