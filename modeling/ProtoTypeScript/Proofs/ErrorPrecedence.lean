import ProtoTypeScript.Proofs.ConfigSettings
import ProtoTypeScript.Proofs.FieldTypes
import ProtoTypeScript.Proofs.FileErrors
import ProtoTypeScript.Proofs.Runs

/-!
# Which error a run reports

A run answers with all files or with one error, if it answers at all. `Request.FailsWith` says what
stops it, one rule for each stage of the run; a rule applies only where no earlier one does:

* `parameter`: the leftmost token of the parameter that is no setting;
* `version`: the version of TypeScript is not supported;
* `mapEntry`: the first malformed map entry, file by file, each message before what is inside it;
* `file`: the first file that gets no tree. Every file starts from the scope without identifiers.

The last rule is also that of runs without an answer: `Request.Overflows` says which these are. The
first field that stops them has a type that leads back to itself through the values of map entries.
`run_eq_error_iff` says that runs fail by these rules and no others, and `respond_outcome` is what
the answer then looks like.
-/

namespace ProtoTypeScript

open Outcome

/-! ### Malformed map entries -/

/-- A message that stands for map entries but does not consist of a scalar key and a value. -/
def DeclaredType.IsMalformedEntry (t : DeclaredType) : Prop :=
  ∃ m, t.descriptor = .message m ∧ m.mapEntry = true ∧
    ¬ ∃ key value, m.fields = [key, value] ∧ key.name = "key" ∧ value.name = "value" ∧
      key.valueType.scalar?.isSome = true

namespace FileDescriptor

variable {f : FileDescriptor} {t : DeclaredType} {e : Error}

/-- A type can be recorded unless it is a malformed map entry. -/
theorem exists_record_iff : (∃ r, f.record t = .ok r) ↔ ¬ t.IsMalformedEntry := by
  have hrecord : (∃ r, f.record t = .ok r) ↔
      ∃ k, t.descriptor.kind (f.qualifiedName t) = .ok k := by
    constructor
    · rintro ⟨r, hr⟩
      exact ⟨r.kind, (record_eq_ok_iff.1 hr).2.2.2.2⟩
    · rintro ⟨k, hk⟩
      exact ⟨_, map_eq_ok_iff.2 ⟨k, hk, rfl⟩⟩
  rw [hrecord]
  unfold DeclaredType.IsMalformedEntry
  cases t.descriptor with
  | enumeration desc =>
    refine iff_of_true ⟨desc.kind, rfl⟩ ?_
    rintro ⟨m, hm, -⟩
    cases hm
  | message m =>
    cases hm : m.mapEntry with
    | false =>
      refine iff_of_true ⟨.message, (TypeDescriptor.kind_message hm).2 rfl⟩ ?_
      rintro ⟨m', hm', hentry, -⟩
      cases hm'
      rw [hm] at hentry
      cases hentry
    | true =>
      simp only [TypeDescriptor.kind_mapEntry hm]
      constructor
      · rintro ⟨k, key, value, hfields, hkey, hvalue, hscalar, -⟩ ⟨m', hm', -, hnot⟩
        cases hm'
        exact hnot ⟨key, value, hfields, hkey, hvalue, hscalar⟩
      · intro hnot
        by_contra hnone
        refine hnot ⟨m, rfl, hm, ?_⟩
        rintro ⟨key, value, hfields, hkey, hvalue, hscalar⟩
        exact hnone ⟨_, key, value, hfields, hkey, hvalue, hscalar, rfl⟩

theorem entryKind_eq_error {q : TypeName} {fields : List FieldDescriptor}
    (h : MessageDescriptor.entryKind q fields = .error e) : e = .malformedMapEntry q.text := by
  unfold MessageDescriptor.entryKind at h
  split at h
  · split_ifs at h
    exact (Except.error.inj h).symm
  · exact (Except.error.inj h).symm

/-- The error of a type that cannot be recorded has the qualified name of that type. -/
theorem record_eq_error_iff : f.record t = .error e ↔
    t.IsMalformedEntry ∧ e = .malformedMapEntry (f.qualifiedName t).text := by
  have herror : ∀ e', f.record t = .error e' →
      e' = .malformedMapEntry (f.qualifiedName t).text := by
    intro e' he'
    have hkind := map_eq_error_iff.1 he'
    cases hd : t.descriptor with
    | enumeration desc =>
      rw [hd] at hkind
      cases hkind
    | message m =>
      rw [hd, TypeDescriptor.kind] at hkind
      split_ifs at hkind
      exact entryKind_eq_error hkind
  -- whether there is an error and which one it is are two questions
  constructor
  · intro h
    refine ⟨?_, herror e h⟩
    by_contra hwell
    obtain ⟨r, hr⟩ := exists_record_iff.2 hwell
    rw [hr] at h
    cases h
  · rintro ⟨hmalformed, rfl⟩
    cases hr : f.record t with
    | ok r => exact absurd hmalformed (exists_record_iff.1 ⟨r, hr⟩)
    | error e' => rw [herror e' hr]

/-- The types of a file are recorded up to the first malformed map entry. -/
theorem record_fails_iff : FirstFailure f.record f.types e ↔
    ∃ earlier t later, f.types = earlier ++ t :: later ∧ (∀ u ∈ earlier, ¬ u.IsMalformedEntry) ∧
      t.IsMalformedEntry ∧ e = .malformedMapEntry (f.qualifiedName t).text := by
  simp only [FirstFailure, exists_record_iff, record_eq_error_iff]

theorem entriesWellFormed_iff : f.EntriesWellFormed ↔ ∀ t ∈ f.types, ¬ t.IsMalformedEntry :=
  forall₂_congr fun _ _ => exists_record_iff

end FileDescriptor

/-! ### The error of a registration -/

namespace TypeTable

/-- Types are recorded up to the first that cannot be. -/
theorem insertAll_snd_eq_some_iff {α : Type} {record : α → Except Error TypeRecord} {ts : List α}
    {t : TypeTable} {e : Error} :
    (t.insertAll (ts.map record)).2 = some e ↔ FirstFailure record ts e := by
  induction ts generalizing t with
  | nil => exact iff_of_false (fun h => nomatch h) not_firstFailure_nil
  | cons x ts ih =>
    rw [List.map_cons, firstFailure_cons_iff]
    cases hx : record x with
    | error e' => simp [insertAll]
    | ok r => simp [insertAll, ih]

theorem register_snd_eq_some_iff {t : TypeTable} {f : FileDescriptor} {e : Error} :
    (t.register f).2 = some e ↔ FirstFailure f.record f.types e := by
  rw [register, f.declarations_eq, insertAll_snd_eq_some_iff]

/-- Files are registered up to the first with a malformed map entry. -/
theorem registerAll_eq_error_iff {t : TypeTable} {files : List FileDescriptor} {e : Error} :
    t.registerAll files = .error e ↔ ∃ before f after, files = before ++ f :: after ∧
      (∀ g ∈ before, g.EntriesWellFormed) ∧ FirstFailure f.record f.types e := by
  induction files generalizing t with
  | nil =>
    refine iff_of_false (fun h => nomatch h) ?_
    rintro ⟨before, f, after, hfiles, -⟩
    simp at hfiles
  | cons g fs ih =>
    rw [registerAll_cons]
    constructor
    · intro h
      -- the first file fails itself, or the files before the failing one begin with it
      cases hg : (t.register g).2 with
      | some e' =>
        rw [hg] at h
        obtain rfl := Except.error.inj h
        exact ⟨[], g, fs, rfl, List.forall_mem_nil _, register_snd_eq_some_iff.1 hg⟩
      | none =>
        rw [hg] at h
        obtain ⟨before, f, after, rfl, hbefore, hf⟩ := ih.1 h
        have hwell := (t.register_snd_eq_none_iff g).1 hg
        exact ⟨g :: before, f, after, rfl, List.forall_mem_cons.2 ⟨hwell, hbefore⟩, hf⟩
    · rintro ⟨before, f, after, hfiles, hbefore, hf⟩
      cases before with
      | nil =>
        obtain ⟨rfl, rfl⟩ := List.cons.inj hfiles
        rw [register_snd_eq_some_iff.2 hf]
      | cons g' before =>
        obtain ⟨rfl, rfl⟩ := List.cons.inj hfiles
        rw [List.forall_mem_cons] at hbefore
        rw [(t.register_snd_eq_none_iff g).2 hbefore.1]
        exact ih.2 ⟨before, f, after, rfl, hbefore.2, hf⟩

end TypeTable

/-! ### Failing runs -/

theorem Config.checkVersion_eq_ok_iff {c : Config} :
    c.checkVersion = .ok () ↔ c.tsVersion.isSupported = true := by
  unfold checkVersion
  split_ifs with h <;> simp [h]

theorem Config.checkVersion_eq_error_iff {c : Config} {e : Error} : c.checkVersion = .error e ↔
    c.tsVersion.isSupported = false ∧ e = .unsupportedTypeScript .minimum c.tsVersion := by
  unfold checkVersion
  cases c.tsVersion.isSupported with
  | true => simp
  | false => simp [eq_comm]

/-- What stops the run of a request. -/
inductive Request.FailsWith (r : Request) : Failure → Prop
  /-- The leftmost token that is no setting decides, whatever the files are. -/
  | parameter {e : Error} (h : FirstFailure Setting.ofToken (Setting.tokens r.parameter) e) :
    FailsWith r (.reported e)
  /-- The version is looked at before any file. -/
  | version {c : Config} (hc : Config.ofParameter r.parameter = .ok c)
    (h : c.tsVersion.isSupported = false) :
    FailsWith r (.reported (.unsupportedTypeScript .minimum c.tsVersion))
  /-- All files are registered before code is generated for any, so a malformed map entry of the
  last file comes before whatever is wrong with the first. -/
  | mapEntry {c : Config} (hc : Config.ofParameter r.parameter = .ok c)
    (hversion : c.tsVersion.isSupported = true) {before after : List FileDescriptor}
    {f : FileDescriptor} (hfiles : r.files = before ++ f :: after)
    (hbefore : ∀ g ∈ before, ∀ t ∈ g.types, ¬ t.IsMalformedEntry)
    {earlier later : List DeclaredType} {t : DeclaredType}
    (htypes : f.types = earlier ++ t :: later) (hearlier : ∀ u ∈ earlier, ¬ u.IsMalformedEntry)
    (ht : t.IsMalformedEntry) :
    FailsWith r (.reported (.malformedMapEntry (f.qualifiedName t).text))
  /-- The first file without a tree decides; no file knows of identifiers of another. -/
  | file {c : Config} (hc : Config.ofParameter r.parameter = .ok c)
    (hversion : c.tsVersion.isSupported = true)
    (hentries : ∀ g ∈ r.files, ∀ t ∈ g.types, ¬ t.IsMalformedEntry) {failure : Failure}
    (h : FirstFailure (SourceFile.ofDescriptor c (.ofFiles r.files) r.compilerVersion) r.files
      failure) : FailsWith r failure

/-- The first thing that stops the run is a field that leads back to itself: the files before its
own have trees, and the fields before it declarations. -/
inductive Request.Overflows (r : Request) : Prop
  | field {c : Config} (hc : Config.ofParameter r.parameter = .ok c)
    (hversion : c.tsVersion.isSupported = true)
    (hentries : ∀ g ∈ r.files, ∀ t ∈ g.types, ¬ t.IsMalformedEntry)
    {before after : List FileDescriptor} {file : FileDescriptor}
    (hfiles : r.files = before ++ file :: after)
    (hbefore : ∀ g ∈ before, ∃ tree,
      SourceFile.ofDescriptor c (.ofFiles r.files) r.compilerVersion g = .ok tree)
    {earlier later : List FieldDescriptor} {f : FieldDescriptor}
    (hfields : file.loweredFields = earlier ++ f :: later)
    (hearlier : ∀ g ∈ earlier, ∃ d,
      (FileScope.ofFile c (.ofFiles r.files) file).fieldDeclaration g = .ok d)
    (hback : (FileScope.ofFile c (.ofFiles r.files) file).LeadsBack f) : Overflows r

namespace Request

variable {r : Request} {failure : Failure}

theorem run_eq_bind (r : Request) : r.run = (do
    let c ← report (Config.ofParameter r.parameter)
    report c.checkVersion
    let table ← report (TypeTable.empty.registerAll r.files)
    let trees ← r.files.mapM (SourceFile.ofDescriptor c table r.compilerVersion)
    return trees.map GeneratedFile.ofSource) := by
  simp only [run, Config.run, Config.trees_eq_bind, bind_assoc]

theorem registerAll_files (hentries : ∀ g ∈ r.files, ∀ t ∈ g.types, ¬ t.IsMalformedEntry) :
    TypeTable.empty.registerAll r.files = .ok (.ofFiles r.files) :=
  TypeTable.registerAll_eq_ok_iff.2
    ⟨fun g hg => FileDescriptor.entriesWellFormed_iff.2 (hentries g hg), rfl⟩

theorem failsWith_of_run_eq_error (h : r.run = .error failure) : r.FailsWith failure := by
  rw [run_eq_bind] at h
  -- the run is a chain of four stages, and an error is that of the first to fail
  rcases bind_eq_error_iff.1 h with hparameter | ⟨c, hc, h⟩
  · obtain ⟨e, he, rfl⟩ := report_eq_error_iff.1 hparameter
    exact .parameter (Config.ofParameter_eq_error_iff.1 he)
  rw [report_eq_ok_iff] at hc
  rcases bind_eq_error_iff.1 h with hversion | ⟨_, hversion, h⟩
  · obtain ⟨e, he, rfl⟩ := report_eq_error_iff.1 hversion
    obtain ⟨hold, rfl⟩ := Config.checkVersion_eq_error_iff.1 he
    exact .version hc hold
  have hsupported := Config.checkVersion_eq_ok_iff.1 (report_eq_ok_iff.1 hversion)
  rcases bind_eq_error_iff.1 h with htable | ⟨table, htable, h⟩
  · obtain ⟨e, he, rfl⟩ := report_eq_error_iff.1 htable
    obtain ⟨before, f, after, hfiles, hbefore, hf⟩ := TypeTable.registerAll_eq_error_iff.1 he
    obtain ⟨earlier, t, later, htypes, hearlier, ht, rfl⟩ := FileDescriptor.record_fails_iff.1 hf
    exact .mapEntry hc hsupported hfiles
      (fun g hg => FileDescriptor.entriesWellFormed_iff.1 (hbefore g hg)) htypes hearlier ht
  obtain ⟨hwell, rfl⟩ := TypeTable.registerAll_eq_ok_iff.1 (report_eq_ok_iff.1 htable)
  rcases bind_eq_error_iff.1 h with htrees | ⟨trees, -, h⟩
  · exact .file hc hsupported (fun g hg => FileDescriptor.entriesWellFormed_iff.1 (hwell g hg))
      (mapM_eq_error_iff.1 htrees)
  · cases h

theorem FailsWith.run_eq_error (h : r.FailsWith failure) : r.run = .error failure := by
  rw [run_eq_bind]
  cases h with
  | parameter h => simp only [Config.ofParameter_eq_error_iff.2 h, report_error, bind, Except.bind]
  | version hc h =>
    simp only [hc, Config.checkVersion_eq_error_iff.2 ⟨h, rfl⟩, report_ok, report_error, bind,
      Except.bind]
  | mapEntry hc hversion hfiles hbefore htypes hearlier ht =>
    have htable := (TypeTable.registerAll_eq_error_iff (t := .empty)).2 ⟨_, _, _, hfiles,
      fun g hg => FileDescriptor.entriesWellFormed_iff.2 (hbefore g hg),
      FileDescriptor.record_fails_iff.2 ⟨_, _, _, htypes, hearlier, ht, rfl⟩⟩
    simp only [hc, Config.checkVersion_eq_ok_iff.2 hversion, htable, report_ok, report_error, bind,
      Except.bind]
  | file hc hversion hentries h =>
    have htrees := mapM_eq_error_iff.2 h
    simp only [hc, Config.checkVersion_eq_ok_iff.2 hversion, registerAll_files hentries, htrees,
      report_ok, bind, Except.bind]

/-- Runs fail by the rules of `FailsWith` and no others. -/
theorem run_eq_error_iff : r.run = .error failure ↔ r.FailsWith failure :=
  ⟨failsWith_of_run_eq_error, FailsWith.run_eq_error⟩

/-! ### Runs without an answer -/

/-- A run uses up the stack exactly if a field that leads back to itself is what stops it. -/
theorem failsWith_stackOverflow_iff : r.FailsWith .stackOverflow ↔ r.Overflows := by
  constructor
  · intro h
    cases h with
    | file hc hversion hentries h =>
      obtain ⟨before, file, after, hfiles, hbefore, hfile⟩ := h
      rcases SourceFile.ofDescriptor_eq_error_iff.1 hfile with hfield | ⟨-, e, hsame, -⟩
      · obtain ⟨earlier, f, later, hfields, hearlier, hf⟩ := hfield
        exact .field hc hversion hentries hfiles hbefore hfields hearlier
          ((FileScope.fieldDeclaration_eq_stackOverflow_iff (.ofFiles r.files)).1 hf)
      · cases hsame
  · rintro ⟨hc, hversion, hentries, hfiles, hbefore, hfields, hearlier, hback⟩
    refine .file hc hversion hentries ⟨_, _, _, hfiles, hbefore, ?_⟩
    refine SourceFile.ofDescriptor_eq_error_iff.2 (.inl ⟨_, _, _, hfields, hearlier, ?_⟩)
    exact (FileScope.fieldDeclaration_eq_stackOverflow_iff (.ofFiles r.files)).2 hback

theorem answer?_eq_none_iff : r.answer? = none ↔ r.Overflows := by
  rw [← failsWith_stackOverflow_iff, ← run_eq_error_iff, answer?]
  cases r.run with
  | ok files => simp [Response.ofOutcome?]
  | error failure => cases failure <;> simp [Response.ofOutcome?]

/-- The files of a response, in the order of the request, are named after the modules. -/
theorem names_of_run_eq_ok {out : List GeneratedFile} (h : r.run = .ok out) :
    out.map (·.name) = r.files.map fun f => (ModulePath.ofFile f.name).fileName ".ts" := by
  obtain ⟨c, -, h⟩ := bind_eq_ok_iff.1 h
  exact Config.names_of_run_eq_ok h

/-- **All or nothing, where there is an answer.** There is none exactly for runs that overflow. A
response has the message of the error that the request fails with and no files, or it has no error
and a file for each of the request, in its order and named after its module. A request fails in one
way at most. -/
theorem respond_outcome (r : Request) : (r.answer? = none ↔ r.Overflows) ∧
    (∀ failure failure', r.FailsWith failure → r.FailsWith failure' → failure = failure') ∧
    ∀ response, r.answer? = some response →
      (∃ e, r.FailsWith (.reported e) ∧ response = ⟨some e.message, []⟩) ∨
      (∀ failure, ¬ r.FailsWith failure) ∧ ∃ files, response = ⟨none, files⟩ ∧
        files.map (·.name) = r.files.map fun f => (ModulePath.ofFile f.name).fileName ".ts" := by
  have hunique : ∀ failure failure', r.FailsWith failure → r.FailsWith failure' →
      failure = failure' := by
    intro failure failure' h h'
    rw [← run_eq_error_iff] at h h'
    exact Except.error.inj (h.symm.trans h')
  refine ⟨answer?_eq_none_iff, hunique, fun response hresponse => ?_⟩
  rw [answer?] at hresponse
  cases h : r.run with
  | ok files =>
    rw [h] at hresponse
    refine .inr ⟨fun failure hfails => ?_, files, (Option.some.inj hresponse).symm,
      names_of_run_eq_ok h⟩
    cases h.symm.trans (run_eq_error_iff.2 hfails)
  | error failure =>
    rw [h] at hresponse
    cases failure with
    | reported e => exact .inl ⟨e, run_eq_error_iff.1 h, (Option.some.inj hresponse).symm⟩
    | stackOverflow => cases hresponse

end Request

def turnsField : FieldDescriptor where
  name? := "turns"
  label? := some 3
  type? := some 11
  typeName? := ".Loop.TurnsEntry"

/-- The values of the map are maps of the same type. -/
def turnsValue : FieldDescriptor where
  name? := "value"
  type? := some 11
  typeName? := ".Loop.TurnsEntry"

def loopFile : FileDescriptor where
  name := "loop.proto"
  messages := [{
    name := "Loop"
    fields := [turnsField]
    nested := [{
      name := "TurnsEntry"
      fields := [{ name? := "key", type? := some 9 }, turnsValue]
      mapEntry := true }] }]

/-- No map entry of the file is malformed, and yet its request has no answer. -/
theorem answer?_eq_none_of_loop : (∀ t ∈ loopFile.types, ¬ t.IsMalformedEntry) ∧
    Request.answer? { files := [loopFile] } = none := by
  have htable : TypeTable.empty.registerAll [loopFile] = .ok (.ofFiles [loopFile]) := rfl
  have hentries : ∀ t ∈ loopFile.types, ¬ t.IsMalformedEntry :=
    FileDescriptor.entriesWellFormed_iff.1
      ((TypeTable.registerAll_eq_ok_iff.1 htable).1 loopFile List.mem_cons_self)
  refine ⟨hentries, Request.answer?_eq_none_iff.2 ?_⟩
  -- whatever the name is resolved to, the value of the entry has the same name as the field
  have hresolve : ∃ r key, (FileScope.ofFile .default (.ofFiles [loopFile]) loopFile).resolve
      ".Loop.TurnsEntry" = .ok r ∧ r.kind = .mapEntry key turnsValue := ⟨_, _, rfl, rfl⟩
  have hfield : (FileScope.ofFile .default (.ofFiles [loopFile]) loopFile).Asks turnsField
    turnsValue := ⟨rfl, hresolve⟩
  have hvalue : (FileScope.ofFile .default (.ofFiles [loopFile]) loopFile).Asks turnsValue
    turnsValue := ⟨rfl, hresolve⟩
  exact .field rfl rfl (List.forall_mem_singleton.2 hentries) rfl (List.forall_mem_nil _) rfl
    (List.forall_mem_nil _) ⟨turnsValue, .single hfield, .single hvalue⟩

end ProtoTypeScript
