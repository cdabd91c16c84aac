import Mathlib.Data.List.Perm.Subperm
import Mathlib.Logic.Relation
import ProtoTypeScript.Proofs.Lowering
import ProtoTypeScript.Proofs.Registration

/-!
# The recursion through map entries

The type of a field whose name leads to a map entry depends on the type of the entry's values, which
may be named by a map entry again. A field `FileScope.LeadsBack` if one of the values that come up
comes up again. Then the recursion has no end; otherwise each value comes up once, so that no more
calls are needed than there are records, and one.

* `TypeTable.EntriesWellFormed` is what every table says of map entries; each registration preserves
  it, also one that fails half-way (`TypeTable.EntriesWellFormed.register`);
* `FileScope.Asks` says which other type the type of a field depends on;
* `fieldType_eq_stackOverflow_iff`: the stack is used up exactly for fields that lead back;
* `fieldType_eq_step`: the bound on the calls is not to be seen, the types of fields solve the
  recursion without one.
-/

namespace ProtoTypeScript

open Outcome

/-! ### What tables say of map entries -/

/-- The record, if of a map entry, is that of a scalar key and a value. -/
def TypeRecord.EntryWellFormed (r : TypeRecord) : Prop :=
  ∀ key value, r.kind = .mapEntry key value →
    key.name = "key" ∧ value.name = "value" ∧ key.valueType.scalar?.isSome = true

theorem FileDescriptor.entryWellFormed_of_record {f : FileDescriptor} {t : DeclaredType}
    {r : TypeRecord} (h : f.record t = .ok r) : r.EntryWellFormed := by
  intro key value hkind
  have hdescriptor := (FileDescriptor.record_eq_ok_iff.1 h).2.2.2.2
  rw [hkind] at hdescriptor
  obtain ⟨m, hm, hentry, -⟩ := TypeDescriptor.exists_of_kind_mapEntry hdescriptor
  rw [hm] at hdescriptor
  obtain ⟨key', value', -, hkey, hvalue, hscalar, heq⟩ :=
    (TypeDescriptor.kind_mapEntry hentry).1 hdescriptor
  cases heq
  exact ⟨hkey, hvalue, hscalar⟩

namespace TypeTable

/-- All records are well formed, those that are hidden by later ones included. -/
def EntriesWellFormed (t : TypeTable) : Prop :=
  ∀ r ∈ t.records, r.EntryWellFormed

namespace EntriesWellFormed

variable {t : TypeTable}

theorem insertAll (h : t.EntriesWellFormed) {ds : List (Except Error TypeRecord)}
    (hds : ∀ r, .ok r ∈ ds → r.EntryWellFormed) : (t.insertAll ds).1.EntriesWellFormed := by
  induction ds generalizing t with
  | nil => exact h
  | cons d ds ih =>
    cases d with
    | error e => exact h
    | ok r =>
      refine ih (fun r' hr' => ?_) fun r' hr' => hds r' (List.mem_cons_of_mem _ hr')
      rcases List.mem_cons.1 hr' with rfl | hr'
      · exact hds r' List.mem_cons_self
      · exact h r' hr'

/-- What a registration leaves behind is well formed, to whichever type it got. -/
theorem register (h : t.EntriesWellFormed) (f : FileDescriptor) :
    (t.register f).1.EntriesWellFormed := by
  have hexports : (t.setReexports f.name f.reexports).EntriesWellFormed := by
    rw [setReexports_eq]
    exact h
  refine hexports.insertAll fun r hr => ?_
  rw [f.declarations_eq] at hr
  obtain ⟨type, -, hrecord⟩ := List.mem_map.1 hr
  exact FileDescriptor.entryWellFormed_of_record hrecord

theorem registerEach (h : t.EntriesWellFormed) (files : List FileDescriptor) :
    (t.registerEach files).EntriesWellFormed := by
  induction files generalizing t with
  | nil => exact h
  | cons f files ih => exact ih (h.register f)

theorem empty : empty.EntriesWellFormed :=
  List.forall_mem_nil _

theorem ofFiles (files : List FileDescriptor) : (ofFiles files).EntriesWellFormed := by
  intro r hr
  obtain ⟨f, -, t, -, hrecord⟩ := mem_records_ofFiles_iff.1 hr
  exact FileDescriptor.entryWellFormed_of_record hrecord

end EntriesWellFormed

/-- The value fields of all recorded map entries. -/
def entryValues (t : TypeTable) : List FieldDescriptor :=
  t.records.filterMap fun r => match r.kind with
    | .mapEntry _ value => some value
    | _ => none

theorem mem_entryValues {t : TypeTable} {r : TypeRecord} (hr : r ∈ t.records)
    {key value : FieldDescriptor} (hkind : r.kind = .mapEntry key value) :
    value ∈ t.entryValues :=
  List.mem_filterMap.2 ⟨r, hr, by rw [hkind]⟩

theorem length_entryValues_le (t : TypeTable) : t.entryValues.length ≤ t.records.length :=
  List.length_filterMap_le _ _

end TypeTable

namespace FileScope

variable {s : FileScope} {f : FieldDescriptor}
  {typeOf typeOf' : FieldDescriptor → Except Failure FieldType}

/-! ### One call -/

/-- The type of `f` depends on that of `value`, which is the value of the entry that `f` names. -/
def Asks (s : FileScope) (f value : FieldDescriptor) : Prop :=
  f.valueType.scalar? = none ∧ ∃ r key, s.resolve f.typeName = .ok r ∧
    r.kind = .mapEntry key value

theorem Asks.mem_entryValues {value : FieldDescriptor} (h : s.Asks f value) :
    value ∈ s.table.entryValues := by
  obtain ⟨-, r, key, hr, hkind⟩ := h
  have hmem := TypeTable.mem_of_find?_eq_some (resolve_eq_ok_iff.1 hr)
  exact TypeTable.mem_entryValues hmem.1 hkind

/-- A call looks at the types of no other fields. -/
theorem fieldTypeStep_congr (h : ∀ value, s.Asks f value → typeOf value = typeOf' value) :
    s.fieldTypeStep typeOf f = s.fieldTypeStep typeOf' f := by
  unfold fieldTypeStep
  cases hscalar : f.valueType.scalar? with
  | some scalar => rfl
  | none =>
    cases hr : s.resolve f.typeName with
    | error e => rfl
    | ok r =>
      cases hkind : r.kind with
      | message => simp only [hkind, report_ok, bind, Except.bind]
      | enumeration zero => simp only [hkind, report_ok, bind, Except.bind]
      | mapEntry key value =>
        -- the one place where another type is asked for
        simp only [hkind, report_ok, bind, Except.bind, h value ⟨hscalar, r, key, hr, hkind⟩]

/-- No call uses up the stack by itself. -/
theorem exists_asks_of_fieldTypeStep_eq_stackOverflow
    (h : s.fieldTypeStep typeOf f = .error .stackOverflow) :
    ∃ value, s.Asks f value ∧ typeOf value = .error .stackOverflow := by
  unfold fieldTypeStep at h
  cases hscalar : f.valueType.scalar? with
  | some scalar => simp [hscalar] at h
  | none =>
    rw [hscalar] at h
    rcases bind_eq_error_iff.1 h with hr | ⟨r, hr, h⟩
    · exact absurd hr (report_ne_stackOverflow _)
    rw [report_eq_ok_iff] at hr
    cases hkind : r.kind with
    | message =>
      rw [hkind] at h
      rcases bind_eq_error_iff.1 h with hname | ⟨name, -, h⟩
      · exact absurd hname (report_ne_stackOverflow _)
      · cases h
    | enumeration zero =>
      rw [hkind] at h
      rcases bind_eq_error_iff.1 h with hname | ⟨name, -, h⟩
      · exact absurd hname (report_ne_stackOverflow _)
      · cases h
    | mapEntry key value =>
      cases hkey : key.valueType.scalar? with
      | none => simp [hkind, hkey] at h
      | some keyType =>
        simp only [hkind, hkey] at h
        rcases bind_eq_error_iff.1 h with hvalue | ⟨type, -, h⟩
        · exact ⟨value, ⟨hscalar, r, key, hr, hkind⟩, hvalue⟩
        · split_ifs at h <;> cases h

section WellFormed

variable (hwell : s.table.EntriesWellFormed)

include hwell

/-- The name of a map entry stands for the map from its key to the type of its value. -/
theorem fieldTypeStep_of_entry {key value : FieldDescriptor} {r : TypeRecord}
    (hscalar : f.valueType.scalar? = none) (hr : s.resolve f.typeName = .ok r)
    (hkind : r.kind = .mapEntry key value) : ∃ keyType, ∀ typeOf, s.fieldTypeStep typeOf f = (do
      let type ← typeOf value
      if type.isMap then .error (.reported (.malformedMapEntry r.name.text))
      else .ok (.map keyType type)) := by
  have hmem := TypeTable.mem_of_find?_eq_some (resolve_eq_ok_iff.1 hr)
  obtain ⟨keyType, hkey⟩ := Option.isSome_iff_exists.1 (hwell r hmem.1 key value hkind).2.2
  refine ⟨keyType, fun typeOf => ?_⟩
  rw [fieldTypeStep, hscalar]
  simp only [hr, report_ok, hkind, hkey, bind, Except.bind]
  rfl

theorem fieldTypeStep_eq_stackOverflow_iff : s.fieldTypeStep typeOf f = .error .stackOverflow ↔
    ∃ value, s.Asks f value ∧ typeOf value = .error .stackOverflow := by
  refine ⟨exists_asks_of_fieldTypeStep_eq_stackOverflow, ?_⟩
  rintro ⟨value, ⟨hscalar, r, key, hr, hkind⟩, hvalue⟩
  obtain ⟨keyType, hstep⟩ := fieldTypeStep_of_entry hwell hscalar hr hkind
  rw [hstep, hvalue]
  rfl

/-- A stack with room for one more call makes no difference, unless it was used up. -/
theorem fieldTypeWithin_succ {calls : ℕ} (h : s.fieldTypeWithin calls f ≠ .error .stackOverflow) :
    s.fieldTypeWithin (calls + 1) f = s.fieldTypeWithin calls f := by
  induction calls generalizing f with
  | zero => exact absurd rfl h
  | succ calls ih =>
    refine fieldTypeStep_congr fun value hasks => ih fun hvalue => h ?_
    exact (fieldTypeStep_eq_stackOverflow_iff hwell).2 ⟨value, hasks, hvalue⟩

end WellFormed

/-! ### Fields that lead back -/

/-- Among the values that the type of `f` depends on, one depends on itself. -/
def LeadsBack (s : FileScope) (f : FieldDescriptor) : Prop :=
  ∃ value, Relation.ReflTransGen s.Asks f value ∧ Relation.TransGen s.Asks value value

theorem LeadsBack.exists_asks (h : s.LeadsBack f) :
    ∃ value, s.Asks f value ∧ s.LeadsBack value := by
  obtain ⟨value, hreach, hback⟩ := h
  rcases hreach.cases_head with rfl | ⟨first, hasks, hrest⟩
  · obtain ⟨first, hasks, hrest⟩ := Relation.TransGen.head'_iff.1 hback
    exact ⟨first, hasks, f, hrest, hback⟩
  · exact ⟨first, hasks, value, hrest, hback⟩

/-- A stack that is used up holds one value for each call. -/
theorem exists_chain_of_stackOverflow {calls : ℕ}
    (h : s.fieldTypeWithin calls f = .error .stackOverflow) :
    ∃ values : List FieldDescriptor, values.length = calls ∧ (f :: values).IsChain s.Asks := by
  induction calls generalizing f with
  | zero => exact ⟨[], rfl, .singleton f⟩
  | succ calls ih =>
    obtain ⟨value, hasks, hvalue⟩ := exists_asks_of_fieldTypeStep_eq_stackOverflow h
    obtain ⟨values, hlength, hchain⟩ := ih hvalue
    exact ⟨value :: values, congrArg Nat.succ hlength, List.isChain_cons_cons.2 ⟨hasks, hchain⟩⟩

/-- More calls than there are records do not have a value each. -/
theorem leadsBack_of_stackOverflow {calls : ℕ} (hcalls : s.table.records.length < calls)
    (h : s.fieldTypeWithin calls f = .error .stackOverflow) : s.LeadsBack f := by
  obtain ⟨values, hlength, hchain⟩ := exists_chain_of_stackOverflow h
  have hreach : (f :: values).Pairwise (Relation.TransGen s.Asks) :=
    (hchain.imp fun _ _ => Relation.TransGen.single).pairwise
  obtain ⟨hfirst, hrest⟩ := List.pairwise_cons.1 hreach
  by_contra hnone
  have hnodup : values.Nodup := by
    refine hrest.imp_of_mem ?_
    rintro value _ hvalue _ hback rfl
    exact hnone ⟨value, (hfirst value hvalue).to_reflTransGen, hback⟩
  have hmem : ∀ value ∈ values, value ∈ s.table.entryValues := by
    intro value hvalue
    obtain ⟨before, -, hasks⟩ := Relation.TransGen.tail'_iff.1 (hfirst value hvalue)
    exact hasks.mem_entryValues
  have hle := (hnodup.subperm hmem).length_le
  have hrecords := s.table.length_entryValues_le
  omega

section WellFormed

variable (hwell : s.table.EntriesWellFormed)

include hwell

theorem LeadsBack.fieldTypeWithin (h : s.LeadsBack f) (calls : ℕ) :
    s.fieldTypeWithin calls f = .error .stackOverflow := by
  induction calls generalizing f with
  | zero => rfl
  | succ calls ih =>
    obtain ⟨value, hasks, hback⟩ := h.exists_asks
    exact (fieldTypeStep_eq_stackOverflow_iff hwell).2 ⟨value, hasks, ih hback⟩

/-- The stack is used up exactly for fields that lead back, and for these however large it is. -/
theorem fieldTypeWithin_eq_stackOverflow_iff {calls : ℕ}
    (hcalls : s.table.records.length < calls) :
    s.fieldTypeWithin calls f = .error .stackOverflow ↔ s.LeadsBack f :=
  ⟨leadsBack_of_stackOverflow hcalls, fun h => h.fieldTypeWithin hwell calls⟩

theorem fieldType_eq_stackOverflow_iff :
    s.fieldType f = .error .stackOverflow ↔ s.LeadsBack f := by
  obtain ⟨calls, hle, hcalls⟩ := s.exists_fieldType_eq
  rw [hcalls]
  exact fieldTypeWithin_eq_stackOverflow_iff hwell (by omega)

/-- Declarations of fields ask for no other types. -/
theorem fieldDeclaration_eq_stackOverflow_iff :
    s.fieldDeclaration f = .error .stackOverflow ↔ s.LeadsBack f := by
  rw [← fieldType_eq_stackOverflow_iff hwell, fieldDeclaration, bind_eq_error_iff]
  refine or_iff_left ?_
  rintro ⟨type, -, h⟩
  rcases bind_eq_error_iff.1 h with hdefault | ⟨value, -, h⟩
  · exact report_ne_stackOverflow _ hdefault
  · cases h

/-- The types of fields solve the recursion that has no bound. -/
theorem fieldType_eq_step (f : FieldDescriptor) :
    s.fieldType f = s.fieldTypeStep s.fieldType f := by
  obtain ⟨calls, hle, hcalls⟩ := s.exists_fieldType_eq
  -- one call less gives the same types, to fields that lead back as to all others
  have hsame : s.fieldTypeWithin (calls + 1) = s.fieldTypeWithin (calls + 2) := by
    funext g
    by_cases hback : s.LeadsBack g
    · rw [hback.fieldTypeWithin hwell, hback.fieldTypeWithin hwell]
    · have hne := (fieldTypeWithin_eq_stackOverflow_iff hwell (Nat.lt_succ_of_le hle)).not.2 hback
      exact (fieldTypeWithin_succ hwell hne).symm
  rw [hcalls]
  conv_rhs => rw [← hsame]
  rfl

end WellFormed

end FileScope

end ProtoTypeScript
