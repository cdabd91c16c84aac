import Mathlib.Data.Fintype.EquivFin
import Mathlib.Order.WellFounded
import ProtoTypeScript.Proofs.FieldTypes

/-!
# Map entries

The values of a map may be of any type but a map, and the type of a field is found by way of the
entries that its name leads to.

* `TypeTable.Follows` leads from a map entry to the type of its values, and a table is
  `TypeTable.Acyclic` if no type is reached again from itself;
* in an acyclic table `FileScope.Asks` is well-founded, so no field leads back to itself and
  `FileScope.fieldType` is the one solution of the recursion without a bound
  (`FileScope.eq_fieldType`);
* `FileScope.fieldType_of_leadsThrough`: of entries inside entries the last but one is blamed.
-/

namespace ProtoTypeScript

namespace TypeTable

/-! ### Chains of map entries -/

/-- The type of the values of a map entry, if it is named. -/
def valueRecord? (t : TypeTable) (r : TypeRecord) : Option TypeRecord :=
  match r.kind with
  | .mapEntry _ value =>
    if value.valueType.scalar? = none then t.find? (.ofReference value.typeName) else none
  | _ => none

/-- The values of the map entry `r` are of the type `r'`. -/
def Follows (t : TypeTable) (r r' : TypeRecord) : Prop :=
  t.valueRecord? r = some r'

/-- No map entry is reached again from the type of its values. -/
def Acyclic (t : TypeTable) : Prop :=
  ∀ r, ¬ Relation.TransGen t.Follows r r

variable {t : TypeTable}

theorem follows_of_entry {r r' : TypeRecord} {key value : FieldDescriptor}
    (hkind : r.kind = .mapEntry key value) (hscalar : value.valueType.scalar? = none)
    (hfind : t.find? (.ofReference value.typeName) = some r') : t.Follows r r' := by
  rw [Follows, valueRecord?, hkind]
  exact (if_pos hscalar).trans hfind

theorem Follows.mem_records {r r' : TypeRecord} (h : t.Follows r r') : r' ∈ t.records := by
  unfold Follows valueRecord? at h
  split at h
  · split_ifs at h
    exact (mem_of_find?_eq_some h).1
  · cases h

/-- A number that gets smaller from each entry to the type of its values rules out cycles. -/
theorem acyclic_of_rank (rank : TypeRecord → ℕ)
    (h : ∀ r ∈ t.records, ∀ r' ∈ t.valueRecord? r, rank r' < rank r) : t.Acyclic := by
  intro r hcycle
  have hless : ∀ r', Relation.TransGen t.Follows r r' → r ∈ t.records → rank r' < rank r := by
    intro r' hr' hmem
    induction hr' with
    | single hstep => exact h _ hmem _ hstep
    | tail hbefore hstep ih =>
      obtain ⟨_, -, hlast⟩ := Relation.TransGen.tail'_iff.1 hbefore
      exact (h _ hlast.mem_records _ hstep).trans ih
  obtain ⟨_, -, hlast⟩ := Relation.TransGen.tail'_iff.1 hcycle
  exact (hless r hcycle hlast.mem_records).false

/-- From no type does a chain go on for ever. -/
theorem Acyclic.wellFounded (h : t.Acyclic) : WellFounded (flip t.Follows) := by
  have hfinite : Finite {r // r ∈ t.records} := inferInstance
  have hirrefl : Std.Irrefl (fun a b : {r // r ∈ t.records} =>
      Relation.TransGen t.Follows b.1 a.1) := ⟨fun a ha => h a.1 ha⟩
  have htrans : IsTrans {r // r ∈ t.records} (fun a b => Relation.TransGen t.Follows b.1 a.1) :=
    ⟨fun a b c hab hbc => hbc.trans hab⟩
  have hrecords := Finite.wellFounded_of_trans_of_irrefl
    (fun a b : {r // r ∈ t.records} => Relation.TransGen t.Follows b.1 a.1)
  have hacc : ∀ r : {r // r ∈ t.records}, Acc (flip t.Follows) r.1 := by
    intro r
    induction r using hrecords.induction with
    | _ r ih => exact ⟨_, fun r' hr' => ih ⟨r', hr'.mem_records⟩ (.single hr')⟩
  exact ⟨fun r => ⟨_, fun r' hr' => hacc ⟨r', hr'.mem_records⟩⟩⟩

end TypeTable

/-! ### The recursion through map entries -/

namespace FileScope

variable {s : FileScope}

/-- The name of `f` leads to the first of the entries, the value of each to the next one, and the
value of the last is the field at the end. -/
inductive LeadsThrough (s : FileScope) :
    FieldDescriptor → List TypeRecord → FieldDescriptor → Prop
  | nil (f : FieldDescriptor) : LeadsThrough s f [] f
  | cons {f key value last : FieldDescriptor} {r : TypeRecord} {entries : List TypeRecord}
      (hscalar : f.valueType.scalar? = none) (hr : s.resolve f.typeName = .ok r)
      (hkind : r.kind = .mapEntry key value) (hrest : LeadsThrough s value entries last) :
      LeadsThrough s f (r :: entries) last

theorem LeadsThrough.of_cons {f last : FieldDescriptor} {r : TypeRecord}
    {entries : List TypeRecord} (h : s.LeadsThrough f (r :: entries) last) :
    f.valueType.scalar? = none ∧ s.resolve f.typeName = .ok r ∧ ∃ key value,
      r.kind = .mapEntry key value ∧ s.LeadsThrough value entries last := by
  cases h with
  | cons hscalar hr hkind hrest => exact ⟨hscalar, hr, _, _, hkind, hrest⟩

section Acyclic

variable (h : s.table.Acyclic)

include h

/-- Asking for the values of map entries comes to an end. -/
theorem wellFounded_asks : WellFounded (flip s.Asks) := by
  have hentry : ∀ r : TypeRecord, ∀ key value, r.kind = .mapEntry key value →
      Acc (flip s.Asks) value := by
    intro r
    induction r using h.wellFounded.induction with
    | _ r ih =>
      refine fun key value hkind => ⟨_, fun value' hasks => ?_⟩
      obtain ⟨hscalar, r', key', hr', hkind'⟩ := hasks
      have hfollows : s.table.Follows r r' :=
        TypeTable.follows_of_entry hkind hscalar (resolve_eq_ok_iff.1 hr')
      exact ih r' hfollows key' value' hkind'
  refine ⟨fun f => ⟨_, fun value hasks => ?_⟩⟩
  obtain ⟨-, r, key, -, hkind⟩ := hasks
  exact hentry r key value hkind

/-- What is asked for is never the same again. -/
theorem not_leadsBack (f : FieldDescriptor) : ¬ s.LeadsBack f := by
  rintro ⟨value, -, hback⟩
  exact (wellFounded_asks h).transGen.irrefl.irrefl value (Relation.transGen_swap.1 hback)

variable (hwell : s.table.EntriesWellFormed)

include hwell

/-- The recursion has no other solution. -/
theorem eq_fieldType {typeOf : FieldDescriptor → Except Failure FieldType}
    (htype : ∀ f, typeOf f = s.fieldTypeStep typeOf f) : typeOf = s.fieldType := by
  funext f
  induction f using (wellFounded_asks h).induction with
  | _ f ih =>
    rw [htype, fieldType_eq_step hwell]
    exact fieldTypeStep_congr fun value hasks => ih value hasks

end Acyclic

/-! ### Which entry is blamed -/

/-- Of map entries inside map entries the last but one is blamed: its values are the first that turn
out to be maps. -/
theorem fieldType_of_leadsThrough (hwell : s.table.EntriesWellFormed) {before : List TypeRecord}
    {blamed last : TypeRecord} {f value : FieldDescriptor}
    (hthrough : s.LeadsThrough f (before ++ [blamed, last]) value)
    {type : FieldType} (htype : s.fieldType value = .ok type) (hmap : type.isMap = false) :
    s.fieldType f = .error (.reported (.malformedMapEntry blamed.name.text)) := by
  -- the error of the inner entries is that of all around them
  induction before generalizing f with
  | nil =>
    obtain ⟨hscalar, hr, _, inner, hkind, hrest⟩ := hthrough.of_cons
    obtain ⟨hscalar', hr', _, _, hkind', hend⟩ := hrest.of_cons
    cases hend
    obtain ⟨_, hf⟩ := fieldTypeStep_of_entry hwell hscalar hr hkind
    obtain ⟨keyType, hinner⟩ := fieldTypeStep_of_entry hwell hscalar' hr' hkind'
    have htypeInner : s.fieldType inner = .ok (.map keyType type) := by
      rw [fieldType_eq_step hwell, hinner, htype]
      exact if_neg (by simp [hmap])
    rw [fieldType_eq_step hwell, hf, htypeInner]
    rfl
  | cons entry before ih =>
    obtain ⟨hscalar, hr, _, inner, hkind, hrest⟩ := hthrough.of_cons
    obtain ⟨_, hf⟩ := fieldTypeStep_of_entry hwell hscalar hr hkind
    rw [fieldType_eq_step hwell, hf, ih hrest]
    rfl

/-- The values of a map are no maps. -/
theorem isMap_of_fieldType_eq_map {f : FieldDescriptor} {keyType : Scalar} {valueType : FieldType}
    (h : s.fieldType f = .ok (.map keyType valueType)) : valueType.isMap = false := by
  cases fieldType_eq_ok_iff.1 h with
  | map _ _ _ _ _ hmap => exact hmap

end FileScope

/-- **Map entries are well formed and maps do not nest.** After any registrations, those that fail
included, each map entry has a scalar `key` and a `value`, so that no reference leads to an entry
with another key. If no map entry is reached again from the type of its values, the types of fields
are found in finitely many steps, each of which is one of the recursion without a bound, and never
use up the stack; the values of a map are no maps; and of two or more entries inside each other the
last but one is blamed. -/
theorem maps_do_not_nest {files : List FileDescriptor} {s : FileScope}
    (htable : s.table = TypeTable.empty.registerEach files) :
    (∀ r ∈ s.table.records, ∀ key value, r.kind = .mapEntry key value →
      key.name = "key" ∧ value.name = "value" ∧ key.valueType.scalar?.isSome = true) ∧
    (∀ typeName r key value, s.resolve typeName = .ok r → r.kind = .mapEntry key value →
      key.valueType.scalar? ≠ none) ∧
    (s.table.Acyclic →
      WellFounded (flip s.Asks) ∧ (∀ f, s.fieldType f ≠ .error .stackOverflow) ∧
      (∀ typeOf, (∀ f, typeOf f = s.fieldTypeStep typeOf f) ↔ typeOf = s.fieldType) ∧
      (∀ f keyType valueType, s.fieldType f = .ok (.map keyType valueType) →
        valueType.isMap = false) ∧
      ∀ f before blamed last value type, s.LeadsThrough f (before ++ [blamed, last]) value →
        s.fieldType value = .ok type → type.isMap = false →
        s.fieldType f = .error (.reported (.malformedMapEntry blamed.name.text))) := by
  have hwell : s.table.EntriesWellFormed := htable ▸ .registerEach .empty files
  refine ⟨hwell, fun typeName r key value hr hkind => ?_, fun h => ⟨FileScope.wellFounded_asks h,
    fun f => ?_, fun typeOf => ⟨FileScope.eq_fieldType h hwell, ?_⟩, fun f keyType valueType => ?_,
    fun f before blamed last value type hthrough htype hmap => ?_⟩⟩
  · have hmem := TypeTable.mem_of_find?_eq_some (FileScope.resolve_eq_ok_iff.1 hr)
    exact Option.isSome_iff_ne_none.1 (hwell r hmem.1 key value hkind).2.2
  · exact (FileScope.fieldType_eq_stackOverflow_iff hwell).not.2 (FileScope.not_leadsBack h f)
  · rintro rfl
    exact FileScope.fieldType_eq_step hwell
  · exact FileScope.isMap_of_fieldType_eq_map
  · exact FileScope.fieldType_of_leadsThrough hwell hthrough htype hmap

def streamKey : FieldDescriptor where
  name? := "key"
  type? := some 9

def streamValue (typeName : String) : FieldDescriptor where
  name? := "value"
  type? := some 11
  typeName? := typeName

def streamLength : FieldDescriptor where
  name? := "value"
  type? := some 13

def streamEntry (name : String) (value : FieldDescriptor) : MessageDescriptor where
  name := name
  fields := [streamKey, value]
  mapEntry := true

/-- The entries of the first file lead back to where they start. The second file breaks the cycle,
and its last entry is malformed. -/
def streamFiles : List FileDescriptor :=
  [{ name := "source.proto"
     messages := [streamEntry "Spring" (streamValue ".Brook"),
      streamEntry "Brook" (streamValue ".River"), streamEntry "River" (streamValue ".Spring")] },
    { name := "mouth.proto"
      messages := [streamEntry "River" streamLength, { name := "Dry", mapEntry := true }] }]

def streamScope : FileScope :=
  .ofFile .default (TypeTable.empty.registerEach streamFiles) { name := "source.proto" }

def streamRecord (file name : String) (value : FieldDescriptor) : TypeRecord :=
  .of file "" [] name (.mapEntry streamKey value)

theorem acyclic_stream : streamScope.table.Acyclic :=
  TypeTable.acyclic_of_rank (fun r => if r.file = "mouth.proto" then 0
    else ["Brook", "Spring", "River"].idxOf (r.path.headD "") + 1) (by decide +kernel)

theorem maps_do_not_nest_stream :
    streamScope.table.Acyclic ∧
    streamScope.fieldType (streamValue ".Spring") =
      .error (.reported (.malformedMapEntry ".Brook")) := by
  have hthrough : streamScope.LeadsThrough (streamValue ".Spring")
      [streamRecord "source.proto" "Spring" (streamValue ".Brook"),
        streamRecord "source.proto" "Brook" (streamValue ".River"),
        streamRecord "mouth.proto" "River" streamLength] streamLength :=
    .cons rfl (by decide +kernel) rfl <| .cons rfl (by decide +kernel) rfl <|
      .cons rfl (by decide +kernel) rfl <| .nil _
  have htable : streamScope.table = TypeTable.empty.registerEach streamFiles := rfl
  obtain ⟨-, -, -, -, hblamed⟩ := (maps_do_not_nest htable).2.2 acyclic_stream
  exact ⟨acyclic_stream,
    hblamed _ [_] _ _ _ (.scalar .uint32) hthrough (by decide +kernel) rfl⟩

end ProtoTypeScript
