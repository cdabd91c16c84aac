import Mathlib.Data.List.Nodup
import Mathlib.Data.List.Perm.Basic
import ProtoTypeScript.Proofs.Lowering

/-!
# Groups of oneofs

The members of a oneof are collected by its position, and what a oneof takes is gone for those after
it. With positions in range this comes to the following.

* `oneofDeclarations_eq`: the oneofs with a member, in declared order, each with the numbers of its
  members in declared order;
* `oneofDeclarations_perm`: every member of a oneof is in one group, once;
* `oneofPosition?_eq`: the oneof declared at a position is found at its place among those that are
  left.
-/

namespace ProtoTypeScript

/-! ### Members -/

/-- The field is a member of the oneof declared at the position. -/
def FieldDescriptor.isMemberAt (f : FieldDescriptor) (position : Nat) : Bool :=
  !f.proto3Optional && f.oneofIndex?.any fun i => i.toInt == (position : Int)

/-- The field is a member of a oneof. -/
def FieldDescriptor.isMember (f : FieldDescriptor) : Bool :=
  !f.proto3Optional && f.oneofIndex?.isSome

/-- The numbers of the members of the oneof declared at the position. -/
def MessageDescriptor.oneofNumbers (d : MessageDescriptor) (position : Nat) : List Int32 :=
  (d.fields.filter (·.isMemberAt position)).map (·.number)

/-- Members of oneofs refer to oneofs that are declared. -/
def MessageDescriptor.OneofsInRange (d : MessageDescriptor) : Prop :=
  ∀ f ∈ d.fields, f.proto3Optional = false → ∀ i, f.oneofIndex? = some i →
    0 ≤ i.toInt ∧ i.toInt < d.oneofs.length

instance (d : MessageDescriptor) : Decidable d.OneofsInRange :=
  decidable_of_iff (∀ f ∈ d.fields, f.proto3Optional = false →
    f.oneofIndex?.all (fun i => decide (0 ≤ i.toInt ∧ i.toInt < (d.oneofs.length : Int))) = true)
    (by simp only [MessageDescriptor.OneofsInRange, Option.all_eq_true, decide_eq_true_eq])

theorem FieldDescriptor.memberOf?_eq_some_iff {f : FieldDescriptor} {i : Int32} :
    f.memberOf? = some i ↔ f.proto3Optional = false ∧ f.oneofIndex? = some i := by
  cases h : f.proto3Optional <;> simp [memberOf?, h]

theorem FieldDescriptor.isMemberAt_iff {f : FieldDescriptor} {position : Nat} :
    f.isMemberAt position = true ↔ ∃ i, f.memberOf? = some i ∧ i.toInt = position := by
  simp [isMemberAt, memberOf?_eq_some_iff, Option.any_eq_true, and_assoc]

theorem FieldDescriptor.isMember_iff {f : FieldDescriptor} :
    f.isMember = true ↔ f.memberOf?.isSome = true := by
  cases h : f.proto3Optional <;> simp [isMember, memberOf?, h]

namespace FileScope

/-! ### One group after the other -/

/-- The positions of members are in a range. -/
def PositionsWithin (members : List (Int32 × Int32)) (first last : Nat) : Prop :=
  ∀ x ∈ members, (first : Int) ≤ x.1.toInt ∧ x.1.toInt < last

/-- The numbers of the members at a position. -/
def numbersAt (members : List (Int32 × Int32)) (position : Nat) : List Int32 :=
  (members.filter (·.1.toInt == (position : Int))).map (·.2)

/-- The declaration of the oneof at a position, if it has a member. -/
def groupAt? (members : List (Int32 × Int32)) (name : String) (position : Nat) :
    Option OneofDeclaration :=
  if numbersAt members position = [] then none
  else some ⟨name, Int32.ofNat position, numbersAt members position⟩

section

variable {members : List (Int32 × Int32)} {index last : Nat}

theorem toInt_ofNat_of_within (h : PositionsWithin members index last) {x : Int32 × Int32}
    (hx : x ∈ members) : (Int32.ofNat index).toInt = index := by
  obtain ⟨hfirst, -⟩ := h x hx
  have hbound := x.1.toInt_lt
  exact Int32.toInt_ofNat_of_lt (by omega)

/-- Positions are compared as numbers of 32 bits, which makes no difference in range. -/
theorem beq_position (h : PositionsWithin members index last) {x : Int32 × Int32}
    (hx : x ∈ members) : (x.1 == Int32.ofNat index) = (x.1.toInt == (index : Int)) := by
  rw [Bool.eq_iff_iff, beq_iff_eq, beq_iff_eq, ← Int32.toInt_inj, toInt_ofNat_of_within h hx]

theorem taken_eq (h : PositionsWithin members index last) :
    (members.filter (·.1 == Int32.ofNat index)).map (·.2) = numbersAt members index := by
  rw [numbersAt, List.filter_congr fun x hx => beq_position h hx]

theorem positionsWithin_rest (h : PositionsWithin members index last) :
    PositionsWithin (members.filter (·.1 != Int32.ofNat index)) (index + 1) last := by
  intro x hx
  obtain ⟨hmem, hne⟩ := List.mem_filter.1 hx
  obtain ⟨hfirst, hlast⟩ := h x hmem
  rw [bne, beq_position h hmem, Bool.not_eq_true', beq_eq_false_iff_ne] at hne
  omega

/-- The positions that a oneof leaves are those of the names behind it. -/
theorem positionsWithin_tail {name : String} {names : List String}
    (h : PositionsWithin members index (index + (name :: names).length)) :
    PositionsWithin (members.filter (·.1 != Int32.ofNat index)) (index + 1)
      (index + 1 + names.length) := by
  have hlast : index + (name :: names).length = index + 1 + names.length := by
    rw [List.length_cons]
    omega
  exact hlast ▸ positionsWithin_rest h

/-- What a oneof takes stands at its own position only. -/
theorem numbersAt_rest (h : PositionsWithin members index last) {position : Nat}
    (hposition : index < position) :
    numbersAt (members.filter (·.1 != Int32.ofNat index)) position =
      numbersAt members position := by
  rw [numbersAt, numbersAt, List.filter_filter]
  refine congrArg _ (List.filter_congr fun x hx => ?_)
  rw [bne, beq_position h hx]
  by_cases hx' : x.1.toInt = position
  · have hne : (position : Int) ≠ index := by omega
    simp [hx', hne]
  · simp [hx']

end

theorem oneofDeclarationsFrom_eq {members : List (Int32 × Int32)} {index : Nat}
    {names : List String} (h : PositionsWithin members index (index + names.length)) :
    oneofDeclarationsFrom members index names =
      (names.zipIdx index).filterMap fun entry => groupAt? members entry.1 entry.2 := by
  -- what the first oneof leaves behind is in range of the names behind it
  induction names generalizing members index with
  | nil => rfl
  | cons name names ih =>
    have hrest : oneofDeclarationsFrom (members.filter (·.1 != Int32.ofNat index)) (index + 1)
        names = (names.zipIdx (index + 1)).filterMap fun entry =>
          groupAt? members entry.1 entry.2 := by
      rw [ih (positionsWithin_tail h)]
      refine List.filterMap_congr fun entry hentry => ?_
      have hlt : index < entry.2 := List.le_snd_of_mem_zipIdx hentry
      rw [groupAt?, groupAt?, numbersAt_rest h hlt]
    rw [oneofDeclarationsFrom, List.zipIdx_cons, List.filterMap_cons, hrest]
    dsimp only
    rw [taken_eq h, groupAt?]
    split_ifs <;> rfl

/-- Positions grow along the groups. -/
theorem pairwise_oneofDeclarationsFrom {members : List (Int32 × Int32)} {index : Nat}
    {names : List String} (h : PositionsWithin members index (index + names.length)) :
    (∀ oneof ∈ oneofDeclarationsFrom members index names, (index : Int) ≤ oneof.index.toInt) ∧
      (oneofDeclarationsFrom members index names).Pairwise (·.index.toInt < ·.index.toInt) := by
  induction names generalizing members index with
  | nil => exact ⟨List.forall_mem_nil _, .nil⟩
  | cons name names ih =>
    obtain ⟨hfirst, hpairwise⟩ := ih (positionsWithin_tail h)
    -- the first group, if there is one, is in front of all that are left
    have hafter : ∀ oneof ∈ oneofDeclarationsFrom (members.filter (·.1 != Int32.ofNat index))
        (index + 1) names, (index : Int) < oneof.index.toInt := by
      intro oneof honeof
      have hle := hfirst oneof honeof
      omega
    rw [oneofDeclarationsFrom]
    split_ifs with htaken
    · exact ⟨fun oneof honeof => Int.le_of_lt (hafter oneof honeof), hpairwise⟩
    · obtain ⟨x, hx⟩ := List.exists_mem_of_ne_nil _ htaken
      obtain ⟨member, hmember, -⟩ := List.mem_map.1 hx
      have hindex := toInt_ofNat_of_within h (List.mem_of_mem_filter hmember)
      rw [List.forall_mem_cons, List.pairwise_cons, hindex]
      exact ⟨⟨Int.le_refl _, fun oneof honeof => Int.le_of_lt (hafter oneof honeof)⟩, hafter,
        hpairwise⟩

/-- Every member is taken by one oneof. -/
theorem perm_oneofDeclarationsFrom {members : List (Int32 × Int32)} {index : Nat}
    {names : List String} (h : PositionsWithin members index (index + names.length)) :
    ((oneofDeclarationsFrom members index names).flatMap (·.members)).Perm
      (members.map (·.2)) := by
  induction names generalizing members index with
  | nil =>
    have hnil : members = [] := by
      refine List.eq_nil_iff_forall_not_mem.2 fun x hx => ?_
      obtain ⟨hfirst, hlast⟩ := h x hx
      rw [List.length_nil] at hlast
      omega
    rw [hnil]
    exact .nil
  | cons name names ih =>
    have hrest := ih (positionsWithin_tail h)
    -- what the first oneof takes and what it leaves are all members
    have hsplit : ((members.filter (·.1 == Int32.ofNat index)).map (·.2) ++
        (members.filter (·.1 != Int32.ofNat index)).map (·.2)).Perm (members.map (·.2)) := by
      rw [← List.map_append]
      exact (List.filter_append_perm (·.1 == Int32.ofNat index) members).map _
    refine .trans ?_ hsplit
    rw [oneofDeclarationsFrom]
    split_ifs with htaken
    · rw [htaken, List.nil_append]
      exact hrest
    · rw [List.flatMap_cons]
      exact hrest.append_left _

/-- Names and members are those that were given, in range or not. -/
theorem mem_oneofDeclarationsFrom {members : List (Int32 × Int32)} {index : Nat}
    {names : List String} {oneof : OneofDeclaration}
    (h : oneof ∈ oneofDeclarationsFrom members index names) :
    oneof.name ∈ names ∧ ∀ n ∈ oneof.members, n ∈ members.map (·.2) := by
  induction names generalizing members index with
  | nil => cases h
  | cons name names ih =>
    have hrest : oneof ∈ oneofDeclarationsFrom (members.filter (·.1 != Int32.ofNat index))
        (index + 1) names → oneof.name ∈ name :: names ∧ ∀ n ∈ oneof.members,
          n ∈ members.map (·.2) := by
      intro hmem
      obtain ⟨hname, hmembers⟩ := ih hmem
      exact ⟨List.mem_cons_of_mem _ hname, fun n hn =>
        (List.filter_sublist.map _).subset (hmembers n hn)⟩
    rw [oneofDeclarationsFrom] at h
    split_ifs at h
    · exact hrest h
    · rcases List.mem_cons.1 h with rfl | hmem
      · exact ⟨List.mem_cons_self, fun n hn => (List.filter_sublist.map _).subset hn⟩
      · exact hrest hmem

/-! ### Oneofs of a message -/

theorem mem_oneofDeclarations_fields {fields : List FieldDescriptor} {names : List String}
    {oneof : OneofDeclaration} (h : oneof ∈ oneofDeclarations fields names) :
    oneof.name ∈ names ∧ ∀ n ∈ oneof.members, ∃ f ∈ fields, f.number = n := by
  obtain ⟨hname, hmembers⟩ := mem_oneofDeclarationsFrom h
  refine ⟨hname, fun n hn => ?_⟩
  obtain ⟨member, hmember, rfl⟩ := List.mem_map.1 (hmembers n hn)
  obtain ⟨f, hf, hmember⟩ := List.mem_filterMap.1 hmember
  obtain ⟨i, -, rfl⟩ := Option.map_eq_some_iff.1 hmember
  exact ⟨f, hf, rfl⟩

theorem numbersAt_oneofMembers (fields : List FieldDescriptor) (position : Nat) :
    numbersAt (oneofMembers fields) position =
      (fields.filter (·.isMemberAt position)).map (·.number) := by
  induction fields with
  | nil => rfl
  | cons f fields ih =>
    rw [numbersAt, oneofMembers] at ih ⊢
    cases hmember : f.memberOf? with
    | none =>
      have hat : f.isMemberAt position = false := by
        rw [Bool.eq_false_iff, ne_eq, FieldDescriptor.isMemberAt_iff, hmember]
        rintro ⟨i, hi, -⟩
        cases hi
      rw [List.filterMap_cons_none (by rw [hmember]; rfl),
        List.filter_cons_of_neg (by simp [hat]), ih]
    | some i =>
      have hat : f.isMemberAt position = (i.toInt == (position : Int)) := by
        rw [Bool.eq_iff_iff, FieldDescriptor.isMemberAt_iff, hmember, beq_iff_eq]
        simp
      rw [List.filterMap_cons_some (by rw [hmember]; rfl), List.filter_cons, List.filter_cons, hat]
      split_ifs
      · rw [List.map_cons, List.map_cons, ih]
      · exact ih

section

variable {d : MessageDescriptor} (h : d.OneofsInRange)

include h

theorem positionsWithin_oneofMembers :
    PositionsWithin (oneofMembers d.fields) 0 (0 + d.oneofs.length) := by
  intro x hx
  obtain ⟨f, hf, hx⟩ := List.mem_filterMap.1 hx
  obtain ⟨i, hi, rfl⟩ := Option.map_eq_some_iff.1 hx
  obtain ⟨hoptional, hindex⟩ := FieldDescriptor.memberOf?_eq_some_iff.1 hi
  rw [Nat.zero_add]
  exact h f hf hoptional i hindex

theorem oneofDeclarations_eq : oneofDeclarations d.fields d.oneofs =
    d.oneofs.zipIdx.filterMap fun entry =>
      if d.oneofNumbers entry.2 = [] then none
      else some ⟨entry.1, Int32.ofNat entry.2, d.oneofNumbers entry.2⟩ := by
  rw [oneofDeclarations, oneofDeclarationsFrom_eq (positionsWithin_oneofMembers h)]
  refine List.filterMap_congr fun entry _ => ?_
  rw [groupAt?, numbersAt_oneofMembers, MessageDescriptor.oneofNumbers]

theorem oneofDeclarations_perm : ((oneofDeclarations d.fields d.oneofs).flatMap (·.members)).Perm
    ((d.fields.filter (·.isMember)).map (·.number)) := by
  have hmembers : (oneofMembers d.fields).map (·.2) =
      (d.fields.filter (·.isMember)).map (·.number) := by
    induction d.fields with
    | nil => rfl
    | cons f fields ih =>
      rw [oneofMembers] at ih ⊢
      cases hmember : f.memberOf? with
      | none =>
        have hnot : f.isMember = false := by
          rw [Bool.eq_false_iff, ne_eq, FieldDescriptor.isMember_iff, hmember]
          decide
        rw [List.filterMap_cons_none (by rw [hmember]; rfl),
          List.filter_cons_of_neg (by simp [hnot]), ih]
      | some i =>
        have his : f.isMember = true := by
          rw [FieldDescriptor.isMember_iff, hmember]
          rfl
        rw [List.filterMap_cons_some (by rw [hmember]; rfl), List.filter_cons_of_pos his,
          List.map_cons, List.map_cons, ih]
  rw [← hmembers]
  exact perm_oneofDeclarationsFrom (positionsWithin_oneofMembers h)

theorem mem_oneofDeclarations {oneof : OneofDeclaration}
    (honeof : oneof ∈ oneofDeclarations d.fields d.oneofs) : ∃ position : Nat,
      oneof.index.toInt = position ∧ oneof.members = d.oneofNumbers position := by
  rw [oneofDeclarations_eq h] at honeof
  obtain ⟨entry, -, hentry⟩ := List.mem_filterMap.1 honeof
  split_ifs at hentry with hnumbers
  obtain rfl := Option.some.inj hentry
  obtain ⟨number, hnumber⟩ := List.exists_mem_of_ne_nil _ hnumbers
  obtain ⟨f, hf, -⟩ := List.mem_map.1 hnumber
  obtain ⟨i, -, hi⟩ := FieldDescriptor.isMemberAt_iff.1 (List.mem_filter.1 hf).2
  have hbound := i.toInt_lt
  exact ⟨entry.2, Int32.toInt_ofNat_of_lt (by omega), rfl⟩

/-- A member is in the group of its oneof. -/
theorem exists_oneof_of_memberOf? {f : FieldDescriptor} (hf : f ∈ d.fields) {i : Int32}
    (hi : f.memberOf? = some i) : ∃ oneof ∈ oneofDeclarations d.fields d.oneofs,
      oneof.index = i ∧ f.number ∈ oneof.members := by
  obtain ⟨hoptional, hindex⟩ := FieldDescriptor.memberOf?_eq_some_iff.1 hi
  obtain ⟨hnonneg, hlt⟩ := h f hf hoptional i hindex
  obtain ⟨position, hposition⟩ := Int.eq_ofNat_of_zero_le hnonneg
  have hat : f.number ∈ d.oneofNumbers position :=
    List.mem_map_of_mem (List.mem_filter.2
      ⟨hf, FieldDescriptor.isMemberAt_iff.2 ⟨i, hi, hposition⟩⟩)
  have hname : position < d.oneofs.length := by omega
  have hbound := i.toInt_lt
  refine ⟨⟨d.oneofs[position], Int32.ofNat position, d.oneofNumbers position⟩, ?_, ?_, hat⟩
  · rw [oneofDeclarations_eq h]
    refine List.mem_filterMap.2 ⟨(d.oneofs[position], position), ?_, ?_⟩
    · exact List.mk_mem_zipIdx_iff_getElem?.2 (List.getElem?_eq_getElem hname)
    · exact if_neg (List.ne_nil_of_mem hat)
  · rw [← Int32.toInt_inj, Int32.toInt_ofNat_of_lt (by omega), hposition]

/-- With distinct numbers, the members of a oneof are the fields that its group has. -/
theorem memberOf?_iff_mem_members (hnumbers : (d.fields.map (·.number)).Nodup)
    {f : FieldDescriptor} (hf : f ∈ d.fields) (i : Int32) : f.memberOf? = some i ↔
      ∃ oneof ∈ oneofDeclarations d.fields d.oneofs,
        oneof.index = i ∧ f.number ∈ oneof.members := by
  refine ⟨exists_oneof_of_memberOf? h hf, ?_⟩
  rintro ⟨oneof, honeof, rfl, hmem⟩
  obtain ⟨position, hposition, hmembers⟩ := mem_oneofDeclarations h honeof
  rw [hmembers] at hmem
  obtain ⟨g, hg, hnumber⟩ := List.mem_map.1 hmem
  obtain ⟨hgf, hat⟩ := List.mem_filter.1 hg
  obtain rfl := List.inj_on_of_nodup_map hnumbers hgf hf hnumber
  obtain ⟨i, hi, htoInt⟩ := FieldDescriptor.isMemberAt_iff.1 hat
  rw [hi, Option.some.injEq, ← Int32.toInt_inj, htoInt, hposition]

end

end FileScope

namespace MessageClass

variable {m : MessageClass}

/-- The place of a oneof is where its position is found. -/
theorem oneofPosition?_eq (h : m.oneofs.Pairwise (·.index.toInt < ·.index.toInt)) {place : Nat}
    {oneof : OneofDeclaration} (honeof : m.oneofs[place]? = some oneof) :
    m.oneofPosition? oneof.index = some place := by
  obtain ⟨hplace, rfl⟩ := List.getElem?_eq_some_iff.1 honeof
  rw [oneofPosition?, List.findIdx?_eq_some_iff_getElem]
  refine ⟨hplace, beq_self_eq_true _, fun k hk => ?_⟩
  have hlt := List.pairwise_iff_getElem.1 h k place (by omega) hplace hk
  rw [beq_iff_eq]
  rintro hsame
  rw [hsame] at hlt
  exact Int.lt_irrefl _ hlt

variable {oneof : OneofDeclaration}

theorem exists_field_of_mem_memberFields {entry : Int32 × String}
    (h : entry ∈ m.memberFields oneof) :
    entry.1 ∈ oneof.members ∧ ∃ f ∈ m.fields, f.number = entry.1 ∧ f.name = entry.2 := by
  obtain ⟨number, hnumber, hentry⟩ := List.mem_filterMap.1 h
  obtain ⟨f, hf, rfl⟩ := Option.map_eq_some_iff.1 hentry
  rw [field?] at hf
  have hfound := List.find?_some hf
  exact ⟨hnumber, f, List.mem_of_find?_eq_some hf, beq_iff_eq.1 hfound, rfl⟩

/-- No member is left out, if each is a field. -/
theorem map_fst_memberFields (h : ∀ n ∈ oneof.members, ∃ f ∈ m.fields, f.number = n) :
    (m.memberFields oneof).map (·.1) = oneof.members := by
  rw [memberFields, List.map_filterMap]
  refine (List.filterMap_congr fun n hn => ?_).trans List.filterMap_some
  obtain ⟨f, hf, hnumber⟩ := h n hn
  have hsome : (m.field? n).isSome = true :=
    List.find?_isSome.2 ⟨f, hf, beq_iff_eq.2 hnumber⟩
  obtain ⟨g, hg⟩ := Option.isSome_iff_exists.1 hsome
  rw [hg]
  rfl

end MessageClass

end ProtoTypeScript
