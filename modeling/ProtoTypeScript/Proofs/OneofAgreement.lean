import ProtoTypeScript.Proofs.PrintedOneofs

/-!
# Oneofs of lowered messages

A message says which of its fields are members of which oneof. `OneofAgreement` says that the
oneofs of its class, the arrays, the accessors and the setters that are printed for it all say the
same, and `oneofs_agree` that they do so for every message whose members refer to declared oneofs.
-/

namespace ProtoTypeScript

open Outcome

theorem toNatClampNeg_ne_zero {n : Int32} (h : 0 < n) : n.toNatClampNeg ≠ 0 := by
  have hpos : 0 < n.toInt := Int32.lt_iff_toInt_lt.1 h
  show n.toInt.toNat ≠ 0
  omega

namespace Script

/-- Where a setter of one value puts it. -/
theorem setterPlace?_of_single {m : MessageClass} {f : FieldDeclaration}
    (hrepeated : f.isRepeated = false) (hmap : f.isMap = false) :
    setterPlace? m f = f.oneofIndex.bind m.oneofPosition? := by
  rw [setterPlace?, FieldDeclaration.shape, hrepeated]
  rw [FieldDeclaration.isMap] at hmap
  cases htype : f.type with
  | map => rw [htype] at hmap; cases hmap
  | scalar | enumeration | message => rfl

/-! ### Agreement -/

/-- What the class of a message and the members that are printed for it say about its oneofs. -/
structure OneofAgreement (d : MessageDescriptor) (m : MessageClass)
    (printed : List (List String)) : Prop where
  /-- The oneofs with a member are left, each with the numbers of its members. -/
  oneofs : m.oneofs = d.oneofs.zipIdx.filterMap fun entry =>
    if d.oneofNumbers entry.2 = [] then none
    else some ⟨entry.1, Int32.ofNat entry.2, d.oneofNumbers entry.2⟩
  /-- A field has the position of the oneof that it is a member of. -/
  fields : List.Forall₂ (fun f g => g.name = f.name ∧ g.number = f.number ∧
    ∀ i, (g.oneofIndex = some i ↔ f.proto3Optional = false ∧ f.oneofIndex? = some i) ∧
      (g.oneofIndex = some i ↔ ∃ oneof ∈ m.oneofs, oneof.index = i ∧ g.number ∈ oneof.members))
    d.fields m.fields
  /-- The groups have the members, -/
  partition : (m.oneofs.flatMap (·.members)).Perm
    ((d.fields.filter (·.isMember)).map (·.number))
  /-- and no member twice. -/
  disjoint : (m.oneofs.flatMap (·.members)).Nodup
  /-- The arrays are those of the oneofs, one after the other. -/
  slots : printed.head?.bind readSlots? =
    some (m.oneofs.map fun oneof => oneof.members.map (·.toNatClampNeg))
  /-- So are the accessors, which name the members. -/
  cases : List.Forall₂ (fun oneof reading => reading.name = oneof.name ∧
      reading.numbers = oneof.members.map (·.toNatClampNeg) ∧
      reading.keys = oneof.members.map (·.toNatClampNeg) ∧
      ∀ entry ∈ reading.table, entry.1 ≠ 0 →
        ∃ g ∈ m.fields, g.number.toNatClampNeg = entry.1 ∧ g.name = entry.2)
    m.oneofs (printed.filterMap readOneofCase?)
  /-- The setters of members name the place of their oneof. -/
  setters : List.Forall₂ (fun g reading => reading.name = g.name ∧
      reading.number = g.number.toNatClampNeg ∧
      ∀ i, g.oneofIndex = some i → g.isRepeated = false → g.isMap = false →
        ∃ place oneof, reading.place = some place ∧ m.oneofs[place]? = some oneof ∧
          oneof.index = i ∧ g.number ∈ oneof.members)
    m.fields (printed.filterMap readSetter?)

section Readings

variable {m : MessageClass}

theorem keys_oneofReading {oneof : OneofDeclaration} (hpositive : ∀ n ∈ oneof.members, 0 < n)
    (hfields : ∀ n ∈ oneof.members, ∃ f ∈ m.fields, f.number = n) :
    (oneofReading m oneof).keys = oneof.members.map (·.toNatClampNeg) := by
  have hkeys : (oneofReading m oneof).table.map (·.1) =
      0 :: oneof.members.map (·.toNatClampNeg) := by
    conv_rhs => rw [← MessageClass.map_fst_memberFields hfields, List.map_map]
    simp [oneofReading, Function.comp_def]
  rw [OneofReading.keys, hkeys, List.filter_cons_of_neg (by decide), List.filter_eq_self]
  exact List.forall_mem_map.2 fun n hn => decide_eq_true (toNatClampNeg_ne_zero (hpositive n hn))

theorem exists_field_of_mem_table {oneof : OneofDeclaration} {entry : Nat × String}
    (h : entry ∈ (oneofReading m oneof).table) (hne : entry.1 ≠ 0) :
    ∃ g ∈ m.fields, g.number.toNatClampNeg = entry.1 ∧ g.name = entry.2 := by
  rcases List.mem_cons.1 h with rfl | hmem
  · exact absurd rfl hne
  · obtain ⟨member, hmember, rfl⟩ := List.mem_map.1 hmem
    obtain ⟨-, g, hg, hnumber, hname⟩ := MessageClass.exists_field_of_mem_memberFields hmember
    exact ⟨g, hg, by rw [hnumber], hname⟩

end Readings

end Script

/-! ### Lowered messages -/

open Script

/-- What of a message its class is made of, as far as oneofs go. -/
structure LowersOneofs (d : MessageDescriptor) (m : MessageClass) : Prop where
  fields : List.Forall₂ (fun f g => g.name = f.name ∧ g.number = f.number ∧
    g.oneofIndex = f.memberOf?) d.fields m.fields
  oneofs : m.oneofs = FileScope.oneofDeclarations d.fields d.oneofs

namespace LowersOneofs

variable {d : MessageDescriptor} {m : MessageClass} (h : LowersOneofs d m)

include h

theorem exists_field {f : FieldDescriptor} (hf : f ∈ d.fields) :
    ∃ g ∈ m.fields, g.number = f.number := by
  obtain ⟨g, hg, -, hnumber, -⟩ := exists_of_mem_left h.fields hf
  exact ⟨g, hg, hnumber⟩

theorem exists_field_of_mem_members {oneof : OneofDeclaration} (honeof : oneof ∈ m.oneofs) :
    ∀ n ∈ oneof.members, ∃ g ∈ m.fields, g.number = n := by
  rw [h.oneofs] at honeof
  intro n hn
  obtain ⟨f, hf, rfl⟩ := (FileScope.mem_oneofDeclarations_fields honeof).2 n hn
  exact h.exists_field hf

variable (hrange : d.OneofsInRange)

include hrange

theorem pairwise_oneofs : m.oneofs.Pairwise (·.index.toInt < ·.index.toInt) := by
  rw [h.oneofs]
  exact (FileScope.pairwise_oneofDeclarationsFrom (FileScope.positionsWithin_oneofMembers hrange)).2

/-- The place that the setter of a member names. -/
theorem exists_place {g : FieldDeclaration} (hg : g ∈ m.fields) {i : Int32}
    (hi : g.oneofIndex = some i) : ∃ place oneof, m.oneofPosition? i = some place ∧
      m.oneofs[place]? = some oneof ∧ oneof.index = i ∧ g.number ∈ oneof.members := by
  obtain ⟨f, hf, -, hnumber, hindex⟩ := exists_of_mem_right h.fields hg
  rw [hindex] at hi
  obtain ⟨oneof, honeof, rfl, hmem⟩ := FileScope.exists_oneof_of_memberOf? hrange hf hi
  rw [← h.oneofs] at honeof
  obtain ⟨place, hplace⟩ := List.mem_iff_getElem?.1 honeof
  exact ⟨place, oneof, MessageClass.oneofPosition?_eq (h.pairwise_oneofs hrange) hplace, hplace,
    rfl, hnumber ▸ hmem⟩

variable (hnumbers : (d.fields.map (·.number)).Nodup)

include hnumbers

theorem forall₂_fields : List.Forall₂ (fun f g => g.name = f.name ∧ g.number = f.number ∧
    ∀ i, (g.oneofIndex = some i ↔ f.proto3Optional = false ∧ f.oneofIndex? = some i) ∧
      (g.oneofIndex = some i ↔ ∃ oneof ∈ m.oneofs, oneof.index = i ∧ g.number ∈ oneof.members))
    d.fields m.fields := by
  have hmem := (List.forall₂_and_left _ _).2 ⟨fun f hf => hf, h.fields⟩
  refine hmem.imp fun f g hfg => ?_
  obtain ⟨hf, hname, hnumber, hindex⟩ := hfg
  refine ⟨hname, hnumber, fun i => ?_⟩
  rw [hindex, hnumber, h.oneofs]
  exact ⟨FieldDescriptor.memberOf?_eq_some_iff,
    FileScope.memberOf?_iff_mem_members hrange hnumbers hf i⟩

theorem partition : (m.oneofs.flatMap (·.members)).Perm
      ((d.fields.filter (·.isMember)).map (·.number)) ∧
    (m.oneofs.flatMap (·.members)).Nodup := by
  have hperm : (m.oneofs.flatMap (·.members)).Perm
      ((d.fields.filter (·.isMember)).map (·.number)) := by
    rw [h.oneofs]
    exact FileScope.oneofDeclarations_perm hrange
  exact ⟨hperm, hperm.nodup_iff.2 (hnumbers.sublist (List.filter_sublist.map _))⟩

/-- **The oneofs of a class that can be read back agree.** -/
theorem agreement (hclass : ReadableClass m) (depth : Nat) :
    OneofAgreement d m (memberStatements depth m) where
  oneofs := h.oneofs.trans (FileScope.oneofDeclarations_eq hrange)
  fields := h.forall₂_fields hrange hnumbers
  partition := (h.partition hrange hnumbers).1
  disjoint := (h.partition hrange hnumbers).2
  slots := readSlots?_head?_memberStatements hclass depth
  cases := by
    rw [filterMap_readOneofCase?_memberStatements hclass, List.forall₂_map_right_iff,
      List.forall₂_same]
    intro oneof honeof
    exact ⟨rfl, rfl, keys_oneofReading (hclass.members oneof honeof)
      (h.exists_field_of_mem_members honeof), fun entry => exists_field_of_mem_table⟩
  setters := by
    rw [filterMap_readSetter?_memberStatements hclass, List.forall₂_map_right_iff,
      List.forall₂_same]
    refine fun g hg => ⟨rfl, rfl, fun i hi hrepeated hmap => ?_⟩
    obtain ⟨place, oneof, hplace, honeof, hindex, hmem⟩ := h.exists_place hrange hg hi
    refine ⟨place, oneof, ?_, honeof, hindex, hmem⟩
    show setterPlace? m g = some place
    rw [setterPlace?_of_single hrepeated hmap, hi, Option.bind_some, hplace]

end LowersOneofs

section

variable {c : Config} {files : List FileDescriptor} {file : FileDescriptor}

theorem FileScope.LowersMessage.lowersOneofs {s : FileScope} {path : List String}
    {d : MessageDescriptor} {m : MessageClass} (h : s.LowersMessage path d m) :
    LowersOneofs d m := by
  obtain ⟨fields, hfields, rfl⟩ := h
  refine ⟨(mapM_eq_ok_iff.1 hfields).imp fun f g hg => ?_, rfl⟩
  obtain ⟨type, value, -, -, rfl⟩ := FileScope.fieldDeclaration_eq_ok_iff.1 hg
  exact ⟨rfl, rfl, rfl⟩

/-- **What is said about the oneofs of a message is the same everywhere**, if its fields have
distinct positive numbers, its names are identifiers and its members refer to declared oneofs. -/
theorem oneofs_agree {path : List String} {d : MessageDescriptor} {m : MessageClass}
    (hlowers : (FileScope.ofFile c (.ofFiles files) file).LowersMessage path d m)
    (hnumbers : (d.fields.map (·.number)).Nodup) (hpositive : ∀ f ∈ d.fields, 0 < f.number)
    (hfiles : ∀ g ∈ files, g.ValidNames)
    (hnames : (FileScope.ofFile c (.ofFiles files) file).ValidNames path d)
    (honeofs : ∀ name ∈ d.oneofs, IsIdentifier name) (hrange : d.OneofsInRange) (depth : Nat) :
    ∃ printed, render (indentBy depth (messageClass m)) = printedClass depth m printed ∧
      OneofAgreement d m (printed.map (Member.statements (depth + 1))) :=
  ⟨members m, render_messageClass depth m, hlowers.lowersOneofs.agreement hrange hnumbers
    (FileScope.readableClass_of_lowersMessage hfiles hlowers hpositive hnames honeofs) depth⟩

end

/-- A message in which the oneofs of optional fields stand between declared ones. -/
def cargoMessage : MessageDescriptor where
  name := "Cargo"
  fields := [
    { name? := "weight", number? := some 9, type? := some 5, oneofIndex? := some 0,
      proto3Optional := true },
    { name? := "crate", number? := some 5, type? := some 9, oneofIndex? := some 3 },
    { name? := "ship", number? := some 2, type? := some 11, typeName? := ".port.Cargo",
      oneofIndex? := some 1 },
    { name? := "label", number? := some 7, type? := some 9 },
    { name? := "barrel", number? := some 3, type? := some 13, oneofIndex? := some 3 },
    { name? := "train", number? := some 4, type? := some 12, oneofIndex? := some 1 },
    { name? := "colour", number? := some 1, type? := some 9, oneofIndex? := some 2,
      proto3Optional := true }]
  oneofs := ["_weight", "carrier", "_colour", "container", "unused"]

/-- A file with the message. -/
def cargoFile : FileDescriptor where
  name := "cargo.proto"
  package := "port"
  dialectName := "proto3"
  messages := [cargoMessage]

theorem oneofs_agree_cargo : ∃ m,
    (FileScope.ofFile .default (.ofFiles [cargoFile]) cargoFile).LowersMessage [] cargoMessage m ∧
    (cargoMessage.fields.map (·.number)).Nodup ∧ (∀ f ∈ cargoMessage.fields, 0 < f.number) ∧
    (∀ g ∈ [cargoFile], g.ValidNames) ∧
    (FileScope.ofFile .default (.ofFiles [cargoFile]) cargoFile).ValidNames [] cargoMessage ∧
    (∀ name ∈ cargoMessage.oneofs, IsIdentifier name) ∧ cargoMessage.OneofsInRange ∧
    m.oneofs = [⟨"carrier", 1, [2, 4]⟩, ⟨"container", 3, [5, 3]⟩] ∧
    ∃ printed, render (indentBy 1 (messageClass m)) = printedClass 1 m printed ∧
      OneofAgreement cargoMessage m (printed.map (Member.statements 2)) := by
  have hok : (cargoMessage.fields.mapM
      (FileScope.ofFile .default (.ofFiles [cargoFile]) cargoFile).fieldDeclaration).isOk := by
    decide +kernel
  obtain ⟨fields, hfields⟩ := isOk_iff.1 hok
  have hnumbers : (cargoMessage.fields.map (·.number)).Nodup := by decide
  have hpositive : ∀ f ∈ cargoMessage.fields, 0 < f.number := by decide
  have hfiles : ∀ g ∈ [cargoFile], g.ValidNames := by
    intro g hg
    rw [List.mem_singleton.1 hg]
    exact ⟨.inr (by decide), by decide +kernel, by decide +kernel⟩
  have hnames : (FileScope.ofFile .default (.ofFiles [cargoFile]) cargoFile).ValidNames []
      cargoMessage := by
    have hdefaults : ∀ f ∈ cargoMessage.fields, ∀ value ∈ f.defaultValue?,
        IsIdentifier value := by
      decide +kernel
    exact ⟨by decide +kernel, by decide +kernel, fun f hf _ _ value => hdefaults f hf value⟩
  have honeofs : ∀ name ∈ cargoMessage.oneofs, IsIdentifier name := by decide +kernel
  have hrange : cargoMessage.OneofsInRange := by decide +kernel
  have hgroups : FileScope.oneofDeclarations cargoMessage.fields cargoMessage.oneofs =
      [⟨"carrier", 1, [2, 4]⟩, ⟨"container", 3, [5, 3]⟩] := by
    decide +kernel
  exact ⟨_, ⟨fields, hfields, rfl⟩, hnumbers, hpositive, hfiles, hnames, honeofs, hrange, hgroups,
    oneofs_agree ⟨fields, hfields, rfl⟩ hnumbers hpositive hfiles hnames honeofs hrange 1⟩

end ProtoTypeScript
