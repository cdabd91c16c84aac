import ProtoTypeScript.Proofs.PrintedGuards
import ProtoTypeScript.Proofs.PrintedPresence

/-!
# Presence in lowered messages

The class of a field follows from its descriptor. `PresenceAgreement` says that the constructor, the
accessors, the writer and the conversion to objects that are printed for a message all go by it, and
`presence_agrees` that they do so for every message whose repeated fields and maps are neither
members of oneofs nor optional.
-/

namespace ProtoTypeScript

open Outcome Script

/-- The statement in front of the write of a field, given its class. -/
inductive FileScope.GuardedBy (s : FileScope) (f : FieldDescriptor) : String → Prop
  | map (h : s.presence f = .map) :
      GuardedBy s f ("for (const [key, value] of this." ++ f.name ++ ") \x7b")
  | repeated (h : s.presence f = .repeated) :
      GuardedBy s f ("if (this." ++ f.name ++ ".length)")
  | explicit (h : s.presence f = .explicit) :
      GuardedBy s f ("if (this.has_" ++ f.name ++ ")")
  | nonEmpty {scalar : Scalar} (h : s.presence f = .implicit)
      (hscalar : f.valueType = .scalar scalar) (hlength : scalar = .string ∨ scalar = .bytes) :
      GuardedBy s f ("if (this." ++ f.name ++ ".length)")
  | differs {type : FieldType} {value : String} (h : s.presence f = .implicit)
      (hlength : f.valueType ≠ .scalar .string ∧ f.valueType ≠ .scalar .bytes)
      (htype : s.fieldType f = .ok type) (hvalue : s.defaultValue f type .singular = .ok value) :
      GuardedBy s f ("if (this." ++ f.name ++ " != " ++ value ++ ")")

/-- What the members that are printed for a message say about the presence of its fields. -/
structure PresenceAgreement (s : FileScope) (d : MessageDescriptor) (m : MessageClass)
    (depth : Nat) (printed : List Member) : Prop where
  /-- The constructor, the writer and the conversion to objects are among the members. -/
  mem : ∀ member ∈ [constructor m, serialize m, toObject m], member ∈ printed
  /-- The constructor initializes the repeated fields. -/
  initialized : (constructorBody ((constructor m).statements (depth + 1))).filterMap
    readInitialized? = [(d.fields.filter (s.presence · == .repeated)).map (·.number.toNatClampNeg)]
  /-- The constructor creates the maps. -/
  maps : (constructorBody ((constructor m).statements (depth + 1))).filterMap readMap? =
    (d.fields.filter (s.presence · == .map)).map (·.name)
  /-- Accessors tell explicit presence. -/
  accessors : (printed.map (Member.statements (depth + 1))).filterMap readPresence? =
    (d.fields.filter (s.presence · == .explicit)).map fun f => (f.name, f.number.toNatClampNeg)
  /-- The writer asks for explicit presence. -/
  writerTests : ((serialize m).statements (depth + 1)).filterMap readTest? =
    (d.fields.filter (s.presence · == .explicit)).map (·.name)
  /-- So does the conversion to objects. Its keys may have any form, so its lines are read. -/
  objectTests : (texts (toObject m).lines).filterMap readTest? =
    (d.fields.filter (s.presence · == .explicit)).map (·.name)
  /-- Every field is written under a guard that goes by its class. -/
  guards : List.Forall₂ (fun f write => s.GuardedBy f write.1 ∧
      write.2 = f.number.toNatClampNeg) d.fields
    (guardedWrites ((serialize m).statements (depth + 1)))
  /-- Nothing else is written. -/
  writes : ((serialize m).statements (depth + 1)).filterMap writtenNumber? =
    d.fields.map (·.number.toNatClampNeg)

/-! ### Lowered fields -/

namespace FileScope

variable {s : FileScope} {f : FieldDescriptor} {g : FieldDeclaration}

theorem cardinality_of_hasClass_implicit (h : g.HasClass .implicit) :
    g.cardinality = .singular := by
  have hpresence := h.explicit
  rw [FieldDeclaration.hasPresence] at hpresence
  cases hc : g.cardinality with
  | singular => rfl
  | optional =>
    rw [hc] at hpresence
    cases hpresence
  | repeated =>
    have hrepeated := h.repeated
    rw [FieldDeclaration.isRepeated, hc] at hrepeated
    cases hrepeated

/-- The guard of a declared field goes by the class of the field. -/
theorem guardedBy_guardFor (halone : s.ManyAlone f) (h : s.fieldDeclaration f = .ok g) :
    s.GuardedBy f (guardFor g g.presence) := by
  have hclass := hasClass_of_fieldDeclaration halone h
  rw [hclass.presence_eq]
  obtain ⟨type, value, htype, hvalue, rfl⟩ := fieldDeclaration_eq_ok_iff.1 h
  cases hp : s.presence f with
  | map => exact .map hp
  | repeated => exact .repeated hp
  | explicit => exact .explicit hp
  | implicit =>
    have hlength := hasLength_of_hasType (fieldType_eq_ok_iff.1 htype)
    have hsingular : s.cardinality f type = .singular :=
      cardinality_of_hasClass_implicit (hp ▸ hclass)
    rw [hsingular] at hvalue
    show s.GuardedBy f (if type.hasLength then "if (this." ++ f.name ++ ".length)"
      else "if (this." ++ f.name ++ " != " ++ value ++ ")")
    -- without presence a value is compared with its default, or its length with none
    cases hvalueType : f.valueType with
    | scalar scalar =>
      rw [hvalueType, ValueType.scalar?, Option.any_some] at hlength
      rw [hlength]
      cases scalar with
      | string => exact .nonEmpty hp hvalueType (.inl rfl)
      | bytes => exact .nonEmpty hp hvalueType (.inr rfl)
      | _ => exact .differs hp (by rw [hvalueType]; decide) htype hvalue
    | group | message | enumeration =>
      rw [hvalueType] at hlength
      rw [hlength]
      exact .differs hp (by rw [hvalueType]; decide) htype hvalue

/-- What printing needs to know of the declaration of a field. -/
structure LowersField (s : FileScope) (f : FieldDescriptor) (g : FieldDeclaration) : Prop where
  name : g.name = f.name
  number : g.number = f.number
  hasClass : g.HasClass (s.presence f)
  writable : Writable g
  guardedBy : s.GuardedBy f (guardFor g g.presence)

end FileScope

/-! ### Agreement -/

theorem map_filter_eq_of_forall₂ {α β γ : Type} {R : α → β → Prop} {xs : List α} {ys : List β}
    (h : List.Forall₂ R xs ys) {p : α → Bool} {q : β → Bool} {f : α → γ} {g : β → γ}
    (hfg : ∀ x y, R x y → q y = p x ∧ g y = f x) :
    (ys.filter q).map g = (xs.filter p).map f := by
  induction h with
  | nil => rfl
  | cons hxy _ ih =>
    obtain ⟨hpq, heq⟩ := hfg _ _ hxy
    rw [List.filter_cons, List.filter_cons, hpq]
    split_ifs
    · rw [List.map_cons, List.map_cons, heq, ih]
    · exact ih

section

variable {s : FileScope} {d : MessageDescriptor} {m : MessageClass} (hread : ReadableClass m)
  (hparts : List.Forall₂ s.LowersField d.fields m.fields)

include hparts

/-- Fields of one class are those that answer to it. -/
theorem map_filter_presence {γ : Type} {p : Presence} {q : FieldDeclaration → Bool}
    (hq : ∀ f g, s.LowersField f g → q g = (s.presence f == p)) {k : FieldDescriptor → γ}
    {l : FieldDeclaration → γ} (hkl : ∀ f g, s.LowersField f g → l g = k f) :
    (m.fields.filter q).map l = (d.fields.filter (s.presence · == p)).map k :=
  map_filter_eq_of_forall₂ hparts fun f g hfg => ⟨hq f g hfg, hkl f g hfg⟩

theorem hasClass_presence : ∀ g ∈ m.fields, g.HasClass g.presence := by
  intro g hg
  obtain ⟨f, -, hfg⟩ := exists_of_mem_right hparts hg
  rw [hfg.hasClass.presence_eq]
  exact hfg.hasClass

theorem writable_fields : ∀ g ∈ m.fields, Writable g := by
  intro g hg
  obtain ⟨f, -, hfg⟩ := exists_of_mem_right hparts hg
  exact hfg.writable

include hread

/-- **The class of a message goes by the presence of its fields**, if it can be read back. -/
theorem presenceAgreement (depth : ℕ) : PresenceAgreement s d m depth (members m) where
  mem := by simp [members]
  initialized := by
    rw [filterMap_readInitialized?_constructor hread]
    refine congrArg (fun numbers => [numbers]) (map_filter_presence hparts ?_ ?_)
    · exact fun f g h => h.hasClass.repeated
    · exact fun f g h => by rw [h.number]
  maps := by
    rw [filterMap_readMap?_constructor hread]
    exact map_filter_presence hparts (fun f g h => h.hasClass.map) fun f g h => h.name
  accessors := by
    rw [← memberStatements, filterMap_readPresence?_memberStatements hread]
    refine map_filter_presence hparts (fun f g h => h.hasClass.explicit) fun f g h => ?_
    rw [h.name, h.number]
  writerTests := by
    rw [filterMap_readTest?_serialize (writable_fields hparts) (hasClass_presence hparts)
      hread.oneLine_runtime _ fun f hf => (hread.fields f hf).name]
    refine map_filter_presence hparts (fun f g h => ?_) fun f g h => h.name
    rw [h.hasClass.presence_eq]
  objectTests := by
    rw [filterMap_readTest?_toObject fun f hf => (hread.fields f hf).name]
    exact map_filter_presence hparts (fun f g h => h.hasClass.explicit) fun f g h => h.name
  guards := by
    rw [guardedWrites_serialize (writable_fields hparts) (hasClass_presence hparts)
      hread.oneLine_runtime, List.forall₂_map_right_iff]
    exact hparts.imp fun f g h => ⟨h.guardedBy, by rw [h.number]⟩
  writes := by
    rw [statements_serialize (writable_fields hparts) hread.oneLine_runtime,
      filterMap_writtenNumber?_serialize (writable_fields hparts)]
    exact map_eq_map_of_forall₂ hparts fun f g h => by rw [h.number]

end

section

variable {c : Config} {files : List FileDescriptor} {file : FileDescriptor}

/-- **What is printed for a message goes by the presence of its fields**, if the fields have
distinct positive numbers, the names are identifiers and the repeated fields and maps are neither
members of oneofs nor optional. -/
theorem presence_agrees {path : List String} {d : MessageDescriptor} {m : MessageClass}
    (hlowers : (FileScope.ofFile c (.ofFiles files) file).LowersMessage path d m)
    (hpositive : ∀ f ∈ d.fields, 0 < f.number)
    (hfiles : ∀ g ∈ files, g.ValidNames)
    (hnames : (FileScope.ofFile c (.ofFiles files) file).ValidNames path d)
    (honeofs : ∀ name ∈ d.oneofs, IsIdentifier name)
    (halone : ∀ f ∈ d.fields, (FileScope.ofFile c (.ofFiles files) file).ManyAlone f)
    (depth : ℕ) :
    ∃ printed, render (indentBy depth (messageClass m)) = printedClass depth m printed ∧
      PresenceAgreement (FileScope.ofFile c (.ofFiles files) file) d m depth printed := by
  have hread := FileScope.readableClass_of_lowersMessage hfiles hlowers hpositive hnames honeofs
  obtain ⟨fields, hfields, rfl⟩ := hlowers
  -- what is known of a field and of its declaration, pair by pair
  have hdeclared := (List.forall₂_and_left _ _).2 ⟨fun f hf => hf, mapM_eq_ok_iff.1 hfields⟩
  refine ⟨_, render_messageClass depth _,
    presenceAgreement hread (hdeclared.imp fun f g hfg => ?_) depth⟩
  obtain ⟨hf, hdeclaration⟩ := hfg
  have hclass := FileScope.hasClass_of_fieldDeclaration (halone f hf) hdeclaration
  have hguard := FileScope.guardedBy_guardFor (halone f hf) hdeclaration
  have hwritable := FileScope.writable_of_fieldDeclaration hfiles (hnames.fields f hf)
    (hpositive f hf) (hnames.defaults f hf) hdeclaration
  obtain ⟨type, value, -, -, rfl⟩ := FileScope.fieldDeclaration_eq_ok_iff.1 hdeclaration
  exact ⟨rfl, rfl, hclass, hwritable, hguard⟩

end

/-- A message with fields of each class. -/
def basketMessage : MessageDescriptor where
  name := "Basket"
  fields := [
    { name? := "weight", number? := some 3, type? := some 1 },
    { name? := "label", number? := some 1, type? := some 9 },
    { name? := "apples", number? := some 5, type? := some 13, label? := some 3 },
    { name? := "grower", number? := some 2, type? := some 11, typeName? := ".orchard.Basket" },
    { name? := "ripe", number? := some 8, type? := some 8, oneofIndex? := some 1,
      proto3Optional := true },
    { name? := "red", number? := some 6, type? := some 9, oneofIndex? := some 0 },
    { name? := "prices", number? := some 4, type? := some 11, label? := some 3,
      typeName? := ".orchard.Basket.PricesEntry" }]
  nested := [{
    name := "PricesEntry"
    fields := [{ name? := "key", type? := some 9 }, { name? := "value", type? := some 5 }]
    mapEntry := true }]
  oneofs := ["colour", "_ripe"]

/-- A file with the message. -/
def basketFile : FileDescriptor where
  name := "basket.proto"
  package := "orchard"
  dialectName := "proto3"
  messages := [basketMessage]

/-- The scope of the file. -/
def basketScope : FileScope :=
  .ofFile .default (.ofFiles [basketFile]) basketFile

theorem presence_agrees_basket : ∃ m, basketScope.LowersMessage [] basketMessage m ∧
    (∀ f ∈ basketMessage.fields, 0 < f.number) ∧ (∀ g ∈ [basketFile], g.ValidNames) ∧
    basketScope.ValidNames [] basketMessage ∧ (∀ name ∈ basketMessage.oneofs, IsIdentifier name) ∧
    (∀ f ∈ basketMessage.fields, basketScope.ManyAlone f) ∧
    basketMessage.fields.map basketScope.presence =
      [.implicit, .implicit, .repeated, .explicit, .explicit, .explicit, .map] ∧
    ∃ printed, render (indentBy 1 (messageClass m)) = printedClass 1 m printed ∧
      PresenceAgreement basketScope basketMessage m 1 printed := by
  have hok : (basketMessage.fields.mapM basketScope.fieldDeclaration).isOk := by decide +kernel
  obtain ⟨fields, hfields⟩ := isOk_iff.1 hok
  have hpositive : ∀ f ∈ basketMessage.fields, 0 < f.number := by decide
  have hfiles : ∀ g ∈ [basketFile], g.ValidNames := by
    intro g hg
    rw [List.mem_singleton.1 hg]
    exact ⟨.inr (by decide), by decide +kernel, by decide +kernel⟩
  have hnames : basketScope.ValidNames [] basketMessage := by
    have hdefaults : ∀ f ∈ basketMessage.fields, ∀ value ∈ f.defaultValue?,
        IsIdentifier value := by
      decide +kernel
    exact ⟨by decide +kernel, by decide +kernel, fun f hf _ _ value => hdefaults f hf value⟩
  have honeofs : ∀ name ∈ basketMessage.oneofs, IsIdentifier name := by decide +kernel
  have halone : ∀ f ∈ basketMessage.fields, basketScope.ManyAlone f := by decide +kernel
  have hclasses : basketMessage.fields.map basketScope.presence =
      [.implicit, .implicit, .repeated, .explicit, .explicit, .explicit, .map] := by
    decide +kernel
  exact ⟨_, ⟨fields, hfields, rfl⟩, hpositive, hfiles, hnames, honeofs, halone, hclasses,
    presence_agrees ⟨fields, hfields, rfl⟩ hpositive hfiles hnames honeofs halone 1⟩

end ProtoTypeScript
