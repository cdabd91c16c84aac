import ProtoTypeScript.Proofs.Lowering

/-!
# Presence of fields

A field belongs to one of four classes, by how many values it has and by whether it can tell that it
has none. `FileScope.presence` reads the class off the descriptor. A declaration answers three
questions, whether it is a map, whether it is repeated and whether it has presence.

* `hasClass_of_fieldDeclaration`: a declaration says yes to the question of its class only, if
  repeated fields and maps are neither members of oneofs nor optional.
-/

namespace ProtoTypeScript

/-- What a field can tell about its values. -/
inductive Presence
  /-- Entries of a map. -/
  | map
  /-- Any number of values. -/
  | repeated
  /-- One value or none. -/
  | explicit
  /-- One value, which is not there if it is the default. -/
  | implicit
  deriving DecidableEq, Repr

/-! ### Descriptors -/

namespace FileScope

variable (s : FileScope) (f : FieldDescriptor)

/-- What the name of a field's type leads to, if the type has a name. -/
def referredKind? : Option TypeKind :=
  match f.valueType.scalar?, s.resolve f.typeName with
  | none, .ok r => some r.kind
  | _, _ => none

/-- The type of the field is a map entry. -/
def isMapField : Bool :=
  match s.referredKind? f with
  | some (.mapEntry _ _) => true
  | _ => false

/-- The type of the field is a message, be it a group. -/
def isMessageField : Bool :=
  match s.referredKind? f with
  | some .message => true
  | _ => false

/-- The class of a field. -/
def presence : Presence :=
  if s.isMapField f then .map
  else if f.isRepeated then .repeated
  else if s.isMessageField f || f.memberOf?.isSome || f.proto3Optional ||
    s.file.dialect != .proto3 then .explicit
  else .implicit

/-- Repeated fields and maps are neither members of oneofs nor optional. -/
def ManyAlone : Prop :=
  f.isRepeated = true ∨ s.isMapField f = true → f.memberOf? = none ∧ f.proto3Optional = false

instance : Decidable (s.ManyAlone f) :=
  inferInstanceAs (Decidable (_ → _))

variable {s f}

/-! ### Types -/

theorem referredKind?_of_scalar {scalar : Scalar} (h : f.valueType.scalar? = some scalar) :
    s.referredKind? f = none := by
  rw [referredKind?, h]

theorem referredKind?_of_resolve {r : TypeRecord} (h : f.valueType.scalar? = none)
    (hr : s.resolve f.typeName = .ok r) : s.referredKind? f = some r.kind := by
  rw [referredKind?, h, hr]

section

variable {type : FieldType} (h : s.HasType f type)

include h

theorem isMap_of_hasType : type.isMap = s.isMapField f := by
  cases h with
  | scalar hscalar => rw [isMapField, referredKind?_of_scalar hscalar]; rfl
  | enumeration hscalar hr hkind =>
    rw [isMapField, referredKind?_of_resolve hscalar hr, hkind]; rfl
  | message hscalar hr hkind =>
    rw [isMapField, referredKind?_of_resolve hscalar hr, hkind]; rfl
  | map hscalar hr hkind => rw [isMapField, referredKind?_of_resolve hscalar hr, hkind]; rfl

theorem isMessage_of_hasType : type.isMessage = s.isMessageField f := by
  cases h with
  | scalar hscalar => rw [isMessageField, referredKind?_of_scalar hscalar]; rfl
  | enumeration hscalar hr hkind =>
    rw [isMessageField, referredKind?_of_resolve hscalar hr, hkind]; rfl
  | message hscalar hr hkind =>
    rw [isMessageField, referredKind?_of_resolve hscalar hr, hkind]; rfl
  | map hscalar hr hkind => rw [isMessageField, referredKind?_of_resolve hscalar hr, hkind]; rfl

theorem hasLength_of_hasType : type.hasLength = f.valueType.scalar?.any Scalar.hasLength := by
  cases h with
  | scalar hscalar => rw [hscalar]; rfl
  | enumeration hscalar => rw [hscalar]; rfl
  | message hscalar => rw [hscalar]; rfl
  | map hscalar => rw [hscalar]; rfl

end

end FileScope

/-! ### Declarations -/

/-- The declaration of a field answers to its class. -/
structure FieldDeclaration.HasClass (g : FieldDeclaration) (p : Presence) : Prop where
  map : g.isMap = (p == .map)
  repeated : g.isRepeated = (p == .repeated)
  explicit : g.hasPresence = (p == .explicit)

/-- The class that a declaration answers to. -/
def FieldDeclaration.presence (g : FieldDeclaration) : Presence :=
  if g.isMap then .map
  else if g.isRepeated then .repeated
  else if g.hasPresence then .explicit
  else .implicit

theorem FieldDeclaration.HasClass.presence_eq {g : FieldDeclaration} {p : Presence}
    (h : g.HasClass p) : g.presence = p := by
  rw [presence, h.map, h.repeated, h.explicit]
  cases p <;> rfl

/-- **A declaration has the class of the field that it declares.** -/
theorem FileScope.hasClass_of_fieldDeclaration {s : FileScope} {f : FieldDescriptor}
    {g : FieldDeclaration} (halone : s.ManyAlone f) (h : s.fieldDeclaration f = .ok g) :
    g.HasClass (s.presence f) := by
  obtain ⟨type, value, htype, -, rfl⟩ := fieldDeclaration_eq_ok_iff.1 h
  have hderivation := fieldType_eq_ok_iff.1 htype
  have hmap := isMap_of_hasType hderivation
  have hmessage := isMessage_of_hasType hderivation
  unfold ManyAlone at halone
  unfold presence
  cases hm : s.isMapField f with
  | true =>
    obtain ⟨hmember, -⟩ := halone (.inr hm)
    have hcardinality : s.cardinality f type = .singular := by
      rw [cardinality, hmap, hm, if_pos rfl]
    have hother : type.isMessage = false := by
      cases type <;> first | rfl | simp [FieldType.isMap, hm] at hmap
    refine ⟨?_, ?_, ?_⟩
    · exact hmap.trans hm
    · simp [FieldDeclaration.isRepeated, hcardinality]
    · simp [FieldDeclaration.hasPresence, hcardinality, hmember, hother]
  | false =>
    cases hr : f.isRepeated with
    | true =>
      obtain ⟨hmember, -⟩ := halone (.inl hr)
      have hcardinality : s.cardinality f type = .repeated := by
        rw [cardinality, hmap, hm, if_neg (by decide), hr, if_pos rfl]
      refine ⟨?_, ?_, ?_⟩
      · exact hmap.trans hm
      · simp [FieldDeclaration.isRepeated, hcardinality]
      · simp only [FieldDeclaration.hasPresence, hcardinality, hmember]
        rfl
    | false =>
      have hcardinality : s.cardinality f type = if f.memberOf?.isSome then .singular
          else if f.proto3Optional || s.file.dialect != .proto3 then .optional else .singular := by
        rw [cardinality, hmap, hm, if_neg (by decide), hr, if_neg (by decide)]
      refine ⟨?_, ?_, ?_⟩
      · rw [FieldDeclaration.isMap, hmap, hm]
        split_ifs <;> simp_all
      · simp only [FieldDeclaration.isRepeated, hcardinality]
        split_ifs <;> simp_all
      · simp only [FieldDeclaration.hasPresence, hcardinality, hmessage]
        split_ifs <;> simp_all

end ProtoTypeScript
