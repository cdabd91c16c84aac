import ProtoTypeScript.Proofs.Nesting
import ProtoTypeScript.Script.Accessors
import ProtoTypeScript.Script.Conversion

/-!
# Nested brackets in members of classes

A class is *plain* if the names that are written into it are raw and the defaults of its fields are
well nested. Then the members that construct it, that give access to its fields and oneofs, and that
convert it from and to plain objects are well nested, whatever fields and oneofs there are.

A signature with an object type is one line or a block; `Signature.Opens` is said of those that
leave the brace of a body open either way.
-/

namespace ProtoTypeScript

/-! ### Plain declarations -/

/-- The names in the type are raw. -/
def FieldType.Plain : FieldType → Prop
  | scalar _ => True
  | enumeration name => Script.IsRaw name
  | message name => Script.IsRaw name
  | map _ value => value.Plain

/-- The names in what a field holds are raw. -/
def FieldShape.Plain : FieldShape → Prop
  | .map _ type => type.Plain
  | .messages type => Script.IsRaw type
  | .message type => Script.IsRaw type
  | .values type => type.Plain
  | .value type => type.Plain

theorem FieldType.Plain.shape {type : FieldType} (h : type.Plain) (isRepeated : Bool) :
    (type.shape isRepeated).Plain := by
  cases type <;> cases isRepeated <;> exact h

/-- The names of the field are raw and its default is well nested. -/
structure FieldDeclaration.Plain (f : FieldDeclaration) : Prop where
  name : Script.IsRaw f.name
  objectKey : Script.IsRaw f.objectKey
  type : f.type.Plain
  defaultValue : Script.WellNested f.defaultValue

/-- The names that are written into the class are raw, and its defaults are well nested. -/
structure MessageClass.Plain (m : MessageClass) : Prop where
  name : Script.IsRaw m.name
  runtime : Script.IsRaw m.runtime
  fields : ∀ f ∈ m.fields, f.Plain
  oneofs : ∀ oneof ∈ m.oneofs, Script.IsRaw oneof.name

instance FieldType.decidablePlain : (type : FieldType) → Decidable type.Plain
  | scalar _ => isTrue trivial
  | enumeration name => inferInstanceAs (Decidable (Script.IsRaw name))
  | message name => inferInstanceAs (Decidable (Script.IsRaw name))
  | map _ value => FieldType.decidablePlain value

instance FieldDeclaration.decidablePlain (f : FieldDeclaration) : Decidable f.Plain :=
  decidable_of_iff (Script.IsRaw f.name ∧ Script.IsRaw f.objectKey ∧ f.type.Plain ∧
      Script.WellNested f.defaultValue)
    ⟨fun ⟨name, objectKey, type, defaultValue⟩ => ⟨name, objectKey, type, defaultValue⟩,
      fun h => ⟨h.name, h.objectKey, h.type, h.defaultValue⟩⟩

instance MessageClass.decidablePlain (m : MessageClass) : Decidable m.Plain :=
  decidable_of_iff (Script.IsRaw m.name ∧ Script.IsRaw m.runtime ∧ (∀ f ∈ m.fields, f.Plain) ∧
      ∀ oneof ∈ m.oneofs, Script.IsRaw oneof.name)
    ⟨fun ⟨name, runtime, fields, oneofs⟩ => ⟨name, runtime, fields, oneofs⟩,
      fun h => ⟨h.name, h.runtime, h.fields, h.oneofs⟩⟩

theorem MessageClass.Plain.of_field? {m : MessageClass} (h : m.Plain) {number : Int32}
    {f : FieldDeclaration} (hf : m.field? number = some f) : f.Plain :=
  h.fields f (List.mem_of_find?_eq_some hf)

namespace Script

/-! ### Signatures -/

/-- The text of an object type is well nested; it may stand between any others. -/
theorem takesLines_objectTyped {before after : String} {entries : List (String × String)}
    {x y z : List Char} (hbefore : Takes before ⟨.code, x⟩ ⟨.code, y⟩)
    (hentries : ∀ e ∈ entries, WellNested e.1 ∧ WellNested e.2)
    (hafter : Takes after ⟨.code, y⟩ ⟨.code, z⟩) :
    TakesLines (Signature.objectTyped before entries after).lines x z := by
  rw [Signature.lines]
  -- the object type closes its own brace, so `y` is what `before` leaves open, on either side of it
  split_ifs with hnil
  · have hline : Takes (before ++ "\x7b\x7d" ++ after) ⟨.code, x⟩ ⟨.code, z⟩ := by
      rw [String.append_assoc]
      exact hbefore.append (.lit rfl hafter)
    exact .cons hline .nil
  · have hentry : ∀ e ∈ entries, WellNested (e.1 ++ "?: " ++ e.2 ++ ";") := by
      intro e he
      simp only [String.append_assoc]
      exact .code (hentries e he).1 <| .lit rfl <| .code (hentries e he).2 <| .last rfl
    have hbody : WellNestedLines (entries.map Signature.entry) := by
      have hlines : entries.map Signature.entry =
          (entries.map fun e => e.1 ++ "?: " ++ e.2 ++ ";").map line := by
        rw [List.map_map]
        rfl
      rw [hlines]
      exact .map_line (List.forall_mem_map.2 hentry)
    have hopen : Takes (before ++ "\x7b") ⟨.code, x⟩ ⟨.code, '\x7d' :: y⟩ :=
      hbefore.append (.last rfl)
    exact TakesLines.append (.cons hopen (.indent (hbody.inside _))) (.cons (.lit rfl hafter) .nil)

/-- The signature leaves the brace of a body open. -/
inductive Signature.Opens : Signature → Prop
  | plain {text : String} (h : Takes text ⟨.code, []⟩ ⟨.code, ['\x7d']⟩) : Opens (.plain text)
  | objectTyped {before after : String} {entries : List (String × String)} {y : List Char}
      (hbefore : Takes before ⟨.code, []⟩ ⟨.code, y⟩)
      (hentries : ∀ e ∈ entries, WellNested e.1 ∧ WellNested e.2)
      (hafter : Takes after ⟨.code, y⟩ ⟨.code, ['\x7d']⟩) :
      Opens (.objectTyped before entries after)

namespace Signature.Opens

variable {s : Signature}

theorem withFront {front : String} (h : s.Opens) (hfront : WellNested front) :
    (s.withFront front).Opens := by
  cases h with
  | plain htext => exact .plain (.code hfront htext)
  | objectTyped hbefore hentries hafter =>
    exact .objectTyped (.code hfront hbefore) hentries hafter

theorem block {body : List Line} (h : s.Opens) (hbody : WellNestedLines body) :
    WellNestedLines (s.block body) := by
  have hlines : TakesLines s.lines [] ['\x7d'] := by
    cases h with
    | plain htext => exact .cons htext .nil
    | objectTyped hbefore hentries hafter =>
      exact takesLines_objectTyped hbefore hentries hafter
  exact TakesLines.append (.append hlines (.indent (hbody.inside _))) (.cons (.last rfl) .nil)

end Signature.Opens

/-! ### Types and numbers -/

theorem wellNested_tsType_scalar (s : Scalar) : WellNested s.tsType := by
  cases s <;> exact .last rfl

theorem wellNested_tsType {type : FieldType} (h : type.Plain) : WellNested type.tsType := by
  induction type with
  | scalar s => exact wellNested_tsType_scalar s
  | enumeration name => exact IsRaw.wellNested h
  | message name => exact IsRaw.wellNested h
  | map key value ih =>
    simp only [FieldType.tsType, String.append_assoc]
    exact .lit rfl <| .code (wellNested_tsType_scalar key) <| .lit rfl <| .code (ih h) <| .last rfl

theorem wellNested_wireMethod_scalar (s : Scalar) : WellNested s.wireMethod := by
  cases s <;> exact .last rfl

theorem wellNested_wireMethod (type : FieldType) : WellNested type.wireMethod := by
  cases type with
  | scalar s => exact wellNested_wireMethod_scalar s
  | enumeration name => exact .last rfl
  | message name => exact .last rfl
  | map key value => exact .last rfl

theorem wellNested_objectValueType {type : FieldType} (h : type.Plain) :
    WellNested (objectValueType type) := by
  induction type with
  | scalar s => exact wellNested_tsType_scalar s
  | enumeration name =>
    have hname : IsRaw name := h
    exact hname.wellNested
  | message name =>
    have hname : IsRaw name := h
    show WellNested ("ReturnType<typeof " ++ name ++ ".prototype.toObject>")
    rw [String.append_assoc]
    exact .lit rfl <| .code hname.wellNested <| .last rfl
  | map key value ih =>
    show WellNested ("\x7b [key: string]: " ++ objectValueType value ++ " \x7d")
    rw [String.append_assoc]
    exact .lit rfl <| .code (ih h) <| .last rfl

theorem wellNested_decimal (n : Int32) : WellNested (decimal n) :=
  (isRaw_decimal n).wellNested

theorem wellNested_numberArray (ns : List Int32) : WellNested (numberArray ns) := by
  have hparts : WellNested (Text.joinWith ", " (ns.map decimal)) :=
    wellNested_joinWith (List.forall_mem_map.2 fun n _ => wellNested_decimal n)
  rw [numberArray, String.append_assoc]
  exact .lit rfl <| .code hparts <| .last rfl

theorem wellNested_messageCall {runtime function : String} {arguments : List String}
    (hruntime : IsRaw runtime) (hfunction : WellNested function)
    (harguments : ∀ argument ∈ arguments, WellNested argument) :
    WellNested (messageCall runtime function ("this" :: arguments)) := by
  have hlist : WellNested (Text.joinWith ", " ("this" :: arguments)) :=
    wellNested_joinWith (List.forall_mem_cons.2 ⟨.last rfl, harguments⟩)
  simp only [messageCall, String.append_assoc]
  exact .code hruntime.wellNested <| .lit rfl <| .code hfunction <| .lit rfl <| .code hlist <|
    .last rfl

/-! ### Types of fields -/

section Fields

variable {f : FieldDeclaration} (h : f.Plain)

include h

theorem wellNested_propertyType : WellNested (propertyType f) := by
  unfold propertyType
  split_ifs
  · exact .code (wellNested_tsType h.type) <| .last rfl
  · exact wellNested_tsType h.type

theorem wellNested_objectType : WellNested (objectType f) := by
  unfold objectType
  split_ifs
  · exact .code (wellNested_objectValueType h.type) <| .last rfl
  · exact wellNested_objectValueType h.type

/-! ### Steps of constructors -/

theorem wellNested_initialValue : WellNestedLines (initialValue f) := by
  have hname := h.name.wellNested
  refine .guardedBlock ?_ (.singleton ?_)
  · simp only [String.append_assoc]
    exact .lit rfl <| .quoted h.name <| .lit rfl <| .code hname <| .last rfl
  · simp only [String.append_assoc]
    exact .lit rfl <| .code hname <| .lit rfl <| .code hname <| .last rfl

theorem wellNested_initialMap : WellNestedLines (initialMap f) := by
  have hname := h.name.wellNested
  refine .guarded ?_ ?_
  · exact .lit rfl <| .lastCode hname
  · rw [String.append_assoc]
    exact .lit rfl <| .code hname <| .last rfl

/-! ### Accessors of fields -/

theorem wellNested_getterValue {runtime : String} (hruntime : IsRaw runtime) :
    WellNested (getterValue runtime f) := by
  have hnumber := wellNested_decimal f.number
  have htype := wellNested_propertyType h
  have hcast : ∀ {function : String} {arguments : List String}, WellNested function →
      (∀ argument ∈ arguments, WellNested argument) →
      WellNested (messageCall runtime function ("this" :: arguments) ++ " as " ++
        propertyType f) := by
    intro function arguments hfunction harguments
    rw [String.append_assoc]
    exact .code (wellNested_messageCall hruntime hfunction harguments) <| .lit rfl <|
      .lastCode htype
  have hdefault : ∀ argument ∈ [decimal f.number, f.defaultValue], WellNested argument := by
    simp only [List.forall_mem_cons]
    exact ⟨hnumber, h.defaultValue, List.forall_mem_nil _⟩
  have hshape : f.shape.Plain := h.type.shape f.isRepeated
  rw [getterValue]
  -- a map has no default, and the call for a message takes its class in place of one
  cases hf : f.shape with
  | map key value =>
    have hcall : WellNested (messageCall runtime "getField" ["this", decimal f.number]) :=
      wellNested_messageCall hruntime (.last rfl) (List.forall_mem_singleton.2 hnumber)
    dsimp only
    rw [String.append_assoc]
    exact .code hcall <| .lit rfl <| .lastCode htype
  | messages message | message message =>
    have hmessage : IsRaw message := by rwa [hf] at hshape
    refine hcast (.last rfl) ?_
    simp only [List.forall_mem_cons]
    exact ⟨hmessage.wellNested, hnumber, List.forall_mem_nil _⟩
  | values type => exact hcast (.last rfl) hdefault
  | value type => exact hcast (.last rfl) hdefault

omit h in
theorem wellNested_setterCall {runtime : String} (hruntime : IsRaw runtime) {slot : Option String}
    (hslot : ∀ s ∈ slot, WellNested s) : WellNested (setterCall runtime f slot) := by
  have hnumber := wellNested_decimal f.number
  have hvalue : WellNested "value" := .last rfl
  have hcall : ∀ {function : String}, WellNested function →
      WellNested (messageCall runtime function ["this", decimal f.number, "value"]) := by
    intro function hfunction
    refine wellNested_messageCall hruntime hfunction ?_
    simp only [List.forall_mem_cons]
    exact ⟨hnumber, hvalue, List.forall_mem_nil _⟩
  have hslotCall : ∀ {function s : String}, WellNested function → WellNested s →
      WellNested (messageCall runtime function ["this", decimal f.number, s, "value"]) := by
    intro function s hfunction hs
    refine wellNested_messageCall hruntime hfunction ?_
    simp only [List.forall_mem_cons]
    exact ⟨hnumber, hs, hvalue, List.forall_mem_nil _⟩
  unfold setterCall
  dsimp only
  -- by the shape of the field and by whether it is a member of a oneof
  split
  · refine wellNested_messageCall hruntime (.last rfl) ?_
    simp only [List.forall_mem_cons]
    exact ⟨hnumber, .last rfl, List.forall_mem_nil _⟩
  · exact hcall (.last rfl)
  · exact hslotCall (.last rfl) (hslot _ rfl)
  · exact hcall (.last rfl)
  · exact hslotCall (.last rfl) (hslot _ rfl)
  · exact hslotCall (.last rfl) (hslot _ rfl)
  · exact hcall (.last rfl)
  · exact hcall (.last rfl)

end Fields

/-! ### Members -/

section Members

variable {name : String} {body : List Line} (hname : WellNested name)
  (hbody : WellNestedLines body)

include hname

theorem wellNested_overload {signature : String} (hsignature : WellNested signature) :
    WellNestedLines (Member.overload name signature).lines := by
  refine .singleton ?_
  rw [String.append_assoc]
  exact .code hname <| .code hsignature <| .last rfl

include hbody

theorem wellNested_getter (deprecated : Bool) :
    WellNestedLines (Member.getter deprecated name body).lines := by
  refine .append (.deprecation deprecated) (.block ['\x7d'] ?_ hbody (.last rfl))
  rw [String.append_assoc]
  exact .lit rfl <| .code hname <| .last rfl

theorem wellNested_setter {type : String} (htype : WellNested type) :
    WellNestedLines (Member.setter name type body).lines := by
  refine .block ['\x7d'] ?_ hbody (.last rfl)
  simp only [String.append_assoc]
  exact .lit rfl <| .code hname <| .lit rfl <| .code htype <| .last rfl

theorem wellNested_method {isStatic overrides : Bool} {signature : Signature}
    (hsignature : signature.Opens) :
    WellNestedLines (Member.method isStatic overrides name signature body).lines := by
  have hmodifiers : WellNested (Member.modifiers isStatic overrides) := by
    cases isStatic <;> cases overrides <;> exact .lit rfl (.last rfl)
  exact (hsignature.withFront (.code hmodifiers hname)).block hbody

end Members

/-! ### Constructors and accessors -/

theorem wellNested_slots (groups : List (List Int32)) :
    WellNestedLines (Member.slots groups).lines := by
  have hgroups : WellNested (Text.joinWith ", " (groups.map numberArray)) :=
    wellNested_joinWith (List.forall_mem_map.2 fun ns _ => wellNested_numberArray ns)
  refine .singleton ?_
  rw [String.append_assoc]
  exact .lit rfl <| .code hgroups <| .last rfl

theorem wellNested_initialValues {fields : List FieldDeclaration} (h : ∀ f ∈ fields, f.Plain) :
    WellNestedLines (initialValues fields) := by
  unfold initialValues
  split_ifs
  · exact .nil
  · exact .guardedBlock (.last rfl) (.flatMap fun f hf => wellNested_initialValue (h f hf))

theorem wellNested_constructor {m : MessageClass} (h : m.Plain) :
    WellNestedLines (constructor m).lines := by
  have hsignature : (Signature.objectTyped "(data?: any[] | "
      (m.fields.map fun f => (f.name, propertyType f)) ") \x7b").Opens := by
    refine .objectTyped (y := [')']) (.last rfl) ?_ (.last rfl)
    exact List.forall_mem_map.2 fun f hf =>
      ⟨(h.fields f hf).name.wellNested, wellNested_propertyType (h.fields f hf)⟩
  have hinitialize : WellNested (messageCall m.runtime "initialize"
      ["this", "Array.isArray(data) ? data : []", "0", "-1", numberArray m.repeatedFields,
        "this.#one_of_decls"] ++ ";") := by
    refine .append (wellNested_messageCall h.runtime (.last rfl) ?_) (.last rfl)
    simp only [List.forall_mem_cons]
    exact ⟨.last rfl, .last rfl, .last rfl, wellNested_numberArray _, .last rfl,
      List.forall_mem_nil _⟩
  have hmaps : WellNestedLines ((m.fields.filter (·.isMap)).flatMap initialMap) :=
    .flatMap fun f hf => wellNested_initialMap (h.fields f (List.mem_of_mem_filter hf))
  refine (hsignature.withFront (.last rfl)).block ?_
  exact .append (.append (.cons (.last rfl) (.singleton hinitialize))
    (wellNested_initialValues h.fields)) hmaps

theorem wellNested_oneofSlot (position : Nat) : WellNested (oneofSlot position) := by
  have hposition : WellNested (toString position) := (isRaw_repr position).wellNested
  unfold oneofSlot
  rw [String.append_assoc]
  exact .lit rfl <| .code hposition <| .last rfl

theorem wellNested_fieldAccessors {m : MessageClass} (h : m.Plain) {f : FieldDeclaration}
    (hf : f.Plain) : ∀ member ∈ fieldAccessors m f, WellNestedLines member.lines := by
  have hslot : ∀ slot ∈ fieldSlot m f, WellNested slot := by
    intro slot hslot
    obtain ⟨position, -, rfl⟩ := Option.map_eq_some_iff.1 hslot
    exact wellNested_oneofSlot position
  have hgetter : WellNested ("return " ++ getterValue m.runtime f ++ ";") := by
    rw [String.append_assoc]
    exact .lit rfl <| .code (wellNested_getterValue hf h.runtime) <| .last rfl
  have hsetter : WellNested (setterCall m.runtime f (fieldSlot m f) ++ ";") :=
    .code (wellNested_setterCall h.runtime hslot) <| .last rfl
  have hpresence : WellNestedLines (presenceAccessor m.runtime f).lines := by
    have hcall : WellNested (messageCall m.runtime "getField" ["this", decimal f.number]) :=
      wellNested_messageCall h.runtime (.last rfl)
        (List.forall_mem_singleton.2 (wellNested_decimal f.number))
    refine wellNested_getter (.lit rfl <| .lastCode hf.name.wellNested) (.singleton ?_) false
    rw [String.append_assoc]
    exact .lit rfl <| .code hcall <| .last rfl
  have haccessors : ∀ member ∈ [
      Member.getter f.deprecated f.name [line ("return " ++ getterValue m.runtime f ++ ";")],
      Member.setter f.name (propertyType f)
        [line (setterCall m.runtime f (fieldSlot m f) ++ ";")]], WellNestedLines member.lines := by
    simp only [List.forall_mem_cons]
    exact ⟨wellNested_getter hf.name.wellNested (.singleton hgetter) f.deprecated,
      wellNested_setter hf.name.wellNested (.singleton hsetter) (wellNested_propertyType hf),
      List.forall_mem_nil _⟩
  refine List.forall_mem_append.2 ⟨haccessors, ?_⟩
  split_ifs
  · exact List.forall_mem_singleton.2 hpresence
  · exact List.forall_mem_nil _

theorem wellNested_oneofCase {m : MessageClass} (h : m.Plain) {oneof : OneofDeclaration}
    (hname : IsRaw oneof.name) : WellNestedLines (oneofCase m oneof).lines := by
  have hmember : ∀ member ∈ m.memberFields oneof, IsRaw member.2 := by
    intro member hmember
    obtain ⟨number, -, hfield⟩ := List.mem_filterMap.1 hmember
    obtain ⟨f, hf, rfl⟩ := Option.map_eq_some_iff.1 hfield
    exact (h.of_field? hf).name
  have halternatives : WellNested (String.join
      ((m.memberFields oneof).map fun member => " | \"" ++ member.2 ++ "\"")) := by
    refine wellNested_join (List.forall_mem_map.2 fun member hm => ?_)
    rw [String.append_assoc]
    exact .lit rfl <| .quoted (hmember member hm) <| .last rfl
  have hcases : ∀ text ∈ Text.withCommas ("0: \"none\"" :: (m.memberFields oneof).map
      fun member => decimal member.1 ++ ": \"" ++ member.2 ++ "\""), WellNested text := by
    refine wellNested_withCommas (List.forall_mem_cons.2 ⟨.last rfl, ?_⟩)
    refine List.forall_mem_map.2 fun member hm => ?_
    simp only [String.append_assoc]
    exact .code (wellNested_decimal _) <| .lit rfl <| .quoted (hmember member hm) <| .last rfl
  have hcall : WellNested
      (messageCall m.runtime "computeOneofCase" ["this", numberArray oneof.members]) :=
    wellNested_messageCall h.runtime (.last rfl)
      (List.forall_mem_singleton.2 (wellNested_numberArray _))
  have hindex : WellNested ("[index: number]: \"none\"" ++ String.join
      ((m.memberFields oneof).map fun member => " | \"" ++ member.2 ++ "\"") ++ ";") := by
    rw [String.append_assoc]
    exact .lit rfl <| .code halternatives <| .last rfl
  have hreturn : WellNested ("return cases[" ++
      messageCall m.runtime "computeOneofCase" ["this", numberArray oneof.members] ++ "];") := by
    rw [String.append_assoc]
    exact .lit rfl <| .code hcall <| .last rfl
  -- the type of `cases` and its value are the blocks that a line closes and the next opens
  have htype : TakesLines [line "const cases: \x7b"] [] ['\x7d'] := .cons (.last rfl) .nil
  have hvalue : TakesLines [line "\x7d = \x7b"] ['\x7d'] ['\x7d'] := .cons (.last rfl) .nil
  have hlast : TakesLines [line "\x7d;", line ("return cases[" ++
      messageCall m.runtime "computeOneofCase" ["this", numberArray oneof.members] ++ "];")]
      ['\x7d'] [] := .cons (.last rfl) (.cons hreturn .nil)
  refine wellNested_getter hname.wellNested ?_ false
  exact (((htype.append (.indent (WellNestedLines.inside (.singleton hindex) _))).append
    hvalue).append (.indent (WellNestedLines.inside (.map_line hcases) _))).append hlast

/-! ### Conversions -/

section Conversions

variable {f : FieldDeclaration} (h : f.Plain) {text : String} (htext : WellNested text)

include h htext

theorem wellNested_fieldFromObject : WellNested (fieldFromObject f text) := by
  have hshape : f.shape.Plain := h.type.shape f.isRepeated
  rw [fieldFromObject]
  cases hf : f.shape with
  | messages name =>
    have hname : IsRaw name := by rwa [hf] at hshape
    simp only [String.append_assoc]
    exact .code htext <| .lit rfl <| .code hname.wellNested <| .last rfl
  | message name =>
    have hname : IsRaw name := by rwa [hf] at hshape
    simp only [String.append_assoc]
    exact .code hname.wellNested <| .lit rfl <| .code htext <| .last rfl
  | map key mapped =>
    have hmapped : mapped.Plain := by rwa [hf] at hshape
    have hkey : WellNested (mapKey key) := by cases key <;> exact .last rfl
    have hvalue : WellNested (mapValue mapped) := by
      cases mapped with
      | message name => exact .code (IsRaw.wellNested hmapped) <| .last rfl
      | _ => exact .last rfl
    simp only [String.append_assoc]
    exact .lit rfl <| .code htext <| .lit rfl <| .code hkey <| .lit rfl <| .code hvalue <|
      .lit rfl <| .code (wellNested_tsType_scalar key) <| .lit rfl <|
      .code (wellNested_tsType hmapped) <| .last rfl
  | values type => exact htext
  | value type => exact htext

theorem wellNested_fieldToObject : WellNested (fieldToObject f text) := by
  have hshape : f.shape.Plain := h.type.shape f.isRepeated
  rw [fieldToObject]
  cases hf : f.shape with
  | messages name =>
    have hname : IsRaw name := by rwa [hf] at hshape
    simp only [String.append_assoc]
    exact .code htext <| .lit rfl <| .code hname.wellNested <| .last rfl
  | message name => exact .code htext <| .last rfl
  | map key mapped =>
    dsimp only
    split_ifs
    · rw [String.append_assoc]
      exact .lit rfl <| .code htext <| .last rfl
    · rw [String.append_assoc]
      exact .lit rfl <| .code htext <| .last rfl
  | values type => exact htext
  | value type => exact htext

end Conversions

theorem wellNested_readKey {f : FieldDeclaration} (h : f.Plain) : WellNestedLines (readKey f) := by
  have hkey : WellNested ("data." ++ f.objectKey) := .lit rfl <| .lastCode h.objectKey.wellNested
  have hstatement : WellNested ("message." ++ f.name ++ " = " ++
      fieldFromObject f ("data." ++ f.objectKey) ++ ";") := by
    simp only [String.append_assoc]
    exact .lit rfl <| .code h.name.wellNested <| .lit rfl <|
      .code (wellNested_fieldFromObject h hkey) <| .last rfl
  exact .guardedBlock (.code hkey <| .last rfl) (.singleton hstatement)

theorem wellNested_writeKey {f : FieldDeclaration} (h : f.Plain) :
    WellNestedLines (writeKey f) := by
  have hvalue : WellNested ("this." ++ f.name) := .lit rfl <| .lastCode h.name.wellNested
  have hstatement : WellNested ("data." ++ f.objectKey ++ " = " ++
      fieldToObject f ("this." ++ f.name) ++ ";") := by
    simp only [String.append_assoc]
    exact .lit rfl <| .code h.objectKey.wellNested <| .lit rfl <|
      .code (wellNested_fieldToObject h hvalue) <| .last rfl
  refine .guardedBlock ?_ (.singleton hstatement)
  split_ifs
  · exact .lit rfl <| .lastCode h.name.wellNested
  · exact .code hvalue <| .last rfl

theorem wellNested_objectEntries {m : MessageClass} (h : m.Plain) :
    ∀ e ∈ objectEntries m, WellNested e.1 ∧ WellNested e.2 :=
  List.forall_mem_map.2 fun f hf =>
    ⟨(h.fields f hf).objectKey.wellNested, wellNested_objectType (h.fields f hf)⟩

theorem wellNested_fromObject {m : MessageClass} (h : m.Plain) :
    WellNestedLines (fromObject m).lines := by
  have hname := h.name.wellNested
  refine wellNested_method (.last rfl) ?_ (.objectTyped (y := [')']) (.last rfl)
    (wellNested_objectEntries h) ?_)
  · refine .append (.append (.singleton ?_) ?_) (.singleton (.last rfl))
    · rw [String.append_assoc]
      exact .lit rfl <| .code hname <| .last rfl
    · exact .flatMap fun f hf => wellNested_readKey (h.fields f hf)
  · rw [String.append_assoc]
    exact .lit rfl <| .code hname <| .last rfl

theorem wellNested_toObject {m : MessageClass} (h : m.Plain) :
    WellNestedLines (toObject m).lines := by
  have hdata : WellNestedLines
      (Signature.objectTyped "const data: " (objectEntries m) " = \x7b\x7d;").lines :=
    takesLines_objectTyped (.last rfl) (wellNested_objectEntries h) (.last rfl)
  refine wellNested_method (.last rfl) ?_ (.plain (.last rfl))
  refine .append (.append hdata ?_) (.singleton (.last rfl))
  exact .flatMap fun f hf => wellNested_writeKey (h.fields f hf)

end Script

end ProtoTypeScript
