import ProtoTypeScript.Proofs.PrintedStrings
import ProtoTypeScript.Script.Message

/-!
# Lines of message classes

If no string of a message class has a line feed, no line of the class has one: neither the
expressions that are written for a field, nor the statements that use them, nor the members that
these stand in.
-/

namespace ProtoTypeScript

namespace Script

/-! ### Numbers and types -/

@[simp] theorem oneLine_decimal_any (n : Int32) : OneLine (decimal n) := by
  rw [decimal]
  cases n.toInt with
  | ofNat k => exact oneLine_toString k
  | negSucc k =>
    have hsign : toString (Int.negSucc k) = "-" ++ toString (k + 1) := rfl
    rw [hsign, oneLine_append]
    exact ⟨oneLine_literal rfl, oneLine_toString (k + 1)⟩

@[simp] theorem oneLine_numberArray (ns : List Int32) : OneLine (numberArray ns) := by
  have hparts : OneLine (Text.joinWith ", " (ns.map decimal)) :=
    oneLine_joinWith (oneLine_literal rfl) (List.forall_mem_map.2 fun n _ => oneLine_decimal_any n)
  simp [numberArray, hparts]

@[simp] theorem oneLine_oneofSlot (position : Nat) : OneLine (oneofSlot position) := by
  unfold oneofSlot
  rw [oneLine_append, oneLine_append]
  exact ⟨⟨oneLine_literal rfl, oneLine_toString position⟩, oneLine_literal rfl⟩

@[simp] theorem oneLine_tsType_scalar (s : Scalar) : OneLine s.tsType := by
  cases s <;> exact oneLine_literal rfl

@[simp] theorem oneLine_wireMethod_scalar (s : Scalar) : OneLine s.wireMethod :=
  oneLine_wireMethod (.scalar s)

@[simp] theorem oneLine_mapKey (s : Scalar) : OneLine (mapKey s) := by
  cases s <;> exact oneLine_literal rfl

section Types

variable {type : FieldType} (h : ∀ text ∈ type.strings, OneLine text)

include h

theorem oneLine_tsType : OneLine type.tsType := by
  induction type with
  | scalar s => exact oneLine_tsType_scalar s
  | enumeration name => exact h name (List.mem_singleton_self name)
  | message name => exact h name (List.mem_singleton_self name)
  | map key value ih => simp [FieldType.tsType, ih h]

theorem oneLine_objectValueType : OneLine (objectValueType type) := by
  induction type with
  | scalar s =>
    show OneLine s.tsType
    exact oneLine_tsType_scalar s
  | enumeration name =>
    show OneLine name
    exact h name (List.mem_singleton_self name)
  | message name =>
    show OneLine ("ReturnType<typeof " ++ name ++ ".prototype.toObject>")
    simp [h name (List.mem_singleton_self name)]
  | map key value ih =>
    show OneLine ("\x7b [key: string]: " ++ objectValueType value ++ " \x7d")
    simp [ih h]

theorem oneLine_mapValue : OneLine (mapValue type) := by
  cases type with
  | message name => simp [mapValue, h name (List.mem_singleton_self name)]
  | scalar | enumeration | map => simp [mapValue]

end Types

theorem oneLine_messageCall {runtime function : String} {arguments : List String}
    (hruntime : OneLine runtime) (hfunction : OneLine function)
    (harguments : ∀ argument ∈ arguments, OneLine argument) :
    OneLine (messageCall runtime function arguments) := by
  have hlist : OneLine (Text.joinWith ", " arguments) :=
    oneLine_joinWith (oneLine_literal rfl) harguments
  simp [messageCall, hruntime, hfunction, hlist]

/-! ### Fields -/

section Fields

variable {f : FieldDeclaration} (htype : ∀ text ∈ f.type.strings, OneLine text)

include htype

theorem oneLine_shape : ∀ text ∈ f.shape.strings, OneLine text := by
  rwa [f.strings_shape]

theorem oneLine_propertyType : OneLine (propertyType f) := by
  unfold propertyType
  split_ifs <;> simp [oneLine_tsType htype]

theorem oneLine_objectType : OneLine (objectType f) := by
  unfold objectType
  split_ifs <;> simp [oneLine_objectValueType htype]

theorem oneLine_getterValue (hdefault : OneLine f.defaultValue) {runtime : String}
    (hruntime : OneLine runtime) : OneLine (getterValue runtime f) := by
  have hproperty := oneLine_propertyType htype
  have hshape := oneLine_shape htype
  rw [getterValue]
  cases hf : f.shape with
  | map key value => simp [oneLine_messageCall, hruntime, hproperty]
  | messages message | message message =>
    rw [hf] at hshape
    simp [oneLine_messageCall, hruntime, hproperty,
      hshape message (List.mem_singleton_self message)]
  | values type | value type => simp [oneLine_messageCall, hruntime, hproperty, hdefault]

omit htype in
theorem oneLine_setterCall {runtime : String} (hruntime : OneLine runtime) {slot : Option String}
    (hslot : ∀ s ∈ slot, OneLine s) : OneLine (setterCall runtime f slot) := by
  unfold setterCall
  dsimp only
  split <;> simp_all [oneLine_messageCall]

theorem oneLine_fieldFromObject {value : String} (hvalue : OneLine value) :
    OneLine (fieldFromObject f value) := by
  have hshape := oneLine_shape htype
  rw [fieldFromObject]
  cases hf : f.shape with
  | map key type =>
    rw [hf] at hshape
    simp [hvalue, oneLine_mapValue hshape, oneLine_tsType hshape]
  | messages message | message message =>
    rw [hf] at hshape
    simp [hvalue, hshape message (List.mem_singleton_self message)]
  | values type | value type => exact hvalue

theorem oneLine_fieldToObject {value : String} (hvalue : OneLine value) :
    OneLine (fieldToObject f value) := by
  have hshape := oneLine_shape htype
  rw [fieldToObject]
  cases hf : f.shape with
  | map key type =>
    dsimp only
    split_ifs <;> simp [hvalue]
  | messages message =>
    rw [hf] at hshape
    simp [hvalue, hshape message (List.mem_singleton_self message)]
  | message message => simp [hvalue]
  | values type | value type => exact hvalue

end Fields

theorem oneLine_fieldSlot {m : MessageClass} {f : FieldDeclaration} :
    ∀ s ∈ fieldSlot m f, OneLine s := by
  intro s hs
  obtain ⟨position, -, rfl⟩ := Option.map_eq_some_iff.1 hs
  exact oneLine_oneofSlot position

/-! ### Members of classes -/

section Members

variable {name : String} {body : List Line}

theorem oneLines_getter (deprecated : Bool) (hname : OneLine name) (hbody : OneLines body) :
    OneLines (Member.getter deprecated name body).lines :=
  .append (.deprecation deprecated) (.block (by simp [hname]) hbody (by simp))

theorem oneLines_setter {type : String} (hname : OneLine name) (htype : OneLine type)
    (hbody : OneLines body) : OneLines (Member.setter name type body).lines :=
  .block (by simp [hname, htype]) hbody (by simp)

theorem oneLine_modifiers (isStatic overrides : Bool) :
    OneLine (Member.modifiers isStatic overrides) := by
  cases isStatic <;> cases overrides <;> simp [Member.modifiers]

theorem oneLines_method (isStatic overrides : Bool) {text : String} (hname : OneLine name)
    (htext : OneLine text) (hbody : OneLines body) :
    OneLines (Member.method isStatic overrides name (.plain text) body).lines := by
  have hmodifiers := oneLine_modifiers isStatic overrides
  exact .signatureBlock (.cons (by simp [hmodifiers, hname, htext]) .nil) hbody

end Members

section Fields

variable {f : FieldDeclaration} (h : ∀ text ∈ f.strings, OneLine text)

include h

theorem oneLine_name : OneLine f.name :=
  h _ (by simp [FieldDeclaration.strings])

theorem oneLine_objectKey : OneLine f.objectKey :=
  h _ (by simp [FieldDeclaration.strings])

theorem oneLine_default : OneLine f.defaultValue :=
  h _ (by simp [FieldDeclaration.strings])

theorem oneLine_type : ∀ text ∈ f.type.strings, OneLine text :=
  fun text htext => h text (List.mem_append_right _ htext)

omit h in
theorem oneLines_initialValue (hname : OneLine f.name) : OneLines (initialValue f) :=
  .guardedBlock (by simp [hname]) (.cons (by simp [hname]) .nil)

omit h in
theorem oneLines_initialMap (hname : OneLine f.name) : OneLines (initialMap f) :=
  .guarded (by simp [hname]) (by simp [hname])

theorem oneLines_readKey : OneLines (readKey f) := by
  have hname := oneLine_name h
  have hvalue : OneLine ("data." ++ f.objectKey) := by simp [oneLine_objectKey h]
  have hread := oneLine_fieldFromObject (oneLine_type h) hvalue
  exact .guardedBlock (by simp [oneLine_objectKey h]) (.cons (by simp [hname, hread]) .nil)

theorem oneLines_writeKey : OneLines (writeKey f) := by
  have hname := oneLine_name h
  have hvalue : OneLine ("this." ++ f.name) := by simp [hname]
  have hwritten := oneLine_fieldToObject (oneLine_type h) hvalue
  refine .guardedBlock ?_ (.cons (by simp [oneLine_objectKey h, hwritten]) .nil)
  split_ifs <;> simp [hname]

theorem oneLines_writeStatement : OneLines (WriteStatement.ofField f).lines := by
  have hname := oneLine_name h
  have hcondition := oneLine_condition hname fun _ => oneLine_default h
  have hshape := oneLine_shape (oneLine_type h)
  rw [WriteStatement.lines, WriteStatement.ofField, writeForm]
  cases hf : f.shape with
  | map key type =>
    have hvalue : OneLine (writeMapValue type) := by
      cases type <;> simp [writeMapValue, oneLine_wireMethod]
    exact .block (by simp [hname]) (.block (by simp [hname])
      (.cons (by simp) (.cons hvalue .nil)) (by simp)) (by simp)
  | messages type =>
    rw [hf] at hshape
    exact .guarded (by simp [hname]) (by simp [hname, hshape type (List.mem_singleton_self type)])
  | message type => exact .guarded (by simp [hname]) (by simp [hname])
  | values type =>
    dsimp only
    split_ifs <;> exact .guarded (by simp [hname]) (by simp [hname, oneLine_wireMethod])
  | value type => exact .guarded hcondition (by simp [hname, oneLine_wireMethod])

theorem oneLines_readCase {runtime : String} (hruntime : OneLine runtime) :
    OneLines (readCase runtime (.ofField f)) := by
  have hname := oneLine_name h
  have hshape := oneLine_shape (oneLine_type h)
  have hread : OneLines ((ReadStatement.ofField f).lines runtime) := by
    rw [ReadStatement.lines, ReadStatement.ofField, readForm]
    cases hf : f.shape with
    | map key type =>
      cases type with
      | message name =>
        rw [hf] at hshape
        have hmessage := hshape name (List.mem_singleton_self name)
        exact .block (by simp [hruntime, hname])
          (.cons (by simp) (.cons (by simp [hmessage]) (.cons (by simp) .nil))) (by simp)
      | scalar | enumeration | map =>
        exact .cons (by simp [hruntime, hname, oneLine_wireMethod]) .nil
    | messages type | message type =>
      rw [hf] at hshape
      exact .cons (by simp [hruntime, hname, hshape type (List.mem_singleton_self type)]) .nil
    | values type =>
      dsimp only
      split_ifs <;> exact .cons (by simp [hruntime, hname, oneLine_wireMethod]) .nil
    | value type => exact .cons (by simp [hname, oneLine_wireMethod]) .nil
  exact .cons (by simp) (.indent (.append hread (.cons (by simp) .nil)))

end Fields

section Classes

variable {m : MessageClass} (h : ∀ text ∈ m.strings, OneLine text)

include h

theorem oneLine_className : OneLine m.name :=
  h _ (by simp [MessageClass.strings])

theorem oneLine_runtime : OneLine m.runtime :=
  h _ (by simp [MessageClass.strings])

theorem oneLine_field {f : FieldDeclaration} (hf : f ∈ m.fields) :
    ∀ text ∈ f.strings, OneLine text := by
  refine fun text htext => h text ?_
  rw [MessageClass.strings, List.mem_append, List.mem_append]
  exact .inl (.inr (List.mem_flatMap.2 ⟨f, hf, htext⟩))

theorem oneLine_oneofName {oneof : OneofDeclaration} (honeof : oneof ∈ m.oneofs) :
    OneLine oneof.name :=
  h _ (List.mem_append_right _ (List.mem_map.2 ⟨oneof, honeof, rfl⟩))

omit h in
/-- Keys of plain objects do not matter to constructors. -/
theorem oneLines_constructor (hruntime : OneLine m.runtime)
    (hnames : ∀ f ∈ m.fields, OneLine f.name)
    (htypes : ∀ f ∈ m.fields, ∀ text ∈ f.type.strings, OneLine text) :
    OneLines (constructor m).lines := by
  have hinitialize : OneLine (messageCall m.runtime "initialize"
      ["this", "Array.isArray(data) ? data : []", "0", "-1", numberArray m.repeatedFields,
        "this.#one_of_decls"] ++ ";") := by
    simp [oneLine_messageCall, hruntime]
  have hvalues : OneLines (initialValues m.fields) := by
    unfold initialValues
    split_ifs
    · exact .nil
    · exact .guardedBlock (by simp) (.flatMap fun f hf => oneLines_initialValue (hnames f hf))
  have hmaps : OneLines ((m.fields.filter (·.isMap)).flatMap initialMap) :=
    .flatMap fun f hf => oneLines_initialMap (hnames f (List.mem_of_mem_filter hf))
  have hentries : ∀ e ∈ m.fields.map fun f => (f.name, propertyType f),
      OneLine e.1 ∧ OneLine e.2 :=
    List.forall_mem_map.2 fun f hf => ⟨hnames f hf, oneLine_propertyType (htypes f hf)⟩
  exact .signatureBlock (.objectTyped (by simp) hentries (by simp))
    (.append (.append (.cons (by simp) (.cons hinitialize .nil)) hvalues) hmaps)

theorem oneLines_fieldAccessors {f : FieldDeclaration} (hf : f ∈ m.fields) :
    OneLines ((fieldAccessors m f).flatMap Member.lines) := by
  have hfield := oneLine_field h hf
  have hname := oneLine_name hfield
  have hruntime := oneLine_runtime h
  have htype := oneLine_type hfield
  have hget := oneLine_getterValue htype (oneLine_default hfield) hruntime
  have hset := oneLine_setterCall (f := f) hruntime (oneLine_fieldSlot (m := m) (f := f))
  have hgetter : OneLines (Member.getter f.deprecated f.name
      [line ("return " ++ getterValue m.runtime f ++ ";")]).lines :=
    oneLines_getter f.deprecated hname (.cons (by simp [hget]) .nil)
  have hsetter : OneLines (Member.setter f.name (propertyType f)
      [line (setterCall m.runtime f (fieldSlot m f) ++ ";")]).lines :=
    oneLines_setter hname (oneLine_propertyType htype) (.cons (by simp [hset]) .nil)
  have hpresence : OneLines (presenceAccessor m.runtime f).lines :=
    oneLines_getter false (by simp [hname])
      (.cons (by simp [oneLine_messageCall, hruntime]) .nil)
  rw [fieldAccessors, List.flatMap_append, List.flatMap_cons, List.flatMap_singleton]
  refine .append (.append hgetter hsetter) ?_
  split_ifs
  · rw [List.flatMap_singleton]
    exact hpresence
  · exact .nil

theorem oneLine_memberFields (oneof : OneofDeclaration) :
    ∀ member ∈ m.memberFields oneof, OneLine member.2 := by
  intro member hmember
  obtain ⟨number, -, hnumber⟩ := List.mem_filterMap.1 hmember
  obtain ⟨f, hf, rfl⟩ := Option.map_eq_some_iff.1 hnumber
  exact oneLine_name (oneLine_field h (List.mem_of_find?_eq_some hf))

omit h in
theorem oneLines_oneofCase (hruntime : OneLine m.runtime) {oneof : OneofDeclaration}
    (hname : OneLine oneof.name) (hmembers : ∀ member ∈ m.memberFields oneof, OneLine member.2) :
    OneLines (oneofCase m oneof).lines := by
  have halternatives : OneLine (String.join ((m.memberFields oneof).map fun member =>
      " | \"" ++ member.2 ++ "\"")) :=
    oneLine_join (List.forall_mem_map.2 fun member hmember => by simp [hmembers member hmember])
  have hcases : ∀ text ∈ "0: \"none\"" :: (m.memberFields oneof).map fun member =>
      decimal member.1 ++ ": \"" ++ member.2 ++ "\"", OneLine text :=
    List.forall_mem_cons.2 ⟨by simp,
      List.forall_mem_map.2 fun member hmember => by simp [hmembers member hmember]⟩
  have hreturn : OneLine ("return cases[" ++
      messageCall m.runtime "computeOneofCase" ["this", numberArray oneof.members] ++ "];") := by
    simp [oneLine_messageCall, hruntime]
  exact oneLines_getter false hname (.append (.append (.append (.append
    (.cons (by simp) .nil) (.indent (.cons (by simp [halternatives]) .nil)))
    (.cons (by simp) .nil)) (.indent (.map_line (oneLine_withCommas hcases))))
    (.cons (by simp) (.cons hreturn .nil)))

theorem oneLine_objectEntries : ∀ e ∈ objectEntries m, OneLine e.1 ∧ OneLine e.2 :=
  List.forall_mem_map.2 fun _ hf =>
    ⟨oneLine_objectKey (oneLine_field h hf), oneLine_objectType (oneLine_type (oneLine_field h hf))⟩

theorem oneLines_fromObject : OneLines (fromObject m).lines := by
  have hname := oneLine_className h
  have hmodifiers := oneLine_modifiers true false
  exact .signatureBlock
    (.objectTyped (by simp [hmodifiers]) (oneLine_objectEntries h) (by simp [hname]))
    (.append (.append (.cons (by simp [hname]) .nil)
      (.flatMap fun f hf => oneLines_readKey (oneLine_field h hf))) (.cons (by simp) .nil))

theorem oneLines_toObject : OneLines (toObject m).lines :=
  oneLines_method false m.explicitOverride (by simp) (by simp)
    (.append (.append (.objectTyped (by simp) (oneLine_objectEntries h) (by simp))
      (.flatMap fun f hf => oneLines_writeKey (oneLine_field h hf))) (.cons (by simp) .nil))

theorem oneLines_serialize : OneLines (serialize m).lines := by
  have hruntime := oneLine_runtime h
  have hfields : OneLines ((m.fields.map WriteStatement.ofField).flatMap WriteStatement.lines) := by
    rw [List.flatMap_map]
    exact .flatMap fun f hf => oneLines_writeStatement (oneLine_field h hf)
  exact oneLines_method false false (by simp) (by simp [hruntime])
    (.append (.append (.cons (by simp [hruntime]) .nil) hfields) (.guarded (by simp) (by simp)))

theorem oneLines_serializeOverloads : OneLines ((serializeOverloads m).flatMap Member.lines) := by
  have hruntime := oneLine_runtime h
  exact .cons (by simp) (.cons (by simp [hruntime]) .nil)

theorem oneLines_deserialize : OneLines (deserialize m).lines := by
  have hruntime := oneLine_runtime h
  have hname := oneLine_className h
  have hcases : OneLines
      ((m.armFields.map ReadStatement.ofField).flatMap (readCase m.runtime)) := by
    rw [List.flatMap_map]
    refine .flatMap fun f hf => oneLines_readCase (oneLine_field h ?_) hruntime
    obtain ⟨number, -, hnumber⟩ := List.mem_filterMap.1 hf
    exact List.mem_of_find?_eq_some hnumber
  have hswitch : OneLines (block "switch (reader.getFieldNumber()) \x7b"
      ((m.armFields.map ReadStatement.ofField).flatMap (readCase m.runtime) ++
        [line "default: reader.skipField();"]) "\x7d") :=
    .block (by simp) (.append hcases (.cons (by simp) .nil)) (by simp)
  exact oneLines_method true false (by simp) (by simp [hruntime, hname])
    (.append (.append (.cons (by simp [hruntime, hname]) .nil)
      (.block (by simp) (.append (.guarded (by simp) (by simp)) hswitch) (by simp)))
      (.cons (by simp) .nil))

theorem oneLines_binaryMethods : OneLines ((binaryMethods m).flatMap Member.lines) := by
  have hname := oneLine_className h
  rw [binaryMethods, List.flatMap_cons, List.flatMap_singleton]
  exact .append (oneLines_method _ _ (by simp) (by simp) (.cons (by simp) .nil))
    (oneLines_method _ _ (by simp) (by simp [hname]) (.cons (by simp [hname]) .nil))

theorem oneLines_messageClass : OneLines (messageClass m) := by
  have hslots : OneLines (Member.slots (m.oneofs.map (·.members))).lines := by
    have harrays : OneLine (Text.joinWith ", " ((m.oneofs.map (·.members)).map numberArray)) :=
      oneLine_joinWith (by simp) (List.forall_mem_map.2 fun ns _ => oneLine_numberArray ns)
    refine .cons ?_ .nil
    rw [oneLine_append, oneLine_append]
    exact ⟨⟨oneLine_literal rfl, harrays⟩, oneLine_literal rfl⟩
  have hconstructor : OneLines (constructor m).lines :=
    oneLines_constructor (oneLine_runtime h) (fun f hf => oneLine_name (oneLine_field h hf))
      fun f hf => oneLine_type (oneLine_field h hf)
  have hfields : OneLines (m.fields.flatMap fun f => (fieldAccessors m f).flatMap Member.lines) :=
    .flatMap fun f hf => oneLines_fieldAccessors h hf
  have honeofs : OneLines (m.oneofs.flatMap fun oneof => (oneofCase m oneof).lines) :=
    .flatMap fun oneof honeof => oneLines_oneofCase (oneLine_runtime h) (oneLine_oneofName h honeof)
      (oneLine_memberFields h oneof)
  have hmembers : OneLines ((members m).flatMap Member.lines) := by
    rw [members]
    simp only [List.flatMap_append, List.flatMap_cons, List.flatMap_nil, List.flatMap_map,
      List.flatMap_assoc, List.append_nil]
    exact .append (.append (.append (.append (.append (.append (.append hslots
      hconstructor) hfields) honeofs)
      (.append (oneLines_fromObject h) (oneLines_toObject h))) (oneLines_serializeOverloads h))
      (.append (oneLines_serialize h) (oneLines_deserialize h))) (oneLines_binaryMethods h)
  exact .append (.deprecation m.deprecated)
    (.block (by simp [oneLine_className h, oneLine_runtime h]) hmembers (by simp))

end Classes

end Script

end ProtoTypeScript
