import ProtoTypeScript.Proofs.NestedMembers
import ProtoTypeScript.Script.Enumeration
import ProtoTypeScript.Script.Message

/-!
# Nested brackets in classes and enums

The lines of a plain class are well nested, whatever fields, oneofs and numbers it has:
`wellNested_messageClass` puts this together from a lemma for each member, and
`wellNested_enumeration` says it of enums. A statement that writes or reads a field is well nested
if the texts in its form are.
-/

namespace ProtoTypeScript

/-- The names that are written into the enum are raw. -/
structure EnumDeclaration.Plain (e : EnumDeclaration) : Prop where
  name : Script.IsRaw e.name
  values : ∀ v ∈ e.values, Script.IsRaw v.name

instance EnumDeclaration.decidablePlain (e : EnumDeclaration) : Decidable e.Plain :=
  decidable_of_iff (Script.IsRaw e.name ∧ ∀ v ∈ e.values, Script.IsRaw v.name)
    ⟨fun ⟨name, values⟩ => ⟨name, values⟩, fun h => ⟨h.name, h.values⟩⟩

namespace Script

/-! ### The wire format -/

/-- The default in the condition, if any, is well nested. -/
def WriteGuard.Plain : WriteGuard → Prop
  | present => True
  | nonEmpty => True
  | differsFrom default => WellNested default

/-- The texts in a statement that writes a field are well nested. -/
def WriteForm.Plain : WriteForm → Prop
  | mapEntries _ _ => True
  | messages type => IsRaw type
  | message => True
  | packed method => WellNested method
  | repeated method => WellNested method
  | value guard method => guard.Plain ∧ WellNested method

/-- The texts in a statement that reads a field are well nested. -/
def ReadForm.Plain : ReadForm → Prop
  | mapEntries _ type => type.Plain
  | messages type => IsRaw type
  | message type => IsRaw type
  | packedOrOne method => WellNested method
  | one method => WellNested method
  | value method => WellNested method

theorem plain_writeForm {f : FieldDeclaration} (h : f.Plain) : (writeForm f).Plain := by
  have hshape : f.shape.Plain := h.type.shape f.isRepeated
  rw [writeForm]
  cases hf : f.shape with
  | map key mapped => trivial
  | messages type => rwa [hf] at hshape
  | message type => trivial
  | values type =>
    dsimp only
    split_ifs
    · exact wellNested_wireMethod type
    · exact wellNested_wireMethod type
  | value type =>
    have hguard : (writeGuard f).Plain := by
      unfold writeGuard
      split_ifs
      · trivial
      · trivial
      · exact h.defaultValue
    exact ⟨hguard, wellNested_wireMethod type⟩

theorem plain_readForm {f : FieldDeclaration} (h : f.Plain) : (readForm f).Plain := by
  have hshape : f.shape.Plain := h.type.shape f.isRepeated
  rw [readForm]
  cases hf : f.shape with
  | map key mapped => rwa [hf] at hshape
  | messages type => rwa [hf] at hshape
  | message type => rwa [hf] at hshape
  | values type =>
    dsimp only
    split_ifs
    · exact wellNested_wireMethod type
    · exact wellNested_wireMethod type
  | value type => exact wellNested_wireMethod type

theorem wellNested_condition {guard : WriteGuard} (h : guard.Plain) {name : String}
    (hname : IsRaw name) : WellNested (guard.condition name) := by
  cases guard with
  | present => exact .lit rfl <| .lastCode hname.wellNested
  | nonEmpty =>
    show WellNested ("this." ++ name ++ ".length")
    rw [String.append_assoc]
    exact .lit rfl <| .code hname.wellNested <| .last rfl
  | differsFrom default =>
    show WellNested ("this." ++ name ++ " != " ++ default)
    simp only [String.append_assoc]
    exact .lit rfl <| .code hname.wellNested <| .lit rfl <| .lastCode h

theorem wellNested_writeMapValue (type : FieldType) : WellNested (writeMapValue type) := by
  have hwrite : WellNested ("writer.write" ++ type.wireMethod ++ "(2, value);") := by
    rw [String.append_assoc]
    exact .lit rfl <| .code (wellNested_wireMethod type) <| .last rfl
  cases type with
  | message name => exact .last rfl
  | _ => exact hwrite

theorem wellNested_writeStatement {w : WriteStatement} (hname : IsRaw w.name)
    (hform : w.form.Plain) : WellNestedLines w.lines := by
  have hvalue : WellNested ("this." ++ w.name) := .lit rfl <| .lastCode hname.wellNested
  have hlength : WellNested ("this." ++ w.name ++ ".length") := .code hvalue <| .last rfl
  have hnumber := wellNested_decimal w.number
  have hcall : ∀ {front method : String}, WellNested front → WellNested method →
      WellNested (front ++ method ++ "(" ++ decimal w.number ++ ", " ++ ("this." ++ w.name) ++
        ");") := by
    intro front method hfront hmethod
    simp only [String.append_assoc]
    exact .code hfront <| .code hmethod <| .lit rfl <| .code hnumber <| .lit rfl <| .lit rfl <|
      .code hname.wellNested <| .last rfl
  unfold WriteStatement.lines
  dsimp only
  cases hw : w.form with
  | mapEntries key mapped =>
    have hkey : WellNested ("writer.write" ++ key.wireMethod ++ "(1, key);") := by
      rw [String.append_assoc]
      exact .lit rfl <| .code (wellNested_wireMethod_scalar key) <| .last rfl
    refine .block ['\x7d'] ?_ (.block ['\x7d', ')'] ?_
      (.cons hkey (.singleton (wellNested_writeMapValue mapped))) (.last rfl)) (.last rfl)
    · simp only [String.append_assoc]
      exact .lit rfl <| .lit rfl <| .code hname.wellNested <| .last rfl
    · simp only [String.append_assoc]
      exact .lit rfl <| .code hnumber <| .lit rfl <| .lit rfl <| .code hname.wellNested <| .last rfl
  | messages type =>
    have htype : IsRaw type := by rwa [hw] at hform
    refine .guarded hlength ?_
    simp only [String.append_assoc]
    exact .lit rfl <| .code hnumber <| .lit rfl <| .lit rfl <| .code hname.wellNested <| .lit rfl <|
      .code htype.wellNested <| .last rfl
  | message =>
    refine .guarded (.lit rfl <| .lastCode hname.wellNested) ?_
    simp only [String.append_assoc]
    exact .lit rfl <| .code hnumber <| .lit rfl <| .lit rfl <| .code hname.wellNested <| .lit rfl <|
      .lit rfl <| .code hname.wellNested <| .last rfl
  | packed method =>
    have hmethod : WellNested method := by rwa [hw] at hform
    exact .guarded hlength (hcall (.last rfl) hmethod)
  | repeated method =>
    have hmethod : WellNested method := by rwa [hw] at hform
    exact .guarded hlength (hcall (.last rfl) hmethod)
  | value guard method =>
    obtain ⟨hguard, hmethod⟩ : guard.Plain ∧ WellNested method := by rwa [hw] at hform
    exact .guarded (wellNested_condition hguard hname) (hcall (.last rfl) hmethod)

theorem wellNested_readStatement {r : ReadStatement} (hname : IsRaw r.name) (hform : r.form.Plain)
    {runtime : String} (hruntime : IsRaw runtime) : WellNestedLines (r.lines runtime) := by
  have hvalue : WellNested ("message." ++ r.name) := .lit rfl <| .lastCode hname.wellNested
  have hnumber := wellNested_decimal r.number
  have hrun := hruntime.wellNested
  unfold ReadStatement.lines
  dsimp only
  split
  next key type hr =>
    have htype : IsRaw type := by rwa [hr] at hform
    refine .block ['\x7d', ')', ')'] ?_ (.cons (.last rfl) (.cons ?_ (.singleton (.last rfl))))
      (.last rfl)
    · simp only [String.append_assoc]
      exact .lit rfl <| .code hrun <| .lit rfl <| .lit rfl <| .code hname.wellNested <| .lit rfl <|
        .code (wellNested_wireMethod_scalar key) <| .last rfl
    · rw [String.append_assoc]
      exact .lit rfl <| .code htype.wellNested <| .last rfl
  next key mapped hmapped hr =>
    refine .singleton ?_
    simp only [String.append_assoc]
    exact .lit rfl <| .code hrun <| .lit rfl <| .lit rfl <| .code hname.wellNested <| .lit rfl <|
      .code (wellNested_wireMethod_scalar key) <| .lit rfl <|
      .code (wellNested_wireMethod mapped) <| .last rfl
  next type hr =>
    have htype : IsRaw type := by rwa [hr] at hform
    refine .singleton ?_
    simp only [String.append_assoc]
    exact .lit rfl <| .lit rfl <| .code hname.wellNested <| .lit rfl <| .code hrun <| .lit rfl <|
      .code hnumber <| .lit rfl <| .code htype.wellNested <| .lit rfl <| .code htype.wellNested <|
      .last rfl
  next type hr =>
    have htype : IsRaw type := by rwa [hr] at hform
    refine .singleton ?_
    simp only [String.append_assoc]
    exact .lit rfl <| .lit rfl <| .code hname.wellNested <| .lit rfl <| .lit rfl <|
      .code hname.wellNested <| .lit rfl <| .code htype.wellNested <| .last rfl
  next method hr =>
    have hmethod : WellNested method := by rwa [hr] at hform
    refine .singleton ?_
    simp only [String.append_assoc]
    exact .lit rfl <| .code hname.wellNested <| .lit rfl <| .lit rfl <| .code hname.wellNested <|
      .lit rfl <| .code hmethod <| .lit rfl <| .code hmethod <| .last rfl
  next method hr =>
    have hmethod : WellNested method := by rwa [hr] at hform
    refine .singleton ?_
    simp only [String.append_assoc]
    exact .code hrun <| .lit rfl <| .code hnumber <| .lit rfl <| .code hmethod <| .last rfl
  next method hr =>
    have hmethod : WellNested method := by rwa [hr] at hform
    refine .singleton ?_
    simp only [String.append_assoc]
    exact .lit rfl <| .code hname.wellNested <| .lit rfl <| .code hmethod <| .last rfl

theorem wellNested_readCase {f : FieldDeclaration} (h : f.Plain) {runtime : String}
    (hruntime : IsRaw runtime) : WellNestedLines (readCase runtime (.ofField f)) := by
  have hlabel : WellNested ("case " ++ decimal f.number ++ ":") := by
    rw [String.append_assoc]
    exact .lit rfl <| .code (wellNested_decimal _) <| .last rfl
  have hbody : WellNestedLines ((ReadStatement.ofField f).lines runtime ++ [line "break;"]) :=
    .append (wellNested_readStatement h.name (plain_readForm h) hruntime) (.singleton (.last rfl))
  exact .cons hlabel (TakesLines.indent hbody)

theorem wellNested_serialize {m : MessageClass} (h : m.Plain) :
    WellNestedLines (serialize m).lines := by
  have hruntime := h.runtime.wellNested
  have hstatements :
      WellNestedLines ((m.fields.map WriteStatement.ofField).flatMap WriteStatement.lines) := by
    refine .flatMap (List.forall_mem_map.2 fun f hf => ?_)
    exact wellNested_writeStatement (h.fields f hf).name (plain_writeForm (h.fields f hf))
  refine wellNested_method (.last rfl) (.append (.append (.singleton ?_) hstatements)
    (.guarded (.last rfl) (.last rfl))) (.plain ?_)
  · rw [String.append_assoc]
    exact .lit rfl <| .code hruntime <| .last rfl
  · rw [String.append_assoc]
    exact .lit rfl <| .code hruntime <| .last rfl

theorem wellNested_serializeOverloads {m : MessageClass} (h : m.Plain) :
    ∀ member ∈ serializeOverloads m, WellNestedLines member.lines := by
  have hwriter : WellNested ("(w: " ++ m.runtime ++ ".BinaryWriter): void") := by
    rw [String.append_assoc]
    exact .lit rfl <| .code h.runtime.wellNested <| .last rfl
  have hname : WellNested "serialize" := .last rfl
  refine List.forall_mem_cons.2 ⟨wellNested_overload hname (.last rfl), ?_⟩
  exact List.forall_mem_singleton.2 (wellNested_overload hname hwriter)

theorem wellNested_deserialize {m : MessageClass} (h : m.Plain) :
    WellNestedLines (deserialize m).lines := by
  have hruntime := h.runtime.wellNested
  have hname := h.name.wellNested
  have hcases : WellNestedLines
      ((m.armFields.map ReadStatement.ofField).flatMap (readCase m.runtime)) := by
    refine .flatMap (List.forall_mem_map.2 fun f hf => ?_)
    obtain ⟨number, -, hfield⟩ := List.mem_filterMap.1 hf
    exact wellNested_readCase (h.of_field? hfield) h.runtime
  have hswitch : WellNestedLines (block "switch (reader.getFieldNumber()) \x7b"
      ((m.armFields.map ReadStatement.ofField).flatMap (readCase m.runtime) ++
        [line "default: reader.skipField();"]) "\x7d") :=
    .block ['\x7d'] (.last rfl) (.append hcases (.singleton (.last rfl))) (.last rfl)
  have hloop : WellNestedLines (block "while (reader.nextField()) \x7b"
      (guarded "reader.isEndGroup()" "break;" ++
        block "switch (reader.getFieldNumber()) \x7b"
          ((m.armFields.map ReadStatement.ofField).flatMap (readCase m.runtime) ++
            [line "default: reader.skipField();"]) "\x7d") "\x7d") :=
    .block ['\x7d'] (.last rfl) (.append (.guarded (.last rfl) (.last rfl)) hswitch) (.last rfl)
  refine wellNested_method (.last rfl)
    (.append (.append (.singleton ?_) hloop) (.singleton (.last rfl))) (.plain ?_)
  · simp only [String.append_assoc]
    exact .lit rfl <| .code hruntime <| .lit rfl <| .code hruntime <| .lit rfl <| .code hname <|
      .last rfl
  · simp only [String.append_assoc]
    exact .lit rfl <| .code hruntime <| .lit rfl <| .code hname <| .last rfl

theorem wellNested_binaryMethods {m : MessageClass} (h : m.Plain) :
    ∀ member ∈ binaryMethods m, WellNestedLines member.lines := by
  have hname := h.name.wellNested
  refine List.forall_mem_cons.2 ⟨?_, List.forall_mem_singleton.2 ?_⟩
  · exact wellNested_method (.last rfl) (.singleton (.last rfl)) (.plain (.last rfl))
  · refine wellNested_method (.last rfl) (.singleton ?_) (.plain ?_)
    · rw [String.append_assoc]
      exact .lit rfl <| .code hname <| .last rfl
    · rw [String.append_assoc]
      exact .lit rfl <| .code hname <| .last rfl

/-! ### Classes and enums -/

theorem wellNested_members {m : MessageClass} (h : m.Plain) :
    ∀ member ∈ members m, WellNestedLines member.lines := by
  have hfields : ∀ member ∈ m.fields.flatMap (fieldAccessors m), WellNestedLines member.lines := by
    intro member hmember
    obtain ⟨f, hf, hmember⟩ := List.mem_flatMap.1 hmember
    exact wellNested_fieldAccessors h (h.fields f hf) member hmember
  have honeofs : ∀ oneof ∈ m.oneofs, WellNestedLines (oneofCase m oneof).lines :=
    fun oneof ho => wellNested_oneofCase h (h.oneofs oneof ho)
  simp only [members, List.forall_mem_append, List.forall_mem_cons, List.forall_mem_map,
    List.not_mem_nil, false_imp_iff, implies_true, and_true]
  exact ⟨⟨⟨⟨⟨⟨⟨wellNested_slots _, wellNested_constructor h⟩, hfields⟩, honeofs⟩,
    wellNested_fromObject h, wellNested_toObject h⟩, wellNested_serializeOverloads h⟩,
    wellNested_serialize h, wellNested_deserialize h⟩, wellNested_binaryMethods h⟩

theorem wellNested_messageClass {m : MessageClass} (h : m.Plain) :
    WellNestedLines (messageClass m) := by
  refine .append (.deprecation _) (.block ['\x7d'] ?_ (.flatMap (wellNested_members h)) (.last rfl))
  simp only [String.append_assoc]
  exact .lit rfl <| .code h.name.wellNested <| .lit rfl <| .code h.runtime.wellNested <| .last rfl

theorem wellNested_enumeration {e : EnumDeclaration} (h : e.Plain) :
    WellNestedLines (enumeration e) := by
  have hvalues : ∀ text ∈ e.values.map enumValue, WellNested text := by
    refine List.forall_mem_map.2 fun v hv => ?_
    rw [enumValue, String.append_assoc]
    exact .code (h.values v hv).wellNested <| .lit rfl <| .lastCode (wellNested_decimal _)
  refine .append (.deprecation _) (.block ['\x7d'] ?_ (.map_line (wellNested_withCommas hvalues))
    (.last rfl))
  rw [String.append_assoc]
  exact .lit rfl <| .code h.name.wellNested <| .last rfl

end Script

end ProtoTypeScript
