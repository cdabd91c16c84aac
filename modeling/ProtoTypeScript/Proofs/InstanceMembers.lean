import Mathlib.Data.List.Nodup
import ProtoTypeScript.Proofs.PrintedMembers

/-!
# Members of instances

The instances of a class have an accessor for each field and each oneof, presence accessors and the
methods of messages. All of these names stand in one scope, and two kinds of them are not chosen by
the author of the schema.

* `readInstanceName?` reads the name that a printed member gives to instances, and
  `instanceNames_members` says that these are the names of the members;
* `filterMap_instanceName?` lists these, and `nodup_instanceNames_iff` says when they are distinct;
* `instance_members_nodup_iff`: in a printed class this is when no field or oneof has the name of a
  method or of a presence accessor;
* `instance_members_collide`: distinct identifiers are not enough.
-/

namespace ProtoTypeScript

open Outcome

namespace Text

theorem splitOn_append_of_notMem {sep : Char} {xs : List Char} (h : sep ∉ xs) {ys part : List Char}
    {parts : List (List Char)} (hys : splitOn sep ys = part :: parts) :
    splitOn sep (xs ++ ys) = (xs ++ part) :: parts := by
  induction xs with
  | nil => exact hys
  | cons x xs ih =>
    rw [List.mem_cons, not_or] at h
    rw [List.cons_append, splitOn, if_neg (Ne.symm h.1), ih h.2]
    rfl

end Text

namespace Script

/-! ### Readers -/

/-- The name of a getter or a method, given what stands in front of its parameters. -/
def memberName? (front : List Char) : Option String :=
  if front = "constructor".toList then none
  else
    let name := ("get ".toList.isPrefixOf? front <|>
      "override ".toList.isPrefixOf? front).getD front
    if isIdentifier name then some (String.ofList name) else none

/-- The name that the first statement of a member gives to instances. A setter does not count
beside its getter, nor does an overload beside its method. -/
def declaredName? (statement : String) : Option String :=
  if statement.toList.getLast? = some ';' then none
  else (Text.splitOnce? '(' statement.toList).bind fun parts => memberName? parts.1

/-- The name that a member gives to instances. -/
def readInstanceName? (statements : List String) : Option String :=
  (statements.find? (· ≠ "/** @deprecated */")).bind declaredName?

/-- The names that the members of a class at a depth give to instances. -/
def instanceNames (depth : Nat) (printed : List Member) : List String :=
  printed.filterMap fun member => readInstanceName? (member.statements (depth + 1))

theorem memberName?_get {name : String} (h : IsIdentifier name) :
    memberName? ("get " ++ name).toList = some name := by
  have hconstructor : ("get " ++ name).toList ≠ "constructor".toList := by
    intro heq
    have hmem : ' ' ∈ ("get " ++ name).toList := by simp
    exact absurd (heq ▸ hmem) (by decide)
  have hname : ("get ".toList.isPrefixOf? ("get " ++ name).toList <|>
      "override ".toList.isPrefixOf? ("get " ++ name).toList) = some name.toList := by
    rw [String.toList_append, isPrefixOf?_append]
    rfl
  unfold memberName?
  rw [if_neg hconstructor, hname]
  exact (if_pos h).trans (congrArg some String.ofList_toList)

/-- What starts with the text declares no name: it has several words before its parameters, of
which the first is neither `get` nor `override`, and it is no comment. -/
def Nameless (front : String) : Prop :=
  ' ' ∈ front.toList ∧ '(' ∉ front.toList ∧ Apart "get " front ∧ Apart "override " front ∧
    front.toList.head?.any (· != '/') = true

instance (front : String) : Decidable (Nameless front) :=
  inferInstanceAs (Decidable (_ ∧ _))

theorem memberName?_eq_none {front : String} (h : Nameless front) (rest : List Char) :
    memberName? (front.toList ++ rest) = none := by
  obtain ⟨hspace, -, hget, hoverride, -⟩ := h
  have hmem : ' ' ∈ front.toList ++ rest := List.mem_append_left _ hspace
  have hword : isIdentifier (front.toList ++ rest) = false := by
    by_contra hname
    have hidentifier : IsIdentifier (String.ofList (front.toList ++ rest)) := by
      rwa [IsIdentifier, String.toList_ofList, ← Bool.not_eq_false]
    have hnone := hidentifier.notMem (c := ' ') (by decide)
    rw [String.toList_ofList] at hnone
    exact hnone hmem
  have hconstructor : front.toList ++ rest ≠ "constructor".toList := by
    intro heq
    exact absurd (heq ▸ hmem) (by decide)
  have htext : front.toList ++ rest = (front ++ String.ofList rest).toList := by
    rw [String.toList_append, String.toList_ofList]
  unfold memberName?
  rw [if_neg hconstructor, htext, isPrefixOf?_eq_none_of_apart hget,
    isPrefixOf?_eq_none_of_apart hoverride, ← htext]
  exact if_neg (by simp [hword])

theorem declaredName?_eq_none {front : String} (h : Nameless front) (rest : String) :
    declaredName? (front ++ rest) = none := by
  unfold declaredName?
  split_ifs
  · rfl
  cases hsplit : Text.splitOnce? '(' (front ++ rest).toList with
  | none => rfl
  | some parts =>
    obtain ⟨before, after⟩ := parts
    have heq := Text.splitOnce?_eq_some hsplit
    rw [String.toList_append] at heq
    -- the bracket is behind the front, since the front has none
    rcases List.append_eq_append_iff.1 heq with ⟨between, rfl, -⟩ | ⟨between, hfront, hafter⟩
    · exact memberName?_eq_none h between
    · cases between with
      | nil =>
        rw [List.append_nil] at hfront
        have hnone := memberName?_eq_none h []
        rwa [List.append_nil, hfront] at hnone
      | cons c between =>
        obtain ⟨rfl, -⟩ := List.cons.inj hafter
        have hopen := h.2.1
        rw [hfront] at hopen
        exact absurd (List.mem_append_right _ List.mem_cons_self) hopen

theorem declaredName?_parameters {front : String} (hopen : '(' ∉ front.toList) (rest : String)
    (hend : rest.toList.getLast? = some '\x7b') :
    declaredName? (front ++ ("(" ++ rest)) = memberName? front.toList := by
  have hlast : (front ++ ("(" ++ rest)).toList.getLast? = some '\x7b' := by
    rw [String.toList_append, String.toList_append, List.getLast?_append, List.getLast?_append,
      hend]
    rfl
  have hsplit : Text.splitOnce? '(' (front ++ ("(" ++ rest)).toList =
      some (front.toList, rest.toList) := by
    rw [String.toList_append, String.toList_append]
    exact Text.splitOnce?_append hopen _
  unfold declaredName?
  rw [if_neg (by rw [hlast]; decide), hsplit]
  rfl

theorem declaredName?_getter {name : String} (h : IsIdentifier name) :
    declaredName? ("get " ++ name ++ "() \x7b") = some name := by
  have hopen : '(' ∉ ("get " ++ name).toList := by
    rw [String.toList_append, List.mem_append, not_or]
    exact ⟨by decide, h.notMem (by decide)⟩
  exact (declaredName?_parameters hopen ") \x7b" (by decide)).trans
    (memberName?_get h)

theorem declaredName?_overload (front signature : String) :
    declaredName? (front ++ signature ++ ";") = none := by
  unfold declaredName?
  rw [if_pos (by simp)]

/-! ### First statements -/

/-- A member begins with a text that is on one line, whatever comes after it. -/
theorem begins_statements {front tail : String} {rest : List Line} (hfront : OneLine front)
    (hstart : front.toList.head?.any (· != ' ') = true) {member : Member}
    (hlines : member.lines = line (front ++ tail) :: rest) (depth : Nat) :
    Begins front (member.statements depth) := by
  obtain ⟨c, hc, hspace⟩ := exists_start_of_any hstart
  obtain ⟨n, hn⟩ := toList_render ⟨0 + depth, front ++ tail⟩
  -- the first line ends somewhere behind the front
  obtain ⟨part, parts, hparts⟩ := List.exists_cons_of_ne_nil
    (Text.splitOn_ne_nil '\n' (tail.toList ++ '\n' :: (render (indentBy depth rest)).toList))
  have hpad : '\n' ∉ List.replicate n ' ' ++ front.toList := by
    rw [List.mem_append, not_or]
    exact ⟨fun hmem => absurd (List.eq_of_mem_replicate hmem) (by decide), hfront⟩
  have htext : (render (indentBy depth member.lines)).toList =
      (List.replicate n ' ' ++ front.toList) ++
        (tail.toList ++ '\n' :: (render (indentBy depth rest)).toList) := by
    have hrender : render (indentBy depth member.lines) =
        Line.render ⟨0 + depth, front ++ tail⟩ ++ render (indentBy depth rest) := by
      rw [hlines]
      exact render_cons _ _
    rw [hrender, String.toList_append, hn, String.toList_append]
    simp only [List.append_assoc, List.singleton_append]
  have hhead : ∃ c, (front.toList ++ part).head? = some c ∧ c ≠ ' ' :=
    ⟨c, by rw [List.head?_append, hc]; rfl, hspace⟩
  have hne : String.ofList (front.toList ++ part) ≠ "" := by
    intro hempty
    rw [← String.toList_inj, String.toList_ofList] at hempty
    rw [hempty] at hhead
    obtain ⟨_, hnone, -⟩ := hhead
    cases hnone
  have hfirst : String.ofList (front.toList ++ part) = front ++ String.ofList part := by
    rw [String.ofList_append, String.ofList_toList]
  rw [Member.statements, Member.text, statements, htext, Text.splitOn_append_of_notMem hpad hparts,
    List.map_cons, List.append_assoc, dropWhile_replicate_append hhead,
    List.filter_cons_of_pos (by exact decide_eq_true hne), hfirst]
  exact ⟨_, _, rfl⟩

/-! ### Members -/

theorem readInstanceName?_cons {statement : String} (h : statement.toList.head? ≠ some '/')
    (others : List String) :
    readInstanceName? (statement :: others) = declaredName? statement := by
  have hcomment : statement ≠ "/** @deprecated */" := by
    rintro rfl
    exact h rfl
  rw [readInstanceName?, List.find?_cons_of_pos (by simpa using hcomment)]
  rfl

theorem readInstanceName?_eq_none {front : String} (h : Nameless front) {statements : List String}
    (hbegins : Begins front statements) : readInstanceName? statements = none := by
  obtain ⟨rest, others, rfl⟩ := hbegins
  obtain ⟨c, hc, hslash⟩ := (Option.any_eq_true _ _).1 h.2.2.2.2
  have hstart : (front ++ rest).toList.head? ≠ some '/' := by
    rw [String.toList_append, List.head?_append, hc]
    rintro ⟨⟩
    exact absurd hslash (by decide)
  rw [readInstanceName?_cons hstart, declaredName?_eq_none h]

/-- A statement that is read whatever comes after it is the first of its member. -/
theorem statements_first {statement : String} (h : IsStatement statement) (lines : List Line)
    {rest : List Line} (hlines : lines = line statement :: rest) (depth : Nat) :
    ∃ others, statements (render (indentBy depth lines)) = statement :: others := by
  rw [hlines]
  exact ⟨_, statements_cons ⟨0 + depth, statement⟩ _ h⟩

/-- The methods of instances, in the order in which they are written. -/
def generatedMethods : List String :=
  ["toObject", "serialize", "serializeBinary"]

section Members

variable (depth : Nat)

theorem readInstanceName?_getter (deprecated : Bool) {name : String} (h : IsIdentifier name)
    (body : List Line) :
    readInstanceName? ((Member.getter deprecated name body).statements depth) = some name := by
  have hhead : ("get " ++ name ++ "() \x7b").toList.head? ≠ some '/' := by simp
  obtain ⟨others, hfirst⟩ := statements_first (isStatement_getter h.oneLine)
    (block ("get " ++ name ++ "() \x7b") body "\x7d") rfl depth
  rw [Member.statements, Member.text, Member.lines, statements_deprecation, hfirst]
  have hread := (readInstanceName?_cons hhead others).trans (declaredName?_getter h)
  cases deprecated with
  | false => exact hread
  | true => exact hread

/-- The first line of a signature starts with the text in front of it. -/
theorem withFront_block (front : String) (signature : Signature) (body : List Line) :
    ∃ tail rest, (signature.withFront front).block body = line (front ++ tail) :: rest := by
  cases signature with
  | plain text => exact ⟨text, _, rfl⟩
  | objectTyped before entries after =>
    rw [Signature.withFront, Signature.block, Signature.lines]
    split_ifs
    · refine ⟨before ++ "\x7b\x7d" ++ after, indent body ++ [line "\x7d"], ?_⟩
      simp only [String.append_assoc]
      rfl
    · rw [Script.block, String.append_assoc]
      exact ⟨_, _, rfl⟩

theorem readInstanceName?_static (overrides : Bool) (name : String) (signature : Signature)
    (body : List Line) :
    readInstanceName? ((Member.method true overrides name signature body).statements depth) =
      none := by
  obtain ⟨tail, rest, hblock⟩ :=
    withFront_block (Member.modifiers true overrides ++ name) signature body
  have hlines : (Member.method true overrides name signature body).lines =
      line ("static " ++ ((if overrides then "override " else "") ++ name ++ tail)) :: rest := by
    rw [Member.lines, hblock, Member.modifiers, if_pos rfl]
    simp only [String.append_assoc]
  exact readInstanceName?_eq_none (by decide) (begins_statements (by simp) (by decide) hlines depth)

theorem readInstanceName?_setter (name type : String) (body : List Line) :
    readInstanceName? ((Member.setter name type body).statements depth) = none := by
  have hlines : (Member.setter name type body).lines =
      line ("set " ++ (name ++ "(value: " ++ type ++ ") \x7b")) ::
        (indent body ++ [line "\x7d"]) := by
    rw [Member.lines]
    simp only [← String.append_assoc]
    rfl
  exact readInstanceName?_eq_none (by decide) (begins_statements (by simp) (by decide) hlines depth)

theorem readInstanceName?_slots (groups : List (List Int32)) :
    readInstanceName? ((Member.slots groups).statements depth) = none := by
  have hlines : (Member.slots groups).lines = line ("#one_of_decls: number[][] = [" ++
      (Text.joinWith ", " (groups.map numberArray) ++ "];")) :: [] := by
    rw [← String.append_assoc]
    rfl
  exact readInstanceName?_eq_none (by decide) (begins_statements (by simp) (by decide) hlines depth)

theorem readInstanceName?_constructor (m : MessageClass) :
    readInstanceName? ((constructor m).statements depth) = none := by
  have hlines : ∃ tail rest, OneLine tail ∧ (constructor m).lines =
      line ("constructor(data?: any[] | " ++ tail) :: rest :=
    objectTyped_block _ _ (by simp) _
  obtain ⟨tail, rest, -, hlines⟩ := hlines
  obtain ⟨rest', others, hbegins⟩ := begins_statements (by simp) (by decide) hlines depth
  have hhead : ("constructor(data?: any[] | " ++ rest').toList.head? ≠ some '/' := by simp
  have htext : ("constructor(data?: any[] | " ++ rest').toList =
      "constructor".toList ++ '(' :: ("data?: any[] | " ++ rest').toList := by
    rw [String.toList_append, String.toList_append]
    rfl
  have hopen : '(' ∉ "constructor".toList := by decide
  rw [hbegins, readInstanceName?_cons hhead, declaredName?, htext, Text.splitOnce?_append hopen]
  split_ifs <;> rfl

theorem readInstanceName?_method (overrides : Bool) {name : String}
    (hname : name ∈ generatedMethods) (parameters : String) (hone : OneLine parameters)
    (hend : parameters.toList.getLast? = some '\x7b') (body : List Line) :
    readInstanceName? ((Member.method false overrides name (.plain ("(" ++ parameters))
      body).statements depth) = some name := by
  -- the methods are few, and what is asked of their heads is checked for each
  have hfront : ∀ name ∈ generatedMethods, ∀ overrides : Bool,
      (Member.modifiers false overrides ++ name).toList.head?.any (· != ' ') = true ∧
      (Member.modifiers false overrides ++ name).toList.head? ≠ some '/' ∧
      '(' ∉ (Member.modifiers false overrides ++ name).toList ∧
      '\n' ∉ (Member.modifiers false overrides ++ name).toList ∧
      memberName? (Member.modifiers false overrides ++ name).toList = some name := by
    decide
  obtain ⟨hstart, hslash, hopen, hline, hread⟩ := hfront name hname overrides
  obtain ⟨c, hc, hspace⟩ := exists_start_of_any hstart
  have hhead : (Member.modifiers false overrides ++ name ++ ("(" ++ parameters)).toList.head? =
      some c := by
    rw [String.toList_append, List.head?_append, hc]
    rfl
  have hstatement : IsStatement (Member.modifiers false overrides ++ name ++ ("(" ++ parameters)) :=
    ⟨oneLine_append.2 ⟨hline, oneLine_append.2 ⟨by simp, hone⟩⟩, c, hhead, hspace⟩
  have hnot : (Member.modifiers false overrides ++ name ++ ("(" ++ parameters)).toList.head? ≠
      some '/' := by
    rw [hhead, ← hc]
    exact hslash
  obtain ⟨others, hfirst⟩ := statements_first hstatement
    (Member.method false overrides name (.plain ("(" ++ parameters)) body).lines rfl depth
  rw [Member.statements, Member.text, hfirst, readInstanceName?_cons hnot,
    declaredName?_parameters hopen _ hend, hread]

theorem readInstanceName?_overload {signature : String} (h : OneLine signature) :
    readInstanceName? ((Member.overload "serialize" signature).statements depth) = none := by
  have hstatement : IsStatement ("serialize" ++ signature ++ ";") := by
    have hstart : StartsWithin ['s'] ("serialize" ++ (signature ++ ";")) :=
      .literal_append (by decide)
    rw [String.append_assoc]
    exact .of_startsWithin (by simp [h]) hstart (by decide)
  have hhead : ("serialize" ++ signature ++ ";").toList.head? ≠ some '/' := by simp
  obtain ⟨others, hfirst⟩ := statements_first hstatement
    (Member.overload "serialize" signature).lines rfl depth
  rw [Member.statements, Member.text, hfirst, readInstanceName?_cons hhead, declaredName?_overload]

end Members

/-! ### Names of instances -/

/-- A class whose members have names of their own. -/
structure NamedClass (m : MessageClass) : Prop where
  runtime : OneLine m.runtime
  fields : ∀ f ∈ m.fields, IsIdentifier f.name
  oneofs : ∀ oneof ∈ m.oneofs, IsIdentifier oneof.name

theorem isIdentifier_presence {name : String} (h : IsIdentifier name) :
    IsIdentifier ("has_" ++ name) := by
  have htext : ("has_" ++ name).toList = 'h' :: (['a', 's', '_'] ++ name.toList) := by
    rw [String.toList_append]
    rfl
  have hfront : ('h' :: ['a', 's', '_']).all (fun c => c.isAlphanum || c == '_') = true := rfl
  have hname : name.toList.all (fun c => c.isAlphanum || c == '_') = true :=
    List.all_eq_true.2 h.all
  rw [IsIdentifier, htext, isIdentifier, ← List.cons_append, List.all_append, hfront, hname]
  rfl

section

variable {m : MessageClass} (h : NamedClass m) (depth : Nat)

include h

theorem readInstanceName?_fieldAccessors {f : FieldDeclaration} (hf : f ∈ m.fields) :
    ∀ member ∈ fieldAccessors m f,
      readInstanceName? (member.statements depth) = member.instanceName? := by
  have hname := h.fields f hf
  rw [fieldAccessors, List.forall_mem_append, List.forall_mem_cons, List.forall_mem_singleton]
  refine ⟨⟨readInstanceName?_getter depth _ hname _, readInstanceName?_setter depth _ _ _⟩, ?_⟩
  split_ifs
  · rw [List.forall_mem_singleton]
    exact readInstanceName?_getter depth _ (isIdentifier_presence hname) _
  · exact List.forall_mem_nil _

omit h in
theorem readInstanceName?_toObject (m : MessageClass) :
    readInstanceName? ((toObject m).statements depth) = some "toObject" :=
  readInstanceName?_method depth _ (by decide) ") \x7b" (by simp) (by decide) _

theorem readInstanceName?_serialize :
    readInstanceName? ((serialize m).statements depth) = some "serialize" := by
  have hsignature : "(w?: " ++ m.runtime ++ ".BinaryWriter): Uint8Array | void \x7b" =
      "(" ++ ("w?: " ++ m.runtime ++ ".BinaryWriter): Uint8Array | void \x7b") := by
    simp only [← String.append_assoc]
    rfl
  have hone : OneLine ("w?: " ++ m.runtime ++ ".BinaryWriter): Uint8Array | void \x7b") := by
    simp [h.runtime]
  rw [serialize, hsignature]
  refine readInstanceName?_method depth _ (by decide) _ hone ?_ _
  rw [String.toList_append, List.getLast?_append]
  rfl

/-- The name that is read off a printed member is the one it gives to instances. -/
theorem readInstanceName?_statements : ∀ member ∈ members m,
    readInstanceName? (member.statements depth) = member.instanceName? := by
  have hruntime := h.runtime
  have hbinary : ∀ member ∈ binaryMethods m,
      readInstanceName? (member.statements depth) = member.instanceName? := by
    rw [binaryMethods, List.forall_mem_cons, List.forall_mem_singleton]
    exact ⟨readInstanceName?_method depth _ (by decide) "): Uint8Array \x7b" (by simp)
      (by decide) _, readInstanceName?_static _ _ _ _ _⟩
  have hoverloads : ∀ member ∈ serializeOverloads m,
      readInstanceName? (member.statements depth) = member.instanceName? := by
    rw [serializeOverloads, List.forall_mem_cons, List.forall_mem_singleton]
    exact ⟨readInstanceName?_overload _ (by simp),
      readInstanceName?_overload _ (by simp [hruntime])⟩
  simp only [members, List.forall_mem_append, List.forall_mem_flatMap, List.forall_mem_map]
  refine ⟨⟨⟨⟨⟨⟨?_, ?_⟩, ?_⟩, ?_⟩, hoverloads⟩, ?_⟩, hbinary⟩
  · rw [List.forall_mem_cons, List.forall_mem_singleton]
    exact ⟨readInstanceName?_slots _ _, readInstanceName?_constructor _ _⟩
  · exact fun f hf => readInstanceName?_fieldAccessors h depth hf
  · exact fun oneof honeof => readInstanceName?_getter depth _ (h.oneofs oneof honeof) _
  · rw [List.forall_mem_cons, List.forall_mem_singleton]
    exact ⟨readInstanceName?_static _ _ _ _ _, readInstanceName?_toObject depth m⟩
  · rw [List.forall_mem_cons, List.forall_mem_singleton]
    exact ⟨readInstanceName?_serialize h depth, readInstanceName?_static _ _ _ _ _⟩

theorem instanceNames_members :
    instanceNames depth (members m) = (members m).filterMap Member.instanceName? :=
  List.filterMap_congr (readInstanceName?_statements h _)

end

/-- The names of the members, in the order in which they are written. -/
theorem filterMap_instanceName? (m : MessageClass) :
    (members m).filterMap Member.instanceName? =
      (m.fields.flatMap fun f => f.name :: if f.hasPresence then ["has_" ++ f.name] else []) ++
        m.oneofs.map (·.name) ++ generatedMethods := by
  have hfield : ∀ f : FieldDeclaration, (fieldAccessors m f).filterMap Member.instanceName? =
      f.name :: if f.hasPresence then ["has_" ++ f.name] else [] := by
    intro f
    unfold fieldAccessors
    split_ifs <;> rfl
  have honeof : ∀ oneof : OneofDeclaration, (oneofCase m oneof).instanceName? = some oneof.name :=
    fun _ => rfl
  simp only [members, List.filterMap_append, List.filterMap_flatMap, hfield, List.filterMap_map,
    Function.comp_def, honeof, List.filterMap_eq_map', List.append_assoc]
  rfl

/-! ### Distinct names -/

/-- A presence accessor has the name of no method. -/
theorem has_notMem_generatedMethods (name : String) : "has_" ++ name ∉ generatedMethods := by
  have hstart : ∀ method ∈ generatedMethods, method.toList.head? ≠ some 'h' := by decide
  intro hmem
  refine hstart _ hmem ?_
  rw [String.toList_append, List.head?_append]
  rfl

/-- The names that the schema gives come before those made from them and those of the methods. -/
theorem instanceNames_perm (m : MessageClass) :
    ((members m).filterMap Member.instanceName?).Perm
      ((m.fields.map (·.name) ++ m.oneofs.map (·.name)) ++
        ((m.fields.filter (·.hasPresence)).map (fun f => "has_" ++ f.name) ++
          generatedMethods)) := by
  have hfields : (m.fields.flatMap fun f =>
        f.name :: if f.hasPresence then ["has_" ++ f.name] else []).Perm
      (m.fields.map (·.name) ++
        (m.fields.filter (·.hasPresence)).map fun f => "has_" ++ f.name) := by
    rw [← flatMap_if_singleton, List.map_eq_flatMap]
    exact (List.flatMap_append_perm m.fields (fun f => [f.name]) _).symm
  rw [filterMap_instanceName?, ← List.append_assoc]
  refine (hfields.append_right _).trans ?_ |>.append_right _
  rw [List.append_assoc, List.append_assoc]
  exact List.perm_append_comm.append_left _

/-- Fields and oneofs with distinct names have members of distinct names unless one of them is named
after a method or a presence accessor. -/
theorem nodup_instanceNames_iff {m : MessageClass}
    (hdistinct : (m.fields.map (·.name) ++ m.oneofs.map (·.name)).Nodup) :
    ((members m).filterMap Member.instanceName?).Nodup ↔
      ∀ name ∈ m.fields.map (·.name) ++ m.oneofs.map (·.name), name ∉ generatedMethods ∧
        ∀ f ∈ m.fields, f.hasPresence = true → name ≠ "has_" ++ f.name := by
  have hpresence : ((m.fields.filter (·.hasPresence)).map fun f => "has_" ++ f.name).Nodup := by
    have hnames : ((m.fields.filter (·.hasPresence)).map (·.name)).Nodup :=
      (List.nodup_append.1 hdistinct).1.sublist (List.filter_sublist.map _)
    have hmade := hnames.map fun _ _ h => (String.append_right_inj "has_").1 h
    rwa [List.map_map] at hmade
  have hmade : ((m.fields.filter (·.hasPresence)).map (fun f => "has_" ++ f.name) ++
      generatedMethods).Nodup := by
    refine List.nodup_append.2 ⟨hpresence, by decide, ?_⟩
    rintro _ hname method hmethod rfl
    obtain ⟨f, -, hf⟩ := List.mem_map.1 hname
    exact has_notMem_generatedMethods f.name (hf ▸ hmethod)
  -- what remains is that schema names and made names are apart
  rw [(instanceNames_perm m).nodup_iff, List.nodup_append]
  constructor
  · rintro ⟨-, -, hapart⟩ name hname
    refine ⟨fun hmethod => hapart name hname name (List.mem_append_right _ hmethod) rfl,
      fun f hf hpresent => hapart name hname _ (List.mem_append_left _ ?_)⟩
    exact List.mem_map_of_mem (List.mem_filter.2 ⟨hf, hpresent⟩)
  · intro h
    refine ⟨hdistinct, hmade, ?_⟩
    rintro name hname _ hmem rfl
    rcases List.mem_append.1 hmem with hmem | hmem
    · obtain ⟨f, hf, heq⟩ := List.mem_map.1 hmem
      obtain ⟨hf, hpresent⟩ := List.mem_filter.1 hf
      exact (h name hname).2 f hf hpresent heq.symm
    · exact (h name hname).1 hmem

end Script

/-! ### Printed classes -/

namespace FileScope

/-- The oneofs with a member are some of the declared ones. -/
theorem oneofDeclarationsFrom_sublist (taken : List (Int32 × Int32)) (index : Nat)
    (names : List String) :
    ((oneofDeclarationsFrom taken index names).map (·.name)).Sublist names := by
  induction names generalizing taken index with
  | nil => exact .slnil
  | cons name names ih =>
    rw [oneofDeclarationsFrom]
    split_ifs
    · exact (ih _ _).cons name
    · exact (ih _ _).cons_cons name

end FileScope

section

variable {c : Config} {table : TypeTable} {file : FileDescriptor}

namespace FileScope.LowersMessage

variable {path : List String} {d : MessageDescriptor} {m : MessageClass}
  (h : (FileScope.ofFile c table file).LowersMessage path d m)

include h

theorem map_name : m.fields.map (·.name) = d.fields.map (·.name) := by
  obtain ⟨fields, hfields, rfl⟩ := h
  refine map_eq_map_of_forall₂ (mapM_eq_ok_iff.1 hfields) fun f g hg => ?_
  obtain ⟨type, value, -, -, rfl⟩ := FileScope.fieldDeclaration_eq_ok_iff.1 hg
  rfl

theorem oneofs_sublist : (m.oneofs.map (·.name)).Sublist d.oneofs := by
  obtain ⟨fields, -, rfl⟩ := h
  exact FileScope.oneofDeclarationsFrom_sublist _ 0 d.oneofs

theorem namedClass (hnames : ∀ name ∈ d.fields.map (·.name) ++ d.oneofs, IsIdentifier name) :
    Script.NamedClass m := by
  have hruntime : m.runtime = "pb_1" := by
    obtain ⟨fields, -, rfl⟩ := h
    rfl
  refine ⟨hruntime ▸ oneLine_literal rfl, fun f hf => hnames _ (List.mem_append_left _ ?_),
    fun oneof honeof => hnames _ (List.mem_append_right _ (h.oneofs_sublist.subset ?_))⟩
  · rw [← h.map_name]
    exact List.mem_map_of_mem hf
  · exact List.mem_map_of_mem honeof

end FileScope.LowersMessage

/-- **The members of instances are distinct unless a field or a oneof takes the name of one.** A
printed class declares the accessors of fields, their presence accessors, those of oneofs and the
methods; for identifiers that are distinct within the message, all of these names are distinct
exactly if no field and no oneof with a member is named after a method or after the presence
accessor of a field. -/
theorem instance_members_nodup_iff {path : List String} {d : MessageDescriptor} {m : MessageClass}
    (hlowers : (FileScope.ofFile c table file).LowersMessage path d m)
    (hnames : ∀ name ∈ d.fields.map (·.name) ++ d.oneofs, IsIdentifier name)
    (hdistinct : (d.fields.map (·.name) ++ d.oneofs).Nodup) (depth : ℕ) :
    ∃ printed, Script.render (Script.indentBy depth (Script.messageClass m)) =
        Script.printedClass depth m printed ∧
      Script.instanceNames depth printed =
        (m.fields.flatMap fun f => f.name :: if f.hasPresence then ["has_" ++ f.name] else []) ++
          m.oneofs.map (·.name) ++ Script.generatedMethods ∧
      ((Script.instanceNames depth printed).Nodup ↔
        ∀ name ∈ d.fields.map (·.name) ++ m.oneofs.map (·.name), name ∉ Script.generatedMethods ∧
          ∀ f ∈ m.fields, f.hasPresence = true → name ≠ "has_" ++ f.name) := by
  have hdeclared := hdistinct.sublist ((List.Sublist.refl _).append hlowers.oneofs_sublist)
  rw [← hlowers.map_name] at hdeclared ⊢
  refine ⟨Script.members m, Script.render_messageClass depth m, ?_⟩
  rw [Script.instanceNames_members (hlowers.namedClass hnames)]
  exact ⟨Script.filterMap_instanceName? m, Script.nodup_instanceNames_iff hdeclared⟩

end

/-- A message with a presence accessor, a oneof and a field whose name starts as that of a presence
accessor does. -/
def groveMessage : MessageDescriptor where
  name := "Grove"
  fields := [
    { name? := "shade", number? := some 2, type? := some 1, oneofIndex? := some 1,
      proto3Optional := true },
    { name? := "has_moss", number? := some 4, type? := some 8, oneofIndex? := some 0 },
    { name? := "moss", number? := some 1, type? := some 9, label? := some 3 }]
  oneofs := ["floor", "_shade"]

/-- A message with a field that is named after the presence accessor of another one, and a field
that is named after a method. -/
def sinkholeMessage : MessageDescriptor where
  name := "Sinkhole"
  fields := [
    { name? := "depth", number? := some 1, type? := some 13, oneofIndex? := some 0,
      proto3Optional := true },
    { name? := "has_depth", number? := some 2, type? := some 8 },
    { name? := "serialize", number? := some 3, type? := some 8 }]
  oneofs := ["_depth"]

/-- The scope of a file with one message. -/
def loneScope (d : MessageDescriptor) : FileScope :=
  let file : FileDescriptor := { name := "lone.proto", dialectName := "proto3", messages := [d] }
  .ofFile .default (.ofFiles [file]) file

/-- The class of the only message of a file, if its fields can be declared. -/
def loneClass (d : MessageDescriptor) : MessageClass :=
  (loneScope d).messageClass [] d
    ((d.fields.mapM (loneScope d).fieldDeclaration).toOption.getD [])

theorem instance_members_nodup_iff_grove :
    (loneScope groveMessage).LowersMessage [] groveMessage (loneClass groveMessage) ∧
    (∀ name ∈ groveMessage.fields.map (·.name) ++ groveMessage.oneofs, IsIdentifier name) ∧
    (groveMessage.fields.map (·.name) ++ groveMessage.oneofs).Nodup ∧
    ∃ printed, Script.render (Script.indentBy 0 (Script.messageClass (loneClass groveMessage))) =
        Script.printedClass 0 (loneClass groveMessage) printed ∧
      Script.instanceNames 0 printed = ["shade", "has_shade", "has_moss", "has_has_moss", "moss",
        "floor", "toObject", "serialize", "serializeBinary"] ∧
      (Script.instanceNames 0 printed).Nodup := by
  have hlowers : (loneScope groveMessage).LowersMessage [] groveMessage (loneClass groveMessage) :=
    ⟨_, by decide +kernel, rfl⟩
  have hnames : ∀ name ∈ groveMessage.fields.map (·.name) ++ groveMessage.oneofs,
      IsIdentifier name := by
    decide +kernel
  have hdistinct : (groveMessage.fields.map (·.name) ++ groveMessage.oneofs).Nodup := by decide
  obtain ⟨printed, htext, hlist, hiff⟩ := instance_members_nodup_iff hlowers hnames hdistinct 0
  exact ⟨hlowers, hnames, hdistinct, printed, htext, hlist.trans (by decide +kernel),
    hiff.2 (by decide +kernel)⟩

/-- Distinct identifiers and numbers do not make distinct members: a field has the name of the
presence accessor of another one, and a field that of a method. -/
theorem instance_members_collide :
    (loneScope sinkholeMessage).LowersMessage [] sinkholeMessage (loneClass sinkholeMessage) ∧
    (∀ name ∈ sinkholeMessage.fields.map (·.name) ++ sinkholeMessage.oneofs, IsIdentifier name) ∧
    (sinkholeMessage.fields.map (·.name) ++ sinkholeMessage.oneofs).Nodup ∧
    (sinkholeMessage.fields.map (·.number)).Nodup ∧
    ∃ printed,
      Script.render (Script.indentBy 0 (Script.messageClass (loneClass sinkholeMessage))) =
        Script.printedClass 0 (loneClass sinkholeMessage) printed ∧
      Script.instanceNames 0 printed = ["depth", "has_depth", "has_depth", "serialize", "toObject",
        "serialize", "serializeBinary"] ∧
      ¬ (Script.instanceNames 0 printed).Nodup := by
  have hlowers : (loneScope sinkholeMessage).LowersMessage [] sinkholeMessage
      (loneClass sinkholeMessage) :=
    ⟨_, by decide +kernel, rfl⟩
  have hnames : ∀ name ∈ sinkholeMessage.fields.map (·.name) ++ sinkholeMessage.oneofs,
      IsIdentifier name := by
    decide +kernel
  have hlist : Script.instanceNames 0 (Script.members (loneClass sinkholeMessage)) =
      ["depth", "has_depth", "has_depth", "serialize", "toObject", "serialize",
        "serializeBinary"] := by
    rw [Script.instanceNames_members (hlowers.namedClass hnames), Script.filterMap_instanceName?]
    decide +kernel
  refine ⟨hlowers, hnames, by decide, by decide, _, Script.render_messageClass 0 _, hlist, ?_⟩
  rw [hlist]
  decide

end ProtoTypeScript
