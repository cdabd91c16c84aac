import ProtoTypeScript.Proofs.FieldPresence
import ProtoTypeScript.Proofs.PrintedMembers

/-!
# Guards read back

Under which conditions a printed class writes its fields.

* `guardFor` is the statement that stands in front of the write of a field, for each class of
  presence, and `guardedWrites` lists the guards of a method with the numbers that they guard;
* `readTest?` reads the statements that ask a field for its presence;
* `guardedWrites_serialize`: `serialize` has the guard of its class for each field, in declared
  order;
* `filterMap_readTest?_serialize` and `filterMap_readTest?_toObject`: both methods ask the fields
  with explicit presence, and no other.
-/

namespace ProtoTypeScript

namespace Script

/-! ### Guards -/

/-- The statement in front of the write of a field. -/
def guardFor (f : FieldDeclaration) : Presence → String
  | .map => "for (const [key, value] of this." ++ f.name ++ ") \x7b"
  | .repeated => "if (this." ++ f.name ++ ".length)"
  | .explicit => "if (this.has_" ++ f.name ++ ")"
  | .implicit =>
    if f.type.hasLength then "if (this." ++ f.name ++ ".length)"
    else "if (this." ++ f.name ++ " != " ++ f.defaultValue ++ ")"

/-- The statement decides whether a property of the message is written, or how often. -/
def isGuard (statement : String) : Bool :=
  ("if (this.".toList.isPrefixOf? statement.toList).isSome ||
    ("for (const [key, value] of this.".toList.isPrefixOf? statement.toList).isSome

/-- The guards that a write follows, with the number that is written. -/
def guardedWrites : List String → List (String × Nat)
  | guard :: write :: rest =>
    match isGuard guard, writtenNumber? write with
    | true, some number => (guard, number) :: guardedWrites (write :: rest)
    | _, _ => guardedWrites (write :: rest)
  | _ => []

/-- The field that a statement asks for its presence. -/
def readTest? (statement : String) : Option String := do
  let condition ← "if (this.".toList.isPrefixOf? statement.toList
  let (condition, ending) ← Text.splitOnce? ')' condition
  let name ← "has_".toList.isPrefixOf? condition
  if (ending = [] ∨ ending = " \x7b".toList) ∧ (name.all fun c => c.isAlphanum || c == '_') then
    some (String.ofList name)
  else none

theorem isGuard_eq_false {statement : String} {cs : List Char} (h : StartsWithin cs statement)
    (hi : 'i' ∉ cs) (hf : 'f' ∉ cs) : isGuard statement = false := by
  have hif : "if (this.".toList.isPrefixOf? statement.toList = none :=
    isPrefixOf?_eq_none (h.head?_ne hi)
  have hfor : "for (const [key, value] of this.".toList.isPrefixOf? statement.toList = none :=
    isPrefixOf?_eq_none (h.head?_ne hf)
  rw [isGuard, hif, hfor]
  rfl

theorem isGuard_if {statement : String} (rest : List Char)
    (h : statement.toList = "if (this.".toList ++ rest) : isGuard statement = true := by
  rw [isGuard, h, isPrefixOf?_append]
  rfl

theorem isGuard_guardFor (f : FieldDeclaration) (p : Presence) : isGuard (guardFor f p) = true := by
  have hlength : isGuard ("if (this." ++ f.name ++ ".length)") = true :=
    isGuard_if (f.name.toList ++ ".length)".toList) (by simp)
  cases p with
  | map =>
    have htext : ("for (const [key, value] of this." ++ f.name ++ ") \x7b").toList =
        "for (const [key, value] of this.".toList ++ (f.name.toList ++ ") \x7b".toList) := by
      simp
    show isGuard ("for (const [key, value] of this." ++ f.name ++ ") \x7b") = true
    rw [isGuard, htext, isPrefixOf?_append, Bool.or_eq_true]
    exact .inr rfl
  | repeated => exact hlength
  | explicit =>
    show isGuard ("if (this.has_" ++ f.name ++ ")") = true
    exact isGuard_if ("has_".toList ++ (f.name.toList ++ ")".toList)) (by simp)
  | implicit =>
    show isGuard (if f.type.hasLength then "if (this." ++ f.name ++ ".length)"
      else "if (this." ++ f.name ++ " != " ++ f.defaultValue ++ ")") = true
    split_ifs
    · exact hlength
    · exact isGuard_if (f.name.toList ++ (" != ".toList ++ (f.defaultValue.toList ++ ")".toList)))
        (by simp)

theorem guardedWrites_cons_of_not {statement : String} (h : isGuard statement = false)
    (rest : List String) : guardedWrites (statement :: rest) = guardedWrites rest := by
  cases rest with
  | nil => rfl
  | cons next rest => rw [guardedWrites, h]

theorem guardedWrites_append_of_not {xs : List String} (h : ∀ text ∈ xs, isGuard text = false)
    (rest : List String) : guardedWrites (xs ++ rest) = guardedWrites rest := by
  induction xs with
  | nil => rfl
  | cons text xs ih =>
    rw [List.forall_mem_cons] at h
    rw [List.cons_append, guardedWrites_cons_of_not h.1, ih h.2]

theorem guardedWrites_cons_cons {guard write : String} {number : Nat}
    (hguard : isGuard guard = true) (hwrite : writtenNumber? write = some number)
    (rest : List String) :
    guardedWrites (guard :: write :: rest) =
      (guard, number) :: guardedWrites (write :: rest) := by
  rw [guardedWrites, hguard, hwrite]

/-! ### Guards of fields -/

/-- The statements that write a field are a guard and others, of which the first writes it. -/
def Guarded (guard : String) (n : Int32) (statements : List String) : Prop :=
  ∃ write others, statements = guard :: write :: others ∧
    writtenNumber? write = some n.toNatClampNeg ∧
    ∀ text ∈ write :: others, StartsWithin ['w', '\x7d'] text

theorem Guarded.of_method {guard write : String} {n : Int32} (hpos : 0 < n)
    (method rest : List Char) (hmethod : '(' ∉ method)
    (hwrite : write.toList = "writer.write".toList ++ (method ++ '(' ::
      ((decimal n).toList ++ ',' :: (" this.".toList ++ rest)))) {others : List String}
    (hothers : ∀ text ∈ others, StartsWithin ['w', '\x7d'] text) :
    Guarded guard n (guard :: write :: others) := by
  have hstart : StartsWithin ['w', '\x7d'] write := ⟨'w', List.mem_cons_self, by rw [hwrite]; rfl⟩
  exact ⟨write, others, rfl, writtenNumber?_write hpos method rest hmethod hwrite,
    List.forall_mem_cons.2 ⟨hstart, hothers⟩⟩

theorem guardFor_map (f : FieldDeclaration) :
    guardFor f .map = "for (const [key, value] of " ++ ownProperty f ++ ") \x7b" := by
  show "for (const [key, value] of this." ++ f.name ++ ") \x7b" = _
  rw [← String.toList_inj]
  simp [ownProperty]

theorem guardFor_repeated (f : FieldDeclaration) :
    guardFor f .repeated = "if (" ++ (ownProperty f ++ ".length") ++ ")" := by
  show "if (this." ++ f.name ++ ".length)" = _
  rw [← String.toList_inj]
  simp [ownProperty]

theorem guardFor_explicit (f : FieldDeclaration) :
    guardFor f .explicit = "if (" ++ ("this.has_" ++ f.name) ++ ")" := by
  show "if (this.has_" ++ f.name ++ ")" = _
  rw [← String.toList_inj]
  simp

section Classes

variable {f : FieldDeclaration} {p : Presence} (h : f.HasClass p)

include h

theorem presence_of_isMap (hmap : f.isMap = true) : p = .map := by
  have hp := h.map
  rw [hmap] at hp
  exact beq_iff_eq.1 hp.symm

theorem presence_of_isRepeated (hmany : f.cardinality = .repeated) : p = .repeated := by
  have hp := h.repeated
  rw [FieldDeclaration.isRepeated, hmany] at hp
  exact beq_iff_eq.1 hp.symm

theorem presence_of_message (hone : f.cardinality ≠ .repeated) {type : String}
    (htype : f.type = .message type) : p = .explicit := by
  have hp := h.explicit
  have hpresence : f.hasPresence = true := by
    rw [FieldDeclaration.hasPresence, htype]
    cases hc : f.cardinality with
    | singular => simp [FieldType.isMessage]
    | optional => simp
    | repeated => exact absurd hc hone
  rw [hpresence] at hp
  exact beq_iff_eq.1 hp.symm

theorem guardFor_of_value (hone : f.cardinality ≠ .repeated) (hmap : f.type.isMap = false) :
    guardFor f p = "if (" ++ (writeGuard f).condition f.name ++ ")" := by
  rw [writeGuard]
  cases p with
  | map =>
    have hm := h.map
    rw [FieldDeclaration.isMap, hmap] at hm
    cases hm
  | repeated => exact absurd (beq_iff_eq.1 h.repeated) hone
  | explicit =>
    have hpresence : f.hasPresence = true := h.explicit.trans (by decide)
    rw [if_pos hpresence]
    exact guardFor_explicit f
  | implicit =>
    have habsent : ¬ f.hasPresence = true := by
      rw [h.explicit]
      decide
    rw [if_neg habsent]
    show (if f.type.hasLength then "if (this." ++ f.name ++ ".length)"
      else "if (this." ++ f.name ++ " != " ++ f.defaultValue ++ ")") = _
    split_ifs
    · rw [← String.toList_inj]
      simp [WriteGuard.condition]
    · rw [← String.toList_inj]
      simp [WriteGuard.condition]

end Classes

theorem WireCompatible.guarded {runtime : String} {f : FieldDeclaration}
    {write read : List String} (h : WireCompatible runtime f write read) (hpos : 0 < f.number)
    {p : Presence} (hclass : f.HasClass p) : Guarded (guardFor f p) f.number write := by
  have hmethod := paren_notMem_wireMethod f.type
  -- a form has the guard of one class, and the first statement below it is the write
  cases h with
  | value hone hmap =>
    rw [guardFor_of_value hclass hone hmap]
    exact .of_method hpos f.type.wireMethod.toList (f.name.toList ++ ");".toList) hmethod
      (by simp [ownProperty]) (List.forall_mem_nil _)
  | packed hmany =>
    rw [presence_of_isRepeated hclass hmany, guardFor_repeated]
    exact .of_method hpos ("Packed".toList ++ f.type.wireMethod.toList)
      (f.name.toList ++ ");".toList) (by simp [hmethod]) (by simp [ownProperty])
      (List.forall_mem_nil _)
  | unpacked hmany | appended hmany =>
    rw [presence_of_isRepeated hclass hmany, guardFor_repeated]
    exact .of_method hpos ("Repeated".toList ++ f.type.wireMethod.toList)
      (f.name.toList ++ ");".toList) (by simp [hmethod]) (by simp [ownProperty])
      (List.forall_mem_nil _)
  | message type hone htype =>
    rw [presence_of_message hclass hone htype, guardFor_explicit]
    exact .of_method hpos "Message".toList
      (f.name ++ ", () => this." ++ f.name ++ ".serialize(writer));").toList (by decide)
      (by simp [ownProperty]) (List.forall_mem_nil _)
  | messages type hmany =>
    rw [presence_of_isRepeated hclass hmany, guardFor_repeated]
    exact .of_method hpos "RepeatedMessage".toList
      (f.name ++ ", (item: " ++ type ++ ") => item.serialize(writer));").toList (by decide)
      (by simp [ownProperty]) (List.forall_mem_nil _)
  | mapOfValues key value htype =>
    have hmap : f.isMap = true := by rw [FieldDeclaration.isMap, htype]; rfl
    rw [presence_of_isMap hclass hmap, guardFor_map]
    refine .of_method hpos "Message".toList (f.name ++ ", () => \x7b").toList (by decide)
      (by simp [ownProperty]) ?_
    simp only [String.append_assoc, List.forall_mem_cons]
    exact ⟨.literal_append (by decide), .literal_append (by decide), .literal (by decide),
      .literal (by decide), List.forall_mem_nil _⟩
  | mapOfMessages key type htype =>
    have hmap : f.isMap = true := by rw [FieldDeclaration.isMap, htype]; rfl
    rw [presence_of_isMap hclass hmap, guardFor_map]
    refine .of_method hpos "Message".toList (f.name ++ ", () => \x7b").toList (by decide)
      (by simp [ownProperty]) ?_
    simp only [String.append_assoc, List.forall_mem_cons]
    exact ⟨.literal_append (by decide), .literal (by decide), .literal (by decide),
      .literal (by decide), List.forall_mem_nil _⟩

/-! ### Tests of presence -/

theorem readTest?_eq_none {statement : String} {cs : List Char} (h : StartsWithin cs statement)
    (hi : 'i' ∉ cs) : readTest? statement = none := by
  have hprefix : "if (this.".toList.isPrefixOf? statement.toList = none :=
    isPrefixOf?_eq_none (h.head?_ne hi)
  rw [readTest?, hprefix]
  rfl

/-- What a test says, character by character. -/
theorem exists_of_readTest? {statement name : String} (h : readTest? statement = some name) :
    ∃ ending, (ending = [] ∨ ending = " \x7b".toList) ∧
      (∀ c ∈ name.toList, (c.isAlphanum || c == '_') = true) ∧
      statement.toList =
        "if (this.".toList ++ (("has_".toList ++ name.toList) ++ ')' :: ending) := by
  simp only [readTest?, Option.bind_eq_bind, Option.bind_eq_some_iff] at h
  obtain ⟨condition, hcondition, ⟨test, ending⟩, hsplit, cs, hcs, hname⟩ := h
  split_ifs at hname with hall
  obtain rfl := Option.some.inj hname
  have hlist : (String.ofList cs).toList = cs := String.toList_ofList
  dsimp only at hcs hall
  rw [hlist]
  refine ⟨ending, hall.1, List.all_eq_true.1 hall.2, ?_⟩
  rw [← List.isPrefixOf?_eq_some_iff_append_eq.1 hcondition, Text.splitOnce?_eq_some hsplit,
    ← List.isPrefixOf?_eq_some_iff_append_eq.1 hcs]

/-- What ends with a semicolon is no test. -/
theorem readTest?_eq_none_of_semicolon {statement : String}
    (h : statement.toList.getLast? = some ';') : readTest? statement = none := by
  rw [Option.eq_none_iff_forall_ne_some]
  intro name hname
  obtain ⟨ending, hending, -, htext⟩ := exists_of_readTest? hname
  rw [htext, ← List.append_assoc, List.getLast?_append] at h
  rcases hending with rfl | rfl
  · simp at h
  · simp at h

/-- A condition with a character that is in no name is no test of presence. -/
theorem readTest?_eq_none_of_mem {statement : String} (xs ys : List Char) {c : Char}
    (h : statement.toList = "if (this.".toList ++ (xs ++ c :: ys)) (hxs : ')' ∉ xs) (hc : c ≠ ')')
    (hother : (c.isAlphanum || c == '_') = false) : readTest? statement = none := by
  rw [Option.eq_none_iff_forall_ne_some]
  intro name hname
  obtain ⟨ending, -, hall, htext⟩ := exists_of_readTest? hname
  rw [htext, List.append_cancel_left_eq] at h
  -- the name reaches to the first bracket, behind which `c` is not
  have hmem : c ∈ "has_".toList ++ name.toList := by
    rcases List.append_eq_append_iff.1 h with ⟨as, rfl, hrest⟩ | ⟨bs, hbs, hrest⟩
    · cases as with
      | nil => exact absurd (List.cons.inj hrest).1.symm hc
      | cons a as =>
        obtain ⟨rfl, -⟩ := List.cons.inj hrest
        exact absurd (by simp) hxs
    · cases bs with
      | nil => exact absurd (List.cons.inj hrest).1 hc
      | cons b bs =>
        rw [hbs, (List.cons.inj hrest).1]
        simp
  have hletters : ∀ d ∈ "has_".toList ++ name.toList, (d.isAlphanum || d == '_') = true := by
    rw [List.forall_mem_append]
    exact ⟨List.all_eq_true.1 (by decide), hall⟩
  rw [hletters c hmem] at hother
  cases hother

theorem readTest?_has {name : String} (h : IsIdentifier name) {ending : List Char}
    (hending : ending = [] ∨ ending = " \x7b".toList) {statement : String}
    (hstatement : statement.toList =
      "if (this.".toList ++ (("has_".toList ++ name.toList) ++ ')' :: ending)) :
    readTest? statement = some name := by
  have hclose : ')' ∉ "has_".toList ++ name.toList := by
    rw [List.mem_append, not_or]
    exact ⟨by decide, h.notMem (by decide)⟩
  have hall : (name.toList.all fun c => c.isAlphanum || c == '_') = true := by
    rw [List.all_eq_true]
    exact h.all
  rw [readTest?, hstatement, isPrefixOf?_append]
  simp only [Option.bind_eq_bind, Option.bind_some, Text.splitOnce?_append hclose,
    isPrefixOf?_append]
  rw [if_pos ⟨hending, hall⟩, String.ofList_toList]

/-! ### Methods -/

theorem readTest?_length {name : String} (h : IsIdentifier name) :
    readTest? ("if (this." ++ name ++ ".length)") = none :=
  readTest?_eq_none_of_mem (c := '.') name.toList "length)".toList (by simp) (h.notMem (by decide))
    (by decide) (by decide)

/-- Guards ask for presence if it is explicit. -/
theorem readTest?_guardFor {f : FieldDeclaration} (hname : IsIdentifier f.name) (p : Presence) :
    readTest? (guardFor f p) = if p = .explicit then some f.name else none := by
  cases p with
  | map =>
    have hstart : StartsWithin ['f'] (guardFor f .map) := by
      show StartsWithin ['f'] ("for (const [key, value] of this." ++ f.name ++ ") \x7b")
      rw [String.append_assoc]
      exact .literal_append (by decide)
    exact readTest?_eq_none hstart (by decide)
  | repeated => exact readTest?_length hname
  | explicit =>
    show readTest? ("if (this.has_" ++ f.name ++ ")") = some f.name
    exact readTest?_has hname (.inl rfl) (by simp)
  | implicit =>
    show readTest? (if f.type.hasLength then "if (this." ++ f.name ++ ".length)"
      else "if (this." ++ f.name ++ " != " ++ f.defaultValue ++ ")") = none
    split_ifs
    · exact readTest?_length hname
    · exact readTest?_eq_none_of_mem (c := ' ') f.name.toList
        ("!= " ++ f.defaultValue ++ ")").toList (by simp) (hname.notMem (by decide)) (by decide)
        (by decide)

section Serialize

variable {m : MessageClass}

theorem isGuard_serializeHead : ∀ text ∈ serializeHead m, isGuard text = false :=
  fun text htext =>
    isGuard_eq_false (startsWithin_serializeHead m text htext) (by decide) (by decide)

theorem guardedWrites_flatMap {fields : List FieldDeclaration}
    {guard : FieldDeclaration → String} {statements : FieldDeclaration → List String}
    (h : ∀ f ∈ fields, Guarded (guard f) f.number (statements f)) (hguard : ∀ f, isGuard (guard f))
    (rest : List String) : guardedWrites (fields.flatMap statements ++ rest) =
      fields.map (fun f => (guard f, f.number.toNatClampNeg)) ++ guardedWrites rest := by
  induction fields with
  | nil => rfl
  | cons f fields ih =>
    rw [List.forall_mem_cons] at h
    obtain ⟨write, others, hstatements, hwrite, hstarts⟩ := h.1
    have hothers : ∀ text ∈ write :: others, isGuard text = false := fun text htext =>
      isGuard_eq_false (hstarts text htext) (by decide) (by decide)
    rw [List.flatMap_cons, hstatements, List.append_assoc, List.cons_append, List.cons_append,
      guardedWrites_cons_cons (hguard f) hwrite, ← List.cons_append,
      guardedWrites_append_of_not hothers, ih h.2, List.map_cons, List.cons_append]

variable (hwritable : ∀ f ∈ m.fields, Writable f)
  (hclass : ∀ f ∈ m.fields, f.HasClass f.presence)

include hwritable hclass

theorem guarded_writeStatements : ∀ f ∈ m.fields,
    Guarded (guardFor f f.presence) f.number (writeStatements f) :=
  fun f hf => (hwritable f hf).compatible.guarded (hwritable f hf).positive (hclass f hf)

variable (hruntime : OneLine m.runtime) (depth : Nat)

include hruntime

omit hclass in
theorem statements_serialize : (serialize m).statements depth =
    serializeHead m ++ m.fields.flatMap writeStatements ++ serializeTail := by
  have htexts := texts_serialize m
  rw [Member.statements, Member.text, statements_render (by
    rw [texts_indentBy, htexts]
    exact isStatement_serialize hwritable hruntime), texts_indentBy, htexts]

/-- Every field is written under the guard of its class. -/
theorem guardedWrites_serialize : guardedWrites ((serialize m).statements depth) =
    m.fields.map fun f => (guardFor f f.presence, f.number.toNatClampNeg) := by
  have htail : guardedWrites serializeTail = [] := by decide
  rw [statements_serialize hwritable hruntime, List.append_assoc,
    guardedWrites_append_of_not isGuard_serializeHead,
    guardedWrites_flatMap (guarded_writeStatements hwritable hclass)
      (fun f => isGuard_guardFor f f.presence), htail, List.append_nil]

/-- The fields that are asked for their presence before they are written. -/
theorem filterMap_readTest?_serialize (hnames : ∀ f ∈ m.fields, IsIdentifier f.name) :
    ((serialize m).statements depth).filterMap readTest? =
      (m.fields.filter (·.presence == .explicit)).map (·.name) := by
  have hhead : (serializeHead m).filterMap readTest? = [] :=
    List.filterMap_eq_nil_iff.2 fun text htext =>
      readTest?_eq_none (startsWithin_serializeHead m text htext) (by decide)
  have htail : serializeTail.filterMap readTest? = [] := by decide
  -- of the statements of a field only the guard can ask for presence
  have hfield : ∀ f ∈ m.fields, (writeStatements f).filterMap readTest? =
      if f.presence == .explicit then [f.name] else [] := by
    intro f hf
    obtain ⟨write, others, hstatements, -, hstarts⟩ :=
      guarded_writeStatements hwritable hclass f hf
    have hothers : (write :: others).filterMap readTest? = [] :=
      List.filterMap_eq_nil_iff.2 fun text htext =>
        readTest?_eq_none (hstarts text htext) (by decide)
    have hguard := readTest?_guardFor (hnames f hf) f.presence
    rw [hstatements]
    split_ifs with hexplicit
    · rw [if_pos (beq_iff_eq.1 hexplicit)] at hguard
      rw [List.filterMap_cons_some hguard, hothers]
    · rw [if_neg fun heq => hexplicit (beq_iff_eq.2 heq)] at hguard
      rw [List.filterMap_cons_none hguard, hothers]
  rw [statements_serialize hwritable hruntime, List.filterMap_append, List.filterMap_append, hhead,
    htail, List.append_nil, List.nil_append, List.filterMap_flatMap, ← flatMap_if_singleton]
  exact List.flatMap_congr hfield

end Serialize

/-! ### Conversion to objects -/

theorem texts_writeKey (f : FieldDeclaration) : texts (writeKey f) =
    ["if (" ++ (if f.hasPresence then "this.has_" ++ f.name else "this." ++ f.name ++ " != null") ++
      ") \x7b", "data." ++ f.objectKey ++ " = " ++ fieldToObject f ("this." ++ f.name) ++ ";",
      "\x7d"] := by
  simp [writeKey, guardedBlock, line]

theorem texts_toObject (m : MessageClass) : texts (toObject m).lines =
    (Member.modifiers false m.explicitOverride ++ "toObject" ++ "() \x7b") ::
      (texts (Signature.objectTyped "const data: " (objectEntries m) " = \x7b\x7d;").lines ++
        m.fields.flatMap (fun f => texts (writeKey f)) ++ ["return data;", "\x7d"]) := by
  unfold toObject
  simp [Member.lines, Signature.block, Signature.withFront, Signature.lines, line, texts_flatMap]

/-- What `toObject` declares has no test, whatever the keys. -/
theorem filterMap_readTest?_objectTyped (entries : List (String × String)) :
    (texts (Signature.objectTyped "const data: " entries " = \x7b\x7d;").lines).filterMap
      readTest? = [] := by
  have hentry : ∀ e ∈ entries, readTest? (e.1 ++ "?: " ++ e.2 ++ ";") = none := fun e _ =>
    readTest?_eq_none_of_semicolon (by rw [String.toList_append, List.getLast?_append]; rfl)
  have hentries : (entries.map fun e => e.1 ++ "?: " ++ e.2 ++ ";").filterMap readTest? = [] := by
    rw [List.filterMap_map]
    exact List.filterMap_eq_nil_iff.2 hentry
  rw [texts_objectTyped]
  split_ifs
  · decide
  · rw [List.cons_append, List.filterMap_cons_none (by decide), List.filterMap_append, hentries]
    decide

theorem filterMap_readTest?_writeKey {f : FieldDeclaration} (h : IsIdentifier f.name) :
    (texts (writeKey f)).filterMap readTest? = if f.hasPresence then [f.name] else [] := by
  have hdata : StartsWithin ['d'] ("data." ++ (f.objectKey ++ (" = " ++
      (fieldToObject f ("this." ++ f.name) ++ ";")))) := .literal_append (by decide)
  have hassigned := readTest?_eq_none hdata (by decide)
  have hclose : readTest? "\x7d" = none := by decide
  simp only [← String.append_assoc] at hassigned
  rw [texts_writeKey]
  split_ifs
  · have htest : readTest? ("if (" ++ ("this.has_" ++ f.name) ++ ") \x7b") = some f.name :=
      readTest?_has h (.inr rfl) (by simp)
    rw [List.filterMap_cons_some htest, List.filterMap_cons_none hassigned,
      List.filterMap_cons_none hclose]
    rfl
  · have htest : readTest? ("if (" ++ ("this." ++ f.name ++ " != null") ++ ") \x7b") = none :=
      readTest?_eq_none_of_mem (c := ' ') f.name.toList "!= null) \x7b".toList (by simp)
        (h.notMem (by decide)) (by decide) (by decide)
    rw [List.filterMap_cons_none htest, List.filterMap_cons_none hassigned,
      List.filterMap_cons_none hclose]
    rfl

/-- The fields that are asked for their presence before they are converted. -/
theorem filterMap_readTest?_toObject {m : MessageClass}
    (hnames : ∀ f ∈ m.fields, IsIdentifier f.name) :
    (texts (toObject m).lines).filterMap readTest? =
      (m.fields.filter (·.hasPresence)).map (·.name) := by
  have hhead : readTest? (Member.modifiers false m.explicitOverride ++ "toObject" ++
      "() \x7b") = none := by
    cases m.explicitOverride <;> decide
  have htail : ["return data;", "\x7d"].filterMap readTest? = [] := by decide
  rw [texts_toObject, List.filterMap_cons_none hhead, List.filterMap_append,
    List.filterMap_append, filterMap_readTest?_objectTyped, htail, List.append_nil,
    List.nil_append, List.filterMap_flatMap, ← flatMap_if_singleton]
  exact List.flatMap_congr fun f hf => filterMap_readTest?_writeKey (hnames f hf)

end Script

end ProtoTypeScript
