import ProtoTypeScript.Proofs.FieldPresence
import ProtoTypeScript.Proofs.PrintedOneofs

/-!
# Presence read back

What the constructor and the accessors of a printed class say about the presence of fields.

* `readInitialized?` reads the numbers that the constructor says are repeated and `readMap?` the
  maps that it creates;
* `readPresence?` reads the accessors that tell whether a field is set;
* `filterMap_readInitialized?_constructor`, `filterMap_readMap?_constructor` and
  `filterMap_readPresence?_memberStatements`: they find the repeated fields, the maps and the fields
  with presence.
-/

namespace ProtoTypeScript

namespace Script

/-! ### Readers -/

/-- The statements of a constructor after its signature. -/
def constructorBody (statements : List String) : List String :=
  statements.dropWhile (· != "super();")

/-- The numbers that a statement initializes as those of repeated fields. -/
def readInitialized? (statement : String) : Option (List Nat) := do
  let numbers ← ("pb_1.Message.initialize(this, Array.isArray(data) ? data : [], " ++
    "0, -1, [").toList.isPrefixOf? statement.toList
  let (numbers, _) ← Text.splitOnce? ']' numbers
  return readNumbers numbers

/-- The property that a statement sets to an empty map. -/
def readMap? (statement : String) : Option String := do
  let property ← "this.".toList.isPrefixOf? statement.toList
  let (name, value) ← Text.splitOnce? ' ' property
  if value = "= new Map();".toList then some (String.ofList name) else none

/-- The number of the field that a statement says is set or not. -/
def readPresentNumber? (statement : String) : Option Nat := do
  let number ← "return pb_1.Message.getField(this, ".toList.isPrefixOf? statement.toList
  let (number, comparison) ← Text.splitOnce? ')' number
  let number ← Text.Numeral.parseDigits? number
  if comparison = " != null;".toList then some number else none

/-- The field whose presence a member tells, with its number. -/
def readPresence? : List String → Option (String × Nat)
  | head :: statement :: _ => do
    let name ← "get ".toList.isPrefixOf? head.toList
    let name ← "has_".toList.isPrefixOf? name
    let (name, _) ← Text.splitOnce? '(' name
    let number ← readPresentNumber? statement
    return (String.ofList name, number)
  | _ => none

/-! ### Constructors -/

/-- The lines of the signature of a constructor. -/
def constructorSignature (m : MessageClass) : List String :=
  texts (Signature.objectTyped ("constructor" ++ "(data?: any[] | ")
    (m.fields.map fun f => (f.name, propertyType f)) ") \x7b").lines

/-- The statement that initializes a message. -/
def initializeStatement (m : MessageClass) : String :=
  messageCall m.runtime "initialize"
    ["this", "Array.isArray(data) ? data : []", "0", "-1", numberArray m.repeatedFields,
      "this.#one_of_decls"] ++ ";"

/-- The statements of a constructor after its signature, as they are printed. -/
def bodyStatements (m : MessageClass) : List String :=
  "super();" :: initializeStatement m :: (texts (initialValues m.fields) ++
    texts ((m.fields.filter (·.isMap)).flatMap initialMap) ++ ["\x7d"])

theorem texts_constructor (m : MessageClass) :
    texts (constructor m).lines = constructorSignature m ++ bodyStatements m := by
  have hlines : (constructor m).lines = (Signature.objectTyped ("constructor" ++ "(data?: any[] | ")
      (m.fields.map fun f => (f.name, propertyType f)) ") \x7b").block
        ([line "super();", line (initializeStatement m)] ++ initialValues m.fields ++
          (m.fields.filter (·.isMap)).flatMap initialMap) := rfl
  rw [hlines, Signature.block, texts_append, texts_append, texts_indent, texts_append, texts_append]
  simp [constructorSignature, bodyStatements, line]

/-- The lines of signatures that do not depend on the class. -/
def signatureLiterals : List String :=
  ["constructor(data?: any[] | \x7b\x7d) \x7b", "constructor(data?: any[] | \x7b", "\x7d) \x7b"]

theorem mem_constructorSignature {m : MessageClass} {text : String}
    (h : text ∈ constructorSignature m) :
    text ∈ signatureLiterals ∨ ∃ f ∈ m.fields,
      text = f.name ++ "?: " ++ propertyType f ++ ";" := by
  rw [constructorSignature, texts_objectTyped] at h
  split_ifs at h
  · rw [List.mem_singleton.1 h]
    exact .inl (by decide)
  · simp only [List.map_map, List.mem_cons, List.mem_append, List.mem_map, List.not_mem_nil,
      or_false] at h
    rcases h with (rfl | ⟨f, hf, rfl⟩) | rfl
    · exact .inl (by decide)
    · exact .inr ⟨f, hf, rfl⟩
    · exact .inl (by decide)

theorem constructorBody_texts (m : MessageClass) :
    constructorBody (texts (constructor m).lines) = bodyStatements m := by
  have hliterals : ∀ text ∈ signatureLiterals, (text != "super();") = true := by decide
  have hsignature : ∀ text ∈ constructorSignature m, (text != "super();") = true := by
    intro text htext
    rcases mem_constructorSignature htext with hliteral | ⟨f, -, rfl⟩
    · exact hliterals text hliteral
    · rw [bne_iff_ne]
      intro heq
      have hmark : '?' ∈ "super();".toList := heq ▸ by simp
      exact absurd hmark (by decide)
  rw [constructorBody, texts_constructor, List.dropWhile_append_of_pos hsignature, bodyStatements]
  rfl

theorem texts_initialValue (f : FieldDeclaration) : texts (initialValue f) =
    ["if (" ++ ("\"" ++ f.name ++ "\" in data && data." ++ f.name ++ " != undefined") ++ ") \x7b",
      "this." ++ f.name ++ " = data." ++ f.name ++ ";", "\x7d"] := by
  simp [initialValue, guardedBlock, line]

theorem texts_initialMap (f : FieldDeclaration) : texts (initialMap f) =
    ["if (" ++ ("!this." ++ f.name) ++ ")", "this." ++ f.name ++ " = new Map();"] := by
  simp [initialMap]

theorem texts_initialValues (fields : List FieldDeclaration) : texts (initialValues fields) =
    if fields = [] then []
    else "if (!Array.isArray(data) && typeof data == \"object\") \x7b" ::
      fields.flatMap (fun f => texts (initialValue f)) ++ ["\x7d"] := by
  rw [initialValues]
  split_ifs
  · rfl
  · rw [guardedBlock, texts_block, texts_flatMap]
    rfl

/-! ### What constructors set -/

theorem readMap?_eq_none {statement : String} {cs : List Char} (h : StartsWithin cs statement)
    (ht : 't' ∉ cs) : readMap? statement = none := by
  have hprefix : "this.".toList.isPrefixOf? statement.toList = none :=
    isPrefixOf?_eq_none (h.head?_ne ht)
  rw [readMap?, hprefix]
  rfl

theorem readInitialized?_eq_none {statement : String} {cs : List Char}
    (h : StartsWithin cs statement) (hp : 'p' ∉ cs) : readInitialized? statement = none := by
  have hprefix : ("pb_1.Message.initialize(this, Array.isArray(data) ? data : [], " ++
      "0, -1, [").toList.isPrefixOf? statement.toList = none :=
    isPrefixOf?_eq_none (h.head?_ne hp)
  rw [readInitialized?, hprefix]
  rfl

/-- What an assignment to a property assigns. -/
theorem readMap?_assignment {name : String} (h : IsIdentifier name) (value : String) :
    readMap? ("this." ++ name ++ " " ++ value) =
      if value = "= new Map();" then some name else none := by
  have htext : ("this." ++ name ++ " " ++ value).toList =
      "this.".toList ++ (name.toList ++ ' ' :: value.toList) := by
    simp
  have hspace : ' ' ∉ name.toList := h.notMem (by decide)
  rw [readMap?, htext, isPrefixOf?_append]
  simp only [Option.bind_eq_bind, Option.bind_some, Text.splitOnce?_append hspace,
    String.ofList_toList, String.toList_inj]

section Constructors

variable {m : MessageClass} (h : ReadableClass m)

theorem startsWithin_initial : ∀ text ∈ texts (initialValues m.fields) ++
    texts ((m.fields.filter (·.isMap)).flatMap initialMap) ++ ["\x7d"],
      StartsWithin ['i', 't', '\x7d'] text := by
  have hvalue : ∀ f, ∀ text ∈ texts (initialValue f), StartsWithin ['i', 't', '\x7d'] text := by
    intro f text htext
    simp only [texts_initialValue, String.append_assoc, List.mem_cons, List.not_mem_nil,
      or_false] at htext
    rcases htext with rfl | rfl | rfl
    · exact .literal_append (by decide)
    · exact .literal_append (by decide)
    · exact .literal (by decide)
  have hmap : ∀ f, ∀ text ∈ texts (initialMap f), StartsWithin ['i', 't', '\x7d'] text := by
    intro f text htext
    simp only [texts_initialMap, String.append_assoc, List.mem_cons, List.not_mem_nil,
      or_false] at htext
    rcases htext with rfl | rfl
    · exact .literal_append (by decide)
    · exact .literal_append (by decide)
  intro text htext
  rw [List.mem_append, List.mem_append, texts_initialValues, texts_flatMap, List.mem_flatMap,
    List.mem_singleton] at htext
  rcases htext with (htext | ⟨f, -, htext⟩) | rfl
  · split_ifs at htext
    · cases htext
    · simp only [List.cons_append, List.mem_cons, List.mem_append, List.mem_flatMap,
        List.not_mem_nil, or_false] at htext
      rcases htext with rfl | ⟨f, -, htext⟩ | rfl
      · exact .literal (by decide)
      · exact hvalue f text htext
      · exact .literal (by decide)
  · exact hmap f text htext
  · exact .literal (by decide)

theorem startsWithin_initializeStatement (h : ReadableClass m) :
    StartsWithin ['p'] (initializeStatement m) := by
  rw [initializeStatement, h.runtime]
  exact startsWithin_messageCall _ _ _

include h

theorem statements_constructor (depth : Nat) :
    (constructor m).statements depth = texts (constructor m).lines := by
  have hlines : OneLines (constructor m).lines :=
    oneLines_constructor h.oneLine_runtime (fun f hf => (h.fields f hf).name.oneLine)
      fun f hf => (h.fields f hf).type
  refine statements_member hlines (fun text htext => ?_) depth
  have hliterals : ∀ text ∈ signatureLiterals, text.toList.head?.any (· != ' ') = true := by
    decide
  have hsuper : StartsWithin ['s'] "super();" := .literal (List.mem_singleton_self _)
  rw [texts_constructor, List.mem_append, bodyStatements, List.mem_cons, List.mem_cons] at htext
  -- no line of the constructor starts with a space, whatever the names
  rcases htext with hsignature | rfl | rfl | hbody
  · rcases mem_constructorSignature hsignature with hliteral | ⟨f, hf, rfl⟩
    · exact exists_start_of_any (hliterals text hliteral)
    · simp only [String.append_assoc]
      exact (h.fields f hf).name.start _
  · exact hsuper.start (by decide)
  · exact (startsWithin_initializeStatement h).start (by decide)
  · exact (startsWithin_initial text hbody).start (by decide)

theorem readInitialized?_initializeStatement : readInitialized? (initializeStatement m) =
    some ((m.fields.filter (·.isRepeated)).map (·.number.toNatClampNeg)) := by
  have hpositive : ∀ n ∈ m.repeatedFields, 0 < n :=
    List.forall_mem_map.2 fun f hf => (h.fields f (List.mem_of_mem_filter hf)).positive
  have htext : (initializeStatement m).toList =
      ("pb_1.Message.initialize(this, Array.isArray(data) ? data : [], " ++ "0, -1, [").toList ++
        ((Text.joinWith ", " (m.repeatedFields.map decimal)).toList ++
          ']' :: ", this.#one_of_decls);".toList) := by
    simp [initializeStatement, h.runtime, messageCall, Text.joinWith, numberArray]
  have hclose : ']' ∉ (Text.joinWith ", " (m.repeatedFields.map decimal)).toList :=
    notMem_numbers hpositive rfl (by decide)
  rw [readInitialized?, htext, isPrefixOf?_append]
  simp only [Option.bind_eq_bind, Option.bind_some, Text.splitOnce?_append hclose,
    readNumbers_joinWith hpositive]
  rw [MessageClass.repeatedFields, List.map_map]
  rfl

/-- The repeated fields that a class is initialized with. -/
theorem filterMap_readInitialized?_constructor (depth : Nat) :
    (constructorBody ((constructor m).statements depth)).filterMap readInitialized? =
      [(m.fields.filter (·.isRepeated)).map (·.number.toNatClampNeg)] := by
  have hsuper : readInitialized? "super();" = none := by decide
  have hrest : (texts (initialValues m.fields) ++
      texts ((m.fields.filter (·.isMap)).flatMap initialMap) ++ ["\x7d"]).filterMap
        readInitialized? = [] :=
    List.filterMap_eq_nil_iff.2 fun text htext =>
      readInitialized?_eq_none (startsWithin_initial text htext) (by decide)
  rw [statements_constructor h, constructorBody_texts, bodyStatements,
    List.filterMap_cons_none hsuper,
    List.filterMap_cons_some (readInitialized?_initializeStatement h), hrest]

theorem filterMap_readMap?_initialValues :
    (texts (initialValues m.fields)).filterMap readMap? = [] := by
  have hdata : ∀ name : String, "= data." ++ name ++ ";" ≠ "= new Map();" := by
    intro name heq
    have hlist := congrArg String.toList heq
    simp at hlist
  have hvalue : ∀ f ∈ m.fields, (texts (initialValue f)).filterMap readMap? = [] := by
    intro f hf
    have htest : StartsWithin ['i'] ("if (" ++ (("\"" ++ f.name ++ "\" in data && data." ++
        f.name ++ " != undefined") ++ ") \x7b")) := .literal_append (by decide)
    have hassigned : "this." ++ f.name ++ " = data." ++ f.name ++ ";" =
        "this." ++ f.name ++ " " ++ ("= data." ++ f.name ++ ";") := by
      simp only [String.append_assoc]
      rfl
    rw [texts_initialValue, String.append_assoc,
      List.filterMap_cons_none (readMap?_eq_none htest (by decide)), hassigned,
      List.filterMap_cons_none (by rw [readMap?_assignment (h.fields f hf).name, if_neg (hdata _)])]
    decide
  have hopen : readMap? "if (!Array.isArray(data) && typeof data == \"object\") \x7b" = none := by
    decide
  rw [texts_initialValues]
  split_ifs
  · rfl
  · rw [List.cons_append, List.filterMap_cons_none hopen, List.filterMap_append,
      List.filterMap_flatMap, List.flatMap_eq_nil_iff.2 hvalue]
    decide

theorem filterMap_readMap?_initialMaps :
    (texts ((m.fields.filter (·.isMap)).flatMap initialMap)).filterMap readMap? =
      (m.fields.filter (·.isMap)).map (·.name) := by
  rw [texts_flatMap, List.filterMap_flatMap, List.map_eq_flatMap]
  refine List.flatMap_congr fun f hf => ?_
  have htest : StartsWithin ['i'] ("if (" ++ (("!this." ++ f.name) ++ ")")) :=
    .literal_append (by decide)
  have hassigned : "this." ++ f.name ++ " = new Map();" =
      "this." ++ f.name ++ " " ++ "= new Map();" := by
    simp only [String.append_assoc]
    rfl
  have hname := (h.fields f (List.mem_of_mem_filter hf)).name
  rw [texts_initialMap, String.append_assoc,
    List.filterMap_cons_none (readMap?_eq_none htest (by decide)), hassigned,
    List.filterMap_cons_some (by rw [readMap?_assignment hname, if_pos rfl])]
  rfl

/-- The maps that a constructor creates. -/
theorem filterMap_readMap?_constructor (depth : Nat) :
    (constructorBody ((constructor m).statements depth)).filterMap readMap? =
      (m.fields.filter (·.isMap)).map (·.name) := by
  have hsuper : readMap? "super();" = none := by decide
  have hinitialize : readMap? (initializeStatement m) = none :=
    readMap?_eq_none (startsWithin_initializeStatement h) (by decide)
  have hclose : ["\x7d"].filterMap readMap? = [] := by decide
  rw [statements_constructor h, constructorBody_texts, bodyStatements,
    List.filterMap_cons_none hsuper, List.filterMap_cons_none hinitialize, List.filterMap_append,
    List.filterMap_append, filterMap_readMap?_initialValues h, filterMap_readMap?_initialMaps h,
    hclose, List.nil_append, List.append_nil]

end Constructors

/-! ### Accessors that tell presence -/

theorem readPresence?_eq_none {front : String} (h : Apart "get " front) {statements : List String}
    (hbegins : Begins front statements) : readPresence? statements = none := by
  obtain ⟨rest, others, rfl⟩ := hbegins
  cases others with
  | nil => rfl
  | cons statement others =>
    rw [readPresence?, isPrefixOf?_eq_none_of_apart h]
    rfl

theorem readPresence?_of_readPresentNumber? {statement : String}
    (h : readPresentNumber? statement = none) (head : String) (others : List String) :
    readPresence? (head :: statement :: others) = none := by
  rw [readPresence?]
  simp [h]

theorem readPresentNumber?_eq_none {front : String}
    (h : Apart "return pb_1.Message.getField(this, " front) (rest : String) :
    readPresentNumber? (front ++ rest) = none := by
  rw [readPresentNumber?, isPrefixOf?_eq_none_of_apart h]
  rfl

theorem readPresentNumber?_call {function : String}
    (h : Apart "return pb_1.Message.getField(this, " ("return pb_1.Message." ++ function ++ "("))
    (arguments : List String) (cast type last : String) :
    readPresentNumber?
      ("return " ++ (messageCall "pb_1" function arguments ++ cast ++ type) ++ last) = none := by
  have htext : "return " ++ (messageCall "pb_1" function arguments ++ cast ++ type) ++ last =
      ("return pb_1.Message." ++ function ++ "(") ++
        (Text.joinWith ", " arguments ++ ")" ++ cast ++ type ++ last) := by
    rw [← String.toList_inj]
    simp [messageCall]
  rw [htext, readPresentNumber?_eq_none h]

/-- What is done with the value of a field after it was got. -/
theorem readPresentNumber?_getField {n : Int32} (h : 0 < n) (rest : String) :
    readPresentNumber? ("return " ++ messageCall "pb_1" "getField" ["this", decimal n] ++ rest) =
      if rest = " != null;" then some n.toNatClampNeg else none := by
  have htext : ("return " ++ messageCall "pb_1" "getField" ["this", decimal n] ++ rest).toList =
      "return pb_1.Message.getField(this, ".toList ++
        ((decimal n).toList ++ ')' :: rest.toList) := by
    simp [messageCall, Text.joinWith]
  rw [readPresentNumber?, htext, isPrefixOf?_append]
  simp only [Option.bind_eq_bind, Option.bind_some,
    Text.splitOnce?_append (notMem_decimal h (c := ')') rfl), parseDigits?_decimal h,
    String.toList_inj]

/-- No getter of a field tells whether the field is set. -/
theorem readPresentNumber?_getterValue {f : FieldDeclaration} (h : 0 < f.number) :
    readPresentNumber? ("return " ++ getterValue "pb_1" f ++ ";") = none := by
  rw [getterValue]
  cases f.shape with
  | map key value =>
    have hcast : " as any as " ++ propertyType f ++ ";" ≠ " != null;" := by
      intro heq
      have hlist := congrArg String.toList heq
      simp at hlist
    have htext : "return " ++ (messageCall "pb_1" "getField" ["this", decimal f.number] ++
        " as any as " ++ propertyType f) ++ ";" =
        "return " ++ messageCall "pb_1" "getField" ["this", decimal f.number] ++
          (" as any as " ++ propertyType f ++ ";") := by
      simp only [String.append_assoc]
    exact (congrArg _ htext).trans ((readPresentNumber?_getField h _).trans (if_neg hcast))
  | messages type => exact readPresentNumber?_call (by decide) _ _ _ _
  | message type => exact readPresentNumber?_call (by decide) _ _ _ _
  | values type | value type => exact readPresentNumber?_call (by decide) _ _ _ _

section Accessors

variable {m : MessageClass} (h : ReadableClass m)

include h

theorem filterMap_readPresence?_fieldAccessors {f : FieldDeclaration} (hf : f ∈ m.fields)
    (depth : Nat) :
    ((fieldAccessors m f).filterMap fun member => readPresence? (member.statements depth)) =
      if f.hasPresence then [(f.name, f.number.toNatClampNeg)] else [] := by
  have hread := h.fields f hf
  have hnumber := readPresentNumber?_getterValue hread.positive
  rw [← h.runtime] at hnumber
  have hgetter : readPresence? ((Member.getter f.deprecated f.name
      [line ("return " ++ getterValue m.runtime f ++ ";")]).statements depth) = none :=
    fieldGetter_cases h.runtime hread depth (fun _ => readPresence?_eq_none (by decide))
      (readPresence?_of_readPresentNumber? hnumber _ _)
  have hsetter := readPresence?_eq_none (by decide) (begins_fieldSetter h.runtime hread depth)
  -- the accessor for presence is the one that compares with null
  have hpresence : readPresence? ((presenceAccessor m.runtime f).statements depth) =
      some (f.name, f.number.toNatClampNeg) := by
    have hhead : ("get " ++ ("has_" ++ f.name) ++ "() \x7b").toList =
        "get ".toList ++ ("has_".toList ++ (f.name.toList ++ '(' :: ") \x7b".toList)) := by
      simp
    have hopen : '(' ∉ f.name.toList := hread.name.notMem (by decide)
    have hnumber := readPresentNumber?_getField hread.positive " != null;"
    rw [if_pos rfl] at hnumber
    rw [statements_presenceAccessor h.runtime hread, accessorStatements, readPresence?, hhead,
      isPrefixOf?_append, h.runtime]
    simp only [Option.bind_eq_bind, Option.bind_some, isPrefixOf?_append,
      Text.splitOnce?_append hopen, hnumber, String.ofList_toList]
    rfl
  rw [fieldAccessors]
  split_ifs <;> simp [hgetter, hsetter, hpresence]

/-- The accessors that tell presence. -/
theorem filterMap_readPresence?_memberStatements (depth : Nat) :
    (memberStatements depth m).filterMap readPresence? =
      (m.fields.filter (·.hasPresence)).map fun f => (f.name, f.number.toNatClampNeg) := by
  have hother : ∀ statements, NoAccessor statements → readPresence? statements = none :=
    fun _ ⟨_, hget, _, hbegins⟩ => readPresence?_eq_none hget hbegins
  have hnone : (m.oneofs.filterMap fun oneof =>
      readPresence? ((oneofCase m oneof).statements (depth + 1))) = [] := by
    refine List.filterMap_eq_nil_iff.2 fun oneof honeof => ?_
    rw [statements_oneofCase h.runtime (h.oneofs oneof honeof) (h.memberFields oneof)]
    exact readPresence?_of_readPresentNumber? (by decide) _ _
  rw [filterMap_memberStatements hother h.oneLine_runtime h.name, hnone, List.append_nil,
    ← flatMap_if_singleton]
  exact List.flatMap_congr fun f hf => filterMap_readPresence?_fieldAccessors h hf (depth + 1)

end Accessors

end Script

end ProtoTypeScript
