import ProtoTypeScript.Proofs.CamelCase
import ProtoTypeScript.Proofs.PrintedGuards
import ProtoTypeScript.Proofs.PropertyNames

/-!
# Keys of plain objects

The key of a field in plain objects is printed as it is, in the object types of `fromObject` and
`toObject` and behind the point of every access to it.

* `KeySource` says where a key comes from: the name of the field, its JSON name, or its name in
  lower camel case;
* `exists_keyedLines` takes the lines of a field apart where they access the key;
* `objectKey_reads`: wherever the key of a declared field is printed, it is read as the property of
  that name just if it is a name of TypeScript, and the names of protobuf are;
* `objectKey_misread`: a JSON name with a hyphen is accessed as another property.
-/

namespace ProtoTypeScript

open Text

namespace Script

/-! ### Lines with a key -/

/-- A line of code up to an access of a key, and what follows the access; or a line without any. -/
structure KeyedLine where
  before : String
  after? : Option String

/-- The text of the line for a key. -/
def KeyedLine.text (key : String) (l : KeyedLine) : String :=
  match l.after? with
  | none => l.before
  | some after => l.before ++ ("data." ++ key) ++ after

/-- The declaration of the key of a field in an object type. -/
def keyEntry (f : FieldDeclaration) : String :=
  f.objectKey ++ "?: " ++ objectType f ++ ";"

/-- The lines that convert a field from and to the value of a key. -/
def conversionLines (f : FieldDeclaration) (key : String) : List String :=
  texts (readKey { f with objectKey := key } ++ writeKey { f with objectKey := key })

/-- The value of a key stands once in what a field is set to. -/
theorem exists_fieldFromObject_eq (f : FieldDeclaration) : ∃ before after,
    (∀ value, fieldFromObject f value = before ++ value ++ after) ∧
      StartsWithin ['.', ')', ';'] (after ++ ";") := by
  unfold fieldFromObject
  cases f.shape with
  | messages name =>
    refine ⟨"", ".map(item => " ++ name ++ ".fromObject(item))", fun value => ?_, ?_⟩
    · simp only [String.empty_append, String.append_assoc]
    · simp only [String.append_assoc]
      exact .literal_append (c := '.') (by decide)
  | message name =>
    refine ⟨name ++ ".fromObject(", ")", fun value => rfl, .literal_append (c := ')') (by decide)⟩
  | map key mapped =>
    refine ⟨"new Map(Object.entries(", ").map(([key, value]) => [" ++ mapKey key ++ ", " ++
      mapValue mapped ++ "] as [" ++ key.tsType ++ ", " ++ mapped.tsType ++ "]))",
      fun value => ?_, ?_⟩
    · simp only [String.append_assoc]
    · simp only [String.append_assoc]
      exact .literal_append (c := ')') (by decide)
  | values type =>
    exact ⟨"", "", fun value => by simp, .literal (c := ';') (by decide)⟩
  | value type =>
    exact ⟨"", "", fun value => by simp, .literal (c := ';') (by decide)⟩

theorem texts_readKey (f : FieldDeclaration) : texts (readKey f) =
    ["if (" ++ ("data." ++ f.objectKey ++ " != null") ++ ") \x7b",
      "message." ++ f.name ++ " = " ++ fieldFromObject f ("data." ++ f.objectKey) ++ ";",
      "\x7d"] := by
  simp [readKey, guardedBlock, line]

/-- The lines of a field, taken apart where they access the key. -/
theorem exists_keyedLines (f : FieldDeclaration) : ∃ lines : List KeyedLine,
    (∀ key, conversionLines f key = lines.map (KeyedLine.text key)) ∧
      ∀ l ∈ lines, ∀ after ∈ l.after?, StartsWithin [' ', '.', ')', ';'] after := by
  obtain ⟨before, after, hvalue, hafter⟩ := exists_fieldFromObject_eq f
  let condition :=
    if f.hasPresence then "this.has_" ++ f.name else "this." ++ f.name ++ " != null"
  -- three lines read the key and three write it; those that close a block have none
  refine ⟨[⟨"if (", some " != null) \x7b"⟩,
    ⟨"message." ++ f.name ++ " = " ++ before, some (after ++ ";")⟩, ⟨"\x7d", none⟩,
    ⟨"if (" ++ condition ++ ") \x7b", none⟩,
    ⟨"", some (" = " ++ fieldToObject f ("this." ++ f.name) ++ ";")⟩, ⟨"\x7d", none⟩],
    fun key => ?_, ?_⟩
  · have hread := hvalue ("data." ++ key)
    rw [conversionLines, texts_append, texts_readKey, texts_writeKey,
      show fieldFromObject { f with objectKey := key } = fieldFromObject f from rfl, hread]
    simp only [List.map_cons, List.map_nil, KeyedLine.text, String.append_assoc,
      String.empty_append, List.cons_append, List.nil_append]
    rfl
  · simp only [List.forall_mem_cons, Option.mem_some_iff, forall_eq', Option.not_mem_none,
      IsEmpty.forall_iff, implies_true, List.not_mem_nil, and_true, true_and]
    refine ⟨.literal (c := ' ') (by decide), hafter.mono (by decide), ?_⟩
    simp only [String.append_assoc]
    exact .literal_append (c := ' ') (by decide)

end Script

open Script

/-! ### Keys of fields -/

/-- Where the key of a field comes from. -/
inductive KeySource (jsonNames : Bool) (f : FieldDescriptor) : String → Prop
  | name (h : jsonNames = false) : KeySource jsonNames f f.name
  | jsonName (h : jsonNames = true) {given : String} (hgiven : f.jsonName? = some given)
      (hne : given ≠ "") : KeySource jsonNames f given
  | camelCase (h : jsonNames = true) (hnone : f.jsonName?.getD "" = "") :
      KeySource jsonNames f (lowerCamel f.name)

theorem FileScope.keySource_objectKey (s : FileScope) (f : FieldDescriptor) :
    KeySource s.config.jsonNames f (s.objectKey f) := by
  unfold FileScope.objectKey FieldDescriptor.jsonName
  cases hon : s.config.jsonNames with
  | false => exact .name rfl
  | true =>
    cases hgiven : f.jsonName? with
    | none => exact .camelCase rfl (by rw [hgiven]; rfl)
    | some given =>
      by_cases hempty : given = ""
      · simp only [hempty, if_true]
        exact .camelCase rfl (by rw [hgiven, hempty]; rfl)
      · simp only [hempty, if_true, if_false]
        exact .jsonName rfl hgiven hempty

/-- How the key of a field of a class is printed and read. -/
structure KeyReadings (chars : IdentifierChars) (m : MessageClass) (d : FieldDeclaration) :
    Prop where
  declared : ∀ member ∈ [fromObject m, toObject m], keyEntry d ∈ texts member.lines
  declared_iff : chars.Reads chars.PropertyName (keyEntry d) d.objectKey
    ("?: " ++ objectType d ++ ";") ↔ chars.IsName d.objectKey.toList
  converted : texts (readKey d) <:+: texts (fromObject m).lines ∧
    texts (writeKey d) <:+: texts (toObject m).lines
  accesses : ∃ lines : List KeyedLine,
    (∀ key, conversionLines d key = lines.map (KeyedLine.text key)) ∧
    ∀ l ∈ lines, ∀ after ∈ l.after?,
      (chars.Reads chars.IdentifierName (d.objectKey ++ after) d.objectKey after ↔
        chars.IsName d.objectKey.toList)

theorem texts_fromObject (m : MessageClass) : texts (fromObject m).lines =
    texts (Signature.objectTyped "static fromObject(data: " (objectEntries m)
      ("): " ++ m.name ++ " \x7b")).lines ++
      (("const message = new " ++ m.name ++ "(\x7b\x7d);") ::
        m.fields.flatMap (fun f => texts (readKey f)) ++ ["return message;", "\x7d"]) := by
  unfold fromObject
  simp [Member.lines, Signature.block, Signature.withFront, Member.modifiers, line, texts_flatMap]

/-- The object type of a class has a line for the key of each of its fields. -/
theorem keyEntry_mem_texts {m : MessageClass} {d : FieldDeclaration} (hd : d ∈ m.fields)
    (before after : String) :
    keyEntry d ∈ texts (Signature.objectTyped before (objectEntries m) after).lines := by
  have hentry : (d.objectKey, objectType d) ∈ objectEntries m := List.mem_map.2 ⟨d, hd, rfl⟩
  rw [texts_objectTyped, if_neg (List.ne_nil_of_mem hentry)]
  refine List.mem_append_left _ (List.mem_cons_of_mem _ ?_)
  exact List.mem_map.2 ⟨_, hentry, rfl⟩

theorem infix_flatMap {α β : Type} {f : α → List β} {xs : List α} {x : α} (h : x ∈ xs) :
    f x <:+: xs.flatMap f := by
  obtain ⟨front, back, rfl⟩ := List.append_of_mem h
  exact ⟨front.flatMap f, back.flatMap f, by simp⟩

/-- The keys of all fields of a class are printed as they are. -/
theorem keyReadings (chars : IdentifierChars) {m : MessageClass} {d : FieldDeclaration}
    (hd : d ∈ m.fields) : KeyReadings chars m d where
  declared := by
    rw [List.forall_mem_cons, List.forall_mem_singleton, texts_fromObject, texts_toObject]
    refine ⟨List.mem_append_left _ (keyEntry_mem_texts hd _ _), List.mem_cons_of_mem _ ?_⟩
    exact List.mem_append_left _ (List.mem_append_left _ (keyEntry_mem_texts hd _ _))
  declared_iff := by
    have hends : chars.Ends ("?: " ++ objectType d ++ ";").toList := by
      refine IdentifierChars.ends_of_startsWithin ?_
      rw [String.append_assoc]
      exact .literal_append (c := '?') (by decide)
    have hentry : keyEntry d = d.objectKey ++ ("?: " ++ objectType d ++ ";") := by
      simp only [keyEntry, String.append_assoc]
    rw [hentry, IdentifierChars.reads_self_iff _ hends, IdentifierChars.propertyName_self_iff]
  converted := by
    rw [texts_fromObject, texts_toObject]
    have hread := infix_flatMap (f := fun f => texts (readKey f)) hd
    have hwrite := infix_flatMap (f := fun f => texts (writeKey f)) hd
    constructor
    · exact (hread.trans (List.infix_append' [_] _ _)).trans (List.suffix_append _ _).isInfix
    · refine (hwrite.trans ?_).trans (List.infix_cons (List.infix_refl _))
      exact (List.suffix_append _ _).isInfix.trans (List.prefix_append _ _).isInfix
  accesses := by
    obtain ⟨lines, hlines, hafter⟩ := exists_keyedLines d
    refine ⟨lines, hlines, fun l hl after hl' => ?_⟩
    have hends : chars.Ends after.toList :=
      IdentifierChars.ends_of_startsWithin ((hafter l hl after hl').mono (by decide))
    rw [IdentifierChars.reads_self_iff _ hends, IdentifierChars.identifierName_self_iff]

/-- **Keys are read as the properties that they name, just if they are names of TypeScript.** For
every field that is declared and every class that it stands in, the key is the name of the field,
its JSON name or its name in lower camel case, as the option and the descriptor say. It stands in
both object types and behind the point of every access, and is read there as the property of that
name just if it is a name of TypeScript. The name of a field is one, and so is its name in lower
camel case unless the first letter or digit in it is a digit or there is none. -/
theorem objectKey_reads (chars : IdentifierChars) {s : FileScope} {f : FieldDescriptor}
    {d : FieldDeclaration} (h : s.fieldDeclaration f = .ok d) {m : MessageClass}
    (hd : d ∈ m.fields) :
    KeySource s.config.jsonNames f d.objectKey ∧ KeyReadings chars m d ∧
      (IsIdentifier f.name →
        (d.objectKey = f.name → chars.IsName d.objectKey.toList) ∧
        (d.objectKey = lowerCamel f.name → (chars.IsName d.objectKey.toList ↔
          (f.name.toList.find? Char.isAlphanum).any Char.isAlpha = true))) := by
  obtain ⟨type, value, -, -, rfl⟩ := FileScope.fieldDeclaration_eq_ok_iff.1 h
  refine ⟨s.keySource_objectKey f, keyReadings chars hd,
    fun hname => ⟨fun hkey => ?_, fun hkey => ?_⟩⟩
  · rw [hkey]
    exact IdentifierChars.isName_of_isIdentifier hname
  · rw [hkey]
    exact isName_lowerCamel_iff chars hname

/-- A file of which the keys are JSON names. -/
def jsonNamesScope : FileScope :=
  .ofFile { Config.default with jsonNames := true } .empty {}

/-- A field in two words. -/
def levelField : FieldDescriptor where
  name? := "water_level"
  type? := some 1

/-- A field with a hyphen in its JSON name. -/
def hyphenField : FieldDescriptor where
  name? := "f"
  type? := some 1
  jsonName? := "a-b"

/-- The declaration of either field, but for its names. -/
def numberField (name key : String) : FieldDeclaration where
  name := name
  objectKey := key
  number := 0
  type := .scalar .double
  cardinality := .optional
  oneofIndex := none
  defaultValue := "0"
  packed := false
  deprecated := false

theorem objectKey_reads_level :
    let d := numberField "water_level" "waterLevel"
    let m := jsonNamesScope.messageClass [] { name := "Pool" } [d]
    jsonNamesScope.fieldDeclaration levelField = .ok d ∧ d ∈ m.fields ∧
      KeyReadings .ascii m d ∧ IdentifierChars.ascii.IsName d.objectKey.toList := by
  intro d m
  have hdeclared : jsonNamesScope.fieldDeclaration levelField = .ok d := by decide +kernel
  have hmem : d ∈ m.fields := List.mem_singleton_self d
  obtain ⟨-, hreadings, hname⟩ := objectKey_reads .ascii hdeclared hmem
  have hcamel := (hname (by decide)).2 (by decide +kernel)
  exact ⟨hdeclared, hmem, hreadings, hcamel.2 (by decide)⟩

/-- A JSON name with a hyphen is declared as no property, and accessed as another one. -/
theorem objectKey_misread :
    let d := numberField "f" "a-b"
    let m := jsonNamesScope.messageClass [] { name := "Pool" } [d]
    jsonNamesScope.fieldDeclaration hyphenField = .ok d ∧
      (∀ text ∈ ["a-b?: number;", "if (data.a-b != null) \x7b"],
        text ∈ texts (fromObject m).lines) ∧
      ∀ chars : IdentifierChars,
        ¬ chars.Reads chars.PropertyName "a-b?: number;" "a-b" "?: number;" ∧
        (∀ rest, ¬ chars.Reads chars.IdentifierName "a-b != null) \x7b" "a-b" rest) ∧
        chars.Reads chars.IdentifierName "a-b != null) \x7b" "a" "-b != null) \x7b" := by
  have hhyphen : ∀ chars : IdentifierChars, chars.part '-' = false := fun chars =>
    chars.part_ascii '-' (by decide)
  have hno : ∀ chars : IdentifierChars, ¬ chars.IsName "a-b".toList := by
    rintro chars ⟨c, rest, hcs, -, hrest⟩
    obtain ⟨-, rfl⟩ := List.cons.inj (hcs : 'a' :: ['-', 'b'] = c :: rest)
    cases (hhyphen chars).symm.trans (hrest '-' List.mem_cons_self)
  refine ⟨by decide +kernel, by decide +kernel, fun chars => ⟨fun h => ?_, ?_, ?_⟩⟩
  · obtain ⟨token, htext, htoken, -⟩ := h
    obtain rfl : token = "a-b".toList :=
      (List.append_cancel_right (htext : "a-b".toList ++ "?: number;".toList = _)).symm
    exact hno chars (IdentifierChars.propertyName_self_iff.1 htoken)
  · -- Whatever is accessed, it is a name.
    rintro rest ⟨token, -, htoken, -⟩
    exact hno chars htoken.isName
  · refine ⟨['a'], rfl, .start (.self (chars.start_ascii 'a' (by decide))), fun c hc => ?_⟩
    obtain rfl : '-' = c := Option.some.inj hc
    exact ⟨hhyphen chars, by decide⟩

end ProtoTypeScript
