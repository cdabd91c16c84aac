import ProtoTypeScript.Proofs.PrintedMembers

/-!
# Oneofs read back

What a printed class says about its oneofs.

* `readSlots?` reads the arrays of `#one_of_decls`, `readSetter?` the property, the number and the
  slot that a setter names, and `readOneofCase?` the table of a oneof's accessor and the array that
  it is computed from;
* `readSlots?_head?_memberStatements`, `filterMap_readSetter?_memberStatements` and
  `filterMap_readOneofCase?_memberStatements`: what they find in the members of a printed class.
-/

namespace ProtoTypeScript

namespace Script

/-! ### Readers -/

/-- The place that a slot of a oneof names. -/
def readPlace? (cs : List Char) : Option Nat := do
  let slot ← " this.#one_of_decls[".toList.isPrefixOf? cs
  let (place, _) ← Text.splitOnce? ']' slot
  Text.Numeral.parseDigits? place

/-- What a setter names. -/
structure SetterReading where
  name : String
  number : Nat
  /-- The slot of a oneof. -/
  place : Option Nat
  deriving DecidableEq, Repr

/-- What a member says as a setter, if it is one. -/
def readSetter? : List String → Option SetterReading
  | head :: call :: _ => do
    let name ← "set ".toList.isPrefixOf? head.toList
    let (name, _) ← Text.splitOnce? '(' name
    let (_, arguments) ← Text.splitOnce? '(' call.toList
    let number ← "this, ".toList.isPrefixOf? arguments
    let (number, place) ← Text.splitOnce? ',' number
    let number ← Text.Numeral.parseDigits? number
    return ⟨String.ofList name, number, readPlace? place⟩
  | _ => none

/-- The arrays of a member that lists the members of each oneof. -/
def readSlots? : List String → Option (List (List Nat))
  | [statement] => do
    let arrays ← "#one_of_decls: number[][] = [".toList.isPrefixOf? statement.toList
    return readArrays arrays
  | _ => none

/-- A number with the name that a table has for it. -/
def readCase? (statement : String) : Option (Nat × String) := do
  let (number, name) ← Text.splitOnce? ':' statement.toList
  let number ← Text.Numeral.parseDigits? number
  let name ← " \"".toList.isPrefixOf? name
  let (name, _) ← Text.splitOnce? '"' name
  return (number, String.ofList name)

/-- The numbers that the case of a oneof is computed from. -/
def readComputed? (statement : String) : Option (List Nat) := do
  let call ← "return cases[".toList.isPrefixOf? statement.toList
  let (_, arguments) ← Text.splitOnce? '(' call
  let numbers ← "this, [".toList.isPrefixOf? arguments
  let (numbers, _) ← Text.splitOnce? ']' numbers
  return readNumbers numbers

/-- What the accessor of a oneof says. -/
structure OneofReading where
  name : String
  table : List (Nat × String)
  /-- The numbers that the case is computed from. -/
  numbers : List Nat
  deriving DecidableEq, Repr

/-- The keys of the table that stand for fields. -/
def OneofReading.keys (r : OneofReading) : List Nat :=
  (r.table.map (·.1)).filter (· ≠ 0)

/-- What a member says as the accessor of a oneof, if it is one. -/
def readOneofCase? : List String → Option OneofReading
  | head :: first :: rest => do
    let name ← "get ".toList.isPrefixOf? head.toList
    let (name, _) ← Text.splitOnce? '(' name
    let _ ← "const cases: \x7b".toList.isPrefixOf? first.toList
    let numbers ← rest.findSome? readComputed?
    return ⟨String.ofList name, rest.filterMap readCase?, numbers⟩
  | _ => none

theorem readSetter?_eq_none {front : String} (h : Apart "set " front) {statements : List String}
    (hbegins : Begins front statements) : readSetter? statements = none := by
  obtain ⟨rest, others, rfl⟩ := hbegins
  cases others with
  | nil => rfl
  | cons call others =>
    rw [readSetter?, isPrefixOf?_eq_none_of_apart h]
    rfl

theorem readOneofCase?_eq_none {front : String} (h : Apart "get " front) {statements : List String}
    (hbegins : Begins front statements) : readOneofCase? statements = none := by
  obtain ⟨rest, others, rfl⟩ := hbegins
  cases others with
  | nil => rfl
  | cons call others =>
    rw [readOneofCase?, isPrefixOf?_eq_none_of_apart h]
    rfl

/-! ### Setters -/

theorem readPlace?_oneofSlot (place : Nat) (rest : List Char) :
    readPlace? (' ' :: ((oneofSlot place).toList ++ rest)) = some place := by
  have hclose : ']' ∉ (toString place).toList :=
    fun hmem => absurd (Text.Numeral.isDigit_of_mem_toString hmem) (by decide)
  have htext : ' ' :: ((oneofSlot place).toList ++ rest) =
      " this.#one_of_decls[".toList ++ ((toString place).toList ++ ']' :: rest) := by
    unfold oneofSlot
    simp
  rw [readPlace?, htext, isPrefixOf?_append]
  simp only [Option.bind_eq_bind, Option.bind_some, Text.splitOnce?_append hclose,
    Text.Numeral.parseDigits?_toString]

theorem readPlace?_value (rest : List Char) : readPlace? (" value".toList ++ rest) = none := rfl

/-- The slot that the setter of a field names. Maps and repeated messages name none. -/
def setterPlace? (m : MessageClass) (f : FieldDeclaration) : Option Nat :=
  match f.shape with
  | .map _ _ => none
  | .messages _ => none
  | _ => f.oneofIndex.bind m.oneofPosition?

/-- The call of a setter, as a reader takes it apart. -/
theorem toList_setterCall (m : MessageClass) (f : FieldDeclaration) : ∃ function rest,
    '(' ∉ function ∧ readPlace? rest = setterPlace? m f ∧
    (setterCall m.runtime f (fieldSlot m f) ++ ";").toList =
      m.runtime.toList ++ (function ++ '(' :: ("this, ".toList ++
        ((decimal f.number).toList ++ ',' :: rest))) := by
  unfold setterCall fieldSlot setterPlace?
  cases f.shape with
  | map key value =>
    exact ⟨".Message.setField".toList, " value as any);".toList, by decide, readPlace?_value _,
      by simp [messageCall, Text.joinWith]⟩
  | messages type =>
    exact ⟨".Message.setRepeatedWrapperField".toList, " value);".toList, by decide,
      readPlace?_value _, by simp [messageCall, Text.joinWith]⟩
  | message type =>
    cases f.oneofIndex.bind m.oneofPosition? with
    | none =>
      exact ⟨".Message.setWrapperField".toList, " value);".toList, by decide, readPlace?_value _,
        by simp [messageCall, Text.joinWith]⟩
    | some place =>
      exact ⟨".Message.setOneofWrapperField".toList,
        ' ' :: ((oneofSlot place).toList ++ ", value);".toList), by decide,
        readPlace?_oneofSlot place _, by simp [messageCall, Text.joinWith]⟩
  | values type | value type =>
    cases f.oneofIndex.bind m.oneofPosition? with
    | none =>
      exact ⟨".Message.setField".toList, " value);".toList, by decide, readPlace?_value _,
        by simp [messageCall, Text.joinWith]⟩
    | some place =>
      exact ⟨".Message.setOneofField".toList,
        ' ' :: ((oneofSlot place).toList ++ ", value);".toList), by decide,
        readPlace?_oneofSlot place _, by simp [messageCall, Text.joinWith]⟩

section Setters

variable {m : MessageClass} (hruntime : m.runtime = "pb_1") {f : FieldDeclaration} (hf : Readable f)
  (depth : Nat)

include hruntime hf

/-- What the setter of a field says. -/
theorem readSetter?_setter : readSetter? ((Member.setter f.name (propertyType f)
    [line (setterCall m.runtime f (fieldSlot m f) ++ ";")]).statements depth) =
      some ⟨f.name, f.number.toNatClampNeg, setterPlace? m f⟩ := by
  obtain ⟨function, rest, hfunction, hplace, hcall⟩ := toList_setterCall m f
  have hname : '(' ∉ f.name.toList := hf.name.notMem (by decide)
  have hhead : ("set " ++ f.name ++ "(value: " ++ propertyType f ++ ") \x7b").toList =
      "set ".toList ++ (f.name.toList ++ '(' ::
        ("value: ".toList ++ ((propertyType f).toList ++ ") \x7b".toList))) := by
    simp
  have hopen : '(' ∉ m.runtime.toList ++ function := by
    rw [List.mem_append, not_or, hruntime]
    exact ⟨by decide, hfunction⟩
  rw [statements_fieldSetter hruntime hf, accessorStatements, readSetter?, hhead, hcall,
    ← List.append_assoc m.runtime.toList, isPrefixOf?_append]
  simp only [Option.bind_eq_bind, Option.bind_some, Text.splitOnce?_append hname,
    Text.splitOnce?_append hopen, isPrefixOf?_append,
    Text.splitOnce?_append (notMem_decimal hf.positive (c := ',') rfl),
    parseDigits?_decimal hf.positive, String.ofList_toList, hplace]
  rfl

theorem filterMap_readSetter?_fieldAccessors :
    ((fieldAccessors m f).filterMap fun member => readSetter? (member.statements depth)) =
      [⟨f.name, f.number.toNatClampNeg, setterPlace? m f⟩] := by
  have hgetter : readSetter? ((Member.getter f.deprecated f.name
      [line ("return " ++ getterValue m.runtime f ++ ";")]).statements depth) = none := by
    refine fieldGetter_cases hruntime hf depth (fun _ => readSetter?_eq_none (by decide)) ?_
    rw [String.append_assoc]
    exact readSetter?_eq_none (by decide) ⟨_, _, rfl⟩
  have hsetter := readSetter?_setter hruntime hf depth
  have hpresence := readSetter?_eq_none (by decide) (begins_presenceAccessor hruntime hf depth)
  rw [fieldAccessors]
  split_ifs <;> simp [hgetter, hsetter, hpresence]

end Setters

/-! ### Accessors of oneofs -/

/-- What does not start with a digit is no entry of a table. -/
theorem readCase?_eq_none {statement : String} {cs : List Char} (h : StartsWithin cs statement)
    (hdigits : cs.all (!·.isDigit) = true) : readCase? statement = none := by
  obtain ⟨c, hc, hhead⟩ := h
  have hdigit : c.isDigit = false := by simpa using List.all_eq_true.1 hdigits c hc
  obtain ⟨rest, hrest⟩ : ∃ rest, statement.toList = c :: rest := by
    cases hlist : statement.toList with
    | nil => simp [hlist] at hhead
    | cons d rest =>
      rw [hlist, List.head?_cons, Option.some.injEq] at hhead
      exact ⟨rest, by rw [hhead]⟩
  have hnumber : Text.Numeral.parseDigits? ((c :: rest).takeWhile (· != ':')) = none := by
    rw [Text.Numeral.parseDigits?, Text.Numeral.isDigits, List.takeWhile_cons]
    split_ifs with hsep <;> simp_all
  rw [readCase?, hrest, Text.splitOnce?]
  split
  · rfl
  · simp only [Option.bind_eq_bind, Option.bind_some, hnumber]
    rfl

theorem readComputed?_eq_none {statement : String} {cs : List Char} (h : StartsWithin cs statement)
    (hr : 'r' ∉ cs) : readComputed? statement = none := by
  have hprefix : "return cases[".toList.isPrefixOf? statement.toList = none :=
    isPrefixOf?_eq_none (h.head?_ne hr)
  rw [readComputed?, hprefix]
  rfl

/-- The entry of a member in the table of its oneof. -/
def caseEntry (member : Int32 × String) : String :=
  decimal member.1 ++ ": \"" ++ member.2 ++ "\""

theorem readCase?_caseEntry {member : Int32 × String} (hpositive : 0 < member.1)
    (hname : IsIdentifier member.2) (rest : String) :
    readCase? (caseEntry member ++ rest) = some (member.1.toNatClampNeg, member.2) := by
  have htext : (caseEntry member ++ rest).toList = (decimal member.1).toList ++ ':' ::
      (" \"".toList ++ (member.2.toList ++ '"' :: rest.toList)) := by
    simp [caseEntry]
  have hquote : '"' ∉ member.2.toList := hname.notMem (by decide)
  rw [readCase?, htext, Text.splitOnce?_append (notMem_decimal hpositive rfl)]
  simp only [Option.bind_eq_bind, Option.bind_some, parseDigits?_decimal hpositive,
    isPrefixOf?_append, Text.splitOnce?_append hquote, String.ofList_toList]
  rfl

/-- Commas after the entries make no difference. -/
theorem filterMap_readCase?_withCommas {parts : List String}
    (h : ∀ part ∈ parts, readCase? (part ++ ",") = readCase? part) :
    (Text.withCommas parts).filterMap readCase? = parts.filterMap readCase? := by
  fun_induction Text.withCommas parts with
  | case1 => rfl
  | case2 => rfl
  | case3 part next parts ih =>
    rw [List.forall_mem_cons] at h
    rw [List.filterMap_cons, List.filterMap_cons (l := next :: parts), h.1, ih h.2]

theorem startsWithin_withCommas {cs : List Char} {parts : List String}
    (h : ∀ part ∈ parts, StartsWithin cs part) :
    ∀ text ∈ Text.withCommas parts, StartsWithin cs text := by
  fun_induction Text.withCommas parts with
  | case1 => exact h
  | case2 => exact h
  | case3 part next parts ih =>
    rw [List.forall_mem_cons] at h ⊢
    obtain ⟨c, hc, hhead⟩ := h.1
    exact ⟨⟨c, hc, by rw [String.toList_append, List.head?_append, hhead]; rfl⟩, ih h.2⟩

theorem texts_map_line (xs : List String) : texts (xs.map line) = xs := by
  rw [texts, List.map_map]
  exact List.map_id xs

/-- The entries of the table of a oneof. -/
def caseEntries (m : MessageClass) (oneof : OneofDeclaration) : List String :=
  "0: \"none\"" :: (m.memberFields oneof).map caseEntry

/-- The lines in front of the table of a oneof. -/
def tableHead (m : MessageClass) (oneof : OneofDeclaration) : List String :=
  ["[index: number]: \"none\"" ++
      String.join ((m.memberFields oneof).map fun member => " | \"" ++ member.2 ++ "\"") ++ ";",
    "\x7d = \x7b"]

/-- What the case of a oneof is computed from. -/
def computedCase (m : MessageClass) (oneof : OneofDeclaration) : String :=
  "return cases[" ++
    messageCall m.runtime "computeOneofCase" ["this", numberArray oneof.members] ++ "];"

theorem startsWithin_computedCase (m : MessageClass) (oneof : OneofDeclaration) :
    StartsWithin ['r'] (computedCase m oneof) := by
  rw [computedCase, String.append_assoc]
  exact .literal_append (by decide)

theorem mem_digits_of_isDigit {c : Char} (h : c.isDigit = true) : c ∈ "0123456789".toList := by
  have hrange : 48 ≤ c.toNat ∧ c.toNat ≤ 57 := Char.isDigit_iff_toNat.1 h
  have hchar : Char.ofNat c.toNat = c := c.ofNat_toNat
  obtain ⟨hlow, hhigh⟩ := hrange
  generalize c.toNat = n at hlow hhigh hchar
  subst hchar
  decide +revert

theorem startsWithin_decimal {n : Int32} (h : 0 < n) (rest : String) :
    StartsWithin "0123456789".toList (decimal n ++ rest) := by
  have hne : (decimal n).toList ≠ [] := by
    rw [toList_decimal h]
    exact Nat.toDigits_ne_nil
  obtain ⟨c, cs, hcs⟩ := List.exists_cons_of_ne_nil hne
  have hdigit : c.isDigit = true := isDigit_of_mem_decimal h (by rw [hcs]; exact List.mem_cons_self)
  exact ⟨c, mem_digits_of_isDigit hdigit, by rw [String.toList_append, hcs]; rfl⟩

section Oneofs

variable {m : MessageClass} (hruntime : m.runtime = "pb_1") {oneof : OneofDeclaration}
  (hname : IsIdentifier oneof.name)
  (hmembers : ∀ member ∈ m.memberFields oneof, 0 < member.1 ∧ IsIdentifier member.2)

include hmembers

theorem startsWithin_caseEntries :
    ∀ text ∈ caseEntries m oneof, StartsWithin "0123456789".toList text := by
  rw [caseEntries, List.forall_mem_cons, List.forall_mem_map]
  refine ⟨.literal (by decide), fun member hmember => ?_⟩
  simp only [caseEntry, String.append_assoc]
  exact startsWithin_decimal (hmembers member hmember).1 _

omit hmembers in
theorem startsWithin_tableHead : ∀ text ∈ tableHead m oneof, StartsWithin ['[', '\x7d'] text := by
  rw [tableHead, List.forall_mem_cons, List.forall_mem_singleton, String.append_assoc]
  exact ⟨.literal_append (by decide), .literal (by decide)⟩

omit hmembers in
theorem texts_oneofCase : texts (oneofCase m oneof).lines =
    ("get " ++ oneof.name ++ "() \x7b") :: "const cases: \x7b" :: (tableHead m oneof ++
      Text.withCommas (caseEntries m oneof) ++ ["\x7d;", computedCase m oneof, "\x7d"]) := by
  have htexts : texts (oneofCase m oneof).lines =
      ("get " ++ oneof.name ++ "() \x7b") :: ("const cases: \x7b" :: (tableHead m oneof ++
        Text.withCommas (caseEntries m oneof) ++ ["\x7d;", computedCase m oneof])) ++ ["\x7d"] := by
    unfold oneofCase Member.lines
    simp only [texts_append, texts_block, texts_indent, texts_cons, texts_nil, texts_map_line]
    rfl
  rw [htexts]
  simp

theorem startsWithin_oneofCase : ∀ text ∈ texts (oneofCase m oneof).lines,
    StartsWithin ("gc[\x7dr" ++ "0123456789").toList text := by
  have hhead : StartsWithin ['g'] ("get " ++ (oneof.name ++ "() \x7b")) :=
    .literal_append (List.mem_singleton_self _)
  rw [texts_oneofCase, String.append_assoc]
  intro text htext
  simp only [List.mem_cons, List.mem_append, List.not_mem_nil, or_false] at htext
  rcases htext with rfl | rfl | (htable | hentry) | rfl | rfl | rfl
  · exact hhead.mono (by decide)
  · exact .literal (by decide)
  · exact (startsWithin_tableHead text htable).mono (by decide)
  · exact (startsWithin_withCommas (startsWithin_caseEntries hmembers) text hentry).mono (by decide)
  · exact .literal (by decide)
  · exact (startsWithin_computedCase m oneof).mono (by decide)
  · exact .literal (by decide)

include hruntime hname

theorem statements_oneofCase (depth : Nat) : (oneofCase m oneof).statements depth =
    ("get " ++ oneof.name ++ "() \x7b") :: "const cases: \x7b" :: (tableHead m oneof ++
      Text.withCommas (caseEntries m oneof) ++ ["\x7d;", computedCase m oneof, "\x7d"]) := by
  have hlines : OneLines (oneofCase m oneof).lines :=
    oneLines_oneofCase (hruntime ▸ oneLine_literal rfl) hname.oneLine
      fun member hmember => (hmembers member hmember).2.oneLine
  have hstart : ∀ text ∈ texts (oneofCase m oneof).lines,
      ∃ c, text.toList.head? = some c ∧ c ≠ ' ' :=
    fun text htext => (startsWithin_oneofCase hmembers text htext).start (by decide)
  rw [statements_member hlines hstart, texts_oneofCase]

omit hname hruntime in
/-- The table says which name each member has. -/
theorem filterMap_readCase?_caseEntries :
    (Text.withCommas (caseEntries m oneof)).filterMap readCase? =
      (0, "none") :: (m.memberFields oneof).map fun member =>
        (member.1.toNatClampNeg, member.2) := by
  have hentry : ∀ member ∈ m.memberFields oneof, readCase? (caseEntry member) =
      some (member.1.toNatClampNeg, member.2) := by
    intro member hmember
    obtain ⟨hpositive, hidentifier⟩ := hmembers member hmember
    have hread := readCase?_caseEntry hpositive hidentifier ""
    rwa [String.append_empty] at hread
  -- a comma behind an entry does not matter to the reader
  have hcomma : ∀ text ∈ caseEntries m oneof, readCase? (text ++ ",") = readCase? text := by
    rw [caseEntries, List.forall_mem_cons, List.forall_mem_map]
    refine ⟨by decide, fun member hmember => ?_⟩
    obtain ⟨hpositive, hidentifier⟩ := hmembers member hmember
    rw [hentry member hmember, readCase?_caseEntry hpositive hidentifier]
  have hnone : readCase? "0: \"none\"" = some (0, "none") := by decide
  rw [filterMap_readCase?_withCommas hcomma, caseEntries, List.filterMap_cons_some hnone,
    List.filterMap_map]
  refine congrArg _ ?_
  rw [← List.filterMap_eq_map]
  exact List.filterMap_congr hentry

omit hmembers hname in
theorem readComputed?_computedCase (hpositive : ∀ n ∈ oneof.members, 0 < n) :
    readComputed? (computedCase m oneof) = some (oneof.members.map (·.toNatClampNeg)) := by
  have htext : (computedCase m oneof).toList = "return cases[".toList ++
      ("pb_1.Message.computeOneofCase".toList ++ '(' :: ("this, [".toList ++
        ((Text.joinWith ", " (oneof.members.map decimal)).toList ++ ']' :: ")];".toList))) := by
    simp [computedCase, hruntime, messageCall, Text.joinWith, numberArray]
  have hopen : '(' ∉ "pb_1.Message.computeOneofCase".toList := by decide
  have hclose : ']' ∉ (Text.joinWith ", " (oneof.members.map decimal)).toList :=
    notMem_numbers hpositive rfl (by decide)
  rw [readComputed?, htext, isPrefixOf?_append]
  simp only [Option.bind_eq_bind, Option.bind_some, Text.splitOnce?_append hopen,
    isPrefixOf?_append, Text.splitOnce?_append hclose, readNumbers_joinWith hpositive]
  rfl

omit hname hruntime in
/-- The statements of the accessor after the first two. -/
theorem filterMap_readCase?_oneofCase :
    (tableHead m oneof ++ Text.withCommas (caseEntries m oneof) ++
      ["\x7d;", computedCase m oneof, "\x7d"]).filterMap readCase? =
        (0, "none") :: (m.memberFields oneof).map fun member =>
          (member.1.toNatClampNeg, member.2) := by
  have hhead : (tableHead m oneof).filterMap readCase? = [] :=
    List.filterMap_eq_nil_iff.2 fun text htext =>
      readCase?_eq_none (startsWithin_tableHead text htext) (by decide)
  have hcomputed : readCase? (computedCase m oneof) = none := by
    refine readCase?_eq_none (startsWithin_computedCase m oneof) (by decide)
  have htail : ["\x7d;", computedCase m oneof, "\x7d"].filterMap readCase? = [] := by
    rw [List.filterMap_cons_none (by decide), List.filterMap_cons_none hcomputed]
    decide
  rw [List.filterMap_append, List.filterMap_append, hhead, htail,
    filterMap_readCase?_caseEntries hmembers, List.nil_append, List.append_nil]

omit hname in
theorem findSome?_readComputed?_oneofCase (hpositive : ∀ n ∈ oneof.members, 0 < n) :
    (tableHead m oneof ++ Text.withCommas (caseEntries m oneof) ++
      ["\x7d;", computedCase m oneof, "\x7d"]).findSome? readComputed? =
        some (oneof.members.map (·.toNatClampNeg)) := by
  have hbefore : (tableHead m oneof ++ Text.withCommas (caseEntries m oneof) ++
      ["\x7d;"]).findSome? readComputed? = none := by
    rw [List.findSome?_eq_none_iff]
    intro text htext
    rw [List.mem_append, List.mem_append, List.mem_singleton] at htext
    rcases htext with (hhead | hentry) | rfl
    · exact readComputed?_eq_none (startsWithin_tableHead text hhead) (by decide)
    · exact readComputed?_eq_none
        (startsWithin_withCommas (startsWithin_caseEntries hmembers) text hentry) (by decide)
    · decide
  rw [← List.singleton_append, ← List.append_assoc, List.findSome?_append, hbefore,
    List.findSome?_cons, readComputed?_computedCase hruntime hpositive]
  rfl

/-- What the accessor of a oneof says. -/
theorem readOneofCase?_oneofCase (hpositive : ∀ n ∈ oneof.members, 0 < n) (depth : Nat) :
    readOneofCase? ((oneofCase m oneof).statements depth) = some ⟨oneof.name,
      (0, "none") :: (m.memberFields oneof).map fun member => (member.1.toNatClampNeg, member.2),
      oneof.members.map (·.toNatClampNeg)⟩ := by
  have hhead : ("get " ++ oneof.name ++ "() \x7b").toList =
      "get ".toList ++ (oneof.name.toList ++ '(' :: ") \x7b".toList) := by
    simp
  have hopen : '(' ∉ oneof.name.toList := hname.notMem (by decide)
  have hnumbers := findSome?_readComputed?_oneofCase hruntime hmembers hpositive
  have htable := filterMap_readCase?_oneofCase hmembers
  rw [statements_oneofCase hruntime hname hmembers, readOneofCase?, hhead, isPrefixOf?_append]
  simp only [Option.bind_eq_bind, Option.bind_some, Text.splitOnce?_append hopen, hnumbers, htable,
    String.ofList_toList]
  rfl

end Oneofs

/-! ### Classes -/

/-- The setter of a field, as it is read. -/
def setterReading (m : MessageClass) (f : FieldDeclaration) : SetterReading :=
  ⟨f.name, f.number.toNatClampNeg, setterPlace? m f⟩

/-- The accessor of a oneof, as it is read. -/
def oneofReading (m : MessageClass) (oneof : OneofDeclaration) : OneofReading :=
  ⟨oneof.name,
    (0, "none") :: (m.memberFields oneof).map fun member => (member.1.toNatClampNeg, member.2),
    oneof.members.map (·.toNatClampNeg)⟩

/-- The numbers that a class lists for each of its oneofs. -/
def slotNumbers (m : MessageClass) : List (List Nat) :=
  m.oneofs.map fun oneof => oneof.members.map (·.toNatClampNeg)

theorem readOneofCase?_return (head value rest : String) (others : List String) :
    readOneofCase? (head :: ("return " ++ value ++ rest) :: others) = none := by
  have happart : Apart "const cases: \x7b" "return " := by decide
  rw [readOneofCase?, String.append_assoc, isPrefixOf?_eq_none_of_apart happart]
  simp

theorem filterMap_readOneofCase?_fieldAccessors {m : MessageClass} (hruntime : m.runtime = "pb_1")
    {f : FieldDeclaration} (hf : Readable f) (depth : Nat) :
    ((fieldAccessors m f).filterMap fun member => readOneofCase? (member.statements depth)) =
      [] := by
  have hgetter : readOneofCase? ((Member.getter f.deprecated f.name
      [line ("return " ++ getterValue m.runtime f ++ ";")]).statements depth) = none :=
    fieldGetter_cases hruntime hf depth (fun _ => readOneofCase?_eq_none (by decide))
      (readOneofCase?_return _ _ _ _)
  have hsetter := readOneofCase?_eq_none (by decide) (begins_fieldSetter hruntime hf depth)
  have hpresence : readOneofCase? ((presenceAccessor m.runtime f).statements depth) = none := by
    rw [statements_presenceAccessor hruntime hf]
    exact readOneofCase?_return _ _ _ _
  rw [fieldAccessors]
  split_ifs <;> simp [hgetter, hsetter, hpresence]

section Classes

variable {m : MessageClass} (h : ReadableClass m) (depth : Nat)

include h

theorem readSlots?_head?_memberStatements :
    (memberStatements depth m).head?.bind readSlots? = some (slotNumbers m) := by
  have hgroups : ∀ ns ∈ m.oneofs.map (·.members), ∀ n ∈ ns, 0 < n :=
    List.forall_mem_map.2 h.members
  have harrays : OneLine (Text.joinWith ", " ((m.oneofs.map (·.members)).map numberArray)) :=
    oneLine_joinWith (oneLine_literal rfl)
      (List.forall_mem_map.2 fun ns _ => oneLine_numberArray ns)
  have hstatement : IsStatement ("#one_of_decls: number[][] = [" ++
      Text.joinWith ", " ((m.oneofs.map (·.members)).map numberArray) ++ "];") := by
    rw [String.append_assoc]
    have hstart : StartsWithin ['#'] ("#one_of_decls: number[][] = [" ++
        (Text.joinWith ", " ((m.oneofs.map (·.members)).map numberArray) ++ "];")) :=
      .literal_append (by decide)
    exact .of_startsWithin (oneLine_append.2 ⟨by simp, oneLine_append.2 ⟨harrays, by simp⟩⟩) hstart
      (by decide)
  have hstatements : (Member.slots (m.oneofs.map (·.members))).statements (depth + 1) =
      ["#one_of_decls: number[][] = [" ++
        Text.joinWith ", " ((m.oneofs.map (·.members)).map numberArray) ++ "];"] := by
    rw [Member.statements, Member.text, Member.lines,
      statements_render (by simpa [line] using hstatement)]
    simp [line]
  have htext : ("#one_of_decls: number[][] = [" ++
      Text.joinWith ", " ((m.oneofs.map (·.members)).map numberArray) ++ "];").toList =
        "#one_of_decls: number[][] = [".toList ++ ([] ++
          ((Text.joinWith ", " ((m.oneofs.map (·.members)).map numberArray)).toList ++
            ']' :: [';'])) := by
    simp
  have hhead : (memberStatements depth m).head? =
      some ((Member.slots (m.oneofs.map (·.members))).statements (depth + 1)) := rfl
  rw [hhead, hstatements, Option.bind_some, readSlots?, htext, isPrefixOf?_append]
  simp only [Option.bind_eq_bind, Option.bind_some]
  rw [readArrays_joinWith (by decide) (by decide) hgroups (by decide) (by decide), List.map_map]
  rfl

theorem filterMap_readSetter?_memberStatements :
    (memberStatements depth m).filterMap readSetter? = m.fields.map (setterReading m) := by
  have hother : ∀ statements, NoAccessor statements → readSetter? statements = none :=
    fun _ ⟨_, _, hset, hbegins⟩ => readSetter?_eq_none hset hbegins
  have hnone : (m.oneofs.filterMap fun oneof =>
      readSetter? ((oneofCase m oneof).statements (depth + 1))) = [] := by
    refine List.filterMap_eq_nil_iff.2 fun oneof honeof => ?_
    rw [statements_oneofCase h.runtime (h.oneofs oneof honeof) (h.memberFields oneof),
      String.append_assoc]
    exact readSetter?_eq_none (by decide) ⟨_, _, rfl⟩
  rw [filterMap_memberStatements hother h.oneLine_runtime h.name, hnone, List.append_nil,
    List.map_eq_flatMap]
  exact List.flatMap_congr fun f hf =>
    filterMap_readSetter?_fieldAccessors h.runtime (h.fields f hf) (depth + 1)

theorem filterMap_readOneofCase?_memberStatements :
    (memberStatements depth m).filterMap readOneofCase? = m.oneofs.map (oneofReading m) := by
  have hother : ∀ statements, NoAccessor statements → readOneofCase? statements = none :=
    fun _ ⟨_, hget, _, hbegins⟩ => readOneofCase?_eq_none hget hbegins
  have hnone : (m.fields.flatMap fun f => (fieldAccessors m f).filterMap fun member =>
      readOneofCase? (member.statements (depth + 1))) = [] :=
    List.flatMap_eq_nil_iff.2 fun f hf =>
      filterMap_readOneofCase?_fieldAccessors h.runtime (h.fields f hf) (depth + 1)
  rw [filterMap_memberStatements hother h.oneLine_runtime h.name, hnone, List.nil_append,
    ← List.filterMap_eq_map]
  exact List.filterMap_congr fun oneof honeof =>
    readOneofCase?_oneofCase h.runtime (h.oneofs oneof honeof) (h.memberFields oneof)
      (h.members oneof honeof) (depth + 1)

end Classes

end Script

end ProtoTypeScript
