import ProtoTypeScript.Proofs.PrintedOneofs
import ProtoTypeScript.Proofs.Readings

/-!
# Printed enums read back

An enum is printed as a block with a line `NAME = NUMBER` for each of its values.

* `readInteger?` reads a number with its sign, `readValue?` a line, and `readValues?` lines with a
  comma after each but the last;
* `readEnum?` reads the block of the enum of a name, at any depth and with or without the comment on
  a deprecated construct;
* `readEnum?_printed`: it finds the values of the enum, in order, if their names are identifiers.
-/

namespace ProtoTypeScript.Script

/-! ### Numbers -/

/-- A number in decimal, with a minus sign in front if it is negative. -/
def readInteger? : List Char → Option ℤ
  | '-' :: digits => (Text.Numeral.parseDigits? digits).map fun n => -Int.ofNat n
  | digits => (Text.Numeral.parseDigits? digits).map Int.ofNat

theorem readInteger?_of_parseDigits? {cs : List Char} {n : ℕ}
    (h : Text.Numeral.parseDigits? cs = some n) : readInteger? cs = some (Int.ofNat n) := by
  have hsign : ∀ digits, cs = '-' :: digits → False := by
    rintro digits rfl
    exact notMem_of_parseDigits? h (by decide) List.mem_cons_self
  rw [readInteger?, h, Option.map_some]
  exact hsign

/-- A number with its sign reads back as itself. -/
theorem readInteger?_decimal (n : Int32) : readInteger? (decimal n).toList = some n.toInt := by
  rw [decimal]
  cases n.toInt with
  | ofNat k => exact readInteger?_of_parseDigits? (Text.Numeral.parseDigits?_toString k)
  | negSucc k =>
    have htext : (toString (Int.negSucc k)).toList = '-' :: (toString (k + 1)).toList := by
      change ("-" ++ Nat.repr (k + 1)).toList = _
      rw [String.toList_append]
      rfl
    rw [htext, readInteger?, Text.Numeral.parseDigits?_toString, Option.map_some]
    rfl

/-! ### Values -/

/-- The name and the number of a line `NAME = NUMBER`. -/
def readValue? (cs : List Char) : Option (String × ℤ) := do
  let number ← " = ".toList.isPrefixOf? (takeName cs).2
  let n ← readInteger? number
  return ((takeName cs).1, n)

/-- A line without the comma at its end. -/
def dropComma? (cs : List Char) : Option (List Char) :=
  if cs.getLast? = some ',' then some cs.dropLast else none

/-- The values on lines of their own, with a comma after each but the last. -/
def readValues? : List String → Option (List (String × ℤ))
  | [] => some []
  | [last] => (readValue? last.toList).map fun v => [v]
  | item :: next :: rest => do
    let cs ← dropComma? item.toList
    let v ← readValue? cs
    let vs ← readValues? (next :: rest)
    return v :: vs

/-- What is read of a value. -/
def valueOf (v : EnumValue) : String × ℤ :=
  (v.name, v.number.toInt)

theorem readValue?_enumValue {v : EnumValue} (h : IsIdentifier v.name) :
    readValue? (enumValue v).toList = some (valueOf v) := by
  have hname : takeName (enumValue v).toList =
      (v.name, " = ".toList ++ (decimal v.number).toList) := by
    rw [enumValue, String.toList_append, String.toList_append, List.append_assoc]
    exact takeName_append h rfl
  rw [readValue?, hname, isPrefixOf?_append]
  simp only [Option.bind_eq_bind, Option.bind_some, readInteger?_decimal]
  rfl

theorem dropComma?_append (item : String) : dropComma? (item ++ ",").toList = some item.toList := by
  have hcomma : (item ++ ",").toList = item.toList ++ [','] := String.toList_append ..
  rw [dropComma?, hcomma, List.getLast?_concat, if_pos rfl, List.dropLast_concat]

/-- Lines with commas between them are read as the values that they were written for. -/
theorem readValues?_withCommas {vs : List EnumValue} (h : ∀ v ∈ vs, IsIdentifier v.name) :
    readValues? (Text.withCommas (vs.map enumValue)) = some (vs.map valueOf) := by
  induction vs with
  | nil => rfl
  | cons v vs ih =>
    rw [List.forall_mem_cons] at h
    have hrest := ih h.2
    -- Only the last value has no comma behind it.
    cases vs with
    | nil =>
      rw [List.map_singleton, Text.withCommas, readValues?, readValue?_enumValue h.1]
      rfl
    | cons next vs =>
      have hne : ∃ item items, Text.withCommas ((next :: vs).map enumValue) = item :: items := by
        refine List.exists_cons_of_ne_nil fun hnil => ?_
        have hlength := congrArg List.length hnil
        simp at hlength
      obtain ⟨item, items, hitems⟩ := hne
      rw [hitems] at hrest
      rw [List.map_cons, List.map_cons, Text.withCommas, ← List.map_cons, hitems, readValues?,
        dropComma?_append]
      simp only [Option.bind_eq_bind, Option.bind_some, readValue?_enumValue h.1, hrest]
      rfl

/-! ### Blocks -/

/-- The text without the space that it starts with. -/
def skipSpace (cs : List Char) : List Char :=
  cs.dropWhile (· == ' ')

/-- The text without the comment on a deprecated construct. -/
def skipDeprecation (cs : List Char) : List Char :=
  match "/** @deprecated */\n".toList.isPrefixOf? cs with
  | some rest => skipSpace rest
  | none => cs

/-- The values in the block of the enum of a name, if the text is such a block. -/
def readEnum? (name text : String) : Option (List (String × ℤ)) := do
  let body ← ("export enum " ++ name ++ " \x7b\n").toList.isPrefixOf?
    (skipDeprecation (skipSpace text.toList))
  let items := statements (String.ofList body)
  if items.getLast? = some "\x7d" then readValues? items.dropLast else none

theorem render_of_ne_empty {text : String} (h : text ≠ "") (depth : ℕ) (lines : List Line) :
    (render (⟨depth, text⟩ :: lines)).toList =
      List.replicate (4 * depth) ' ' ++ (text.toList ++ '\n' :: (render lines).toList) := by
  rw [render_cons, Line.render, if_neg h, indentation]
  simp

theorem skipSpace_replicate {cs : List Char} (h : cs.head? ≠ some ' ') (n : ℕ) :
    skipSpace (List.replicate n ' ' ++ cs) = cs := by
  induction n with
  | zero =>
    cases cs with
    | nil => rfl
    | cons c cs =>
      rw [List.head?_cons, ne_eq, Option.some.injEq] at h
      exact List.dropWhile_cons_of_neg (by simpa using h)
  | succ n ih => exact ih

/-- The text of an enum's block without its comment, from the keyword on. -/
theorem skipDeprecation_render (e : EnumDeclaration) (depth : ℕ) :
    skipDeprecation (skipSpace (render (indentBy depth (enumeration e))).toList) =
      ("export enum " ++ e.name ++ " \x7b\n").toList ++
        (render (indentBy (depth + 1) ((Text.withCommas (e.values.map enumValue)).map line) ++
          [⟨depth, "\x7d"⟩])).toList := by
  have hblock : ∀ rest : List Char,
      ("export enum " ++ e.name ++ " \x7b").toList ++ '\n' :: rest =
        ("export enum " ++ e.name ++ " \x7b\n").toList ++ rest := by
    intro rest
    simp
  have hhead : ∀ rest : List Char,
      (("export enum " ++ e.name ++ " \x7b\n").toList ++ rest).head? = some 'e' := by
    intro rest
    simp
  have hne : "export enum " ++ e.name ++ " \x7b" ≠ "" := by
    simp [← String.toList_inj]
  have hcomment : ∀ rest : List Char, "/** @deprecated */\n".toList.isPrefixOf?
      (("export enum " ++ e.name ++ " \x7b\n").toList ++ rest) = none :=
    fun rest => isPrefixOf?_eq_none (by rw [hhead]; decide)
  rw [enumeration, indentBy_append, indentBy_block]
  -- without a comment nothing is skipped, since the keyword does not start like one
  cases e.deprecated with
  | false =>
    rw [deprecation, if_neg (by decide), indentBy, List.map_nil, List.nil_append,
      render_of_ne_empty hne, hblock, skipSpace_replicate (by rw [hhead]; decide), skipDeprecation,
      hcomment]
  | true =>
    have hdeprecated : indentBy depth (deprecation true) = [⟨depth, "/** @deprecated */"⟩] := by
      simp [deprecation, indentBy, line]
    rw [hdeprecated, List.singleton_append, render_of_ne_empty (by decide),
      render_of_ne_empty hne, hblock, skipSpace_replicate (by simp), skipDeprecation]
    have hline : ∀ rest : List Char, "/** @deprecated */".toList ++ '\n' :: rest =
        "/** @deprecated */\n".toList ++ rest := by
      intro rest
      simp
    rw [hline, isPrefixOf?_append]
    exact skipSpace_replicate (by rw [hhead]; decide) _

theorem isStatement_enumValue {v : EnumValue} (h : IsIdentifier v.name) (separator : String)
    (hseparator : OneLine separator) : IsStatement (enumValue v ++ separator) where
  oneLine := by
    simp [enumValue, h.oneLine, hseparator]
  start := by
    rw [enumValue, String.append_assoc, String.append_assoc]
    exact h.start _

theorem isStatement_withCommas {vs : List EnumValue} (h : ∀ v ∈ vs, IsIdentifier v.name) :
    ∀ text ∈ Text.withCommas (vs.map enumValue), IsStatement text := by
  induction vs with
  | nil => exact List.forall_mem_nil _
  | cons v vs ih =>
    rw [List.forall_mem_cons] at h
    have hlast := isStatement_enumValue h.1 "" (oneLine_literal rfl)
    rw [String.append_empty] at hlast
    cases vs with
    | nil => exact List.forall_mem_singleton.2 hlast
    | cons next vs =>
      exact List.forall_mem_cons.2
        ⟨isStatement_enumValue h.1 "," (oneLine_literal rfl), ih h.2⟩

/-- **The block of an enum is read as its values**, at any depth, if their names are
identifiers. -/
theorem readEnum?_printed {e : EnumDeclaration} (h : ∀ v ∈ e.values, IsIdentifier v.name)
    (depth : ℕ) :
    readEnum? e.name (printed depth (.enumeration e)) = some (e.values.map valueOf) := by
  have hclose : IsStatement "\x7d" := ⟨oneLine_literal rfl, '\x7d', rfl, by decide⟩
  have hitems : texts (indentBy (depth + 1) ((Text.withCommas (e.values.map enumValue)).map line) ++
      [⟨depth, "\x7d"⟩]) = Text.withCommas (e.values.map enumValue) ++ ["\x7d"] := by
    rw [texts_append, texts_indentBy, texts_map_line]
    rfl
  have hlines : ∀ text ∈ texts (indentBy (depth + 1)
      ((Text.withCommas (e.values.map enumValue)).map line) ++ [⟨depth, "\x7d"⟩]),
      IsStatement text := by
    rw [hitems, List.forall_mem_append, List.forall_mem_singleton]
    exact ⟨isStatement_withCommas h, hclose⟩
  have hstatements := statements_render hlines
  rw [printed_eq, declaration, readEnum?, skipDeprecation_render, isPrefixOf?_append]
  simp only [Option.bind_eq_bind, Option.bind_some, String.ofList_toList, hstatements, hitems,
    List.getLast?_concat, List.dropLast_concat, if_true, readValues?_withCommas h]

end ProtoTypeScript.Script
