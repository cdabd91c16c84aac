import ProtoTypeScript.Proofs.Indentation
import ProtoTypeScript.Proofs.PrintedMembers

/-!
# Statements read one after the other

A construct of several lines is read from its first statement and those that follow it.

* `readings` lists what a reader makes of the statements from each of them on, so it finds every
  place where a construct stands;
* `takeName` and `takeText` read a name and a text up to a quote;
* `readHead?` reads a statement that starts with a name and then a mark, which is how a reader knows
  a construct: `BeginsAt`;
* most statements begin no construct. That is seen from what they start with, their `Front`:
  `Front.Fits.passed` says so for all marks of a reader at once;
* `Every` says something of the text of every line, and follows the constructs that lines are put
  together with.
-/

namespace ProtoTypeScript

namespace Script

/-! ### Readings -/

/-- What a reader makes of the statements from each of them on. -/
def readings {α : Type} (read? : String → List String → Option α) : List String → List α
  | [] => []
  | statement :: rest => (read? statement rest).toList ++ readings read? rest

/-! ### Names and quoted texts -/

/-- Letters, digits and underscores. -/
def isNameChar (c : Char) : Bool :=
  c.isAlphanum || c == '_'

/-- The name that a text starts with, and what comes after it. -/
def takeName (cs : List Char) : String × List Char :=
  (String.ofList (cs.takeWhile isNameChar), cs.dropWhile isNameChar)

/-- Checks the characters of a literal. -/
theorem isIdentifier_literal {cs : List Char} (h : isIdentifier cs = true) :
    IsIdentifier (String.ofList cs) := by
  rwa [IsIdentifier, String.toList_ofList]

/-- A name ends where a character follows that is not of a name. -/
theorem takeName_append {name : String} (h : IsIdentifier name) {rest : List Char}
    (hrest : rest.head?.any isNameChar = false) :
    takeName (name.toList ++ rest) = (name, rest) := by
  have hall : ∀ c ∈ name.toList, isNameChar c = true := h.all
  rw [takeName, List.takeWhile_append_of_pos hall, List.dropWhile_append_of_pos hall]
  cases rest with
  | nil => rw [List.takeWhile_nil, List.append_nil, String.ofList_toList, List.dropWhile_nil]
  | cons c rest =>
    have hc : isNameChar c = false := hrest
    rw [List.takeWhile_cons_of_neg (by simp [hc]), List.append_nil, String.ofList_toList,
      List.dropWhile_cons_of_neg (by simp [hc])]

/-- What comes after a name does not matter if there is such a character in front of it. -/
theorem takeName_of_any {front : List Char} (h : front.any (fun c => !isNameChar c) = true)
    (rest : List Char) :
    takeName (front ++ rest) = ((takeName front).1, (takeName front).2 ++ rest) := by
  induction front with
  | nil => cases h
  | cons c front ih =>
    cases hc : isNameChar c with
    | false =>
      simp [takeName, hc]
    | true =>
      have hfront : front.any (fun c => !isNameChar c) = true := by simpa [hc] using h
      have hboth := ih hfront
      simp only [takeName, Prod.mk.injEq, String.ofList_inj] at hboth ⊢
      simp [hc, hboth.1, hboth.2]

/-- The text between quotes that the characters start with, and what comes after it. Escapes are not
read. -/
def takeText (cs : List Char) : Option (String × List Char) := do
  let rest ← "\"".toList.isPrefixOf? cs
  let (text, rest) ← Text.splitOnce? '"' rest
  return (String.ofList text, rest)

/-- Characters that stand for themselves between quotes. -/
def isPlain (c : Char) : Bool :=
  isNameChar c || c == '.' || c == '/'

theorem quoteChar_of_isPlain {c : Char} (h : isPlain c = true) : Text.quoteChar c = [c] := by
  have hne : ∀ d : Char, isPlain d = false → c ≠ d := by
    rintro d hd rfl
    rw [hd] at h
    cases h
  -- letters, digits and the signs allowed have codes from the point to `z`
  have hcode : 0x2E ≤ c.toNat ∧ c.toNat ≤ 0x7A := by
    simp only [isPlain, isNameChar, Char.isAlphanum, Char.isDigit] at h
    delta Char.isAlpha Char.isUpper Char.isLower at h
    simp only [Bool.or_eq_true, Bool.and_eq_true, decide_eq_true_eq, beq_iff_eq] at h
    rcases h with (((((⟨h1, h2⟩ | ⟨h1, h2⟩) | ⟨h1, h2⟩) | rfl) | rfl) | rfl)
    · have hlow : 65 ≤ c.toNat := UInt32.le_iff_toNat_le.1 h1
      have hhigh : c.toNat ≤ 90 := UInt32.le_iff_toNat_le.1 h2
      omega
    · have hlow : 97 ≤ c.toNat := UInt32.le_iff_toNat_le.1 h1
      have hhigh : c.toNat ≤ 122 := UInt32.le_iff_toNat_le.1 h2
      omega
    · have hlow : 48 ≤ c.toNat := UInt32.le_iff_toNat_le.1 h1
      have hhigh : c.toNat ≤ 57 := UInt32.le_iff_toNat_le.1 h2
      omega
    · decide
    · decide
    · decide
  have hharmless : Text.IsHarmless c := by
    unfold Text.IsHarmless
    omega
  exact Text.quoteChar_of_isHarmless hharmless (hne _ (by decide)) (hne _ (by decide))

/-- A text of such characters is quoted as it is. -/
theorem quote_of_isPlain {text : String} (h : ∀ c ∈ text.toList, isPlain c = true) :
    Text.quote text = "\"" ++ text ++ "\"" := by
  have hself : text.toList.flatMap Text.quoteChar = text.toList :=
    (List.flatMap_congr fun c hc => quoteChar_of_isPlain (h c hc)).trans
      (List.flatMap_singleton' _)
  rw [← String.toList_inj, Text.toList_quote, Text.quoteChars, hself]
  simp

theorem takeText_append {text : String} (h : ∀ c ∈ text.toList, isPlain c = true)
    (rest : List Char) :
    takeText ("\"".toList ++ (text.toList ++ ("\"".toList ++ rest))) = some (text, rest) := by
  have hquote : '"' ∉ text.toList := fun hmem => absurd (h _ hmem) (by decide)
  have hsplit : Text.splitOnce? '"' (text.toList ++ ("\"".toList ++ rest)) =
      some (text.toList, rest) := Text.splitOnce?_append hquote rest
  rw [takeText, isPrefixOf?_append]
  simp only [Option.bind_eq_bind, Option.bind_some, hsplit, String.ofList_toList]
  rfl

/-! ### Statements that start with a name -/

/-- The name that a statement starts with, if the mark follows it, and what comes after the mark. -/
def readHead? (mark statement : String) : Option (String × List Char) :=
  (mark.toList.isPrefixOf? (takeName statement.toList).2).map fun rest =>
    ((takeName statement.toList).1, rest)

theorem readHead?_append {name : String} (h : IsIdentifier name) {mark : String}
    (hne : mark ≠ "") (hmark : mark.toList.head?.any isNameChar = false) (rest : String) :
    readHead? mark (name ++ (mark ++ rest)) = some (name, rest.toList) := by
  have hhead : (mark.toList ++ rest.toList).head?.any isNameChar = false := by
    rwa [List.head?_append_of_ne_nil _ (by simpa using hne)]
  rw [readHead?, String.toList_append, String.toList_append, takeName_append h hhead]
  simp only [isPrefixOf?_append, Option.map_some]

theorem readHead?_self {name : String} (h : IsIdentifier name) {mark : String} (hne : mark ≠ "")
    (hmark : mark.toList.head?.any isNameChar = false) :
    readHead? mark (name ++ mark) = some (name, []) := by
  have hread := readHead?_append h hne hmark ""
  rwa [String.append_empty] at hread

/-- The text starts with something else than a space. -/
def Starts (text : String) : Prop :=
  text.toList.head?.any (· != ' ') = true

theorem Starts.append {text : String} (h : Starts text) (rest : String) :
    Starts (text ++ rest) := by
  obtain ⟨c, hhead, -⟩ := (Option.any_eq_true _ _).1 h
  have hne : text.toList ≠ [] := by
    intro hnil
    rw [hnil] at hhead
    cases hhead
  rwa [Starts, String.toList_append, List.head?_append_of_ne_nil _ hne]

theorem starts_of_isIdentifier {name : String} (h : IsIdentifier name) : Starts name := by
  obtain ⟨c, hhead, hspace⟩ := h.start ""
  rw [String.append_empty] at hhead
  rw [Starts, hhead]
  simpa using hspace

/-- Neither list of characters begins with the other. -/
def Differ (s t : List Char) : Prop :=
  s.isPrefixOf t = false ∧ t.isPrefixOf s = false

instance (s t : List Char) : Decidable (Differ s t) :=
  inferInstanceAs (Decidable (_ ∧ _))

theorem apart_iff {s t : List Char} : Apart (String.ofList s) (String.ofList t) ↔ Differ s t := by
  rw [Apart, Differ, String.toList_ofList, String.toList_ofList]

theorem isPrefixOf?_eq_none_of_differ {s t : List Char} (h : Differ s t) (rest : List Char) :
    s.isPrefixOf? (t ++ rest) = none := by
  have hnone := isPrefixOf?_eq_none_of_apart (apart_iff.2 h) (String.ofList rest)
  rwa [String.toList_append, String.toList_ofList, String.toList_ofList, String.toList_ofList]
    at hnone

/-- What a statement starts with. The characters are listed, so that a check of them need not look
into a string. -/
inductive Front
  | literal (cs : List Char)
  /-- A name and then the characters. -/
  | name (cs : List Char)

namespace Front

/-- The text starts in the way of the front. -/
def Fits : Front → String → Prop
  | literal cs, text => ∃ rest, text = String.ofList cs ++ rest
  | name cs, text => ∃ n rest, IsIdentifier n ∧ text = n ++ (String.ofList cs ++ rest)

/-- No statement with the front starts with a name and the mark: after the name that the front
starts with, neither the front nor the mark goes on with the other. -/
def Unlike (mark : String) : Front → Prop
  | literal cs => cs.any (fun c => !isNameChar c) = true ∧
      Differ mark.toList (cs.dropWhile isNameChar)
  | name cs => cs.head?.any (fun c => !isNameChar c) = true ∧ Differ mark.toList cs

instance (mark : String) : DecidablePred (Unlike mark)
  | literal _ => inferInstanceAs (Decidable (_ ∧ _))
  | name _ => inferInstanceAs (Decidable (_ ∧ _))

/-- Statements with the front start with something else than a space. -/
def Starts : Front → Prop
  | literal cs => cs.head?.any (· != ' ') = true
  | name _ => True

instance : DecidablePred Starts
  | literal cs => inferInstanceAs (Decidable (cs.head?.any (· != ' ') = true))
  | name _ => inferInstanceAs (Decidable True)

namespace Fits

variable {f : Front} {text : String}

theorem self {cs : List Char} : (literal cs).Fits (String.ofList cs) :=
  ⟨"", by rw [String.append_empty]⟩

theorem named {n : String} (h : IsIdentifier n) {cs : List Char} :
    (name cs).Fits (n ++ String.ofList cs) :=
  ⟨n, "", h, by rw [String.append_empty]⟩

theorem append (h : f.Fits text) (more : String) : f.Fits (text ++ more) := by
  cases f with
  | literal cs =>
    obtain ⟨rest, rfl⟩ := h
    exact ⟨rest ++ more, String.append_assoc ..⟩
  | name cs =>
    obtain ⟨n, rest, hn, rfl⟩ := h
    exact ⟨n, rest ++ more, hn, by rw [String.append_assoc, String.append_assoc]⟩

theorem prepend {cs : List Char} (h : (literal cs).Fits text) {before : List Char} :
    (literal (before ++ cs)).Fits (String.ofList before ++ text) := by
  obtain ⟨rest, rfl⟩ := h
  exact ⟨rest, by rw [String.ofList_append, String.append_assoc]⟩

theorem starts (h : f.Fits text) (hf : f.Starts) : Script.Starts text := by
  cases f with
  | literal cs =>
    obtain ⟨rest, rfl⟩ := h
    refine Script.Starts.append ?_ rest
    rwa [Script.Starts, String.toList_ofList]
  | name cs =>
    obtain ⟨n, rest, hn, rfl⟩ := h
    exact (starts_of_isIdentifier hn).append _

theorem readHead?_eq_none (h : f.Fits text) {mark : String} (hf : f.Unlike mark) :
    readHead? mark text = none := by
  cases f with
  | literal cs =>
    obtain ⟨rest, rfl⟩ := h
    have hnone : mark.toList.isPrefixOf? ((takeName cs).2 ++ rest.toList) = none :=
      isPrefixOf?_eq_none_of_differ hf.2 rest.toList
    rw [readHead?, String.toList_append, String.toList_ofList, takeName_of_any hf.1, hnone]
    rfl
  | name cs =>
    obtain ⟨n, rest, hn, rfl⟩ := h
    obtain ⟨c, hhead, hc⟩ := (Option.any_eq_true _ _).1 hf.1
    have hstop : (cs ++ rest.toList).head?.any isNameChar = false := by
      rw [List.head?_append, hhead]
      simpa using hc
    rw [readHead?, String.toList_append, String.toList_append, String.toList_ofList,
      takeName_append hn hstop, isPrefixOf?_eq_none_of_differ hf.2]
    rfl

end Fits

end Front

/-- The statement starts with something else than a space, and with none of the marks after a
name. -/
structure Passed (marks : List String) (text : String) : Prop where
  starts : Starts text
  none : ∀ mark ∈ marks, readHead? mark text = none

theorem Passed.mono {marks some : List String} {text : String} (h : Passed marks text)
    (hsub : some ⊆ marks) : Passed some text :=
  ⟨h.starts, fun mark hmark => h.none mark (hsub hmark)⟩

theorem Front.Fits.passed {f : Front} {text : String} (h : f.Fits text) {marks : List String}
    (hf : f.Starts ∧ ∀ mark ∈ marks, f.Unlike mark) : Passed marks text :=
  ⟨h.starts hf.1, fun mark hmark => h.readHead?_eq_none (hf.2 mark hmark)⟩

/-! ### Every line -/

/-- The text of every line is of the kind. -/
def Every (P : String → Prop) (lines : List Line) : Prop :=
  ∀ text ∈ texts lines, P text

namespace Every

variable {P Q : String → Prop} {xs ys body : List Line}

theorem mono (h : Every P xs) (hPQ : ∀ text, P text → Q text) : Every Q xs :=
  fun text htext => hPQ text (h text htext)

theorem nil : Every P [] :=
  List.forall_mem_nil _

theorem cons {text : String} (h : P text) (hxs : Every P xs) : Every P (line text :: xs) :=
  List.forall_mem_cons.2 ⟨h, hxs⟩

theorem append (hxs : Every P xs) (hys : Every P ys) : Every P (xs ++ ys) := by
  rw [Every, texts_append, List.forall_mem_append]
  exact ⟨hxs, hys⟩

theorem block {head tail : String} (hhead : P head) (hbody : Every P body) (htail : P tail) :
    Every P (Script.block head body tail) := by
  rw [Every, texts_block, List.forall_mem_append, List.forall_mem_cons,
    List.forall_mem_singleton]
  exact ⟨⟨hhead, hbody⟩, htail⟩

theorem guarded {condition statement : String} (hcondition : P ("if (" ++ condition ++ ")"))
    (hstatement : P statement) : Every P (Script.guarded condition statement) := by
  rw [Every, texts_guarded, List.forall_mem_cons, List.forall_mem_singleton]
  exact ⟨hcondition, hstatement⟩

theorem deprecation (h : P "/** @deprecated */") (deprecated : Bool) :
    Every P (Script.deprecation deprecated) := by
  cases deprecated with
  | false => exact .nil
  | true => exact .cons h .nil

end Every

/-- The statements of a declaration are the texts of its lines, if these are on one line each and
none starts with a space. -/
theorem statements_printed {d : Declaration} (hlines : OneLines (declaration d))
    (hstarts : Every Starts (declaration d)) (depth : ℕ) :
    statements (printed depth d) = texts (declaration d) := by
  have hstatements : ∀ text ∈ texts (declaration d), IsStatement text :=
    fun text htext => ⟨hlines text htext, exists_start_of_any (hstarts text htext)⟩
  rw [printed_eq, statements_render (by rwa [texts_indentBy]), texts_indentBy]

/-! ### Constructs -/

/-- The reader knows its construct by a first statement with a name and the mark. -/
def BeginsAt {α : Type} (mark : String) (read? : String → List String → Option α) : Prop :=
  ∀ statement, readHead? mark statement = none → ∀ rest, read? statement rest = none

section Readings

variable {α β : Type} {mark : String} {read? : String → List String → Option α}

/-- Statements that begin no construct are passed over. -/
theorem readings_append_of_passed (hread : BeginsAt mark read?) {marks : List String}
    (hmark : mark ∈ marks) {xs : List String} (h : ∀ statement ∈ xs, Passed marks statement)
    (ys : List String) : readings read? (xs ++ ys) = readings read? ys := by
  induction xs with
  | nil => rfl
  | cons x xs ih =>
    rw [List.forall_mem_cons] at h
    rw [List.cons_append, readings, hread x (h.1.none mark hmark), ih h.2]
    rfl

theorem readings_of_passed (hread : BeginsAt mark read?) {marks : List String}
    (hmark : mark ∈ marks) {xs : List String} (h : ∀ statement ∈ xs, Passed marks statement) :
    readings read? xs = [] := by
  have hnil := readings_append_of_passed hread hmark h []
  rwa [List.append_nil] at hnil

/-- A construct is read at its first statement only, if the others begin none. -/
theorem readings_construct (hread : BeginsAt mark read?) {head : String} {body rest : List String}
    {a : α} (hhead : read? head (body ++ rest) = some a)
    {marks : List String} (hmark : mark ∈ marks)
    (hbody : ∀ statement ∈ body, Passed marks statement) :
    readings read? (head :: body ++ rest) = a :: readings read? rest := by
  rw [List.cons_append, readings, hhead, readings_append_of_passed hread hmark hbody]
  rfl

/-- Constructs that stand one after the other are read one after the other. -/
theorem readings_flatMap {xs : List β} {f : β → List String} {g : β → List α}
    (h : ∀ x ∈ xs, ∀ rest, readings read? (f x ++ rest) = g x ++ readings read? rest)
    (rest : List String) :
    readings read? (xs.flatMap f ++ rest) = xs.flatMap g ++ readings read? rest := by
  induction xs with
  | nil => rfl
  | cons x xs ih =>
    rw [List.forall_mem_cons] at h
    rw [List.flatMap_cons, List.append_assoc, h.1, ih h.2, List.flatMap_cons, List.append_assoc]

end Readings

end Script

end ProtoTypeScript
