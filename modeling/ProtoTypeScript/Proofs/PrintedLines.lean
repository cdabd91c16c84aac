import Mathlib.Data.List.Basic
import ProtoTypeScript.Script.Line
import ProtoTypeScript.Script.Number
import ProtoTypeScript.Text.Numeral

/-!
# Printed lines read back

* `statements` reads the lines of a text, without the space that they are indented by;
* `statements_render`: of printed lines these are the texts of the lines, if each of them is
  on one line and does not start with a space;
* `caseNumber?` and `writtenNumber?` read the number that a case begins with and the one that a
  property is written under; `caseNumber?_case` and `writtenNumber?_write` say that they read what
  was printed.
-/

namespace ProtoTypeScript

/-- The text has no line feed. -/
def OneLine (text : String) : Prop :=
  '\n' ∉ text.toList

@[simp] theorem oneLine_append {s t : String} : OneLine (s ++ t) ↔ OneLine s ∧ OneLine t := by
  simp [OneLine, not_or]

/-- Checks the characters of a literal. -/
theorem oneLine_literal {cs : List Char} (h : cs.all (· != '\n') = true) :
    OneLine (String.ofList cs) := by
  rw [OneLine, String.toList_ofList]
  exact fun hc => absurd (List.all_eq_true.1 h _ hc) (by decide)

/-- The text starts with one of the characters. -/
def StartsWithin (cs : List Char) (text : String) : Prop :=
  ∃ c ∈ cs, text.toList.head? = some c

namespace StartsWithin

variable {cs : List Char} {c : Char}

theorem literal {rest : List Char} (h : c ∈ cs) : StartsWithin cs (String.ofList (c :: rest)) :=
  ⟨c, h, by simp⟩

theorem literal_append {rest : List Char} {text : String} (h : c ∈ cs) :
    StartsWithin cs (String.ofList (c :: rest) ++ text) :=
  ⟨c, h, by simp⟩

theorem mono {text : String} (h : StartsWithin cs text) {ds : List Char} (hsub : cs ⊆ ds) :
    StartsWithin ds text := by
  obtain ⟨d, hd, hhead⟩ := h
  exact ⟨d, hsub hd, hhead⟩

theorem head?_ne {text : String} (h : StartsWithin cs text) (hc : c ∉ cs) :
    text.toList.head? ≠ some c := by
  obtain ⟨d, hd, hhead⟩ := h
  rw [hhead]
  rintro ⟨⟩
  exact hc hd

end StartsWithin

namespace Script

/-- The texts of lines. -/
def texts (lines : List Line) : List String :=
  lines.map (·.text)

@[simp] theorem texts_nil : texts [] = [] := rfl

@[simp] theorem texts_cons (l : Line) (lines : List Line) :
    texts (l :: lines) = l.text :: texts lines := rfl

@[simp] theorem texts_append (xs ys : List Line) : texts (xs ++ ys) = texts xs ++ texts ys :=
  List.map_append

@[simp] theorem texts_indentBy (n : Nat) (lines : List Line) :
    texts (indentBy n lines) = texts lines := by
  simp [texts, indentBy]

@[simp] theorem texts_indent (lines : List Line) : texts (indent lines) = texts lines :=
  texts_indentBy 1 lines

@[simp] theorem texts_block (head : String) (body : List Line) (tail : String) :
    texts (block head body tail) = head :: texts body ++ [tail] := by
  simp [block, line]

@[simp] theorem texts_guarded (condition statement : String) :
    texts (guarded condition statement) = ["if (" ++ condition ++ ")", statement] := by
  simp [guarded, line]

theorem texts_flatMap {α : Type} (f : α → List Line) (xs : List α) :
    texts (xs.flatMap f) = xs.flatMap fun x => texts (f x) :=
  List.map_flatMap

/-! ### Lines of a text -/

/-- The lines of a text that are not empty, without the spaces that they start with. -/
def statements (text : String) : List String :=
  ((Text.splitOn '\n' text.toList).map fun cs => String.ofList (cs.dropWhile (· == ' '))).filter
    (· ≠ "")

/-- The text stands on one line and starts with something else than a space. -/
structure IsStatement (text : String) : Prop where
  oneLine : OneLine text
  start : ∃ c, text.toList.head? = some c ∧ c ≠ ' '

theorem IsStatement.of_startsWithin {text : String} {cs : List Char} (hone : OneLine text)
    (hstart : StartsWithin cs text) (hspace : ' ' ∉ cs) : IsStatement text := by
  obtain ⟨c, hc, hhead⟩ := hstart
  exact ⟨hone, c, hhead, fun h => hspace (h ▸ hc)⟩

theorem toList_render (l : Line) : ∃ n, l.render.toList =
    List.replicate n ' ' ++ l.text.toList ++ ['\n'] := by
  unfold Line.render
  split
  next h => exact ⟨0, by simp [h]⟩
  next h => exact ⟨4 * l.depth, by simp [indentation]⟩

theorem dropWhile_replicate_append {cs : List Char} (h : ∃ c, cs.head? = some c ∧ c ≠ ' ')
    (n : Nat) : (List.replicate n ' ' ++ cs).dropWhile (· == ' ') = cs := by
  induction n with
  | zero =>
    cases cs with
    | nil => rfl
    | cons c cs =>
      have hc : c ≠ ' ' := by simpa using h
      simp [hc]
  | succ n ih => simpa [List.replicate_succ] using ih

/-- The statements of printed lines are their texts. -/
theorem statements_render {lines : List Line} (h : ∀ text ∈ texts lines, IsStatement text) :
    statements (render lines) = texts lines := by
  induction lines with
  | nil => rfl
  | cons l lines ih =>
    have hl := h l.text List.mem_cons_self
    have hrest := ih fun text htext => h text (List.mem_cons_of_mem _ htext)
    have hne : l.text ≠ "" := by
      obtain ⟨c, hc, -⟩ := hl.start
      intro hempty
      rw [hempty] at hc
      cases hc
    obtain ⟨n, hn⟩ := toList_render l
    have hpad : '\n' ∉ List.replicate n ' ' ++ l.text.toList := by
      rw [List.mem_append, not_or]
      exact ⟨fun hmem => absurd (List.eq_of_mem_replicate hmem) (by decide), hl.oneLine⟩
    rw [statements, render_cons, String.toList_append, hn, List.append_assoc,
      List.singleton_append, Text.splitOn_append, Text.splitOn_of_notMem hpad, List.map_append,
      List.filter_append, List.map_singleton, dropWhile_replicate_append hl.start,
      String.ofList_toList, List.filter_singleton, texts_cons, ← hrest]
    simp [hne, statements]

/-! ### Numbers in statements -/

theorem toList_decimal {n : Int32} (h : 0 < n) :
    (decimal n).toList = Nat.toDigits 10 n.toNatClampNeg := by
  have hpos : 0 < n.toInt := Int32.lt_iff_toInt_lt.1 h
  obtain ⟨k, hk⟩ := Int.eq_ofNat_of_zero_le (Int.le_of_lt hpos)
  have hnat : n.toNatClampNeg = k := by
    show n.toInt.toNat = k
    rw [hk, Int.toNat_natCast]
  rw [decimal, hk, hnat]
  exact String.toList_ofList

theorem isDigit_of_mem_decimal {n : Int32} (h : 0 < n) {c : Char} (hc : c ∈ (decimal n).toList) :
    c.isDigit = true := by
  rw [toList_decimal h] at hc
  exact Nat.isDigit_of_mem_toDigits (by decide) (by decide) hc

theorem parseDigits?_decimal {n : Int32} (h : 0 < n) :
    Text.Numeral.parseDigits? (decimal n).toList = some n.toNatClampNeg := by
  rw [toList_decimal h, Text.Numeral.parseDigits?_toDigits]

/-- The number of the case that a statement begins, if it begins one. -/
def caseNumber? (statement : String) : Option Nat := do
  let label ← "case ".toList.isPrefixOf? statement.toList
  let (number, _) ← Text.splitOnce? ':' label
  Text.Numeral.parseDigits? number

/-- The number that a statement writes a property of the message under, if it writes one. -/
def writtenNumber? (statement : String) : Option Nat := do
  let call ← "writer.write".toList.isPrefixOf? statement.toList
  let (_, arguments) ← Text.splitOnce? '(' call
  let (number, value) ← Text.splitOnce? ',' arguments
  let _ ← " this.".toList.isPrefixOf? value
  Text.Numeral.parseDigits? number

theorem isPrefixOf?_eq_none {c : Char} {xs ys : List Char} (h : ys.head? ≠ some c) :
    (c :: xs).isPrefixOf? ys = none := by
  cases ys with
  | nil => rfl
  | cons y ys =>
    rw [List.head?_cons, ne_eq, Option.some.injEq, eq_comm] at h
    simp [List.isPrefixOf?, h]

theorem caseNumber?_eq_none {statement : String} {cs : List Char} (h : StartsWithin cs statement)
    (hc : 'c' ∉ cs) : caseNumber? statement = none := by
  have hprefix : "case ".toList.isPrefixOf? statement.toList = none :=
    isPrefixOf?_eq_none (h.head?_ne hc)
  rw [caseNumber?, hprefix]
  rfl

theorem writtenNumber?_eq_none {statement : String} {cs : List Char}
    (h : StartsWithin cs statement) (hw : 'w' ∉ cs) : writtenNumber? statement = none := by
  have hprefix : "writer.write".toList.isPrefixOf? statement.toList = none :=
    isPrefixOf?_eq_none (h.head?_ne hw)
  rw [writtenNumber?, hprefix]
  rfl

theorem isPrefixOf?_append (xs ys : List Char) : xs.isPrefixOf? (xs ++ ys) = some ys :=
  List.isPrefixOf?_eq_some_iff_append_eq.2 rfl

theorem caseNumber?_case {n : Int32} (h : 0 < n) :
    caseNumber? ("case " ++ decimal n ++ ":") = some n.toNatClampNeg := by
  have hcolon : ':' ∉ (decimal n).toList :=
    fun hc => absurd (isDigit_of_mem_decimal h hc) (by decide)
  have htext : ("case " ++ decimal n ++ ":").toList =
      "case ".toList ++ ((decimal n).toList ++ ':' :: []) := by simp
  rw [caseNumber?, htext, isPrefixOf?_append]
  simp only [Option.bind_eq_bind, Option.bind_some, Text.splitOnce?_append hcolon,
    parseDigits?_decimal h]

theorem writtenNumber?_write {n : Int32} (h : 0 < n) {statement : String}
    (method rest : List Char) (hmethod : '(' ∉ method)
    (hstatement : statement.toList = "writer.write".toList ++ (method ++ '(' ::
      ((decimal n).toList ++ ',' :: (" this.".toList ++ rest)))) :
    writtenNumber? statement = some n.toNatClampNeg := by
  have hcomma : ',' ∉ (decimal n).toList :=
    fun hc => absurd (isDigit_of_mem_decimal h hc) (by decide)
  rw [writtenNumber?, hstatement, isPrefixOf?_append]
  simp only [Option.bind_eq_bind, Option.bind_some, Text.splitOnce?_append hmethod,
    Text.splitOnce?_append hcomma, isPrefixOf?_append, parseDigits?_decimal h]

end Script

end ProtoTypeScript
