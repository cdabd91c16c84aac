import Mathlib.Data.List.Basic
import ProtoTypeScript.Proofs.PrintedLines
import ProtoTypeScript.Proofs.QuotedTexts

/-!
# Nested brackets

A scanner for the brackets of TypeScript. It keeps the closing brackets that are still to come and
skips string literals. It stops at a closing bracket that is not the next one, and at a line feed in
a literal between single or double quotes.

* `WellNested` texts close every bracket that they open, each by its own, and end outside of
  literals; `WellNestedAfter` skips a comment at the start of a text too;
* `Takes text s next` says that a text leads from one state of the scanner to another. The lemmas in
  its namespace go from left to right through a text that is put together from literals and from
  code that is well nested itself;
* `TakesLines` is the same of lines, whatever their indentation, and `WellNestedLines` is said of
  lines that close every bracket that they open.
-/

namespace ProtoTypeScript.Script

/-! ### The scanner -/

/-- Where in a program the scanner is. -/
inductive ScanMode
  | code
  | literal (quote : Char)
  /-- After a backslash in a literal. -/
  | escaped (quote : Char)
  deriving DecidableEq, Repr

/-- A state of the scanner: where it is, and the closing brackets that are still to come. -/
structure ScanState where
  mode : ScanMode
  closers : List Char
  deriving DecidableEq, Repr

/-- The step over a character of code. -/
def scanCode (closers : List Char) (c : Char) : Option ScanState :=
  if c = '(' then some ⟨.code, ')' :: closers⟩
  else if c = '[' then some ⟨.code, ']' :: closers⟩
  else if c = '\x7b' then some ⟨.code, '\x7d' :: closers⟩
  else if c = ')' ∨ c = ']' ∨ c = '\x7d' then
    match closers with
    | [] => none
    | closer :: rest => if c = closer then some ⟨.code, rest⟩ else none
  else if c = '"' ∨ c = '\'' ∨ c = '\x60' then some ⟨.literal c, closers⟩
  else some ⟨.code, closers⟩

/-- The step over a character. -/
def scanStep (s : ScanState) (c : Char) : Option ScanState :=
  match s.mode with
  | .code => scanCode s.closers c
  | .literal quote =>
    if c = quote then some ⟨.code, s.closers⟩
    else if c = '\\' then some ⟨.escaped quote, s.closers⟩
    else if c = '\n' ∧ quote ≠ '\x60' then none
    else some s
  | .escaped quote => some ⟨.literal quote, s.closers⟩

/-- The state after some characters. -/
def scan (s : ScanState) : List Char → Option ScanState
  | [] => some s
  | c :: cs =>
    match scanStep s c with
    | none => none
    | some next => scan next cs

/-- The text leads the scanner from one state to another. -/
def Takes (text : String) (s next : ScanState) : Prop :=
  scan s text.toList = some next

instance (text : String) (s next : ScanState) : Decidable (Takes text s next) :=
  inferInstanceAs (Decidable (_ = _))

/-- All brackets of the text are closed, each by its own, if literals are skipped. -/
def WellNested (text : String) : Prop :=
  Takes text ⟨.code, []⟩ ⟨.code, []⟩

instance (text : String) : Decidable (WellNested text) :=
  inferInstanceAs (Decidable (Takes _ _ _))

/-- The text is one comment on lines of its own. -/
def IsComment (text : String) : Prop :=
  ∃ inside, text = "/*" ++ inside ++ "*/\n" ∧ ¬['*', '/'] <:+: inside.toList

/-- The text starts with the comment, if there is one, and is well nested after it. -/
def WellNestedAfter (comment text : String) : Prop :=
  (comment = "" ∨ IsComment comment) ∧ ∃ code, text = comment ++ code ∧ WellNested code

theorem scan_append (s : ScanState) (xs ys : List Char) :
    scan s (xs ++ ys) = (scan s xs).bind fun next => scan next ys := by
  induction xs generalizing s with
  | nil => rfl
  | cons x xs ih =>
    rw [List.cons_append, scan, scan]
    cases scanStep s x with
    | none => rfl
    | some next => exact ih next

/-- The state with more closing brackets still to come, after those that it has. -/
def ScanState.above (s : ScanState) (rest : List Char) : ScanState :=
  ⟨s.mode, s.closers ++ rest⟩

/-- What the scanner does depends on the brackets that it sees only. -/
theorem scanCode_above {closers : List Char} {c : Char} {s : ScanState}
    (h : scanCode closers c = some s) (rest : List Char) :
    scanCode (closers ++ rest) c = some (s.above rest) := by
  unfold scanCode at h ⊢
  split_ifs at h ⊢
  · exact Option.some.inj h ▸ rfl
  · exact Option.some.inj h ▸ rfl
  · exact Option.some.inj h ▸ rfl
  · cases closers with
    | nil => cases h
    | cons closer closers =>
      rw [List.cons_append]
      dsimp only at h ⊢
      split_ifs at h ⊢
      exact Option.some.inj h ▸ rfl
  · exact Option.some.inj h ▸ rfl
  · exact Option.some.inj h ▸ rfl

theorem scanStep_above {s next : ScanState} {c : Char} (h : scanStep s c = some next)
    (rest : List Char) : scanStep (s.above rest) c = some (next.above rest) := by
  unfold scanStep at h ⊢
  cases hmode : s.mode with
  | code =>
    simp only [hmode, ScanState.above] at h ⊢
    exact scanCode_above h rest
  | literal quote =>
    simp only [hmode, ScanState.above] at h ⊢
    split_ifs at h ⊢
    · exact Option.some.inj h ▸ rfl
    · exact Option.some.inj h ▸ rfl
    · exact Option.some.inj h ▸ hmode ▸ rfl
  | escaped quote =>
    simp only [hmode, ScanState.above] at h ⊢
    exact Option.some.inj h ▸ rfl

theorem scan_above {s last : ScanState} {cs : List Char} (h : scan s cs = some last)
    (rest : List Char) : scan (s.above rest) cs = some (last.above rest) := by
  induction cs generalizing s with
  | nil => exact Option.some.inj h ▸ rfl
  | cons c cs ih =>
    rw [scan] at h ⊢
    cases hstep : scanStep s c with
    | none =>
      rw [hstep] at h
      cases h
    | some next =>
      rw [hstep] at h
      rw [scanStep_above hstep rest]
      exact ih h

/-! ### Texts -/

/-- Brackets, quotes, slashes, the backslash and the line feed. -/
def delimiters : List Char :=
  ['(', ')', '[', ']', '\x7b', '\x7d', '"', '\'', '\x60', '/', '\\', '\n']

/-- The text may stand in code and in literals as it is. -/
def IsRaw (text : String) : Prop :=
  ∀ c ∈ text.toList, c ∉ delimiters

instance (text : String) : Decidable (IsRaw text) :=
  List.decidableBAll (· ∉ delimiters) text.toList

theorem scan_raw {mode : ScanMode} (hmode : mode = .code ∨ mode = .literal '"')
    {cs : List Char} (h : ∀ c ∈ cs, c ∉ delimiters) (closers : List Char) :
    scan ⟨mode, closers⟩ cs = some ⟨mode, closers⟩ := by
  induction cs with
  | nil => rfl
  | cons c cs ih =>
    have hstep : scanStep ⟨mode, closers⟩ c = some ⟨mode, closers⟩ := by
      have hc : c ∉ delimiters := h c List.mem_cons_self
      simp only [delimiters, List.mem_cons, List.not_mem_nil, or_false, not_or] at hc
      rcases hmode with rfl | rfl
      · simp [scanStep, scanCode, hc]
      · simp [scanStep, hc]
    rw [scan, hstep]
    exact ih fun d hd => h d (List.mem_cons_of_mem _ hd)

theorem IsRaw.wellNested {text : String} (h : IsRaw text) : WellNested text :=
  scan_raw (.inl rfl) h []

namespace Takes

variable {s t u : ScanState} {a b : String} {cs closers : List Char}

theorem append (ha : Takes a s t) (hb : Takes b t u) : Takes (a ++ b) s u := by
  rw [Takes, String.toList_append, scan_append, ha]
  exact hb

theorem above (h : Takes a s t) (more : List Char) : Takes a (s.above more) (t.above more) :=
  scan_above h more

/-- A literal at the end. -/
theorem last (h : scan s cs = some t) : Takes (String.ofList cs) s t := by
  rwa [Takes, String.toList_ofList]

/-- A literal in front. -/
theorem lit (h : scan s cs = some t) (hb : Takes b t u) : Takes (String.ofList cs ++ b) s u :=
  (Takes.last h).append hb

/-- Code that closes its own brackets, at the end. -/
theorem lastCode (h : WellNested a) : Takes a ⟨.code, closers⟩ ⟨.code, closers⟩ :=
  Takes.above h closers

/-- Code that closes its own brackets, in front. -/
theorem code (h : WellNested a) (hb : Takes b ⟨.code, closers⟩ u) :
    Takes (a ++ b) ⟨.code, closers⟩ u :=
  (Takes.lastCode h).append hb

/-- A name between quotes. -/
theorem quoted (h : IsRaw a) (hb : Takes b ⟨.literal '"', closers⟩ u) :
    Takes (a ++ b) ⟨.literal '"', closers⟩ u :=
  Takes.append (scan_raw (.inr rfl) h closers) hb

end Takes

/-! ### Lists of texts -/

theorem wellNested_joinWith {parts : List String} (h : ∀ part ∈ parts, WellNested part) :
    WellNested (Text.joinWith ", " parts) := by
  induction parts with
  | nil => exact .last rfl
  | cons part parts ih =>
    have hpart := h part List.mem_cons_self
    by_cases hnil : parts = []
    · subst hnil
      exact hpart
    · rw [Text.joinWith_cons_of_ne_nil _ _ hnil, String.append_assoc]
      exact .code hpart (.lit rfl (ih fun p hp => h p (List.mem_cons_of_mem _ hp)))

theorem wellNested_join {parts : List String} (h : ∀ part ∈ parts, WellNested part) :
    WellNested (String.join parts) := by
  induction parts with
  | nil => exact .last rfl
  | cons part parts ih =>
    rw [String.join_cons]
    exact .code (h part List.mem_cons_self) (ih fun p hp => h p (List.mem_cons_of_mem _ hp))

theorem wellNested_withCommas {parts : List String} (h : ∀ part ∈ parts, WellNested part) :
    ∀ part ∈ Text.withCommas parts, WellNested part := by
  fun_induction Text.withCommas parts with
  | case1 => simp
  | case2 part => exact h
  | case3 part next parts ih =>
    rw [List.forall_mem_cons] at h ⊢
    exact ⟨.code h.1 (.last rfl), ih h.2⟩

/-! ### Literals and numbers -/

/-- An escaped character leaves a literal open. -/
theorem scan_quoteChar (c : Char) (closers : List Char) :
    scan ⟨.literal '"', closers⟩ (Text.quoteChar c) = some ⟨.literal '"', closers⟩ := by
  have hquoted := Text.quoted_quoteChar c
  generalize Text.quoteChar c = cs at hquoted
  -- the character as it is, one behind a backslash, or the digits of a code unit
  cases hquoted with
  | self hc hquote hbackslash =>
    have hnewline : c ≠ '\n' := by
      rintro rfl
      exact absurd hc (by decide)
    have hstep : scanStep ⟨.literal '"', closers⟩ c = some ⟨.literal '"', closers⟩ := by
      simp [scanStep, hquote, hbackslash, hnewline]
    rw [scan, hstep]
    rfl
  | single => rfl
  | unicode =>
    have hdigit := Text.forall_digitChar (P := (· ∉ delimiters)) (by decide)
    have hdigits : ∀ d ∈ [Nat.digitChar (c.toNat / 4096 % 16), Nat.digitChar (c.toNat / 256 % 16),
        Nat.digitChar (c.toNat / 16 % 16), Nat.digitChar (c.toNat % 16)], d ∉ delimiters := by
      simp only [List.forall_mem_cons]
      exact ⟨hdigit _, hdigit _, hdigit _, hdigit _, List.forall_mem_nil _⟩
    exact scan_raw (.inr rfl) hdigits closers

theorem wellNested_quote (text : String) : WellNested (Text.quote text) := by
  have hinside : ∀ cs : List Char, scan ⟨.literal '"', []⟩ (cs.flatMap Text.quoteChar ++ ['"']) =
      some ⟨.code, []⟩ := by
    -- whatever the characters, the literal is still open before the last quote
    intro cs
    induction cs with
    | nil => rfl
    | cons c cs ih =>
      rw [List.flatMap_cons, List.append_assoc, scan_append, scan_quoteChar, Option.bind_some, ih]
  rw [WellNested, Takes, Text.toList_quote]
  exact hinside text.toList

theorem notMem_delimiters_of_isDigit {c : Char} (h : c.isDigit = true) : c ∉ delimiters := by
  have hall : delimiters.all (!·.isDigit) = true := by decide
  intro hmem
  have hc := List.all_eq_true.1 hall c hmem
  rw [h] at hc
  cases hc

theorem isRaw_repr (n : Nat) : IsRaw n.repr := by
  intro c hc
  rw [Nat.repr, String.toList_ofList] at hc
  exact notMem_delimiters_of_isDigit (Nat.isDigit_of_mem_toDigits (by decide) (by decide) hc)

theorem isRaw_decimal (n : Int32) : IsRaw (decimal n) := by
  cases hn : n.toInt with
  | ofNat k =>
    rw [decimal, hn]
    exact isRaw_repr k
  | negSucc k =>
    have htext : decimal n = "-" ++ (k + 1).repr := by
      rw [decimal, hn]
      rfl
    rw [IsRaw, htext, String.toList_append]
    intro c hc
    rcases List.mem_append.1 hc with hsign | hdigit
    · rw [List.mem_singleton.1 hsign]
      decide
    · exact isRaw_repr _ c hdigit

/-! ### Lines -/

/-- The lines lead the scanner from code to code, wherever they stand. -/
def TakesLines (lines : List Line) (before after : List Char) : Prop :=
  ∀ depth, Takes (render (indentBy depth lines)) ⟨.code, before⟩ ⟨.code, after⟩

/-- The lines close every bracket that they open. -/
def WellNestedLines (lines : List Line) : Prop :=
  TakesLines lines [] []

theorem takes_render {l : Line} {before after : List Char}
    (h : Takes l.text ⟨.code, before⟩ ⟨.code, after⟩) :
    Takes l.render ⟨.code, before⟩ ⟨.code, after⟩ := by
  have hend : ∀ closers, Takes "\n" ⟨.code, closers⟩ ⟨.code, closers⟩ := fun _ => .last rfl
  unfold Line.render
  split_ifs with hempty
  · rw [hempty] at h
    obtain ⟨⟩ : before = after := congrArg ScanState.closers (Option.some.inj h)
    exact hend before
  · have hspaces : IsRaw (indentation l.depth) := by
      intro c hc
      rw [indentation, String.toList_ofList] at hc
      rw [List.eq_of_mem_replicate hc]
      decide
    rw [String.append_assoc]
    exact .code hspaces.wellNested (h.append (hend after))

namespace TakesLines

variable {lines more : List Line} {x y z : List Char}

theorem nil : TakesLines [] x x :=
  fun _ => rfl

theorem cons {l : Line} (hl : Takes l.text ⟨.code, x⟩ ⟨.code, y⟩) (h : TakesLines lines y z) :
    TakesLines (l :: lines) x z := by
  intro depth
  have hfirst : Takes (Line.render ⟨l.depth + depth, l.text⟩) ⟨.code, x⟩ ⟨.code, y⟩ :=
    takes_render hl
  have hrest := hfirst.append (h depth)
  rwa [← render_cons] at hrest

theorem append (h : TakesLines lines x y) (hmore : TakesLines more y z) :
    TakesLines (lines ++ more) x z := by
  intro depth
  rw [indentBy_append, render_append]
  exact (h depth).append (hmore depth)

theorem indent (h : TakesLines lines x y) : TakesLines (indent lines) x y := by
  intro depth
  rw [Script.indent, indentBy_add]
  exact h _

theorem above (h : TakesLines lines x y) (rest : List Char) :
    TakesLines lines (x ++ rest) (y ++ rest) :=
  fun depth => Takes.above (h depth) rest

end TakesLines

namespace WellNestedLines

variable {lines more : List Line}

theorem nil : WellNestedLines [] :=
  TakesLines.nil

theorem append (h : WellNestedLines lines) (hmore : WellNestedLines more) :
    WellNestedLines (lines ++ more) :=
  TakesLines.append h hmore

theorem cons {text : String} (h : WellNested text) (hlines : WellNestedLines lines) :
    WellNestedLines (line text :: lines) :=
  TakesLines.cons h hlines

theorem singleton {text : String} (h : WellNested text) : WellNestedLines [line text] :=
  .cons h .nil

theorem inside (h : WellNestedLines lines) (closers : List Char) :
    TakesLines lines closers closers :=
  TakesLines.above h closers

/-- What a block opens in front of its lines it closes after them. -/
theorem block (closers : List Char) {head tail : String} {body : List Line}
    (hhead : Takes head ⟨.code, []⟩ ⟨.code, closers⟩) (hbody : WellNestedLines body)
    (htail : Takes tail ⟨.code, closers⟩ ⟨.code, []⟩) :
    WellNestedLines (block head body tail) :=
  TakesLines.append (.cons hhead (.indent (hbody.inside closers))) (.cons htail .nil)

theorem flatMap {α : Type} {f : α → List Line} {xs : List α} (h : ∀ x ∈ xs, WellNestedLines (f x)) :
    WellNestedLines (xs.flatMap f) := by
  induction xs with
  | nil => exact .nil
  | cons x xs ih =>
    rw [List.flatMap_cons]
    exact (h x List.mem_cons_self).append (ih fun y hy => h y (List.mem_cons_of_mem _ hy))

theorem map_line {texts : List String} (h : ∀ text ∈ texts, WellNested text) :
    WellNestedLines (texts.map line) := by
  induction texts with
  | nil => exact .nil
  | cons text texts ih =>
    exact .cons (h text List.mem_cons_self) (ih fun t ht => h t (List.mem_cons_of_mem _ ht))

theorem guarded {condition statement : String} (hcondition : WellNested condition)
    (hstatement : WellNested statement) : WellNestedLines (guarded condition statement) := by
  refine .cons ?_ (TakesLines.indent (WellNestedLines.singleton hstatement))
  rw [String.append_assoc]
  exact .lit rfl (.code hcondition (.last rfl))

theorem guardedBlock {condition : String} {statements : List Line}
    (hcondition : WellNested condition) (hstatements : WellNestedLines statements) :
    WellNestedLines (guardedBlock condition statements) := by
  refine .block ['\x7d'] ?_ hstatements (.last rfl)
  rw [String.append_assoc]
  exact .lit rfl (.code hcondition (.last rfl))

theorem deprecation (deprecated : Bool) : WellNestedLines (deprecation deprecated) := by
  cases deprecated with
  | true => exact .singleton (.last rfl)
  | false => exact .nil

end WellNestedLines

end ProtoTypeScript.Script
