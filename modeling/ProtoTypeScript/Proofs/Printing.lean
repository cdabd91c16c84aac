import Mathlib.Data.List.Basic
import ProtoTypeScript.Script.Signature

/-!
# A printer with a depth

Lines know how deep they stand. A printer does not: it writes one line after the other at a depth of
its own, and is told when to go in and out.

* `Step` is what a printer is told, and `Printer.run` follows steps. A step that goes out at depth
  zero has no effect on the depth;
* `Printer.Safe` says that no such step is met;
* `Writes steps i lines j`: from `i` levels above any depth the steps write the lines, relative to
  that depth, and end `j` levels above it. The lemmas in its namespace put longer programs together
  from shorter ones, so what is opened in one place may be closed in another.
-/

namespace ProtoTypeScript.Script

/-! ### The printer -/

/-- What a printer is told to do. -/
inductive Step
  /-- Write a line. -/
  | line (text : String)
  /-- Write a line and go in. -/
  | enter (text : String)
  /-- Go out and write a line. -/
  | leave (text : String)
  /-- Write a line one level out. -/
  | reenter (text : String)
  /-- Go in. -/
  | deepen
  /-- Go out. -/
  | rise
  deriving DecidableEq, Repr

/-- Whether the step goes out before it writes. -/
def Step.goesOut : Step → Bool
  | leave _ => true
  | reenter _ => true
  | rise => true
  | _ => false

/-- A printer: the text so far, and the depth of the next line. -/
structure Printer where
  text : String
  depth : Nat
  deriving DecidableEq, Repr

namespace Printer

/-- The printer after one more line. -/
def write (p : Printer) (text : String) : Printer :=
  ⟨p.text ++ Line.render ⟨p.depth, text⟩, p.depth⟩

/-- The printer one level further in. -/
def goIn (p : Printer) : Printer :=
  ⟨p.text, p.depth + 1⟩

/-- The printer one level further out, if it is not at depth zero. -/
def goOut (p : Printer) : Printer :=
  ⟨p.text, p.depth - 1⟩

/-- The printer after a step. -/
def step (p : Printer) : Step → Printer
  | .line text => p.write text
  | .enter text => (p.write text).goIn
  | .leave text => p.goOut.write text
  | .reenter text => (p.goOut.write text).goIn
  | .deepen => p.goIn
  | .rise => p.goOut

/-- The printer after some steps. -/
def run (p : Printer) (steps : List Step) : Printer :=
  steps.foldl step p

/-- Every step that goes out is taken above depth zero. -/
def Safe (p : Printer) : List Step → Prop
  | [] => True
  | s :: rest => (s.goesOut = true → 0 < p.depth) ∧ (p.step s).Safe rest

@[simp] theorem run_nil (p : Printer) : p.run [] = p := rfl

@[simp] theorem run_cons (p : Printer) (s : Step) (rest : List Step) :
    p.run (s :: rest) = (p.step s).run rest := rfl

theorem run_append (p : Printer) (xs ys : List Step) : p.run (xs ++ ys) = (p.run xs).run ys :=
  List.foldl_append

@[simp] theorem safe_nil (p : Printer) : p.Safe [] := trivial

@[simp] theorem safe_cons {p : Printer} {s : Step} {rest : List Step} :
    p.Safe (s :: rest) ↔ (s.goesOut = true → 0 < p.depth) ∧ (p.step s).Safe rest := Iff.rfl

theorem safe_append {p : Printer} {xs ys : List Step} :
    p.Safe (xs ++ ys) ↔ p.Safe xs ∧ (p.run xs).Safe ys := by
  induction xs generalizing p with
  | nil => simp
  | cons x xs ih => simp [ih, and_assoc]

end Printer

/-! ### What steps write -/

theorem indentBy_block (depth : Nat) (head : String) (body : List Line) (tail : String) :
    indentBy depth (block head body tail) =
      ⟨depth, head⟩ :: (indentBy (depth + 1) body ++ [⟨depth, tail⟩]) := by
  have hbody : indentBy depth (indent body) = indentBy (depth + 1) body := by
    rw [indent, indentBy_add, Nat.add_comm]
  rw [block, List.cons_append, ← hbody, ← Nat.zero_add depth]
  simp [indentBy, line]

/-- From `i` levels above any depth the steps write the lines, relative to that depth, without going
out at depth zero, and end `j` levels above it. -/
def Writes (steps : List Step) (i : Nat) (lines : List Line) (j : Nat) : Prop :=
  ∀ text depth, Printer.Safe ⟨text, depth + i⟩ steps ∧
    Printer.run ⟨text, depth + i⟩ steps = ⟨text ++ render (indentBy depth lines), depth + j⟩

namespace Writes

variable {i j k : Nat} {xs ys : List Step} {ls ms : List Line}

theorem nil : Writes [] i [] i := by
  intro text depth
  simp [indentBy]

theorem append (hxs : Writes xs i ls j) (hys : Writes ys j ms k) :
    Writes (xs ++ ys) i (ls ++ ms) k := by
  intro text depth
  obtain ⟨hsafe, hrun⟩ := hxs text depth
  obtain ⟨hsafe', hrun'⟩ := hys (text ++ render (indentBy depth ls)) depth
  rw [Printer.safe_append, Printer.run_append, hrun, hrun', indentBy_append, render_append,
    String.append_assoc]
  exact ⟨⟨hsafe, hsafe'⟩, rfl⟩

/-- A step that writes one line. -/
theorem write {s : Step} {d : Nat} {text : String}
    (hs : ∀ before depth, (s.goesOut = true → 0 < depth + i) ∧ Printer.step ⟨before, depth + i⟩ s =
      ⟨before ++ Line.render ⟨depth + d, text⟩, depth + j⟩)
    (h : Writes xs j ls k) : Writes (s :: xs) i (⟨d, text⟩ :: ls) k := by
  intro before depth
  obtain ⟨hout, hstep⟩ := hs before depth
  obtain ⟨hsafe, hrun⟩ := h (before ++ Line.render ⟨depth + d, text⟩) depth
  have hlines : indentBy depth (⟨d, text⟩ :: ls) = ⟨depth + d, text⟩ :: indentBy depth ls := by
    rw [Nat.add_comm]
    rfl
  rw [Printer.safe_cons, Printer.run_cons, hstep, hrun, hlines, render_cons, String.append_assoc]
  exact ⟨⟨hout, hsafe⟩, rfl⟩

theorem line (text : String) (h : Writes xs i ls k) :
    Writes (.line text :: xs) i (⟨i, text⟩ :: ls) k :=
  write (fun _ _ => ⟨by simp [Step.goesOut], rfl⟩) h

theorem enter (text : String) (h : Writes xs (i + 1) ls k) :
    Writes (.enter text :: xs) i (⟨i, text⟩ :: ls) k :=
  write (fun _ _ => ⟨by simp [Step.goesOut], rfl⟩) h

theorem leave (text : String) (h : Writes xs i ls k) :
    Writes (.leave text :: xs) (i + 1) (⟨i, text⟩ :: ls) k :=
  write (fun _ _ => ⟨by simp [← Nat.add_assoc], rfl⟩) h

theorem reenter (text : String) (h : Writes xs (i + 1) ls k) :
    Writes (.reenter text :: xs) (i + 1) (⟨i, text⟩ :: ls) k :=
  write (fun _ _ => ⟨by simp [← Nat.add_assoc], rfl⟩) h

theorem deepen (h : Writes xs (i + 1) ls k) : Writes (.deepen :: xs) i ls k := by
  intro before depth
  obtain ⟨hsafe, hrun⟩ := h before depth
  exact ⟨⟨by simp [Step.goesOut], hsafe⟩, hrun⟩

theorem rise (h : Writes xs i ls k) : Writes (.rise :: xs) (i + 1) ls k := by
  intro before depth
  obtain ⟨hsafe, hrun⟩ := h before depth
  exact ⟨⟨by simp [← Nat.add_assoc], hsafe⟩, hrun⟩

/-- Steps write the same from a higher level, only further in. -/
theorem above (h : Writes xs i ls j) (n : Nat) : Writes xs (i + n) (indentBy n ls) (j + n) := by
  intro text depth
  have hn := h text (depth + n)
  have hi : depth + n + i = depth + (i + n) := by omega
  have hj : depth + n + j = depth + (j + n) := by omega
  rwa [indentBy_add, Nat.add_comm n depth, ← hi, ← hj]

theorem indent (h : Writes xs 0 ls 0) : Writes xs 1 (Script.indent ls) 1 :=
  h.above 1

theorem flatMap {α : Type} {xs : List α} {steps : α → List Step} {lines : α → List Line}
    (h : ∀ x ∈ xs, Writes (steps x) i (lines x) i) :
    Writes (xs.flatMap steps) i (xs.flatMap lines) i := by
  induction xs with
  | nil => exact nil
  | cons x xs ih =>
    rw [List.flatMap_cons, List.flatMap_cons]
    exact (h x List.mem_cons_self).append (ih fun y hy => h y (List.mem_cons_of_mem _ hy))

/-- Lines one after the other. -/
theorem lines (texts : List String) :
    Writes (texts.map Step.line) 0 (texts.map Script.line) 0 := by
  induction texts with
  | nil => exact nil
  | cons text texts ih => exact ih.line text

end Writes

/-! ### Constructs -/

/-- The steps of a construct between a line that enters it and one that leaves it. -/
def blockSteps (head : String) (body : List Step) (tail : String) : List Step :=
  .enter head :: body ++ [.leave tail]

theorem writes_block {head tail : String} {body : List Step} {ls : List Line}
    (h : Writes body 0 ls 0) : Writes (blockSteps head body tail) 0 (block head ls tail) 0 :=
  .enter head (h.indent.append (.leave tail .nil))

/-- The steps of a statement under a condition. -/
def guardedSteps (condition statement : String) : List Step :=
  [.line ("if (" ++ condition ++ ")"), .deepen, .line statement, .rise]

theorem writes_guarded (condition statement : String) :
    Writes (guardedSteps condition statement) 0 (guarded condition statement) 0 :=
  .line _ (.deepen (.line statement (.rise .nil)))

/-- The steps of the comment on a deprecated construct. -/
def deprecationSteps (deprecated : Bool) : List Step :=
  if deprecated then [.line "/** @deprecated */"] else []

theorem writes_deprecation (deprecated : Bool) :
    Writes (deprecationSteps deprecated) 0 (deprecation deprecated) 0 := by
  cases deprecated with
  | false => exact .nil
  | true => exact .line _ .nil

/-- The steps that open a construct with an object type and go in. With keys, the printer goes in
for them, and the line after them stands one level out. -/
def openObjectTyped (before : String) (entries : List (String × String)) (after : String) :
    List Step :=
  if entries = [] then [.enter (before ++ "\x7b\x7d" ++ after)]
  else
    .enter (before ++ "\x7b") :: entries.map (fun e => .line (e.1 ++ "?: " ++ e.2 ++ ";")) ++
      [.reenter ("\x7d" ++ after)]

theorem writes_openObjectTyped (before : String) (entries : List (String × String))
    (after : String) :
    Writes (openObjectTyped before entries after) 0
      (Signature.objectTyped before entries after).lines 1 := by
  rw [openObjectTyped, Signature.lines]
  split_ifs
  · exact .enter _ .nil
  · have hentries := Writes.lines (entries.map fun e => e.1 ++ "?: " ++ e.2 ++ ";")
    rw [List.map_map, List.map_map] at hentries
    exact .enter _ (hentries.indent.append (.reenter _ .nil))

/-- What an object type opens, the brace after the body leaves. -/
theorem writes_objectTyped {before after : String} {entries : List (String × String)}
    {body : List Step} {ls : List Line} (h : Writes body 0 ls 0) :
    Writes (openObjectTyped before entries after ++ body ++ [.leave "\x7d"]) 0
      ((Signature.objectTyped before entries after).block ls) 0 :=
  ((writes_openObjectTyped before entries after).append h.indent).append (.leave "\x7d" .nil)

end ProtoTypeScript.Script
