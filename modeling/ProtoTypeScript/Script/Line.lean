/-!
# Lines of TypeScript

Code is a list of lines, each with a depth of indentation. Constructs give the lines of their parts
relative to their own depth and `indent` those of what they enclose, so a part never knows where it
stands.

* `line` is a text at depth zero;
* `block head body tail` encloses `body`, one level deeper, between two lines;
* `guarded condition statement` is an `if` with its statement on a line of its own;
* `render` is the text: four spaces for each level, none on an empty line, and a line feed after
  every line.
-/

namespace ProtoTypeScript.Script

/-- A line of code. -/
structure Line where
  depth : Nat
  text : String
  deriving DecidableEq, Repr

/-- A line that is not indented. -/
def line (text : String) : Line := ⟨0, text⟩

/-- The lines, each `levels` levels deeper. -/
def indentBy (levels : Nat) (lines : List Line) : List Line :=
  lines.map fun l => ⟨l.depth + levels, l.text⟩

/-- The lines, each one level deeper. -/
def indent (lines : List Line) : List Line :=
  indentBy 1 lines

/-- Lines between an opening and a closing one. -/
def block (head : String) (body : List Line) (tail : String) : List Line :=
  line head :: indent body ++ [line tail]

/-- A statement that is run under a condition. -/
def guarded (condition statement : String) : List Line :=
  line ("if (" ++ condition ++ ")") :: indent [line statement]

/-- Statements that are run under a condition. -/
def guardedBlock (condition : String) (statements : List Line) : List Line :=
  block ("if (" ++ condition ++ ") \x7b") statements "\x7d"

/-- The comment on a deprecated construct. -/
def deprecation (deprecated : Bool) : List Line :=
  if deprecated then [line "/** @deprecated */"] else []

/-- The space that a line of some depth starts with. -/
def indentation (depth : Nat) : String :=
  String.ofList (List.replicate (4 * depth) ' ')

/-- The text of a line. -/
def Line.render (l : Line) : String :=
  if l.text = "" then "\n" else indentation l.depth ++ l.text ++ "\n"

/-- The text of lines. -/
def render (lines : List Line) : String :=
  String.join (lines.map Line.render)

@[simp] theorem indentBy_zero (lines : List Line) : indentBy 0 lines = lines := by
  simp [indentBy]

theorem indentBy_add (m n : Nat) (lines : List Line) :
    indentBy m (indentBy n lines) = indentBy (n + m) lines := by
  simp [indentBy, Nat.add_assoc]

@[simp] theorem indentBy_append (n : Nat) (xs ys : List Line) :
    indentBy n (xs ++ ys) = indentBy n xs ++ indentBy n ys := by
  simp [indentBy]

@[simp] theorem indent_append (xs ys : List Line) : indent (xs ++ ys) = indent xs ++ indent ys :=
  indentBy_append 1 xs ys

@[simp] theorem render_nil : render [] = "" := rfl

@[simp] theorem render_cons (l : Line) (lines : List Line) :
    render (l :: lines) = l.render ++ render lines := by
  simp [render, String.join_cons]

theorem render_append (xs ys : List Line) : render (xs ++ ys) = render xs ++ render ys := by
  induction xs with
  | nil => simp
  | cons l xs ih => simp [ih, String.append_assoc]

end ProtoTypeScript.Script
