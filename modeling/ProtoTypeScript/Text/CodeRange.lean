/-!
# Tables of character codes

Properties of characters are tables of ranges in ascending order. A range holds every `step`-th
code, so that a script whose cases alternate takes one entry.

* `CodeRange.covers table n`: some range of the table holds `n`;
* `CodeShift.apply table n`: the code `n` is mapped to.
-/

namespace ProtoTypeScript.Text

/-- The codes `first`, `first + step`, … up to `last`. -/
structure CodeRange where
  first : Nat
  last : Nat
  step : Nat
  deriving DecidableEq, Repr

namespace CodeRange

/-- Whether the range holds the code. -/
def holds (r : CodeRange) (n : Nat) : Bool :=
  r.first ≤ n && n ≤ r.last && (n - r.first) % r.step == 0

/-- Whether a range of an ascending table holds the code. -/
def covers : List CodeRange → Nat → Bool
  | [], _ => false
  | r :: table, n => if n ≤ r.last then r.holds n else covers table n

end CodeRange

/-- A range of codes and the distance of each to the code it is mapped to. -/
structure CodeShift where
  codes : CodeRange
  distance : Int
  deriving DecidableEq, Repr

namespace CodeShift

/-- The code `n` is mapped to by an ascending table; itself if no range holds it. -/
def apply : List CodeShift → Nat → Nat
  | [], n => n
  | s :: table, n =>
    if n ≤ s.codes.last then
      if s.codes.holds n then (n + s.distance).toNat else n
    else apply table n

end CodeShift

end ProtoTypeScript.Text
