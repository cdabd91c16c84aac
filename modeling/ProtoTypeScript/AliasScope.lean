/-!
# Alias scopes

The identifiers of one generated file: those bound to imported dependencies, and how many unique
names were made from each base.

* `uniqueName base` is `base_1`, then `base_2` and so on;
* `bind` binds an identifier to a dependency, `identifierFor?` gives the latest one bound;
* `dependencies` lists the bound dependencies in ascending order;
* `reset` forgets all of it.

Identifiers are unique within one file only, so the scope is reset after each file. Names are
counted in 32 bits: after `2 ^ 32` names from one base the first one comes again.
-/

namespace ProtoTypeScript

/-- The identifiers of a file that is being generated. -/
structure AliasScope where
  /-- The bound dependencies in ascending order, with their identifiers. -/
  identifiers : List (String × String) := []
  /-- How many names were made from each base. -/
  counters : List (String × UInt32) := []
  deriving DecidableEq, Repr, Inhabited

namespace AliasScope

/-- The scope of a file that has no identifiers yet. -/
def empty : AliasScope := {}

/-- How many unique names were made from a base. -/
def count (s : AliasScope) (base : String) : UInt32 :=
  (s.counters.lookup base).getD 0

/-- The scope with one more name made from a base. -/
def countUp (s : AliasScope) (base : String) : AliasScope :=
  { s with counters := (base, s.count base + 1) :: s.counters.filter (·.1 ≠ base) }

/-- The next name made from a base, and the scope that knows of it. -/
def uniqueName (s : AliasScope) (base : String) : String × AliasScope :=
  (base ++ "_" ++ toString (s.count base + 1).toNat, s.countUp base)

/-- The bindings with one more, which replaces an earlier one of the same key. -/
def insertBinding (key value : String) : List (String × String) → List (String × String)
  | [] => [(key, value)]
  | (k, v) :: rest =>
    if key < k then (key, value) :: (k, v) :: rest
    else if key = k then (key, value) :: rest
    else (k, v) :: insertBinding key value rest

/-- The scope with an identifier bound to a dependency. -/
def bind (s : AliasScope) (dependency identifier : String) : AliasScope :=
  { s with identifiers := insertBinding dependency identifier s.identifiers }

/-- The identifier bound to a dependency. -/
def identifierFor? (s : AliasScope) (dependency : String) : Option String :=
  s.identifiers.lookup dependency

/-- The dependencies with an identifier, in ascending order. -/
def dependencies (s : AliasScope) : List String :=
  s.identifiers.map (·.1)

/-- The scope of the file after this one. -/
def reset (s : AliasScope) : AliasScope :=
  { s with identifiers := [], counters := [] }

/-- Whether no identifier is bound and no name was made. -/
def isEmpty (s : AliasScope) : Bool :=
  s.identifiers.isEmpty && s.counters.isEmpty

@[simp] theorem reset_eq_empty (s : AliasScope) : s.reset = empty := rfl

@[simp] theorem count_countUp_self (s : AliasScope) (base : String) :
    (s.countUp base).count base = s.count base + 1 := by
  simp [countUp, count]

@[simp] theorem identifierFor?_countUp (s : AliasScope) (base dependency : String) :
    (s.countUp base).identifierFor? dependency = s.identifierFor? dependency := rfl

theorem lookup_insertBinding_self (key value : String) (bindings : List (String × String)) :
    (insertBinding key value bindings).lookup key = some value := by
  induction bindings with
  | nil => simp [insertBinding]
  | cons head rest ih =>
    obtain ⟨k, v⟩ := head
    by_cases hlt : key < k
    · simp [insertBinding, hlt]
    · by_cases heq : key = k
      · simp [insertBinding, heq]
      · have : (key == k) = false := by simp [heq]
        simp [insertBinding, hlt, heq, List.lookup_cons, this, ih]

@[simp] theorem identifierFor?_bind_self (s : AliasScope) (dependency identifier : String) :
    (s.bind dependency identifier).identifierFor? dependency = some identifier :=
  lookup_insertBinding_self dependency identifier s.identifiers

end AliasScope

end ProtoTypeScript
