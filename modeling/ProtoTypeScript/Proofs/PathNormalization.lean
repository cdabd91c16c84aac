import Mathlib.Logic.Relation
import ProtoTypeScript.Proofs.RelativePath

/-!
# Simplifying paths

A path is simplified step by step: a segment that says to stay is dropped, and so is a name together
with the climb behind it. Steps may be taken anywhere in the path and in any order, until none is
left.

* `Simplifies.resolve_eq`: a step does not change what the path resolves to;
* `simplifies_resolve`: steps lead from a path to what it resolves to;
* `normalizes_iff`: so that is where every chain of steps ends that cannot go on.
-/

namespace ProtoTypeScript.ModulePath

open Relation

/-- One step: a segment that says to stay is dropped, or a name and the climb behind it. -/
inductive Simplifies : List String → List String → Prop
  | stay (before : List String) {segment : String} (h : segment = "" ∨ segment = ".")
    (after : List String) : Simplifies (before ++ segment :: after) (before ++ after)
  | climb (before : List String) {name : String} (h : IsName name) (after : List String) :
    Simplifies (before ++ name :: ".." :: after) (before ++ after)

/-- Steps lead from the path to one that no step is left for. -/
def Normalizes (path normal : List String) : Prop :=
  ReflTransGen Simplifies path normal ∧ ∀ next, ¬ Simplifies normal next

variable {path path' normal : List String}

/-! ### One step -/

theorem Simplifies.resolve_eq (h : Simplifies path path') : resolve path = resolve path' := by
  cases h with
  | stay before h after =>
    rw [resolve, resolve, List.foldl_append, List.foldl_append, List.foldl_cons, push_of_stay h]
  | climb before h after =>
    rw [resolve, resolve, List.foldl_append, List.foldl_append, List.foldl_cons, List.foldl_cons,
      push_of_isName h, push_climb_of_isName h]

theorem Simplifies.length_lt (h : Simplifies path path') : path'.length < path.length := by
  cases h with
  | stay before h after => simp
  | climb before h after => simp only [List.length_append, List.length_cons]; omega

theorem length_push_le (stack : List String) (segment : String) :
    (push stack segment).length ≤ stack.length + 1 := by
  unfold push
  split_ifs with hstay hclimb
  · exact Nat.le_succ _
  · cases stack with
    | nil => exact Nat.le_refl _
    | cons last rest =>
      dsimp only
      split_ifs
      · exact Nat.le_refl _
      · simp only [List.length_cons]
        omega
  · exact Nat.le_refl _

theorem length_resolve_le (path : List String) : (resolve path).length ≤ path.length := by
  have haux : ∀ stack : List String,
      (path.foldl push stack).length ≤ stack.length + path.length := by
    induction path with
    | nil => exact fun stack => Nat.le_refl _
    | cons segment path ih =>
      intro stack
      have hpush := length_push_le stack segment
      have hrest := ih (push stack segment)
      rw [List.foldl_cons, List.length_cons]
      omega
  simpa [resolve] using haux []

/-- No step is left for a normal path: it would shorten the path, which resolves to itself. -/
theorem IsNormal.not_simplifies (h : IsNormal normal) (next : List String) :
    ¬ Simplifies normal next := by
  intro hstep
  have hresolve := hstep.resolve_eq
  rw [resolve_of_isNormal h] at hresolve
  have hle := length_resolve_le next
  rw [← hresolve] at hle
  exact absurd hstep.length_lt (Nat.not_lt.2 hle)

/-! ### Chains of steps -/

theorem resolve_eq_of_reflTransGen (h : ReflTransGen Simplifies path path') :
    resolve path = resolve path' := by
  induction h with
  | refl => rfl
  | tail _ hstep ih => exact ih.trans hstep.resolve_eq

/-- Steps do to a normal path and the next segment what `push` does. -/
theorem simplifies_push {stack : List String} (h : IsNormal stack.reverse) (segment : String)
    (after : List String) : ReflTransGen Simplifies (stack.reverse ++ segment :: after)
      ((push stack segment).reverse ++ after) := by
  by_cases hstay : segment = "" ∨ segment = "."
  · rw [push_of_stay hstay]
    exact .single (.stay _ hstay _)
  · rw [not_or] at hstay
    by_cases hclimb : segment = ".."
    · subst hclimb
      rcases stack with _ | ⟨last, rest⟩
      · exact .refl
      · -- a climb behind a climb stays, behind a name it undoes the name
        by_cases hlast : last = ".."
        · subst hlast
          have hpush : push (".." :: rest) ".." = ".." :: ".." :: rest := rfl
          have hkept : (".." :: rest).reverse ++ ".." :: after =
              (".." :: ".." :: rest).reverse ++ after := by simp
          rw [hpush, hkept]
        · have hname : IsName last := h.isName_of_ne (by simp) hlast
          rw [push_climb_of_isName hname, List.reverse_cons, List.append_assoc]
          exact .single (.climb _ hname _)
    · rw [push_of_isName ⟨hstay.1, hstay.2, hclimb⟩, List.reverse_cons, List.append_assoc]
      exact .refl

theorem simplifies_resolve (path : List String) : ReflTransGen Simplifies path (resolve path) := by
  have haux : ∀ stack : List String, IsNormal stack.reverse →
      ReflTransGen Simplifies (stack.reverse ++ path) (path.foldl push stack).reverse := by
    induction path with
    | nil =>
      intro stack _
      rw [List.append_nil]
      exact .refl
    | cons segment path ih =>
      intro stack h
      exact (simplifies_push h segment path).trans (ih _ (isNormal_reverse_push h segment))
  exact haux [] ⟨0, [], rfl, by simp⟩

/-- Whichever steps are taken, what is left at the end is what the path resolves to. -/
theorem normalizes_iff : Normalizes path normal ↔ normal = resolve path := by
  constructor
  · rintro ⟨hsteps, hend⟩
    rw [resolve_eq_of_reflTransGen hsteps]
    rcases (simplifies_resolve normal).cases_head with h | ⟨next, hstep, -⟩
    · exact h
    · exact absurd hstep (hend next)
  · rintro rfl
    exact ⟨simplifies_resolve path, (isNormal_resolve path).not_simplifies⟩

end ProtoTypeScript.ModulePath
