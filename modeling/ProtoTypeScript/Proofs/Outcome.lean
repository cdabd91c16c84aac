import Mathlib.Data.List.Forall2
import ProtoTypeScript.Error

/-!
# Outcomes

How a computation that may fail comes to succeed: a sequence of two when both do, a traversal of a
list when every item does. It fails where one of its parts does. A traversal relates the items of
two lists, so what such a relation says of their members stands here as well.
-/

namespace ProtoTypeScript.Outcome

variable {ε α β γ : Type}

theorem bind_eq_ok_iff {x : Except ε α} {f : α → Except ε β} {b : β} :
    x >>= f = .ok b ↔ ∃ a, x = .ok a ∧ f a = .ok b := by
  cases x with
  | error e => simp [bind, Except.bind]
  | ok a => simp [bind, Except.bind]

theorem map_eq_ok_iff {x : Except ε α} {f : α → β} {b : β} :
    x.map f = .ok b ↔ ∃ a, x = .ok a ∧ f a = b := by
  cases x with
  | error e => simp [Except.map]
  | ok a => simp [Except.map]

theorem pure_eq_ok_iff {a b : α} : (pure a : Except ε α) = .ok b ↔ a = b := by
  simp [pure, Except.pure]

theorem isOk_iff {x : Except ε α} : x.isOk = true ↔ ∃ a, x = .ok a := by
  cases x with
  | error e => simp [Except.isOk, Except.toBool]
  | ok a => simp [Except.isOk, Except.toBool]

theorem mapM_eq_ok_iff {f : α → Except ε β} {xs : List α} {ys : List β} :
    xs.mapM f = .ok ys ↔ List.Forall₂ (fun x y => f x = .ok y) xs ys := by
  induction xs generalizing ys with
  | nil => rw [List.mapM_nil, pure_eq_ok_iff, List.forall₂_nil_left_iff, eq_comm]
  | cons x xs ih =>
    rw [List.mapM_cons, bind_eq_ok_iff, List.forall₂_cons_left_iff]
    constructor
    · rintro ⟨y, hy, h⟩
      obtain ⟨zs, hzs, h⟩ := bind_eq_ok_iff.1 h
      exact ⟨y, zs, hy, ih.1 hzs, (pure_eq_ok_iff.1 h).symm⟩
    · rintro ⟨y, zs, hy, hzs, rfl⟩
      exact ⟨y, hy, bind_eq_ok_iff.2 ⟨zs, ih.2 hzs, rfl⟩⟩

/-- A traversal collects the results of all items, if none fails. -/
theorem mapM_eq_ok_iff_forall {f : α → Except ε β} {xs : List α} {ys : List β} :
    xs.mapM f = .ok ys ↔
      (∀ x ∈ xs, ∃ y, f x = .ok y) ∧ xs.filterMap (fun x => (f x).toOption) = ys := by
  induction xs generalizing ys with
  | nil => simp [pure_eq_ok_iff]
  | cons x xs ih =>
    rw [List.mapM_cons, bind_eq_ok_iff, List.forall_mem_cons]
    constructor
    · rintro ⟨y, hy, h⟩
      obtain ⟨zs, hzs, h⟩ := bind_eq_ok_iff.1 h
      obtain rfl := pure_eq_ok_iff.1 h
      obtain ⟨hall, rfl⟩ := ih.1 hzs
      exact ⟨⟨⟨y, hy⟩, hall⟩, by simp [hy, Except.toOption]⟩
    · rintro ⟨⟨⟨y, hy⟩, hall⟩, rfl⟩
      refine ⟨y, hy, bind_eq_ok_iff.2 ⟨_, ih.2 ⟨hall, rfl⟩, ?_⟩⟩
      simp [hy, Except.toOption, pure_eq_ok_iff]

theorem report_eq_ok_iff {x : Except Error α} {a : α} : report x = .ok a ↔ x = .ok a := by
  cases x with
  | error e => simp
  | ok b => simp

theorem exists_of_bind_pure_eq_ok {x : Except ε α} {f : α → β} {b : β}
    (h : (x >>= fun a => pure (f a)) = .ok b) : ∃ a, f a = b := by
  obtain ⟨a, -, ha⟩ := bind_eq_ok_iff.1 h
  exact ⟨a, pure_eq_ok_iff.1 ha⟩

/-! ### Failed outcomes -/

theorem bind_eq_error_iff {x : Except ε α} {f : α → Except ε β} {e : ε} :
    x >>= f = .error e ↔ x = .error e ∨ ∃ a, x = .ok a ∧ f a = .error e := by
  cases x with
  | error e' => simp [bind, Except.bind]
  | ok a => simp [bind, Except.bind]

theorem map_eq_error_iff {x : Except ε α} {f : α → β} {e : ε} :
    x.map f = .error e ↔ x = .error e := by
  cases x with
  | error e' => simp [Except.map]
  | ok a => simp [Except.map]

theorem report_eq_error_iff {x : Except Error α} {failure : Failure} :
    report x = .error failure ↔ ∃ e, x = .error e ∧ failure = .reported e := by
  cases x with
  | error e => simp [eq_comm]
  | ok a => simp

theorem report_eq_reported_iff {x : Except Error α} {e : Error} :
    report x = .error (.reported e) ↔ x = .error e := by
  cases x with
  | error e' => simp
  | ok a => simp

theorem report_ne_stackOverflow (x : Except Error α) : report x ≠ .error .stackOverflow := by
  cases x with
  | error e => simp
  | ok a => simp

/-- The first item of the list that fails does so with the error. -/
def FirstFailure (f : α → Except ε β) (xs : List α) (e : ε) : Prop :=
  ∃ before x after, xs = before ++ x :: after ∧ (∀ y ∈ before, ∃ b, f y = .ok b) ∧ f x = .error e

theorem not_firstFailure_nil {f : α → Except ε β} {e : ε} : ¬ FirstFailure f [] e := by
  rintro ⟨before, x, after, hxs, -, -⟩
  simp at hxs

theorem firstFailure_cons_iff {f : α → Except ε β} {x : α} {xs : List α} {e : ε} :
    FirstFailure f (x :: xs) e ↔ f x = .error e ∨ (∃ b, f x = .ok b) ∧ FirstFailure f xs e := by
  constructor
  · rintro ⟨before, y, after, hxs, hbefore, hy⟩
    cases before with
    | nil =>
      obtain ⟨rfl, rfl⟩ := List.cons.inj hxs
      exact Or.inl hy
    | cons z before =>
      obtain ⟨rfl, rfl⟩ := List.cons.inj hxs
      rw [List.forall_mem_cons] at hbefore
      exact Or.inr ⟨hbefore.1, before, y, after, rfl, hbefore.2, hy⟩
  · rintro (hx | ⟨hx, before, y, after, rfl, hbefore, hy⟩)
    · exact ⟨[], x, xs, rfl, List.forall_mem_nil _, hx⟩
    · exact ⟨x :: before, y, after, rfl, List.forall_mem_cons.2 ⟨hx, hbefore⟩, hy⟩

theorem firstFailure_append_iff {f : α → Except ε β} {xs ys : List α} {e : ε} :
    FirstFailure f (xs ++ ys) e ↔
      FirstFailure f xs e ∨ (∀ x ∈ xs, ∃ b, f x = .ok b) ∧ FirstFailure f ys e := by
  induction xs with
  | nil => simp [not_firstFailure_nil]
  | cons x xs ih =>
    rw [List.cons_append, firstFailure_cons_iff, firstFailure_cons_iff, ih, List.forall_mem_cons]
    tauto

theorem forall_ok_or_firstFailure (f : α → Except ε β) (xs : List α) :
    (∀ x ∈ xs, ∃ b, f x = .ok b) ∨ ∃ e, FirstFailure f xs e := by
  induction xs with
  | nil => exact .inl (List.forall_mem_nil _)
  | cons x xs ih =>
    cases hx : f x with
    | error e => exact .inr ⟨e, firstFailure_cons_iff.2 (.inl hx)⟩
    | ok b =>
      rcases ih with hxs | ⟨e, he⟩
      · exact .inl (List.forall_mem_cons.2 ⟨⟨b, hx⟩, hxs⟩)
      · exact .inr ⟨e, firstFailure_cons_iff.2 (.inr ⟨⟨b, hx⟩, he⟩)⟩

theorem FirstFailure.exists_mem {f : α → Except ε β} {xs : List α} {e : ε}
    (h : FirstFailure f xs e) : ∃ x ∈ xs, f x = .error e := by
  obtain ⟨before, x, after, rfl, -, hx⟩ := h
  exact ⟨x, List.mem_append_right _ List.mem_cons_self, hx⟩

/-- A traversal fails with the error of the first item that fails. -/
theorem mapM_eq_error_iff {f : α → Except ε β} {xs : List α} {e : ε} :
    xs.mapM f = .error e ↔ FirstFailure f xs e := by
  induction xs with
  | nil =>
    refine iff_of_false ?_ not_firstFailure_nil
    rintro ⟨⟩
  | cons x xs ih =>
    rw [List.mapM_cons, bind_eq_error_iff, firstFailure_cons_iff, ← ih]
    constructor
    · rintro (hx | ⟨y, hy, h⟩)
      · exact Or.inl hx
      · rcases bind_eq_error_iff.1 h with hxs | ⟨ys, -, h⟩
        · exact Or.inr ⟨⟨y, hy⟩, hxs⟩
        · cases h
    · rintro (hx | ⟨⟨y, hy⟩, hxs⟩)
      · exact Or.inl hx
      · exact Or.inr ⟨y, hy, bind_eq_error_iff.2 (Or.inl hxs)⟩

/-- A traversal fails with the error of an item. -/
theorem exists_of_mapM_eq_error {f : α → Except ε β} {xs : List α} {e : ε}
    (h : xs.mapM f = .error e) : ∃ x ∈ xs, f x = .error e := by
  obtain ⟨before, x, after, rfl, -, hx⟩ := mapM_eq_error_iff.1 h
  exact ⟨x, List.mem_append_right _ List.mem_cons_self, hx⟩

/-! ### Two computations side by side -/

/-- Both computations fail with the same error, or both succeed with related results. -/
inductive Agree (R : α → β → Prop) : Except ε α → Except ε β → Prop
  | error (e : ε) : Agree R (.error e) (.error e)
  | ok {a : α} {b : β} (h : R a b) : Agree R (.ok a) (.ok b)

namespace Agree

variable {α' β' : Type} {R : α → α' → Prop} {S : β → β' → Prop} {x : Except ε α} {x' : Except ε α'}

theorem cases (h : Agree R x x') : (∃ e, x = .error e ∧ x' = .error e) ∨
    ∃ a a', x = .ok a ∧ x' = .ok a' ∧ R a a' := by
  cases h with
  | error e => exact .inl ⟨e, rfl, rfl⟩
  | ok h => exact .inr ⟨_, _, rfl, rfl, h⟩

theorem of_eq (x : Except ε α) : Agree (fun a a' => x = .ok a ∧ a' = a) x x := by
  cases x with
  | error e => exact .error e
  | ok a => exact .ok ⟨rfl, rfl⟩

theorem mono (h : Agree R x x') {Q : α → α' → Prop} (hQ : ∀ a a', R a a' → Q a a') :
    Agree Q x x' := by
  cases h with
  | error e => exact .error e
  | ok h => exact .ok (hQ _ _ h)

theorem bind (h : Agree R x x') {f : α → Except ε β} {f' : α' → Except ε β'}
    (hf : ∀ a a', R a a' → Agree S (f a) (f' a')) : Agree S (x >>= f) (x' >>= f') := by
  cases h with
  | error e => exact .error e
  | ok h => exact hf _ _ h

theorem report {x : Except Error α} {x' : Except Error α'} (h : Agree R x x') :
    Agree R (report x) (report x') := by
  cases h with
  | error e => exact .error _
  | ok h => exact .ok h

/-- Two traversals of one list agree if they do at every item. -/
theorem mapM_zip {γ : Type} {S : γ → β → β' → Prop} {f : γ → Except ε β} {f' : γ → Except ε β'}
    {xs : List γ} (h : ∀ x ∈ xs, Agree (S x) (f x) (f' x)) :
    Agree (fun ys ys' => ∃ both : List (β × β'), ys = both.map Prod.fst ∧ ys' = both.map Prod.snd ∧
      List.Forall₂ (fun x y => S x y.1 y.2) xs both) (xs.mapM f) (xs.mapM f') := by
  induction xs with
  | nil => exact .ok ⟨[], rfl, rfl, .nil⟩
  | cons x xs ih =>
    rw [List.mapM_cons, List.mapM_cons]
    refine (h x List.mem_cons_self).bind fun y y' hy => ?_
    refine (ih fun z hz => h z (List.mem_cons_of_mem _ hz)).bind ?_
    rintro _ _ ⟨both, rfl, rfl, hboth⟩
    exact .ok ⟨(y, y') :: both, rfl, rfl, .cons hy hboth⟩

theorem mapM {γ : Type} {f : γ → Except ε β} {f' : γ → Except ε β'} {xs : List γ}
    (h : ∀ x ∈ xs, Agree S (f x) (f' x)) : Agree (List.Forall₂ S) (xs.mapM f) (xs.mapM f') := by
  refine (mapM_zip (S := fun _ => S) h).mono ?_
  rintro _ _ ⟨both, rfl, rfl, hboth⟩
  clear h
  induction hboth with
  | nil => exact .nil
  | cons hy _ ih => exact .cons hy ih

end Agree

/-! ### Related lists -/

variable {R : α → β → Prop} {xs : List α} {ys : List β}

theorem exists_of_mem_left (h : List.Forall₂ R xs ys) {x : α} (hx : x ∈ xs) :
    ∃ y ∈ ys, R x y := by
  induction h with
  | nil => exact absurd hx List.not_mem_nil
  | cons hxy _ ih =>
    rcases List.mem_cons.1 hx with rfl | hx
    · exact ⟨_, List.mem_cons_self, hxy⟩
    · obtain ⟨y, hy, hR⟩ := ih hx
      exact ⟨y, List.mem_cons_of_mem _ hy, hR⟩

theorem exists_of_mem_right (h : List.Forall₂ R xs ys) {y : β} (hy : y ∈ ys) :
    ∃ x ∈ xs, R x y := by
  obtain ⟨x, hx, hR⟩ := exists_of_mem_left (List.Forall₂.flip (R := flip R) h) hy
  exact ⟨x, hx, hR⟩

theorem forall₂_eraseIdx (h : List.Forall₂ R xs ys) (i : ℕ) :
    List.Forall₂ R (xs.eraseIdx i) (ys.eraseIdx i) := by
  induction h generalizing i with
  | nil => exact .nil
  | cons hxy hrest ih =>
    cases i with
    | zero => exact hrest
    | succ i => exact .cons hxy (ih i)

theorem exists_of_getElem? (h : List.Forall₂ R xs ys) {i : ℕ} {x : α} (hx : xs[i]? = some x) :
    ∃ y, ys[i]? = some y ∧ R x y := by
  induction h generalizing i with
  | nil => cases hx
  | cons hxy _ ih =>
    cases i with
    | zero =>
      obtain rfl := Option.some.inj hx
      exact ⟨_, rfl, hxy⟩
    | succ i => exact ih hx

theorem filterMap_eq_map_of_forall₂ (h : List.Forall₂ R xs ys) {f : α → γ} {g : β → Option γ}
    (hfg : ∀ x y, R x y → g y = some (f x)) : ys.filterMap g = xs.map f := by
  induction h with
  | nil => rfl
  | cons hxy _ ih => rw [List.filterMap_cons, hfg _ _ hxy, List.map_cons, ih]

theorem map_eq_map_of_forall₂ (h : List.Forall₂ R xs ys) {f : α → γ} {g : β → γ}
    (hfg : ∀ x y, R x y → g y = f x) : ys.map g = xs.map f := by
  rw [← List.filterMap_eq_map]
  exact filterMap_eq_map_of_forall₂ h fun x y hxy => congrArg some (hfg x y hxy)

end ProtoTypeScript.Outcome
