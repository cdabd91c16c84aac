/-!
# Splitting and joining

Texts are cut and put together at separators.

* `splitOn sep cs` cuts the characters `cs` at every `sep`, so it has one part more than `cs` has
  separators;
* `splitOnce? sep cs` cuts at the first `sep` only;
* `joinWith sep parts` puts `sep` between neighbouring parts;
* `withCommas parts` ends every part but the last with a comma.

`splitOn_append` says that a separator between two texts splits them apart, whatever they hold,
`splitOn_joinWith` that cutting undoes joining if no part has a separator, and `joinWith_splitOn`
that joining undoes cutting.
-/

namespace ProtoTypeScript.Text

/-! ### Cutting -/

/-- The parts of `cs` between occurrences of `sep`, empty ones included. -/
def splitOn (sep : Char) : List Char → List (List Char)
  | [] => [[]]
  | c :: cs =>
    if c = sep then [] :: splitOn sep cs
    else
      match splitOn sep cs with
      | [] => [[c]]
      | part :: parts => (c :: part) :: parts

@[simp] theorem splitOn_nil (sep : Char) : splitOn sep [] = [[]] := rfl

theorem splitOn_ne_nil (sep : Char) (cs : List Char) : splitOn sep cs ≠ [] := by
  cases cs with
  | nil => simp
  | cons c cs =>
    rw [splitOn]
    split
    · simp
    · split <;> simp

theorem splitOn_append (sep : Char) (xs ys : List Char) :
    splitOn sep (xs ++ sep :: ys) = splitOn sep xs ++ splitOn sep ys := by
  induction xs with
  | nil => simp [splitOn]
  | cons x xs ih =>
    by_cases h : x = sep
    · simp [splitOn, h, ih]
    · obtain ⟨part, parts, hp⟩ := List.exists_cons_of_ne_nil (splitOn_ne_nil sep xs)
      simp [splitOn, h, ih, hp]

theorem splitOn_of_notMem {sep : Char} {cs : List Char} (h : sep ∉ cs) : splitOn sep cs = [cs] := by
  induction cs with
  | nil => rfl
  | cons c cs ih =>
    rw [List.mem_cons, not_or] at h
    rw [splitOn, if_neg (Ne.symm h.1), ih h.2]

theorem notMem_of_mem_splitOn {sep : Char} {cs part : List Char} (h : part ∈ splitOn sep cs) :
    sep ∉ part := by
  induction cs generalizing part with
  | nil =>
    rw [splitOn_nil, List.mem_singleton] at h
    simp [h]
  | cons c cs ih =>
    obtain ⟨first, parts, hp⟩ := List.exists_cons_of_ne_nil (splitOn_ne_nil sep cs)
    by_cases hc : c = sep
    · rw [splitOn, if_pos hc] at h
      rcases List.mem_cons.1 h with rfl | h
      · simp
      · exact ih h
    · rw [splitOn, if_neg hc, hp] at h
      rw [hp] at ih
      rcases List.mem_cons.1 h with rfl | h
      · rw [List.mem_cons, not_or]
        exact ⟨Ne.symm hc, ih List.mem_cons_self⟩
      · exact ih (List.mem_cons_of_mem _ h)

/-- What stands before and after the first `sep`, or `none` without one. -/
def splitOnce? (sep : Char) (cs : List Char) : Option (List Char × List Char) :=
  match cs.dropWhile (· != sep) with
  | [] => none
  | _ :: rest => some (cs.takeWhile (· != sep), rest)

theorem splitOnce?_append {sep : Char} {xs : List Char} (h : sep ∉ xs) (ys : List Char) :
    splitOnce? sep (xs ++ sep :: ys) = some (xs, ys) := by
  have hxs : ∀ x ∈ xs, (x != sep) = true := by
    intro x hx
    rw [bne_iff_ne]
    rintro rfl
    exact h hx
  simp [splitOnce?, List.dropWhile_append_of_pos hxs, List.takeWhile_append_of_pos hxs]

theorem splitOnce?_eq_some {sep : Char} {cs xs ys : List Char}
    (h : splitOnce? sep cs = some (xs, ys)) : cs = xs ++ sep :: ys := by
  rw [splitOnce?] at h
  cases hdrop : cs.dropWhile (· != sep) with
  | nil =>
    rw [hdrop] at h
    cases h
  | cons c rest =>
    rw [hdrop, Option.some.injEq, Prod.mk.injEq] at h
    obtain ⟨rfl, rfl⟩ := h
    have hhead : ¬ (c != sep) = true := by
      have hne : cs.dropWhile (· != sep) ≠ [] := by simp [hdrop]
      have hfirst := List.head_dropWhile_not (· != sep) hne
      simp only [hdrop, List.head_cons] at hfirst
      simp [hfirst]
    have hsep : c = sep := by simpa using hhead
    calc
      cs = cs.takeWhile (· != sep) ++ cs.dropWhile (· != sep) :=
        List.takeWhile_append_dropWhile.symm
      _ = cs.takeWhile (· != sep) ++ sep :: rest := by rw [hdrop, hsep]

theorem splitOnce?_of_notMem {sep : Char} {cs : List Char} (h : sep ∉ cs) :
    splitOnce? sep cs = none := by
  have hcs : ∀ c ∈ cs, (c != sep) = true := by
    intro c hc
    rw [bne_iff_ne]
    rintro rfl
    exact h hc
  have hdrop : (cs ++ []).dropWhile (· != sep) = [] := List.dropWhile_append_of_pos hcs
  rw [List.append_nil] at hdrop
  rw [splitOnce?, hdrop]

/-! ### Joining -/

/-- The parts with `sep` between neighbours. -/
def joinWith (sep : String) : List String → String
  | [] => ""
  | [part] => part
  | part :: next :: parts => part ++ sep ++ joinWith sep (next :: parts)

@[simp] theorem joinWith_nil (sep : String) : joinWith sep [] = "" := rfl
@[simp] theorem joinWith_singleton (sep part : String) : joinWith sep [part] = part := rfl

theorem joinWith_cons_of_ne_nil (sep part : String) {parts : List String} (h : parts ≠ []) :
    joinWith sep (part :: parts) = part ++ sep ++ joinWith sep parts := by
  cases parts with
  | nil => exact absurd rfl h
  | cons next parts => rfl

/-- Cutting undoes joining. -/
theorem splitOn_joinWith {sep : Char} {glue : String} (hglue : glue.toList = [sep])
    {parts : List String} (hparts : ∀ part ∈ parts, sep ∉ part.toList) (hne : parts ≠ []) :
    splitOn sep (joinWith glue parts).toList = parts.map String.toList := by
  induction parts with
  | nil => exact absurd rfl hne
  | cons part parts ih =>
    have hpart := hparts part List.mem_cons_self
    by_cases hnil : parts = []
    · subst hnil
      exact splitOn_of_notMem hpart
    · rw [joinWith_cons_of_ne_nil _ _ hnil, String.toList_append, String.toList_append, hglue,
        List.append_assoc, List.singleton_append, splitOn_append, splitOn_of_notMem hpart,
        ih (fun p hp => hparts p (List.mem_cons_of_mem _ hp)) hnil]
      rfl

/-- Joining undoes cutting. -/
theorem joinWith_splitOn {sep : Char} {glue : String} (hglue : glue.toList = [sep])
    (cs : List Char) :
    joinWith glue ((splitOn sep cs).map String.ofList) = String.ofList cs := by
  induction cs with
  | nil => rfl
  | cons c cs ih =>
    obtain ⟨part, parts, hp⟩ := List.exists_cons_of_ne_nil (splitOn_ne_nil sep cs)
    apply String.toList_inj.1
    by_cases hc : c = sep
    · rw [splitOn, if_pos hc, List.map_cons, joinWith_cons_of_ne_nil _ _ (by simp [hp]), ih]
      simp [hglue, hc]
    · rw [hp] at ih
      rw [splitOn, if_neg hc, hp]
      -- the first part is one character longer, whether or not another one follows
      cases parts with
      | nil => simpa using congrArg String.toList ih
      | cons next parts =>
        have ih' := congrArg String.toList ih
        rw [List.map_cons, List.map_cons, joinWith] at ih' ⊢
        simp only [String.toList_append, String.toList_ofList, List.append_assoc,
          List.cons_append] at ih' ⊢
        rw [ih']

theorem notMem_joinWith {c : Char} {glue : String} (hglue : c ∉ glue.toList) {parts : List String}
    (hparts : ∀ part ∈ parts, c ∉ part.toList) : c ∉ (joinWith glue parts).toList := by
  induction parts with
  | nil => simp
  | cons part parts ih =>
    have hpart := hparts part List.mem_cons_self
    by_cases hnil : parts = []
    · subst hnil
      exact hpart
    · have hrest := ih fun p hp => hparts p (List.mem_cons_of_mem _ hp)
      rw [joinWith_cons_of_ne_nil _ _ hnil]
      simp [hpart, hglue, hrest]

/-- The parts as items of a list: a comma ends each but the last. -/
def withCommas : List String → List String
  | [] => []
  | [part] => [part]
  | part :: next :: parts => (part ++ ",") :: withCommas (next :: parts)

@[simp] theorem length_withCommas (parts : List String) :
    (withCommas parts).length = parts.length := by
  fun_induction withCommas parts with
  | case1 => rfl
  | case2 => rfl
  | case3 part next parts ih => simp [ih]

end ProtoTypeScript.Text
