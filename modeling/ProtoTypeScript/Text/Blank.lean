/-!
# White space

`isBlank` is the Unicode property White_Space. `trimBlanks` takes blanks off both ends of a
text; a zero width space (U+200B) or a byte order mark (U+FEFF) is no blank and stays.
`trimBlanks_append` says that it takes blanks off a text that has none at its ends, and no more.
-/

namespace ProtoTypeScript.Text

/-- The characters with the Unicode property White_Space. -/
def isBlank (c : Char) : Bool :=
  let n := c.toNat
  (0x09 ≤ n && n ≤ 0x0D) || n == 0x20 || n == 0x85 || n == 0xA0 || n == 0x1680 ||
    (0x2000 ≤ n && n ≤ 0x200A) || n == 0x2028 || n == 0x2029 || n == 0x202F || n == 0x205F ||
    n == 0x3000

theorem isBlank_eq_false_of_isDigit {c : Char} (h : c.isDigit = true) : isBlank c = false := by
  have hlow : 48 ≤ c.toNat := (Char.isDigit_iff_toNat.1 h).1
  have hhigh : c.toNat ≤ 57 := (Char.isDigit_iff_toNat.1 h).2
  simp [isBlank]
  omega

/-- The characters without the blanks at either end. -/
def trimBlanks (cs : List Char) : List Char :=
  ((cs.dropWhile isBlank).reverse.dropWhile isBlank).reverse

/-- Nothing but blanks stands in the text. -/
def AllBlank (cs : List Char) : Prop :=
  ∀ c ∈ cs, isBlank c = true

instance (cs : List Char) : Decidable (AllBlank cs) :=
  decidable_of_iff (cs.all isBlank = true) List.all_eq_true

/-- No blank stands at either end of the text. -/
def IsTrimmed (cs : List Char) : Prop :=
  (∀ c ∈ cs.head?, isBlank c = false) ∧ ∀ c ∈ cs.getLast?, isBlank c = false

instance (cs : List Char) : Decidable (IsTrimmed cs) :=
  decidable_of_iff (cs.head?.all (!isBlank ·) = true ∧ cs.getLast?.all (!isBlank ·) = true)
    (by simp [IsTrimmed, Option.all_eq_true])

theorem allBlank_nil : AllBlank [] := by
  intro c hc
  cases hc

theorem AllBlank.notMem {cs : List Char} (h : AllBlank cs) {c : Char} (hc : isBlank c = false) :
    c ∉ cs := by
  intro hmem
  rw [h c hmem] at hc
  cases hc

theorem AllBlank.append {cs ds : List Char} (hcs : AllBlank cs) (hds : AllBlank ds) :
    AllBlank (cs ++ ds) := by
  intro c hc
  exact (List.mem_append.1 hc).elim (hcs c) (hds c)

theorem dropWhile_isBlank_of_all {cs : List Char} (h : AllBlank cs) :
    cs.dropWhile isBlank = [] := by
  have happend : (cs ++ []).dropWhile isBlank = [].dropWhile isBlank :=
    List.dropWhile_append_of_pos h
  simpa using happend

theorem dropWhile_isBlank_of_head? {cs : List Char} (h : ∀ c ∈ cs.head?, isBlank c = false) :
    cs.dropWhile isBlank = cs := by
  cases cs with
  | nil => rfl
  | cons c cs =>
    have hc : isBlank c = false := h c rfl
    rw [List.dropWhile_cons_of_neg (by simp [hc])]

theorem isTrimmed_of_forall {cs : List Char} (h : ∀ c ∈ cs, isBlank c = false) : IsTrimmed cs :=
  ⟨fun c hc => h c (List.mem_of_mem_head? hc), fun c hc => h c (List.mem_of_mem_getLast? hc)⟩

/-- What stands between two trimmed texts does not matter for the ends. -/
theorem IsTrimmed.append {xs ys : List Char} (hxs : IsTrimmed xs) (hx : xs ≠ [])
    (hys : IsTrimmed ys) (hy : ys ≠ []) (between : List Char) :
    IsTrimmed (xs ++ between ++ ys) := by
  constructor
  · rw [List.append_assoc, List.head?_append, Option.or_of_isSome (by simpa using hx)]
    exact hxs.1
  · rw [List.getLast?_append, Option.or_of_isSome (by simpa using hy)]
    exact hys.2

theorem trimBlanks_of_all {cs : List Char} (h : AllBlank cs) : trimBlanks cs = [] := by
  rw [trimBlanks, dropWhile_isBlank_of_all h]
  rfl

/-- Blanks around a trimmed text are taken off, and nothing else is. -/
theorem trimBlanks_append {before cs after : List Char} (hbefore : AllBlank before)
    (hcs : IsTrimmed cs) (hafter : AllBlank after) :
    trimBlanks (before ++ cs ++ after) = cs := by
  by_cases hnil : cs = []
  · subst hnil
    rw [List.append_nil]
    exact trimBlanks_of_all (hbefore.append hafter)
  · have hhead : ∀ c ∈ (cs ++ after).head?, isBlank c = false := by
      rw [List.head?_append, Option.or_of_isSome (by simp [hnil])]
      exact hcs.1
    have hlast : ∀ c ∈ cs.reverse.head?, isBlank c = false := by
      rw [List.head?_reverse]
      exact hcs.2
    have hafter' : AllBlank after.reverse := fun c hc =>
      hafter c (List.mem_reverse.1 hc)
    rw [trimBlanks, List.append_assoc, List.dropWhile_append_of_pos hbefore,
      dropWhile_isBlank_of_head? hhead, List.reverse_append, List.dropWhile_append_of_pos hafter',
      dropWhile_isBlank_of_head? hlast, List.reverse_reverse]

end ProtoTypeScript.Text
