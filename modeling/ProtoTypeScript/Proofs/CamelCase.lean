import Mathlib.Data.List.Forall2
import ProtoTypeScript.Proofs.EscapeGrammar
import ProtoTypeScript.Proofs.PrintedMembers
import ProtoTypeScript.Proofs.PropertyNames
import ProtoTypeScript.Text.CamelCase

/-!
# Lower camel case of ASCII names

Lower camel case takes the letters and digits of a name, in order, and changes the case of some
letters.

* `flatten_words`: the words of a name are its letters and digits;
* `forall₂_lowerCamel`: each letter of an ASCII name becomes a letter and each digit a digit.
-/

namespace ProtoTypeScript.Text

/-! ### Words -/

theorem flatten_wordsFrom (mode : WordMode) (word : List Char) (c : Char) (cs : List Char) :
    (wordsFrom mode word (c :: cs)).flatten = word ++ c :: cs := by
  induction cs generalizing mode word c with
  | nil => simp [wordsFrom]
  | cons next rest ih =>
    rw [wordsFrom]
    split_ifs <;> simp [ih]

theorem exists_alphanumericRuns_eq_cons (cs : List Char) :
    ∃ run runs, alphanumericRuns cs = run :: runs := by
  cases cs with
  | nil => exact ⟨_, _, rfl⟩
  | cons c cs =>
    rw [alphanumericRuns]
    split
    · exact ⟨_, _, rfl⟩
    · split_ifs <;> exact ⟨_, _, rfl⟩

theorem flatten_alphanumericRuns (cs : List Char) :
    (alphanumericRuns cs).flatten = cs.filter isAlphanumeric := by
  induction cs with
  | nil => rfl
  | cons c cs ih =>
    obtain ⟨run, runs, hruns⟩ := exists_alphanumericRuns_eq_cons cs
    rw [hruns] at ih
    simp only [alphanumericRuns, hruns, List.filter_cons, ← ih]
    split_ifs <;> simp

/-- The words of a name are its letters and digits. -/
theorem flatten_words (cs : List Char) : (words cs).flatten = cs.filter isAlphanumeric := by
  have hrun : ∀ run : List Char, (wordsFrom .boundary [] run).flatten = run
    | [] => rfl
    | c :: run => flatten_wordsFrom .boundary [] c run
  rw [← flatten_alphanumericRuns, words, List.flatMap_def, List.flatten_flatten, List.map_map]
  congr 1
  exact List.map_id'' hrun _

/-! ### Letters and digits of ASCII -/

/-- `Recased c d`: a letter and a letter, or a digit and a digit. -/
structure Recased (c d : Char) : Prop where
  isAlphanum : d.isAlphanum = true
  isAlpha_eq : d.isAlpha = c.isAlpha

theorem Recased.forall_isAlphanum {cs ds : List Char} (h : List.Forall₂ Recased cs ds) :
    ∀ d ∈ ds, d.isAlphanum = true := by
  induction h with
  | nil => exact List.forall_mem_nil _
  | cons h _ ih => exact List.forall_mem_cons.2 ⟨h.isAlphanum, ih⟩

/-- In ASCII the mappings of case are those of single characters. -/
theorem case_of_isAlphanum {c : Char} (hc : c.isAlphanum = true) :
    (toLower c = [c.toLower] ∧ Recased c c.toLower) ∧
      (toUpper c = [c.toUpper] ∧ Recased c c.toUpper) := by
  have hlt : c.toNat < 128 := toNat_lt_of_isAlphanum hc
  have htable := CEscape.forall_of_toNat_lt (P := fun c => c.isAlphanum = true →
    (toLower c = [c.toLower] ∧ c.toLower.isAlphanum = true ∧ c.toLower.isAlpha = c.isAlpha) ∧
      toUpper c = [c.toUpper] ∧ c.toUpper.isAlphanum = true ∧ c.toUpper.isAlpha = c.isAlpha)
    (by decide +kernel) hlt hc
  obtain ⟨⟨hlower, hlower', hlower''⟩, hupper, hupper', hupper''⟩ := htable
  exact ⟨⟨hlower, hlower', hlower''⟩, hupper, hupper', hupper''⟩

theorem isAlphanumeric_of_toNat_lt {c : Char} (hc : c.toNat < 128) :
    isAlphanumeric c = c.isAlphanum :=
  CEscape.forall_of_toNat_lt (P := fun c => isAlphanumeric c = c.isAlphanum) (by decide +kernel) hc

section Ascii

variable {word : List Char}

theorem forall₂_lowerWord (h : ∀ c ∈ word, c.isAlphanum = true) :
    List.Forall₂ Recased word (lowerWord word) := by
  fun_induction lowerWord word with
  | case1 => exact .nil
  | case2 =>
    -- The one letter whose case depends on its place is not of ASCII.
    have hsigma := h capitalSigma List.mem_cons_self
    cases hsigma
  | case3 c _ =>
    obtain ⟨⟨hlower, hrecased⟩, -⟩ := case_of_isAlphanum (h c List.mem_cons_self)
    rw [hlower]
    exact .cons hrecased .nil
  | case4 c next rest ih =>
    rw [List.forall_mem_cons] at h
    obtain ⟨⟨hlower, hrecased⟩, -⟩ := case_of_isAlphanum h.1
    rw [hlower]
    exact .cons hrecased (ih h.2)

theorem forall₂_capitalizedWord (h : ∀ c ∈ word, c.isAlphanum = true) :
    List.Forall₂ Recased word (capitalizedWord word) := by
  cases word with
  | nil => exact .nil
  | cons c cs =>
    rw [List.forall_mem_cons] at h
    obtain ⟨-, hupper, hrecased⟩ := case_of_isAlphanum h.1
    rw [capitalizedWord, hupper]
    exact .cons hrecased (forall₂_lowerWord h.2)

theorem forall₂_joinCamel {ws : List (List Char)} (h : ∀ c ∈ ws.flatten, c.isAlphanum = true) :
    List.Forall₂ Recased ws.flatten (joinCamel ws) := by
  cases ws with
  | nil => exact .nil
  | cons word rest =>
    rw [List.flatten_cons, List.forall_mem_append] at h
    refine List.rel_append (forall₂_lowerWord h.1) (List.rel_flatten ?_)
    rw [List.forall₂_map_right_iff, List.forall₂_same]
    exact fun w hw => forall₂_capitalizedWord fun c hc => h.2 c (List.mem_flatten_of_mem hw hc)

end Ascii

/-- **Lower camel case keeps the letters and digits** of an ASCII name, in their order. -/
theorem forall₂_lowerCamel {s : String} (h : ∀ c ∈ s.toList, c.toNat < 128) :
    List.Forall₂ Recased (s.toList.filter Char.isAlphanum) (lowerCamel s).toList := by
  have hwords : (words s.toList).flatten = s.toList.filter Char.isAlphanum := by
    rw [flatten_words]
    exact List.filter_congr fun c hc => isAlphanumeric_of_toNat_lt (h c hc)
  rw [lowerCamel, String.toList_ofList, ← hwords]
  refine forall₂_joinCamel ?_
  rw [hwords]
  exact fun c hc => (List.mem_filter.1 hc).2

/-! ### Camel case of names -/

/-- The name of a protobuf field in lower camel case is a name of TypeScript just if the first
letter or digit in it is a letter. -/
theorem isName_lowerCamel_iff (chars : IdentifierChars) {s : String} (h : IsIdentifier s) :
    chars.IsName (lowerCamel s).toList ↔
      (s.toList.find? Char.isAlphanum).any Char.isAlpha = true := by
  have hascii : ∀ c ∈ s.toList, c.toNat < 128 := by
    intro c hc
    have hword := h.all c hc
    rw [Bool.or_eq_true, beq_iff_eq] at hword
    obtain hword | rfl := hword
    · exact toNat_lt_of_isAlphanum hword
    · decide
  have hrecased := forall₂_lowerCamel hascii
  rw [← List.head?_filter]
  -- what is left are two texts that differ in the case of letters only
  generalize s.toList.filter Char.isAlphanum = source at hrecased
  generalize (lowerCamel s).toList = camel at hrecased
  cases hrecased with
  | nil =>
    refine iff_of_false ?_ (by simp)
    rintro ⟨c, rest, hnil, -⟩
    cases hnil
  | @cons c d cs ds hd hds =>
    have hstart : chars.start d = c.isAlpha :=
      (IdentifierChars.start_of_isAlphanum hd.isAlphanum).trans hd.isAlpha_eq
    rw [List.head?_cons, Option.any_some, ← hstart]
    constructor
    · rintro ⟨e, rest, hcons, he, -⟩
      rwa [(List.cons.inj hcons).1]
    · exact fun h => ⟨d, ds, rfl, h, fun e he =>
        IdentifierChars.part_of_isAlphanum (Recased.forall_isAlphanum hds e he)⟩

end ProtoTypeScript.Text
