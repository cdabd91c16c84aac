import Mathlib.Data.List.Basic
import Mathlib.Data.List.Nodup
import ProtoTypeScript.Declaration.Imports
import ProtoTypeScript.Proofs.Registration

/-!
# The search for imports

The search for imports keeps a queue of files and a list of the files bound so far. `Drains` is that
loop without a bound on its steps: a derivation of it is a run to the empty queue.

* `drains_names`: the steps that `ImportClosure.names` allows are enough, so it is the result of a
  run to the end;
* `Reachable` is membership in the closure under `import public`, and `Drains.mem_iff` says that a
  run binds what is reachable;
* `BreadthFirst` lists the same files level by level, and `Drains.breadthFirst` says that a run
  takes them in that order.
-/

namespace ProtoTypeScript
namespace ImportClosure

variable {reexports : String → List String} {self : String}

/-! ### The loop -/

/-- The loop that has bound the files `bound` and has `pending` before it comes to its end with the
files `result` bound. -/
inductive Drains (reexports : String → List String) (self : String) :
    List String → List String → List String → Prop
  | done (bound : List String) : Drains reexports self bound [] bound
  | skip {file : String} {bound pending result : List String} (h : file = self ∨ file ∈ bound)
      (rest : Drains reexports self bound pending result) :
      Drains reexports self bound (file :: pending) result
  | visit {file : String} {bound pending result : List String} (h : ¬(file = self ∨ file ∈ bound))
      (rest : Drains reexports self (bound ++ [file]) (pending ++ reexports file) result) :
      Drains reexports self bound (file :: pending) result

namespace Drains

variable {bound pending result : List String}

theorem bound_prefix (h : Drains reexports self bound pending result) : bound <+: result := by
  induction h with
  | done bound => exact List.prefix_rfl
  | skip _ _ ih => exact ih
  | visit _ _ ih => exact (List.prefix_append _ _).trans ih

theorem nodup (h : Drains reexports self bound pending result) (hbound : bound.Nodup) :
    result.Nodup := by
  induction h with
  | done bound => exact hbound
  | skip _ _ ih => exact ih hbound
  | visit h _ ih =>
    rw [not_or] at h
    exact ih (List.nodup_append.2 ⟨hbound, List.nodup_singleton _, fun a ha b hb => by
      rw [List.mem_singleton] at hb
      exact fun heq => h.2 (hb ▸ heq ▸ ha)⟩)

theorem self_notMem (h : Drains reexports self bound pending result) (hbound : self ∉ bound) :
    self ∉ result := by
  induction h with
  | done bound => exact hbound
  | skip _ _ ih => exact ih hbound
  | visit h _ ih =>
    rw [not_or] at h
    exact ih (by simp [hbound, Ne.symm h.1])

/-- Nothing in the queue is lost. -/
theorem mem_of_mem_pending (h : Drains reexports self bound pending result) {x : String}
    (hx : x ∈ pending) : x = self ∨ x ∈ result := by
  induction h with
  | done bound => exact absurd hx List.not_mem_nil
  | skip h rest ih =>
    rcases List.mem_cons.1 hx with rfl | hx
    · exact h.imp_right fun hb => rest.bound_prefix.subset hb
    · exact ih hx
  | visit h rest ih =>
    rcases List.mem_cons.1 hx with rfl | hx
    · exact Or.inr (rest.bound_prefix.subset (List.mem_append_right _ (List.mem_singleton_self _)))
    · exact ih (List.mem_append_left _ hx)

/-- The exports of every file that the loop binds are bound too. -/
theorem closed (h : Drains reexports self bound pending result) {x : String} (hx : x ∈ result) :
    x ∈ bound ∨ ∀ y ∈ reexports x, y = self ∨ y ∈ result := by
  induction h with
  | done bound => exact Or.inl hx
  | skip _ _ ih => exact ih hx
  | visit h rest ih =>
    rcases ih hx with hb | hclosed
    · rcases List.mem_append.1 hb with hb | hb
      · exact Or.inl hb
      · rw [List.mem_singleton] at hb
        subst hb
        exact Or.inr fun y hy => rest.mem_of_mem_pending (List.mem_append_right _ hy)
    · exact Or.inr hclosed

/-- What holds of the queue and is handed on by exports holds of all that the loop binds. -/
theorem sound (h : Drains reexports self bound pending result) {P : String → Prop}
    (hstep : ∀ x, P x → ∀ y ∈ reexports x, P y) (hpending : ∀ x ∈ pending, P x) {x : String}
    (hx : x ∈ result) : x ∈ bound ∨ P x := by
  induction h with
  | done bound => exact Or.inl hx
  | skip _ _ ih => exact ih (fun y hy => hpending y (List.mem_cons_of_mem _ hy)) hx
  | visit h rest ih =>
    rename_i file bound pending result
    have hfile : P file := hpending file List.mem_cons_self
    have hqueue : ∀ y ∈ pending ++ reexports file, P y := by
      intro y hy
      rcases List.mem_append.1 hy with hy | hy
      · exact hpending y (List.mem_cons_of_mem _ hy)
      · exact hstep file hfile y hy
    rcases ih hqueue hx with hb | hPx
    · rcases List.mem_append.1 hb with hb | hb
      · exact Or.inl hb
      · exact Or.inr (List.mem_singleton.1 hb ▸ hfile)
    · exact Or.inr hPx

/-- The loop has one end. -/
theorem unique (h : Drains reexports self bound pending result) {result' : List String}
    (h' : Drains reexports self bound pending result') : result = result' := by
  induction h with
  | done bound =>
    cases h'
    rfl
  | skip hfile _ ih =>
    cases h' with
    | skip _ rest' => exact ih rest'
    | visit hnot _ => exact absurd hfile hnot
  | visit hnot _ ih =>
    cases h' with
    | skip hfile _ => exact absurd hfile hnot
    | visit _ rest' => exact ih rest'

end Drains

/-! ### Enough steps -/

/-- The number of exports of the files that are not bound yet. -/
def unusedExports (exported : List (String × List String)) (bound : List String) : ℕ :=
  ((exported.filter fun entry => entry.1 ∉ bound).flatMap (·.2)).length

/-- Binding a file uses up its exports. -/
theorem unusedExports_append_le (exported : List (String × List String)) {bound : List String}
    {file : String} (h : file ∉ bound) :
    ((exported.lookup file).getD []).length + unusedExports exported (bound ++ [file]) ≤
      unusedExports exported bound := by
  induction exported with
  | nil => simp [unusedExports]
  | cons entry exported ih =>
    obtain ⟨name, exports⟩ := entry
    have hmono : unusedExports exported (bound ++ [file]) ≤ unusedExports exported bound := by omega
    unfold unusedExports at *
    -- the first entry for the file is the one looked up; later ones only lower the bound
    by_cases hname : name = file
    · subst hname
      simp only [List.lookup_cons_self, Option.getD_some, List.filter_cons, List.mem_append,
        List.mem_singleton, or_true, not_true, decide_false, h, not_false_iff, decide_true,
        if_true, List.flatMap_cons, List.length_append]
      simpa using hmono
    · have hbeq : (file == name) = false := by simp [Ne.symm hname]
      rw [List.lookup_cons, hbeq]
      by_cases hb : name ∈ bound
      · simpa [hb] using ih
      · simp only [List.filter_cons, List.mem_append, hb, List.mem_singleton, hname, or_self,
          not_false_iff, decide_true, if_true, List.flatMap_cons, List.length_append]
        simp only [List.mem_append, List.mem_singleton] at ih
        omega

/-- A search that may take a step for everything queued and for every unused export runs to its
end. -/
theorem drains_search (exported : List (String × List String)) (self : String) {steps : ℕ}
    {bound pending : List String} (h : pending.length + unusedExports exported bound ≤ steps) :
    Drains (fun file => (exported.lookup file).getD []) self bound pending
      (search (fun file => (exported.lookup file).getD []) self steps bound pending) := by
  induction steps generalizing bound pending with
  | zero =>
    have hpending : pending = [] := List.length_eq_zero_iff.1 (by omega)
    subst hpending
    exact .done bound
  | succ steps ih =>
    cases pending with
    | nil => exact .done bound
    | cons file pending =>
      rw [List.length_cons] at h
      rw [search]
      split_ifs with hfile
      · exact .skip hfile (ih (by omega))
      · -- what is put into the queue was counted among the unused exports
        have hused := unusedExports_append_le exported (not_or.1 hfile).2
        exact .visit hfile (ih (by rw [List.length_append]; omega))

/-- The listed names are the files bound by a run to the end. -/
theorem drains_names (exported : List (String × List String)) (self : String)
    (dependencies : List String) :
    Drains (fun file => (exported.lookup file).getD []) self [] dependencies
      (names exported self dependencies) := by
  refine drains_search exported self ?_
  simp [unusedExports]

/-- The listed names depend on what each file exports, not on how the exports are listed. -/
theorem names_congr {exported exported' : List (String × List String)}
    (h : ∀ file, (exported.lookup file).getD [] = (exported'.lookup file).getD [])
    (self : String) (dependencies : List String) :
    names exported self dependencies = names exported' self dependencies := by
  have hdrains := drains_names exported self dependencies
  rw [funext h] at hdrains
  exact hdrains.unique (drains_names exported' self dependencies)

/-! ### Breadth first -/

/-- The files of `candidates` that are neither `self` nor seen yet, each once, where it comes
first. -/
def fresh (self : String) (seen candidates : List String) : List String :=
  (candidates.filter fun file => file ≠ self ∧ file ∉ seen).eraseDups

/-- The files found level by level: the fresh ones of `candidates` in their order, then those of
what they export, and so on until a level has none. -/
inductive BreadthFirst (reexports : String → List String) (self : String) :
    List String → List String → List String → Prop
  | done {seen candidates : List String} (h : fresh self seen candidates = []) :
      BreadthFirst reexports self seen candidates seen
  | level {seen candidates result : List String} (h : fresh self seen candidates ≠ [])
      (next : BreadthFirst reexports self (seen ++ fresh self seen candidates)
        ((fresh self seen candidates).flatMap reexports) result) :
      BreadthFirst reexports self seen candidates result

@[simp] theorem fresh_nil (self : String) (seen : List String) : fresh self seen [] = [] := rfl

theorem fresh_cons_of_old {seen : List String} {file : String} (h : file = self ∨ file ∈ seen)
    (candidates : List String) :
    fresh self seen (file :: candidates) = fresh self seen candidates := by
  have hfile : ¬(file ≠ self ∧ file ∉ seen) := by rwa [Ne, ← not_or, not_not]
  rw [fresh, List.filter_cons_of_neg (by simpa using hfile), fresh]

theorem fresh_cons_of_new {seen : List String} {file : String} (h : ¬(file = self ∨ file ∈ seen))
    (candidates : List String) :
    fresh self seen (file :: candidates) = file :: fresh self (seen ++ [file]) candidates := by
  rw [not_or] at h
  rw [fresh, List.filter_cons_of_pos (by simpa using h), List.eraseDups_cons, List.filter_filter,
    fresh]
  congr 2
  refine List.filter_congr fun x _ => ?_
  by_cases hx : x = file <;> simp [hx, h]

namespace Drains

/-- The loop takes up a whole level, then what that level exports. -/
theorem level {bound candidates later result : List String}
    (h : Drains reexports self bound (candidates ++ later) result) :
    Drains reexports self (bound ++ fresh self bound candidates)
      (later ++ (fresh self bound candidates).flatMap reexports) result := by
  induction candidates generalizing bound later with
  | nil => simpa using h
  | cons file candidates ih =>
    rw [List.cons_append] at h
    cases h with
    | skip hfile rest =>
      rw [fresh_cons_of_old hfile]
      exact ih rest
    | visit hfile rest =>
      rw [fresh_cons_of_new hfile, List.append_cons, List.flatMap_cons, ← List.append_assoc later]
      rw [List.append_assoc] at rest
      exact ih rest

theorem eq_of_nil {bound result : List String} (h : Drains reexports self bound [] result) :
    result = bound := by
  cases h
  rfl

/-- The loop finds files in breadth-first order. -/
theorem breadthFirst {bound candidates result : List String}
    (h : Drains reexports self bound candidates result) :
    BreadthFirst reexports self bound candidates result := by
  -- each level that is not the last binds a file, and no more files are bound than the result has
  induction hn : result.length - bound.length using Nat.strongRecOn
    generalizing bound candidates with
  | ind n ih =>
    rw [← List.append_nil candidates] at h
    have hlevel := h.level
    rw [List.nil_append] at hlevel
    by_cases hfresh : fresh self bound candidates = []
    · rw [hfresh, List.flatMap_nil, List.append_nil] at hlevel
      rw [hlevel.eq_of_nil]
      exact .done hfresh
    · have hlength := hlevel.bound_prefix.length_le
      have hpos := List.length_pos_iff.2 hfresh
      rw [List.length_append] at hlength
      exact .level hfresh (ih _ (by rw [List.length_append]; omega) hlevel rfl)

end Drains

theorem BreadthFirst.fresh_prefix {seen candidates result : List String}
    (h : BreadthFirst reexports self seen candidates result) :
    seen ++ fresh self seen candidates <+: result := by
  induction h with
  | done h => exact ⟨[], by rw [h, List.append_nil, List.append_nil]⟩
  | level h _ ih => exact (List.prefix_append _ _).trans ih

end ImportClosure

/-! ### The files of a request -/

/-- The files reached from `dependencies` by following `import public` of `files`; a position that
no dependency has leads nowhere. -/
inductive Reachable (files : List FileDescriptor) (dependencies : List String) : String → Prop
  | dependency {d : String} (h : d ∈ dependencies) : Reachable files dependencies d
  | reexport {f : FileDescriptor} {position : Int32} {d : String} (hf : f ∈ files)
      (hreach : Reachable files dependencies f.name)
      (hposition : position ∈ f.publicDependencies) (hpos : 0 ≤ position)
      (hd : f.dependencies[position.toInt.toNat]? = some d) : Reachable files dependencies d

/-- What the file of a name among `files` exports again. -/
def reexportsIn (files : List FileDescriptor) (name : String) : List String :=
  ((files.find? fun f => f.name = name).map (·.reexports)).getD []

namespace FileDescriptor

theorem mem_reexports_iff {f : FileDescriptor} {d : String} :
    d ∈ f.reexports ↔ ∃ position ∈ f.publicDependencies, 0 ≤ position ∧
      f.dependencies[position.toInt.toNat]? = some d := by
  have hat : ∀ position, f.dependencyAt? position = some d ↔
      0 ≤ position ∧ f.dependencies[position.toInt.toNat]? = some d := by
    intro position
    unfold dependencyAt?
    split_ifs with hneg
    · simp [Int32.not_le.2 hneg]
    · simp [Int32.not_lt.1 hneg]
  simp only [reexports, List.mem_filterMap, hat]

theorem reexports_subset_dependencies {f : FileDescriptor} {d : String} (h : d ∈ f.reexports) :
    d ∈ f.dependencies := by
  obtain ⟨position, -, -, hd⟩ := mem_reexports_iff.1 h
  exact List.mem_of_getElem? hd

end FileDescriptor

section Request

variable {files : List FileDescriptor} (hnames : (files.map (·.name)).Nodup)

include hnames

/-- The table of a request's files exports what the files export. -/
theorem reexportsOf_registerEach :
    (TypeTable.empty.registerEach files).reexportsOf = reexportsIn files := by
  have htable : (TypeTable.empty.registerEach files).reexportsOf =
      (TypeTable.ofFiles files).reexportsOf := by
    funext name
    rw [TypeTable.reexportsOf, TypeTable.registerEach_reexports, TypeTable.reexportsOf]
    simp [TypeTable.empty]
  funext name
  rw [htable, reexportsIn]
  cases hfind : files.find? fun f => f.name = name with
  | none =>
    refine TypeTable.reexportsOf_ofFiles_of_notMem fun hname => ?_
    obtain ⟨f, hf, hfile⟩ := List.mem_map.1 hname
    simpa [hfile] using List.find?_eq_none.1 hfind f hf
  | some f =>
    obtain ⟨hf, rfl⟩ := (find?_eq_some_iff_mem hnames).1 hfind
    exact TypeTable.reexportsOf_ofFiles hnames hf

theorem mem_reexportsIn_iff {name d : String} :
    d ∈ reexportsIn files name ↔ ∃ f ∈ files, f.name = name ∧ d ∈ f.reexports := by
  rw [reexportsIn]
  constructor
  · intro hd
    cases hfind : files.find? fun f => f.name = name with
    | none => simp [hfind] at hd
    | some f =>
      obtain ⟨hf, hname⟩ := (find?_eq_some_iff_mem hnames).1 hfind
      exact ⟨f, hf, hname, by simpa [hfind] using hd⟩
  · rintro ⟨f, hf, hname, hd⟩
    rw [(find?_eq_some_iff_mem hnames).2 ⟨hf, hname⟩]
    exact hd

/-- A run to the end binds what can be reached. The file itself is left out, and what it exports
again is among its dependencies. -/
theorem ImportClosure.Drains.mem_iff {f : FileDescriptor} (hf : f ∈ files) {result : List String}
    (h : ImportClosure.Drains (reexportsIn files) f.name [] f.dependencies result) {d : String} :
    d ∈ result ↔ d ≠ f.name ∧ Reachable files f.dependencies d := by
  have hself : f.name ∉ result := h.self_notMem List.not_mem_nil
  constructor
  · intro hd
    have hstep : ∀ x, Reachable files f.dependencies x → ∀ y ∈ reexportsIn files x,
        Reachable files f.dependencies y := by
      intro x hx y hy
      obtain ⟨g, hg, rfl, hexport⟩ := (mem_reexportsIn_iff hnames).1 hy
      obtain ⟨position, hposition, hpos, hd⟩ := FileDescriptor.mem_reexports_iff.1 hexport
      exact .reexport hg hx hposition hpos hd
    have hreach := (h.sound hstep (fun x hx => .dependency hx) hd).resolve_left List.not_mem_nil
    exact ⟨fun heq => hself (heq ▸ hd), hreach⟩
  · rintro ⟨hne, hreach⟩
    -- a path of exports may lead through the file itself, whose exports are dependencies of its own
    have hmem : d = f.name ∨ d ∈ result := by
      clear hne
      induction hreach with
      | dependency hd => exact h.mem_of_mem_pending hd
      | @reexport g position d hg _ hposition hpos hd ih =>
        have hexport : d ∈ g.reexports :=
          FileDescriptor.mem_reexports_iff.2 ⟨position, hposition, hpos, hd⟩
        rcases ih with hname | hbound
        · rw [List.inj_on_of_nodup_map hnames hg hf hname] at hexport
          exact h.mem_of_mem_pending (FileDescriptor.reexports_subset_dependencies hexport)
        · refine (h.closed hbound).resolve_left List.not_mem_nil d ?_
          exact (mem_reexportsIn_iff hnames).2 ⟨g, hg, rfl, hexport⟩
    exact hmem.resolve_left hne

end Request

end ProtoTypeScript
