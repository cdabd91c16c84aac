import Mathlib.Data.List.DropRight
import ProtoTypeScript.Proofs.Aliases
import ProtoTypeScript.Proofs.Outcome
import ProtoTypeScript.Proofs.TextOrder

/-!
# Histories of alias scopes

A scope is asked for unique names, given identifiers for dependencies, asked for them, and emptied.
Everything that it answers is settled by the operations since it was last emptied.

* `perform` is one operation, `after` the scope after a history, and `answers` what the operations
  of a history were answered;
* `Reflects` says what a scope knows of operations. `Reflects.perform` is the step and
  `reflects_after` the run: a scope reflects its `recent` operations;
* `uniqueName_inj`: a base and a number can be read off the name made of them, since no digit is an
  underscore. Names are counted in 32 bits, so the number that is read off is that of names as long
  as there are fewer than `2 ^ 32`;
* `after_laws` puts together what holds after any history;
* `exists_afterFrom_of_lower`: what generated files do with the scope of their run is a history,
  with a reset behind each of them.
-/

namespace ProtoTypeScript.AliasScope

/-! ### Operations -/

/-- What is done with a scope. -/
inductive Operation
  | uniqueName (base : String)
  | bind (dependency identifier : String)
  | identifierFor (dependency : String)
  /-- Start the next file. -/
  | reset
  deriving DecidableEq, Repr

/-- The scope after an operation, and the answer if there is one. -/
def perform (s : AliasScope) : Operation → AliasScope × Option String
  | .uniqueName base => ((s.uniqueName base).2, some (s.uniqueName base).1)
  | .bind dependency identifier => (s.bind dependency identifier, none)
  | .identifierFor dependency => (s, s.identifierFor? dependency)
  | .reset => (s.reset, none)

/-- The scope after operations. -/
def afterFrom (s : AliasScope) (ops : List Operation) : AliasScope :=
  ops.foldl (fun s op => (s.perform op).1) s

/-- The answers to operations. -/
def answersFrom (s : AliasScope) : List Operation → List (Option String)
  | [] => []
  | op :: ops => (s.perform op).2 :: (s.perform op).1.answersFrom ops

/-- A new scope after operations. -/
def after (ops : List Operation) : AliasScope :=
  empty.afterFrom ops

/-- The answers of a new scope to operations. -/
def answers (ops : List Operation) : List (Option String) :=
  empty.answersFrom ops

/-- The operations since the scope was last emptied. -/
def recent (ops : List Operation) : List Operation :=
  ops.rtakeWhile (· != .reset)

/-- The identifier that an operation binds to a dependency. -/
def Operation.boundTo? (dependency : String) : Operation → Option String
  | .bind d identifier => if d = dependency then some identifier else none
  | _ => none

/-- The identifier that was bound to a dependency last. -/
def lastBound? (dependency : String) (ops : List Operation) : Option String :=
  (ops.filterMap (Operation.boundTo? dependency)).getLast?

/-- Whether an operation leaves something in the scope. -/
def Operation.records : Operation → Bool
  | .uniqueName _ => true
  | .bind _ _ => true
  | _ => false

/-! ### Histories -/

theorem afterFrom_append (s : AliasScope) (xs ys : List Operation) :
    s.afterFrom (xs ++ ys) = (s.afterFrom xs).afterFrom ys :=
  List.foldl_append

theorem answersFrom_append (s : AliasScope) (xs ys : List Operation) :
    s.answersFrom (xs ++ ys) = s.answersFrom xs ++ (s.afterFrom xs).answersFrom ys := by
  induction xs generalizing s with
  | nil => rfl
  | cons x xs ih =>
    rw [List.cons_append, answersFrom, answersFrom, ih]
    rfl

/-- Each operation is answered by the scope after those before it. -/
theorem getElem?_answersFrom (s : AliasScope) (ops : List Operation) (i : ℕ) :
    (s.answersFrom ops)[i]? = ops[i]?.map fun op => ((s.afterFrom (ops.take i)).perform op).2 := by
  induction ops generalizing s i with
  | nil => rfl
  | cons op ops ih =>
    cases i with
    | zero => rfl
    | succ i =>
      rw [answersFrom, List.getElem?_cons_succ, List.getElem?_cons_succ, ih]
      rfl

theorem recent_append_reset (ops : List Operation) : recent (ops ++ [.reset]) = [] :=
  List.rtakeWhile_concat_neg _ _ _ (by decide)

theorem recent_append_of_ne {op : Operation} (h : op ≠ .reset) (ops : List Operation) :
    recent (ops ++ [op]) = recent ops ++ [op] :=
  List.rtakeWhile_concat_pos _ _ _ (by simpa using h)

/-- Without a reset the operations are all recent. -/
theorem recent_append_of_notMem {ops more : List Operation} (h : .reset ∉ more) :
    recent (ops ++ more) = recent ops ++ more := by
  induction more using List.reverseRecOn with
  | nil => rw [List.append_nil, List.append_nil]
  | append_singleton more op ih =>
    rw [List.mem_append, not_or, List.mem_singleton] at h
    rw [← List.append_assoc, recent_append_of_ne (Ne.symm h.2), ih h.1, List.append_assoc]

/-! ### Names -/

/-- The name that a base and a number make. -/
theorem uniqueName_inj {base base' : String} {n n' : ℕ}
    (h : base ++ "_" ++ toString n = base' ++ "_" ++ toString n') : base = base' ∧ n = n' := by
  -- Digits hold no underscore, so the last one in the name is the one that was put there.
  have hdigits : ∀ k : ℕ, '_' ∉ (toString k).toList.reverse := fun k hmem =>
    absurd (Text.Numeral.isDigit_of_mem_toString (List.mem_reverse.1 hmem)) (by decide)
  have hsplit : ∀ (b : String) (k : ℕ),
      Text.splitOnce? '_' (b ++ "_" ++ toString k).toList.reverse =
        some ((toString k).toList.reverse, b.toList.reverse) := by
    intro b k
    rw [String.toList_append, String.toList_append, List.reverse_append, List.reverse_append]
    exact Text.splitOnce?_append (hdigits k) b.toList.reverse
  have hboth := hsplit base n
  rw [h, hsplit, Option.some.injEq, Prod.mk.injEq, List.reverse_inj, List.reverse_inj,
    String.toList_inj, String.toList_inj] at hboth
  exact ⟨hboth.2.symm, (Nat.repr_inj.1 hboth.1).symm⟩

/-! ### Bindings -/

theorem mem_keys_insertBinding {key value : String} {bindings : List (String × String)}
    {d : String} : d ∈ (insertBinding key value bindings).map (·.1) ↔
      d = key ∨ d ∈ bindings.map (·.1) := by
  induction bindings with
  | nil => simp [insertBinding]
  | cons head rest ih =>
    obtain ⟨k, v⟩ := head
    unfold insertBinding
    split_ifs with hlt heq
    · simp
    · subst heq
      simp
    · rw [List.map_cons, List.mem_cons, ih, List.map_cons, List.mem_cons]
      exact or_left_comm

/-- A binding is put where its key belongs. -/
theorem pairwise_insertBinding {key value : String} {bindings : List (String × String)}
    (h : (bindings.map (·.1)).Pairwise (· < ·)) :
    ((insertBinding key value bindings).map (·.1)).Pairwise (· < ·) := by
  induction bindings with
  | nil => exact List.pairwise_singleton _ _
  | cons head rest ih =>
    obtain ⟨k, v⟩ := head
    have hcons := List.pairwise_cons.1 h
    unfold insertBinding
    split_ifs with hlt heq
    · refine List.pairwise_cons.2 ⟨fun d hd => ?_, h⟩
      rcases List.mem_cons.1 hd with rfl | hd
      · exact hlt
      · exact String.lt_trans hlt (hcons.1 d hd)
    · subst heq
      exact h
    · refine List.pairwise_cons.2 ⟨fun d hd => ?_, ih hcons.2⟩
      rcases mem_keys_insertBinding.1 hd with rfl | hd
      · exact Std.lt_of_le_of_ne (String.not_lt.1 hlt) (Ne.symm heq)
      · exact hcons.1 d hd

theorem insertBinding_ne_nil (key value : String) (bindings : List (String × String)) :
    insertBinding key value bindings ≠ [] := by
  cases bindings with
  | nil => exact List.cons_ne_nil _ _
  | cons head rest =>
    unfold insertBinding
    split_ifs
    all_goals exact List.cons_ne_nil _ _

/-! ### What a scope knows -/

/-- What a scope knows of the operations since it was empty. -/
structure Reflects (s : AliasScope) (ops : List Operation) : Prop where
  identifier : ∀ d, s.identifierFor? d = lastBound? d ops
  mem : ∀ d, d ∈ s.dependencies ↔ ∃ identifier, .bind d identifier ∈ ops
  ascending : s.dependencies.Pairwise (· < ·)
  count : ∀ base, s.count base = UInt32.ofNat (ops.count (.uniqueName base))
  isEmpty : s.isEmpty = true ↔ ∀ op ∈ ops, op.records = false

theorem reflects_empty : Reflects empty [] where
  identifier _ := rfl
  mem _ := by simp [empty, dependencies]
  ascending := .nil
  count _ := rfl
  isEmpty := by simp [empty, AliasScope.isEmpty]

theorem lastBound?_append_singleton (d : String) (ops : List Operation) (op : Operation) :
    lastBound? d (ops ++ [op]) = ((op.boundTo? d).or (lastBound? d ops)) := by
  unfold lastBound?
  rw [List.filterMap_append, List.getLast?_append]
  cases hop : op.boundTo? d with
  | none => simp [hop]
  | some identifier => simp [hop]

theorem lookup_filter_of_ne {key other : String} (h : other ≠ key) (xs : List (String × UInt32)) :
    (xs.filter (·.1 ≠ key)).lookup other = xs.lookup other := by
  induction xs with
  | nil => rfl
  | cons head rest ih =>
    obtain ⟨k, v⟩ := head
    by_cases hk : k = key
    · have hother : (other == k) = false := by simpa [hk] using h
      rw [List.filter_cons_of_neg (by simp [hk]), List.lookup_cons, hother, ih]
    · rw [List.filter_cons_of_pos (by simpa using hk), List.lookup_cons, List.lookup_cons, ih]

theorem count_countUp (s : AliasScope) (base other : String) :
    (s.countUp base).count other = if other = base then s.count base + 1 else s.count other := by
  split_ifs with h
  · rw [h, count_countUp_self]
  · have hother : (other == base) = false := by simpa using h
    rw [count, countUp, List.lookup_cons, hother, lookup_filter_of_ne h]
    rfl

namespace Reflects

variable {s : AliasScope} {ops : List Operation}

theorem uniqueName (h : Reflects s ops) (base : String) :
    Reflects (s.countUp base) (ops ++ [.uniqueName base]) where
  identifier d := by
    rw [identifierFor?_countUp, h.identifier, lastBound?_append_singleton]
    rfl
  mem d := by
    have hmem : d ∈ (s.countUp base).dependencies ↔ d ∈ s.dependencies := Iff.rfl
    simp [hmem, h.mem]
  ascending := h.ascending
  count other := by
    rw [count_countUp, List.count_append, List.count_singleton, UInt32.ofNat_add, ← h.count]
    split_ifs with heq hbeq hbeq
    · rw [heq]
      rfl
    · simp [heq] at hbeq
    · simp [Ne.symm heq] at hbeq
    · exact (UInt32.add_zero _).symm
  isEmpty := by simp [AliasScope.isEmpty, countUp, Operation.records]

theorem bind (h : Reflects s ops) (dependency identifier : String) :
    Reflects (s.bind dependency identifier) (ops ++ [.bind dependency identifier]) where
  identifier d := by
    rw [lastBound?_append_singleton, Operation.boundTo?]
    split_ifs with hd
    · rw [hd, identifierFor?_bind_self]
      rfl
    · rw [identifierFor?_bind_of_ne s identifier (Ne.symm hd), h.identifier]
      rfl
  mem d := by
    have hmem : d ∈ (s.bind dependency identifier).dependencies ↔
        d = dependency ∨ d ∈ s.dependencies := mem_keys_insertBinding
    rw [hmem, h.mem]
    simp [or_comm, exists_or]
  ascending := pairwise_insertBinding h.ascending
  count base := by
    rw [count_bind, h.count, List.count_append]
    simp
  isEmpty := by
    simp [AliasScope.isEmpty, AliasScope.bind, insertBinding_ne_nil, Operation.records]

theorem identifierFor (h : Reflects s ops) (dependency : String) :
    Reflects s (ops ++ [.identifierFor dependency]) where
  identifier d := by
    rw [h.identifier, lastBound?_append_singleton]
    rfl
  mem d := by simp [h.mem]
  ascending := h.ascending
  count base := by
    rw [h.count, List.count_append]
    simp
  isEmpty := by
    rw [h.isEmpty, List.forall_mem_append, List.forall_mem_singleton]
    exact (and_iff_left rfl).symm

/-- An operation that does not empty the scope is one more that it knows of. -/
theorem perform (h : Reflects s ops) {op : Operation} (hop : op ≠ .reset) :
    Reflects (s.perform op).1 (ops ++ [op]) := by
  cases op with
  | uniqueName base => exact h.uniqueName base
  | bind dependency identifier => exact h.bind dependency identifier
  | identifierFor dependency => exact h.identifierFor dependency
  | reset => exact absurd rfl hop

end Reflects

/-- After any history the scope knows of the operations since it was last emptied. -/
theorem reflects_after (ops : List Operation) : Reflects (after ops) (recent ops) := by
  induction ops using List.reverseRecOn with
  | nil => exact reflects_empty
  | append_singleton ops op ih =>
    have hstep : after (ops ++ [op]) = ((after ops).perform op).1 := afterFrom_append _ _ _
    rw [hstep]
    -- A reset is the one operation that does not go on from what was reflected before.
    by_cases hop : op = .reset
    · rw [hop, recent_append_reset]
      exact reflects_empty
    · rw [recent_append_of_ne hop]
      exact ih.perform hop

/-- The name that is made next counts those made from its base, in 32 bits. -/
theorem uniqueName_after (ops : List Operation) (base : String) :
    ((after ops).uniqueName base).1 = base ++ "_" ++
      toString (UInt32.ofNat (1 + (recent ops).count (.uniqueName base))).toNat := by
  rw [AliasScope.uniqueName, (reflects_after ops).count, Nat.add_comm, UInt32.ofNat_add]
  rfl

/-- Two names made without a reset between them are different: one counts the other. -/
theorem uniqueName_after_ne (before : List Operation) {between : List Operation}
    (base base' : String) (h : .reset ∉ between)
    (hcount : 1 + between.count (.uniqueName base) < UInt32.size) :
    ((after before).uniqueName base).1 ≠
      ((after (before ++ .uniqueName base :: between)).uniqueName base').1 := by
  have hmore : Operation.reset ∉ .uniqueName base :: between := by simpa using h
  rw [uniqueName_after, uniqueName_after, recent_append_of_notMem hmore]
  intro heq
  obtain ⟨rfl, hnumber⟩ := uniqueName_inj heq
  have hsize : UInt32.size = 2 ^ 32 := rfl
  rw [List.count_append, List.count_cons_self, UInt32.toNat_ofNat', UInt32.toNat_ofNat'] at hnumber
  omega

/-! ### Any history -/

/-- What holds after a history of operations on a new scope. -/
structure HistoryLaws (ops : List Operation) : Prop where
  /-- Each operation is answered by the scope after those before it. -/
  answered : ∀ i, (answers ops)[i]? = ops[i]?.map fun op => ((after (ops.take i)).perform op).2
  /-- A dependency has the identifier that was bound to it last. -/
  identifier : ∀ d, (after ops).identifierFor? d = lastBound? d (recent ops)
  /-- The dependencies are those with an identifier. -/
  mem : ∀ d, d ∈ (after ops).dependencies ↔ ∃ identifier, .bind d identifier ∈ recent ops
  /-- They are in the order of their bytes, each once. -/
  ascending : (after ops).dependencies.Pairwise fun d e => Wire.utf8 d < Wire.utf8 e
  /-- The next name has the number of names made from its base, itself counted. -/
  uniqueName : ∀ base, 1 + (recent ops).count (.uniqueName base) < UInt32.size →
    ((after ops).uniqueName base).1 =
      base ++ "_" ++ toString (1 + (recent ops).count (.uniqueName base))
  /-- Two names made without a reset between them are different, whatever their bases. -/
  distinct : ∀ (i j : ℕ) base base', ops.count (.uniqueName base) < UInt32.size → i < j →
    ops[i]? = some (Operation.uniqueName base) → ops[j]? = some (Operation.uniqueName base') →
    (∀ k, i < k → k < j → ops[k]? ≠ some Operation.reset) → (answers ops)[i]? ≠ (answers ops)[j]?
  /-- Nothing is in the scope unless something was put there. -/
  isEmpty : (after ops).isEmpty = true ↔ ∀ op ∈ recent ops, op.records = false
  /-- What follows a reset is answered as by a new scope. -/
  fresh : ∀ later, after (ops ++ .reset :: later) = after later ∧
    answers (ops ++ .reset :: later) = answers ops ++ none :: answers later

/-- The names made at two places of a history, with no reset between them. -/
theorem answers_ne_of_lt {ops : List Operation} {i j : ℕ} {base base' : String}
    (hcount : ops.count (.uniqueName base) < UInt32.size) (hlt : i < j)
    (hi : ops[i]? = some (Operation.uniqueName base))
    (hj : ops[j]? = some (Operation.uniqueName base'))
    (hbetween : ∀ k, i < k → k < j → ops[k]? ≠ some Operation.reset) :
    (answers ops)[i]? ≠ (answers ops)[j]? := by
  -- the history up to the later call is the earlier call with no reset behind it
  have htake : ops.take j =
      ops.take i ++ .uniqueName base :: (ops.drop (i + 1)).take (j - (i + 1)) := by
    obtain ⟨hlength, hget⟩ := List.getElem?_eq_some_iff.1 hi
    rw [← hget, ← List.take_append_drop i (ops.take j), List.take_take, Nat.min_eq_left hlt.le,
      List.drop_take, List.drop_eq_getElem_cons hlength]
    obtain ⟨n, rfl⟩ := Nat.exists_eq_add_of_lt hlt
    rw [show i + n + 1 - i = n + 1 by omega, show i + n + 1 - (i + 1) = n by omega]
    rfl
  have hreset : Operation.reset ∉ (ops.drop (i + 1)).take (j - (i + 1)) := by
    intro hmem
    obtain ⟨k, hk⟩ := List.getElem?_of_mem hmem
    rw [List.getElem?_take] at hk
    split_ifs at hk with hlt'
    rw [List.getElem?_drop] at hk
    exact hbetween (i + 1 + k) (by omega) (by omega) hk
  have hbelow := (ops.take_sublist j).count_le (Operation.uniqueName base)
  rw [htake, List.count_append, List.count_cons_self] at hbelow
  have hne := uniqueName_after_ne (ops.take i) base base' hreset (by omega)
  rw [← htake] at hne
  rw [answers, getElem?_answersFrom, getElem?_answersFrom, hi, hj]
  simpa [perform, after] using hne

/-- **What a scope answers is settled by the operations since it was last emptied**, after every
history. -/
theorem after_laws (ops : List Operation) : HistoryLaws ops where
  answered := getElem?_answersFrom empty ops
  identifier := (reflects_after ops).identifier
  mem := (reflects_after ops).mem
  ascending := (reflects_after ops).ascending.imp Wire.utf8_lt_utf8
  uniqueName base hcount := by rw [uniqueName_after, UInt32.toNat_ofNat_of_lt' hcount]
  distinct _ _ _ _ hcount hlt hi hj hbetween := answers_ne_of_lt hcount hlt hi hj hbetween
  isEmpty := (reflects_after ops).isEmpty
  fresh later := by
    rw [after, answers, afterFrom_append, answersFrom_append]
    exact ⟨rfl, rfl⟩

/-- A base may look like a name that was made before. -/
def reedHistory : List Operation :=
  [.uniqueName "reed_1", .uniqueName "reed", .uniqueName "reed_1", .reset, .uniqueName "reed"]

theorem after_laws_reed :
    (∀ base, reedHistory.count (.uniqueName base) < UInt32.size) ∧
    (answers reedHistory)[1]? ≠ (answers reedHistory)[2]? ∧
    ((after reedHistory).uniqueName "reed").1 = "reed_2" := by
  have hcount : ∀ base, reedHistory.count (.uniqueName base) < UInt32.size := fun base =>
    Nat.lt_of_le_of_lt List.count_le_length (by decide)
  have hlaws := after_laws reedHistory
  have hrecent : (recent reedHistory).count (.uniqueName "reed") = 1 := by decide
  refine ⟨hcount, hlaws.distinct 1 2 _ _ (hcount "reed") (by decide) rfl rfl ?_, ?_⟩
  · omega
  · rw [hlaws.uniqueName "reed" (by rw [hrecent]; decide), hrecent]
    rfl

/-! ### The scope of a run -/

/-- Each import is a name that is made and bound. -/
theorem exists_afterFrom_of_importAll (s : AliasScope) (importer : ModulePath) (ds : List String) :
    ∃ ops, Operation.reset ∉ ops ∧ (s.importAll importer ds).1 = s.afterFrom ops := by
  induction ds generalizing s with
  | nil => exact ⟨[], List.not_mem_nil, rfl⟩
  | cons d ds ih =>
    obtain ⟨ops, hops, hafter⟩ := ih (s.importOne importer d).1
    refine ⟨.uniqueName "dependency" :: .bind d (s.uniqueName "dependency").1 :: ops, ?_, hafter⟩
    simpa using hops

/-- What a file does with the scope is a history without a reset, and the next file starts with the
scope behind a reset. -/
theorem exists_afterFrom_of_lower {config : Config} {table : TypeTable} {version : CompilerVersion}
    {s s' : AliasScope} {file : FileDescriptor} {tree : SourceFile}
    (h : SourceFile.lower config table version s file = .ok (tree, s')) :
    ∃ ops, Operation.reset ∉ ops ∧ s' = s.afterFrom ops ∧
      s'.reset = s.afterFrom (ops ++ [.reset]) := by
  obtain ⟨types, -, h⟩ := Outcome.bind_eq_ok_iff.1 h
  obtain ⟨services, -, h⟩ := Outcome.bind_eq_ok_iff.1 h
  obtain ⟨-, rfl⟩ := Prod.mk.inj (Outcome.pure_eq_ok_iff.1 h)
  obtain ⟨ops, hops, hafter⟩ := exists_afterFrom_of_importAll s.startFile.2.2
    (ModulePath.ofFile file.name) (ImportClosure.namesFrom s.startFile.2.2.dependencies
      table.reexports file.name file.dependencies)
  refine ⟨.uniqueName "pb" :: .uniqueName "grpc" :: .uniqueName "grpc_web" :: ops, by simpa, hafter,
    ?_⟩
  rw [afterFrom_append]
  exact congrArg reset hafter

end ProtoTypeScript.AliasScope
