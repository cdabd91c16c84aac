import ProtoTypeScript.Proofs.LoweredTypes

/-!
# Where the errors of a file come from

The fields of a file are taken up one after the other, those of inner messages first, and then the
methods. The first that fails decides.

* `FileDescriptor.loweredFields` lists the fields in that order;
* `FailsLike` says of a computation that it fails as the first item of a list does. It is closed
  under sequences and traversals;
* `ofDescriptor_eq_error_iff` says how a file fails.
-/

namespace ProtoTypeScript

open Outcome

/-! ### Computations that fail with the items of a list -/

section FailsLike

variable {ε α β ι κ : Type} {f : ι → Except ε κ}

/-- The computation fails exactly as the first of the items that fails. -/
def FailsLike (f : ι → Except ε κ) (xs : List ι) (x : Except ε α) : Prop :=
  ∀ e, x = .error e ↔ FirstFailure f xs e

theorem failsLike_ok (f : ι → Except ε κ) (a : α) : FailsLike f [] (.ok a) :=
  fun _ => iff_of_false (fun h => nomatch h) not_firstFailure_nil

theorem failsLike_mapM (f : ι → Except ε κ) (xs : List ι) : FailsLike f xs (xs.mapM f) :=
  fun _ => mapM_eq_error_iff

namespace FailsLike

variable {x : Except ε α} {xs ys : List ι}

/-- It succeeds if all of them do. -/
theorem exists_ok_iff (h : FailsLike f xs x) :
    (∃ a, x = .ok a) ↔ ∀ i ∈ xs, ∃ b, f i = .ok b := by
  cases hx : x with
  | ok a =>
    refine iff_of_true ⟨a, rfl⟩ ?_
    rcases forall_ok_or_firstFailure f xs with hall | ⟨e, he⟩
    · exact hall
    · cases hx.symm.trans ((h e).2 he)
  | error e =>
    refine iff_of_false (fun ⟨a, ha⟩ => nomatch ha) fun hall => ?_
    obtain ⟨i, hi, hfails⟩ := ((h e).1 hx).exists_mem
    obtain ⟨b, hb⟩ := hall i hi
    cases hb.symm.trans hfails

theorem bind (h : FailsLike f xs x) {g : α → Except ε β} (hg : ∀ a, FailsLike f ys (g a)) :
    FailsLike f (xs ++ ys) (x >>= g) := by
  intro e
  rw [bind_eq_error_iff, firstFailure_append_iff, h e]
  refine or_congr_right ⟨?_, ?_⟩
  · rintro ⟨a, ha, hfails⟩
    exact ⟨h.exists_ok_iff.1 ⟨a, ha⟩, (hg a e).1 hfails⟩
  · rintro ⟨hall, hfails⟩
    obtain ⟨a, ha⟩ := h.exists_ok_iff.2 hall
    exact ⟨a, ha, (hg a e).2 hfails⟩

/-- What is computed from a result does not fail. -/
theorem bind_pure (h : FailsLike f xs x) (g : α → β) :
    FailsLike f xs (x >>= fun a => pure (g a)) := by
  have hbind := h.bind fun a => failsLike_ok f (g a)
  rwa [List.append_nil] at hbind

theorem mapM {g : β → Except ε α} {items : β → List ι} {bs : List β}
    (h : ∀ b ∈ bs, FailsLike f (items b) (g b)) : FailsLike f (bs.flatMap items) (bs.mapM g) := by
  induction bs with
  | nil => exact failsLike_ok f []
  | cons b bs ih =>
    rw [List.mapM_cons, List.flatMap_cons]
    exact (h b List.mem_cons_self).bind fun _ =>
      (ih fun c hc => h c (List.mem_cons_of_mem _ hc)).bind_pure _

end FailsLike

end FailsLike

/-! ### Fields in their order -/

/-- The fields of a type, which has some if it is a message. -/
def TypeDescriptor.fields : TypeDescriptor → List FieldDescriptor
  | .enumeration _ => []
  | .message m => m.fields

/-- The fields that get a declaration, in the order in which they are taken up. -/
def FileDescriptor.loweredFields (f : FileDescriptor) : List FieldDescriptor :=
  f.loweredTypes.flatMap (·.descriptor.fields)

theorem FileDescriptor.mem_loweredFields_iff {f : FileDescriptor} {field : FieldDescriptor} :
    field ∈ f.loweredFields ↔
      ∃ t ∈ f.loweredTypes, ∃ m, t.descriptor = .message m ∧ field ∈ m.fields := by
  rw [loweredFields, List.mem_flatMap]
  refine exists_congr fun t => and_congr_right fun _ => ?_
  cases t.descriptor with
  | enumeration e => simp [TypeDescriptor.fields]
  | message m => simp [TypeDescriptor.fields]

theorem flatMap_fields_enumerations (path : List String) (es : List EnumDescriptor) :
    (es.map fun e => (⟨path, .enumeration e⟩ : DeclaredType)).flatMap (·.descriptor.fields) =
      [] := by
  rw [List.flatMap_map]
  exact List.flatMap_eq_nil_iff.2 fun _ _ => rfl

namespace FileScope

variable {s : FileScope}

theorem nestedDeclarations_failsLike {path : List String} {ms : List MessageDescriptor}
    {items : MessageDescriptor → List FieldDescriptor}
    (h : ∀ m ∈ ms, FailsLike s.fieldDeclaration (items m) (s.messageDeclarations path m)) :
    FailsLike s.fieldDeclaration ((ms.filter fun m => !m.mapEntry).flatMap items)
      (s.nestedDeclarations path ms) := by
  induction ms with
  | nil => exact failsLike_ok _ []
  | cons m ms ih =>
    have hrest := ih fun n hn => h n (List.mem_cons_of_mem _ hn)
    rw [nestedDeclarations]
    -- map entries are skipped, so nothing of theirs fails
    by_cases hm : m.mapEntry = true
    · rw [if_pos hm, List.filter_cons_of_neg (by simpa using hm)]
      exact hrest
    · rw [if_neg hm, List.filter_cons_of_pos (by simpa using hm), List.flatMap_cons]
      exact (h m List.mem_cons_self).bind fun _ => hrest.bind_pure _

/-- A message fails with the first field that does, of a message inside it or its own. -/
theorem messageDeclarations_failsLike (path : List String) (m : MessageDescriptor) :
    FailsLike s.fieldDeclaration ((m.loweredTypes path).flatMap (·.descriptor.fields))
      (s.messageDeclarations path m) := by
  induction m using MessageDescriptor.nestedInduction generalizing path with
  | _ m ih =>
    rw [MessageDescriptor.loweredTypes_eq, List.flatMap_append, List.flatMap_append,
      flatMap_fields_enumerations, List.nil_append, List.flatMap_assoc, List.flatMap_singleton]
    cases m with
    | mk name fields nested enums oneofs deprecated mapEntry =>
      rw [messageDeclarations]
      have hnested := nestedDeclarations_failsLike fun n hn => ih n hn (path ++ [name])
      exact hnested.bind fun _ => (failsLike_mapM s.fieldDeclaration fields).bind_pure _

theorem typeDeclarations_failsLike :
    FailsLike s.fieldDeclaration s.file.loweredFields s.typeDeclarations := by
  rw [FileDescriptor.loweredFields, FileDescriptor.loweredTypes, List.flatMap_append,
    flatMap_fields_enumerations, List.nil_append, List.flatMap_assoc]
  exact (FailsLike.mapM fun m _ => messageDeclarations_failsLike [] m).bind_pure _

theorem exists_method_of_rpcDeclarations_eq_error {runtimes : RpcRuntimes} {e : Error}
    (h : s.rpcDeclarations runtimes = .error e) : s.config.noGrpc = false ∧
      ∃ d ∈ s.file.services, ∃ m ∈ d.methods, s.method d.name m = .error e := by
  unfold rpcDeclarations at h
  split_ifs at h with hrpc
  have hgrpc : s.config.noGrpc = false := by
    simp only [hasRpc, Bool.and_eq_true, Bool.not_eq_true'] at hrpc
    exact hrpc.1
  rcases bind_eq_error_iff.1 h with hservices | ⟨services, -, h⟩
  · obtain ⟨d, hd, herror⟩ := exists_of_mapM_eq_error hservices
    rcases bind_eq_error_iff.1 herror with hmethods | ⟨methods, -, herror⟩
    · obtain ⟨m, hm, herror⟩ := exists_of_mapM_eq_error hmethods
      exact ⟨hgrpc, d, hd, m, hm, herror⟩
    · cases herror
  · cases h

end FileScope

/-! ### Files -/

/-- A file fails with the first of its fields that does, and if none does, with a service. -/
theorem SourceFile.ofDescriptor_eq_error_iff {config : Config} {table : TypeTable}
    {version : CompilerVersion} {file : FileDescriptor} {failure : Failure} :
    SourceFile.ofDescriptor config table version file = .error failure ↔
      FirstFailure (FileScope.ofFile config table file).fieldDeclaration file.loweredFields
        failure ∨
      (∀ f ∈ file.loweredFields, ∃ d,
        (FileScope.ofFile config table file).fieldDeclaration f = .ok d) ∧
      ∃ e, failure = .reported e ∧
        (FileScope.ofFile config table file).rpcDeclarations AliasScope.forFile.2.1 =
          .error e := by
  have htypes := (FileScope.ofFile config table file).typeDeclarations_failsLike
  rw [ofDescriptor_eq_bind, bind_eq_error_iff, htypes failure]
  refine or_congr_right ⟨?_, ?_⟩
  · rintro ⟨types, hok, h⟩
    refine ⟨htypes.exists_ok_iff.1 ⟨types, hok⟩, ?_⟩
    rcases bind_eq_error_iff.1 h with hrpc | ⟨services, -, h⟩
    · obtain ⟨e, he, rfl⟩ := report_eq_error_iff.1 hrpc
      exact ⟨e, rfl, he⟩
    · cases h
  · rintro ⟨hall, e, rfl, he⟩
    obtain ⟨types, hok⟩ := htypes.exists_ok_iff.2 hall
    exact ⟨types, hok, bind_eq_error_iff.2 (.inl (report_eq_reported_iff.2 he))⟩

end ProtoTypeScript
