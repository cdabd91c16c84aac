import ProtoTypeScript.Proofs.DeclaredTypes
import ProtoTypeScript.Proofs.Lowering

/-!
# The path of the enclosing messages as a stack

`FileScope.messageDeclarations` is told the names of the messages around the one it declares. In
`Lowering` they are a state instead: one stack for the whole file, on which a message puts its name
before what is inside it and from which it takes the name afterwards.

`run_message` says that both declare the same, and that a message leaves the stack as it found it.
-/

namespace ProtoTypeScript

/-- Lowering with the names of the enclosing messages on a stack, the innermost last. -/
abbrev Lowering := StateT (List String) (Except Failure)

namespace Lowering

/-- Enters a message. -/
def push (name : String) : Lowering Unit := modify (· ++ [name])

/-- Leaves the innermost message. -/
def pop : Lowering Unit := modify List.dropLast

mutual

/-- The declarations of a message inside the messages on the stack. -/
def message (s : FileScope) : MessageDescriptor → Lowering (List Declaration)
  | ⟨name, fields, nested, enums, oneofs, deprecated, mapEntry⟩ => do
    let outer ← get
    push name
    let inner ← get
    let messages ← nestedMessages s nested
    pop
    let declared ← liftM (fields.mapM s.fieldDeclaration)
    let m := s.messageClass outer
      ⟨name, fields, nested, enums, oneofs, deprecated, mapEntry⟩ declared
    return s.placeNested m
      ((enums.map fun e => .enumeration (s.enumDeclaration inner e)) ++ messages)

/-- The declarations of the messages inside the messages on the stack, without map entries. -/
def nestedMessages (s : FileScope) : List MessageDescriptor → Lowering (List Declaration)
  | [] => return []
  | m :: ms =>
    if m.mapEntry then nestedMessages s ms
    else do
      let first ← message s m
      let rest ← nestedMessages s ms
      return first ++ rest

end

variable {s : FileScope}

theorem run_nestedMessages {ms : List MessageDescriptor}
    (h : ∀ m ∈ ms, ∀ path, (message s m).run path =
      (s.messageDeclarations path m).map fun ds => (ds, path)) (path : List String) :
    (nestedMessages s ms).run path = (s.nestedDeclarations path ms).map fun ds => (ds, path) := by
  induction ms with
  | nil => rfl
  | cons m ms ih =>
    have hrest := ih fun n hn => h n (List.mem_cons_of_mem _ hn)
    rw [nestedMessages, FileScope.nestedDeclarations]
    by_cases hm : m.mapEntry = true
    · rw [if_pos hm, if_pos hm, hrest]
    · rw [if_neg hm, if_neg hm, StateT.run_bind, h m List.mem_cons_self]
      cases s.messageDeclarations path m with
      | error e => rfl
      | ok first =>
        change (nestedMessages s ms >>= fun rest => pure (first ++ rest)).run path = _
        rw [StateT.run_bind, hrest]
        cases s.nestedDeclarations path ms <;> rfl

/-- A message is declared as with its path given, and leaves the stack as it was. -/
theorem run_message (m : MessageDescriptor) (path : List String) :
    (message s m).run path = (s.messageDeclarations path m).map fun ds => (ds, path) := by
  induction m using MessageDescriptor.nestedInduction generalizing path with
  | _ m ih =>
    cases m with
    | mk name fields nested enums oneofs deprecated mapEntry =>
      have hnested := run_nestedMessages ih (path ++ [name])
      rw [message, FileScope.messageDeclarations]
      simp only [push, pop, StateT.run_bind, StateT.run_get, StateT.run_modify, pure_bind, hnested]
      cases s.nestedDeclarations (path ++ [name]) nested with
      | error e => rfl
      | ok messages =>
        cases fields.mapM s.fieldDeclaration with
        | error e => rfl
        | ok declared =>
          -- the name that was pushed is the one that is popped
          simp only [Except.map, bind, Except.bind, List.dropLast_concat]
          rfl

/-- Message by message, the stack is as it was. -/
theorem run_messages (ms : List MessageDescriptor) (path : List String) :
    (ms.mapM (message s)).run path =
      (ms.mapM (s.messageDeclarations path)).map fun parts => (parts, path) := by
  induction ms with
  | nil => rfl
  | cons m ms ih =>
    rw [List.mapM_cons, List.mapM_cons, StateT.run_bind, run_message]
    cases s.messageDeclarations path m with
    | error e => rfl
    | ok part =>
      change (ms.mapM (message s) >>= fun parts => pure (part :: parts)).run path = _
      rw [StateT.run_bind, ih]
      cases ms.mapM (s.messageDeclarations path) <;> rfl

end Lowering

end ProtoTypeScript
