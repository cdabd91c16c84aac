import ProtoTypeScript.Wire.Response

/-!
# The command on bytes

What the command does with the bytes that it is given: it writes the response to a request and exits
with 0; for bytes that are no request it writes none and exits with 1; and if the request leads to a
recursion without an end, it is stopped before it has written anything or could exit.
-/

namespace ProtoTypeScript

/-- What a run of the command comes to. -/
structure CommandResult where
  /-- The code that the command exits with, unless it is stopped. -/
  exitCode : Option UInt32
  /-- The response that is written, if there is one. -/
  response : Option (List UInt8)
  deriving DecidableEq, Repr

/-- The run of the command on its input. -/
def runCommand (input : List UInt8) : CommandResult :=
  match Request.decode? input with
  | none => ⟨some 1, none⟩
  | some r =>
    match r.answer? with
    | none => ⟨none, none⟩
    | some response => ⟨some 0, some response.encode⟩

theorem runCommand_of_answer? {input : List UInt8} {r : Request} {response : Response}
    (h : Request.decode? input = some r) (hanswer : r.answer? = some response) :
    runCommand input = ⟨some 0, some response.encode⟩ := by
  rw [runCommand, h]
  dsimp only
  rw [hanswer]

theorem runCommand_of_decode?_eq_none {input : List UInt8} (h : Request.decode? input = none) :
    runCommand input = ⟨some 1, none⟩ := by
  rw [runCommand, h]

/-- A command that exits has written what `respondTo?` answers. -/
theorem respondTo?_eq_response {input : List UInt8} {code : UInt32}
    (h : (runCommand input).exitCode = some code) :
    respondTo? input = (runCommand input).response := by
  unfold runCommand at h ⊢
  unfold respondTo?
  cases hdecode : Request.decode? input with
  | none => rfl
  | some r =>
    rw [hdecode] at h
    cases hanswer : r.answer? with
    | none => simp [hanswer] at h
    | some response => simp [hanswer, Request.respond_of_answer? hanswer]

end ProtoTypeScript
