import ProtoTypeScript.Command

/-!
# The command

The command reads a request from standard input and writes the response to standard output. Bytes
that are no request are reported on standard error, with exit code 1.
-/

namespace ProtoTypeScript

/-- All bytes of a stream, after those already read. -/
partial def readAll (stream : IO.FS.Stream) (read : ByteArray) : IO ByteArray := do
  let chunk ← stream.read 65536
  if chunk.isEmpty then return read
  else readAll stream (read ++ chunk)

end ProtoTypeScript

/-- Answers the request on standard input. -/
def main : IO UInt32 := do
  let input ← ProtoTypeScript.readAll (← IO.getStdin) ByteArray.empty
  match ProtoTypeScript.runCommand input.data.toList with
  | ⟨some code, some response⟩ =>
    let stdout ← IO.getStdout
    stdout.write ⟨response.toArray⟩
    stdout.flush
    return code
  | ⟨some code, none⟩ =>
    IO.eprintln "invalid CodeGeneratorRequest"
    return code
  -- By now the stack is used up and the process gone, with the code of an abort.
  | ⟨none, _⟩ => return 134
