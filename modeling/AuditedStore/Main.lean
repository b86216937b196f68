import AuditedStore.Shell.Session
import Std.Time.DateTime.Timestamp

/-!
# The interactive shell

Reads lines from standard input and prints the answers of a session.
-/

namespace AuditedStore.Shell

/-- The present instant. -/
def currentInstant : IO Instant := do
  let nanos := (← Std.Time.Timestamp.now).toNanosecondsSinceUnixEpoch.val
  pure ⟨nanos / Instant.nanosPerSecond, (nanos % Instant.nanosPerSecond).toNat⟩

/-- A generator of ids that starts anywhere. -/
def randomGenerator : IO ObjectId.Generator := do
  let fixed ← IO.rand 0 (256 ^ 5 - 1)
  let counter ← IO.rand 0 (256 ^ 3 - 1)
  pure ⟨ObjectId.lowBytes fixed 5, by simp, UInt32.ofNat counter⟩

/-- Prints a text at once. -/
def printNow (text : String) : IO Unit := do
  IO.print text
  (← IO.getStdout).flush

/-- Answers the lines of standard input until it ends or the session does. -/
partial def serve (s : Session) : IO Unit := do
  let line ← (← IO.getStdin).getLine
  if line.isEmpty then pure ()
  else
    let (text, next) := s.answer (← currentInstant) line
    printNow text
    match next with
    | some s => serve s
    | none => pure ()

end AuditedStore.Shell

open AuditedStore.Shell in
/-- Runs the shell. -/
def main (args : List String) : IO UInt32 := do
  match Invocation.read args with
  | .invalid =>
    IO.eprintln "error: unexpected arguments"
    pure (UInt32.ofNat misuseCode)
  | .help =>
    printNow (unlines usage)
    pure 0
  | .start o =>
    match Session.start o (← randomGenerator) (← currentInstant) with
    | (text, .ok s) =>
      printNow text
      serve s
      pure 0
    | (text, .error e) =>
      printNow text
      IO.eprintln ("Error: " ++ openFailure e)
      pure (UInt32.ofNat failureCode)
