import WorkspaceLint.CommandLine.Program
import WorkspaceLint.Json.Reader
import WorkspaceLint.Snapshot.Environment

/-!
# The entry of the program

The program takes its arguments from the command line and a snapshot of its surroundings, a JSON
document, from the standard input. It writes what the run writes and ends with the run's exit code.
-/

namespace WorkspaceLint.Main

open WorkspaceLint.CommandLine (ProgramResult runProgram)

/-- The directory that the file tree of a snapshot lies in. -/
def base : Location := ["@"]

/-- Reads a stream to its end, behind what was read already. -/
partial def readRest (stream : IO.FS.Stream) (read : String) : IO String := do
  let line ← stream.getLine
  if line.isEmpty then return read else readRest stream (read ++ line)

/-- Writes what a run wrote, and the fault that left it. -/
def present (result : ProgramResult) : IO UInt32 := do
  (← IO.getStdout).putStr result.written.output
  (← IO.getStderr).putStr result.written.error
  match result.raised with
  | some fault => (← IO.getStderr).putStrLn fault.summary
  | none => pure ()
  return (result.code % 256).toNat.toUInt32

/-- Runs the program with the arguments of its command line. -/
def run (arguments : List String) : IO UInt32 := do
  match Json.read? (← readRest (← IO.getStdin) "") with
  | none =>
    (← IO.getStderr).putStrLn "The snapshot is not a JSON document."
    return 1
  | some snapshot =>
    let terminals : Log.Terminals := ⟨← (← IO.getStdout).isTty, ← (← IO.getStderr).isTty⟩
    present (runProgram (Snapshot.environmentOf base snapshot) terminals arguments)

end WorkspaceLint.Main

/-- The entry of the program. -/
def main (arguments : List String) : IO UInt32 := WorkspaceLint.Main.run arguments
