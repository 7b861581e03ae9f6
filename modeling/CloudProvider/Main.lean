import CloudProvider.Cli.Run
import Std.Time.DateTime.Timestamp

/-!
# The program

Reads the command line, the environment and the files that a command needs, and prints what it
gives. The program has no connection of its own, so every request goes without an answer.
-/

namespace CloudProvider

/-- How many seconds are slept at once. More than 49 days of milliseconds do not fit in 32 bits. -/
def longestSleep : Nat := 86400

/-- A pause, a day at a time. -/
def pause (seconds : Nat) : IO Unit := do
  for _ in [0 : seconds / longestSleep] do
    IO.sleep (1000 * longestSleep).toUInt32
  IO.sleep (1000 * (seconds % longestSleep)).toUInt32

/-- A dialogue with the wire in which no request is answered. -/
def perform {α : Type} : Http.Exchange α → IO α
  | .done a => pure a
  | .ask _ next => perform (next (.error .noAnswer))
  | .log _ rest => perform rest
  | .sleep seconds rest => do
    pause seconds
    perform rest

/-- The wording of the reason why a file or the input cannot be read. -/
def reasonOf : IO.Error → String
  | .noFileOrDirectory _ code reason => s!"{reason} (os error {code})"
  | .inappropriateType _ code reason => s!"{reason} (os error {code})"
  | .permissionDenied _ code reason => s!"{reason} (os error {code})"
  | .invalidArgument _ code reason => s!"{reason} (os error {code})"
  | e => toString e

/-- The bytes of a file. -/
def readFile (path : String) : IO (Except String (List UInt8)) := do
  try return .ok (← IO.FS.readBinFile path).toList
  catch e => return .error (reasonOf e)

/-- The line that is typed at the prompt. -/
def readLine : IO (Except String String) := do
  try return .ok (← (← IO.getStdin).getLine)
  catch e => return .error (reasonOf e)

/-- The variables that a command may look up. -/
def variableNames : List String :=
  [Config.secretIdVariable, Config.secretKeyVariable, Config.regionVariable, "CLICOLOR_FORCE",
   "NO_COLOR", "CLICOLOR"]

/-- A command carried out, with its exit status. -/
def carryOut (i : Cli.Invocation) : IO UInt32 := do
  let environment ← variableNames.filterMapM fun name => do
    return (← IO.getEnv name).map fun v => (name, v)
  let files ← i.files.mapM fun path => do return (path, ← readFile path)
  let seconds ← Std.Time.Timestamp.now
  let isTerminal ← (← IO.getStdout).isTty
  let surroundings : Cli.Surroundings :=
    { environment := fun name => List.lookup name environment
      file := fun path => (List.lookup path files).getD (.error "not read")
      line := .ok ""
      now := seconds.toSecondsSinceUnixEpoch.toInt
      isTerminal }
  let line ← match Cli.prompt? surroundings.palette i with
    | some prompt =>
      IO.print prompt
      (← IO.getStdout).flush
      readLine
    | none => pure (.ok "")
  let outcome ← perform (Cli.run { surroundings with line } i)
  IO.print outcome.stdout
  IO.eprint outcome.stderr
  return outcome.code.toUInt32

end CloudProvider

open CloudProvider in
def main (arguments : List String) : IO UInt32 := do
  match Cli.Invocation.ofArguments? arguments with
  | some i => carryOut i
  | none =>
    IO.eprintln "usage: tccloud [--config FILE] list|show|delete|validate|types|describe ..."
    return 2
