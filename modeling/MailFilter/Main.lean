import MailFilter.Command.Run

/-!
The command line: reads the files that a call names, runs the call, and prints what it comes to.
-/

namespace MailFilter.Command

def readFile? (path : String) : IO (Option (String × String)) := do
  try return some (path, ← IO.FS.readFile path)
  catch _ => return none

partial def readAll (stream : IO.FS.Stream) : IO String := do
  let line ← stream.getLine
  if line.isEmpty then return ""
  return line ++ (← readAll stream)

def Escape.message : Escape → String
  | wrongKind => "a value is of the wrong kind"
  | noMember => "a value has no entries"
  | unreadableSettings => "the configuration cannot be read"
  | badMarkup => "a tag closes nothing"

def runHere (args : List String) : IO Result := do
  let names := filesNamed args
  let files ← names.filterMapM readFile?
  let stdin ← if names.contains "-" then readAll (← IO.getStdin) else pure ""
  let logLevel ← IO.getEnv "SIEVE_SIMPLE_LOG_LEVEL"
  return run ⟨args, files, stdin, logLevel⟩

end MailFilter.Command

def main (args : List String) : IO UInt32 := do
  let result ← MailFilter.Command.runHere args
  (← IO.getStdout).putStr result.stdout
  (← IO.getStderr).putStr result.stderr
  if let some e := result.escaped then (← IO.getStderr).putStrLn e.message
  return result.exitCode.toUInt32
