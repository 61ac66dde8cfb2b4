import CallContracts.CommandLine.Outcome

/-!
# The program

Reads the arguments, the environment and the settings files, and prints what comes of them.
-/

namespace CallContracts

def readFileState (path : String) : IO FileState := do
  try
    let bytes ← IO.FS.readBinFile path
    match String.fromUTF8? bytes with
    | some text => return .content text
    | none => return .unreadable "stream did not contain valid UTF-8"
  catch
    | .noFileOrDirectory _ _ _ => return .absent
    | failure => return .unreadable (toString failure)

/-- The directory in which the program runs, or why it is unknown. -/
def currentDirectory : IO (Except String String) := do
  try
    return .ok (← IO.currentDir).toString
  catch failure =>
    return .error (toString failure)

def readSurroundings : IO Surroundings := do
  let directory ← currentDirectory
  let directories :=
    match directory with
    | .ok start => Directory.ancestors Settings.searchedDirectories start
    | .error _ => []
  let files ← directories.mapM fun directory => do
    let path := Directory.join directory Settings.fileName
    return (path, ← readFileState path)
  return {
    logFilter := ← IO.getEnv "QUACKQUACK_LOG"
    directory
    files := fun path => (files.lookup path).getD .absent
    showsStyles := ← (← IO.getStdout).isTty }

end CallContracts

open CallContracts in
/-- Prints the log and the fault to standard error and everything else to standard output. -/
def main (arguments : List String) : IO UInt32 := do
  let outcome := Outcome.ofArguments (← readSurroundings) arguments
  for line in outcome.log do
    IO.eprintln line.text
  IO.print outcome.output
  match outcome with
  | .failed _ fault => IO.eprintln ("Error: " ++ fault.message)
  | .misuse => IO.eprint HelpTopic.program.text
  | _ => pure ()
  return outcome.exitCode.toUInt32
