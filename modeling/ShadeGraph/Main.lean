import ShadeGraph.Command.Help
import ShadeGraph.Command.Run

/-!
# The command line

Reads and writes files for the commands, and prints what they answer.
-/

namespace ShadeGraph.Main

def fileAccess : FileAccess IO where
  read path := do
    try return .ok (← IO.FS.readFile path)
    catch
      | .noFileOrDirectory _ _ _ => return .error .missing
      | _ => return .error .unreadable
  createDirs path := do
    try
      IO.FS.createDirAll path
      return true
    catch _ => return false
  write path content := do
    try
      IO.FS.writeFile path content
      return true
    catch _ => return false

def notify (notice : Notice) : IO UInt32 := do
  IO.print notice.printed
  if let .misuse cause := notice then
    IO.eprintln ("error: " ++ cause.message)
  return UInt32.ofNat notice.exitCode

def conclude (outcome : Outcome) : IO UInt32 := do
  IO.print outcome.printed
  outcome.notes.forM IO.eprintln
  match outcome.error? with
  | none => return 0
  | some error =>
    IO.eprintln ("Error: " ++ error.message)
    return 1

end ShadeGraph.Main

def main (arguments : List String) : IO UInt32 := do
  match ShadeGraph.Arguments.read arguments with
  | .error notice => ShadeGraph.Main.notify notice
  | .ok invocation => do ShadeGraph.Main.conclude (← ShadeGraph.Command.run ShadeGraph.Main.fileAccess invocation)
