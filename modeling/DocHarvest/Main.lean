import DocHarvest.Command.Arguments
import DocHarvest.Tree.Reader
import DocHarvest.Value.Reader

/-!
# The program

Documents a file or a piece of code. The syntax tree of the source is read as JSON from standard
input, where the grammar has put it; everything else comes from the arguments, the environment and
the file itself.
-/

namespace DocHarvest

/-- How the program is called. -/
def usage : String :=
  "usage: docharvest [PATH] [--code CODE] [--language NAME] [--test] [--handle-error log|throw] " ++
    "[--root DIR] [--name PATH] [--category NAME] [--json] < TREE"

/-- The directories that an absolute path leads through. -/
def directoriesOf (path : Path) : List Path :=
  (List.range path.parts.length).map fun count =>
    Path.resolve path ⟨path.root, path.parts.take count⟩

/-- The file of a request with the directories on the way to it, if it can be read. -/
def readWorkspace (directory : Path) (path : Option String) : IO Workspace := do
  match path with
  | none => return {}
  | some name =>
      try
        let bytes ← IO.FS.readBinFile name
        let path := Path.ofText name
        return {
          files := [(Path.resolve directory path, bytes.toList)]
          directories := directoriesOf (directory.append path) }
      catch _ => return {}

/-- The syntax tree on standard input; without one the program is empty. -/
def readTree : IO Parsed := do
  let text ← (← IO.getStdin).readToEnd
  let tree := (Value.ofJson? text).bind Tree.ofValue?
  return ⟨tree.getD (.mk "program" true none 0 0 []), false⟩

/-- Runs the command with the files and the environment of the machine. -/
def runCommand (options : CommandOptions) : IO UInt32 := do
  let directory := Path.ofText (← IO.currentDir).toString
  let workspace ← readWorkspace directory options.request.path
  let parsed ← readTree
  let environment : Environment :=
    { handleError := ← IO.getEnv "CODEX_DOCS_HANDLE_ERROR"
      root := ← IO.getEnv "CODEX_DOCS_ROOT"
      directory }
  let width := ((← IO.getEnv "COLUMNS").bind String.toNat?).getD 80
  let (outcome, messages) :=
    options.runWith (Report.console (some width)) ⟨environment, workspace, fun _ => parsed⟩
  for message in messages do
    IO.eprintln message.text
  match outcome with
  | .ok result =>
      IO.print result.output
      return result.exitCode.toUInt32
  | .error fault =>
      IO.eprintln fault.message
      return 1

end DocHarvest

/-- Reads the arguments and runs the command. -/
def main (arguments : List String) : IO UInt32 := do
  match DocHarvest.CommandOptions.ofArguments? arguments with
  | some options => DocHarvest.runCommand options
  | none =>
      IO.eprintln DocHarvest.usage
      return 2
