import DocHarvest.Fault
import DocHarvest.Path.Basic
import DocHarvest.Tree.Basic

/-!
# Files

The files that can be read, by their absolute paths, and reading a file as text.
-/

namespace DocHarvest

/-- The files of a machine, by their absolute paths, and directories that exist without them. -/
structure Workspace where
  files : List (Path × List UInt8) := []
  directories : List Path := []

/-- What a path can lead to. -/
inductive Entry
  | file (bytes : List UInt8)
  | directory

namespace Workspace

/-- Whether there is a directory at a path without `..`: it is listed, or a file lies below it. -/
def isDirectory (workspace : Workspace) (path : Path) : Bool :=
  path.parts.isEmpty || workspace.directories.contains path ||
    workspace.files.any fun (file, _) =>
      file.parts != path.parts && path.parts.isPrefixOf file.parts

/-- What is found at a path without `..`. -/
def entry? (workspace : Workspace) (path : Path) : Option Entry :=
  match workspace.files.lookup path with
  | some bytes => some (.file bytes)
  | none => if workspace.isDirectory path then some .directory else none

/-- The most bytes that the name of a file has. -/
def maxNameBytes : Nat := 255

/-- The most bytes that a path has. -/
def maxPathBytes : Nat := 4095

/--
Follows the rest of a path from a place on, which is given by its parts in reverse order. Whatever
the path goes on after has to be a directory, also when `..` leads out of it again. The faults show
the path as it was given.
-/
def follow (workspace : Workspace) (given : String) (above : List (List Char)) :
    List (List Char) → Except Fault Entry
  | [] =>
      match workspace.entry? ⟨.single, above.reverse⟩ with
      | some entry => .ok entry
      | none => .error (.fileMissing given)
  | part :: rest =>
      match workspace.entry? ⟨.single, above.reverse⟩ with
      | none => .error (.fileMissing given)
      | some (.file _) => .error (.notADirectory given)
      | some .directory =>
          if maxNameBytes < (String.ofList part).utf8ByteSize then .error (.pathTooLong given)
          else workspace.follow given (Path.climb above part) rest

/-- What a path leads to, taken from a directory on. -/
def find (workspace : Workspace) (directory path : Path) : Except Fault Entry :=
  if path.hasNull then .error .nullInPath
  else if maxPathBytes < path.toText.utf8ByteSize then .error (.pathTooLong path.toText)
  else workspace.follow path.toText [] (directory.append path).parts

/-- Line ends of all kinds as newlines. -/
def unifyNewlines : List Char → List Char
  | [] => []
  | '\r' :: '\n' :: rest => '\n' :: unifyNewlines rest
  | '\r' :: rest => '\n' :: unifyNewlines rest
  | character :: rest => character :: unifyNewlines rest

/-- Bytes as text, with line ends of all kinds as newlines. -/
def textOf (bytes : List UInt8) : Except Fault String :=
  match Text.Utf8.firstIll? bytes with
  | some (.ill start stop lead reason) => .error (.illFormed start stop lead reason)
  | _ => .ok (String.ofList (unifyNewlines (Text.Utf8.decode bytes).toList))

/-- The text of the file at an absolute path, if there is one. -/
def text? (workspace : Workspace) (path : Path) : Except Fault (Option String) :=
  match workspace.find path path with
  | .ok (.file bytes) => some <$> textOf bytes
  | .ok .directory => .ok none
  | .error (.pathTooLong given) => .error (.pathTooLong given)
  | .error _ => .ok none

/-- The source in the file at a path, taken from a directory on. -/
def source (workspace : Workspace) (directory path : Path) : Except Fault Source := do
  match ← workspace.find directory path with
  | .file bytes => return .ofBytes bytes
  | .directory => throw (.notAFile path.toText)

end Workspace

end DocHarvest
