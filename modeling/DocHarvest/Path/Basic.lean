import DocHarvest.Text.Basic

/-!
# Paths

Paths as a root and a list of parts. Reading a path drops empty parts and the part `.`, and keeps
`..`, which only `resolve` follows. Resolving is lexical: `..` takes back the part before it.
-/

namespace DocHarvest

/-- Where a path starts: nowhere, at the root, or at the root written with two slashes. -/
inductive PathRoot
  | relative
  | single
  | double
deriving DecidableEq, Repr, Inhabited

/-- The slashes that a root is written with. -/
def PathRoot.text : PathRoot → List Char
  | .relative => []
  | .single => ['/']
  | .double => ['/', '/']

/-- A path. -/
structure Path where
  root : PathRoot
  parts : List (List Char)
deriving DecidableEq, Repr, Inhabited

namespace Path

/-- The root that a text starts at; more than two slashes count as one. -/
def rootOf : List Char → PathRoot
  | '/' :: '/' :: '/' :: _ => .single
  | '/' :: '/' :: _ => .double
  | '/' :: _ => .single
  | _ => .relative

/-- Whether a part of a path names something. -/
def isPart (part : List Char) : Bool :=
  part != [] && part != ['.']

/-- The path that a text denotes. -/
def ofText (text : String) : Path :=
  ⟨rootOf text.toList, (Text.splitChar '/' text.toList).filter isPart⟩

/-- The text of a path; the empty relative path is `.`. -/
def toText (path : Path) : String :=
  if path.root == .relative && path.parts.isEmpty then "."
  else String.ofList (path.root.text ++ Text.join ['/'] path.parts)

/-- Whether a path starts at a root. -/
def isAbsolute (path : Path) : Bool :=
  path.root != .relative

/-- A path taken from another one on; an absolute path stands for itself. -/
def append (base path : Path) : Path :=
  if path.isAbsolute then path else ⟨base.root, base.parts ++ path.parts⟩

/-- Adds a part to parts in reverse order; `..` takes the last one back. -/
def climb (above : List (List Char)) (part : List Char) : List (List Char) :=
  if part == ['.', '.'] then above.drop 1 else part :: above

/-- The absolute path without `..` that a path denotes from a working directory. -/
def resolve (workingDirectory path : Path) : Path :=
  let absolute := workingDirectory.append path
  ⟨.single, (absolute.parts.foldl climb []).reverse⟩

/-- The path from a base to a path below it. -/
def relativeTo? (base path : Path) : Option Path :=
  if base.root == path.root then
    (base.parts.isPrefixOf? path.parts).map fun parts => ⟨.relative, parts⟩
  else none

/-- Whether a path holds a null character, which no file name does. -/
def hasNull (path : Path) : Bool :=
  path.parts.any (·.contains (Char.ofNat 0))

/-- The last part of a path. -/
def name (path : Path) : List Char :=
  path.parts.getLast?.getD []

/-- The extension of the last part: from its last point on, if something stands on both sides. -/
def extension (path : Path) : String :=
  let reversed := path.name.reverse
  let after := reversed.takeWhile (· != '.')
  let before := (reversed.dropWhile (· != '.')).drop 1
  if after.isEmpty || before.isEmpty then "" else String.ofList ('.' :: after.reverse)

end Path

end DocHarvest
