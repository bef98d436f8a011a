import DocHarvest.Path.Basic

/-!
# Import specifiers

Operations on paths as plain texts, the way an import names another module: its directory, joining,
and normalising.
-/

namespace DocHarvest.Path.Specifier

/-- The text up to and including the last slash. -/
def upToSlash (text : List Char) : List Char :=
  (text.reverse.dropWhile (· != '/')).reverse

/-- The text after the last slash. -/
def fileName (text : List Char) : List Char :=
  (text.reverse.takeWhile (· != '/')).reverse

/-- The directory that a path names its last part in. -/
def directory (text : List Char) : List Char :=
  let head := upToSlash text
  if head.all (· == '/') then head else Text.dropEndWhile (· == '/') head

/-- Two paths joined by a slash; an absolute second path stands for itself. -/
def append (base path : List Char) : List Char :=
  if ['/'].isPrefixOf path then path
  else if base.isEmpty || base.getLast? == some '/' then base ++ path
  else base ++ '/' :: path

/-- Adds a part to parts in reverse order; `..` is kept where nothing can be taken back. -/
def climb (absolute : Bool) (above : List (List Char)) (part : List Char) : List (List Char) :=
  if !isPart part then above
  else if part == ['.', '.'] then
    match above with
    | [] => if absolute then [] else [part]
    | last :: before => if last == ['.', '.'] then part :: above else before
  else part :: above

/-- A path without empty parts, without `.` and without `..` after a part. -/
def normalize (text : List Char) : List Char :=
  let root := rootOf text
  let parts := ((Text.splitChar '/' text).foldl (climb (root != .relative)) []).reverse
  match root.text ++ Text.join ['/'] parts with
  | [] => ['.']
  | normal => normal

/-- Whether the last part of a path has a point after a character that is none. -/
def hasExtension (text : List Char) : Bool :=
  ((fileName text).dropWhile (· == '.')).contains '.'

end DocHarvest.Path.Specifier
