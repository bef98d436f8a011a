import DocHarvest.Text.Width

/-!
# Wrapping

A line that is too wide is broken between words. A word takes the blanks after it along; the first
word also has the blanks before it. Blanks that do not fit at the end of a line are dropped. A word
that is wider than a whole line is either folded onto the next lines or cut.
-/

namespace DocHarvest.Report

/-- What happens to a word that is wider than a line. -/
inductive Overflow
  /-- It goes on in the next line. -/
  | fold
  /-- It is cut and ends in an ellipsis. -/
  | ellipsis
deriving DecidableEq, Repr

/-- Cuts a text wherever a blank is followed by another character. -/
def cutAfterBlanks : List Char → List (List Char)
  | [] => []
  | [character] => [[character]]
  | character :: next :: rest =>
      if Text.isBlank character && !Text.isBlank next then
        [character] :: cutAfterBlanks (next :: rest)
      else Text.extendFirst character (cutAfterBlanks (next :: rest))

/-- The words of a line with the blanks around them. -/
def words (line : List Char) : List (List Char) :=
  match cutAfterBlanks line with
  | first :: second :: rest =>
      if first.all Text.isBlank then (first ++ second) :: rest else first :: second :: rest
  | pieces => pieces

/-- Lines that are being filled: those that are full, in reverse order, and the last one. -/
structure Filling where
  full : List (List Char) := []
  last : List Char := []
  /-- The cells that the last line takes. -/
  used : Nat := 0

namespace Filling

/-- Starts a line with a text. -/
def startLine (filling : Filling) (text : List Char) : Filling :=
  let full := if filling.last.isEmpty then filling.full else filling.last :: filling.full
  ⟨full, text, Text.width text⟩

/-- Adds a text to the last line. -/
def extend (filling : Filling) (text : List Char) : Filling :=
  { filling with last := filling.last ++ text, used := filling.used + Text.width text }

/-- Joins clusters to lines of a width, given the line that is being filled and its width. -/
def foldClusters (room : Nat) (line : List Char) (used : Nat) :
    List Text.Cluster → List (List Char)
  | [] => [line]
  | cluster :: rest =>
      if room < used + cluster.width then line :: foldClusters room cluster.text cluster.width rest
      else foldClusters room (line ++ cluster.text) (used + cluster.width) rest

/-- Adds a word, in the last line if it fits. -/
def addWord (room : Nat) (overflow : Overflow) (filling : Filling) (word : List Char) : Filling :=
  let size := Text.width (Text.dropEndWhile Text.isBlank word)
  if filling.used + size ≤ room then filling.extend word
  else
    match overflow with
    | .fold =>
        if room < size then
          (foldClusters room [] 0 (Text.clusters word)).foldl startLine filling
        else filling.startLine word
    | .ellipsis => filling.startLine word

/-- All lines in order. -/
def toLines (filling : Filling) : List (List Char) :=
  (filling.last :: filling.full).reverse

end Filling

/-- Drops blanks at the end of a line that has more characters than there is room for. -/
def dropExcessBlanks (room : Nat) (line : List Char) : List Char :=
  let blanks := (line.reverse.takeWhile Text.isBlank).length
  line.take (line.length - min blanks (line.length - room))

/-- Cuts a line that is still too wide. -/
def cutLine (room : Nat) (overflow : Overflow) (line : List Char) : List Char :=
  if Text.width line ≤ room then line
  else
    match overflow with
    | .fold => Text.crop room line
    | .ellipsis => Text.crop (room - 1) line ++ ['…']

/-- The lines that a line without tabs is broken into. -/
def wrapLine (room : Nat) (overflow : Overflow) (line : List Char) : List (List Char) :=
  let filling := (words line).foldl (Filling.addWord room overflow) {}
  filling.toLines.map fun piece => cutLine room overflow (dropExcessBlanks room piece)

/-- The distance between the places that a tab leads to. -/
def tabStep : Nat := 8

/-- The lines of a text, none wider than there is room for. -/
def wrap (room : Nat) (overflow : Overflow) (text : List Char) : List (List Char) :=
  (Text.lines text).flatMap fun line => wrapLine room overflow (Text.expandTabs tabStep line)

end DocHarvest.Report
