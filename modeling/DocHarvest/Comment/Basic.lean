/-!
# Comments

Places in a source text, the comments found there, and the tags that a documentation comment
consists of.
-/

namespace DocHarvest

/-- A place in a source text: lines count from one and columns are bytes from zero. -/
structure Position where
  line : Int
  column : Int
deriving DecidableEq, Repr, Inhabited

/-- A stretch of a source text. -/
structure Span where
  start : Position
  stop : Position
deriving DecidableEq, Repr, Inhabited

/-- Whether a comment runs between marks or to the end of its line. -/
inductive CommentKind
  | block
  | line
deriving DecidableEq, Repr, Inhabited

/-- The name of a kind of comment. -/
def CommentKind.name : CommentKind → String
  | .block => "CommentBlock"
  | .line => "CommentLine"

/-- A comment, without the marks that delimit it. -/
structure Comment where
  kind : CommentKind
  text : String
  span : Option Span := none
deriving DecidableEq, Repr, Inhabited

namespace Comment

/-- The text of a documentation comment: a block comment that starts with a star. -/
def docText? (comment : Comment) : Option String :=
  match comment.kind with
  | .line => none
  | .block => if ['*'].isPrefixOf comment.text.toList then some comment.text else none

/-- Whether a comment is a documentation comment. -/
def isDoc (comment : Comment) : Bool :=
  comment.docText?.isSome

/-- The comment that stands in where code has no documentation comment. -/
def undocumented : Comment :=
  { kind := .block, text := "* @_undocument" }

end Comment

/-- A tag of a documentation comment with the text that follows it. -/
structure Tag where
  name : String
  value : String
deriving DecidableEq, Repr, Inhabited

namespace Tag

/-- Whether a tag of the given name is present. -/
def hasName (tags : List Tag) (name : String) : Bool :=
  tags.any fun tag => tag.name == name

/-- The tags with one of the given names, in order. -/
def named (names : List String) (tags : List Tag) : List Tag :=
  tags.filter fun tag => names.contains tag.name

/-- The last tag with one of the given names. -/
def last? (names : List String) (tags : List Tag) : Option Tag :=
  (named names tags).getLast?

/-- The value of the last tag with one of the given names. -/
def lastValue? (names : List String) (tags : List Tag) : Option String :=
  (last? names tags).map (·.value)

/-- The values of all tags with one of the given names, if there is any. -/
def values? (names : List String) (tags : List Tag) : Option (List String) :=
  match named names tags with
  | [] => none
  | found => some (found.map (·.value))

end Tag

end DocHarvest
