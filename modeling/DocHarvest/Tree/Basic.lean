import DocHarvest.Comment.Basic
import DocHarvest.Text.Utf8

/-!
# Syntax trees

The concrete syntax of a module: a tree over the bytes of its source in which every token has a
place. Nodes of the grammar are named, tokens such as `async` or `=` are anonymous, and a node may
hang in its parent under a field.

A `Part` is a tree that is smaller than a bound, which is what recursion on a tree needs to know
about the trees inside it.
-/

namespace DocHarvest

/-- A syntax tree over the bytes from `start` to `stop`. -/
inductive Tree
  | mk (kind : String) (named : Bool) (field : Option String) (start stop : Nat)
      (children : List Tree)

namespace Tree

instance : Inhabited Tree := ⟨.mk "" false none 0 0 []⟩

/-- The kind of the node or token at the root. -/
def kind : Tree → String
  | .mk kind _ _ _ _ _ => kind

/-- Whether the root is a node of the grammar. -/
def named : Tree → Bool
  | .mk _ named _ _ _ _ => named

/-- The field under which the root hangs in its parent. -/
def field : Tree → Option String
  | .mk _ _ field _ _ _ => field

/-- The offset of the first byte. -/
def start : Tree → Nat
  | .mk _ _ _ start _ _ => start

/-- The offset after the last byte. -/
def stop : Tree → Nat
  | .mk _ _ _ _ stop _ => stop

/-- The trees below the root, in source order. -/
def children : Tree → List Tree
  | .mk _ _ _ _ _ children => children

mutual

/-- The number of nodes and tokens of a tree. -/
def size : Tree → Nat
  | .mk _ _ _ _ _ children => sizes children + 1

/-- The number of nodes and tokens of several trees. -/
def sizes : List Tree → Nat
  | [] => 0
  | tree :: rest => tree.size + sizes rest

end

theorem size_le_sizes {tree : Tree} {trees : List Tree} (isMember : tree ∈ trees) :
    tree.size ≤ sizes trees := by
  induction trees with
  | nil => simp at isMember
  | cons head rest ih =>
      rw [sizes]
      rcases List.mem_cons.1 isMember with rfl | isMember
      · omega
      · have := ih isMember
        omega

theorem size_lt_of_mem_children {part whole : Tree} (isPart : part ∈ whole.children) :
    part.size < whole.size := by
  cases whole with
  | mk kind named field start stop children =>
      have : part.size ≤ sizes children := size_le_sizes isPart
      rw [size]
      omega

/-- A tree that is smaller than a bound. -/
abbrev Part (bound : Nat) := { part : Tree // part.size < bound }

/-- The trees below the root as parts of the whole. -/
def parts (whole : Tree) : List (Part whole.size) :=
  whole.children.attach.map fun child => ⟨child.1, size_lt_of_mem_children child.2⟩

/-- Whether a tree is a comment. -/
def isComment (tree : Tree) : Bool :=
  tree.kind == "comment"

namespace Part

variable {bound : Nat}

/-- A part of a part is a part. -/
def within (part : Part bound) (inner : Part part.1.size) : Part bound :=
  ⟨inner.1, Nat.lt_trans inner.2 part.2⟩

end Part

/-- The named trees below the root. -/
def namedParts (whole : Tree) : List (Part whole.size) :=
  whole.parts.filter fun part => part.1.named

/-- The named trees below the root that are no comments. -/
def codeParts (whole : Tree) : List (Part whole.size) :=
  whole.namedParts.filter fun part => !part.1.isComment

/-- The first tree below the root under a field. -/
def field? (whole : Tree) (name : String) : Option (Part whole.size) :=
  whole.parts.find? fun part => part.1.field == some name

/-- All trees below the root under a field. -/
def fields (whole : Tree) (name : String) : List (Part whole.size) :=
  whole.parts.filter fun part => part.1.field == some name

/-- The first named tree of a kind below the root. -/
def firstNamed? (whole : Tree) (kind : String) : Option (Part whole.size) :=
  whole.namedParts.find? fun part => part.1.kind == kind

/-- Whether an anonymous token of a kind stands directly below the root. -/
def hasToken (whole : Tree) (token : String) : Bool :=
  whole.children.any fun child => !child.named && child.kind == token

end Tree

/-- The source of a module, with the offsets of its newlines at hand. -/
structure Source where
  bytes : Array UInt8
  newlines : List Nat

namespace Source

/-- The byte that ends a line. -/
def newline : UInt8 := 10

/-- The source that consists of some bytes. -/
def ofBytes (bytes : List UInt8) : Source :=
  { bytes := bytes.toArray
    newlines := (bytes.zipIdx.filter fun entry => entry.1 == newline).map fun entry => entry.2 }

/-- The source that a text is. -/
def ofText (text : String) : Source :=
  ofBytes text.toUTF8.toList

/-- The text that a tree covers. -/
def text (source : Source) (tree : Tree) : String :=
  Text.Utf8.decode (source.bytes.extract tree.start tree.stop).toList

/-- The text that a tree covers, if there is a tree. -/
def textOr {bound : Nat} (source : Source) : Option (Tree.Part bound) → String
  | none => ""
  | some part => source.text part.1

/-- The place of a byte: lines are counted by newlines and columns in bytes. -/
def position (source : Source) (offset : Nat) : Position :=
  let offset := min offset source.bytes.size
  let before := source.newlines.takeWhile (· < offset)
  let lineStart := match before.getLast? with
    | some last => last + 1
    | none => 0
  ⟨(before.length + 1 : Nat), (offset - lineStart : Nat)⟩

/-- The stretch of source that a tree covers. -/
def span (source : Source) (tree : Tree) : Span :=
  ⟨source.position tree.start, source.position tree.stop⟩

/-- The comment that a tree is, without its marks. -/
def comment (source : Source) (tree : Tree) : Comment :=
  let characters := (source.text tree).toList
  let span := source.span tree
  if ['/', '*'].isPrefixOf characters then
    { kind := .block
      text := String.ofList ((characters.drop 2).take (characters.length - 4))
      span := some span }
  else { kind := .line, text := String.ofList (characters.drop 2), span := some span }

end Source

end DocHarvest
