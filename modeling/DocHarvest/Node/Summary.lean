import DocHarvest.Node.Basic
import DocHarvest.Value.Printer

/-!
# Summaries of nodes

What a message says about a node: its type, its place and its comments.
-/

namespace DocHarvest

/-- A place as a value. -/
def Position.toValue (position : Position) : Value :=
  .object [("line", .integer position.line), ("column", .integer position.column)]

/-- A stretch of source as a value; an absent one is null. -/
def Span.toValue : Option Span → Value
  | none => .null
  | some span => .object [("start", span.start.toValue), ("end", span.stop.toValue)]

/-- A comment as a value. -/
def Comment.toValue (comment : Comment) : Value :=
  .object [("kind", .text comment.kind.name), ("value", .text comment.text),
    ("loc", Span.toValue comment.span)]

/-- The type, the place and the comments of a node. -/
def Node.summary (node : Node) : Value :=
  .object [("type", .text node.typeName), ("loc", Span.toValue node.span),
    ("leadingComments", .list (node.leading.map Comment.toValue)),
    ("trailingComments", .list (node.trailing.map Comment.toValue))]

end DocHarvest
