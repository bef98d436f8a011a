import DocHarvest.Comment.Tags
import DocHarvest.Module.Classify
import DocHarvest.Record.Build

/-!
# Records of comments and the nodes that they document

Of the documentation comments of a node only the last one documents the node. Each earlier one
belongs to a virtual node below the same parent, where it still can define a type.
-/

namespace DocHarvest.Run

/-- A new virtual node below a parent. -/
def virtualNode (parent : Option Node) : StateM Progress Node := do
  let node : Node := .mk { id := ← freshNodes 1 } .virtual
  setParent node parent
  return node

/-- The record of a node with the tags of its comment, if it is classified. -/
def createDoc (scope : Scope) (node : Node) (tags : List Tag) : Run (Option Doc) := do
  match ← Decision.decide scope tags node with
  | none => return none
  | some decision =>
      let id ← drawId
      return some (← build scope id decision.category decision.node tags)

/-- Stores the record of a node with one of its comments, if it is classified. -/
def document (scope : Scope) (node : Node) (comment : Comment) : Run Unit := do
  match ← createDoc scope node comment.tags with
  | none => return
  | some doc =>
      let _ ← insert scope doc

/-- Stores the records of comments, of which the last one documents a node. -/
def documentEach (scope : Scope) (node : Node) (parent : Option Node) : List Comment → Run Unit
  | [] => return
  | [last] => document scope node last
  | comment :: rest => do
      document scope (← virtualNode parent) comment
      documentEach scope node parent rest

/-- Stores the records of the comments of a node; without a node they belong to a virtual one. -/
def documentComments (scope : Scope) (node parent : Option Node) (comments : List Comment) :
    Run Unit := do
  let target ← match node with
    | some node => pure node
    | none => virtualNode parent
  documentEach scope target parent (Comment.docComments comments)

end DocHarvest.Run
