import DocHarvest.Tree.Basic
import DocHarvest.Node.Basic

/-!
# Comments in statement lists

A list of statements or class members is cut into groups: an item with the comments before it. The
comments before an item become its leading comments, or those of its first decorator if it is
decorated. Comments after the last item become its trailing comments, and in a list without items
they are left over.
-/

namespace DocHarvest

namespace Tree

/-- An item of a list with the comments that stand between it and the item before it. -/
structure Group (bound : Nat) where
  comments : List Comment
  item : Part bound

/-- Whether a tree is passed over in a list of statements. -/
def isSkipped (tree : Tree) : Bool :=
  tree.kind == "hash_bang_line" || tree.kind == "empty_statement"

/-- The groups of a list and the comments after its last item, given comments still pending. -/
def groupsFrom {bound : Nat} (source : Source) (pending : List Comment) :
    List (Part bound) → List (Group bound) × List Comment
  | [] => ([], pending)
  | part :: rest =>
      if part.1.isComment then groupsFrom source (pending ++ [source.comment part.1]) rest
      else if part.1.isSkipped then groupsFrom source pending rest
      else
        let (groups, after) := groupsFrom source [] rest
        (⟨pending, part⟩ :: groups, after)

/-- The groups of a statement list and the comments after its last item. -/
def groups (source : Source) (container : Tree) :
    List (Group container.size) × List Comment :=
  groupsFrom source [] container.namedParts

end Tree

namespace Shape

/-- Changes the first decorator of a class or class member. -/
def mapFirstDecorator {α : Type} (change : α → α) : Shape α → Shape α
  | .classLike form (first :: others) id superClass body =>
      .classLike form (change first :: others) id superClass body
  | .method (first :: others) key params body kind static computed async generator =>
      .method (change first :: others) key params body kind static computed async generator
  | .property (first :: others) key value static computed =>
      .property (change first :: others) key value static computed
  | shape => shape

end Shape

namespace Node

/-- Adds comments to the leading comments of a node itself. -/
def addLeading (comments : List Comment) (node : Node) : Node :=
  node.withInfo { node.info with leading := node.leading ++ comments }

/-- Adds comments to the trailing comments of a node. -/
def addTrailing (comments : List Comment) (node : Node) : Node :=
  node.withInfo { node.info with trailing := node.trailing ++ comments }

/-- Puts comments in front of an item: on its first decorator if it has one. -/
def attachLeading (comments : List Comment) (item : Node) : Node :=
  if item.shape.decorators.isEmpty then item.addLeading comments
  else .mk item.info (item.shape.mapFirstDecorator (addLeading comments))

/-- Puts the comments after a list on its last item; an empty list leaves them over. -/
def attachTrailing (comments : List Comment) : List Node → List Node × List Comment
  | [] => ([], comments)
  | [last] => ([last.addTrailing comments], [])
  | item :: rest =>
      let (items, leftover) := attachTrailing comments rest
      (item :: items, leftover)

end Node

end DocHarvest
