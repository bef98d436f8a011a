import DocHarvest.Proofs.Tree.Yields

/-!
# Fresh nodes have no comments around them

Comments get onto nodes only where a statement list puts them on its items. The node that a tree
makes has none around itself or around its decorators, so an item of a list gets its first comments
there. Few rules make decorators; the whole is an induction on the size of the tree.
-/

namespace DocHarvest

open NodeBuilder

namespace Node

/-- A node has no comments before or after it. -/
def HasNoComments (node : Node) : Prop :=
  node.leading = [] ∧ node.trailing = []

/-- A node has no comments around itself and its decorators. -/
structure IsUncommented (node : Node) : Prop where
  own : node.HasNoComments
  decorators : ∀ decorator ∈ node.shape.decorators, decorator.HasNoComments

end Node

namespace Tree

section

variable {source : Source} {tree : Tree} {bound : Nat} {convert : Convert bound}

/-- What makes nodes of parts makes nodes without comments. -/
def Convert.IsUncommented (convert : Convert bound) : Prop :=
  ∀ part, Yields Node.IsUncommented (convert part)

/-- The decorators of a layer have no comments around them. -/
def HasBareDecorators (shape : Shape Node) : Prop :=
  ∀ decorator ∈ shape.decorators, decorator.HasNoComments

theorem hasBareDecorators_of_none {shape : Shape Node} (none : shape.decorators = []) :
    HasBareDecorators shape := by
  intro decorator isDecorator
  rw [none] at isDecorator
  exact absurd isDecorator List.not_mem_nil

theorem decoratorNodes_uncommented {convert : Convert tree.size} (fresh : convert.IsUncommented) :
    Yields (fun nodes => ∀ node ∈ nodes, node.HasNoComments) (decoratorNodes tree convert) := by
  refine Yields.bind (.mapM fun part _ => fresh part) fun nodes areFresh => .pure ?_
  intro node isKept
  exact (areFresh node (List.mem_filter.1 isKept).1).own

variable {convert : Convert tree.size}

theorem classShape_decorators (fresh : convert.IsUncommented) (form : Form) :
    Yields HasBareDecorators (classShape tree convert form) := by
  refine .andThen fun superClass => .andThen fun name => .andThen fun body => ?_
  have rest (body : Node) : Yields HasBareDecorators (do
      let decorators ← decoratorNodes tree convert
      return .classLike form decorators (onlyIdentifier name) superClass body) :=
    (decoratorNodes_uncommented fresh).bind fun _ areBare => .pure areBare
  dsimp only
  split
  · exact .andThen rest
  · exact .andThen rest

theorem methodShape_decorators (fresh : convert.IsUncommented) :
    Yields HasBareDecorators (methodShape tree convert) := by
  refine .andThen fun key => (decoratorNodes_uncommented fresh).bind fun _ areBare => ?_
  exact .andThen fun params => .andThen fun body => .pure areBare

theorem propertyShape_decorators (fresh : convert.IsUncommented) :
    Yields HasBareDecorators (propertyShape tree convert) := by
  refine .andThen fun key => (decoratorNodes_uncommented fresh).bind fun _ areBare => ?_
  exact .andThen fun value => .pure areBare

/-- A rule whose last step makes a layer without decorators. -/
theorem undecorated {α : Type} {step : NodeBuilder α} {shape : α → Shape Node}
    (none : ∀ value, (shape value).decorators = []) :
    Yields HasBareDecorators (do return shape (← step)) :=
  .andThen fun value => .pure (hasBareDecorators_of_none (none value))

theorem exportShape_decorators : Yields HasBareDecorators (exportShape tree convert) := by
  refine .andThen fun origin => .andThen fun declared => ?_
  have rest (declaration : Option Node) : Yields HasBareDecorators (do
      let decorators ← decoratorNodes tree convert
      let declaration := declaration.map (decorate decorators)
      if tree.hasToken "default" then
        return .exportDefault declaration
      let specifiers ← convert.inside (tree.firstNamed? "export_clause")
      return .exportNamed declaration (specifiers.filter isExportSpecifier)
        (onlyLiteral origin)) := by
    refine .andThen fun decorators => ?_
    dsimp only
    split
    · exact .pure (hasBareDecorators_of_none rfl)
    · exact undecorated fun _ => rfl
  dsimp only
  split
  · exact .andThen rest
  · exact .andThen rest

theorem arrowShape_decorators : Yields HasBareDecorators (arrowShape tree convert) := by
  unfold arrowShape
  dsimp only
  split
  · exact .andThen fun params => undecorated fun _ => rfl
  · exact .andThen fun params => undecorated fun _ => rfl

theorem decoratorShape_decorators :
    Yields HasBareDecorators (decoratorShape source tree convert) := by
  unfold decoratorShape
  split
  · exact .pure (hasBareDecorators_of_none rfl)
  · exact undecorated fun _ => rfl

theorem defaultedPropertyShape_decorators :
    Yields HasBareDecorators (defaultedPropertyShape source tree convert) := by
  refine .andThen fun left => .andThen fun right => .andThen fun pattern => ?_
  dsimp only
  split
  · exact undecorated fun _ => rfl
  · exact undecorated fun _ => rfl

theorem layer_decorators (fresh : convert.IsUncommented) (found : Construct) :
    Yields HasBareDecorators (layer source tree convert found) := by
  cases found
  case classLike form => exact classShape_decorators fresh form
  case method => exact methodShape_decorators fresh
  case property => exact propertyShape_decorators fresh
  case exportStatement => exact exportShape_decorators
  case arrow => exact arrowShape_decorators
  case decorator => exact decoratorShape_decorators
  case objectAssignmentPattern => exact defaultedPropertyShape_decorators
  case this | identifier | string | number | boolean | null | regex | template =>
    exact .pure (hasBareDecorators_of_none rfl)
  case importStatement => exact .andThen fun specifiers => undecorated fun _ => rfl
  case function form generator =>
    exact .andThen fun id => .andThen fun params => undecorated fun _ => rfl
  case declarator | member | subscript | assignmentPattern | call | construct | assignment | pair |
      exportSpecifier =>
    exact .andThen fun first => undecorated fun _ => rfl
  all_goals exact undecorated fun _ => rfl

theorem unplaced_uncommented (fresh : convert.IsUncommented) :
    Yields Node.IsUncommented (unplaced source tree convert) := by
  unfold unplaced
  split
  · exact fresh _
  · refine (layer_decorators fresh _).bind fun shape areBare => ?_
    intro before node after ran
    cases ran
    exact ⟨⟨rfl, rfl⟩, areBare⟩

end

theorem placed_uncommented {source : Source} {tree : Tree} {node : Node}
    (fresh : node.IsUncommented) : (placed source tree node).IsUncommented := by
  unfold placed
  split
  · exact ⟨fresh.own, fresh.decorators⟩
  · exact ⟨fresh.own, fresh.decorators⟩

/-- The node of a tree has no comments around it. -/
theorem node_uncommented (source : Source) (tree : Tree) :
    Yields Node.IsUncommented (Tree.node source tree) := by
  rw [Tree.node]
  have inside : Convert.IsUncommented fun part : Part tree.size => Tree.node source part.1 :=
    fun part => node_uncommented source part.1
  exact (unplaced_uncommented inside).bind fun node fresh => .pure (placed_uncommented fresh)
termination_by tree.size
decreasing_by exact part.2

end Tree

end DocHarvest
