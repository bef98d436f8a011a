import DocHarvest.Module.Scope
import DocHarvest.Node.Summary

/-!
# Classification

Which category a node belongs to, and which node its record describes. A comment that defines a
type or an external thing decides by its tags alone. Otherwise the shape of the node decides:
declarations count at the top level of the module only, and members only inside a class that has a
record. A class or function that a variable or an assignment binds is described itself.
-/

namespace DocHarvest

/-- A category with the node that a record of it describes. -/
structure Decision where
  category : Category
  node : Node

namespace Decision

/-- The category that tags decide on their own; the last such tag counts. -/
def ofTags? (tags : List Tag) : Option Category :=
  tags.foldl
    (fun category tag =>
      if tag.name == "@typedef" then some .virtualTypedef
      else if tag.name == "@external" then some .virtualExternal
      else category)
    none

/-- A node that counts at the top level only. -/
def topLevel (scope : Scope) (category : Category) (node : Node) :
    StateM Progress (Option Decision) := do
  return if scope.isTopLevel (← get).links node then some ⟨category, node⟩ else none

/-- Says that a member stands outside every class that has a record. -/
def warnNotInClass (what : String) (node : Node) : StateM Progress Unit :=
  Run.say .warning (what ++ " is not in class: " ++ node.summary.toJson)

/-- A node that counts inside a class with a record. -/
def classScoped (category : Category) (what : String) (node : Node) :
    StateM Progress (Option Decision) := do
  let progress ← get
  if Scope.isClassProcessed progress (progress.links.findUp? node.id Shape.isClass) then
    return some ⟨category, node⟩
  warnNotInClass what node
  return none

/-- Whether an expression is a member of `this`. -/
def isThisMember (expression : Option Node) : Bool :=
  match expression.map Node.shape with
  | some (.member (some target) _ _) =>
      match target.shape with
      | .this => true
      | _ => false
  | _ => false

/-- A statement that assigns to a member of `this` inside a class. -/
def memberAssignment (statement : Node) (expression : Option Node) :
    StateM Progress (Option Decision) := do
  match expression, expression.map Node.shape with
  | some assignment, some (.assignment left (some _) _) =>
      Run.setParent assignment (some statement)
      if !isThisMember left then
        return none
      let progress ← get
      match progress.links.findUp? assignment.id Shape.isClass with
      | none => return none
      | some classNode =>
          if !Scope.isClassProcessed progress (some classNode) then
            warnNotInClass "This class member" assignment
            return none
          Run.markVisited assignment
          return some ⟨.classMember, assignment⟩
  | _, _ => return none

/-- The category of a value that is described itself when something binds it. -/
def boundCategory? (value : Option Node) : Option (Category × Node) :=
  match value with
  | none => none
  | some node =>
      match node.shape with
      | .function .expression .. | .arrow .. => some (.moduleFunction, node)
      | .classLike .expression .. => some (.moduleClass, node)
      | _ => none

/-- A node that binds a value: the value if it is described itself, and else the node. -/
def binding (category : Category) (outer : Node) (value : Option Node) :
    StateM Progress (Option Decision) := do
  match boundCategory? value with
  | some (category, inner) =>
      Run.setParent inner (some outer)
      Run.markVisited inner
      return some ⟨category, inner⟩
  | none => return some ⟨category, outer⟩

/-- A node that binds a value at the top level. -/
def topLevelBinding (scope : Scope) (category : Category) (outer : Node) (value : Option Node) :
    StateM Progress (Option Decision) := do
  if scope.isTopLevel (← get).links outer then binding category outer value else return none

/-- The decision that the shape of a node leads to. -/
def ofShape (scope : Scope) (node : Node) : StateM Progress (Option Decision) :=
  match node.shape with
  | .classLike .declaration .. => topLevel scope .moduleClass node
  | .method .. => classScoped .classMethod "This method" node
  | .property .. => classScoped .classProperty "This class property" node
  | .expressionStatement expression => memberAssignment node expression
  | .function .declaration .. => topLevel scope .moduleFunction node
  | .function .expression _ _ _ async _ =>
      if async then topLevel scope .moduleFunction node else pure none
  | .arrow .. => topLevel scope .moduleFunction node
  | .assignment _ right _ => topLevelBinding scope .moduleAssignment node right
  | .variables _ (first :: _) =>
      match first.initial? with
      | some value => topLevelBinding scope .moduleVariable node (some value)
      | none => pure none
  | _ => pure none

/-- The decision about a node with the tags of its comment; a class is noted as recorded. -/
def decide (scope : Scope) (tags : List Tag) (node : Node) : StateM Progress (Option Decision) := do
  match ofTags? tags with
  | some category => return some ⟨category, node⟩
  | none =>
      let decision ← ofShape scope node
      match decision with
      | some ⟨.moduleClass, described⟩ =>
          modify fun progress => { progress with classes := progress.classes ++ [described] }
      | _ => pure ()
      return decision

end Decision

end DocHarvest
