import DocHarvest.Doc.Store
import DocHarvest.Node.Find
import DocHarvest.Path.Module
import Std.Data.TreeMap
import Std.Data.TreeSet

/-!
# The scope of a module

What does not change while a module is documented (`Scope`), the links between nodes that are found
on the way (`Links`), and everything else that does change (`Progress`). A step of the work is a
`Run`: it may fail, and what it changed before it failed stays changed.
-/

namespace DocHarvest

/-- What happens when a node cannot be documented. -/
inductive Policy
  /-- The fault is noted and the work goes on with the next node. -/
  | log
  /-- The fault ends the work. -/
  | stop
deriving DecidableEq, Repr

/-- The policy of a name. -/
def Policy.ofName? : String → Option Policy
  | "log" => some .log
  | "throw" => some .stop
  | _ => none

/-- How much a message matters. -/
inductive Level
  | info
  | warning
deriving DecidableEq, Repr

/-- A message about the work. -/
structure Message where
  level : Level
  text : String
deriving DecidableEq, Repr

/-- A node that could not be documented. -/
structure InvalidCode where
  filePath : String
  nodeType : String
  line : Option Int
  fault : Fault
deriving DecidableEq, Repr

/-- What does not change while a module is documented. -/
structure Scope where
  program : Node
  /-- The path that names the module. -/
  filePath : String
  policy : Policy := .stop
  /-- The source, when it exists in memory only. -/
  code : Option String := none
  /-- The text of the file of the module, when there is such a file. -/
  fileText : Except Fault (Option String) := .ok none
  moduleId : Option Int := none
  filter : Option Doc.Filter := none

/-- Links between nodes and names of nodes, found while a module is documented. -/
structure Links where
  /-- The parent of every node that has been reached. -/
  parents : Std.TreeMap NodeId (Option Node) := {}
  /-- The names under which nodes were documented. -/
  names : Std.TreeMap NodeId String := {}

namespace Links

/-- The parent of a node. -/
def parentOf (links : Links) (id : NodeId) : Option Node :=
  (links.parents[id]?).join

/-- The chain of parents of a node, nearest first, of at most `fuel` nodes. -/
def ancestorsWithin (links : Links) : Nat → NodeId → List Node
  | 0, _ => []
  | fuel + 1, id =>
      match links.parentOf id with
      | none => []
      | some parent => parent :: links.ancestorsWithin fuel parent.id

/-- The chain of parents of a node, nearest first. It is no longer than the table of parents. -/
def ancestors (links : Links) (id : NodeId) : List Node :=
  links.ancestorsWithin links.parents.size id

/-- The nearest ancestor of a node with a suitable shape. -/
def findUp? (links : Links) (id : NodeId) (suitable : Shape Node → Bool) : Option Node :=
  (links.ancestors id).find? fun ancestor => suitable ancestor.shape

/-- Notes the parent of a node. -/
def setParent (links : Links) (id : NodeId) (parent : Option Node) : Links :=
  { links with parents := links.parents.insert id parent }

/-- Notes the name of a node. -/
def setName (links : Links) (id : NodeId) (name : String) : Links :=
  { links with names := links.names.insert id name }

end Links

/-- What changes while a module is documented. -/
structure Progress where
  store : Store := {}
  links : Links := {}
  visited : Std.TreeSet NodeId := {}
  /-- The classes that have a record of their own, in order. -/
  classes : List Node := []
  /-- The exports that wait for the end of the walk, in order. -/
  pending : List Node := []
  invalid : List InvalidCode := []
  messages : List Message := []
  /-- The number of test blocks so far. -/
  blocks : Nat := 0
  /-- The first identity that no node has. -/
  nextNode : NodeId := 0

/-- A step of the work on a module. -/
abbrev Run := ExceptT Fault (StateM Progress)

namespace Run

/-- Notes the parent of a node. -/
def setParent (node : Node) (parent : Option Node) : StateM Progress Unit :=
  modify fun progress => { progress with links := progress.links.setParent node.id parent }

/-- Notes that a node has been visited. -/
def markVisited (node : Node) : StateM Progress Unit :=
  modify fun progress => { progress with visited := progress.visited.insert node.id }

/-- Whether a node has been visited. -/
def isVisited (node : Node) : StateM Progress Bool :=
  return (← get).visited.contains node.id

/-- Notes the name of a node. -/
def setName (node : Node) (name : String) : StateM Progress Unit :=
  modify fun progress => { progress with links := progress.links.setName node.id name }

/-- Adds a message. -/
def say (level : Level) (text : String) : StateM Progress Unit :=
  modify fun progress => { progress with messages := progress.messages ++ [⟨level, text⟩] }

/-- Adds several messages of one level. -/
def sayAll (level : Level) (texts : List String) : StateM Progress Unit :=
  modify fun progress =>
    { progress with messages := progress.messages ++ texts.map fun text => ⟨level, text⟩ }

/-- Gives out identities for a number of nodes and returns the first one. -/
def freshNodes (count : Nat) : StateM Progress NodeId :=
  modifyGet fun progress =>
    (progress.nextNode, { progress with nextNode := progress.nextNode + count })

/-- Draws the next id of a record. -/
def drawId : StateM Progress Int :=
  modifyGet fun progress =>
    let (id, store) := progress.store.draw
    (id, { progress with store })

/-- Stores a record that passes the filter of the scope, and says whether it did. -/
def insert (scope : Scope) (doc : Doc) : Run Bool := do
  let (stored, store) ← (← get).store.insert scope.filter doc
  modify fun progress => { progress with store }
  return stored

end Run

namespace Scope

/-- Whether a node, or the export around it, is a statement of the program. -/
def isTopLevel (scope : Scope) (links : Links) (node : Node) : Bool :=
  let statement := match links.parentOf node.id with
    | some parent => if parent.shape.isExport then parent else node
    | none => node
  scope.program.body.any fun candidate => candidate.id == statement.id

/-- Whether a class has a record of its own. -/
def isClassProcessed (progress : Progress) (node : Option Node) : Bool :=
  match node with
  | none => false
  | some node => progress.classes.any fun processed => processed.id == node.id

end Scope

end DocHarvest
