import DocHarvest.Node.Basic

/-!
# Walking a program

The walk visits a node before its parts and the parts in source order, and tells the visitor each
node together with the node that it was reached from. The visitor may keep the walk out of the
parts of a node. The nodes still to be visited are kept on a stack, so the walk is a loop whose
measure is the total size of the stack.
-/

namespace DocHarvest.Node

/-- Whether the walk goes on into the parts of the node just visited. -/
inductive Descent
  | enter
  | skip
deriving DecidableEq, Repr

/-- Nodes still to be visited, each with the node that it was reached from. -/
abbrev Stack := List (Node × Option Node)

/-- The parts of a node as they are put on the stack. -/
def partsOf (node : Node) : Stack :=
  node.children.map fun part => (part, some node)

/-- The parts of a node together are smaller than the node. -/
theorem total_sizeOf_partsOf_lt (node : Node) :
    total (node.partsOf.map fun entry => sizeOf entry.1) < sizeOf node := by
  cases node with
  | mk info shape =>
      have smaller : total (shape.children.map fun part => sizeOf part) < sizeOf shape :=
        total_sizeOf_shape_lt shape
      simp only [partsOf, children, Node.shape, List.map_map, Node.mk.sizeOf_spec]
      simp only [Function.comp_def]
      omega

/-- Visits the nodes of a stack and what lies below them. -/
def walkStack {m : Type → Type} [Monad m] (visit : Node → Option Node → m Descent) :
    Stack → m Unit
  | [] => pure ()
  | (node, parent) :: rest => do
      match ← visit node parent with
      | .skip => walkStack visit rest
      | .enter => walkStack visit (node.partsOf ++ rest)
termination_by stack => total (stack.map fun entry => sizeOf entry.1)
decreasing_by
  · have positive : 0 < sizeOf node := by
      cases node
      rw [Node.mk.sizeOf_spec]
      omega
    simp only [List.map_cons, total]
    omega
  · have smaller := total_sizeOf_partsOf_lt node
    simp only [List.map_append, total_append, List.map_cons, total]
    omega

/-- Visits a node and what lies below it, parts after the whole and from first to last. -/
def walk {m : Type → Type} [Monad m] (root : Node) (visit : Node → Option Node → m Descent) :
    m Unit :=
  walkStack visit [(root, none)]

end DocHarvest.Node
