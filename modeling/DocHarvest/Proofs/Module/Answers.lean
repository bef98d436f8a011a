import DocHarvest.Proofs.Module.Questions
import DocHarvest.Proofs.Module.Trails

/-!
# The answers of the table of parents

As long as the tables are in order, the parents that are noted lead from a node to the program. In a
program that is a tree they lead along the way out of the place of the node, so a question about it is
answered with this way, and a question about a new node with the way out of the place below which it has
been put. `Keeps` says that a step keeps it so.
-/

namespace DocHarvest

open Run

variable {program : Node} {before after : Progress}

/-- A step has kept the tables in order, and what they say of nodes that are not in the program. -/
structure Keeps (program : Node) (before after : Progress) : Prop where
  charted : Charted program after
  kept : ∀ place ∈ program.places, (before.links.parentOf place.node.id).isSome →
    (after.links.parentOf place.node.id).isSome
  nextNode : before.nextNode ≤ after.nextNode
  others : ∀ id < before.nextNode, (∀ place ∈ program.places, place.node.id ≠ id) →
    after.links.parentOf id = before.links.parentOf id

/-- What the tables of a state are made of. -/
def Progress.tables (state : Progress) :
    NodeId × Std.TreeMap NodeId (Option Node) × Std.TreeSet NodeId :=
  (state.nextNode, state.links.parents, state.visited)

namespace Keeps

theorem refl (charted : Charted program before) : Keeps program before before :=
  ⟨charted, fun _ _ noted => noted, Nat.le_refl _, fun _ _ _ => rfl⟩

theorem trans {middle : Progress} (first : Keeps program before middle)
    (second : Keeps program middle after) : Keeps program before after where
  charted := second.charted
  kept place isPlace noted := second.kept place isPlace (first.kept place isPlace noted)
  nextNode := Nat.le_trans first.nextNode second.nextNode
  others id isOld isOther := by
    have stillOld := Nat.lt_of_lt_of_le isOld first.nextNode
    exact (second.others id stillOld isOther).trans (first.others id isOld isOther)

theorem congr (charted : Charted program before) (same : after.tables = before.tables) :
    Keeps program before after := by
  simp only [Progress.tables, Prod.mk.injEq] at same
  rcases same with ⟨nextNode, parents, visited⟩
  have parentOf (id : NodeId) : after.links.parentOf id = before.links.parentOf id := by
    rw [Links.parentOf, Links.parentOf, parents]
  refine ⟨charted.congr nextNode parents visited, ?_, Nat.le_of_eq nextNode.symm, ?_⟩
  · intro place _ noted
    rwa [parentOf]
  · exact fun id _ _ => parentOf id

theorem goesOn (keeps : Keeps program before after) {place : Place}
    (isPlace : place ∈ program.places) (goesOn : before.links.GoesOn program place.node) :
    after.links.GoesOn program place.node :=
  goesOn.imp_right (keeps.kept place isPlace)

/-- The parent of a place is noted. -/
theorem mark (charted : Charted program before) (coherent : program.IsCoherent) {place : Place}
    (isPlace : place ∈ program.places) {parent : Node} (follows : place.Follows (some parent))
    (goesOn : before.links.GoesOn program parent) {visited : Std.TreeSet NodeId}
    (marked : ∀ id, visited.contains id → before.visited.contains id ∨ id = place.node.id) :
    Keeps program before
      { before with links := before.links.setParent place.node.id (some parent), visited } where
  charted := charted.mark coherent isPlace follows goesOn marked
  kept other _ noted := by
    rw [Links.parentOf_setParent]
    split
    · rfl
    · exact noted
  nextNode := Nat.le_refl _
  others id _ isOther := by
    rw [Links.parentOf_setParent, if_neg (isOther place isPlace).symm]

/-- New identities are given out, and the parent of the first one is noted. -/
theorem draw (charted : Charted program before) (count : Nat) (parent : Option Node) :
    Keeps program before
      { before with
        nextNode := before.nextNode + count
        links := before.links.setParent before.nextNode parent } := by
  have unchanged {id : NodeId} (isOld : id < before.nextNode) :
      (before.links.setParent before.nextNode parent).parentOf id = before.links.parentOf id := by
    rw [Links.parentOf_setParent, if_neg (Nat.ne_of_lt isOld)]
  refine ⟨charted.draw count parent, ?_, Nat.le_add_right _ _, fun id isOld _ => unchanged isOld⟩
  intro place isPlace noted
  rwa [unchanged (charted.below place isPlace)]

end Keeps

/-! ## Nodes that are located -/

/-- The table leads from a node to the program: from a place, or from a new node below a place. -/
inductive Located (program : Node) (state : Progress) (node : Node) : Prop
  | placed {place : Place} (isPlace : place ∈ program.places) (same : place.node = node)
      (noted : (state.links.parentOf place.node.id).isSome)
  | below {outer : Place} (isPlace : outer ∈ program.places)
      (goesOn : state.links.GoesOn program outer.node)
      (parent : state.links.parentOf node.id = some outer.node)
      (isNew : ∀ place ∈ program.places, place.node.id ≠ node.id)
      (isOld : node.id < state.nextNode)

theorem Located.mono {node : Node} (located : Located program before node)
    (keeps : Keeps program before after) : Located program after node := by
  cases located with
  | placed isPlace same noted => exact .placed isPlace same (keeps.kept _ isPlace noted)
  | below isPlace goesOn parent isNew isOld =>
      refine .below isPlace (keeps.goesOn isPlace goesOn) ?_ isNew
        (Nat.lt_of_lt_of_le isOld keeps.nextNode)
      rw [keeps.others _ isOld isNew]
      exact parent

/-- What comments can document in a program: a virtual node, or one of its own nodes. -/
def Node.Documents (program node : Node) : Prop :=
  node.shape = .virtual ∨ ∃ place ∈ program.places, place.node = node

theorem Node.Documents.virtual_of_new {node : Node} (documentable : program.Documents node)
    (isNew : ∀ place ∈ program.places, place.node.id ≠ node.id) : node.shape = .virtual := by
  rcases documentable with shape | ⟨place, isPlace, rfl⟩
  · exact shape
  · exact absurd rfl (isNew place isPlace)

/--
A question has been answered with a chain that ends. For a node of the program this is the way out of
its place, some declarators left out. For a new node, such as the virtual node of a comment, it starts
with the parent of this node, which is a node of the program, and goes on with the chain of the parent.
-/
structure Question.IsAnswered (program : Node) (question : Question) : Prop where
  ends : question.links.Leads question.node.id question.answer
  placed : ∀ place ∈ program.places, place.node.id = question.node.id →
    Thins question.answer place.above
  below : (∀ place ∈ program.places, place.node.id ≠ question.node.id) →
    ∃ outer ∈ program.places, question.links.parentOf question.node.id = some outer.node ∧
      question.answer = outer.node :: question.links.ancestors outer.node.id ∧
      Thins (question.links.ancestors outer.node.id) outer.above

namespace Charted

variable {state : Progress}

/-- In a tree the way that is noted for a place is the way out of this very place. -/
theorem exists_leads (charted : Charted program state) (tree : program.IsTree) {place : Place}
    (isPlace : place ∈ program.places) (goesOn : state.links.GoesOn program place.node) :
    ∃ chain, state.links.Leads place.node.id chain ∧ Thins chain place.above := by
  rcases goesOn with isRoot | noted
  · have atRoot : place = ⟨program, []⟩ :=
      tree.place_eq isPlace (Node.root_mem_places program) (by rw [isRoot])
    rw [atRoot]
    exact ⟨[], charted.trails.root, .nil⟩
  · rcases charted.trails.exists_leads tree.isCoherent isPlace noted with
      ⟨way, isWay, same, chain, leads, thins⟩
    have onWay : way = place := tree.place_eq isWay isPlace (by rw [same])
    rw [onWay] at thins
    exact ⟨chain, leads, thins⟩

theorem isAnswered (charted : Charted program state) (tree : program.IsTree) {node : Node}
    (located : Located program state node) :
    Question.IsAnswered program ⟨state.links, node⟩ := by
  have nodup {place : Place} (isPlace : place ∈ program.places) {chain : List Node}
      (thins : Thins chain place.above) : (place.node.id :: chain.map Node.id).Nodup :=
    (Place.nodup_lineage tree.isCoherent isPlace).sublist ((thins.sublist.map Node.id).cons_cons _)
  cases located with
  | @placed place isPlace same noted =>
      subst same
      rcases charted.exists_leads tree isPlace (Or.inr noted) with ⟨chain, leads, thins⟩
      have answer : Question.answer ⟨state.links, place.node⟩ = chain :=
        Links.ancestors_eq leads (nodup isPlace thins)
      refine ⟨?_, fun other isOther sameId => ?_, fun isNew => absurd rfl (isNew place isPlace)⟩
      · rwa [answer]
      · rw [tree.place_eq isOther isPlace sameId, answer]
        exact thins
  | @below outer isPlace goesOn parent isNew isOld =>
      rcases charted.exists_leads tree isPlace goesOn with ⟨chain, leads, thins⟩
      have inner : state.links.ancestors outer.node.id = chain :=
        Links.ancestors_eq leads (nodup isPlace thins)
      have leadsToo : state.links.Leads node.id (outer.node :: chain) := ⟨parent, leads⟩
      have distinct : (node.id :: (outer.node :: chain).map Node.id).Nodup := by
        refine List.nodup_cons.2 ⟨fun isAbove => ?_, nodup isPlace thins⟩
        rcases List.mem_map.1 isAbove with ⟨other, isOther, same⟩
        have onWay := (thins.sublist.cons_cons outer.node).subset isOther
        rw [← Place.map_node_outers (outer.node :: outer.above)] at onWay
        rcases List.mem_map.1 onWay with ⟨place, isOuter, rfl⟩
        have isPlaceToo : place ∈ program.places :=
          List.cons_subset.2 ⟨isPlace, Place.outers_subset_places isPlace⟩ isOuter
        exact isNew place isPlaceToo same
      have answer : Question.answer ⟨state.links, node⟩ = outer.node :: chain :=
        Links.ancestors_eq leadsToo distinct
      refine ⟨?_, fun other isOther sameId => absurd sameId (isNew other isOther), fun _ => ?_⟩
      · rwa [answer]
      · refine ⟨outer, isPlace, parent, ?_, ?_⟩
        · rwa [inner]
        · rwa [inner]

end Charted

end DocHarvest
