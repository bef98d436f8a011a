import DocHarvest.Proofs.Node.Places
import Mathlib.Data.List.Nodup

/-!
# Programs that are trees

In a program in which no node occurs twice a place is given by the identity of its node, so facts about
identities, which are all that the walk compares, are facts about places.
-/

namespace DocHarvest

namespace Node

/-- All places of a program. -/
def places (program : Node) : List Place :=
  (⟨program, []⟩ : Place).reach fun _ => true

/-- A program in which no node occurs twice. -/
def IsTree (program : Node) : Prop :=
  (program.places.map fun place => place.node.id).Nodup

instance (program : Node) : Decidable program.IsTree :=
  inferInstanceAs (Decidable (List.Nodup _))

/-- A program in which nodes with the same identity are the same, wherever they occur. -/
def IsCoherent (program : Node) : Prop :=
  ∀ first ∈ program.places, ∀ second ∈ program.places,
    first.node.id = second.node.id → first.node = second.node

variable {program : Node}

theorem root_mem_places (program : Node) : ⟨program, []⟩ ∈ program.places :=
  Place.self_mem_reach _

theorem parts_mem_places {outer part : Place} (isPlace : outer ∈ program.places)
    (isPart : part ∈ outer.parts) : part ∈ program.places :=
  Place.parts_mem_reach _ isPlace rfl isPart

/-- A place is the whole program or a part of another place. -/
theorem places_cases {place : Place} (isPlace : place ∈ program.places) :
    place = ⟨program, []⟩ ∨ ∃ outer ∈ program.places, place ∈ outer.parts := by
  rcases Place.reach_cases isPlace with same | ⟨outer, isOuter, -, isPart⟩
  · exact Or.inl same
  · exact Or.inr ⟨outer, isOuter, isPart⟩

theorem eq_root_of_above_nil {node : Node} (isPlace : ⟨node, []⟩ ∈ program.places) :
    node = program := by
  rcases places_cases isPlace with same | ⟨outer, -, isPart⟩
  · cases same
    rfl
  · have := (Place.mem_parts.1 isPart).2
    cases this

theorem outer_mem_places {node outer : Node} {above : List Node}
    (isPlace : ⟨node, outer :: above⟩ ∈ program.places) :
    ⟨outer, above⟩ ∈ program.places ∧ node ∈ outer.children := by
  rcases places_cases isPlace with same | ⟨place, isOuter, isPart⟩
  · cases same
  · rcases Place.mem_parts.1 isPart with ⟨isChild, same⟩
    cases same
    exact ⟨isOuter, isChild⟩

theorem IsTree.place_eq (tree : program.IsTree) {first second : Place}
    (isPlace : first ∈ program.places) (isPlaceToo : second ∈ program.places)
    (same : first.node.id = second.node.id) : first = second :=
  List.inj_on_of_nodup_map tree isPlace isPlaceToo same

theorem IsTree.isCoherent (tree : program.IsTree) : program.IsCoherent :=
  fun _ isPlace _ isPlaceToo same => congrArg Place.node (tree.place_eq isPlace isPlaceToo same)

theorem children_eq_body (isProgram : program.isProgram) : program.children = program.body := by
  unfold Node.isProgram at isProgram
  split at isProgram
  · rename_i body comments shape
    simp [children, Node.body, shape, Shape.children]
  · cases isProgram

theorem isExport_of_isProgram (isProgram : program.isProgram) :
    program.shape.isExport = false := by
  unfold Node.isProgram at isProgram
  split at isProgram
  · rename_i body comments shape
    simp [shape, Shape.isExport]
  · cases isProgram

/-- A node is one of the statements exactly when the program is all that is around it. -/
theorem any_body_iff (tree : program.IsTree) (isProgram : program.isProgram) {place : Place}
    (isPlace : place ∈ program.places) :
    (program.body.any fun candidate => candidate.id == place.node.id) = true ↔
      place.above = [program] := by
  rw [← children_eq_body isProgram]
  constructor
  · intro found
    rcases List.any_eq_true.1 found with ⟨statement, isStatement, same⟩
    have isPart : ⟨statement, [program]⟩ ∈ (⟨program, []⟩ : Place).parts :=
      Place.mem_parts.2 ⟨isStatement, rfl⟩
    have equal := tree.place_eq (parts_mem_places (root_mem_places program) isPart) isPlace
      (by simpa using same)
    rw [← equal]
  · intro above
    rcases place with ⟨node, outers⟩
    cases above
    have isChild := (outer_mem_places isPlace).2
    exact List.any_eq_true.2 ⟨node, isChild, by simp⟩

end Node

namespace Place

/-- The places around a place, nearest first. -/
def outers : List Node → List Place
  | [] => []
  | outer :: above => ⟨outer, above⟩ :: outers above

theorem length_above_lt_of_mem_outers {above : List Node} {outer : Place}
    (isOuter : outer ∈ outers above) : outer.above.length < above.length := by
  induction above with
  | nil => cases isOuter
  | cons node above ih =>
      rcases List.mem_cons.1 isOuter with rfl | isFarther
      · simp
      · exact Nat.lt_succ_of_lt (ih isFarther)

theorem outers_subset_places {program : Node} {place : Place} (isPlace : place ∈ program.places) :
    outers place.above ⊆ program.places := by
  rcases place with ⟨node, above⟩
  induction above generalizing node with
  | nil => exact List.nil_subset _
  | cons outer above ih =>
      have isOuter := (Node.outer_mem_places isPlace).1
      exact List.cons_subset.2 ⟨isOuter, ih outer isOuter⟩

theorem outers_append_subset (skipped above : List Node) :
    outers above ⊆ outers (skipped ++ above) := by
  induction skipped with
  | nil => exact List.Subset.refl _
  | cons node skipped ih => exact List.subset_cons_of_subset _ ih

theorem outers_subset_outers {above : List Node} {outer : Place} (isOuter : outer ∈ outers above) :
    outers outer.above ⊆ outers above := by
  induction above with
  | nil => cases isOuter
  | cons node above ih =>
      rcases List.mem_cons.1 isOuter with rfl | isFarther
      · exact List.subset_cons_self _ _
      · exact List.subset_cons_of_subset _ (ih isFarther)

theorem map_node_outers (above : List Node) : (outers above).map Place.node = above := by
  induction above with
  | nil => rfl
  | cons outer above ih => rw [outers, List.map_cons, ih]

/-- The way from an outer place to the program ends the way from the inner one. -/
theorem suffix_of_mem_outers {above : List Node} {outer : Place} (isOuter : outer ∈ outers above) :
    outer.node :: outer.above <:+ above := by
  induction above with
  | nil => cases isOuter
  | cons node above ih =>
      rcases List.mem_cons.1 isOuter with rfl | isFarther
      · exact List.suffix_rfl
      · exact (ih isFarther).trans (List.suffix_cons node above)

/-- Two places on the way from one place to the program are the same if they are equally deep. -/
theorem eq_of_mem_lineage {place first second : Place}
    (isFirst : first ∈ place :: outers place.above) (isSecond : second ∈ place :: outers place.above)
    (same : first.above.length = second.above.length) : first = second := by
  have suffix {other : Place} (isOther : other ∈ place :: outers place.above) :
      other.node :: other.above <:+ place.node :: place.above := by
    rcases List.mem_cons.1 isOther with rfl | isOuter
    · exact List.suffix_rfl
    · exact (suffix_of_mem_outers isOuter).trans (List.suffix_cons _ _)
  have equal := (List.suffix_of_suffix_length_le (suffix isFirst) (suffix isSecond)
    (by simp [same])).eq_of_length (by simp [same])
  rcases first with ⟨node, above⟩
  rcases second with ⟨nodeToo, aboveToo⟩
  rcases List.cons.inj equal with ⟨rfl, rfl⟩
  rfl

theorem mem_lineage_of_mem_reach {enters : Node → Bool} {place below : Place}
    (isBelow : below ∈ place.reach enters) : place ∈ below :: outers below.above := by
  let holds (below : Place) : Prop := place ∈ below :: outers below.above
  have handed (outer : Place) (held : holds outer) (_ : enters outer.node) (part : Place)
      (isPart : part ∈ outer.parts) : holds part := by
    refine List.mem_cons_of_mem _ ?_
    rw [(mem_parts.1 isPart).2]
    exact held
  exact forall_mem_reach handed place (List.mem_cons_self ..) below isBelow

theorem program_mem_above {program : Node} {place : Place} (isPlace : place ∈ program.places)
    (inside : place.above ≠ []) : program ∈ place.above := by
  rcases place with ⟨node, above⟩
  induction above generalizing node with
  | nil => exact absurd rfl inside
  | cons outer above ih =>
      have isOuter := (Node.outer_mem_places isPlace).1
      cases above with
      | nil =>
          rw [Node.eq_root_of_above_nil isOuter]
          exact List.mem_singleton_self _
      | cons next rest => exact List.mem_cons_of_mem _ (ih outer isOuter (by simp))

theorem sizeOf_lt_of_mem_above {program : Node} {place : Place} (isPlace : place ∈ program.places)
    {outer : Node} (isAbove : outer ∈ place.above) : sizeOf place.node < sizeOf outer := by
  rcases place with ⟨node, above⟩
  induction above generalizing node with
  | nil => cases isAbove
  | cons first above ih =>
      rcases Node.outer_mem_places isPlace with ⟨isOuter, isChild⟩
      have smaller := Node.sizeOf_lt_of_mem_children isChild
      rcases List.mem_cons.1 isAbove with rfl | isFarther
      · exact smaller
      · exact Nat.lt_trans smaller (ih first isOuter isFarther)

/-- Inside a program there is no node with its identity. -/
theorem id_ne_of_above_ne_nil {program : Node} (coherent : program.IsCoherent) {place : Place}
    (isPlace : place ∈ program.places) (inside : place.above ≠ []) :
    place.node.id ≠ program.id := by
  intro same
  have equal : place.node = program :=
    coherent place isPlace ⟨program, []⟩ (Node.root_mem_places program) same
  have smaller := sizeOf_lt_of_mem_above isPlace (program_mem_above isPlace inside)
  rw [equal] at smaller
  exact Nat.lt_irrefl _ smaller

/-- The way out of a place may go on from a node on it as it does from another place of the node. -/
theorem graft {program node outer : Node} {skipped rest above : List Node}
    (isPlace : ⟨node, skipped ++ outer :: rest⟩ ∈ program.places)
    (isOuter : ⟨outer, above⟩ ∈ program.places) :
    ⟨node, skipped ++ outer :: above⟩ ∈ program.places := by
  induction skipped generalizing node with
  | nil =>
      have isChild := (Node.outer_mem_places isPlace).2
      exact Node.parts_mem_places isOuter (mem_parts.2 ⟨isChild, rfl⟩)
  | cons first skipped ih =>
      rcases Node.outer_mem_places isPlace with ⟨isFirst, isChild⟩
      exact Node.parts_mem_places (ih isFirst) (mem_parts.2 ⟨isChild, rfl⟩)

/-- The nodes on the way from a place to the program are different from each other. -/
theorem nodup_lineage {program : Node} (coherent : program.IsCoherent) {place : Place}
    (isPlace : place ∈ program.places) :
    (place.node.id :: place.above.map Node.id).Nodup := by
  rcases place with ⟨node, above⟩
  induction above generalizing node with
  | nil => simp
  | cons outer above ih =>
      have isOuter := (Node.outer_mem_places isPlace).1
      refine List.nodup_cons.2 ⟨?_, ih outer isOuter⟩
      intro isAbove
      have named : (outers (outer :: above)).map Place.node = outer :: above := map_node_outers _
      rw [← named, List.map_map] at isAbove
      rcases List.mem_map.1 isAbove with ⟨other, isOther, same⟩
      have equal := coherent other (outers_subset_places isPlace isOther) ⟨node, _⟩ isPlace same
      have smaller := sizeOf_lt_of_mem_above isPlace (named ▸ List.mem_map_of_mem isOther)
      rw [equal] at smaller
      exact Nat.lt_irrefl _ smaller

end Place

end DocHarvest
