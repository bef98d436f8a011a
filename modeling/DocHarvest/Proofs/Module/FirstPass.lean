import DocHarvest.Proofs.Module.Reported

/-!
# The first pass

In a program that is a tree, every step of the walk keeps tables and records in order: a place is put
aside, or it has been visited with the export around it, or it is visited now, alone or together with
the declaration that it wraps. So tables and records are in order when the walk has passed all places
that it reaches, and the walk has recorded the findings there and nothing else.
-/

namespace DocHarvest

open Run

/-- A program in which no node occurs twice and no comment defines anything by itself. -/
structure Node.IsPlain (program : Node) : Prop where
  isProgram : program.isProgram
  tree : program.IsTree
  literal : program.HasLiteralSources
  inner : ∀ comment ∈ program.innerComments, comment.isDoc → comment.IsPlain
  comments : ∀ place ∈ program.places, ∀ comment ∈ place.node.leading ++ place.node.trailing,
    comment.isDoc → comment.IsPlain

/-- No node of a program has an identity that is still to be given out. -/
def Node.Below (program : Node) (nextNode : NodeId) : Prop :=
  ∀ place ∈ program.places, place.node.id < nextNode

instance (program : Node) (nextNode : NodeId) : Decidable (program.Below nextNode) :=
  inferInstanceAs (Decidable (∀ place ∈ program.places, place.node.id < nextNode))

variable {scope : Scope} {start state : Progress} {done : List Place}

/-- Tables and records are in order once the walk has passed some places. -/
structure Walked (scope : Scope) (start : Progress) (done : List Place) (state : Progress)
    (docs : List Doc) : Prop where
  tabled : Tabled scope.program start done state
  unwraps : Unwraps scope.program done state
  reported : Reported scope start (done.filterMap (Place.finding? scope.program)) state docs

/-- What may be assumed about a place that the walk comes to. -/
structure Next (program : Node) (done : List Place) (place : Place) : Prop where
  areWalked : done ⊆ program.walked
  isWalked : place ∈ program.walked
  inside : place.above ≠ []
  outersDone : Place.outers place.above ⊆ done
  isNew : place ∉ done

/-- A state in which a node has been marked as visited, together with its parent. -/
def visiting (state : Progress) (node : Node) (parent : Option Node) : Progress :=
  { state with
    visited := state.visited.insert node.id
    links := state.links.setParent node.id parent }

/-- Reaching a node does nothing if it has been visited, and else documents it. -/
theorem ends_push {node : Node} {parent : Option Node} {outcome : Except Fault Unit}
    {after : Progress} (ended : Ends (Module.push scope node parent) state outcome after) :
    (node.id = scope.program.id ∨ state.visited.contains node.id) ∧ outcome = .ok () ∧
        after = state ∨
      (node.id ≠ scope.program.id ∧ state.visited.contains node.id = false) ∧
        Ends (if node.shape.isExport then
            Export.unwrap scope node (Module.isLastIn node parent)
          else Module.documentNode scope node parent (Module.isLastIn node parent))
          (visiting state node parent) outcome after := by
  unfold Module.push at ended
  split at ended
  · rename_i isRoot
    exact Or.inl ⟨Or.inl (by simpa using isRoot), ends_pure.1 ended⟩
  · rename_i notRoot
    have rest := ends_lift_bind.1 ended
    cases isVisited : state.visited.contains node.id with
    | true =>
        change Ends (if state.visited.contains node.id then _ else _) state outcome after at rest
        rw [isVisited] at rest
        exact Or.inl ⟨Or.inr rfl, ends_pure.1 rest⟩
    | false =>
        change Ends (if state.visited.contains node.id then _ else _) state outcome after at rest
        rw [isVisited] at rest
        simp only [Bool.false_eq_true, if_false] at rest
        have marked := ends_lift_bind.1 rest
        have linked := ends_lift_bind.1 marked
        exact Or.inr ⟨⟨by simpa using notRoot, rfl⟩, linked⟩

theorem ends_visit_of_deferred {node : Node} {parent : Option Node}
    (deferred : Export.isDeferred scope.program node) {outcome : Except Fault Node.Descent}
    {after : Progress} (ended : Ends (Module.visit scope node parent) state outcome after) :
    outcome = .ok .skip ∧ after = { state with pending := state.pending ++ [node] } := by
  rw [Module.visit, if_pos deferred] at ended
  rcases ends_bind.1 ended with ⟨_, middle, changed, rested⟩ | ⟨fault, impossible, -⟩
  · rcases ends_modify.1 changed with ⟨-, rfl⟩
    exact ends_pure.1 rested
  · cases (ends_modify.1 impossible).1

theorem ends_visit_of_entered {node : Node} {parent : Option Node}
    (entered : Export.isDeferred scope.program node = false) {descent : Node.Descent}
    {after : Progress} (ended : Ends (Module.visit scope node parent) state (.ok descent) after) :
    Ends (Module.push scope node parent) state (.ok ()) after ∧ descent = .enter := by
  rw [Module.visit, entered] at ended
  rcases ends_bind_ok.1 ended with ⟨_, middle, pushed, rested⟩
  rcases ends_pure.1 rested with ⟨same, rfl⟩
  cases same
  exact ⟨pushed, rfl⟩

namespace Walked

variable {docs : List Doc} {place : Place}

/-- Around a place that comes next the recorded classes have been processed. -/
theorem processed_iff (walked : Walked scope start done state docs) (plain : scope.program.IsPlain)
    (next : Next scope.program done place) {classNode : Node}
    (innermost : place.innermostClass? = some classNode) :
    state.classes.any (fun processed => processed.id == classNode.id) =
      scope.program.recordedClasses.any fun recorded => recorded.id == classNode.id := by
  have isPlace := Node.walked_subset_places next.isWalked
  rw [walked.reported.classes, Bool.eq_iff_iff, Reported.any_classes_iff,
    Node.any_found_iff plain.tree plain.literal plain.isProgram next.areWalked isPlace
      next.outersDone innermost]
  simp

theorem stands (walked : Walked scope start done state docs) (plain : scope.program.IsPlain)
    (next : Next scope.program done place) :
    Stands scope (visiting state place.node place.above.head?) place := by
  have isPlace := Node.walked_subset_places next.isWalked
  have tabled : Tabled scope.program start (done ++ [place])
      (visiting state place.node place.above.head?) :=
    walked.tabled.mark plain.tree isPlace next.inside (List.subset_append_left _ _) (by simp)
      (Or.inl (by simp))
  constructor
  · exact plain.tree
  · exact plain.isProgram
  · exact isPlace
  · exact next.inside
  · exact tabled.fits
  · simp [visiting, Links.parentOf, Links.setParent]
  · exact Links.knows_setParent_self place _
  · intro outer isOuter
    have entered := (Place.outers_walked next.isWalked outer isOuter).2
    exact tabled.knows outer (List.mem_append_left _ (next.outersDone isOuter)) entered
  · exact fun classNode innermost => walked.processed_iff plain next innermost

theorem pass (walked : Walked scope start done state docs)
    (nothing : place.finding? scope.program = none)
    (known : Export.isDeferred scope.program place.node = false → state.links.Knows place)
    (unwrapped : Export.isDeferred scope.program place.node = false → ∀ part ∈ place.parts,
      part.isUnwrapped → state.visited.contains part.node.id) :
    Walked scope start (done ++ [place]) state docs where
  tabled := walked.tabled.pass known
  unwraps := walked.unwraps.pass unwrapped
  reported := by
    rw [List.filterMap_append]
    simpa [nothing] using walked.reported

theorem defer (walked : Walked scope start done state docs)
    (deferred : Export.isDeferred scope.program place.node) (pending : List Node) :
    Walked scope start (done ++ [place]) { state with pending } docs := by
  have passed : Walked scope start (done ++ [place]) state docs := by
    refine walked.pass ?_ ?_ ?_
    · simp [Place.finding?, deferred]
    · simp [deferred]
    · simp [deferred]
  exact ⟨⟨passed.tabled.nextNode, passed.tabled.fits, passed.tabled.knows, passed.tabled.marked⟩,
    passed.unwraps, ⟨passed.reported.stored, passed.reported.told, passed.reported.classes,
      passed.reported.names⟩⟩

/-- A place that has been visited together with another one. -/
theorem revisit (walked : Walked scope start done state docs)
    (next : Next scope.program done place) (isVisited : state.visited.contains place.node.id) :
    Walked scope start (done ++ [place]) state docs := by
  have isPlace := Node.walked_subset_places next.isWalked
  rcases walked.tabled.marked place isPlace isVisited with isDone | ⟨nothing, unwrapped, known⟩
  · exact absurd isDone next.isNew
  · refine walked.pass nothing (fun _ => known) fun _ part isPart isUnwrapped => ?_
    -- an export that has been visited before its turn is itself wrapped, so it wraps nothing
    rcases Place.isExport_of_isUnwrapped isPart isUnwrapped with ⟨isExport, notWrapped⟩
    rw [unwrapped isExport] at notWrapped
    cases notWrapped

/-- A place that is not wrapped, since it has not been visited when its turn comes. -/
theorem not_isUnwrapped (walked : Walked scope start done state docs)
    (next : Next scope.program done place)
    (unvisited : state.visited.contains place.node.id = false) : place.isUnwrapped = false := by
  cases unwrapped : place.isUnwrapped with
  | false => rfl
  | true =>
      rcases List.exists_cons_of_ne_nil next.inside with ⟨outer, rest, above⟩
      have isOuter : (⟨outer, rest⟩ : Place) ∈ Place.outers place.above := by
        rw [above]
        exact List.mem_cons_self ..
      have isPart : place ∈ (⟨outer, rest⟩ : Place).parts := by
        rcases place with ⟨node, outers⟩
        cases above
        exact Place.mem_parts.2
          ⟨(Node.outer_mem_places (Node.walked_subset_places next.isWalked)).2, rfl⟩
      have entered := (Place.outers_walked next.isWalked _ isOuter).2
      have isVisited := walked.unwraps _ (next.outersDone isOuter) entered place isPart unwrapped
      rw [unvisited] at isVisited
      cases isVisited

theorem passed_subset (next : Next scope.program done place) :
    done ++ [place] ⊆ scope.program.places := by
  refine List.append_subset.2 ⟨fun other isDone => ?_, fun other isNew => ?_⟩
  · exact Node.walked_subset_places (next.areWalked isDone)
  · rw [List.mem_singleton.1 isNew]
    exact Node.walked_subset_places next.isWalked

theorem tabled_visiting (walked : Walked scope start done state docs)
    (plain : scope.program.IsPlain) (next : Next scope.program done place) :
    Tabled scope.program start (done ++ [place])
      (visiting state place.node place.above.head?) :=
  walked.tabled.mark plain.tree (Node.walked_subset_places next.isWalked) next.inside
    (List.subset_append_left _ _) (by simp) (Or.inl (by simp))

/-- A place that is recorded for what was decided about itself, or about its declaration. -/
theorem record (walked : Walked scope start done state docs) (plain : scope.program.IsPlain)
    (next : Next scope.program done place) {about : Place} {middle after : Progress}
    {more : List Doc} (tabled : Tabled scope.program start (done ++ [place]) middle)
    (unwraps : Unwraps scope.program (done ++ [place]) middle)
    (store : middle.store = state.store) (classes : middle.classes = state.classes)
    (names : middle.links.names = state.links.names)
    (finding : place.finding? scope.program = about.found? scope.program)
    (sameClass : about.innermostClass? = place.innermostClass?)
    (documented : Documented scope about middle after more) :
    Walked scope start (done ++ [place]) after (docs ++ more) where
  tabled := tabled.marks (passed_subset next) documented.marks documented.nextNode
  unwraps := unwraps.mono documented.marks.visited
  reported := by
    have findings : (done ++ [place]).filterMap (Place.finding? scope.program) =
        done.filterMap (Place.finding? scope.program) ++
          (about.found? scope.program).toList := by
      rw [List.filterMap_append, ← finding]
      cases found : place.finding? scope.program <;> simp [found]
    rw [findings]
    refine (walked.reported.pass store classes names).documented ?_ documented
    intro classNode innermost recorded
    have processed := walked.processed_iff plain next (sameClass ▸ innermost)
    rw [Place.isInRecordedClass, innermost] at recorded
    rcases List.any_eq_true.1 (processed.trans recorded) with ⟨found, isFound, same⟩
    exact ⟨found, classes ▸ isFound, by simpa using same⟩

theorem document (walked : Walked scope start done state docs) (plain : scope.program.IsPlain)
    (next : Next scope.program done place) {after : Progress} {more : List Doc}
    (finding : place.finding? scope.program = place.found? scope.program)
    (noExport : place.node.shape.isExport = false)
    (documented : Documented scope place (visiting state place.node place.above.head?) after more) :
    Walked scope start (done ++ [place]) after (docs ++ more) := by
  refine walked.record plain next (walked.tabled_visiting plain next) ?_ rfl rfl rfl finding rfl
    documented
  have visited : Unwraps scope.program done (visiting state place.node place.above.head?) :=
    walked.unwraps.mono fun id wasVisited => (contains_insert_iff _ _ _).2 (Or.inl wasVisited)
  refine visited.pass fun _ part isPart isUnwrapped => ?_
  have isExport := (Place.isExport_of_isUnwrapped isPart isUnwrapped).1
  rw [noExport] at isExport
  cases isExport

/-- The state in which the declaration of an export is documented. -/
def unwrapping (state : Progress) (outer : Place) (declaration : Node) : Progress :=
  visiting (visiting state outer.node outer.above.head?) declaration (some outer.node)

theorem tabled_unwrapping (walked : Walked scope start done state docs)
    (plain : scope.program.IsPlain) (next : Next scope.program done place) {declaration : Node}
    (wraps : ⟨declaration, place.node :: place.above⟩ ∈ place.parts)
    (unwrapped : Place.isUnwrapped ⟨declaration, place.node :: place.above⟩) :
    Tabled scope.program start (done ++ [place]) (unwrapping state place declaration) := by
  have isPlace := Node.parts_mem_places (Node.walked_subset_places next.isWalked) wraps
  refine (walked.tabled_visiting plain next).mark plain.tree isPlace (by simp) (List.Subset.refl _)
    (fun _ => Or.inl) (Or.inr ⟨?_, fun _ => unwrapped⟩)
  simp [Place.finding?, unwrapped]

theorem stands_unwrapping (walked : Walked scope start done state docs)
    (plain : scope.program.IsPlain) (next : Next scope.program done place) {declaration : Node}
    (isExport : place.node.shape.isExport)
    (entered : Export.isDeferred scope.program place.node = false)
    (wraps : ⟨declaration, place.node :: place.above⟩ ∈ place.parts)
    (unwrapped : Place.isUnwrapped ⟨declaration, place.node :: place.above⟩) :
    Stands scope (unwrapping state place declaration) ⟨declaration, place.node :: place.above⟩ := by
  have tabled := walked.tabled_unwrapping plain next wraps unwrapped
  have sameClass : Place.innermostClass? ⟨declaration, place.node :: place.above⟩ =
      place.innermostClass? := by
    simp [Place.innermostClass?, Node.isClass_of_isExport isExport]
  constructor
  · exact plain.tree
  · exact plain.isProgram
  · exact Node.parts_mem_places (Node.walked_subset_places next.isWalked) wraps
  · simp
  · exact tabled.fits
  · simp [unwrapping, visiting, Links.parentOf, Links.setParent]
  · exact Links.knows_setParent_self ⟨declaration, place.node :: place.above⟩ _
  · intro outer isOuter
    rcases List.mem_cons.1 isOuter with rfl | isFarther
    · exact tabled.knows _ (by simp) entered
    · have enteredToo := (Place.outers_walked next.isWalked outer isFarther).2
      exact tabled.knows outer (List.mem_append_left _ (next.outersDone isFarther)) enteredToo
  · rw [sameClass]
    exact fun classNode innermost => walked.processed_iff plain next innermost

theorem unwrap (walked : Walked scope start done state docs) (plain : scope.program.IsPlain)
    (next : Next scope.program done place) {declaration : Node}
    (isExport : place.node.shape.isExport)
    (entered : Export.isDeferred scope.program place.node = false)
    (notWrapped : place.isUnwrapped = false)
    (wrapped : place.node.exported? = some declaration)
    (wraps : ⟨declaration, place.node :: place.above⟩ ∈ place.parts)
    (unwrapped : Place.isUnwrapped ⟨declaration, place.node :: place.above⟩)
    {after : Progress} {more : List Doc}
    (documented : Documented scope ⟨declaration, place.node :: place.above⟩
      (unwrapping state place declaration) after more) :
    Walked scope start (done ++ [place]) after (docs ++ more) := by
  refine walked.record plain next (walked.tabled_unwrapping plain next wraps unwrapped) ?_ rfl rfl
    rfl ?_ ?_ documented
  · have visited : Unwraps scope.program done (unwrapping state place declaration) := by
      refine walked.unwraps.mono fun id wasVisited => ?_
      exact (contains_insert_iff _ _ _).2 (Or.inl ((contains_insert_iff _ _ _).2 (Or.inl wasVisited)))
    refine visited.pass fun _ part isPart isUnwrapped => ?_
    rcases Place.id_eq_of_isUnwrapped isPart isUnwrapped with ⟨other, wrappedToo, same⟩
    cases wrapped.symm.trans wrappedToo
    exact (contains_insert_iff _ _ _).2 (Or.inr same.symm)
  · simp [Place.finding?, entered, notWrapped, isExport, wrapped]
  · simp [Place.innermostClass?, Node.isClass_of_isExport isExport]

theorem empty (walked : Walked scope start done state docs) (plain : scope.program.IsPlain)
    (next : Next scope.program done place) (isExport : place.node.shape.isExport)
    (wrapsNothing : place.node.exported? = none) :
    Walked scope start (done ++ [place]) (visiting state place.node place.above.head?) docs where
  tabled := walked.tabled_visiting plain next
  unwraps := by
    have visited : Unwraps scope.program done (visiting state place.node place.above.head?) :=
      walked.unwraps.mono fun id wasVisited => (contains_insert_iff _ _ _).2 (Or.inl wasVisited)
    refine visited.pass fun _ part isPart isUnwrapped => ?_
    rcases Place.id_eq_of_isUnwrapped isPart isUnwrapped with ⟨declaration, wrapped, -⟩
    cases wrapsNothing.symm.trans wrapped
  reported := by
    have nothing : place.finding? scope.program = none := by
      simp [Place.finding?, isExport, wrapsNothing]
    have findings : (done ++ [place]).filterMap (Place.finding? scope.program) =
        done.filterMap (Place.finding? scope.program) := by simp [nothing]
    rw [findings]
    exact walked.reported.pass rfl rfl rfl

end Walked

/-! ## The walk -/

theorem decorators_subset_children (node : Node) : node.shape.decorators ⊆ node.children := by
  unfold Node.children
  unfold Shape.decorators
  intro decorator isDecorator
  split at isDecorator
  · rename_i shape
    simp [shape, Shape.children, isDecorator]
  · rename_i shape
    simp [shape, Shape.children, isDecorator]
  · rename_i shape
    simp [shape, Shape.children, isDecorator]
  · cases isDecorator

namespace Node.IsPlain

variable {program : Node} {place : Place}

theorem leading (plain : program.IsPlain) (isPlace : place ∈ program.places) :
    ∀ comment ∈ place.node.leading, comment.isDoc → comment.IsPlain :=
  fun comment isLeading => plain.comments place isPlace comment (List.mem_append_left _ isLeading)

theorem trailing (plain : program.IsPlain) (isPlace : place ∈ program.places) :
    ∀ comment ∈ place.node.trailing, comment.isDoc → comment.IsPlain :=
  fun comment isTrailing => plain.comments place isPlace comment (List.mem_append_right _ isTrailing)

theorem decorator (plain : program.IsPlain) (isPlace : place ∈ program.places) :
    ∀ comment ∈ Export.decoratorComments place.node, comment.isDoc → comment.IsPlain := by
  unfold Export.decoratorComments
  split
  · rename_i first rest decorators
    have isChild : first ∈ place.node.children :=
      decorators_subset_children place.node (decorators ▸ List.mem_cons_self ..)
    have isPart : ⟨first, place.node :: place.above⟩ ∈ place.parts :=
      Place.mem_parts.2 ⟨isChild, rfl⟩
    exact plain.leading (Node.parts_mem_places isPlace isPart)
  · simp

end Node.IsPlain

namespace Walked

variable {docs : List Doc} {place : Place} {after : Progress}

theorem documentNode (walked : Walked scope start done state docs) (plain : scope.program.IsPlain)
    (unfiltered : scope.filter = none) (below : scope.program.Below start.nextNode)
    (next : Next scope.program done place) (noExport : place.node.shape.isExport = false)
    (unvisited : state.visited.contains place.node.id = false) {isLast : Bool}
    (ended : Ends (Module.documentNode scope place.node place.above.head? isLast)
      (visiting state place.node place.above.head?) (.ok ()) after) :
    ∃ more, Walked scope start (done ++ [place]) after (docs ++ more) := by
  have isPlace := Node.walked_subset_places next.isWalked
  have stands := walked.stands plain next
  have bounded : ∀ other ∈ scope.program.places, other.node.id < state.nextNode :=
    fun other isOther => Nat.lt_of_lt_of_le (below other isOther) walked.tabled.nextNode
  obtain ⟨more, documented⟩ := stands.documentBoth unfiltered bounded (by
    split
    · exact plain.decorator isPlace
    · exact plain.leading isPlace) (plain.trailing isPlace) ended
  refine ⟨more, walked.document plain next ?_ noExport documented⟩
  have entered : Export.isDeferred scope.program place.node = false :=
    Node.isDeferred_eq_false noExport
  have notWrapped := walked.not_isUnwrapped next unvisited
  simp [Place.finding?, entered, notWrapped, noExport]

theorem documentExport (walked : Walked scope start done state docs)
    (plain : scope.program.IsPlain) (unfiltered : scope.filter = none)
    (below : scope.program.Below start.nextNode) (next : Next scope.program done place)
    (isExport : place.node.shape.isExport)
    (entered : Export.isDeferred scope.program place.node = false)
    (unvisited : state.visited.contains place.node.id = false) {isLast : Bool}
    (ended : Ends (Export.unwrap scope place.node isLast)
      (visiting state place.node place.above.head?) (.ok ()) after) :
    ∃ more, Walked scope start (done ++ [place]) after (docs ++ more) := by
  have isPlace := Node.walked_subset_places next.isWalked
  have bounded : ∀ other ∈ scope.program.places, other.node.id < state.nextNode :=
    fun other isOther => Nat.lt_of_lt_of_le (below other isOther) walked.tabled.nextNode
  have notWrapped := walked.not_isUnwrapped next unvisited
  unfold Export.unwrap at ended
  cases wrapped : place.node.exported? with
  | none =>
      rw [wrapped] at ended
      rcases ends_pure.1 ended with ⟨-, rfl⟩
      exact ⟨[], by simpa using walked.empty plain next isExport wrapped⟩
  | some declaration =>
      rw [wrapped] at ended
      have wraps : ⟨declaration, place.node :: place.above⟩ ∈ place.parts :=
        Place.mem_parts.2 ⟨Node.mem_children_of_exported? wrapped, rfl⟩
      have isPart := Node.parts_mem_places isPlace wraps
      have unwrapped := Place.isUnwrapped_of_exported? isExport notWrapped wrapped
      have stands := walked.stands_unwrapping plain next isExport entered wraps unwrapped
      dsimp only at ended
      have marked := ends_lift_bind.1 ended
      have linked := ends_lift_bind.1 marked
      obtain ⟨more, documented⟩ := stands.documentBoth unfiltered bounded (by
        simp only [List.append_assoc, List.forall_mem_append]
        exact ⟨plain.leading isPart, plain.leading isPlace, plain.decorator isPart⟩) (by
        simp only [List.forall_mem_append]
        exact ⟨plain.trailing isPart, plain.trailing isPlace⟩) linked
      exact ⟨more, walked.unwrap plain next isExport entered notWrapped wrapped wraps unwrapped
        documented⟩

/-- One step of the walk keeps tables and records in order. -/
theorem step (walked : Walked scope start done state docs) (plain : scope.program.IsPlain)
    (unfiltered : scope.filter = none) (below : scope.program.Below start.nextNode)
    (next : Next scope.program done place) {descent : Node.Descent}
    (ended : Ends (Module.enter scope place.node place.above.head?) state (.ok descent) after)
    (faultless : after.invalid = state.invalid) :
    ∃ more, Walked scope start (done ++ [place]) after (docs ++ more) := by
  rw [Module.enter_eq] at ended
  have visited := Module.ends_guarded_of_invalid (Module.visit_sound scope _ _) ended faultless
  cases deferred : Export.isDeferred scope.program place.node with
  | true =>
      rcases ends_visit_of_deferred deferred visited with ⟨-, rfl⟩
      exact ⟨[], by simpa using walked.defer deferred _⟩
  | false =>
      rcases ends_visit_of_entered deferred visited with ⟨pushed, -⟩
      rcases ends_push pushed with ⟨isRoot | isVisited, -, rfl⟩ | ⟨⟨-, unvisited⟩, documented⟩
      · have isPlace := Node.walked_subset_places next.isWalked
        have same := plain.tree.place_eq isPlace (Node.root_mem_places _) isRoot
        exact absurd (by rw [same]) next.inside
      · exact ⟨[], by simpa using walked.revisit next isVisited⟩
      · split at documented
        · rename_i isExport
          exact walked.documentExport plain unfiltered below next isExport deferred unvisited
            documented
        · rename_i noExport
          exact walked.documentNode plain unfiltered below next (by simpa using noExport) unvisited
            documented

end Walked

/-- What lies ahead of the walk when it has passed some places. -/
structure Ahead (program : Node) (done rest : List Place) : Prop where
  areWalked : done ++ rest ⊆ program.walked
  distinct : (done ++ rest).Nodup
  outersDone : ∀ place ∈ done, Place.outers place.above ⊆ done
  rooted : Place.Rooted (fun node => !Export.isDeferred program node) done rest

namespace Ahead

variable {program : Node} {place : Place} {rest : List Place}

theorem atRoot (isProgram : program.isProgram) (tree : program.IsTree) :
    Ahead program [⟨program, []⟩] ((⟨program, []⟩ : Place).parts.flatMap
      (Place.reach fun node => !Export.isDeferred program node)) := by
  have entered : (!Export.isDeferred program program) = true := by
    rw [Node.isDeferred_eq_false (Node.isExport_of_isProgram isProgram)]
    rfl
  have walked : program.walked = [⟨program, []⟩] ++ (⟨program, []⟩ : Place).parts.flatMap
      (Place.reach fun node => !Export.isDeferred program node) :=
    Place.reach_of_enters entered
  constructor
  · rw [walked]
    exact List.Subset.refl _
  · rw [← walked]
    exact (List.Nodup.of_map _ tree).sublist (Place.reach_sublist _)
  · simp [Place.outers]
  · exact Place.Rooted.flatMap entered (List.Subset.refl _) (List.mem_singleton_self _)

theorem outers_subset (ahead : Ahead program done (place :: rest)) :
    Place.outers place.above ⊆ done := by
  rcases ahead.rooted.1 with ⟨outer, isDone, -, isPart⟩
  rw [(Place.mem_parts.1 isPart).2]
  exact List.cons_subset.2 ⟨isDone, ahead.outersDone outer isDone⟩

theorem next (ahead : Ahead program done (place :: rest)) : Next program done place where
  areWalked := (List.append_subset.1 ahead.areWalked).1
  isWalked := ahead.areWalked (by simp)
  inside := by
    rcases ahead.rooted.1 with ⟨outer, -, -, isPart⟩
    rw [(Place.mem_parts.1 isPart).2]
    simp
  outersDone := ahead.outers_subset
  isNew isDone := (List.nodup_append.1 ahead.distinct).2.2 _ isDone _ (List.mem_cons_self ..) rfl

theorem step (ahead : Ahead program done (place :: rest)) :
    Ahead program (done ++ [place]) rest where
  areWalked := by simpa using ahead.areWalked
  distinct := by simpa using ahead.distinct
  outersDone := by
    refine List.forall_mem_append.2 ⟨fun other isDone => ?_, fun other isNew => ?_⟩
    · exact List.subset_append_of_subset_left _ (ahead.outersDone other isDone)
    · rw [List.mem_singleton.1 isNew]
      exact List.subset_append_of_subset_left _ ahead.outers_subset
  rooted := ahead.rooted.2

end Ahead

theorem Module.ends_loop_cons {place : Place} {rest : List Place} {after : Progress}
    (ended : Ends ((place :: rest).forM fun place =>
      Module.enter scope place.node place.above.head? >>= fun _ => pure ()) state (.ok ()) after)
    (faultless : after.invalid = state.invalid) :
    ∃ descent middle,
      Ends (Module.enter scope place.node place.above.head?) state (.ok descent) middle ∧
        middle.invalid = state.invalid ∧
      Ends (rest.forM fun place => Module.enter scope place.node place.above.head? >>=
        fun _ => pure ()) middle (.ok ()) after ∧ after.invalid = middle.invalid := by
  have sound (place : Place) : Sound scope Category.Entity
      (Module.enter scope place.node place.above.head? >>= fun _ => pure ()) :=
    (Module.enter_sound scope _ _).bind fun _ => Sound.pure _
  rcases Sound.ends_forM_cons sound ended faultless with ⟨middle, first, same, later, sameToo⟩
  rcases ends_bind_ok.1 first with ⟨descent, _, entered, rested⟩
  rcases ends_pure.1 rested with ⟨-, rfl⟩
  exact ⟨descent, middle, entered, same, later, sameToo⟩

namespace Walked

variable {docs : List Doc} {after : Progress}

/-- The rest of the walk keeps tables and records in order. -/
theorem run {rest : List Place} (walked : Walked scope start done state docs)
    (plain : scope.program.IsPlain) (unfiltered : scope.filter = none)
    (below : scope.program.Below start.nextNode) (ahead : Ahead scope.program done rest)
    (ended : Ends (rest.forM fun place => Module.enter scope place.node place.above.head? >>=
      fun _ => pure ()) state (.ok ()) after)
    (faultless : after.invalid = state.invalid) :
    ∃ more, Walked scope start (done ++ rest) after (docs ++ more) := by
  induction rest generalizing done state docs with
  | nil =>
      rcases ends_forM_nil.1 ended with ⟨-, rfl⟩
      exact ⟨[], by simpa using walked⟩
  | cons place rest ih =>
      rcases Module.ends_loop_cons ended faultless with ⟨descent, middle, entered, same, later, sameToo⟩
      rcases walked.step plain unfiltered below ahead.next entered same with ⟨more, passed⟩
      rcases ih passed ahead.step later sameToo with ⟨others, finished⟩
      exact ⟨more ++ others, by simpa using finished⟩

end Walked

/-- A state in which nothing is known about a program. -/
structure Fresh (program : Node) (state : Progress) : Prop where
  unknown : ∀ place ∈ program.places, state.links.parents[place.node.id]? = none
  unvisited : ∀ id, state.visited.contains id = false
  classes : state.classes = []

theorem Fresh.walked (fresh : Fresh scope.program state) (isProgram : scope.program.isProgram) :
    Walked scope state [⟨scope.program, []⟩] state [] := by
  have noExport := Node.isExport_of_isProgram isProgram
  have nothing : Place.finding? scope.program ⟨scope.program, []⟩ = none := by
    simp [Place.finding?, noExport, Place.found?, Place.decision?, Place.isTopLevel, Place.member?,
      Place.isInRecordedClass, Place.innermostClass?]
  constructor
  · constructor
    · exact Nat.le_refl _
    · intro place isPlace parent noted
      rw [fresh.unknown place isPlace] at noted
      cases noted
    · intro place isRoot _ inside
      rw [List.mem_singleton.1 isRoot] at inside
      exact absurd rfl inside
    · intro place _ isVisited
      rw [fresh.unvisited] at isVisited
      cases isVisited
  · intro outer isRoot _ part isPart isUnwrapped
    have isExport := (Place.isExport_of_isUnwrapped isPart isUnwrapped).1
    rw [List.mem_singleton.1 isRoot, noExport] at isExport
    cases isExport
  · have findings : [(⟨scope.program, []⟩ : Place)].filterMap (Place.finding? scope.program) = [] := by
      simp [nothing]
    rw [findings]
    exact ⟨by simp, .nil, by simp [fresh.classes], by simp [fresh.classes]⟩

namespace Module

variable {after : Progress}

/-- The walk goes into every node that is not put aside, whatever faults there are. -/
theorem enter_descends (scope : Scope) (node : Node) (parent : Option Node) {state : Progress}
    {descent : Node.Descent} {after : Progress}
    (ended : Ends (enter scope node parent) state (.ok descent) after) :
    descent = if !Export.isDeferred scope.program node then .enter else .skip := by
  rw [enter_eq] at ended
  cases deferred : Export.isDeferred scope.program node with
  | true =>
      rcases ends_guarded ended with visited | ⟨fault, middle, entry, messages, failed, -, -, -⟩
      · cases (ends_visit_of_deferred deferred visited).1
        rfl
      · cases (ends_visit_of_deferred deferred failed).1
  | false =>
      rcases ends_guarded ended with visited | ⟨fault, middle, entry, messages, -, answered, -, -⟩
      · exact (ends_visit_of_entered deferred visited).2
      · cases answered
        rfl

/-- The first pass is a loop over the places that the walk reaches. -/
theorem ends_walked {outcome : Except Fault Unit} {after : Progress}
    (ended : Ends (firstPass scope) state outcome after) :
    Ends (scope.program.walked.forM fun place =>
      enter scope place.node place.above.head? >>= fun _ => pure ()) state outcome after := by
  have looped : Ends (([⟨scope.program, []⟩] : List Place).flatMap
      (Place.reach fun node => !Export.isDeferred scope.program node) |>.forM fun place =>
        enter scope place.node place.above.head? >>= fun _ => pure ()) state outcome after :=
    Node.ends_walkStack (enter_descends scope) _ ended
  rwa [List.flatMap_singleton] at looped

/-- The first pass records the findings of a program, and nothing else. -/
theorem ends_firstPass (plain : scope.program.IsPlain) (unfiltered : scope.filter = none)
    (below : scope.program.Below state.nextNode) (fresh : Fresh scope.program state)
    (ended : Ends (firstPass scope) state (.ok ()) after)
    (faultless : after.invalid = state.invalid) :
    ∃ docs, Walked scope state scope.program.walked after docs := by
  have looped := ends_walked ended
  have entered : (!Export.isDeferred scope.program scope.program) = true := by
    rw [Node.isDeferred_eq_false (Node.isExport_of_isProgram plain.isProgram)]
    rfl
  rw [Node.walked, Place.reach_of_enters entered] at looped
  rcases ends_loop_cons looped faultless with ⟨descent, middle, visited, same, rest, sameToo⟩
  have stayed : middle = state := by
    rw [enter_eq] at visited
    have ran := ends_guarded_of_invalid (visit_sound scope _ _) visited same
    rcases ends_visit_of_entered (by simpa using entered) ran with ⟨pushed, -⟩
    rw [push, if_pos (by simp)] at pushed
    exact (ends_pure.1 pushed).2
  subst stayed
  rcases (fresh.walked plain.isProgram).run plain unfiltered below (.atRoot plain.isProgram
    plain.tree) rest sameToo with ⟨docs, walked⟩
  refine ⟨docs, ?_⟩
  rw [Node.walked, Place.reach_of_enters entered]
  exact walked

end Module

end DocHarvest
