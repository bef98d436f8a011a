import DocHarvest.Proofs.Module.Heeding
import DocHarvest.Proofs.Module.Stages

/-!
# The comments that the walk offers

The walk documents a place with the comments of its node, those of the declaration that an export
wraps, and those above a first decorator. `Survey` records which places have been documented when the
walk has passed some places: where exports, decorated nodes and nodes with comments stand in one place
each, every such node has lent its own comments at most once, and if it was visited, then for this or
because it describes what is around it.
-/

namespace DocHarvest

open Run

namespace Node

/-- Whether a node has to do with comments: it has some, or a decorator, or it is an export. -/
def isDistinctive (node : Node) : Bool :=
  !node.leading.isEmpty || !node.trailing.isEmpty || !node.shape.decorators.isEmpty ||
    node.shape.isExport

/-- A program in which exports, decorated nodes and nodes with comments stand in one place each. -/
def IsUnambiguous (program : Node) : Prop :=
  ∀ first ∈ program.places, ∀ second ∈ program.places, first.node.isDistinctive →
    first.node.id = second.node.id → first = second

theorem IsTree.isUnambiguous {program : Node} (tree : program.IsTree) : program.IsUnambiguous :=
  fun _ isPlace _ isPlaceToo _ same => tree.place_eq isPlace isPlaceToo same

theorem decoratorOccasions_of_isExport {node : Node} (isExport : node.shape.isExport) :
    node.decoratorOccasions = [] := by
  unfold decoratorOccasions
  unfold Shape.isExport at isExport
  split at isExport <;> simp_all [Shape.decorators]

end Node

namespace Place

/-- The nodes that lend their own comments when a place is documented. -/
def givers (place : Place) : List Node :=
  match place.node.exported? with
  | some declaration => [declaration, place.node]
  | none => if place.node.shape.isExport then [] else [place.node]

/-- The identities that are marked as visited when a place is documented. -/
def marks (place : Place) : List NodeId :=
  place.node.id :: place.node.exported?.toList.map Node.id

/-- Whether a place is the last one in what is around it. -/
def isLast (place : Place) : Bool :=
  Module.isLastIn place.node place.above.head?

/-- The comments above a decorator that a place is documented with. -/
def hoisted (place : Place) : List Occasion :=
  match place.node.exported? with
  | some declaration => declaration.decoratorOccasions
  | none => if place.node.leading.isEmpty then place.node.decoratorOccasions else []

/-- The comments before a place that it is documented with. -/
def leadingOffer (place : Place) : List Occasion :=
  place.givers.flatMap Node.leadingOccasions ++ place.hoisted

/-- The comments after a place that it is documented with. -/
def trailingOffer (place : Place) : List Occasion :=
  if place.isLast then place.givers.flatMap Node.trailingOccasions else []

/-- The comments that a place is documented with. -/
def offer (place : Place) : List Occasion :=
  place.leadingOffer ++ place.trailingOffer

end Place

variable {scope : Scope} {before state after : Progress} {place : Place}

/-! ## One place -/

/-- A node is documented with the comments before it, and then those after it if it is the last. -/
theorem Run.Documents.both {node : Node} {parent : Option Node} {comments others : List Comment}
    (target : ∃ place ∈ scope.program.places, place.node = node) {leading trailing : List Occasion}
    (areLeading : leading.map Occasion.comment = comments)
    (areTrailing : trailing.map Occasion.comment = others) {isLast : Bool}
    {outcome : Except Fault Unit}
    (ended : Ends (Run.documentComments scope (some node) parent comments >>= fun _ =>
      if !others.isEmpty && isLast then Run.documentComments scope none parent others else pure ())
      before outcome after) :
    Documents scope (leading ++ if isLast then trailing else []) before outcome after := by
  subst areLeading areTrailing
  refine bind (fun ran => documentComments _ _ ?_ leading ran) (fun {_ middle} rested => ?_) ended
  · rintro documented ⟨⟩
    exact target
  · cases isLast with
    | false =>
        simp only [Bool.and_false, Bool.false_eq_true, if_false] at rested ⊢
        exact ofPure rested
    | true =>
        simp only [Bool.and_true, if_true] at rested ⊢
        cases trailing with
        | nil => exact ofPure rested
        | cons occasion others =>
            refine documentComments none _ ?_ _ rested
            rintro documented ⟨⟩

/-- A place has been documented: its node and what it wraps are marked, and its comments heeded. -/
structure Pushes {α : Type} (scope : Scope) (place : Place) (before : Progress)
    (outcome : Except Fault α) (after : Progress) : Prop where
  entered : Export.isDeferred scope.program place.node = false
  inside : place.node.id ≠ scope.program.id
  unvisited : before.visited.contains place.node.id = false
  heeds : Heeds scope place.offer before outcome after
  nextNode : before.nextNode ≤ after.nextNode
  kept : ∀ id, before.visited.contains id → after.visited.contains id
  marks : ∀ id ∈ place.marks, after.visited.contains id
  traced : ∀ id, after.visited.contains id → before.visited.contains id ∨ id ∈ place.marks ∨
    ∃ part ∈ scope.program.places, part.node.id = id ∧ part.isBound

/-- A place has been passed over: it is put aside, or the program itself, or it has been visited. -/
structure Idles {α : Type} (scope : Scope) (place : Place) (before : Progress)
    (outcome : Except Fault α) (after : Progress) : Prop where
  reason : Export.isDeferred scope.program place.node ∨ place.node.id = scope.program.id ∨
    before.visited.contains place.node.id
  heeds : Heeds scope [] before outcome after
  nextNode : after.nextNode = before.nextNode
  visited : after.visited = before.visited

/-- A state in which the nodes of a place have been marked, and in which it is documented then. -/
structure Marked (place : Place) (before marked : Progress) : Prop where
  invalid : marked.invalid = before.invalid
  store : marked.store = before.store
  nextNode : marked.nextNode = before.nextNode
  visited : ∀ id, marked.visited.contains id ↔ before.visited.contains id ∨ id ∈ place.marks

namespace Module

theorem ends_documentNode (isPlace : place ∈ scope.program.places)
    (noExport : place.node.shape.isExport = false) {outcome : Except Fault Unit}
    (ended : Ends (documentNode scope place.node place.above.head? place.isLast)
      (visiting before place.node place.above.head?) outcome after) :
    ∃ marked, Marked place before marked ∧ Documents scope place.offer marked outcome after := by
  have wrapsNothing : place.node.exported? = none := by
    unfold Node.exported?
    unfold Shape.isExport at noExport
    split <;> simp_all
  have marked : Marked place before (visiting before place.node place.above.head?) := by
    refine ⟨rfl, rfl, rfl, fun id => ?_⟩
    rw [visiting, contains_insert_iff]
    simp [Place.marks, wrapsNothing]
  have areLeading : place.leadingOffer.map Occasion.comment =
      if place.node.leading.isEmpty then Export.decoratorComments place.node
      else place.node.leading := by
    simp only [Place.leadingOffer, Place.givers, Place.hoisted, wrapsNothing, noExport,
      Bool.false_eq_true, if_false, List.flatMap_singleton, List.map_append]
    split
    · rename_i nothing
      simp [Node.leadingOccasions, List.isEmpty_iff.1 nothing]
    · simp [Node.leadingOccasions]
  have areTrailing : (place.givers.flatMap Node.trailingOccasions).map Occasion.comment =
      place.node.trailing := by
    simp [Place.givers, wrapsNothing, noExport, Node.trailingOccasions]
  exact ⟨_, marked, Documents.both ⟨place, isPlace, rfl⟩ areLeading areTrailing ended⟩

theorem ends_unwrap (isPlace : place ∈ scope.program.places)
    (isExport : place.node.shape.isExport) {outcome : Except Fault Unit}
    (ended : Ends (Export.unwrap scope place.node place.isLast)
      (visiting before place.node place.above.head?) outcome after) :
    ∃ marked, Marked place before marked ∧ Documents scope place.offer marked outcome after := by
  unfold Export.unwrap at ended
  cases wrapped : place.node.exported? with
  | none =>
      rw [wrapped] at ended
      have nothing : place.offer = [] := by
        simp [Place.offer, Place.leadingOffer, Place.trailingOffer, Place.givers, Place.hoisted,
          wrapped, isExport, Node.decoratorOccasions_of_isExport isExport]
      rw [nothing]
      refine ⟨visiting before place.node place.above.head?, ⟨rfl, rfl, rfl, fun id => ?_⟩,
        .ofPure ended⟩
      rw [visiting, contains_insert_iff]
      simp [Place.marks, wrapped]
  | some declaration =>
      rw [wrapped] at ended
      have isPart : ⟨declaration, place.node :: place.above⟩ ∈ scope.program.places :=
        Node.parts_mem_places isPlace
          (Place.mem_parts.2 ⟨Node.mem_children_of_exported? wrapped, rfl⟩)
      dsimp only at ended
      have visited := ends_lift_bind.1 ended
      have linked := ends_lift_bind.1 visited
      have areLeading : place.leadingOffer.map Occasion.comment = declaration.leading ++
          place.node.leading ++ Export.decoratorComments declaration := by
        simp [Place.leadingOffer, Place.givers, Place.hoisted, wrapped, Node.leadingOccasions]
      have areTrailing : (place.givers.flatMap Node.trailingOccasions).map Occasion.comment =
          declaration.trailing ++ place.node.trailing := by
        simp [Place.givers, wrapped, Node.trailingOccasions]
      refine ⟨Walked.unwrapping before place declaration, ⟨rfl, rfl, rfl, fun id => ?_⟩,
        Documents.both ⟨_, isPart, rfl⟩ areLeading areTrailing linked⟩
      change ((before.visited.insert place.node.id).insert declaration.id).contains id ↔ _
      rw [contains_insert_iff, contains_insert_iff]
      simp [Place.marks, wrapped, or_assoc]

theorem push_cases (isPlace : place ∈ scope.program.places)
    (entered : Export.isDeferred scope.program place.node = false) {outcome : Except Fault Unit}
    (ended : Ends (push scope place.node place.above.head?) before outcome after) :
    Pushes scope place before outcome after ∨ Idles scope place before outcome after := by
  rcases ends_push ended with ⟨reason, -, rfl⟩ | ⟨⟨inside, unvisited⟩, documented⟩
  · exact Or.inr ⟨Or.inr reason, .nothing List.prefix_rfl rfl, rfl, rfl⟩
  · have documents : ∃ marked, Marked place before marked ∧
        Documents scope place.offer marked outcome after := by
      split at documented
      · rename_i isExport
        exact ends_unwrap isPlace isExport documented
      · rename_i noExport
        exact ends_documentNode isPlace (by simpa using noExport) documented
    rcases documents with ⟨marked, ⟨invalid, store, nextNode, visited⟩, heeds, binds⟩
    refine Or.inl ⟨entered, inside, unvisited, ?_, ?_, ?_, ?_, ?_⟩
    · exact heeds.startsAt invalid (by rw [store])
    · rw [← nextNode]
      exact binds.nextNode
    · exact fun id isVisited => binds.kept id ((visited id).2 (Or.inl isVisited))
    · exact fun id isMark => binds.kept id ((visited id).2 (Or.inr isMark))
    · intro id isVisited
      rcases binds.bound id isVisited with wasMarked | isBound
      · exact ((visited id).1 wasMarked).imp_right Or.inl
      · exact Or.inr (Or.inr isBound)

/-- A visit of the walk documents its place or passes it over, whatever the answer to faults is. -/
theorem enter_cases (isPlace : place ∈ scope.program.places) {outcome : Except Fault Node.Descent}
    (ended : Ends (enter scope place.node place.above.head?) before outcome after) :
    Pushes scope place before outcome after ∨ Idles scope place before outcome after := by
  rw [enter_eq] at ended
  cases deferred : Export.isDeferred scope.program place.node with
  | true =>
      rcases ends_guarded ended with visited | ⟨fault, middle, entry, messages, failed, -, -, -⟩
      · rcases ends_visit_of_deferred deferred visited with ⟨-, rfl⟩
        exact Or.inr ⟨Or.inl deferred, .nothing List.prefix_rfl rfl, rfl, rfl⟩
      · cases (ends_visit_of_deferred deferred failed).1
  | false =>
      have answered {middle : Progress} {other : Except Fault Unit}
          (pushed : Ends (push scope place.node place.above.head?) before other middle)
          (store : after.store = middle.store) (visited : after.visited = middle.visited)
          (nextNode : after.nextNode = middle.nextNode)
          (invalid : middle.invalid <+: after.invalid)
          (well : (∃ value, outcome = .ok value) → after.invalid = middle.invalid →
            ∃ value, other = .ok value) :
          Pushes scope place before outcome after ∨ Idles scope place before outcome after := by
        rcases push_cases isPlace deferred pushed with pushes | idles
        · refine Or.inl ⟨deferred, pushes.inside, pushes.unvisited,
            pushes.heeds.recast store invalid well, nextNode ▸ pushes.nextNode, ?_, ?_, ?_⟩
          · exact visited ▸ pushes.kept
          · exact visited ▸ pushes.marks
          · exact visited ▸ pushes.traced
        · exact Or.inr ⟨idles.reason, idles.heeds.recast store invalid well,
            nextNode.trans idles.nextNode, visited.trans idles.visited⟩
      have visits {middle : Progress} {other : Except Fault Node.Descent}
          (visited : Ends (visit scope place.node place.above.head?) before other middle) :
          ∃ inner : Except Fault Unit,
            Ends (push scope place.node place.above.head?) before inner middle ∧
            ((∃ value, other = .ok value) → ∃ value, inner = .ok value) := by
        rw [visit, deferred] at visited
        rcases ends_bind.1 visited with ⟨_, _, pushed, rested⟩ | ⟨fault, failed, rfl⟩
        · rcases ends_pure.1 rested with ⟨-, rfl⟩
          exact ⟨_, pushed, fun _ => ⟨(), rfl⟩⟩
        · exact ⟨_, failed, by simp⟩
      rcases ends_guarded ended with visited | ⟨fault, middle, entry, messages, failed, -, -, rfl⟩
      · rcases visits visited with ⟨inner, pushed, well⟩
        exact answered pushed rfl rfl rfl List.prefix_rfl fun succeeded _ => well succeeded
      · rcases visits failed with ⟨inner, pushed, -⟩
        refine answered pushed rfl rfl rfl (List.prefix_append _ _) fun _ nothing => ?_
        simp at nothing

end Module

/-! ## All places -/

/--
What is known when the walk has passed some places: which of them it has documented, and that nodes
with comments have lent them once at most.
-/
structure Survey (scope : Scope) (done pushed : List Place) (state : Progress) : Prop where
  areDone : pushed ⊆ done
  entered : ∀ place ∈ pushed, Export.isDeferred scope.program place.node = false
  rooted : ∀ place ∈ pushed, ∃ outer ∈ done,
    Export.isDeferred scope.program outer.node = false ∧ place ∈ outer.parts
  visited : ∀ place ∈ done, Export.isDeferred scope.program place.node = false →
    place.node.id ≠ scope.program.id → state.visited.contains place.node.id
  marks : ∀ place ∈ pushed, ∀ id ∈ place.marks, state.visited.contains id
  apart : (pushed.flatMap Place.givers).Pairwise fun first second =>
    first.isDistinctive → second.isDistinctive → first.id ≠ second.id
  traced : ∀ place ∈ scope.program.places, place.node.isDistinctive →
    state.visited.contains place.node.id →
      place.isBound ∨ ∃ pusher ∈ pushed, place.node.id ∈ pusher.marks

namespace Place

variable {program : Node}

theorem giver_cases {giver : Node} (gives : giver ∈ place.givers) :
    giver = place.node ∨ place.node.exported? = some giver := by
  unfold givers at gives
  split at gives
  · rename_i declaration wrapped
    rcases List.mem_cons.1 gives with rfl | isSelf
    · exact Or.inr wrapped
    · exact Or.inl (List.mem_singleton.1 isSelf)
  · split at gives
    · cases gives
    · exact Or.inl (List.mem_singleton.1 gives)

theorem id_mem_marks_of_giver {giver : Node} (gives : giver ∈ place.givers) :
    giver.id ∈ place.marks := by
  rcases giver_cases gives with rfl | wrapped
  · exact List.mem_cons_self ..
  · simp [marks, wrapped]

theorem exported_mem_places (isPlace : place ∈ program.places) {declaration : Node}
    (wrapped : place.node.exported? = some declaration) :
    ⟨declaration, place.node :: place.above⟩ ∈ program.places :=
  Node.parts_mem_places isPlace (mem_parts.2 ⟨Node.mem_children_of_exported? wrapped, rfl⟩)

theorem giver_place (isPlace : place ∈ program.places) {giver : Node}
    (gives : giver ∈ place.givers) :
    ∃ spot ∈ program.places, spot.node = giver ∧ (spot = place ∨ spot ∈ place.parts) := by
  rcases giver_cases gives with rfl | wrapped
  · exact ⟨place, isPlace, rfl, Or.inl rfl⟩
  · exact ⟨_, exported_mem_places isPlace wrapped, rfl,
      Or.inr (mem_parts.2 ⟨Node.mem_children_of_exported? wrapped, rfl⟩)⟩

end Place

namespace Survey

variable {done pushed : List Place}

theorem idle {α : Type} {outcome : Except Fault α} (survey : Survey scope done pushed state)
    (idles : Idles scope place state outcome after) :
    Survey scope (done ++ [place]) pushed after where
  areDone := List.subset_append_of_subset_left _ survey.areDone
  entered := survey.entered
  rooted pusher isPushed := by
    rcases survey.rooted pusher isPushed with ⟨outer, isDone, rest⟩
    exact ⟨outer, List.mem_append_left _ isDone, rest⟩
  visited := by
    rw [idles.visited]
    refine List.forall_mem_append.2 ⟨survey.visited, fun other isNew entered inside => ?_⟩
    rw [List.mem_singleton.1 isNew] at entered inside ⊢
    rcases idles.reason with deferred | isRoot | isVisited
    · rw [deferred] at entered
      cases entered
    · exact absurd isRoot inside
    · exact isVisited
  marks := by
    rw [idles.visited]
    exact survey.marks
  apart := survey.apart
  traced := by
    rw [idles.visited]
    exact survey.traced

/-- A node that lends its comments when a place is documented has not lent them before. -/
theorem giver_apart {α : Type} {outcome : Except Fault α} (survey : Survey scope done pushed state)
    (unambiguous : scope.program.IsUnambiguous) (arePlaces : done ⊆ scope.program.places)
    (isPlace : place ∈ scope.program.places) (pushes : Pushes scope place state outcome after)
    {earlier giver : Node} (lent : earlier ∈ pushed.flatMap Place.givers)
    (gives : giver ∈ place.givers) (distinctive : giver.isDistinctive) :
    earlier.id ≠ giver.id := by
  intro same
  rcases List.mem_flatMap.1 lent with ⟨pusher, isPushed, gave⟩
  have isVisited := survey.marks pusher isPushed _ (Place.id_mem_marks_of_giver gave)
  have unvisited := pushes.unvisited
  rcases Place.giver_cases gives with rfl | wrapped
  · rw [← same, isVisited] at unvisited
    cases unvisited
  · -- a declaration has lent them before only if its export has been visited
    have isPart := Place.exported_mem_places isPlace wrapped
    have isPusher := arePlaces (survey.areDone isPushed)
    rcases Place.giver_place isPusher gave with ⟨spot, isSpot, rfl, around⟩
    have equal := unambiguous _ isPart spot isSpot distinctive same.symm
    suffices wasVisited : state.visited.contains place.node.id by
      rw [unvisited] at wasVisited
      cases wasVisited
    have outside {outer : Place} (isPart : spot ∈ outer.parts) : outer = place := by
      have above := (Place.mem_parts.1 isPart).2
      rw [← equal] at above
      rcases List.cons.inj above with ⟨sameNode, sameAbove⟩
      rcases outer with ⟨node, rest⟩
      rcases place with ⟨nodeToo, restToo⟩
      cases sameNode
      cases sameAbove
      rfl
    rcases around with rfl | isBelow
    · rcases survey.rooted spot isPushed with ⟨outer, isDone, -, isOuter⟩
      rw [outside isOuter] at isDone
      exact survey.visited place isDone pushes.entered pushes.inside
    · rw [outside isBelow] at isPushed
      exact survey.marks place isPushed _ (List.mem_cons_self ..)

theorem pairwise_givers (unambiguous : scope.program.IsUnambiguous)
    (isPlace : place ∈ scope.program.places) : place.givers.Pairwise fun first second =>
      first.isDistinctive → second.isDistinctive → first.id ≠ second.id := by
  unfold Place.givers
  split
  · rename_i declaration wrapped
    refine List.pairwise_pair.2 fun distinctive _ same => ?_
    have isPart := Place.exported_mem_places isPlace wrapped
    have equal := congrArg (fun spot => spot.above.length)
      (unambiguous _ isPart place isPlace distinctive same)
    simp at equal
  · split
    · exact .nil
    · exact List.pairwise_singleton ..

theorem push {α : Type} {outcome : Except Fault α} (survey : Survey scope done pushed state)
    (unambiguous : scope.program.IsUnambiguous) (arePlaces : done ⊆ scope.program.places)
    (isPlace : place ∈ scope.program.places)
    (rooted : ∃ outer ∈ done, Export.isDeferred scope.program outer.node = false ∧
      place ∈ outer.parts)
    (pushes : Pushes scope place state outcome after) :
    Survey scope (done ++ [place]) (pushed ++ [place]) after where
  areDone := by
    refine List.append_subset.2 ⟨?_, List.subset_append_right _ _⟩
    exact List.subset_append_of_subset_left _ survey.areDone
  entered := List.forall_mem_append.2 ⟨survey.entered, by simpa using pushes.entered⟩
  rooted := by
    have still {other : Place} (given : ∃ outer ∈ done,
        Export.isDeferred scope.program outer.node = false ∧ other ∈ outer.parts) :
        ∃ outer ∈ done ++ [place], Export.isDeferred scope.program outer.node = false ∧
          other ∈ outer.parts := by
      rcases given with ⟨outer, isDone, rest⟩
      exact ⟨outer, List.mem_append_left _ isDone, rest⟩
    refine List.forall_mem_append.2 ⟨fun pusher isPushed => still (survey.rooted pusher isPushed), ?_⟩
    intro other isNew
    rw [List.mem_singleton.1 isNew]
    exact still rooted
  visited := by
    refine List.forall_mem_append.2 ⟨fun other isDone entered inside => ?_, fun other isNew _ _ => ?_⟩
    · exact pushes.kept _ (survey.visited other isDone entered inside)
    · rw [List.mem_singleton.1 isNew]
      exact pushes.marks _ (List.mem_cons_self ..)
  marks := by
    refine List.forall_mem_append.2 ⟨fun pusher isPushed id isMark => ?_, fun other isNew id isMark => ?_⟩
    · exact pushes.kept id (survey.marks pusher isPushed id isMark)
    · rw [List.mem_singleton.1 isNew] at isMark
      exact pushes.marks id isMark
  apart := by
    rw [List.flatMap_append, List.flatMap_singleton, List.pairwise_append]
    refine ⟨survey.apart, pairwise_givers unambiguous isPlace, ?_⟩
    intro earlier lent giver gives _ distinctive
    exact survey.giver_apart unambiguous arePlaces isPlace pushes lent gives distinctive
  traced := by
    intro other isOther distinctive isVisited
    rcases pushes.traced _ isVisited with wasVisited | isMark | ⟨part, isPart, same, isBound⟩
    · refine (survey.traced other isOther distinctive wasVisited).imp_right ?_
      rintro ⟨pusher, isPushed, isMark⟩
      exact ⟨pusher, List.mem_append_left _ isPushed, isMark⟩
    · exact Or.inr ⟨place, by simp, isMark⟩
    · rw [unambiguous other isOther part isPart distinctive same.symm]
      exact Or.inl isBound

/-- The rest of the walk offers the comments of the places that it documents. -/
theorem run {rest : List Place} {outcome : Except Fault Unit}
    (survey : Survey scope done pushed state) (unambiguous : scope.program.IsUnambiguous)
    (arePlaces : done ⊆ scope.program.places)
    (rooted : Place.Rooted (fun node => !Export.isDeferred scope.program node) done rest)
    (ended : Ends (rest.forM fun place => Module.enter scope place.node place.above.head? >>=
      fun _ => pure ()) state outcome after) :
    ∃ reached more, (outcome = .ok () → reached = rest) ∧ done ++ reached ⊆ scope.program.places ∧
      Survey scope (done ++ reached) (pushed ++ more) after ∧
      Heeds scope (more.flatMap Place.offer) state outcome after := by
  induction rest generalizing done pushed state with
  | nil =>
      rcases ends_forM_nil.1 ended with ⟨-, rfl⟩
      exact ⟨[], [], fun _ => rfl, by simpa using arePlaces, by simpa using survey,
        .nothing List.prefix_rfl rfl⟩
  | cons place rest ih =>
      rcases rooted with ⟨⟨outer, isKnown, entered, isPart⟩, rootedToo⟩
      have isPlace := Node.parts_mem_places (arePlaces isKnown) isPart
      have outside : ∃ outer ∈ done, Export.isDeferred scope.program outer.node = false ∧
          place ∈ outer.parts := ⟨outer, isKnown, by simpa using entered, isPart⟩
      have arePlacesToo : done ++ [place] ⊆ scope.program.places :=
        List.append_subset.2 ⟨arePlaces, List.cons_subset.2 ⟨isPlace, List.nil_subset _⟩⟩
      have step {middle : Progress} {visited : Except Fault Node.Descent}
          (ran : Ends (Module.enter scope place.node place.above.head?) state visited middle) :
          ∃ added, Survey scope (done ++ [place]) (pushed ++ added) middle ∧
            Heeds scope (added.flatMap Place.offer) state visited middle := by
        rcases Module.enter_cases isPlace ran with pushes | idles
        · exact ⟨[place], survey.push unambiguous arePlaces isPlace outside pushes,
            by simpa using pushes.heeds⟩
        · exact ⟨[], by simpa using survey.idle idles, idles.heeds⟩
      rw [forM_cons, bind_assoc] at ended
      rcases ends_bind.1 ended with ⟨descent, middle, ran, later⟩ | ⟨fault, failed, rfl⟩
      · rcases step ran with ⟨added, surveyed, heeds⟩
        rcases ih surveyed arePlacesToo rootedToo (by simpa only [pure_bind] using later) with
          ⟨reached, more, all, areReached, finished, heedsToo⟩
        refine ⟨place :: reached, added ++ more, fun succeeded => by rw [all succeeded],
          by simpa using areReached, by simpa using finished, ?_⟩
        rw [List.flatMap_append]
        exact heeds.trans heedsToo
      · rcases step failed with ⟨added, surveyed, heeds⟩
        refine ⟨[place], added, by simp, arePlacesToo, surveyed, ?_⟩
        have failing := heeds.fail (β := Unit) []
        rwa [List.append_nil] at failing

/-- Before the walk nothing has been passed, and at most bound parts have been visited. -/
theorem empty (unambiguous : scope.program.IsUnambiguous)
    (fresh : ∀ id, state.visited.contains id →
      ∃ part ∈ scope.program.places, part.node.id = id ∧ part.isBound) :
    Survey scope [] [] state where
  areDone := List.nil_subset _
  entered := by simp
  rooted := by simp
  visited := by simp
  marks := by simp
  apart := by simp
  traced := by
    intro other isOther distinctive isVisited
    rcases fresh _ isVisited with ⟨part, isPart, same, isBound⟩
    rw [unambiguous other isOther part isPart distinctive same.symm]
    exact Or.inl isBound

theorem firstPass {outcome : Except Fault Unit} (unambiguous : scope.program.IsUnambiguous)
    (fresh : ∀ id, state.visited.contains id →
      ∃ part ∈ scope.program.places, part.node.id = id ∧ part.isBound)
    (ended : Ends (Module.firstPass scope) state outcome after) :
    ∃ done pushed, (outcome = .ok () → done = scope.program.walked) ∧
      done ⊆ scope.program.places ∧ Survey scope done pushed after ∧
      Heeds scope (pushed.flatMap Place.offer) state outcome after := by
  have looped := Module.ends_walked ended
  rcases Place.Rooted.exists_reach (fun node => !Export.isDeferred scope.program node)
    ⟨scope.program, []⟩ with ⟨rest, reached, rooted⟩
  rw [Node.walked, reached, forM_cons, bind_assoc] at looped
  have isRoot := Node.root_mem_places scope.program
  have arePlaces : [(⟨scope.program, []⟩ : Place)] ⊆ scope.program.places :=
    List.cons_subset.2 ⟨isRoot, List.nil_subset _⟩
  have passed {middle : Progress} {visited : Except Fault Node.Descent}
      (ran : Ends (Module.enter scope scope.program none) state visited middle) :
      Survey scope [⟨scope.program, []⟩] [] middle ∧ Heeds scope [] state visited middle := by
    rcases Module.enter_cases isRoot ran with pushes | idles
    · exact absurd rfl pushes.inside
    · exact ⟨(empty unambiguous fresh).idle idles, idles.heeds⟩
  rcases ends_bind.1 looped with ⟨descent, middle, ran, later⟩ | ⟨fault, failed, rfl⟩
  · rcases passed ran with ⟨survey, heeds⟩
    rcases survey.run unambiguous arePlaces rooted (by simpa only [pure_bind] using later) with
      ⟨others, more, all, areReached, finished, heedsToo⟩
    refine ⟨_, more, fun succeeded => ?_, areReached, finished, heeds.trans heedsToo⟩
    rw [all succeeded, Node.walked, reached]
    rfl
  · rcases passed failed with ⟨survey, heeds⟩
    exact ⟨_, [], by simp, arePlaces, survey, heeds.fail (β := Unit) []⟩

end Survey

/-! ## Whole runs -/

namespace Node

/-- The comments of a program that holds nothing else. -/
def innerOccasions (program : Node) : List Occasion :=
  if program.body.isEmpty then Occasion.list program.id .inner program.innerComments else []

end Node

namespace Module

theorem documentInner_documents {outcome : Except Fault Unit}
    (ended : Ends (documentInner scope) before outcome after) :
    Documents scope scope.program.innerOccasions before outcome after := by
  unfold documentInner at ended
  unfold Node.innerOccasions
  cases alone : scope.program.body.isEmpty with
  | false =>
      rw [alone] at ended
      exact .ofPure ended
  | true =>
      cases comments : scope.program.innerComments with
      | nil =>
          rw [alone, comments] at ended
          exact .ofPure ended
      | cons comment others =>
          simp only [alone, comments, Bool.true_and, List.isEmpty_cons, Bool.not_false, if_true]
            at ended ⊢
          have documents {middle : Progress} {inner : Except Fault Unit}
              (ran : Ends (documentComments scope none (some scope.program) (comment :: others))
                before inner middle) : Documents scope
                (Occasion.list scope.program.id .inner (comment :: others)) before inner middle := by
            refine Documents.documentComments none (some scope.program) (by rintro _ ⟨⟩) _ ?_
            rw [Occasion.map_comment_list]
            exact ran
          rcases ends_guarded ended with ran | ⟨fault, middle, entry, messages, failed, -, -, rfl⟩
          · exact documents ran
          · rcases documents failed with ⟨heeds, binds⟩
            refine ⟨heeds.recast rfl (List.prefix_append _ _) fun _ nothing => ?_, ?_⟩
            · simp at nothing
            · exact binds.trans (.of_eq (Nat.le_refl _) rfl)

theorem storeModule_documents {category : Category} {id : Int} (isFile : category.isFile)
    {outcome : Except Fault Unit} (ended : Ends (storeModule scope category id) before outcome after) :
    Documents scope [] before outcome after := by
  rcases build_stores ended with ⟨visited, nextNode, invalid, stored⟩
  refine ⟨.nothing (invalid ▸ List.prefix_rfl) ?_, .of_eq (Nat.le_of_eq nextNode.symm) visited⟩
  rcases stored with ⟨draft, doc, -, -, built, stored⟩ | ⟨stored, -⟩
  · have ordinary : doc.category.isVirtual = false := by
      rcases (Draft.build_heads built).category with same | ⟨rfl, -⟩
      · rw [same]
        cases category <;> first | rfl | cases isFile
      · cases isFile
    have nothing : Doc.virtuals [doc] = [] := Doc.virtuals_eq_nil (by simpa using ordinary)
    rw [stored, Doc.virtuals_append, nothing, List.append_nil]
  · rw [stored]

/-- Both passes offer the comments of a module that holds nothing else, and those of the walk. -/
theorem passes_heeds {id : Int} (unambiguous : (within scope id).program.IsUnambiguous)
    (fresh : ∀ node, before.visited.contains node →
      ∃ part ∈ (within scope id).program.places, part.node.id = node ∧ part.isBound)
    {outcome : Except Fault Int} (ended : Ends (passes scope id) before outcome after) :
    ∃ done pushed state, ((∃ id, outcome = .ok id) → done = (within scope id).program.walked) ∧
      done ⊆ (within scope id).program.places ∧ Survey (within scope id) done pushed state ∧
      Heeds (within scope id)
        ((within scope id).program.innerOccasions ++ pushed.flatMap Place.offer) before outcome
        after := by
  rcases ends_bind.1 ended with ⟨_, opened, inner, walking⟩ | ⟨fault, failed, rfl⟩
  · have documents := documentInner_documents inner
    have freshToo (node : NodeId) (isVisited : opened.visited.contains node) :
        ∃ part ∈ (within scope id).program.places, part.node.id = node ∧ part.isBound :=
      (documents.binds.bound node isVisited).elim (fresh node) fun isBound => isBound
    rcases ends_bind.1 walking with ⟨_, walked, walks, last⟩ | ⟨fault, failed, rfl⟩
    · rcases Survey.firstPass unambiguous freshToo walks with
        ⟨done, pushed, all, arePlaces, survey, heeds⟩
      refine ⟨done, pushed, walked, fun _ => all rfl, arePlaces, survey, ?_⟩
      have sound : Sound (within scope id) (· = .moduleVariable)
          (secondPass (within scope id) >>= fun _ => liftM (Run.say .info ("Generated docs for " ++
            scope.filePath ++ " (module id " ++ Value.integerText id ++ ")")) >>= fun _ =>
              pure id) :=
        (secondPass_sound _).bind fun _ => (Sound.lift (Quiet.say _ _)).bind fun _ => Sound.pure _
      have rests := Heeds.ofSound sound (by rintro _ rfl; rfl) last
      have all := (documents.heeds.trans heeds).trans rests
      rwa [List.append_nil] at all
    · rcases Survey.firstPass unambiguous freshToo failed with
        ⟨done, pushed, -, arePlaces, survey, heeds⟩
      refine ⟨done, pushed, after, by simp, arePlaces, survey, ?_⟩
      have all := (documents.heeds.trans heeds).fail (β := Int) []
      rwa [List.append_nil] at all
  · exact ⟨[], [], before, by simp, by simp, .empty unambiguous fresh,
      (documentInner_documents failed).heeds.fail []⟩

/--
However the work on a module ends, it has heeded the comments of a module that holds nothing else, and
those that the walk has offered. If it ends well, then the walk has passed all places that it reaches.
-/
theorem generate_heeds (unambiguous : scope.program.IsUnambiguous)
    (unvisited : ∀ node, before.visited.contains node = false) {outcome : Except Fault Int}
    (ended : Ends (generate scope) before outcome after) :
    ∃ done pushed state, ((∃ id, outcome = .ok id) → done = scope.program.walked) ∧
      done ⊆ scope.program.places ∧ Survey (within scope before.store.nextId) done pushed state ∧
      Heeds (within scope before.store.nextId)
        (scope.program.innerOccasions ++ pushed.flatMap Place.offer) before outcome after := by
  have isFile : (if scope.code.isSome then Category.memory else .file).isFile := by
    split <;> rfl
  have unambiguousToo : (within scope before.store.nextId).program.IsUnambiguous := unambiguous
  rw [generate_eq, opening] at ended
  have drawn := ends_lift_bind.1 ended
  rcases ends_bind.1 drawn with ⟨_, stored, storing, rest⟩ | ⟨fault, failed, rfl⟩
  · have opens := storeModule_documents isFile storing
    have fresh (node : NodeId) (isVisited : stored.visited.contains node) :
        ∃ part ∈ scope.program.places, part.node.id = node ∧ part.isBound := by
      refine (opens.binds.bound node isVisited).resolve_left fun wasVisited => ?_
      cases (unvisited node).symm.trans wasVisited
    rcases passes_heeds unambiguousToo fresh rest with
      ⟨done, pushed, state, all, arePlaces, survey, heeds⟩
    exact ⟨done, pushed, state, all, arePlaces, survey, (opens.heeds.trans heeds).startsAt rfl rfl⟩
  · have unopened : Survey (within scope before.store.nextId) [] [] before :=
      .empty unambiguousToo fun node isVisited => by
        rw [unvisited] at isVisited
        cases isVisited
    have heeds := (storeModule_documents isFile failed).heeds
    exact ⟨[], [], before, by simp, by simp, unopened, (heeds.fail _).startsAt rfl rfl⟩

end Module

end DocHarvest
