import DocHarvest.Proofs.Module.Recorded
import DocHarvest.Proofs.Module.Traces

/-!
# The exports around records

A record about the module is marked as exported when it is made, if an export is noted above its
node. Whatever the program looks like, the notes lead from a node along one of its places to the
program. `Charted` says this of the tables, and `Extends` of the records that a step builds while it
keeps the tables like this.
-/

namespace DocHarvest

open Run

/-- What has been visited is noted, and what is noted leads to the program. -/
structure Charted (program : Node) (state : Progress) : Prop where
  below : program.Below state.nextNode
  trails : state.links.Trails program
  visited : ∀ place ∈ program.places, state.visited.contains place.node.id →
    (state.links.parentOf place.node.id).isSome

/-- A draft stands for a place: an export is noted above its node exactly if there is one around. -/
def Draft.StandsFor (draft : Draft) (program : Node) : Prop :=
  ∃ place ∈ program.places, place.node = draft.node ∧
    ((draft.links.ancestors draft.node.id).any fun outer => outer.shape.isExport) =
      place.above.any fun outer => outer.shape.isExport

/-- A step has kept the tables in order, and what it was to make of the module stands for places. -/
structure Extends (scope : Scope) (makings : List Making) (before after : Progress) : Prop where
  charted : Charted scope.program after
  kept : ∀ place ∈ scope.program.places, (before.links.parentOf place.node.id).isSome →
    (after.links.parentOf place.node.id).isSome
  pending : after.pending = before.pending
  stand : ∀ making ∈ makings, making.category.isModule → making.draft.StandsFor scope.program

theorem Place.Follows.inside {place : Place} {parent : Option Node} (follows : place.Follows parent) :
    place.above ≠ [] := by
  rcases follows with ⟨skipped, direct, rest, above, -, -⟩
  simp [above]

variable {scope : Scope} {before after : Progress}

namespace Charted

variable {program : Node} {state : Progress}

theorem congr (charted : Charted program before) (nextNode : after.nextNode = before.nextNode)
    (parents : after.links.parents = before.links.parents)
    (visited : after.visited = before.visited) : Charted program after where
  below := by
    rw [nextNode]
    exact charted.below
  trails := by
    have same : after.links.parentOf = before.links.parentOf := by
      funext id
      rw [Links.parentOf, Links.parentOf, parents]
    constructor
    · rw [same]
      exact charted.trails.root
    · simp only [Links.GoesOn, same]
      exact charted.trails.follows
  visited := by
    intro place isPlace isVisited
    rw [visited] at isVisited
    rw [Links.parentOf, parents]
    exact charted.visited place isPlace isVisited

/-- The parent of a place may be noted, and the place be visited, once the parent is noted. -/
theorem mark (charted : Charted program state) (coherent : program.IsCoherent) {place : Place}
    (isPlace : place ∈ program.places) {parent : Node} (follows : place.Follows (some parent))
    (goesOn : state.links.GoesOn program parent) {visited : Std.TreeSet NodeId}
    (marked : ∀ id, visited.contains id → state.visited.contains id ∨ id = place.node.id) :
    Charted program
      { state with links := state.links.setParent place.node.id (some parent), visited } where
  below := charted.below
  trails := by
    have goesOnToo (node : Node) (goesOn : state.links.GoesOn program node) :
        (state.links.setParent place.node.id (some parent)).GoesOn program node := by
      refine goesOn.imp_right fun noted => ?_
      rw [Links.parentOf_setParent]
      split
      · rfl
      · exact noted
    constructor
    · rw [Links.parentOf_setParent,
        if_neg (Place.id_ne_of_above_ne_nil coherent isPlace follows.inside).symm]
      exact charted.trails.root
    · intro other isOther noted isNoted
      rw [Links.parentOf_setParent] at isNoted
      split at isNoted
      · rename_i same
        cases isNoted
        exact ⟨place, isPlace, same.symm, follows, goesOnToo parent goesOn⟩
      · rcases charted.trails.follows other isOther noted isNoted with
          ⟨way, isWay, same, followsToo, goesOn⟩
        exact ⟨way, isWay, same, followsToo, goesOnToo noted goesOn⟩
  visited := by
    intro other isOther isVisited
    rw [Links.parentOf_setParent]
    split
    · rfl
    · rename_i different
      exact charted.visited other isOther ((marked _ isVisited).resolve_right different)

/-- New identities may be given out, and the parent of the first one be noted. -/
theorem draw (charted : Charted program state) (count : Nat) (parent : Option Node) :
    Charted program
      { state with
        nextNode := state.nextNode + count
        links := state.links.setParent state.nextNode parent } := by
  have unchanged (place : Place) (isPlace : place ∈ program.places) :
      (state.links.setParent state.nextNode parent).parentOf place.node.id =
        state.links.parentOf place.node.id := by
    rw [Links.parentOf_setParent, if_neg (Nat.ne_of_lt (charted.below place isPlace))]
  refine ⟨?_, ⟨?_, ?_⟩, ?_⟩
  · exact fun place isPlace => Nat.lt_add_right _ (charted.below place isPlace)
  · exact (unchanged _ (Node.root_mem_places _)).trans charted.trails.root
  · intro place isPlace noted isNoted
    rcases charted.trails.follows place isPlace noted
      ((unchanged place isPlace).symm.trans isNoted) with ⟨way, isWay, same, follows, goesOn⟩
    refine ⟨way, isWay, same, follows, goesOn.imp_right fun isSome => ?_⟩
    rcases follows with ⟨skipped, direct, rest, above, isDirect, -⟩
    cases isDirect
    have isOuter : ⟨noted, rest⟩ ∈ Place.outers way.above := by
      rw [above]
      exact Place.outers_append_subset skipped _ (List.mem_cons_self ..)
    exact (unchanged _ (Place.outers_subset_places isWay isOuter)).symm ▸ isSome
  · intro place isPlace isVisited
    exact (unchanged place isPlace).symm ▸ charted.visited place isPlace isVisited

end Charted

namespace Extends

variable {makings : List Making}

theorem refl (charted : Charted scope.program before) : Extends scope [] before before :=
  ⟨charted, fun _ _ noted => noted, rfl, List.forall_mem_nil _⟩

theorem trans {later : List Making} {middle : Progress}
    (first : Extends scope makings before middle) (second : Extends scope later middle after) :
    Extends scope (makings ++ later) before after where
  charted := second.charted
  kept place isPlace noted := second.kept place isPlace (first.kept place isPlace noted)
  pending := second.pending.trans first.pending
  stand := List.forall_mem_append.2 ⟨first.stand, second.stand⟩

theorem quiet (charted : Charted scope.program before) (nextNode : after.nextNode = before.nextNode)
    (parents : after.links.parents = before.links.parents)
    (visited : after.visited = before.visited) (pending : after.pending = before.pending) :
    Extends scope [] before after where
  charted := charted.congr nextNode parents visited
  kept place _ noted := by
    rw [Links.parentOf, parents]
    exact noted
  pending := pending
  stand := List.forall_mem_nil _

theorem mark (charted : Charted scope.program before) (coherent : scope.program.IsCoherent)
    {place : Place} (isPlace : place ∈ scope.program.places) {parent : Node}
    (follows : place.Follows (some parent)) (goesOn : before.links.GoesOn scope.program parent)
    {visited : Std.TreeSet NodeId}
    (marked : ∀ id, visited.contains id → before.visited.contains id ∨ id = place.node.id) :
    Extends scope [] before
      { before with links := before.links.setParent place.node.id (some parent), visited } where
  charted := charted.mark coherent isPlace follows goesOn marked
  kept other _ noted := by
    rw [Links.parentOf_setParent]
    split
    · rfl
    · exact noted
  pending := rfl
  stand := List.forall_mem_nil _

theorem virtualNode (charted : Charted scope.program before) (parent : Option Node) :
    Extends scope [] before ((Run.virtualNode parent).run before).2 := by
  refine ⟨charted.draw 1 parent, fun place isPlace noted => ?_, rfl, List.forall_mem_nil _⟩
  have unchanged : (before.links.setParent before.nextNode parent).parentOf place.node.id =
      before.links.parentOf place.node.id := by
    rw [Links.parentOf_setParent, if_neg (Nat.ne_of_lt (charted.below place isPlace))]
  exact unchanged ▸ noted

end Extends

/-! ## Decisions -/

/-- What can be documented: a virtual node, or a node that has been reached at a place. -/
inductive Target (scope : Scope) (state : Progress) : Node → Prop
  | virtual {node : Node} (shape : node.shape = .virtual) : Target scope state node
  | placed {place : Place} (isPlace : place ∈ scope.program.places)
      (noted : (state.links.parentOf place.node.id).isSome) : Target scope state place.node

theorem Target.mono {makings : List Making} {node : Node} (target : Target scope before node)
    (reached : Extends scope makings before after) : Target scope after node := by
  cases target with
  | virtual shape => exact .virtual shape
  | placed isPlace noted => exact .placed isPlace (reached.kept _ isPlace noted)

/-- A decision keeps the tables in order, and finds things of the module at places only. -/
structure Settles (scope : Scope) (before : Progress) (result : Option Decision × Progress) :
    Prop where
  reached : Extends scope [] before result.2
  placed : ∀ decision, result.1 = some decision → decision.category.isModule →
    ∃ place ∈ scope.program.places, place.node = decision.node ∧
      (result.2.links.parentOf place.node.id).isSome

namespace Settles

variable {place : Place}

theorem nothing (reached : Extends scope [] before after) : Settles scope before (none, after) :=
  ⟨reached, by rintro decision ⟨⟩⟩

theorem other (reached : Extends scope [] before after) {category : Category} (node : Node)
    (noModule : category.isModule = false) :
    Settles scope before (some ⟨category, node⟩, after) := by
  refine ⟨reached, ?_⟩
  rintro decision ⟨⟩ isModule
  rw [noModule] at isModule
  cases isModule

theorem self (charted : Charted scope.program before) (isPlace : place ∈ scope.program.places)
    (noted : (before.links.parentOf place.node.id).isSome) (category : Category) :
    Settles scope before (some ⟨category, place.node⟩, before) := by
  refine ⟨.refl charted, ?_⟩
  rintro decision ⟨⟩ -
  exact ⟨place, isPlace, rfl, noted⟩

theorem ofShape (coherent : scope.program.IsCoherent) (charted : Charted scope.program before)
    (isPlace : place ∈ scope.program.places)
    (noted : (before.links.parentOf place.node.id).isSome) :
    Settles scope before ((Decision.ofShape scope place.node).run before) := by
  have chooses := Decision.ofShape_chooses scope place.node before
  generalize (Decision.ofShape scope place.node).run before = result at chooses ⊢
  have marked {part : Place} (isPart : part ∈ scope.program.places)
      (follows : part.Follows (some place.node)) {visited : Std.TreeSet NodeId}
      (news : ∀ id, visited.contains id → before.visited.contains id ∨ id = part.node.id) :
      Extends scope [] before
        { before with
          links := before.links.setParent part.node.id (some place.node), visited } :=
    .mark charted coherent isPart follows (Or.inr noted) news
  cases chooses with
  | nothing messages => exact nothing (.quiet charted rfl rfl rfl rfl)
  | @self category _ => exact self charted isPlace noted category
  | passed shape messages =>
      have isPart := Node.expression_mem_places isPlace shape
      have linked := marked isPart (Place.follows_outer _ _ _) fun _ => Or.inl
      exact nothing (linked.trans (.quiet linked.charted rfl rfl rfl rfl))
  | member shape assigns =>
      have isPart := Node.expression_mem_places isPlace shape
      exact other (marked isPart (Place.follows_outer _ _ _) fun id =>
        (contains_insert_iff _ _ _).1) _ rfl
  | @value value decision gives isValue =>
      rcases gives.exists_part isPlace with ⟨part, isPart, rfl, follows, -⟩
      have described := Node.node_of_value? isValue
      rw [described]
      refine ⟨marked isPart follows fun id => (contains_insert_iff _ _ _).1, ?_⟩
      rintro other ⟨⟩ -
      refine ⟨part, isPart, described.symm, ?_⟩
      rw [Links.parentOf_setParent, if_pos rfl]
      rfl

theorem decide (coherent : scope.program.IsCoherent) (charted : Charted scope.program before)
    {node : Node} (target : Target scope before node) (tags : List Tag) :
    Settles scope before ((Decision.decide scope tags node).run before) := by
  cases found : Decision.ofTags? tags with
  | some category =>
      rw [Decision.decide_tagged scope node found]
      rcases Decision.category_of_ofTags? found with rfl | rfl
      · exact other (.refl charted) node rfl
      · exact other (.refl charted) node rfl
  | none =>
      have decided : Settles scope before ((Decision.ofShape scope node).run before) := by
        cases target with
        | virtual shape =>
            rw [Decision.ofShape_virtual scope shape]
            exact nothing (.refl charted)
        | placed isPlace noted => exact ofShape coherent charted isPlace noted
      rw [Decision.decide_run scope node found]
      exact ⟨decided.reached.trans (.quiet decided.reached.charted rfl rfl rfl rfl),
        decided.placed⟩

end Settles

/-! ## Records -/

/-- A draft stands for a place if it has been made with the tables in order. -/
theorem Links.Trails.standsFor {draft : Draft} {program : Node} {place : Place}
    (trails : draft.links.Trails program) (coherent : program.IsCoherent)
    (isPlace : place ∈ program.places) (node : place.node = draft.node)
    (noted : (draft.links.parentOf place.node.id).isSome) : draft.StandsFor program := by
  rcases trails.any_ancestors coherent isPlace noted with ⟨way, isWay, same, exported⟩
  exact ⟨way, isWay, same.trans node, node ▸ exported⟩

namespace Extends

theorem document (coherent : scope.program.IsCoherent) (charted : Charted scope.program before)
    {node : Node} (target : Target scope before node) {comment : Comment}
    (ended : Ends (document scope node comment) before (.ok ()) after) :
    Extends scope (documentTrace Making.watch scope node comment before) before after := by
  have settles := Settles.decide coherent charted target comment.tags
  rw [document_eq] at ended
  have rest := ends_lift_bind.1 ended
  have happened : documentTrace Making.watch scope node comment before = _ := Trace.bind_lift _ _ _
  rw [happened]
  generalize (Decision.decide scope comment.tags node).run before = pair at settles rest
  rcases pair with ⟨found, state⟩
  refine settles.reached.trans ?_
  have chartedToo := settles.reached.charted
  cases found with
  | none =>
      rcases ends_pure.1 rest with ⟨-, rfl⟩
      exact .refl chartedToo
  | some decision =>
      simp only [bind_assoc] at rest
      rcases ends_record (ends_lift_bind.1 rest) with ⟨added, messages, rfl, -⟩
      have parents := Links.parents_naming state.links scope decision.category decision.node
      have noted (place : Place) (isNoted : (state.links.parentOf place.node.id).isSome) :
          ((state.links.naming scope decision.category decision.node).parentOf
            place.node.id).isSome := by
        rw [Links.parentOf, parents]
        exact isNoted
      have named : Charted scope.program
          { state with links := state.links.naming scope decision.category decision.node } :=
        chartedToo.congr rfl parents rfl
      refine ⟨named.congr rfl rfl rfl, fun place _ => noted place, rfl, ?_⟩
      intro making isMaking isModule
      rw [List.mem_singleton.1 isMaking] at isModule ⊢
      rcases settles.placed decision rfl isModule with ⟨place, isPlace, same, isNoted⟩
      exact named.trails.standsFor coherent isPlace same (noted place isNoted)

theorem documentEach (coherent : scope.program.IsCoherent) {node : Node} {parent : Option Node}
    {comments : List Comment} (charted : Charted scope.program before)
    (target : Target scope before node)
    (ended : Ends (documentEach scope node parent comments) before (.ok ()) after) :
    Extends scope (documentEachTrace Making.watch scope node parent comments before) before
      after := by
  induction comments generalizing before with
  | nil =>
      rcases ends_pure.1 ended with ⟨-, rfl⟩
      exact .refl charted
  | cons comment rest ih =>
      cases rest with
      | nil => exact document coherent charted target ended
      | cons next others =>
          have first := ends_lift_bind.1 ended
          rcases ends_bind_ok.1 first with ⟨_, middle, documented, rested⟩
          have drawn := virtualNode charted parent
          have extended := drawn.trans (document coherent drawn.charted (.virtual rfl) documented)
          rw [List.nil_append] at extended
          rw [documentEachTrace_cons, Trace.bind_lift, Trace.bind_of_ok documented]
          exact extended.trans (ih extended.charted (target.mono extended) rested)

theorem documentComments (coherent : scope.program.IsCoherent) {node parent : Option Node}
    {comments : List Comment} (charted : Charted scope.program before)
    (target : ∀ documented, node = some documented → Target scope before documented)
    (ended : Ends (documentComments scope node parent comments) before (.ok ()) after) :
    Extends scope (documentCommentsTrace Making.watch scope node parent comments before) before
      after := by
  cases node with
  | none =>
      have first := ends_lift_bind.1 ended
      have drawn := virtualNode charted parent
      exact drawn.trans (documentEach coherent drawn.charted (.virtual rfl) first)
  | some node => exact documentEach coherent charted (target node rfl) ended

theorem documentBoth (coherent : scope.program.IsCoherent) {node : Node} {parent : Option Node}
    {leading trailing : List Comment} {withTrailing : Bool}
    (charted : Charted scope.program before) (target : Target scope before node)
    (ended : Ends (Run.documentComments scope (some node) parent leading >>= fun _ =>
      if withTrailing then Run.documentComments scope none parent trailing else pure ())
      before (.ok ()) after) :
    Extends scope (documentBothTrace Making.watch scope node parent leading trailing withTrailing
      before) before after := by
  rcases ends_bind_ok.1 ended with ⟨_, middle, first, rest⟩
  have extended := documentComments coherent charted
    (fun documented same => Option.some.inj same ▸ target) first
  rw [documentBothTrace, Trace.bind_of_ok first]
  cases withTrailing with
  | false =>
      rcases ends_pure.1 rest with ⟨-, rfl⟩
      exact extended.trans (.refl extended.charted)
  | true =>
      have rested : Ends (Run.documentComments scope none parent trailing) middle (.ok ()) after :=
        rest
      exact extended.trans (documentComments coherent extended.charted (by rintro _ ⟨⟩) rested)

end Extends

/-! ## The walk -/

/-- The exports that the walk puts aside. -/
def Node.queue (program : Node) : List Node :=
  (program.walked.map Place.node).filter (Export.isDeferred program)

namespace Extends

variable {place : Place} {makings : List Making}

theorem queue (extended : Extends scope makings before after) (pending : List Node) :
    Extends scope makings { before with pending } { after with pending } where
  charted := extended.charted.congr rfl rfl rfl
  kept := extended.kept
  pending := rfl
  stand := extended.stand

theorem unwrap (coherent : scope.program.IsCoherent) (charted : Charted scope.program before)
    (isPlace : place ∈ scope.program.places)
    (noted : (before.links.parentOf place.node.id).isSome) {isLast : Bool}
    (ended : Ends (Export.unwrap scope place.node isLast) before (.ok ()) after) :
    Extends scope (Export.unwrapTrace Making.watch scope place.node isLast before) before after := by
  unfold Export.unwrap at ended
  unfold Export.unwrapTrace
  cases wrapped : place.node.exported? with
  | none =>
      rw [wrapped] at ended
      rcases ends_pure.1 ended with ⟨-, rfl⟩
      exact .refl charted
  | some declaration =>
      rw [wrapped] at ended
      have isPart : ⟨declaration, place.node :: place.above⟩ ∈ scope.program.places :=
        Node.parts_mem_places isPlace
          (Place.mem_parts.2 ⟨Node.mem_children_of_exported? wrapped, rfl⟩)
      have follows := Place.follows_outer declaration place.node place.above
      dsimp only at ended
      have visited := ends_lift_bind.1 ended
      have linked := ends_lift_bind.1 visited
      have marked := Extends.mark charted coherent isPart follows (Or.inr noted)
        fun id => (contains_insert_iff before.visited declaration.id id).1
      refine marked.trans (documentBoth coherent marked.charted ?_ linked)
      refine .placed isPart ?_
      rw [visiting, Links.parentOf_setParent, if_pos rfl]
      rfl

/-- A place that is pushed has its parent noted. -/
theorem push (coherent : scope.program.IsCoherent) (charted : Charted scope.program before)
    (isPlace : place ∈ scope.program.places)
    (goesOn : ∀ outer, place.above.head? = some outer → before.links.GoesOn scope.program outer)
    (ended : Ends (Module.push scope place.node place.above.head?) before (.ok ()) after) :
    Extends scope (Module.pushTrace Making.watch scope place.node place.above.head? before) before
        after ∧ after.links.GoesOn scope.program place.node := by
  unfold Module.pushTrace
  by_cases isRoot : place.node.id = scope.program.id
  · have same := coherent place isPlace ⟨scope.program, []⟩ (Node.root_mem_places _) isRoot
    rw [Module.push, if_pos (by simpa using isRoot)] at ended
    rcases ends_pure.1 ended with ⟨-, rfl⟩
    rw [if_pos (by simp [isRoot])]
    exact ⟨.refl charted, Or.inl same⟩
  · rcases ends_push ended with ⟨root | isVisited, -, rfl⟩ | ⟨⟨-, isNew⟩, documented⟩
    · exact absurd root isRoot
    · rw [if_pos (by simp [isVisited])]
      exact ⟨.refl charted, Or.inr (charted.visited place isPlace isVisited)⟩
    · rw [if_neg (by simp [isRoot, isNew])]
      rcases place with ⟨node, above⟩
      cases above with
      | nil =>
          rw [Node.eq_root_of_above_nil isPlace] at isRoot
          exact absurd rfl isRoot
      | cons outer above =>
          have marked : Extends scope [] before (visiting before node (some outer)) :=
            Extends.mark charted coherent isPlace (Place.follows_outer node outer above)
              (goesOn outer rfl) fun id => (contains_insert_iff before.visited node.id id).1
          have noted : ((visiting before node (some outer)).links.parentOf node.id).isSome := by
            rw [visiting, Links.parentOf_setParent, if_pos rfl]
            rfl
          have extended : Extends scope
              (if node.shape.isExport then
                Export.unwrapTrace Making.watch scope node (Module.isLastIn node (some outer))
                  (visiting before node (some outer))
              else Module.documentNodeTrace Making.watch scope node (some outer)
                (Module.isLastIn node (some outer)) (visiting before node (some outer)))
              (visiting before node (some outer)) after := by
            split at documented
            · rename_i isExport
              rw [if_pos isExport]
              exact unwrap coherent marked.charted isPlace noted documented
            · rename_i noExport
              rw [if_neg noExport]
              exact documentBoth coherent marked.charted (.placed isPlace noted) documented
          exact ⟨marked.trans extended, Or.inr (extended.kept _ isPlace noted)⟩

/-- One step of the walk puts an export aside, or pushes a place. -/
theorem enter (coherent : scope.program.IsCoherent) (charted : Charted scope.program before)
    (isPlace : place ∈ scope.program.places)
    (goesOn : ∀ outer, place.above.head? = some outer → before.links.GoesOn scope.program outer)
    {descent : Node.Descent}
    (ended : Ends (Module.enter scope place.node place.above.head?) before (.ok descent) after)
    (faultless : after.invalid = before.invalid) :
    Extends scope (Module.enterTrace Making.watch scope place.node place.above.head? before)
        { before with
          pending := before.pending ++ [place.node].filter (Export.isDeferred scope.program) }
        after ∧
      (Export.isDeferred scope.program place.node = false →
        after.links.GoesOn scope.program place.node) := by
  rw [Module.enter_eq] at ended
  have visited := Module.ends_guarded_of_invalid (Module.visit_sound scope _ _) ended faultless
  unfold Module.enterTrace
  cases deferred : Export.isDeferred scope.program place.node with
  | true =>
      rcases ends_visit_of_deferred deferred visited with ⟨-, rfl⟩
      simp only [List.filter_cons, deferred, List.filter_nil, if_true]
      exact ⟨.refl (charted.congr rfl rfl rfl), by simp⟩
  | false =>
      rcases ends_visit_of_entered deferred visited with ⟨pushed, -⟩
      rcases push coherent charted isPlace goesOn pushed with ⟨extended, goesOnToo⟩
      simp only [List.filter_cons, deferred, List.filter_nil, Bool.false_eq_true, if_false,
        List.append_nil]
      exact ⟨extended, fun _ => goesOnToo⟩

theorem andThen {later : List Making} {middle : Progress} {rest : List Place}
    (step : Extends scope makings { before with
      pending := before.pending ++ [place.node].filter (Export.isDeferred scope.program) } middle)
    (others : Extends scope later { middle with
      pending := middle.pending ++
        (rest.map Place.node).filter (Export.isDeferred scope.program) } after) :
    Extends scope (makings ++ later) { before with
      pending := before.pending ++
        ((place :: rest).map Place.node).filter (Export.isDeferred scope.program) } after := by
  have queued : middle.pending = before.pending ++
      [place.node].filter (Export.isDeferred scope.program) := step.pending
  rw [queued, List.append_assoc, ← List.filter_append] at others
  exact (step.queue _).trans others

theorem loop (coherent : scope.program.IsCoherent) {known rest : List Place}
    (charted : Charted scope.program before) (areKnown : known ⊆ scope.program.places)
    (goesOn : ∀ place ∈ known, Export.isDeferred scope.program place.node = false →
      before.links.GoesOn scope.program place.node)
    (rooted : Place.Rooted (fun node => !Export.isDeferred scope.program node) known rest)
    (ended : Ends (rest.forM fun place => Module.enter scope place.node place.above.head? >>=
      fun _ => pure ()) before (.ok ()) after)
    (faultless : after.invalid = before.invalid) :
    Extends scope
      (Trace.each (fun place => Module.enter scope place.node place.above.head?)
        (fun place => Module.enterTrace Making.watch scope place.node place.above.head?) rest before)
      { before with
        pending := before.pending ++
          (rest.map Place.node).filter (Export.isDeferred scope.program) } after := by
  induction rest generalizing known before with
  | nil =>
      rcases ends_forM_nil.1 ended with ⟨-, rfl⟩
      simp only [List.map_nil, List.filter_nil, List.append_nil]
      exact .refl charted
  | cons place rest ih =>
      rcases rooted with ⟨⟨outer, isKnown, entered, isPart⟩, rootedToo⟩
      rcases Module.ends_loop_cons ended faultless with
        ⟨descent, middle, visited, same, later, sameToo⟩
      have isPlace := Node.parts_mem_places (areKnown isKnown) isPart
      have outerGoesOn (direct : Node) (isDirect : place.above.head? = some direct) :
          before.links.GoesOn scope.program direct := by
        rw [(Place.mem_parts.1 isPart).2] at isDirect
        cases isDirect
        exact goesOn outer isKnown (by simpa using entered)
      rcases enter coherent charted isPlace outerGoesOn visited same with ⟨step, goesOnToo⟩
      rw [Trace.each, Trace.bind_of_ok visited]
      refine step.andThen (ih step.charted ?_ ?_ rootedToo later sameToo)
      · exact List.append_subset.2 ⟨areKnown, List.cons_subset.2 ⟨isPlace, List.nil_subset _⟩⟩
      · refine List.forall_mem_append.2 ⟨fun other isOther entered => ?_, fun other isNew => ?_⟩
        · exact (goesOn other isOther entered).imp_right (step.kept other (areKnown isOther))
        · rw [List.mem_singleton.1 isNew]
          exact goesOnToo

/-- The walk puts the exports of its queue aside, and what it makes stands for places. -/
theorem firstPass (coherent : scope.program.IsCoherent) (charted : Charted scope.program before)
    (ended : Ends (Module.firstPass scope) before (.ok ()) after)
    (faultless : after.invalid = before.invalid) :
    Extends scope (Module.firstPassTrace Making.watch scope before)
      { before with pending := before.pending ++ scope.program.queue } after := by
  have looped := Module.ends_walked ended
  rcases Place.Rooted.exists_reach (fun node => !Export.isDeferred scope.program node)
    ⟨scope.program, []⟩ with ⟨rest, reached, rooted⟩
  rw [Node.walked, reached] at looped
  rcases Module.ends_loop_cons looped faultless with
    ⟨descent, middle, visited, same, later, sameToo⟩
  rcases enter coherent charted (Node.root_mem_places scope.program) (by rintro _ ⟨⟩)
    visited same with ⟨step, goesOn⟩
  rw [Node.queue, Module.firstPassTrace, Node.walked, reached, Trace.each,
    Trace.bind_of_ok visited]
  refine step.andThen (loop coherent step.charted ?_ ?_ rooted later sameToo)
  · exact List.cons_subset.2 ⟨Node.root_mem_places _, List.nil_subset _⟩
  · intro place isRoot
    rw [List.mem_singleton.1 isRoot]
    exact goesOn

end Extends

namespace Module

theorem charted_start {program : Node} {nextNode : NodeId} (below : program.Below nextNode)
    (store : Store) : Charted program (Program.start ⟨program, nextNode⟩ store) where
  below := below
  trails := by
    have unknown (id : NodeId) :
        (Program.start ⟨program, nextNode⟩ store).links.parentOf id = none := by
      change ((∅ : Std.TreeMap NodeId (Option Node))[id]?).join = none
      simp
    constructor
    · exact unknown _
    · intro place _ parent noted
      rw [unknown] at noted
      cases noted
  visited := by
    intro place _ isVisited
    have unvisited : (∅ : Std.TreeSet NodeId).contains place.node.id = false :=
      Std.TreeSet.contains_emptyc
    cases unvisited.symm.trans isVisited

/-- Before the walk the tables are in order, and no export has been put aside. -/
theorem charted_prepare {start opened : Progress} {id : Int} (coherent : scope.program.IsCoherent)
    (unfiltered : scope.filter = none) (charted : Charted scope.program start)
    (ended : Ends (prepare scope) start (.ok id) opened)
    (faultless : opened.invalid = start.invalid) :
    Charted scope.program opened ∧ opened.pending = start.pending := by
  have drawn := ends_lift_bind.1 ended
  rcases ends_bind_ok.1 drawn with ⟨_, stored, storing, rest⟩
  rcases ends_bind_ok.1 rest with ⟨_, documented, inner, rested⟩
  rcases ends_pure.1 rested with ⟨-, rfl⟩
  have isFile : (if scope.code.isSome then Category.memory else .file).isFile := by
    split <;> rfl
  rcases ends_storeModule isFile storing unfiltered with ⟨doc, messages, -, rfl⟩
  have opens : Charted scope.program
      { start with messages, store := ⟨start.store.docs ++ [doc], start.store.nextId + 1⟩ } :=
    charted.congr rfl rfl rfl
  unfold documentInner at inner
  split at inner
  · have commented :=
      ends_guarded_of_invalid (documentComments_sound _ _ _ _) inner faultless
    have extended := @Extends.documentComments (within scope start.store.nextId) _ _ coherent none
      (some scope.program) scope.program.innerComments opens (by rintro _ ⟨⟩) commented
    exact ⟨extended.charted, extended.pending⟩
  · rcases ends_pure.1 inner with ⟨-, rfl⟩
    exact ⟨opens, rfl⟩

end Module

end DocHarvest
