import DocHarvest.Proofs.Module.Blocks
import DocHarvest.Proofs.Module.FirstPass
import DocHarvest.Proofs.Module.Policies
import DocHarvest.Proofs.Run.Moved

/-!
# Records of test blocks

The walk through a file of tests stores one record for each test block. What a record says about the
blocks around its block comes from two tables, of parents and of names, which the walk itself has filled:
the calls of all blocks that it has met have names, and nothing else has one. So the chain of parents of
a call spells the blocks around it, and the records mirror the tree of the blocks.
-/

namespace DocHarvest

open Run

variable {scope : Scope}

/-- The record of a test block: its depth, and its place among the blocks around it. -/
structure Scope.RecordsBlock (scope : Scope) (block : Place) (doc : Doc) : Prop where
  category : doc.category = .test
  line : doc.line = (Module.blockCall? block.node).bind Node.line?
  name : doc.name = some (scope.program.blockName block)
  depth : doc.testDepth = some (block.enclosing.length : Int)
  memberof : doc.memberof = some (scope.blockPath block.enclosing)
  longname : doc.longname = some (scope.blockPath (block :: block.enclosing))

/-- A call of a function of tests has a record, whatever stands around it. -/
theorem Draft.exists_testBlock (draft : Draft)
    (isFunction : blockFunction draft.node ∈ groupFunctions ++ caseFunctions) :
    ∃ doc, draft.build .test = .ok doc ∧ doc.id = draft.id ∧ doc.category = .test ∧
      doc.line = draft.node.line? ∧ doc.name = draft.links.names[draft.node.id]? ∧
      doc.testDepth = some (draft.enclosingBlocks.length : Int) ∧
      doc.memberof = some draft.blockMemberof ∧
      doc.longname = some (longnameOf draft.blockMemberof draft.links.names[draft.node.id]? true) := by
  have hasKind : ∃ kind, blockKind draft.node = .ok kind := by
    unfold blockKind
    rcases List.mem_append.1 isFunction with isGroup | isCase
    · exact ⟨"describe", by simp [isGroup]⟩
    · by_cases isGroup : blockFunction draft.node ∈ groupFunctions
      · exact ⟨"describe", by simp [isGroup]⟩
      · exact ⟨"it", by simp [isGroup, isCase]⟩
  rcases hasKind with ⟨kind, found⟩
  rw [Draft.build, testBlock, found]
  exact ⟨_, rfl, rfl, rfl, rfl, rfl, rfl, rfl, rfl⟩

/-- A record is that of a block if the tables spell the blocks around the block. -/
theorem Draft.exists_recordsBlock {links : Links} {id : Int} {block call : Place} {tags : List Tag}
    (unmarked : '~' ∉ scope.filePath.toList) (calls : block.call? = some call)
    (named : links.names[call.node.id]? = some (scope.program.blockName block))
    (around : (links.ancestors call.node.id).filterMap (fun ancestor => links.names[ancestor.id]?) =
      block.enclosing.map scope.program.blockName) :
    ∃ doc, Draft.build ⟨scope, links, id, call.node, tags⟩ .test = .ok doc ∧ doc.id = id ∧
      scope.RecordsBlock block doc := by
  have isFunction := (Module.blockCall?_eq_some.1 (Place.call?_eq_some.1 calls).1).2
  rcases Draft.exists_testBlock ⟨scope, links, id, call.node, tags⟩ isFunction with
    ⟨doc, made, sameId, category, line, name, depth, memberof, longname⟩
  have path : Draft.blockMemberof ⟨scope, links, id, call.node, tags⟩ =
      scope.blockPath block.enclosing := by
    unfold Draft.blockMemberof Draft.enclosingBlocks Scope.blockPath
    simp only [around]
    cases block.enclosing <;> rfl
  refine ⟨doc, made, sameId, category, ?_, name.trans named, ?_, ?_, ?_⟩
  · rw [line, (Place.call?_eq_some.1 calls).1]
    rfl
  · rw [depth, Draft.enclosingBlocks, around, List.length_map]
  · rw [memberof, path]
  · rw [longname, path, named, Scope.longnameOf_blockPath unmarked]

/-! ## The tables of the walk -/

variable {program : Node} {done rest : List Place} {place other block call : Place}
  {base state after : Progress} {tests : List Doc}

/-- The walk has met the places that it has passed, and the calls of the blocks among them. -/
def Met (done : List Place) (place : Place) : Prop :=
  place ∈ done ∨ ∃ block ∈ done, block.call? = some place

theorem met_append : Met (done ++ [place]) other ↔
    Met done other ∨ other = place ∨ place.call? = some other := by
  unfold Met
  constructor
  · rintro (isPassed | ⟨block, isPassed, calls⟩)
    · exact (List.mem_append.1 isPassed).elim (fun isDone => Or.inl (Or.inl isDone))
        fun isNew => Or.inr (Or.inl (List.mem_singleton.1 isNew))
    · rcases List.mem_append.1 isPassed with isDone | isNew
      · exact Or.inl (Or.inr ⟨block, isDone, calls⟩)
      · exact Or.inr (Or.inr (List.mem_singleton.1 isNew ▸ calls))
  · rintro ((isDone | ⟨block, isDone, calls⟩) | rfl | calls)
    · exact Or.inl (List.mem_append_left _ isDone)
    · exact Or.inr ⟨block, List.mem_append_left _ isDone, calls⟩
    · exact Or.inl (by simp)
    · exact Or.inr ⟨place, by simp, calls⟩

/-- A place that has been met before its turn is the call of a block, and no block itself. -/
theorem Met.isBlock_eq_false (met : Met done place) (isNew : place ∉ done) :
    place.isBlock = false := by
  rcases met with isDone | ⟨block, -, calls⟩
  · exact absurd isDone isNew
  · have isFunction := (Module.blockCall?_eq_some.1 (Place.call?_eq_some.1 calls).1).2
    rcases Module.blockFunction_eq_of_mem isFunction with ⟨callee, arguments, shape, -⟩
    simp [Place.isBlock, Module.blockCall?, shape]

/-- What the tables say about a program once the walk has passed some of its places. -/
structure Mapped (program : Node) (done : List Place) (state : Progress) : Prop where
  visited : ∀ place ∈ program.places, state.visited.contains place.node.id ↔ Met done place
  parents : ∀ place ∈ program.places, Met done place →
    state.links.parentOf place.node.id = place.above.head?
  named : ∀ block ∈ done, ∀ call, block.call? = some call →
    state.links.names[call.node.id]? = some (program.blockName block)
  unnamed : ∀ place ∈ program.places, (∀ block ∈ done, block.call? ≠ some place) →
    state.links.names[place.node.id]? = none
  blocks : state.blocks = (done.filter Place.isBlock).length

/-- A state in which a test block has been given its name. -/
def naming (state : Progress) (block : Place) (call : Node) : Progress :=
  let reached := visiting (visiting state block.node block.above.head?) call (some block.node)
  { reached with
    blocks := state.blocks + 1
    links := reached.links.setName call.id
      (Draft.blockFunction call ++ Value.integerText state.blocks) }

namespace Mapped

theorem start (visited : state.visited = {}) (names : state.links.names = {})
    (blocks : state.blocks = 0) : Mapped program [] state := by
  have nothing {place : Place} : ¬ Met [] place := by simp [Met]
  constructor
  · simp [visited, nothing]
  · exact fun place _ met => absurd met nothing
  · simp
  · simp [names]
  · exact blocks

/-- A place that has been met before its turn is the call of a block, and no block itself. -/
theorem revisit (mapped : Mapped program done state) (isNew : place ∉ done)
    (met : Met done place) : Mapped program (done ++ [place]) state := by
  have noBlock := met.isBlock_eq_false isNew
  have noCall := Place.call?_of_not_isBlock noBlock
  have same {other : Place} : Met (done ++ [place]) other ↔ Met done other := by
    rw [met_append, noCall]
    simp only [reduceCtorEq, or_false, or_iff_left_iff_imp]
    rintro rfl
    exact met
  constructor
  · exact fun other isOther => (mapped.visited other isOther).trans same.symm
  · exact fun other isOther metOther => mapped.parents other isOther (same.1 metOther)
  · intro block isPassed call calls
    rcases List.mem_append.1 isPassed with isDone | isLast
    · exact mapped.named block isDone call calls
    · rw [List.mem_singleton.1 isLast, noCall] at calls
      cases calls
  · exact fun other isOther noCalls => mapped.unnamed other isOther fun block isDone =>
      noCalls block (List.mem_append_left _ isDone)
  · simp [mapped.blocks, noBlock]

/-- A place that is no block is only marked as visited. -/
theorem visit (mapped : Mapped program done state) (tree : program.IsTree)
    (isPlace : place ∈ program.places) (noCall : place.call? = none) :
    Mapped program (done ++ [place]) (visiting state place.node place.above.head?) := by
  have noBlock : place.isBlock = false := by
    simpa [Place.call?, Place.isBlock] using noCall
  have met {other : Place} : Met (done ++ [place]) other ↔ Met done other ∨ other = place := by
    rw [met_append, noCall]
    simp
  constructor
  · intro other isOther
    rw [met, ← mapped.visited other isOther]
    refine (contains_insert_iff _ _ _).trans (or_congr_right ⟨fun same => ?_, fun same => ?_⟩)
    · exact tree.place_eq isOther isPlace same
    · rw [same]
  · intro other isOther metOther
    change (state.links.setParent _ _).parentOf _ = _
    rw [Links.parentOf_setParent]
    split
    · rename_i same
      rw [tree.place_eq isOther isPlace same]
    · rename_i differs
      refine mapped.parents other isOther ((met.1 metOther).resolve_right fun same => ?_)
      exact differs (congrArg (fun place => place.node.id) same)
  · intro block isPassed call calls
    rcases List.mem_append.1 isPassed with isDone | isLast
    · exact mapped.named block isDone call calls
    · rw [List.mem_singleton.1 isLast, noCall] at calls
      cases calls
  · exact fun other isOther noCalls => mapped.unnamed other isOther fun block isDone =>
      noCalls block (List.mem_append_left _ isDone)
  · simp [visiting, mapped.blocks, noBlock]

/-- A block is marked as visited together with its call, which gets the name of the block. -/
theorem name (mapped : Mapped program done state) (tree : program.IsTree)
    (whole : program.places = done ++ block :: rest) (calls : block.call? = some call) :
    Mapped program (done ++ [block]) (naming state block call.node) := by
  have isPlace : block ∈ program.places := by
    rw [whole]
    simp
  have isPlaceToo := Node.call_mem_places isPlace calls
  have isBlock := Place.isBlock_of_call? calls
  have given := Place.call?_eq_some.1 calls
  have name : Draft.blockFunction call.node ++ Value.integerText state.blocks =
      program.blockName block := by
    rw [Node.blockName, Node.blockFunction, given.1, Node.blockNumber_eq tree whole isBlock,
      mapped.blocks]
    rfl
  have met {other : Place} :
      Met (done ++ [block]) other ↔ (Met done other ∨ other = block) ∨ other = call := by
    rw [met_append, calls, or_assoc, Option.some.injEq, eq_comm (a := call)]
  have atBlock {other : Place} (isOther : other ∈ program.places) :
      other.node.id = block.node.id ↔ other = block :=
    ⟨tree.place_eq isOther isPlace, fun same => by rw [same]⟩
  have atCall {other : Place} (isOther : other ∈ program.places) :
      other.node.id = call.node.id ↔ other = call :=
    ⟨tree.place_eq isOther isPlaceToo, fun same => by rw [same]⟩
  have lookup (id : NodeId) : (naming state block call.node).links.names[id]? =
      if id = call.node.id then some (program.blockName block) else state.links.names[id]? := by
    change (state.links.names.insert call.node.id _)[id]? = _
    rw [Std.TreeMap.getElem?_insert]
    exact if_congr (Nat.compare_eq_eq.trans eq_comm) (congrArg some name) rfl
  constructor
  · intro other isOther
    change ((state.visited.insert _).insert _).contains _ ↔ _
    rw [met, contains_insert_iff, contains_insert_iff, mapped.visited other isOther,
      atBlock isOther, atCall isOther]
  · intro other isOther metOther
    change ((state.links.setParent _ _).setParent _ _).parentOf _ = _
    simp only [Links.parentOf_setParent]
    split
    · rename_i same
      rw [(atCall isOther).1 same, given.2]
      rfl
    · rename_i noCall
      split
      · rename_i same
        rw [(atBlock isOther).1 same]
      · rename_i noBlock
        have metBefore := (met.1 metOther).resolve_right (mt (atCall isOther).2 noCall)
        exact mapped.parents other isOther (metBefore.resolve_right (mt (atBlock isOther).2 noBlock))
  · intro other isPassed otherCall otherCalls
    rw [lookup]
    split
    · rename_i same
      have isOther : other ∈ program.places := by
        rw [whole]
        rcases List.mem_append.1 isPassed with isDone | isLast
        · exact List.mem_append_left _ isDone
        · simp [List.mem_singleton.1 isLast]
      rw [(atCall (Node.call_mem_places isOther otherCalls)).1 same] at otherCalls
      rw [Place.call?_inj calls otherCalls]
    · rename_i differs
      rcases List.mem_append.1 isPassed with isDone | isLast
      · exact mapped.named other isDone otherCall otherCalls
      · rw [List.mem_singleton.1 isLast, calls] at otherCalls
        cases otherCalls
        exact absurd rfl differs
  · intro other isOther noCalls
    have noCall : other ≠ call := by
      rintro rfl
      exact noCalls block (by simp) calls
    rw [lookup, if_neg (fun same => noCall ((atCall isOther).1 same))]
    exact mapped.unnamed other isOther fun block isDone =>
      noCalls block (List.mem_append_left _ isDone)
  · simp [naming, mapped.blocks, isBlock]

/-- Among the nodes from a place outwards, the calls of the blocks around it have names. -/
theorem filterMap_names (mapped : Mapped program done state) (isPlace : place ∈ program.places)
    (outersDone : Place.outers place.above ⊆ done) :
    (place.node :: place.above).filterMap (fun node => state.links.names[node.id]?) =
      place.enclosing.map program.blockName := by
  rcases place with ⟨node, above⟩
  induction above generalizing node with
  | nil =>
      have nameless := mapped.unnamed _ isPlace fun block _ calls => by
        simpa using (Place.call?_eq_some.1 calls).2
      simp [nameless, Place.enclosing, Place.outers]
  | cons outer above ih =>
      rcases Node.outer_mem_places isPlace with ⟨isOuter, isChild⟩
      have isDone := outersDone (List.mem_cons_self ..)
      have farther := ih outer isOuter (List.cons_subset.1 outersDone).2
      simp only at farther ⊢
      cases isBlock : Place.isBlock ⟨outer, above⟩ with
      | true =>
          rcases Place.exists_call? isBlock with ⟨call, calls⟩
          have isPart : (⟨node, outer :: above⟩ : Place) ∈ (⟨outer, above⟩ : Place).parts :=
            Place.mem_parts.2 ⟨isChild, rfl⟩
          rw [Place.parts_of_call? calls, List.mem_singleton] at isPart
          have named : state.links.names[node.id]? = _ := mapped.named _ isDone _ (isPart ▸ calls)
          rw [List.filterMap_cons, named]
          simp [farther, Place.enclosing, Place.outers, isBlock]
      | false =>
          have nameless : state.links.names[node.id]? = none :=
            mapped.unnamed _ isPlace fun block _ calls => by
            rcases List.cons.inj (Place.call?_eq_some.1 calls).2 with ⟨rfl, rfl⟩
            rw [Place.isBlock_of_call? calls] at isBlock
            cases isBlock
          rw [List.filterMap_cons, nameless]
          simp [farther, Place.enclosing, Place.outers, isBlock]

end Mapped

/-- Where every place outwards has its parent in the table, the chain of parents is the way out. -/
theorem Links.leads_of_parents {links : Links} {node : Node} {above : List Node}
    (parents : ∀ outer ∈ (⟨node, above⟩ : Place) :: Place.outers above,
      links.parentOf outer.node.id = outer.above.head?) : links.Leads node.id above := by
  induction above generalizing node with
  | nil => exact parents _ (List.mem_cons_self ..)
  | cons outer above ih =>
      exact ⟨parents _ (List.mem_cons_self ..),
        ih fun farther isFarther => parents farther (List.mem_cons_of_mem _ isFarther)⟩

/-- From the call of a block that has just been named the chain of parents leads out of the block. -/
theorem Mapped.ancestors_call (mapped : Mapped program (done ++ [block]) state)
    (tree : program.IsTree) (isPlace : block ∈ program.places)
    (outersDone : Place.outers block.above ⊆ done) (calls : block.call? = some call) :
    state.links.ancestors call.node.id = block.node :: block.above := by
  have isPlaceToo := Node.call_mem_places isPlace calls
  have above := (Place.call?_eq_some.1 calls).2
  have leads : state.links.Leads call.node.id call.above := by
    refine Links.leads_of_parents fun outer isOuter => ?_
    rcases List.mem_cons.1 isOuter with rfl | isAround
    · exact mapped.parents _ isPlaceToo (Or.inr ⟨block, by simp, calls⟩)
    · refine mapped.parents _ (Place.outers_subset_places isPlaceToo isAround) (Or.inl ?_)
      rw [above] at isAround
      rcases List.mem_cons.1 isAround with rfl | isFarther
      · simp
      · exact List.mem_append_left _ (outersDone isFarther)
  rw [Links.ancestors_eq leads (Place.nodup_lineage tree.isCoherent isPlaceToo), above]

/-! ## The walk -/

namespace Module

theorem ends_pushTest_of_visited (isVisited : state.visited.contains place.node.id)
    (parent : Option Node) : Ends (pushTest scope place.node parent) state (.ok ()) state := by
  refine ends_lift_bind.2 ?_
  change Ends (if state.visited.contains place.node.id then _ else _) state (.ok ()) state
  rw [isVisited]
  exact ends_pure.2 ⟨rfl, rfl⟩

theorem ends_pushTest_of_unvisited {outcome : Except Fault Unit}
    (unvisited : state.visited.contains place.node.id = false) {parent : Option Node}
    (rested : Ends (match blockCall? place.node with
      | none => pure ()
      | some call => do
          Run.markVisited call
          Run.setParent call (some place.node)
          nameBlock call
          let id ← Run.drawId
          let doc ← Run.build scope id .test call (Comment.docTags place.node.leading)
          let _ ← Run.insert scope doc) (visiting state place.node parent) outcome after) :
    Ends (pushTest scope place.node parent) state outcome after := by
  refine ends_lift_bind.2 ?_
  change Ends (if state.visited.contains place.node.id then _ else _) state outcome after
  rw [unvisited]
  exact ends_lift_bind.2 (ends_lift_bind.2 rested)

theorem ends_pushTest_of_block {doc : Doc} (unfiltered : scope.filter = none)
    (unvisited : state.visited.contains block.node.id = false) (calls : block.call? = some call)
    (made : Draft.build ⟨scope, (naming state block call.node).links, state.store.nextId, call.node,
      Comment.docTags block.node.leading⟩ .test = .ok doc)
    (absent : state.store.get? doc.id = none) :
    Ends (pushTest scope block.node block.above.head?) state (.ok ())
      { naming state block call.node with
        store := ⟨state.store.docs ++ [doc], state.store.nextId + 1⟩ } := by
  refine ends_pushTest_of_unvisited unvisited ?_
  rw [(Place.call?_eq_some.1 calls).1]
  refine ends_lift_bind.2 (ends_lift_bind.2 (ends_lift_bind.2 (ends_lift_bind.2 ?_)))
  have built : Ends (build scope state.store.nextId .test call.node
      (Comment.docTags block.node.leading))
      { naming state block call.node with store := state.store.draw.2 } (.ok doc)
      { naming state block call.node with store := state.store.draw.2 } := by
    refine ends_lift_bind.2 (ends_lift_bind.2 (ends_bind_ok.2 ⟨_, _, ends_get.2 ⟨rfl, rfl⟩, ?_⟩))
    exact ends_liftExcept.2 ⟨made.symm, rfl⟩
  have absentToo : ({ naming state block call.node with store := state.store.draw.2 }
      : Progress).store.get? doc.id = none := absent
  have inserted : Ends (insert scope doc) { naming state block call.node with
      store := state.store.draw.2 } _ _ := (ends_insert_of_absent absentToo).2 ⟨rfl, rfl⟩
  have passes : scope.passes doc = .ok true := by rw [Scope.passes, unfiltered]
  rw [passes] at inserted
  exact ends_bind_ok.2 ⟨_, _, built, ends_bind_ok.2 ⟨_, _, inserted, ends_pure.2 ⟨rfl, rfl⟩⟩⟩

end Module

/-- What the walk asks of a file of tests, and of the store in which it finds the file recorded. -/
structure Scope.IsTestable (scope : Scope) (base : Store) : Prop where
  tree : scope.program.IsTree
  unmarked : '~' ∉ scope.filePath.toList
  unfiltered : scope.filter = none
  free : ∀ number < scope.program.blocks.length, base.get? (base.nextId + number) = none

/-- What the walk has come to once it has passed some places of the program. -/
structure Tested (scope : Scope) (base : Progress) (done : List Place) (state : Progress)
    (tests : List Doc) : Prop where
  mapped : Mapped scope.program done state
  docs : state.store.docs = base.store.docs ++ tests
  nextId : state.store.nextId = base.store.nextId + (done.filter Place.isBlock).length
  ids : ∀ doc ∈ tests, doc.id < state.store.nextId
  invalid : state.invalid = base.invalid
  records : List.Forall₂ scope.RecordsBlock (done.filter Place.isBlock) tests

namespace Tested

theorem pass (tested : Tested scope base done state tests) (noBlock : place.isBlock = false)
    (mapped : Mapped scope.program (done ++ [place]) after) (store : after.store = state.store)
    (invalid : after.invalid = state.invalid) :
    Tested scope base (done ++ [place]) after tests := by
  have blocks : (done ++ [place]).filter Place.isBlock = done.filter Place.isBlock := by
    simp [noBlock]
  constructor
  · exact mapped
  · rw [store, tested.docs]
  · rw [store, tested.nextId, blocks]
  · rw [store]
    exact tested.ids
  · rw [invalid, tested.invalid]
  · rw [blocks]
    exact tested.records

/-- At a place that has not been met, the walk stores the record of the block there, if any. -/
theorem visit (tested : Tested scope base done state tests) (testable : scope.IsTestable base.store)
    (whole : scope.program.places = done ++ place :: rest)
    (unvisited : state.visited.contains place.node.id = false) :
    ∃ after more, Ends (Module.pushTest scope place.node place.above.head?) state (.ok ()) after ∧
      Tested scope base (done ++ [place]) after (tests ++ more) := by
  have isPlace : place ∈ scope.program.places := by
    rw [whole]
    simp
  cases called : place.call? with
  | none =>
      have nothing : Module.blockCall? place.node = none := by simpa [Place.call?] using called
      have noBlock : place.isBlock = false := by rw [Place.isBlock, nothing]; rfl
      refine ⟨visiting state place.node place.above.head?, [],
        Module.ends_pushTest_of_unvisited unvisited ?_, ?_⟩
      · rw [nothing]
        exact ends_pure.2 ⟨rfl, rfl⟩
      · rw [List.append_nil]
        exact tested.pass noBlock (tested.mapped.visit testable.tree isPlace called) rfl rfl
  | some call =>
      have isBlock := Place.isBlock_of_call? called
      have mapped := tested.mapped.name testable.tree whole called
      have outersDone := Node.outers_subset_of_places_eq whole
      have chain := mapped.ancestors_call testable.tree isPlace outersDone called
      have around := mapped.filterMap_names isPlace
        (List.subset_append_of_subset_left [place] outersDone)
      have named := mapped.named place (by simp) call called
      rcases Draft.exists_recordsBlock testable.unmarked called named (chain ▸ around) with
        ⟨doc, made, sameId, records⟩
      have absent : state.store.get? doc.id = none := by
        have fewer : (done.filter Place.isBlock).length < scope.program.blocks.length := by
          rw [Node.blocks, whole]
          simp [isBlock]
        rw [Store.get?, tested.docs, List.find?_append, sameId]
        have inBase := testable.free _ fewer
        rw [← tested.nextId, Store.get?] at inBase
        rw [inBase, Option.none_or]
        refine List.find?_eq_none.2 fun other isOther => ?_
        have smaller := tested.ids other isOther
        simp only [beq_iff_eq]
        omega
      have blocks : (done ++ [place]).filter Place.isBlock =
          done.filter Place.isBlock ++ [place] := by
        simp [isBlock]
      refine ⟨_, [doc], Module.ends_pushTest_of_block testable.unfiltered unvisited called made absent, ?_⟩
      constructor
      · exact ⟨mapped.visited, mapped.parents, mapped.named, mapped.unnamed, mapped.blocks⟩
      · simp [tested.docs]
      · simp only [tested.nextId, blocks, List.length_append, List.length_singleton]
        omega
      · simp only
        intro other isOther
        rcases List.mem_append.1 isOther with isTest | isNew
        · have smaller := tested.ids other isTest
          omega
        · rw [List.mem_singleton.1 isNew, sameId]
          omega
      · exact tested.invalid
      · rw [blocks]
        exact List.rel_append tested.records (.cons records .nil)

theorem step (tested : Tested scope base done state tests) (testable : scope.IsTestable base.store)
    (whole : scope.program.places = done ++ place :: rest) :
    ∃ after more, Ends (Module.pushTest scope place.node place.above.head?) state (.ok ()) after ∧
      Tested scope base (done ++ [place]) after (tests ++ more) := by
  have isPlace : place ∈ scope.program.places := by
    rw [whole]
    simp
  cases isVisited : state.visited.contains place.node.id with
  | false => exact tested.visit testable whole isVisited
  | true =>
      have isNew := testable.tree.not_mem_of_places_eq whole
      have met := (tested.mapped.visited place isPlace).1 isVisited
      have noBlock := met.isBlock_eq_false isNew
      refine ⟨state, [], Module.ends_pushTest_of_visited isVisited _, ?_⟩
      rw [List.append_nil]
      exact tested.pass noBlock (tested.mapped.revisit isNew met) rfl rfl

theorem run (tested : Tested scope base done state tests) (testable : scope.IsTestable base.store)
    (whole : scope.program.places = done ++ rest) :
    ∃ after more,
      Ends (rest.forM fun place => Module.pushTest scope place.node place.above.head?) state (.ok ())
        after ∧
      Tested scope base scope.program.places after (tests ++ more) := by
  induction rest generalizing done state tests with
  | nil =>
      rw [List.append_nil] at whole
      exact ⟨state, [], ends_forM_nil.2 ⟨rfl, rfl⟩, by simpa [whole] using tested⟩
  | cons place rest ih =>
      rcases tested.step testable whole with ⟨middle, more, pushed, passed⟩
      rcases ih passed (by simpa using whole) with ⟨after, others, looped, finished⟩
      refine ⟨after, more ++ others, ?_, by simpa using finished⟩
      exact ends_bind_ok.2 ⟨(), middle, pushed, looped⟩

end Tested

/-! ## Whole files of tests -/

/-- The nearest of the blocks around a block is a block with the others around it. -/
theorem Place.enclosing_of_cons {place outer : Place} {rest : List Place}
    (around : place.enclosing = outer :: rest) : outer.enclosing = rest := by
  rcases place with ⟨node, above⟩
  induction above generalizing node with
  | nil => simp [Place.enclosing, Place.outers] at around
  | cons first above ih =>
      cases isBlock : Place.isBlock ⟨first, above⟩ with
      | true =>
          simp only [Place.enclosing, Place.outers, List.filter_cons, isBlock, if_true,
            List.cons.injEq] at around
          rw [← around.1, ← around.2]
          rfl
      | false =>
          simp only [Place.enclosing, Place.outers, List.filter_cons, isBlock, Bool.false_eq_true,
            if_false] at around
          exact ih first around

/--
The record of a test block, among the records of all blocks of a program: its depth is the number of
blocks around it, and it is a member of the nearest of them, or else of the file.
-/
structure Scope.Mirrors (scope : Scope) (recorded : List (Place × Doc)) (block : Place) (doc : Doc) :
    Prop where
  category : doc.category = .test
  line : doc.line = (Module.blockCall? block.node).bind Node.line?
  name : doc.name = some (scope.program.blockName block)
  depth : doc.testDepth = some (block.enclosing.length : Int)
  outermost : block.enclosing = [] → doc.memberof = some scope.filePath
  nested : ∀ outer rest, block.enclosing = outer :: rest → ∃ outerDoc,
    (outer, outerDoc) ∈ recorded ∧ doc.memberof = outerDoc.longname ∧
      outerDoc.testDepth = some (rest.length : Int)

theorem Scope.mirrors_of_records {tests : List Doc}
    (records : List.Forall₂ scope.RecordsBlock scope.program.blocks tests) :
    List.Forall₂ (scope.Mirrors (scope.program.blocks.zip tests)) scope.program.blocks tests := by
  refine List.forall₂_iff_zip.2 ⟨records.length_eq, fun {block doc} isPair => ?_⟩
  have recorded := List.forall₂_iff_zip.1 records |>.2 isPair
  refine ⟨recorded.category, recorded.line, recorded.name, recorded.depth, fun outermost => ?_,
    fun outer rest around => ?_⟩
  · rw [recorded.memberof, outermost]
    rfl
  · have isPlace := (Node.mem_blocks.1 (List.of_mem_zip isPair).1).1
    have isOuter : outer ∈ scope.program.blocks :=
      Node.enclosing_subset_blocks isPlace (around ▸ List.mem_cons_self ..)
    rw [← List.map_fst_zip (Nat.le_of_eq records.length_eq)] at isOuter
    rcases List.mem_map.1 isOuter with ⟨⟨_, outerDoc⟩, isOuterPair, rfl⟩
    have outerRecorded := List.forall₂_iff_zip.1 records |>.2 isOuterPair
    have farther := Place.enclosing_of_cons around
    refine ⟨outerDoc, isOuterPair, ?_, ?_⟩
    · rw [recorded.memberof, outerRecorded.longname, around, farther]
    · rw [outerRecorded.depth, farther]

theorem map_eq_map_of_forall₂ {α β γ : Type} {related : α → β → Prop} {view : β → γ} {shown : α → γ}
    {parts : List α} {others : List β} (pairs : List.Forall₂ related parts others)
    (same : ∀ part other, related part other → view other = shown part) :
    others.map view = parts.map shown := by
  rw [← List.forall₂_eq_eq_eq, List.forall₂_map_left_iff, List.forall₂_map_right_iff]
  exact (pairs.imp same).flip

/-- The names of test blocks tell their records apart, and so do their longnames. -/
theorem Scope.names_nodup_of_records (tree : scope.program.IsTree)
    (unmarked : '~' ∉ scope.filePath.toList) {tests : List Doc}
    (records : List.Forall₂ scope.RecordsBlock scope.program.blocks tests) :
    (tests.map Doc.name).Nodup ∧ (tests.map Doc.longname).Nodup := by
  have distinct : scope.program.blocks.Nodup := (List.Nodup.of_map _ tree).filter _
  have ofBlocks {view : Doc → Option String} {shown : Place → String}
      (same : ∀ block doc, scope.RecordsBlock block doc → view doc = some (shown block))
      (tells : ∀ block ∈ scope.program.blocks, ∀ other ∈ scope.program.blocks,
        shown block = shown other → block = other) : (tests.map view).Nodup := by
    rw [map_eq_map_of_forall₂ records same]
    exact distinct.map_on fun block isBlock other isOther equal =>
      tells block isBlock other isOther (Option.some.inj equal)
  have byName : ∀ block ∈ scope.program.blocks, ∀ other ∈ scope.program.blocks,
      scope.program.blockName block = scope.program.blockName other → block = other :=
    fun block isBlock other isOther => Node.blockName_inj tree isBlock isOther
  refine ⟨ofBlocks (fun block doc recorded => recorded.name) byName,
    ofBlocks (fun block doc recorded => recorded.longname) fun block isBlock other isOther same => ?_⟩
  exact byName block isBlock other isOther (Scope.blockName_eq_of_blockPath unmarked same)

namespace Module

/-- What a visit of a file of tests does before faults are answered does not depend on the policy. -/
theorem pushTest_under (scope : Scope) (policy : Policy) (node : Node) (parent : Option Node) :
    pushTest (scope.under policy) node parent = pushTest scope node parent := by
  simp only [pushTest, build_under]
  rfl

/-- The walk through a file of tests goes into every node, whatever faults there are. -/
theorem enterTest_descends {node : Node} {parent : Option Node} {descent : Node.Descent}
    (ended : Ends (enterTest scope node parent) state (.ok descent) after) : descent = .enter := by
  rcases ends_guarded ended with visited | ⟨fault, middle, entry, messages, -, answered, -, -⟩
  · rcases ends_bind_ok.1 visited with ⟨_, middle, -, rested⟩
    cases (ends_pure.1 rested).1
    rfl
  · cases answered
    rfl

/-- The walk through a file of tests is a loop over all places of its program. -/
theorem ends_looped {outcome : Except Fault Unit}
    (ended : Ends (scope.program.walk (enterTest scope)) state outcome after) :
    Ends (scope.program.places.forM fun place =>
      enterTest scope place.node place.above.head? >>= fun _ => pure ()) state outcome after := by
  have descends (node : Node) (parent : Option Node) {before : Progress} {descent : Node.Descent}
      {after : Progress} (ended : Ends (enterTest scope node parent) before (.ok descent) after) :
      descent = if (fun _ => true) node then .enter else .skip :=
    enterTest_descends ended
  have looped := Node.ends_walkStack descends [⟨scope.program, []⟩] ended
  rwa [List.flatMap_singleton] at looped

/-- Visits that do not fail make a walk that does not fail, under both policies. -/
theorem ends_walk_of_loop (policy : Policy)
    (looped : Ends (scope.program.places.forM fun place =>
      pushTest scope place.node place.above.head?) state (.ok ()) after) :
    Ends (scope.program.walk (enterTest (scope.under policy))) state (.ok ()) after := by
  have entered (places : List Place) {before : Progress}
      (looped : Ends (places.forM fun place => pushTest scope place.node place.above.head?) before
        (.ok ()) after) :
      Ends (places.forM fun place => enterTest (scope.under policy) place.node place.above.head? >>=
        fun _ => pure ()) before (.ok ()) after := by
    induction places generalizing before with
    | nil => exact looped
    | cons place rest ih =>
        rcases ends_bind_ok.1 looped with ⟨_, middle, pushed, rested⟩
        have visited : Ends (enterTest (scope.under policy) place.node place.above.head?) before
            (.ok .enter) middle := by
          refine ends_tryCatch.2 (Or.inl ⟨_, ends_bind_ok.2 ⟨(), middle, ?_, ends_pure.2 ⟨rfl, rfl⟩⟩,
            rfl⟩)
          rwa [pushTest_under]
        exact ends_bind_ok.2 ⟨(), middle,
          ends_bind_ok.2 ⟨_, middle, visited, ends_pure.2 ⟨rfl, rfl⟩⟩, ih rested⟩
  rcases ended : (scope.program.walk (enterTest (scope.under policy))).run.run state with
    ⟨outcome, last⟩
  rcases (entered _ looped).unique (ends_looped ended) with ⟨rfl, rfl⟩
  exact ended

/-- A file of tests whose text can be had is recorded under an id that is free. -/
theorem ends_storeTestFile (scope : Scope) (state : Progress) (unfiltered : scope.filter = none)
    (readable : scope.code.isSome ∨ ∃ text, scope.fileText = .ok text) {id : Int}
    (absent : state.store.get? id = none) :
    ∃ file : Doc, file.id = id ∧ file.category = .testFile ∧ ∀ policy,
      Ends (storeModule (scope.under policy) .testFile id) state (.ok ())
        { state with store := { state.store with docs := state.store.docs ++ [file] } } := by
  have made : ∃ file : Doc, file.id = id ∧ file.category = .testFile ∧
      Draft.build ⟨scope, state.links, id, scope.program, []⟩ .testFile = .ok file := by
    unfold Draft.build Draft.testFile Draft.file
    simp only
    cases inMemory : scope.code with
    | some code => exact ⟨_, rfl, rfl, rfl⟩
    | none =>
        rcases readable with inMemoryToo | ⟨text, read⟩
        · rw [inMemory] at inMemoryToo
          cases inMemoryToo
        · rw [read]
          exact ⟨_, rfl, rfl, rfl⟩
  rcases made with ⟨file, sameId, category, made⟩
  refine ⟨file, sameId, category, fun policy => ?_⟩
  have built : Ends (build (scope.under policy) id .testFile scope.program []) state (.ok file)
      state := by
    rw [build_under]
    refine ends_lift_bind.2 (ends_lift_bind.2 (ends_bind_ok.2 ⟨_, _, ends_get.2 ⟨rfl, rfl⟩, ?_⟩))
    exact ends_liftExcept.2 ⟨made.symm, rfl⟩
  have passes : (scope.under policy).passes file = .ok true := by
    rw [Scope.passes, Scope.under, unfiltered]
  have inserted : Ends (insert (scope.under policy) file) state _ _ :=
    (ends_insert_of_absent (sameId.symm ▸ absent)).2 ⟨rfl, rfl⟩
  rw [passes] at inserted
  exact ends_bind_ok.2 ⟨_, _, built, ends_bind_ok.2 ⟨_, _, inserted, ends_pure.2 ⟨rfl, rfl⟩⟩⟩

/-- A run on a file of tests that is recorded ends well if the visits on the walk do. -/
theorem ends_generateTests_of_loop (scope : Scope) (policy : Policy) {start base walked : Progress}
    (stored : Ends (storeModule ((within scope start.store.nextId).under policy) .testFile
      start.store.nextId) { start with store := start.store.draw.2 } (.ok ()) base)
    (looped : Ends (scope.program.places.forM fun place =>
      pushTest (within scope start.store.nextId) place.node place.above.head?) base (.ok ()) walked) :
    Ends (generateTests (scope.under policy)) start (.ok start.store.nextId)
      ((Run.say .info ("Generated test docs for " ++ scope.filePath ++ " (module id " ++
        Value.integerText start.store.nextId ++ ")")).run walked).2 := by
  have walks := @ends_walk_of_loop (within scope start.store.nextId) base walked policy looped
  rw [generateTests_eq]
  refine ends_lift_bind.2 (ends_bind_ok.2 ⟨(), base, stored, ?_⟩)
  exact ends_bind_ok.2 ⟨(), walked, walks, ends_lift_bind.2 (ends_pure.2 ⟨rfl, rfl⟩)⟩

/--
The records of a file of tests mirror the tree of its blocks. Under both policies the run ends well and
stores the record of the file and then one record for each test block, in the order of the walk. A
block is as deep as there are blocks around it, and a member of the nearest of them; names and
longnames tell the blocks apart. The text of the file has to be known, and the ids that the run draws
must not be taken.
-/
theorem test_records_mirror_blocks (scope : Scope) (tree : scope.program.IsTree)
    (unmarked : '~' ∉ scope.filePath.toList) (unfiltered : scope.filter = none)
    (readable : scope.code.isSome ∨ ∃ text, scope.fileText = .ok text) (store : Store)
    (free : ∀ number ≤ scope.program.blocks.length, store.get? (store.nextId + number) = none)
    (nextNode : NodeId) :
    ∃ after file tests,
      (∀ policy, Ends (generateTests (scope.under policy))
        (Program.start ⟨scope.program, nextNode⟩ store) (.ok store.nextId) after) ∧
      after.invalid = [] ∧
      after.store.docs = store.docs ++ file :: tests ∧ file.category = .testFile ∧
      List.Forall₂ (scope.Mirrors (scope.program.blocks.zip tests)) scope.program.blocks tests ∧
      (tests.map Doc.name).Nodup ∧ (tests.map Doc.longname).Nodup := by
  let inner := within scope store.nextId
  let start := Program.start ⟨scope.program, nextNode⟩ store
  let drawn : Progress := { start with store := store.draw.2 }
  have absent : store.get? store.nextId = none := by simpa using free 0 (Nat.zero_le _)
  rcases ends_storeTestFile inner drawn unfiltered readable absent with
    ⟨file, sameId, category, stores⟩
  let base : Progress := { start with store := ⟨store.docs ++ [file], store.nextId + 1⟩ }
  have testable : inner.IsTestable base.store := by
    refine ⟨tree, unmarked, unfiltered, fun number less => ?_⟩
    have isFree := free (number + 1) less
    have sameNumber : store.nextId + (number + 1 : Nat) = store.nextId + 1 + number := by omega
    have differs : (file.id == store.nextId + 1 + number) = false := by
      rw [sameId, beq_eq_false_iff_ne]
      omega
    rw [sameNumber, Store.get?] at isFree
    rw [Store.get?, List.find?_append, isFree, List.find?_singleton, differs]
    rfl
  have begun : Tested inner base [] base [] :=
    ⟨.start rfl rfl rfl, by simp, by simp, by simp, rfl, .nil⟩
  rcases begun.run testable rfl with ⟨walked, tests, looped, tested⟩
  have records : List.Forall₂ inner.RecordsBlock scope.program.blocks tests := tested.records
  have recordsToo : List.Forall₂ scope.RecordsBlock scope.program.blocks tests :=
    records.imp fun _ _ recorded => ⟨recorded.category, recorded.line, recorded.name,
      recorded.depth, recorded.memberof, recorded.longname⟩
  let said := Run.say .info ("Generated test docs for " ++ scope.filePath ++ " (module id " ++
    Value.integerText store.nextId ++ ")")
  refine ⟨(said.run walked).2, file, tests, fun policy => ?_, ?_, ?_, category,
    Scope.mirrors_of_records recordsToo, Scope.names_nodup_of_records tree unmarked recordsToo⟩
  · exact ends_generateTests_of_loop scope policy (stores policy) looped
  · exact tested.invalid
  · have docs := tested.docs
    change walked.store.docs = _
    simpa [base] using docs

/-- A test block as a statement, with statements in the function that it is given. -/
def blockStatement (first : NodeId) (function : String) (statements : List Node) : Node :=
  let body : Node := .mk { id := first + 4 } (.block statements)
  let callback : Node := .mk { id := first + 3 } (.arrow [] (some body) false false)
  let callee : Node := .mk { id := first + 2 } (.identifier function)
  .mk { id := first } (.expressionStatement (some (.mk { id := first + 1 } (.call (some callee)
    [callback]))))

/-- A file of tests in memory: one test in a group, and one on its own. -/
def suiteScope : Scope where
  program := .mk { id := 0 } (.program
    [blockStatement 1 "describe" [blockStatement 6 "it" []], blockStatement 11 "test" []] [])
  filePath := "suite.js"
  code := some "describe(() => \x7b it(() => \x7b\x7d); \x7d); test(() => \x7b\x7d);"

theorem suite_records_mirror_blocks :
    suiteScope.program.IsTree ∧ '~' ∉ suiteScope.filePath.toList ∧ suiteScope.filter = none ∧
    (suiteScope.code.isSome ∨ ∃ text, suiteScope.fileText = .ok text) ∧
    (∀ number ≤ suiteScope.program.blocks.length, ({} : Store).get? (0 + number) = none) ∧
    ∃ after file tests,
      (∀ policy, Ends (generateTests (suiteScope.under policy))
        (Program.start ⟨suiteScope.program, 16⟩ {}) (.ok 0) after) ∧
      after.store.docs = file :: tests ∧
      tests.map Doc.name = [some "describe0", some "it1", some "test2"] ∧
      tests.map Doc.testDepth = [some 0, some 1, some 0] := by
  have tree : suiteScope.program.IsTree := by decide +kernel
  have free : ∀ number ≤ suiteScope.program.blocks.length,
      ({} : Store).get? (0 + number) = none := fun _ _ => rfl
  refine ⟨tree, by decide, rfl, Or.inl rfl, free, ?_⟩
  rcases test_records_mirror_blocks suiteScope tree (by decide) rfl (Or.inl rfl) {} free 16 with
    ⟨after, file, tests, ended, -, docs, -, mirrors, -⟩
  refine ⟨after, file, tests, ended, docs, ?_, ?_⟩
  · rw [map_eq_map_of_forall₂ mirrors fun _ _ mirrored => mirrored.name]
    decide +kernel
  · rw [map_eq_map_of_forall₂ mirrors fun _ _ mirrored => mirrored.depth]
    decide +kernel

/-- That file of tests on a disk, with bytes that are no text. -/
def brokenSuite : Scope :=
  { suiteScope with code := none, fileText := .error (.illFormed 0 1 255 .invalidStart) }

/-- A store that holds a record under an id that it has still to give out. -/
def takenStore : Store where
  docs := [{ id := 1, category := .module, filePath := "other.js" }]

/-- Where a run on a file of tests with identities up to 16 ends. -/
def testEndOf (scope : Scope) (store : Store) : Progress :=
  ((generateTests scope).run.run (Program.start ⟨scope.program, 16⟩ store)).2

/-- Without a readable text, or where an id is taken, the run on a file of tests fails. -/
theorem broken_suites_fail :
    suiteScope.program.IsTree ∧ '~' ∉ suiteScope.filePath.toList ∧ suiteScope.filter = none ∧
    brokenSuite.program = suiteScope.program ∧ brokenSuite.filePath = suiteScope.filePath ∧
    brokenSuite.filter = none ∧
    (∀ policy, Ends (generateTests (brokenSuite.under policy))
      (Program.start ⟨brokenSuite.program, 16⟩ {}) (.error (.illFormed 0 1 255 .invalidStart))
      (testEndOf (brokenSuite.under policy) {})) ∧
    Ends (generateTests (suiteScope.under .stop))
      (Program.start ⟨suiteScope.program, 16⟩ takenStore) (.error (.duplicateId 1))
      (testEndOf (suiteScope.under .stop) takenStore) ∧
    Ends (generateTests (suiteScope.under .log))
      (Program.start ⟨suiteScope.program, 16⟩ takenStore) (.ok 0)
      (testEndOf (suiteScope.under .log) takenStore) ∧
    (testEndOf (suiteScope.under .log) takenStore).invalid.map InvalidCode.fault =
      [.duplicateId 1] := by
  refine ⟨by decide +kernel, by decide, rfl, rfl, rfl, rfl, fun policy => ?_, ?_, ?_, ?_⟩
  · cases policy
    · exact Prod.ext (by decide +kernel) rfl
    · exact Prod.ext (by decide +kernel) rfl
  · exact Prod.ext (by decide +kernel) rfl
  · exact Prod.ext (by decide +kernel) rfl
  · decide +kernel

end Module

end DocHarvest
