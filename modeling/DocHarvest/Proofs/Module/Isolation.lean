import DocHarvest.Proofs.Module.Courses
import DocHarvest.Proofs.Module.Exports
import DocHarvest.Proofs.Run.Moved

/-!
# Modules that do not see each other

A call documents its module in the same way whatever the store holds, as long as nothing in it comes
from the same file. The first pass never asks what is stored; the second pass does, but only for
records of its own file. Step by step the work on a store that holds other records keeps in step
with the work on an empty one.
-/

namespace DocHarvest

open Run

variable {scope : Scope} {base : List Doc} {floor offset : Int}

/-! ## The first pass -/

namespace Run

/-- Two steps that end alike when the second one works behind the records of others. -/
abbrev Follows {α : Type} (base : List Doc) (floor offset : Int) (left right : Run α) : Prop :=
  Lockstep (Store.Behind base floor offset) (· = ·) left right

theorem Records.moved (indifferent : scope.Indifferent offset) :
    Records (Store.Behind base floor offset) scope (scope.moved offset) :=
  fun _ _ _ => (Lockstep.drawnBuild indifferent _ _ _).bind fun _ _ _ => Lockstep.pure rfl

end Run

namespace Module

theorem firstPass_follows (indifferent : scope.Indifferent offset) :
    Follows base floor offset (firstPass scope) (firstPass (scope.moved offset)) :=
  firstPass_lockstep (Records.moved indifferent)

theorem documentInner_follows (indifferent : scope.Indifferent offset) :
    Follows base floor offset (documentInner scope) (documentInner (scope.moved offset)) :=
  documentInner_lockstep (Records.moved indifferent)

end Module

/-! ## The second pass -/

/-- The same mutation of a record of the module, where that comes behind others. -/
inductive Mutation.Moved (floor offset : Int) : Mutation → Mutation → Prop
  | update {id : Int} (own : floor ≤ id) (change : ExportChange) :
      Moved floor offset (.update id change) (.update (id + offset) change)
  | append {id : Int} (own : floor ≤ id) (text : String) :
      Moved floor offset (.append id text) (.append (id + offset) text)
  | insert (doc : Doc) : Moved floor offset (.insert doc) (.insert (doc.renumbered offset doc.id))

namespace Export

/-- The same plan, where the records of the module come behind others. -/
abbrev PlannedMoved (base : List Doc) (floor offset : Int) (left right : Run (List Mutation)) :
    Prop :=
  Lockstep (Store.Behind base floor offset) (List.Forall₂ (Mutation.Moved floor offset)) left right

/-- The same record of the module, or none in both stores. -/
def Found (floor offset : Int) (found foundToo : Option Doc) : Prop :=
  foundToo = found.map (Doc.moved offset) ∧ ∀ doc ∈ found, floor ≤ doc.id

theorem find?_lockstep (unknown : ∀ doc ∈ base, doc.filePath ≠ scope.filePath) (category : Category)
    (name : String) :
    Lockstep (Store.Behind base floor offset) (Found floor offset) (find? scope category name)
      (find? (scope.moved offset) category name) := by
  refine Lockstep.get.bind fun progress progressToo aligned => Lockstep.pure ⟨?_, ?_⟩
  · exact aligned.related.lookup? unknown category name
  · intro doc found
    exact (aligned.related.own doc (Store.mem_of_lookup? found).1).1

theorem moved_updates {found foundToo : Option Doc} (same : Found floor offset found foundToo)
    (change : ExportChange) :
    List.Forall₂ (Mutation.Moved floor offset) (found.toList.map fun doc => .update doc.id change)
      (foundToo.toList.map fun doc => .update doc.id change) := by
  rcases same with ⟨rfl, own⟩
  cases found with
  | none => exact .nil
  | some doc => exact .cons (.update (own doc rfl) change) .nil

theorem planName_moved (unknown : ∀ doc ∈ base, doc.filePath ≠ scope.filePath)
    (name importStyle : String) :
    PlannedMoved base floor offset (planName scope name importStyle)
      (planName (scope.moved offset) name importStyle) := by
  refine (Lockstep.mapM (fun category => find?_lockstep unknown category name) _).bind
    fun found foundToo same => Lockstep.pure ?_
  induction same with
  | nil => exact .nil
  | @cons first firstToo rest restToo related _ ih =>
      have together := List.rel_append (moved_updates related ⟨some importStyle, none⟩) ih
      rcases related with ⟨rfl, own⟩
      cases first with
      | none => simpa using together
      | some doc => simpa using together

theorem planCompanion_moved (unknown : ∀ doc ∈ base, doc.filePath ≠ scope.filePath)
    (exportNode : Node) (variableName className : String) :
    PlannedMoved base floor offset (planCompanion scope exportNode variableName className)
      (planCompanion (scope.moved offset) exportNode variableName className) := by
  have fresh (count : Nat) : Oblivious (freshNodes count) := fun _ _ _ => rfl
  have unassigned (node : Node) (tags : List Tag) :
      Yields (build scope unassignedId .moduleVariable node tags) (·.id = unassignedId) := by
    intro before companion after making
    rcases (build_sound making).2.2.1 companion rfl with ⟨links, heads⟩
    exact heads.id
  refine (Lockstep.oblivious (fresh _)).bind fun first _ same => ?_
  cases same
  refine (Lockstep.oblivious (Oblivious.setParent _ _)).bind fun _ _ _ => ?_
  -- the record has no id yet, so in the other store only the id of its module is moved
  refine ((build_lockstep _ scope offset unassignedId unassignedId _ _ _).yielding
    (unassigned _ _)).bind fun companion _ built => ?_
  rcases built with ⟨isUnassigned, rfl⟩
  refine (find?_lockstep unknown _ _).bind fun found _ same => ?_
  rcases same with ⟨rfl, own⟩
  cases found with
  | none =>
      refine Lockstep.pure (.cons ?_ .nil)
      rw [← isUnassigned]
      exact .insert _
  | some doc =>
      have isOwn : floor ≤ doc.id := own doc rfl
      refine Lockstep.pure (List.rel_append ?_ (.cons (.update isOwn _) .nil))
      simp only [Doc.renumbered, Doc.moved]
      cases companion.description.filter (!·.isEmpty) with
      | none => exact .nil
      | some text => exact .cons (.append isOwn text) .nil

theorem planInstance_moved (unknown : ∀ doc ∈ base, doc.filePath ≠ scope.filePath)
    (exportNode : Node) (className variableName : String) :
    PlannedMoved base floor offset (planInstance scope exportNode className variableName)
      (planInstance (scope.moved offset) exportNode className variableName) := by
  refine (find?_lockstep unknown _ _).bind fun found _ same => ?_
  rcases same with ⟨rfl, own⟩
  cases found with
  | none => exact Lockstep.pure .nil
  | some doc =>
      refine (planCompanion_moved unknown _ _ _).bind fun companion _ same => Lockstep.pure ?_
      exact .cons (.update (own doc rfl) _) same

theorem planDefault_moved (unknown : ∀ doc ∈ base, doc.filePath ≠ scope.filePath)
    (exportNode : Node) (declaration : Option Node) :
    PlannedMoved base floor offset (planDefault scope exportNode declaration)
      (planDefault (scope.moved offset) exportNode declaration) := by
  unfold planDefault
  rw [scope.moved_program]
  split
  · exact planInstance_moved unknown _ _ _
  · have named (plan planToo : List Mutation)
        (same : List.Forall₂ (Mutation.Moved floor offset) plan planToo) (name : String) :
        PlannedMoved base floor offset
          (planName scope name name >>= fun named => pure (plan ++ named))
          (planName (scope.moved offset) name name >>= fun named => pure (planToo ++ named)) :=
      (planName_moved unknown _ _).bind fun _ _ more => Lockstep.pure (List.rel_append same more)
    split
    · exact (planInstance_moved unknown _ _ _).bind fun _ _ same => named _ _ same _
    · exact named _ _ .nil _
  · refine (Lockstep.oblivious (Oblivious.say _ _)).bind fun _ _ _ => Lockstep.pure .nil

theorem planDeclarator_moved (unknown : ∀ doc ∈ base, doc.filePath ≠ scope.filePath)
    (exportNode declarator : Node) :
    PlannedMoved base floor offset (planDeclarator scope exportNode declarator)
      (planDeclarator (scope.moved offset) exportNode declarator) := by
  unfold planDeclarator
  split
  · exact Lockstep.pure .nil
  · refine (find?_lockstep unknown _ _).bind fun found foundToo same => ?_
    have marked := moved_updates same ⟨none, none⟩
    split
    · exact Lockstep.pure marked
    · refine (planCompanion_moved unknown _ _ _).bind fun _ _ more => Lockstep.pure ?_
      exact List.rel_append marked more

theorem planSpecifier_moved (unknown : ∀ doc ∈ base, doc.filePath ≠ scope.filePath)
    (specifier : Node) :
    PlannedMoved base floor offset (planSpecifier scope specifier)
      (planSpecifier (scope.moved offset) specifier) := by
  unfold planSpecifier
  split
  · exact Lockstep.pure .nil
  · exact planName_moved unknown _ _

theorem planNamed_moved (unknown : ∀ doc ∈ base, doc.filePath ≠ scope.filePath) (exportNode : Node)
    (declaration : Option Node) (specifiers : List Node) (origin : Option Node) :
    PlannedMoved base floor offset (planNamed scope exportNode declaration specifiers origin)
      (planNamed (scope.moved offset) exportNode declaration specifiers origin) := by
  refine (Lockstep.mapM (planDeclarator_moved unknown exportNode) _).bind fun _ _ instances => ?_
  split
  · exact Lockstep.pure (List.rel_flatten instances)
  · refine (Lockstep.mapM (planSpecifier_moved unknown) _).bind fun _ _ named => Lockstep.pure ?_
    exact List.rel_append (List.rel_flatten instances) (List.rel_flatten named)

/-- An export is planned for in the same way behind records of other files. -/
theorem plan_moved (unknown : ∀ doc ∈ base, doc.filePath ≠ scope.filePath) (exportNode : Node) :
    PlannedMoved base floor offset (plan scope exportNode)
      (plan (scope.moved offset) exportNode) := by
  unfold plan
  split
  · exact Lockstep.pure .nil
  · split
    · exact planDefault_moved unknown _ _
    · exact planNamed_moved unknown _ _ _ _
    · exact Lockstep.pure .nil

theorem modify_follows {change changeToo : Store → Store}
    (keeps : ∀ {alone joined : Store}, alone.Behind base floor offset joined →
      (change alone).Behind base floor offset (changeToo joined)) :
    Follows base floor offset
      (modify fun progress => { progress with store := change progress.store })
      (modify fun progress => { progress with store := changeToo progress.store }) := by
  intro before beforeToo outcome after aligned ended
  rcases ends_modify.1 ended with ⟨rfl, rfl⟩
  exact ⟨_, _, ends_modify.2 ⟨rfl, rfl⟩, .ok rfl, aligned.stored (keeps aligned.related)⟩

theorem applyOne_follows (indifferent : scope.Indifferent offset) {mutation mutationToo : Mutation}
    (same : mutation.Moved floor offset mutationToo) :
    Follows base floor offset (applyOne scope mutation)
      (applyOne (scope.moved offset) mutationToo) := by
  cases same with
  | update own change =>
      exact modify_follows fun behind =>
        behind.modify own change.apply (fun _ => rfl) fun _ => rfl
  | append own text =>
      refine modify_follows fun behind => behind.modify own (Doc.describeMore text) ?_ ?_
      · exact fun doc => Doc.id_eq_of_outline (outline_describeMore text doc)
      · intro doc
        have description : (doc.moved offset).description = doc.description := rfl
        unfold Doc.describeMore
        rw [description]
        split <;> rfl
  | insert doc =>
      intro before beforeToo outcome after aligned ended
      let numbered : Doc := { doc with id := before.store.nextId }
      have renumbered : { doc.renumbered offset doc.id with id := beforeToo.store.nextId } =
          numbered.moved offset := by
        rw [aligned.related.counter]
        rfl
      have alignedDrawn : Over (Drawn base floor offset numbered.id) _ _ := drawn_of_behind aligned
      have inserted {stored : Except Fault Bool} {middle : Progress}
          (inserting : Ends (insert scope numbered) { before with store := before.store.draw.2 }
            stored middle) :
          ∃ middleToo, Ends (insert (scope.moved offset)
              { doc.renumbered offset doc.id with id := beforeToo.store.nextId })
              { beforeToo with store := beforeToo.store.draw.2 } stored middleToo ∧
            Over (Store.Behind base floor offset) middle middleToo := by
        rw [renumbered]
        exact insert_drawn_moved indifferent alignedDrawn inserting
      have drawn := ends_lift_bind.1 ended
      rcases ends_bind.1 drawn with ⟨stored, middle, inserting, rested⟩ | ⟨fault, failed, rfl⟩
      · rcases ends_pure.1 rested with ⟨rfl, rfl⟩
        rcases inserted inserting with ⟨middleToo, insertingToo, alignedToo⟩
        refine ⟨_, middleToo, ends_lift_bind.2 (ends_bind.2 (Or.inl ?_)), .ok rfl, alignedToo⟩
        exact ⟨stored, middleToo, insertingToo, ends_pure.2 ⟨rfl, rfl⟩⟩
      · rcases inserted failed with ⟨afterToo, failedToo, alignedToo⟩
        refine ⟨_, afterToo, ends_lift_bind.2 (ends_bind.2 (Or.inr ?_)), .error fault, alignedToo⟩
        exact ⟨fault, failedToo, rfl⟩

end Export

namespace Module

theorem resolve_follows (indifferent : scope.Indifferent offset)
    (unknown : ∀ doc ∈ base, doc.filePath ≠ scope.filePath) (exportNode : Node) :
    Follows base floor offset (resolve scope exportNode)
      (resolve (scope.moved offset) exportNode) := by
  refine guarded_lockstep ?_ rfl
  refine (Export.plan_moved unknown exportNode).bind fun plan planToo same => ?_
  exact Lockstep.forM same fun _ _ related => Export.applyOne_follows indifferent related

theorem secondPass_follows (indifferent : scope.Indifferent offset)
    (unknown : ∀ doc ∈ base, doc.filePath ≠ scope.filePath) :
    Follows base floor offset (secondPass scope) (secondPass (scope.moved offset)) := by
  refine Lockstep.get.bind fun progress progressToo aligned => ?_
  have pending : progressToo.pending = progress.pending := by rw [aligned.rest]
  have same : List.Forall₂ (· = ·) progress.pending progress.pending :=
    List.forall₂_same.2 (by simp)
  have resolved : Follows base floor offset (progress.pending.forM (resolve scope))
      (progress.pending.forM (resolve (scope.moved offset))) := by
    refine Lockstep.forM same ?_
    rintro exportNode _ rfl
    exact resolve_follows indifferent unknown exportNode
  rw [pending]
  refine resolved.bind fun _ _ _ => ?_
  exact Lockstep.lift (fun _ _ => rfl) fun _ => rfl

/-! ## The walk through a test file -/

theorem pushTest_follows (indifferent : scope.Indifferent offset) (node : Node)
    (parent : Option Node) :
    Follows base floor offset (pushTest scope node parent)
      (pushTest (scope.moved offset) node parent) := by
  have visited : Oblivious (isVisited node) := fun _ _ _ => rfl
  have named (call : Node) : Oblivious (nameBlock call) := fun _ _ _ => rfl
  refine (Lockstep.oblivious visited).bind fun visited _ same => ?_
  cases same
  split
  · exact Lockstep.pure rfl
  · refine (Lockstep.oblivious (Oblivious.markVisited _)).bind fun _ _ _ => ?_
    refine (Lockstep.oblivious (Oblivious.setParent _ _)).bind fun _ _ _ => ?_
    split
    · exact Lockstep.pure rfl
    · refine (Lockstep.oblivious (Oblivious.markVisited _)).bind fun _ _ _ => ?_
      refine (Lockstep.oblivious (Oblivious.setParent _ _)).bind fun _ _ _ => ?_
      refine (Lockstep.oblivious (named _)).bind fun _ _ _ => ?_
      have split (scope : Scope) (call : Node) (tags : List Tag) :
          (liftM drawId >>= fun id => build scope id .test call tags >>= fun doc =>
            Run.insert scope doc >>= fun _ => pure ()) =
          (liftM drawId >>= fun id => build scope id .test call tags >>= Run.insert scope) >>=
            fun _ => (pure () : Run Unit) := by
        simp only [bind_assoc]
      rw [split, split]
      exact Records.moved indifferent _ _ _

theorem enterTest_follows (indifferent : scope.Indifferent offset) (node : Node)
    (parent : Option Node) :
    Follows base floor offset (enterTest scope node parent)
      (enterTest (scope.moved offset) node parent) :=
  guarded_lockstep ((pushTest_follows indifferent _ _).bind fun _ _ _ => Lockstep.pure rfl) rfl

/-! ## Whole calls -/

/--
The work on a module that returns its id: behind other records it returns the moved id. It also says
the id, so messages are left out.
-/
def Closes (base : List Doc) (floor offset : Int) (left right : Run Int) : Prop :=
  ∀ ⦃before beforeToo outcome after⦄, Over (Store.Behind base floor offset) before beforeToo →
    Ends left before outcome after →
    ∃ afterToo, Ends right beforeToo ((· + offset) <$> outcome) afterToo ∧
      after.store.Behind base floor offset afterToo.store ∧ afterToo.invalid = after.invalid

theorem closes_of_follows {work workToo : Run Unit}
    (follows : Follows base floor offset work workToo) (text textToo : String) (id : Int) :
    Closes base floor offset
      (work >>= fun _ => liftM (Run.say .info text) >>= fun _ => pure id)
      (workToo >>= fun _ => liftM (Run.say .info textToo) >>= fun _ => pure (id + offset)) := by
  intro before beforeToo outcome after aligned ended
  rcases ends_bind.1 ended with ⟨_, middle, worked, rest⟩ | ⟨fault, failed, rfl⟩
  · have said := ends_lift_bind.1 rest
    rcases ends_pure.1 said with ⟨rfl, rfl⟩
    rcases follows aligned worked with ⟨_, middleToo, workedToo, ⟨⟩, alignedToo⟩
    refine ⟨((Run.say .info textToo).run middleToo).2,
      ends_bind.2 (Or.inl ⟨(), middleToo, workedToo, ?_⟩), alignedToo.related, ?_⟩
    · exact ends_lift_bind.2 (ends_pure.2 ⟨rfl, rfl⟩)
    · have invalid : middleToo.invalid = middle.invalid := by rw [alignedToo.rest]
      exact invalid
  · rcases follows aligned failed with ⟨_, afterToo, failedToo, ⟨⟩, alignedToo⟩
    refine ⟨afterToo, ends_bind.2 (Or.inr ⟨fault, failedToo, rfl⟩), alignedToo.related, ?_⟩
    rw [alignedToo.rest]

/-- The record of a module is stored under the ids drawn for it in both stores, or in neither. -/
theorem storeModule_drawn_moved (indifferent : scope.Indifferent offset) {category : Category}
    {id : Int} {before beforeToo after : Progress} {outcome : Except Fault Unit}
    (aligned : Over (Drawn base floor offset id) before beforeToo)
    (ended : Ends (storeModule scope category id) before outcome after) :
    ∃ afterToo, Ends (storeModule (scope.moved offset) category (id + offset)) beforeToo outcome
        afterToo ∧ Over (Store.Behind base floor offset) after afterToo := by
  rw [storeModule_eq] at ended ⊢
  rw [scope.moved_program]
  rcases ends_bind.1 ended with ⟨stored, middle, storing, rest⟩ | ⟨fault, failed, rfl⟩
  · rcases ends_pure.1 rest with ⟨rfl, rfl⟩
    rcases build_insert_drawn_moved indifferent aligned storing with
      ⟨afterToo, storingToo, alignedToo⟩
    exact ⟨afterToo, ends_bind.2 (Or.inl ⟨stored, afterToo, storingToo, ends_pure.2 ⟨rfl, rfl⟩⟩),
      alignedToo⟩
  · rcases build_insert_drawn_moved indifferent aligned failed with
      ⟨afterToo, failedToo, alignedToo⟩
    exact ⟨afterToo, ends_bind.2 (Or.inr ⟨fault, failedToo, rfl⟩), alignedToo⟩

theorem opening_closes (indifferent : scope.Indifferent offset) (category : Category)
    {rest : Int → Run Int} (each : ∀ id, Closes base floor offset (rest id) (rest (id + offset))) :
    Closes base floor offset (opening scope category rest) (opening scope category rest) := by
  intro before beforeToo outcome after aligned ended
  let next := before.store.nextId
  have opens {result : Except Fault Unit} {stored : Progress}
      (storing : Ends (storeModule (within scope next) category next)
        { before with store := before.store.draw.2 } result stored) :
      ∃ storedToo, Ends (storeModule (within scope (next + offset)) category (next + offset))
          { beforeToo with store := beforeToo.store.draw.2 } result storedToo ∧
        Over (Store.Behind base floor offset) stored storedToo := by
    have inside : (within scope next).Indifferent offset := indifferent
    exact storeModule_drawn_moved inside (drawn_of_behind aligned) storing
  have opening_of {result : Except Fault Int} {afterToo : Progress}
      (continued : Ends (storeModule (within scope (next + offset)) category (next + offset) >>=
        fun _ => rest (next + offset)) { beforeToo with store := beforeToo.store.draw.2 } result
        afterToo) : Ends (opening scope category rest) beforeToo result afterToo := by
    -- the id that the other store gives out next is the moved one
    have counter : next + offset = beforeToo.store.nextId := aligned.related.counter.symm
    rw [counter] at continued
    exact ends_lift_bind.2 continued
  have drawn := ends_lift_bind.1 ended
  rcases ends_bind.1 drawn with ⟨_, stored, storing, rested⟩ | ⟨fault, failed, rfl⟩
  · rcases opens storing with ⟨storedToo, storingToo, alignedToo⟩
    rcases each next alignedToo rested with ⟨afterToo, restedToo, behind, invalid⟩
    refine ⟨afterToo, opening_of (ends_bind.2 (Or.inl ?_)), behind, invalid⟩
    exact ⟨(), storedToo, storingToo, restedToo⟩
  · rcases opens failed with ⟨afterToo, failedToo, alignedToo⟩
    have ended := opening_of (ends_bind.2 (Or.inr ⟨fault, failedToo, rfl⟩))
    exact ⟨afterToo, ended, alignedToo.related, by rw [alignedToo.rest]⟩

theorem passes_closes (indifferent : scope.Indifferent offset)
    (unknown : ∀ doc ∈ base, doc.filePath ≠ scope.filePath) (id : Int) :
    Closes base floor offset (passes scope id) (passes scope (id + offset)) := by
  have follows : Follows base floor offset
      (documentInner (within scope id) >>= fun _ => firstPass (within scope id) >>= fun _ =>
        secondPass (within scope id))
      (documentInner (within scope (id + offset)) >>= fun _ =>
        firstPass (within scope (id + offset)) >>= fun _ =>
          secondPass (within scope (id + offset))) := by
    have inside : (within scope id).Indifferent offset := indifferent
    refine (documentInner_follows inside).bind fun _ _ _ => ?_
    exact (firstPass_follows inside).bind fun _ _ _ => secondPass_follows inside unknown
  have closes := closes_of_follows follows
    ("Generated docs for " ++ scope.filePath ++ " (module id " ++ Value.integerText id ++ ")")
    ("Generated docs for " ++ scope.filePath ++ " (module id " ++
      Value.integerText (id + offset) ++ ")") id
  simp only [bind_assoc] at closes
  exact closes

theorem testPass_closes (indifferent : scope.Indifferent offset) (id : Int) :
    Closes base floor offset (testPass scope id) (testPass scope (id + offset)) := by
  have inside : (within scope id).Indifferent offset := indifferent
  have follows : Follows base floor offset (scope.program.walk (enterTest (within scope id)))
      (scope.program.walk (enterTest (within scope (id + offset)))) :=
    Lockstep.walkStack (enterTest_follows inside) _
  exact closes_of_follows follows _ _ id

/-- Behind records of other files, a request is answered in the same way. -/
theorem Request.closes (request : Request) (indifferent : scope.Indifferent offset)
    (unknown : ∀ doc ∈ base, doc.filePath ≠ scope.filePath) :
    Closes base floor offset (request.run scope) (request.run scope) := by
  unfold Request.run
  split
  · rw [generateTests_eq]
    exact opening_closes indifferent _ (testPass_closes indifferent)
  · rw [generate_eq]
    exact opening_closes indifferent _ (passes_closes indifferent unknown)

namespace Call

/--
Calls do not see the modules of other files. A call on a store that earlier calls have filled, and
that holds nothing from the file of the call, ends as it does on an empty store, notes the same
invalid code, and adds the same records, with all ids moved by the number that comes next.
-/
theorem isolated_from_other_files (start : Store) (disciplined : start.Disciplined)
    (calls : List Call) (call : Call) (unfiltered : call.request.filter = none)
    (unknown : ∀ scope, call.scope = .ok scope →
      ∀ doc ∈ (storeAfter calls start).docs, doc.filePath ≠ scope.filePath) :
    let before := storeAfter calls start
    let alone := call.perform {}
    let joined := call.perform before
    joined.1 = (· + before.nextId) <$> alone.1 ∧
      joined.2.store.docs = before.docs ++ alone.2.store.docs.map (Doc.moved before.nextId) ∧
      joined.2.store.nextId = alone.2.store.nextId + before.nextId ∧
      joined.2.invalid = alone.2.invalid := by
  intro before alone joined
  have isDisciplined : before.Disciplined := disciplined_storeAfter calls disciplined
  cases checked : call.scope with
  | error fault =>
      have left : alone = _ := perform_of_error checked {}
      have right : joined = _ := perform_of_error checked before
      rw [left, right]
      exact ⟨rfl, by simp, by simp, rfl⟩
  | ok scope =>
      have behind : ({} : Store).Behind before.docs 0 before.nextId before := by
        refine ⟨by simp, by simp, ?_, by simp, Int.le_refl _⟩
        simpa using isDisciplined.below
      have aligned : Over (Store.Behind before.docs 0 before.nextId) { call.state with store := {} }
          { call.state with store := before } := ⟨rfl, behind⟩
      have indifferent : scope.Indifferent before.nextId := by
        intro filter given
        rw [(scope_eq_ok checked).2.1, unfiltered] at given
        cases given
      have closes : Closes before.docs 0 before.nextId (call.request.run scope) _ :=
        call.request.closes indifferent (unknown scope checked)
      rcases closes aligned (ends_perform checked {}) with ⟨afterToo, ended, behindAfter, invalid⟩
      rcases (ends_perform checked before).unique ended with ⟨outcome, rfl⟩
      exact ⟨outcome, behindAfter.docs, behindAfter.counter, invalid⟩

/-- A call that documents a class with an exported instance, in another file than the lone class. -/
def instanceElsewhere : Call where
  request :=
    let value : Node := .mk { id := 5 } (.construct (some (.mk { id := 6 } (.identifier "Foo"))) [])
    { program := ⟨.mk { id := 0 } (.program [emptyClass 1 "Foo",
        .mk { id := 4 } (.exportDefault (some value))] []), 7⟩
      filePath := .text "other.js"
      root := "/" }
  workspace := {}
  directory := ⟨.single, []⟩
  state := { nextNode := 7 }

/-- Behind the lone class, the other file is documented as on an empty store. -/
theorem instance_isolated_from_lone_class : ({} : Store).Disciplined ∧
    instanceElsewhere.request.filter = none ∧
    (∀ scope, instanceElsewhere.scope = .ok scope →
      ∀ doc ∈ (storeAfter [loneClass] {}).docs, doc.filePath ≠ scope.filePath) ∧
    (instanceElsewhere.perform (storeAfter [loneClass] {})).2.store.docs.map
        (fun doc => (doc.id, doc.moduleId, doc.name, doc.exported)) =
      [(0, some 0, some "lone.js", false), (1, some 0, some "Lone", false),
        (2, some 2, some "other.js", false), (3, some 2, some "Foo", true),
        (4, some 2, some "foo", true)] ∧
    let before := storeAfter [loneClass] {}
    let alone := instanceElsewhere.perform {}
    let joined := instanceElsewhere.perform before
    joined.1 = (· + before.nextId) <$> alone.1 ∧
      joined.2.store.docs = before.docs ++ alone.2.store.docs.map (Doc.moved before.nextId) ∧
      joined.2.store.nextId = alone.2.store.nextId + before.nextId ∧
      joined.2.invalid = alone.2.invalid := by
  have empty : ({} : Store).Disciplined := ⟨by simp, by simp⟩
  have located : instanceElsewhere.scope.map Scope.filePath = .ok "other.js" := by decide +kernel
  have others : ∀ filePath ∈ (storeAfter [loneClass] {}).docs.map Doc.filePath,
      filePath ≠ "other.js" := by
    decide +kernel
  have unknown : ∀ scope, instanceElsewhere.scope = .ok scope →
      ∀ doc ∈ (storeAfter [loneClass] {}).docs, doc.filePath ≠ scope.filePath := by
    intro scope checked doc isStored
    rw [checked] at located
    have inFile : scope.filePath = "other.js" := Except.ok.inj located
    rw [inFile]
    exact others _ (List.mem_map_of_mem isStored)
  refine ⟨empty, rfl, unknown, ?_,
    isolated_from_other_files {} empty [loneClass] instanceElsewhere rfl unknown⟩
  decide +kernel

end Call

end Module

end DocHarvest
