import DocHarvest.Proofs.Module.Atomicity

/-!
# Steps that succeed

`Run.Succeeds` says of a step, from one state on, that it comes to its end with no fault thrown and none
noted. It is closed under composition, loops and guards, and a record that can be built can be stored.
An export is planned for by names and by the code of instances, apart from the type that its comments
may declare: if this type can be read, then planning succeeds.
-/

namespace DocHarvest

open Run

/-- All ids of the store have been given out, and no code has been found invalid. -/
structure Progress.IsFaultless (state : Progress) : Prop where
  below : state.store.Below
  invalid : state.invalid = []

theorem Progress.IsFaultless.congr {before after : Progress} (faultless : before.IsFaultless)
    (store : after.store = before.store) (invalid : after.invalid = before.invalid) :
    after.IsFaultless :=
  ⟨store ▸ faultless.below, invalid.trans faultless.invalid⟩

/-- From a state on, a step comes to its end without a fault, and none has been noted then. -/
def Run.Succeeds {α : Type} (step : Run α) (before : Progress) : Prop :=
  ∃ value after, Ends step before (.ok value) after ∧ after.IsFaultless

namespace Run.Succeeds

variable {α β : Type} {scope : Scope} {step : Run α} {before : Progress}

theorem pure (faultless : before.IsFaultless) (value : α) :
    Succeeds (pure value) before :=
  ⟨value, before, ends_pure.2 ⟨rfl, rfl⟩, faultless⟩

theorem bind {next : α → Run β} (first : Succeeds step before)
    (second : ∀ value middle, Ends step before (.ok value) middle → middle.IsFaultless →
      Succeeds (next value) middle) : Succeeds (step >>= next) before := by
  rcases first with ⟨value, middle, start, faultless⟩
  rcases second value middle start faultless with ⟨result, after, rest, faultlessToo⟩
  exact ⟨result, after, ends_bind_ok.2 ⟨value, middle, start, rest⟩, faultlessToo⟩

/-- After a change of the state, which cannot fail. -/
theorem after {action : StateM Progress α} {next : α → Run β}
    (rest : Succeeds (next (action.run before).1) (action.run before).2) :
    Succeeds (liftM action >>= next) before := by
  rcases rest with ⟨result, after, ended, faultless⟩
  exact ⟨result, after, ends_lift_bind.2 ended, faultless⟩

theorem andReturn (succeeds : Succeeds step before) (value : α → β) :
    Succeeds (step >>= fun result => Pure.pure (value result)) before :=
  succeeds.bind fun result _ _ faultless => pure faultless (value result)

/-- A step that succeeds has no other way to end. -/
theorem of_ends (succeeds : Succeeds step before) {outcome : Except Fault α} {after : Progress}
    (ended : Ends step before outcome after) : (∃ value, outcome = .ok value) ∧ after.IsFaultless := by
  rcases succeeds with ⟨value, state, endedWell, faultless⟩
  rcases ended.unique endedWell with ⟨same, rfl⟩
  exact ⟨⟨value, same⟩, faultless⟩

/-- A step that ends as another one does, which succeeds. -/
theorem congr {other : Run α} {state : Progress} (succeeds : Succeeds other state)
    (follows : ∀ {outcome after}, Ends step before outcome after → Ends other state outcome after) :
    Succeeds step before := by
  rcases ended : step.run.run before with ⟨outcome, after⟩
  rcases succeeds.of_ends (follows ended) with ⟨⟨value, rfl⟩, faultless⟩
  exact ⟨value, after, ended, faultless⟩

theorem guarded {node : Node} {fallback : α} (succeeds : Succeeds step before) :
    Succeeds (Module.guarded scope node fallback step) before := by
  rcases succeeds with ⟨value, after, ended, faultless⟩
  exact ⟨value, after, ends_tryCatch.2 (Or.inl ⟨value, ended, rfl⟩), faultless⟩

theorem forM {work : α → Run PUnit} {parts : List α} (faultless : before.IsFaultless)
    (each : ∀ part ∈ parts, ∀ {state}, state.IsFaultless → Succeeds (work part) state) :
    Succeeds (parts.forM work) before := by
  induction parts generalizing before with
  | nil => exact pure faultless _
  | cons part rest ih =>
      rw [List.forall_mem_cons] at each
      exact (each.1 faultless).bind fun _ _ _ faultlessToo => ih faultlessToo each.2

theorem mapM {work : α → Run β} {parts : List α} (faultless : before.IsFaultless)
    (each : ∀ part ∈ parts, ∀ {state}, state.IsFaultless → Succeeds (work part) state) :
    Succeeds (parts.mapM work) before := by
  induction parts generalizing before with
  | nil => exact pure faultless _
  | cons part rest ih =>
      rw [List.forall_mem_cons] at each
      rw [List.mapM_cons]
      refine (each.1 faultless).bind fun value _ _ faultlessToo => ?_
      exact (ih faultlessToo each.2).andReturn _

/-- A record that can be built is built, and nothing is stored or noted with it. -/
theorem exists_built {id : Int} {category : Category} {node : Node} {tags : List Tag}
    (exists_build : ∀ links, ∃ doc, Draft.build ⟨scope, links, id, node, tags⟩ category = .ok doc)
    (before : Progress) :
    ∃ doc after, Ends (build scope id category node tags) before (.ok doc) after ∧ doc.id = id ∧
      after.store = before.store ∧ after.invalid = before.invalid := by
  rcases ran : (build scope id category node tags).run.run before with ⟨outcome, after⟩
  have making : Ends (build scope id category node tags) before outcome after := ran
  rcases build_sound making with ⟨store, invalid, -, -⟩
  rcases ends_build making with ⟨messages, -, same⟩
  rcases exists_build after.links with ⟨doc, isBuilt⟩
  rw [isBuilt] at same
  subst same
  exact ⟨doc, after, making, (Draft.build_heads isBuilt).id, store, invalid⟩

/-- Such a record is stored, or left out, under an id just drawn. -/
theorem stored (total : scope.IsTotal) (faultless : before.IsFaultless) {drawn : Progress}
    (draw : drawn.store = before.store.draw.2) (invalid : drawn.invalid = before.invalid)
    {category : Category} {node : Node} {tags : List Tag}
    (exists_build : ∀ links,
      ∃ doc, Draft.build ⟨scope, links, before.store.nextId, node, tags⟩ category = .ok doc) :
    Succeeds (build scope before.store.nextId category node tags >>= Run.insert scope) drawn := by
  rcases exists_built exists_build drawn with ⟨doc, made, making, fresh, store, noted⟩
  rcases insert_returns total faultless.below (store.trans draw) fresh with
    ⟨passes, kept, inserting, below⟩
  have invalidToo : made.invalid = [] := (noted.trans invalid).trans faultless.invalid
  exact ⟨passes, _, ends_bind_ok.2 ⟨doc, made, making, inserting⟩, below, invalidToo⟩

theorem record (total : scope.IsTotal) (faultless : before.IsFaultless) {category : Category}
    {node : Node} {tags : List Tag} (exists_build : ∀ links,
      ∃ doc, Draft.build ⟨scope, links, before.store.nextId, node, tags⟩ category = .ok doc) :
    Succeeds (liftM drawId >>= fun id => build scope id category node tags >>= Run.insert scope)
      before := by
  let drawn : Progress := { before with store := before.store.draw.2 }
  have inserted : Succeeds (build scope before.store.nextId category node tags >>= Run.insert scope)
      drawn :=
    @stored scope before total faultless drawn rfl rfl category node tags exists_build
  exact after inserted

/-! ## Plans of exports -/

theorem find? (faultless : before.IsFaultless) (category : Category) (name : String) :
    Succeeds (Export.find? scope category name) before :=
  ⟨_, before, ends_bind_ok.2 ⟨before, before, ends_get.2 ⟨rfl, rfl⟩, ends_pure.2 ⟨rfl, rfl⟩⟩,
    faultless⟩

theorem planName (faultless : before.IsFaultless) (name importStyle : String) :
    Succeeds (Export.planName scope name importStyle) before := by
  have looked : Succeeds (Export.lookupCategories.mapM fun category =>
      Export.find? scope category name) before :=
    mapM faultless fun category _ _ faultlessToo => find? faultlessToo category name
  exact looked.andReturn _

theorem planSpecifier (faultless : before.IsFaultless) (specifier : Node) :
    Succeeds (Export.planSpecifier scope specifier) before := by
  unfold Export.planSpecifier
  split
  · exact pure faultless _
  · exact planName faultless _ _

section Planning

variable {exportNode : Node} (readable : (Export.declaredType exportNode).isOk)

include readable

/-- Apart from its type, the record of the variable of an instance is made of its code alone. -/
theorem planCompanion (faultless : before.IsFaultless) (variableName className : String) :
    Succeeds (Export.planCompanion scope exportNode variableName className) before := by
  rw [Export.planCompanion_eq]
  let linked : Progress := { before with
    nextNode := before.nextNode + Node.instanceDeclarationSize
    links := before.links.setParent before.nextNode (some scope.program) }
  have exists_build (links : Links) : ∃ doc, (Export.companionDraft scope links before.nextNode
      variableName className exportNode).build .moduleVariable = .ok doc := by
    rw [Export.build_companionDraft]
    cases declared : Export.declaredType exportNode with
    | error fault =>
        rw [declared] at readable
        cases readable
    | ok type => exact ⟨_, rfl⟩
  rcases exists_built exists_build linked with ⟨companion, made, making, -, store, invalid⟩
  have faultlessToo : made.IsFaultless := faultless.congr store invalid
  refine after (after (bind ⟨companion, made, making, faultlessToo⟩ ?_))
  intro companion _ _ faultlessLater
  exact (find? faultlessLater _ _).andReturn _

theorem planInstance (faultless : before.IsFaultless) (className variableName : String) :
    Succeeds (Export.planInstance scope exportNode className variableName) before := by
  refine (find? faultless _ _).bind fun found _ _ faultlessToo => ?_
  cases found with
  | none => exact pure faultlessToo _
  | some doc => exact (planCompanion readable faultlessToo _ _).andReturn _

theorem planDefault (faultless : before.IsFaultless) (declaration : Option Node) :
    Succeeds (Export.planDefault scope exportNode declaration) before := by
  unfold Export.planDefault
  split
  · exact planInstance readable faultless _ _
  · rename_i name _
    have named (instances : List Mutation) {state : Progress} (faultlessToo : state.IsFaultless) :
        Succeeds (do return instances ++ (← Export.planName scope name name)) state :=
      (planName faultlessToo _ _).andReturn _
    dsimp only
    split
    · exact (planInstance readable faultless _ _).bind fun instances _ _ => named instances
    · exact (pure faultless _).bind fun instances _ _ => named instances
  · have said (text : String) : ((say .warning text).run before).2.IsFaultless :=
      faultless.congr rfl rfl
    exact after (pure (said _) _)

theorem planDeclarator (faultless : before.IsFaultless) (declarator : Node) :
    Succeeds (Export.planDeclarator scope exportNode declarator) before := by
  unfold Export.planDeclarator
  split
  · exact pure faultless _
  · refine (find? faultless _ _).bind fun _ _ _ faultlessToo => ?_
    dsimp only
    split
    · exact pure faultlessToo _
    · exact (planCompanion readable faultlessToo _ _).andReturn _

theorem plan (faultless : before.IsFaultless) :
    Succeeds (Export.plan scope exportNode) before := by
  unfold Export.plan
  split
  · exact pure faultless _
  · split
    · exact planDefault readable faultless _
    · have instances (declarators : List Node) :
          Succeeds (declarators.mapM (Export.planDeclarator scope exportNode)) before :=
        mapM faultless fun declarator _ _ faultlessToo =>
          planDeclarator readable faultlessToo declarator
      have named (specifiers : List Node) {state : Progress} (faultlessToo : state.IsFaultless) :
          Succeeds (specifiers.mapM (Export.planSpecifier scope)) state :=
        mapM faultlessToo fun specifier _ _ faultlessLast => planSpecifier faultlessLast specifier
      refine (instances _).bind fun _ _ _ faultlessToo => ?_
      split
      · exact pure faultlessToo _
      · exact (named _ faultlessToo).andReturn _
    · exact pure faultless _

end Planning

end Run.Succeeds

/-- If the comments of an export give a readable type or none, then it can be planned for. -/
theorem Export.exists_planned {scope : Scope} {exportNode : Node}
    (readable : (declaredType exportNode).isOk) {before : Progress} (below : before.store.Below) :
    ∃ plan ready, Ends (Export.plan scope exportNode) before (.ok plan) ready := by
  -- what has been noted before does not matter
  let unnoted : Progress := { before with invalid := [] }
  have faultless : unnoted.IsFaultless := ⟨below, rfl⟩
  have planned : Succeeds (Export.plan scope exportNode) unnoted := .plan readable faultless
  rcases planned with ⟨plan, ready, planning, -⟩
  have same : before.store = unnoted.store := rfl
  rcases plan_once same exportNode .start planning with ⟨_, readyToo, planningToo, ⟨rfl⟩, -⟩
  exact ⟨plan, readyToo, planningToo⟩

end DocHarvest
