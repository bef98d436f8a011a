import DocHarvest.Proofs.Module.Exports
import DocHarvest.Proofs.Module.Visits

/-!
# Which exported variables are recorded

An export of variables is documented by the walk, which records its first variable, or it is put aside
and planned for, which makes records of the variables that hold instances. Whatever follows keeps
these records.
-/

namespace DocHarvest

open Run

/-! ## Records of names -/

/-- A record of something that can be exported under a name. -/
def Doc.Declares (filePath name : String) (doc : Doc) : Prop :=
  doc.category ∈ Export.lookupCategories ∧ doc.name = some name ∧ doc.filePath = filePath

/-- A store with a record of something that can be exported under a name. -/
def Store.Declares (filePath name : String) (store : Store) : Prop :=
  ∃ doc ∈ store.docs, doc.Declares filePath name

variable {scope : Scope} {filePath name : String} {before after : Progress}

theorem Doc.Declares.congr {left right : Doc} (declares : left.Declares filePath name)
    (same : right.outline = left.outline) : right.Declares filePath name := by
  rcases declares with ⟨category, named, inFile⟩
  refine ⟨?_, (Doc.name_eq_of_outline same).trans named, (congrArg Doc.filePath same :).trans inFile⟩
  rw [Doc.category_eq_of_outline same]
  exact category

theorem Store.Grows.declares {fits : Doc → Prop} {store larger : Store}
    (grows : store.Grows fits larger) (declares : store.Declares filePath name) :
    larger.Declares filePath name := by
  rcases declares with ⟨doc, isStored, declares⟩
  rcases grows.exists_outline isStored with ⟨last, isKept, same⟩
  exact ⟨last, isKept, declares.congr same⟩

/-- A record of a name is never lost. -/
theorem Run.Sound.declares {α : Type} {kinds : Category → Prop} {step : Run α}
    {outcome : Except Fault α} (sound : Sound scope kinds step) (ended : Ends step before outcome after)
    (declares : before.store.Declares filePath name) : after.store.Declares filePath name :=
  (sound.reaches ended).grows.declares declares

namespace Node

variable {declaration first : Node}

theorem shape_of_firstDeclarator? (isFirst : declaration.firstDeclarator? = some first) :
    ∃ keyword others, declaration.shape = .variables keyword (first :: others) := by
  rcases Option.bind_eq_some_iff.1 isFirst with ⟨declarators, areDeclarators, isHead⟩
  unfold declarators? at areDeclarators
  split at areDeclarators
  · rename_i keyword _ shape
    cases areDeclarators
    rcases List.head?_eq_some_iff.1 isHead with ⟨others, rfl⟩
    exact ⟨keyword, others, shape⟩
  · cases areDeclarators

end Node

namespace Draft

variable {draft : Draft} {declaration first : Node} {doc : Doc}

theorem nameFromParent?_of_firstDeclarator (isFirst : declaration.firstDeclarator? = some first)
    (bound : first.bound?.bind Node.identifier? = some name) :
    nameFromParent? (some declaration) = some name := by
  rcases Node.shape_of_firstDeclarator? isFirst with ⟨keyword, others, shape⟩
  simp only [nameFromParent?, shape]
  exact bound

theorem bindingName_of_identifier? {bound : Option Node}
    (named : bound.bind Node.identifier? = some name) : bindingName bound = .ok (some name) := by
  rcases Option.bind_eq_some_iff.1 named with ⟨identifier, rfl, isName⟩
  unfold Node.identifier? at isName
  split at isName
  · rename_i shape
    cases isName
    simp only [bindingName, shape]
  · cases isName

theorem declares_of_renders {category : Category} (isLookedUp : category ∈ Export.lookupCategories)
    (rendered : doc.Renders (draft.moduleDoc category (some name))) :
    doc.Declares draft.scope.filePath name := by
  refine ⟨?_, rendered.name, rendered.filePath⟩
  have same : doc.category = category := rendered.category
  rwa [same]

/-- The record of a declaration has the name of its first variable. -/
theorem declares_of_build_declaration (isFirst : draft.node.firstDeclarator? = some first)
    (bound : first.bound?.bind Node.identifier? = some name)
    (built : draft.build .moduleVariable = .ok doc) : doc.Declares draft.scope.filePath name := by
  rcases moduleVariable_renders built with ⟨declarator, given, isGiven, named, rendered⟩
  cases isFirst.symm.trans isGiven
  cases (bindingName_of_identifier? bound).symm.trans named
  exact declares_of_renders (by decide) rendered

/-- The record of a value that is described itself has the name of the variable that holds it. -/
theorem declares_of_build_value {decision : Decision}
    (isValue : draft.node.value? = some decision)
    (parent : draft.links.parentOf draft.node.id = some declaration)
    (named : nameFromParent? (some declaration) = some name)
    (built : draft.build decision.category = .ok doc) : doc.Declares draft.scope.filePath name := by
  have ofFunction (isFunction : isFunctionValue draft.node)
      (built : draft.build .moduleFunction = .ok doc) : doc.Declares draft.scope.filePath name := by
    have rendered := moduleFunction_renders built
    have same : draft.functionName = name := by simp [functionName, isFunction, parent, named]
    rw [same] at rendered
    exact declares_of_renders (by decide) rendered
  unfold Node.value? at isValue
  split at isValue
  all_goals cases isValue
  case h_1 shape => exact ofFunction (by simp [isFunctionValue, shape]) built
  case h_2 shape => exact ofFunction (by simp [isFunctionValue, shape]) built
  case h_3 shape =>
    have rendered := moduleClass_renders built
    have same : classNameOf draft.scope draft.links draft.node = name := by
      simp [classNameOf, isClassExpression, shape, parent, named]
    rw [same] at rendered
    exact declares_of_renders (by decide) rendered

end Draft

/-! ## Exports that the walk unwraps -/

/--
An export statement of variables, of which the first one has a name and gets a value. No comment before
it defines anything by itself, and it is not exported in turn.
-/
structure Node.ExportsVariable (program statement declaration first : Node) (name : String) :
    Prop where
  isStatement : statement ∈ program.body
  wrapped : statement.exported? = some declaration
  isFirst : declaration.firstDeclarator? = some first
  bound : first.bound?.bind Node.identifier? = some name
  initialised : first.initial?.isSome
  plain : ∀ comment ∈ declaration.leading ++ statement.leading, comment.isDoc → comment.IsPlain
  lone : ∀ place ∈ program.places, place.node.exported? ≠ some statement

namespace Node.ExportsVariable

variable {statement declaration first : Node}

theorem isExport (exports : scope.program.ExportsVariable statement declaration first name) :
    statement.shape.isExport := by
  have wrapped := exports.wrapped
  unfold Node.exported? at wrapped
  unfold Shape.isExport
  split at wrapped <;> simp_all

theorem isProgram (exports : scope.program.ExportsVariable statement declaration first name) :
    scope.program.isProgram := by
  have isStatement := exports.isStatement
  unfold Node.body at isStatement
  unfold Node.isProgram
  split at isStatement
  · rfl
  · cases isStatement

theorem isWalked (exports : scope.program.ExportsVariable statement declaration first name) :
    ⟨statement, [scope.program]⟩ ∈ scope.program.walked :=
  Node.statement_mem_walked exports.isProgram exports.isStatement

theorem id_ne (exports : scope.program.ExportsVariable statement declaration first name)
    (coherent : scope.program.IsCoherent) : statement.id ≠ scope.program.id :=
  Place.id_ne_of_above_ne_nil coherent (Node.walked_subset_places exports.isWalked) (by simp)

theorem isTopLevel (exports : scope.program.ExportsVariable statement declaration first name)
    {links : Links} (parent : links.parentOf declaration.id = some statement) :
    scope.isTopLevel links declaration := by
  simp only [Scope.isTopLevel, parent, exports.isExport, if_true]
  exact List.any_eq_true.2 ⟨statement, exports.isStatement, by simp⟩

/-- Below its export, a declaration with a plain comment is recorded under its first name. -/
theorem document (exports : scope.program.ExportsVariable statement declaration first name)
    (unfiltered : scope.filter = none)
    (parent : before.links.parentOf declaration.id = some statement) {comment : Comment}
    (plain : comment.IsPlain)
    (ended : Ends (Run.document scope declaration comment) before (.ok ()) after) :
    after.store.Declares scope.filePath name := by
  rcases Node.shape_of_firstDeclarator? exports.isFirst with ⟨keyword, others, shape⟩
  rcases Option.isSome_iff_exists.1 exports.initialised with ⟨value, initial⟩
  have named := Draft.nameFromParent?_of_firstDeclarator exports.isFirst exports.bound
  have decided : (Decision.ofShape scope declaration).run before =
      (Decision.binding .moduleVariable declaration (some value)).run before := by
    have top : scope.isTopLevel before.links declaration := exports.isTopLevel parent
    simp only [Decision.ofShape, shape, initial]
    rw [Decision.topLevelBinding_run, if_pos top]
  rw [Decision.binding_run] at decided
  rw [document_eq] at ended
  have rest := ends_lift_bind.1 ended
  rw [Decision.decide_run _ _ (Decision.ofTags?_eq_none plain), decided] at rest
  have stores (decision : Decision) {state : Progress}
      (drawn : Ends ((liftM drawId >>= fun id => build scope id decision.category decision.node
        comment.tags >>= insert scope) >>= fun _ => pure ()) state (.ok ()) after)
      (declares : ∀ draft : Draft, ∀ doc, draft.scope = scope → draft.node = decision.node →
        draft.links.parents = state.links.parents → draft.build decision.category = .ok doc →
          doc.Declares scope.filePath name) : after.store.Declares scope.filePath name := by
    rcases ends_bind_ok.1 drawn with ⟨stored, later, ran, finished⟩
    rcases ends_pure.1 finished with ⟨-, rfl⟩
    rcases ends_drawnBuild unfiltered ran with ⟨doc, messages, built, rfl⟩
    exact ⟨doc, by simp, declares _ doc rfl rfl (Links.parents_naming _ _ _ _) built⟩
  cases found : value.value? with
  | none =>
      simp only [Option.bind_some, found] at rest
      refine stores ⟨.moduleVariable, declaration⟩ rest fun draft doc inScope node _ built => ?_
      rw [← inScope]
      exact Draft.declares_of_build_declaration (by rw [node]; exact exports.isFirst) exports.bound
        built
  | some decision =>
      simp only [Option.bind_some, found] at rest
      refine stores decision rest fun draft doc inScope node parents built => ?_
      have same := Node.node_of_value? found
      have known : draft.links.parentOf draft.node.id = some declaration := by
        rw [Links.parentOf, parents, node]
        exact (Links.parentOf_setParent _ _ _ _).trans (if_pos rfl)
      rw [← inScope]
      exact Draft.declares_of_build_value (by rw [node, same]; exact found) known named built

/-- Unwrapping the export records its first variable, whatever is done with the comments after it. -/
theorem unwrap (exports : scope.program.ExportsVariable statement declaration first name)
    (unfiltered : scope.filter = none) (known : declaration.id < before.nextNode) {isLast : Bool}
    (ended : Ends (Export.unwrap scope statement isLast) before (.ok ()) after) :
    after.store.Declares scope.filePath name := by
  unfold Export.unwrap at ended
  rw [exports.wrapped] at ended
  dsimp only at ended
  have visited := ends_lift_bind.1 ended
  have linked := ends_lift_bind.1 visited
  rcases ends_bind_ok.1 linked with ⟨_, documented, leading, rest⟩
  have noDecorator : Export.decoratorComments declaration = [] := by
    rcases Node.shape_of_firstDeclarator? exports.isFirst with ⟨keyword, others, shape⟩
    simp [Export.decoratorComments, shape, Shape.decorators]
  rw [noDecorator, List.append_nil] at leading
  rcases ends_documentComments exports.plain leading with ⟨last, lastPlain, middle, aside, ran⟩
  have parent : middle.links.parentOf declaration.id = some statement := by
    rw [Links.parentOf, aside.parents _ known]
    exact (Links.parentOf_setParent before.links _ _ _).trans (if_pos rfl)
  have declares := exports.document unfiltered parent lastPlain ran
  split at rest
  · exact (documentComments_sound _ _ _ _).declares rest declares
  · rcases ends_pure.1 rest with ⟨-, rfl⟩
    exact declares

/-- An export is no part that describes what is around it, so only a visit marks it. -/
theorem isBound_eq_false (exports : scope.program.ExportsVariable statement declaration first name)
    (coherent : scope.program.IsCoherent) {part : Place} (isPart : part ∈ scope.program.places)
    (same : part.node.id = statement.id) : part.isBound = false := by
  have equal : part.node = statement :=
    coherent part isPart _ (Node.walked_subset_places exports.isWalked) same
  rw [Place.isBound, equal, exports.isExport, Bool.not_true, Bool.and_false]

theorem visit (exports : scope.program.ExportsVariable statement declaration first name)
    (unfiltered : scope.filter = none) (known : declaration.id < before.nextNode)
    {parent : Option Node} {descent : Node.Descent}
    (entered : Export.isDeferred scope.program statement = false)
    (inside : statement.id ≠ scope.program.id)
    (unvisited : before.visited.contains statement.id = false)
    (ended : Ends (Module.enter scope statement parent) before (.ok descent) after)
    (faultless : after.invalid = before.invalid) : after.store.Declares scope.filePath name := by
  rw [Module.enter_eq] at ended
  have visited := Module.ends_guarded_of_invalid (Module.visit_sound scope _ _) ended faultless
  rcases ends_visit_of_entered entered visited with ⟨pushed, -⟩
  rcases ends_push pushed with ⟨reason, -, -⟩ | ⟨-, documented⟩
  · rw [reason.resolve_left inside] at unvisited
    cases unvisited
  · rw [if_pos exports.isExport] at documented
    have knownToo : declaration.id < (visiting before statement parent).nextNode := known
    exact exports.unwrap unfiltered knownToo documented

/-- An export that is not put aside leaves a record of its variable behind. -/
theorem visits (exports : scope.program.ExportsVariable statement declaration first name)
    (coherent : scope.program.IsCoherent) (unfiltered : scope.filter = none)
    (entered : Export.isDeferred scope.program statement = false) :
    Module.Visits scope statement (Store.Declares scope.filePath name) where
  isWalked := exports.isWalked
  entered := entered
  lone := exports.lone
  unbound := fun _ isPlace same => exports.isBound_eq_false coherent isPlace same
  kept := fun grows declares => grows.declares declares
  documents := by
    intro place before after descent isPlace _ below unvisited ended faultless
    have isPart := Place.exported_mem_places (Node.walked_subset_places exports.isWalked)
      exports.wrapped
    exact exports.visit unfiltered (below _ isPart) entered (exports.id_ne coherent) unvisited ended
      faultless

end Node.ExportsVariable

/-! ## Exports that are planned for -/

namespace Export

/-- A store has a record of a name, or a plan makes one. -/
def Provides (filePath name : String) (store : Store) (plan : List Mutation) : Prop :=
  store.Declares filePath name ∨ ∃ doc, Mutation.insert doc ∈ plan ∧ doc.Declares filePath name

namespace Provides

variable {store larger : Store} {plan more : List Mutation}

theorem mono (provides : Provides filePath name store plan)
    (grows : store.Declares filePath name → larger.Declares filePath name) (isMore : plan ⊆ more) :
    Provides filePath name larger more := by
  rcases provides with declares | ⟨doc, isPlanned, declares⟩
  · exact Or.inl (grows declares)
  · exact Or.inr ⟨doc, isMore isPlanned, declares⟩

/-- Planning for parts provides a name if planning for one of them does. -/
theorem mapM {kinds : Category → Prop} {work : Node → Run (List Mutation)}
    (sound : ∀ part, Sound scope kinds (work part)) {parts : List Node} {part : Node}
    (isPart : part ∈ parts)
    (each : ∀ {start plan final}, Ends (work part) start (.ok plan) final →
      Provides filePath name final.store plan) {plans : List (List Mutation)}
    (ended : Ends (parts.mapM work) before (.ok plans) after) :
    Provides filePath name after.store plans.flatten := by
  induction parts generalizing before plans with
  | nil => cases isPart
  | cons head rest ih =>
      rw [List.mapM_cons] at ended
      rcases ends_bind_ok.1 ended with ⟨early, middle, ran, later⟩
      rcases ends_bind_ok.1 later with ⟨late, final, ranToo, rested⟩
      rcases ends_pure.1 rested with ⟨same, rfl⟩
      cases same
      rw [List.flatten_cons]
      rcases List.mem_cons.1 isPart with rfl | isLater
      · exact (each ran).mono (Sound.mapM sound rest |>.declares ranToo)
          (List.subset_append_left _ _)
      · exact (ih isLater ranToo).mono (fun declares => declares) (List.subset_append_right _ _)

end Provides

theorem planCompanion_provides {exportNode : Node} {className : String} {plan : List Mutation}
    (ended : Ends (planCompanion scope exportNode name className) before (.ok plan) after) :
    Provides scope.filePath name after.store plan := by
  have drawn := ends_lift_bind.1 ended
  have linked := ends_lift_bind.1 drawn
  rcases ends_bind_ok.1 linked with ⟨companion, built, making, rest⟩
  rcases ends_build making with ⟨messages, state, made⟩
  rcases build_instanceDeclaration rfl made.symm with ⟨category, named⟩
  have inFile : companion.filePath = scope.filePath := (Draft.build_heads made.symm).filePath
  rcases ends_bind_ok.1 rest with ⟨found, looked, looking, planned⟩
  rcases ends_find? looking with ⟨isFound, rfl⟩
  cases found with
  | none =>
      rcases ends_pure.1 planned with ⟨same, rfl⟩
      cases same
      refine Or.inr ⟨_, List.mem_singleton_self _, ?_, named, inFile⟩
      change companion.category ∈ _
      rw [category]
      decide
  | some doc =>
      rcases ends_pure.1 planned with ⟨-, rfl⟩
      rcases Store.mem_of_lookup? isFound.symm with ⟨isStored, isVariable, isNamed, isHere⟩
      refine Or.inl ⟨doc, isStored, ?_, isNamed, isHere⟩
      rw [isVariable]
      decide

theorem planDeclarator_provides {exportNode declarator : Node} {callee : Option Node}
    (constructed : declarator.initial?.bind Node.constructed? = some callee)
    (isClass : Node.calleeName callee ≠ "")
    (bound : declarator.bound?.bind Node.identifier? = some name) (isName : name ≠ "")
    {plan : List Mutation}
    (ended : Ends (planDeclarator scope exportNode declarator) before (.ok plan) after) :
    Provides scope.filePath name after.store plan := by
  unfold planDeclarator at ended
  rw [constructed] at ended
  rcases ends_bind_ok.1 ended with ⟨found, looked, looking, rest⟩
  have named : ((Node.calleeName callee).isEmpty || name.isEmpty) = false := by
    simp [isClass, isName]
  simp only [bound, Option.getD_some, named, Bool.false_eq_true, if_false] at rest
  rcases ends_bind_ok.1 rest with ⟨companion, planned, planning, rested⟩
  rcases ends_pure.1 rested with ⟨same, rfl⟩
  cases same
  exact (planCompanion_provides planning).mono (fun declares => declares)
    (List.subset_append_right _ _)

theorem applyAll_declares (unfiltered : scope.filter = none) {plan : List Mutation}
    (fit : ∀ mutation ∈ plan, mutation.Fits scope)
    (provides : Provides filePath name before.store plan)
    (ended : Ends (applyAll scope plan) before (.ok ()) after) :
    after.store.Declares filePath name := by
  unfold applyAll at ended
  induction plan generalizing before with
  | nil =>
      rcases ends_forM_nil.1 ended with ⟨-, rfl⟩
      exact provides.resolve_right (by simp)
  | cons mutation plan ih =>
      rw [forM_cons] at ended
      rcases ends_bind_ok.1 ended with ⟨_, middle, first, rest⟩
      have fitToo : ∀ mutation ∈ plan, mutation.Fits scope :=
        fun other planned => fit other (List.mem_cons_of_mem _ planned)
      refine ih fitToo ?_ rest
      rcases provides with declares | ⟨doc, isPlanned, declares⟩
      · exact Or.inl ((applyOne_sound (fit mutation (List.mem_cons_self ..))).declares first declares)
      · rcases List.mem_cons.1 isPlanned with rfl | isLater
        · rw [(store_of_insert unfiltered first).2]
          exact Or.inl ⟨_, List.mem_append_right _ (List.mem_singleton_self _), declares⟩
        · exact Or.inr ⟨doc, isLater, declares⟩

end Export

namespace Node.ExportsVariable

variable {statement declaration first declarator : Node} {variableName : String}

/-- The plan of an export that is put aside provides the names of its named instances. -/
theorem plan (exports : scope.program.ExportsVariable statement declaration first name)
    (deferred : Export.isDeferred scope.program statement)
    (respected : Export.isIgnored statement = false)
    (isDeclarator : declarator ∈ declaration.declarators?.getD []) {callee : Option Node}
    (constructed : declarator.initial?.bind Node.constructed? = some callee)
    (isClass : Node.calleeName callee ≠ "")
    (bound : declarator.bound?.bind Node.identifier? = some variableName)
    (isName : variableName ≠ "") {plan : List Mutation}
    (ended : Ends (Export.plan scope statement) before (.ok plan) after) :
    Export.Provides scope.filePath variableName after.store plan := by
  have wrapped := exports.wrapped
  unfold Export.isIgnored at respected
  unfold Export.plan at ended
  rw [respected] at ended
  simp only [Bool.false_eq_true, if_false] at ended
  unfold Node.exported? at wrapped
  split at wrapped
  · rename_i shape
    rcases Node.shape_of_firstDeclarator? exports.isFirst with ⟨keyword, others, declared⟩
    simp [Export.isDeferred, shape, wrapped, Export.isReference, Node.identifier?,
      Node.constructed?, declared] at deferred
  · rename_i specifiers origin shape
    rw [shape] at ended
    simp only [Export.planNamed, wrapped, Option.bind_some] at ended
    rcases ends_bind_ok.1 ended with ⟨instances, middle, planned, rest⟩
    have sound (part : Node) :
        Sound scope (fun _ => True) (Export.planDeclarator scope statement part) :=
      (Export.planDeclarator_drafts statement part).sound
    have soundToo (part : Node) : Sound scope (fun _ => True) (Export.planSpecifier scope part) :=
      (Export.planSpecifier_drafts part).sound
    have provides : Export.Provides scope.filePath variableName middle.store instances.flatten :=
      .mapM sound isDeclarator (Export.planDeclarator_provides constructed isClass bound isName)
        planned
    split at rest
    · rcases ends_pure.1 rest with ⟨same, rfl⟩
      cases same
      exact provides
    · rcases ends_bind_ok.1 rest with ⟨named, later, plannedToo, rested⟩
      rcases ends_pure.1 rested with ⟨same, rfl⟩
      cases same
      exact provides.mono ((Sound.mapM soundToo specifiers).declares plannedToo)
        (List.subset_append_left _ _)
  · cases wrapped

end Node.ExportsVariable

namespace Module

theorem resolve_declares (unfiltered : scope.filter = none) {exportNode : Node}
    (provides : ∀ {start plan final}, Ends (Export.plan scope exportNode) start (.ok plan) final →
      Export.Provides filePath name final.store plan)
    (ended : Ends (resolve scope exportNode) before (.ok ()) after)
    (faultless : after.invalid = before.invalid) : after.store.Declares filePath name := by
  have ran := ends_guarded_of_invalid (planned_sound scope exportNode) ended faultless
  rcases ends_bind_ok.1 ran with ⟨plan, planned, planning, applied⟩
  have fit := Export.plan_yields exportNode _ _ _ planning
  exact Export.applyAll_declares unfiltered fit (provides planning) applied

theorem forM_resolve_declares (unfiltered : scope.filter = none) {pending : List Node}
    {exportNode : Node} (isPending : exportNode ∈ pending)
    (provides : ∀ {start plan final}, Ends (Export.plan scope exportNode) start (.ok plan) final →
      Export.Provides filePath name final.store plan)
    (ended : Ends (pending.forM (resolve scope)) before (.ok ()) after)
    (faultless : after.invalid = before.invalid) : after.store.Declares filePath name := by
  induction pending generalizing before with
  | nil => cases isPending
  | cons head rest ih =>
      rcases Sound.ends_forM_cons (resolve_sound scope) ended faultless with
        ⟨middle, first, same, later, sameToo⟩
      rcases List.mem_cons.1 isPending with rfl | isLater
      · have sound : Sound scope (· = .moduleVariable) (rest.forM (resolve scope)) :=
          Sound.forM fun other _ => resolve_sound scope other
        exact sound.declares later (resolve_declares unfiltered provides first same)
      · exact ih isLater later sameToo

/-- The second pass leaves a record of every name that a deferred export provides. -/
theorem secondPass_declares (unfiltered : scope.filter = none) {exportNode : Node}
    (isPending : exportNode ∈ before.pending)
    (provides : ∀ {start plan final}, Ends (Export.plan scope exportNode) start (.ok plan) final →
      Export.Provides filePath name final.store plan)
    (ended : Ends (secondPass scope) before (.ok ()) after)
    (faultless : after.invalid = before.invalid) : after.store.Declares filePath name := by
  rcases ends_secondPass ended with ⟨resolved, resolving, rfl⟩
  have declares : resolved.store.Declares filePath name :=
    forM_resolve_declares unfiltered isPending provides resolving faultless
  exact declares

/--
An export of variables loses none of the names that it stands for. If the walk unwraps it, then its
first variable is recorded; if the walk puts it aside and no comment takes it out, then every variable
is recorded that holds an instance of a named class.
-/
theorem exported_variable_recorded (scope : Scope) (store : Store) (nextNode : NodeId)
    (coherent : scope.program.IsCoherent) (below : scope.program.Below nextNode)
    (unfiltered : scope.filter = none) {statement declaration first : Node} {name : String}
    (exports : scope.program.ExportsVariable statement declaration first name) {id : Int}
    {after : Progress}
    (ended : Ends (generate scope) (Program.start ⟨scope.program, nextNode⟩ store) (.ok id) after)
    (faultless : after.invalid = []) :
    (Export.isDeferred scope.program statement = false →
      after.store.Declares scope.filePath name) ∧
    (Export.isDeferred scope.program statement → Export.isIgnored statement = false →
      ∀ declarator ∈ declaration.declarators?.getD [], ∀ callee variableName,
        declarator.initial?.bind Node.constructed? = some callee → Node.calleeName callee ≠ "" →
        declarator.bound?.bind Node.identifier? = some variableName → variableName ≠ "" →
          after.store.Declares scope.filePath variableName) := by
  rcases exists_stages ended with ⟨opened, walked, stages⟩
  rcases stages.invalid faultless with ⟨openedFaultless, walkedFaultless, resolvedFaultless⟩
  rcases stages.resolves with ⟨messages, resolves⟩
  have unfilteredToo : (within scope id).filter = none := unfiltered
  have exportsToo : (within scope id).program.ExportsVariable statement declaration first name :=
    exports
  constructor
  · intro entered
    have declares : walked.store.Declares scope.filePath name :=
      (exportsToo.visits coherent unfilteredToo entered).walkthrough coherent below stages
        walkedFaultless
    have final : Store.Declares scope.filePath name { after with messages }.store :=
      (secondPass_sound (within scope id)).declares resolves declares
    exact final
  · intro deferred respected declarator isDeclarator callee variableName constructed isClass bound
      isName
    rcases charted_prepare coherent unfiltered (charted_start below store) stages.opens
      openedFaultless with ⟨charted, noneQueued⟩
    have walk := @Extends.firstPass (within scope id) opened walked coherent charted stages.walks
      walkedFaultless
    have isPending : statement ∈ walked.pending := by
      rw [walk.pending]
      refine List.mem_append_right _ (List.mem_filter.2 ⟨?_, deferred⟩)
      exact List.mem_map.2 ⟨_, exports.isWalked, rfl⟩
    have final : Store.Declares scope.filePath variableName { after with messages }.store :=
      secondPass_declares unfilteredToo isPending
        (exportsToo.plan deferred respected isDeclarator constructed isClass bound isName) resolves
        resolvedFaultless
    exact final

/-- A declarator that gives a variable a number. -/
def numberDeclarator : Node :=
  .mk { id := 6 } (.declarator (some (.mk { id := 7 } (.identifier "a")))
    (some (.mk { id := 8 } (.literal (.integer 1) .number))))

/-- A declarator that gives a variable an instance of a class. -/
def instanceDeclarator : Node :=
  .mk { id := 9 } (.declarator (some (.mk { id := 10 } (.identifier "b")))
    (some (.mk { id := 11 } (.construct (some (.mk { id := 12 } (.identifier "Foo"))) []))))

/-- A declaration of both variables. -/
def mixedDeclaration : Node :=
  .mk { id := 5 } (.variables "const" [numberDeclarator, instanceDeclarator])

/-- The export of both variables. -/
def mixedExport : Node :=
  .mk { id := 4 } (.exportNamed (some mixedDeclaration) [] none)

/-- A module with a class, and an export of a number together with an instance of the class. -/
def mixedScope : Scope where
  program := .mk { id := 0 } (.program [emptyClass 1 "Foo", mixedExport] [])
  filePath := "mixed.js"

/-- What is left when that module has been documented into an empty store. -/
def mixedEnd : Progress :=
  ((generate mixedScope).run.run (Program.start ⟨mixedScope.program, 13⟩ {})).2

theorem ends_mixedScope :
    Ends (generate mixedScope) (Program.start ⟨mixedScope.program, 13⟩ {}) (.ok 0) mixedEnd :=
  Prod.ext (by decide +kernel) rfl

theorem faultless_mixedEnd : mixedEnd.invalid = [] := by decide +kernel

theorem mixedExport_exportsVariable : mixedScope.program.ExportsVariable mixedExport mixedDeclaration
    numberDeclarator "a" where
  isStatement := List.mem_cons_of_mem _ (List.mem_singleton_self _)
  wrapped := rfl
  isFirst := rfl
  bound := rfl
  initialised := rfl
  plain := by simp [mixedDeclaration, mixedExport, Node.leading, Node.info]
  lone := by
    have others : ∀ place ∈ mixedScope.program.places,
        place.node.exported?.map Node.id ≠ some mixedExport.id := by decide +kernel
    intro place isPlace wrapped
    exact others place isPlace (by rw [wrapped]; rfl)

theorem mixed_instance_recorded : mixedEnd.store.Declares "mixed.js" "b" := by
  have tree : mixedScope.program.IsTree := by decide +kernel
  have recorded := exported_variable_recorded mixedScope {} 13 tree.isCoherent (by decide +kernel) rfl
    mixedExport_exportsVariable ends_mixedScope faultless_mixedEnd
  exact recorded.2 (by decide +kernel) (by decide +kernel) instanceDeclarator
    (List.mem_cons_of_mem _ (List.mem_singleton_self _)) _ "b" rfl (by decide) rfl (by decide)

/--
The number is lost: its export is put aside because of the instance, and there is no plan for a variable
that holds anything else.
-/
theorem mixed_number_lost :
    Ends (generate mixedScope) (Program.start ⟨mixedScope.program, 13⟩ {}) (.ok 0) mixedEnd ∧
    mixedEnd.invalid = [] ∧
    mixedScope.program.ExportsVariable mixedExport mixedDeclaration numberDeclarator "a" ∧
    Export.isIgnored mixedExport = false ∧ ¬ mixedEnd.store.Declares "mixed.js" "a" := by
  refine ⟨ends_mixedScope, faultless_mixedEnd, mixedExport_exportsVariable, by decide +kernel, ?_⟩
  have others : ∀ doc ∈ mixedEnd.store.docs, doc.name ≠ some "a" := by decide +kernel
  rintro ⟨doc, isStored, -, named, -⟩
  exact others doc isStored named

end Module

end DocHarvest
