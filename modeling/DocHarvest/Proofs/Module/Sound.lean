import DocHarvest.Proofs.Run.Leaves

/-!
# The effects of the two passes

The steps of the two passes, of the walk through a test file, and of the whole work on a module have
no effects but those of `Run.Effect`. The walk stores records of everything but files, the second
pass stores variables only, and the walk through a test file stores test blocks only. To document a
node of the walk is `Run.Recording`, which puts no export aside, and to plan for an export is
`Run.Drafts`, which stores nothing yet.
-/

namespace DocHarvest

open Run

variable {scope : Scope} {kinds : Category → Prop}

/-- Everything that records are about, apart from files. -/
def Category.Entity (category : Category) : Prop :=
  category.isFile = false

namespace Run

/-- To document a node is to decide on it, draw an id, build the record and store it. -/
theorem document_eq (scope : Scope) (node : Node) (comment : Comment) :
    document scope node comment = (liftM (Decision.decide scope comment.tags node) >>= fun found =>
      match found with
      | none => pure ()
      | some decision =>
          (liftM drawId >>= fun id =>
            build scope id decision.category decision.node comment.tags >>= insert scope) >>=
          fun _ => pure ()) := by
  simp only [document, createDoc, bind_assoc]
  apply bind_congr
  intro found
  cases found with
  | none => rfl
  | some decision => simp only [bind_assoc, pure_bind]

theorem entity_of_heads {draft : Draft} {category : Category} {doc : Doc}
    (inside : category.Entity) (heads : draft.Heads category doc) : doc.category.Entity := by
  rcases heads.category with same | ⟨-, same⟩
  · rwa [same]
  · rw [same]
    rfl

/-- A step that stores no records of files, and leaves the exports that wait alone. -/
structure Recording (scope : Scope) (step : Run α) : Prop where
  sound : Sound scope Category.Entity step
  waits : Leaves Progress.pending step

namespace Recording

theorem pure (value : α) : Recording scope (pure value) where
  sound := .pure value
  waits := .pure value

theorem lift {action : StateM Progress α} (quiet : Quiet action)
    (still : Still Progress.pending action) : Recording scope (liftM action) where
  sound := .lift quiet
  waits := .lift still

theorem bindOf {step : Run α} {next : α → Run β} {suitable : α → Prop}
    (first : Recording scope step) (yields : Yields step suitable)
    (second : ∀ value, suitable value → Recording scope (next value)) :
    Recording scope (step >>= next) where
  sound := first.sound.bindOf yields fun value suits => (second value suits).sound
  waits before outcome after ended := by
    rcases ends_bind.1 ended with ⟨value, middle, start, rest⟩ | ⟨fault, failed, -⟩
    · exact ((second value (yields _ _ _ start)).waits rest).trans (first.waits start)
    · exact first.waits failed

theorem bind {step : Run α} {next : α → Run β} (first : Recording scope step)
    (second : ∀ value, Recording scope (next value)) : Recording scope (step >>= next) :=
  first.bindOf (Yields.anything step) fun value _ => second value

theorem virtualNode (parent : Option Node) : Recording scope (liftM (Run.virtualNode parent)) :=
  lift (Quiet.virtualNode parent) fun _ => rfl

theorem drawnBuild {category : Category} {node : Node} {tags : List Tag}
    (inside : category.Entity) : Recording scope (liftM drawId >>= fun id =>
      build scope id category node tags >>= insert scope) where
  sound := .drawnBuild (entity_of_heads inside)
  waits := by
    have drawn : Leaves Progress.pending (liftM drawId) := .lift fun _ => rfl
    refine drawn.bind fun id => ?_
    exact (build_leaves (fun _ _ _ => rfl) scope id category node tags).bind fun doc =>
      insert_leaves (fun _ _ => rfl) scope doc

end Recording

theorem document_recording (scope : Scope) (node : Node) (comment : Comment) :
    Recording scope (document scope node comment) := by
  rw [document_eq]
  have inside : Yields (liftM (Decision.decide scope comment.tags node)) fun found =>
      ∀ decision ∈ found, decision.category.Entity :=
    Yields.lift (Decision.decide_inside scope comment.tags node)
  have still : Still Progress.pending (Decision.decide scope comment.tags node) := by
    intro before
    rw [Decision.decide_frame]
  refine (Recording.lift (Decision.decide_oblivious _ _ _).quiet still).bindOf inside ?_
  intro found inside
  cases found with
  | none => exact .pure _
  | some decision => exact (Recording.drawnBuild (inside decision rfl)).bind fun _ => .pure _

theorem documentEach_cons (scope : Scope) (node : Node) (parent : Option Node)
    (comment next : Comment) (rest : List Comment) :
    documentEach scope node parent (comment :: next :: rest) =
      (liftM (virtualNode parent) >>= fun virtual => document scope virtual comment >>= fun _ =>
        documentEach scope node parent (next :: rest)) :=
  rfl

theorem documentEach_recording (scope : Scope) (node : Node) (parent : Option Node)
    (comments : List Comment) : Recording scope (documentEach scope node parent comments) := by
  induction comments with
  | nil => exact .pure _
  | cons comment rest ih =>
      cases rest with
      | nil => exact document_recording _ _ _
      | cons next others =>
          refine (Recording.virtualNode parent).bind fun _ => ?_
          exact (document_recording _ _ _).bind fun _ => ih

theorem documentComments_recording (scope : Scope) (node parent : Option Node)
    (comments : List Comment) : Recording scope (documentComments scope node parent comments) := by
  unfold documentComments
  cases node with
  | none => exact (Recording.virtualNode parent).bind fun _ => documentEach_recording _ _ _ _
  | some node => exact documentEach_recording _ _ _ _

theorem documentComments_sound (scope : Scope) (node parent : Option Node)
    (comments : List Comment) :
    Sound scope Category.Entity (documentComments scope node parent comments) :=
  (documentComments_recording scope node parent comments).sound

end Run

namespace Node

theorem walkStack_sound {visit : Node → Option Node → Run Descent}
    (each : ∀ node parent, Sound scope kinds (visit node parent)) (stack : Stack) :
    Sound scope kinds (walkStack visit stack) := by
  induction stack using walkStack.induct with
  | case1 =>
      rw [walkStack]
      exact Sound.pure _
  | case2 node parent rest skipped entered =>
      rw [walkStack]
      refine (each node parent).bind fun descent => ?_
      cases descent with
      | enter => exact entered
      | skip => exact skipped

end Node

namespace Export

theorem unwrap_recording (scope : Scope) (exportNode : Node) (isLast : Bool) :
    Recording scope (unwrap scope exportNode isLast) := by
  unfold unwrap
  split
  · exact .pure _
  · refine (Recording.lift (Quiet.markVisited _) fun _ => rfl).bind fun _ => ?_
    refine (Recording.lift (Quiet.setParent _ _) fun _ => rfl).bind fun _ => ?_
    refine (documentComments_recording _ _ _ _).bind fun _ => ?_
    split
    · exact documentComments_recording _ _ _ _
    · exact .pure _

end Export

namespace Module

/-- A guarded step ends as the step does, or with its fault noted and answered for. -/
theorem ends_guarded {α : Type} {node : Node} {fallback : α} {step : Run α}
    {before after : Progress} {outcome : Except Fault α}
    (ended : Ends (guarded scope node fallback step) before outcome after) :
    Ends step before outcome after ∨
      ∃ fault middle entry messages, Ends step before (.error fault) middle ∧
        outcome = .ok fallback ∧ entry.fault = fault ∧
        after = { middle with invalid := middle.invalid ++ [entry], messages } := by
  rcases ends_tryCatch.1 ended with ⟨value, succeeded, rfl⟩ | ⟨fault, middle, failed, handled⟩
  · exact Or.inl succeeded
  · split at handled
    · rcases ends_throw.1 handled with ⟨rfl, rfl⟩
      exact Or.inl failed
    · rcases ends_bind.1 handled with ⟨_, noted, entered, answered⟩ | ⟨other, impossible, -⟩
      · rcases ends_lift.1 entered with ⟨-, rfl⟩
        rcases ends_pure.1 answered with ⟨rfl, rfl⟩
        exact Or.inr ⟨fault, middle, _, _, failed, rfl, rfl, rfl⟩
      · cases (ends_lift.1 impossible).1

/-- Under the strict policy a guarded step is the step itself. -/
theorem ends_guarded_of_stop {α : Type} {node : Node} {fallback : α} {step : Run α}
    {before after : Progress} {outcome : Except Fault α} (strict : scope.policy = .stop) :
    Ends (guarded scope node fallback step) before outcome after ↔
      Ends step before outcome after := by
  simp only [guarded, strict, ends_tryCatch, ends_throw]
  constructor
  · rintro (⟨value, succeeded, rfl⟩ | ⟨fault, middle, failed, rfl, rfl⟩)
    · exact succeeded
    · exact failed
  · intro ended
    cases outcome with
    | ok value => exact Or.inl ⟨value, ended, rfl⟩
    | error fault => exact Or.inr ⟨fault, after, ended, rfl, rfl⟩

/-- Under the tolerant policy a guarded step goes on after a fault, and notes it. -/
theorem ends_guarded_of_log {α : Type} (node : Node) (fallback : α) {step : Run α}
    {before middle : Progress} {fault : Fault} (tolerant : scope.policy = .log)
    (failed : Ends step before (.error fault) middle) :
    ∃ entry messages, entry.fault = fault ∧
      Ends (guarded scope node fallback step) before (.ok fallback)
        { middle with invalid := middle.invalid ++ [entry], messages } := by
  let entry : InvalidCode :=
    { filePath := scope.filePath, nodeType := node.typeName, line := node.line?, fault }
  let noted := ((noteInvalid scope.filePath (some node) fault).run middle).2
  refine ⟨entry, noted.messages, rfl, ends_tryCatch.2 (Or.inr ⟨fault, middle, failed, ?_⟩)⟩
  rw [tolerant]
  exact ends_lift_bind.2 (ends_pure.2 ⟨rfl, rfl⟩)

theorem guarded_sound {α : Type} {node : Node} {fallback : α} {step : Run α}
    (sound : Sound scope kinds step) : Sound scope kinds (guarded scope node fallback step) where
  reaches ended := by
    cases policy : scope.policy with
    | stop => exact sound.reaches ((ends_guarded_of_stop policy).1 ended)
    | log =>
        rcases ends_guarded ended with
          ended | ⟨fault, middle, entry, messages, failed, -, -, rfl⟩
        · exact sound.reaches ended
        · exact (sound.reaches failed).tail (.note policy entry rfl rfl)
  fair ended disciplined := by
    rcases ends_guarded ended with
      ended | ⟨fault, middle, entry, messages, failed, rfl, blamed, rfl⟩
    · exact sound.fair ended disciplined
    · have failedFairly := sound.fair failed disciplined
      refine ⟨by simp, fun other noted => ?_⟩
      rcases List.mem_append.1 noted with noted | isEntry
      · exact failedFairly.notes other noted
      · rw [List.mem_singleton.1 isEntry, blamed]
        exact Or.inr (failedFairly.ends fault rfl)

/-- Where nothing is noted, a guarded step ends as the step does. -/
theorem ends_guarded_of_invalid {α : Type} {node : Node} {fallback : α} {step : Run α}
    {before after : Progress} {outcome : Except Fault α} (sound : Sound scope kinds step)
    (ended : Ends (guarded scope node fallback step) before outcome after)
    (nothing : after.invalid = before.invalid) : Ends step before outcome after := by
  rcases ends_guarded ended with ended | ⟨fault, middle, entry, messages, failed, -, -, rfl⟩
  · exact ended
  · have longer := (sound.reaches failed).keeps_invalid.length_le
    simp only at nothing
    rw [← nothing, List.length_append, List.length_singleton] at longer
    omega

theorem documentNode_recording (scope : Scope) (node : Node) (parent : Option Node)
    (isLast : Bool) : Recording scope (documentNode scope node parent isLast) := by
  refine (documentComments_recording _ _ _ _).bind fun _ => ?_
  split
  · exact documentComments_recording _ _ _ _
  · exact .pure _

theorem push_recording (scope : Scope) (node : Node) (parent : Option Node) :
    Recording scope (push scope node parent) := by
  unfold push
  split
  · exact .pure _
  · refine (Recording.lift (Quiet.isVisited node) fun _ => rfl).bind fun visited => ?_
    split
    · exact .pure _
    · refine (Recording.lift (Quiet.markVisited _) fun _ => rfl).bind fun _ => ?_
      refine (Recording.lift (Quiet.setParent _ _) fun _ => rfl).bind fun _ => ?_
      split
      · exact Export.unwrap_recording _ _ _
      · exact documentNode_recording _ _ _ _

/-- What a visit of the walk does, without the answer to faults. -/
def visit (scope : Scope) (node : Node) (parent : Option Node) : Run Node.Descent := do
  if Export.isDeferred scope.program node then
    modify fun progress => { progress with pending := progress.pending ++ [node] }
    return .skip
  push scope node parent
  return .enter

theorem enter_eq (scope : Scope) (node : Node) (parent : Option Node) :
    enter scope node parent = guarded scope node .enter (visit scope node parent) :=
  rfl

theorem visit_sound (scope : Scope) (node : Node) (parent : Option Node) :
    Sound scope Category.Entity (visit scope node parent) := by
  unfold visit
  split
  · refine Sound.bind (Sound.modify ?_ ?_) fun _ => Sound.pure _
    · exact fun _ => .quiet rfl rfl
    · exact fun _ => rfl
  · exact (push_recording _ _ _).sound.bind fun _ => Sound.pure _

theorem enter_sound (scope : Scope) (node : Node) (parent : Option Node) :
    Sound scope Category.Entity (enter scope node parent) :=
  guarded_sound (visit_sound scope node parent)

theorem firstPass_sound (scope : Scope) : Sound scope Category.Entity (firstPass scope) :=
  Node.walkStack_sound (enter_sound scope) _

end Module

/-! ## The second pass -/

/-- A mutation stores nothing but variables of the module. -/
def Mutation.Fits (scope : Scope) : Mutation → Prop
  | .update _ _ | .append _ _ => True
  | .insert doc => doc.moduleId = scope.moduleId ∧ doc.filePath = scope.filePath ∧
      doc.category = .moduleVariable

/-! ## Planning -/

namespace Run

variable {α β : Type}

/--
A step that stores no record and notes no invalid code: it prepares what is stored later, or faults
with an excuse.
-/
structure Drafts (scope : Scope) (step : Run α) : Prop where
  store : Leaves Progress.store step
  invalid : Leaves Progress.invalid step
  excused : ∀ ⦃before fault after⦄, Ends step before (.error fault) after → scope.Excuses fault

namespace Drafts

theorem pure (value : α) : Drafts scope (pure value) where
  store := .pure value
  invalid := .pure value
  excused _ _ _ ended := by cases (ends_pure.1 ended).1

theorem get : Drafts scope get where
  store := .get
  invalid := .get
  excused _ _ _ ended := by cases (ends_get.1 ended).1

theorem lift {action : StateM Progress α} (quiet : Quiet action) :
    Drafts scope (liftM action) where
  store := .lift fun before => (quiet before).1
  invalid := .lift fun before => (quiet before).2
  excused _ _ _ ended := by cases (ends_lift.1 ended).1

theorem build (id : Int) (category : Category) (node : Node) (tags : List Tag) :
    Drafts scope (build scope id category node tags) where
  store := build_leaves (fun _ _ _ => rfl) scope id category node tags
  invalid := build_leaves (fun _ _ _ => rfl) scope id category node tags
  excused _ fault _ ended := (build_sound ended).2.2.2 fault rfl

theorem bind {step : Run α} {next : α → Run β} (first : Drafts scope step)
    (second : ∀ value, Drafts scope (next value)) : Drafts scope (step >>= next) where
  store := first.store.bind fun value => (second value).store
  invalid := first.invalid.bind fun value => (second value).invalid
  excused _ _ _ ended := by
    rcases ends_bind.1 ended with ⟨value, middle, -, rest⟩ | ⟨fault, failed, same⟩
    · exact (second value).excused rest
    · cases same
      exact first.excused failed

theorem mapM {work : α → Run β} (each : ∀ part, Drafts scope (work part)) (parts : List α) :
    Drafts scope (parts.mapM work) := by
  induction parts with
  | nil => exact pure _
  | cons part parts ih =>
      rw [List.mapM_cons]
      exact (each part).bind fun value => ih.bind fun values => pure _

theorem sound {step : Run α} (drafts : Drafts scope step) : Sound scope kinds step where
  reaches ended := .quiet (drafts.store ended) (drafts.invalid ended)
  fair ended _ :=
    ⟨fun _ failed => drafts.excused (failed ▸ ended),
      fun _ noted => Or.inl (drafts.invalid ended ▸ noted)⟩

end Drafts

end Run

namespace Export

theorem outline_describeMore (text : String) (doc : Doc) :
    (doc.describeMore text).outline = doc.outline := by
  unfold Doc.describeMore
  split <;> rfl

theorem type_describeMore (text : String) (doc : Doc) : (doc.describeMore text).type = doc.type := by
  unfold Doc.describeMore
  split <;> rfl

theorem find?_drafts (category : Category) (name : String) :
    Drafts scope (find? scope category name) :=
  Drafts.get.bind fun _ => Drafts.pure _

theorem planName_drafts (name importStyle : String) :
    Drafts scope (planName scope name importStyle) :=
  (Drafts.mapM (fun category => find?_drafts category name) _).bind fun _ => Drafts.pure _

theorem planName_yields (name importStyle : String) :
    Yields (planName scope name importStyle) fun plan => ∀ mutation ∈ plan, mutation.Fits scope := by
  refine Yields.bind fun found => Yields.pure ?_
  intro mutation planned
  rcases List.mem_filterMap.1 planned with ⟨doc?, -, made⟩
  rcases Option.map_eq_some_iff.1 made with ⟨doc, -, rfl⟩
  trivial

theorem planCompanion_drafts (exportNode : Node) (variableName className : String) :
    Drafts scope (planCompanion scope exportNode variableName className) := by
  refine (Drafts.lift (Quiet.freshNodes _)).bind fun first => ?_
  refine (Drafts.lift (Quiet.setParent _ _)).bind fun _ => ?_
  refine (Drafts.build _ _ _ _).bind fun companion => ?_
  refine (find?_drafts _ _).bind fun found => ?_
  split <;> exact Drafts.pure _

theorem planCompanion_yields (exportNode : Node) (variableName className : String) :
    Yields (planCompanion scope exportNode variableName className) fun plan =>
      ∀ mutation ∈ plan, mutation.Fits scope := by
  refine Yields.bind fun first => Yields.bind fun _ => ?_
  have headed {node : Node} {tags : List Tag} :
      Yields (build scope unassignedId .moduleVariable node tags) fun companion =>
        companion.moduleId = scope.moduleId ∧ companion.filePath = scope.filePath ∧
          companion.category = .moduleVariable := by
    intro before companion after ended
    rcases (build_sound ended).2.2.1 companion rfl with ⟨links, heads⟩
    exact ⟨heads.moduleId, heads.filePath, by simpa using heads.category⟩
  refine headed.bindOf fun companion fits => Yields.bind fun found => ?_
  split
  · refine Yields.pure fun mutation planned => ?_
    rw [List.mem_singleton.1 planned]
    exact fits
  · refine Yields.pure fun mutation planned => ?_
    rcases List.mem_append.1 planned with appended | updated
    · rcases List.mem_map.1 appended with ⟨text, -, rfl⟩
      trivial
    · rw [List.mem_singleton.1 updated]
      trivial

theorem planInstance_drafts (exportNode : Node) (className variableName : String) :
    Drafts scope (planInstance scope exportNode className variableName) := by
  refine (find?_drafts _ _).bind fun found => ?_
  split
  · exact Drafts.pure _
  · exact (planCompanion_drafts _ _ _).bind fun _ => Drafts.pure _

theorem planInstance_yields (exportNode : Node) (className variableName : String) :
    Yields (planInstance scope exportNode className variableName) fun plan =>
      ∀ mutation ∈ plan, mutation.Fits scope := by
  refine Yields.bind fun found => ?_
  split
  · exact Yields.pure (by simp)
  · refine (planCompanion_yields _ _ _).bindOf fun companion fits => Yields.pure ?_
    rintro mutation (_ | ⟨_, planned⟩)
    · trivial
    · exact fits mutation planned

theorem planDefault_drafts (exportNode : Node) (declaration : Option Node) :
    Drafts scope (planDefault scope exportNode declaration) := by
  unfold planDefault
  split
  · exact planInstance_drafts _ _ _
  · split
    · refine (planInstance_drafts _ _ _).bind fun _ => ?_
      exact (planName_drafts _ _).bind fun _ => Drafts.pure _
    · refine (Drafts.pure _).bind fun _ => ?_
      exact (planName_drafts _ _).bind fun _ => Drafts.pure _
  · exact (Drafts.lift (Quiet.say _ _)).bind fun _ => Drafts.pure _

theorem planDefault_yields (exportNode : Node) (declaration : Option Node) :
    Yields (planDefault scope exportNode declaration) fun plan =>
      ∀ mutation ∈ plan, mutation.Fits scope := by
  unfold planDefault
  split
  · exact planInstance_yields _ _ _
  · split
    · refine (planInstance_yields _ _ _).bindOf fun instances fit => ?_
      refine (planName_yields _ _).bindOf fun named fitToo => Yields.pure ?_
      exact List.forall_mem_append.2 ⟨fit, fitToo⟩
    · exact planName_yields _ _
  · exact Yields.bind fun _ => Yields.pure (by simp)

theorem planDeclarator_drafts (exportNode declarator : Node) :
    Drafts scope (planDeclarator scope exportNode declarator) := by
  unfold planDeclarator
  split
  · exact Drafts.pure _
  · refine (find?_drafts _ _).bind fun found => ?_
    split
    · exact Drafts.pure _
    · exact (planCompanion_drafts _ _ _).bind fun _ => Drafts.pure _

theorem planDeclarator_yields (exportNode declarator : Node) :
    Yields (planDeclarator scope exportNode declarator) fun plan =>
      ∀ mutation ∈ plan, mutation.Fits scope := by
  have marks (found : Option Doc) : ∀ mutation ∈ found.toList.map fun doc =>
      Mutation.update doc.id ⟨none, none⟩, mutation.Fits scope := by
    intro mutation planned
    rcases List.mem_map.1 planned with ⟨doc, -, rfl⟩
    trivial
  unfold planDeclarator
  split
  · exact Yields.pure (by simp)
  · refine Yields.bind fun found => ?_
    split
    · exact Yields.pure (marks found)
    · refine (planCompanion_yields _ _ _).bindOf fun companion fit => Yields.pure ?_
      exact List.forall_mem_append.2 ⟨marks found, fit⟩

theorem planSpecifier_drafts (specifier : Node) :
    Drafts scope (planSpecifier scope specifier) := by
  unfold planSpecifier
  split
  · exact Drafts.pure _
  · exact planName_drafts _ _

theorem planSpecifier_yields (specifier : Node) :
    Yields (planSpecifier scope specifier) fun plan => ∀ mutation ∈ plan, mutation.Fits scope := by
  unfold planSpecifier
  split
  · exact Yields.pure (by simp)
  · exact planName_yields _ _

theorem planNamed_drafts (exportNode : Node) (declaration : Option Node) (specifiers : List Node)
    (origin : Option Node) :
    Drafts scope (planNamed scope exportNode declaration specifiers origin) := by
  refine (Drafts.mapM (planDeclarator_drafts exportNode) _).bind fun instances => ?_
  split
  · exact Drafts.pure _
  · exact (Drafts.mapM planSpecifier_drafts _).bind fun _ => Drafts.pure _

theorem planNamed_yields (exportNode : Node) (declaration : Option Node) (specifiers : List Node)
    (origin : Option Node) :
    Yields (planNamed scope exportNode declaration specifiers origin) fun plan =>
      ∀ mutation ∈ plan, mutation.Fits scope := by
  refine (Yields.mapM (planDeclarator_yields exportNode) _).bindOf fun instances fit => ?_
  have joined {plans : List (List Mutation)}
      (fit : ∀ plan ∈ plans, ∀ mutation ∈ plan, mutation.Fits scope) :
      ∀ mutation ∈ plans.flatten, mutation.Fits scope := by
    intro mutation planned
    rcases List.mem_flatten.1 planned with ⟨plan, isPlan, inPlan⟩
    exact fit plan isPlan mutation inPlan
  split
  · exact Yields.pure (joined fit)
  · refine (Yields.mapM planSpecifier_yields _).bindOf fun named fitToo => Yields.pure ?_
    exact List.forall_mem_append.2 ⟨joined fit, joined fitToo⟩

theorem plan_drafts (exportNode : Node) : Drafts scope (plan scope exportNode) := by
  unfold plan
  split
  · exact Drafts.pure _
  · split
    · exact planDefault_drafts _ _
    · exact planNamed_drafts _ _ _ _
    · exact Drafts.pure _

theorem plan_yields (exportNode : Node) :
    Yields (plan scope exportNode) fun plan => ∀ mutation ∈ plan, mutation.Fits scope := by
  unfold plan
  split
  · exact Yields.pure (by simp)
  · split
    · exact planDefault_yields _ _
    · exact planNamed_yields _ _ _ _
    · exact Yields.pure (by simp)

theorem applyOne_sound {mutation : Mutation} (fits : mutation.Fits scope) :
    Sound scope (· = .moduleVariable) (applyOne scope mutation) := by
  cases mutation with
  | update id change =>
      refine Sound.modify (fun before => ?_) fun _ => rfl
      exact .revise id change.apply (fun _ => rfl) rfl rfl
  | append id text =>
      refine Sound.modify (fun before => ?_) fun _ => rfl
      exact .revise id _ (outline_describeMore text) rfl rfl
  | insert doc =>
      rcases fits with ⟨moduleId, filePath, category⟩
      have stored : Sound scope (· = .moduleVariable) (liftM drawId >>= fun id =>
          Run.insert scope { doc with id }) :=
        Sound.drawnInsert (fun _ => rfl) (fun _ => moduleId) (fun _ => filePath) fun _ => category
      exact stored.bind fun _ => Sound.pure _

end Export

namespace Module

theorem planned_sound (scope : Scope) (exportNode : Node) :
    Sound scope (· = .moduleVariable)
      (Export.plan scope exportNode >>= fun plan => Export.applyAll scope plan) := by
  refine (Export.plan_drafts exportNode).sound.bindOf (Export.plan_yields exportNode) fun plan fit => ?_
  exact Sound.forM fun mutation planned => Export.applyOne_sound (fit mutation planned)

theorem resolve_sound (scope : Scope) (exportNode : Node) :
    Sound scope (· = .moduleVariable) (resolve scope exportNode) :=
  guarded_sound (planned_sound scope exportNode)

theorem secondPass_sound (scope : Scope) :
    Sound scope (· = .moduleVariable) (secondPass scope) := by
  refine Sound.get.bind fun progress => ?_
  refine (Sound.forM fun exportNode _ => resolve_sound scope exportNode).bind fun _ => ?_
  refine Sound.modify ?_ ?_
  · exact fun _ => .quiet rfl rfl
  · exact fun _ => rfl

theorem documentInner_sound (scope : Scope) : Sound scope Category.Entity (documentInner scope) := by
  unfold documentInner
  split
  · exact guarded_sound (documentComments_recording _ _ _ _).sound
  · exact Sound.pure _

theorem pushTest_sound (scope : Scope) (node : Node) (parent : Option Node) :
    Sound scope (· = .test) (pushTest scope node parent) := by
  refine (Sound.lift (Quiet.isVisited node)).bind fun visited => ?_
  split
  · exact Sound.pure _
  · refine (Sound.lift (Quiet.markVisited _)).bind fun _ => ?_
    refine (Sound.lift (Quiet.setParent _ _)).bind fun _ => ?_
    split
    · exact Sound.pure _
    · refine (Sound.lift (Quiet.markVisited _)).bind fun _ => ?_
      refine (Sound.lift (Quiet.setParent _ _)).bind fun _ => ?_
      refine (Sound.lift (Quiet.nameBlock _)).bind fun _ => ?_
      have stored (call : Node) (tags : List Tag) : Sound scope (· = .test) (liftM drawId >>=
          fun id => build scope id .test call tags >>= Run.insert scope) := by
        refine Sound.drawnBuild fun heads => ?_
        simpa using heads.category
      simpa only [bind_assoc] using (stored _ _).bind fun _ => Sound.pure ()

theorem enterTest_sound (scope : Scope) (node : Node) (parent : Option Node) :
    Sound scope (· = .test) (enterTest scope node parent) :=
  guarded_sound ((pushTest_sound _ _ _).bind fun _ => Sound.pure _)

end Module

end DocHarvest
