import DocHarvest.Proofs.Module.Stages

/-!
# What happens on the way

Some results are about what happens inside of a run: which nodes are asked about, which records are
built. For each step of the work there is a list of these events from a given state on. The states in
between are those of the work itself: what happens later happens where the steps before it have ended,
and a fault ends the list. A `Watch` says what counts as an event of a decision, and of a record that is
built; the way of the work through its steps is written down once for all of them.
-/

namespace DocHarvest

open Run

variable {event : Type}

/-- The events of a step, by the state in which it starts. -/
abbrev Trace (event : Type) := Progress → List event

namespace Trace

variable {α β : Type}

def nothing : Trace event :=
  fun _ => []

/-- The events of a step, and of what follows where the step succeeds. -/
def bind (step : Run α) (events : Trace event) (next : α → Trace event) : Trace event := fun before =>
  events before ++
    match step.run.run before with
    | (.ok value, middle) => next value middle
    | (.error _, _) => []

/-- The events of a loop. -/
def each (work : α → Run β) (events : α → Trace event) : List α → Trace event
  | [] => nothing
  | part :: rest => bind (work part) (events part) fun _ => each work events rest

theorem bind_of_ok {step : Run α} {events : Trace event} {next : α → Trace event}
    {before middle : Progress} {value : α} (ended : Ends step before (.ok value) middle) :
    bind step events next before = events before ++ next value middle := by
  have ran : step.run.run before = (.ok value, middle) := ended
  simp only [bind, ran]

theorem bind_of_error {step : Run α} {events : Trace event} {next : α → Trace event}
    {before after : Progress} {fault : Fault} (failed : Ends step before (.error fault) after) :
    bind step events next before = events before := by
  have ran : step.run.run before = (.error fault, after) := failed
  simp only [bind, ran, List.append_nil]

/-- A change of the state is no event. -/
theorem bind_lift (action : StateM Progress α) (next : α → Trace event) (before : Progress) :
    bind (liftM action) nothing next before = next (action.run before).1 (action.run before).2 :=
  rfl

theorem forall_bind {good : event → Prop} {step : Run α} {events : Trace event}
    {next : α → Trace event} {before : Progress} (first : ∀ happened ∈ events before, good happened)
    (later : ∀ value middle, Ends step before (.ok value) middle →
      ∀ happened ∈ next value middle, good happened) :
    ∀ happened ∈ bind step events next before, good happened := by
  refine List.forall_mem_append.2 ⟨first, ?_⟩
  rcases ended : step.run.run before with ⟨fault | value, middle⟩
  · exact List.forall_mem_nil _
  · exact later value middle ended

end Trace

/-- What counts as an event of a decision about a node, and of building a record. -/
structure Watch (event : Type) where
  decision : List Tag → Node → Trace event
  record : Scope → Int → Category → Node → List Tag → Trace event

/-- A record that is to be built: the draft, and the category that it is for. -/
structure Making where
  category : Category
  draft : Draft

namespace Making

/-- A record has been built from the draft. -/
def Builds (making : Making) (doc : Doc) : Prop :=
  making.draft.build making.category = .ok doc

/-- All records that are to be built, each with the tables as they are when it is built. -/
def watch : Watch Making where
  decision _ _ := .nothing
  record scope id category node tags := fun before =>
    [⟨category, ⟨scope, before.links.naming scope category node, id, node, tags⟩⟩]

end Making

/-! ## The first pass -/

namespace Run

def documentTrace (watch : Watch event) (scope : Scope) (node : Node) (comment : Comment) :
    Trace event :=
  .bind (liftM (Decision.decide scope comment.tags node)) (watch.decision comment.tags node)
    fun found => found.elim .nothing fun decision =>
      .bind (liftM drawId) .nothing fun id =>
        watch.record scope id decision.category decision.node comment.tags

def documentEachTrace (watch : Watch event) (scope : Scope) (node : Node) (parent : Option Node) :
    List Comment → Trace event
  | [] => .nothing
  | [last] => documentTrace watch scope node last
  | comment :: rest =>
      .bind (liftM (virtualNode parent)) .nothing fun virtual =>
        .bind (document scope virtual comment) (documentTrace watch scope virtual comment) fun _ =>
          documentEachTrace watch scope node parent rest

theorem documentEachTrace_cons (watch : Watch event) (scope : Scope) (node : Node)
    (parent : Option Node) (comment next : Comment) (others : List Comment) :
    documentEachTrace watch scope node parent (comment :: next :: others) =
      .bind (liftM (virtualNode parent)) .nothing fun virtual =>
        .bind (document scope virtual comment) (documentTrace watch scope virtual comment) fun _ =>
          documentEachTrace watch scope node parent (next :: others) :=
  rfl

def documentCommentsTrace (watch : Watch event) (scope : Scope) (node parent : Option Node)
    (comments : List Comment) : Trace event :=
  match node with
  | some node => documentEachTrace watch scope node parent (Comment.docComments comments)
  | none =>
      .bind (liftM (virtualNode parent)) .nothing fun virtual =>
        documentEachTrace watch scope virtual parent (Comment.docComments comments)

/-- The events about a node with comments before it and, where they count, behind it. -/
def documentBothTrace (watch : Watch event) (scope : Scope) (node : Node) (parent : Option Node)
    (leading trailing : List Comment) (withTrailing : Bool) : Trace event :=
  .bind (documentComments scope (some node) parent leading)
    (documentCommentsTrace watch scope (some node) parent leading) fun _ =>
      if withTrailing then documentCommentsTrace watch scope none parent trailing else .nothing

end Run

namespace Export

def unwrapTrace (watch : Watch event) (scope : Scope) (exportNode : Node) (isLast : Bool) :
    Trace event := fun before =>
  match exportNode.exported? with
  | none => []
  | some declaration =>
      documentBothTrace watch scope declaration (some exportNode)
        (declaration.leading ++ exportNode.leading ++ decoratorComments declaration)
        (declaration.trailing ++ exportNode.trailing)
        (!(declaration.trailing ++ exportNode.trailing).isEmpty && isLast)
        (visiting before declaration (some exportNode))

end Export

namespace Module

def documentNodeTrace (watch : Watch event) (scope : Scope) (node : Node) (parent : Option Node)
    (isLast : Bool) : Trace event :=
  documentBothTrace watch scope node parent
    (if node.leading.isEmpty then Export.decoratorComments node else node.leading) node.trailing
    (!node.trailing.isEmpty && isLast)

def pushTrace (watch : Watch event) (scope : Scope) (node : Node) (parent : Option Node) :
    Trace event := fun before =>
  if node.id == scope.program.id || before.visited.contains node.id then []
  else if node.shape.isExport then
    Export.unwrapTrace watch scope node (isLastIn node parent) (visiting before node parent)
  else documentNodeTrace watch scope node parent (isLastIn node parent) (visiting before node parent)

def enterTrace (watch : Watch event) (scope : Scope) (node : Node) (parent : Option Node) :
    Trace event :=
  if Export.isDeferred scope.program node then .nothing else pushTrace watch scope node parent

/-- The events of the walk, place by place. -/
def firstPassTrace (watch : Watch event) (scope : Scope) : Trace event :=
  .each (fun place => enter scope place.node place.above.head?)
    (fun place => enterTrace watch scope place.node place.above.head?) scope.program.walked

def documentInnerTrace (watch : Watch event) (scope : Scope) : Trace event :=
  if scope.program.body.isEmpty && !scope.program.innerComments.isEmpty then
    documentCommentsTrace watch scope none (some scope.program) scope.program.innerComments
  else .nothing

end Module

/-! ## The second pass -/

namespace Export

def companionTrace (watch : Watch event) (scope : Scope) (exportNode : Node)
    (variableName className : String) : Trace event :=
  .bind (liftM (freshNodes Node.instanceDeclarationSize)) .nothing fun first =>
    let declaration := Node.instanceDeclaration first variableName className exportNode
    .bind (liftM (Run.setParent declaration (some scope.program))) .nothing fun _ =>
      watch.record scope unassignedId .moduleVariable declaration
        (Comment.docTags declaration.leading)

def instanceTrace (watch : Watch event) (scope : Scope) (exportNode : Node)
    (className variableName : String) : Trace event :=
  .bind (find? scope .moduleClass className) .nothing fun found =>
    found.elim .nothing fun _ => companionTrace watch scope exportNode variableName className

def defaultTrace (watch : Watch event) (scope : Scope) (exportNode : Node)
    (declaration : Option Node) : Trace event :=
  match declaration.map Node.shape with
  | some (.construct callee _) =>
      let className := Node.calleeName callee
      instanceTrace watch scope exportNode className (lowerFirst className)
  | some (.identifier name) =>
      (scope.program.findInstance? name).elim .nothing fun declared =>
        instanceTrace watch scope exportNode (instanceClass declared) name
  | _ => .nothing

def declaratorTrace (watch : Watch event) (scope : Scope) (exportNode declarator : Node) :
    Trace event :=
  (declarator.initial?.bind Node.constructed?).elim .nothing fun callee =>
    let className := Node.calleeName callee
    let variableName := (declarator.bound?.bind Node.identifier?).getD ""
    .bind (find? scope .moduleClass className) .nothing fun _ =>
      if className.isEmpty || variableName.isEmpty then .nothing
      else companionTrace watch scope exportNode variableName className

/-- The events of a plan; looking up the names in an export is none. -/
def planTrace (watch : Watch event) (scope : Scope) (exportNode : Node) : Trace event :=
  if Tag.hasName (Comment.docTags exportNode.leading) "@ignore" then .nothing
  else match exportNode.shape with
    | .exportDefault declaration => defaultTrace watch scope exportNode declaration
    | .exportNamed declaration _ _ =>
        .each (planDeclarator scope exportNode) (declaratorTrace watch scope exportNode)
          ((declaration.bind Node.declarators?).getD [])
    | _ => .nothing

end Export

namespace Module

def secondPassTrace (watch : Watch event) (scope : Scope) : Trace event := fun before =>
  Trace.each (resolve scope) (Export.planTrace watch scope) before.pending before

def prepareTrace (watch : Watch event) (scope : Scope) : Trace event :=
  let category := if scope.code.isSome then Category.memory else .file
  .bind (liftM drawId) .nothing fun id =>
    .bind (storeModule (within scope id) category id)
      (watch.record (within scope id) id category scope.program []) fun _ =>
        documentInnerTrace watch (within scope id)

/-- Everything that happens while a module is documented. -/
def generateTrace (watch : Watch event) (scope : Scope) : Trace event :=
  .bind (prepare scope) (prepareTrace watch scope) fun id =>
    .bind (firstPass (within scope id)) (firstPassTrace watch (within scope id)) fun _ =>
      secondPassTrace watch (within scope id)

end Module

end DocHarvest
