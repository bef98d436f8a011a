import DocHarvest.Module.Generate
import DocHarvest.Proofs.Node.Tree
import DocHarvest.Proofs.Record.Built

/-!
# What the walk is expected to record

The walk decides about nodes while it changes its tables. Here the same decisions are made from the
program alone: a statement is recorded for what it declares, directly or below an export, and a
member for the class around it, if that class is among the recorded ones. `Place.finding?` puts the
two together for every place that the walk reaches.
-/

namespace DocHarvest

/-- What a value is recorded for in place of what binds it. -/
def Node.value? (value : Node) : Option Decision :=
  match value.shape with
  | .function .expression .. | .arrow .. => some ⟨.moduleFunction, value⟩
  | .classLike .expression .. => some ⟨.moduleClass, value⟩
  | _ => none

theorem Node.node_of_value? {value : Node} {decision : Decision}
    (found : value.value? = some decision) : decision.node = value := by
  unfold value? at found
  split at found
  all_goals cases found
  all_goals rfl

/-- What a node declares, provided that it stands at the top level. -/
def Node.declared? (node : Node) : Option Decision :=
  match node.shape with
  | .classLike .declaration .. => some ⟨.moduleClass, node⟩
  | .function .declaration .. => some ⟨.moduleFunction, node⟩
  | .function .expression _ _ _ true _ => some ⟨.moduleFunction, node⟩
  | .arrow .. => some ⟨.moduleFunction, node⟩
  | .assignment _ value _ => some ((value.bind Node.value?).getD ⟨.moduleAssignment, node⟩)
  | .variables _ (first :: _) =>
      first.initial?.map fun value => value.value?.getD ⟨.moduleVariable, node⟩
  | _ => none

theorem Node.shape_of_initial? {node value : Node} (found : node.initial? = some value) :
    ∃ id, node.shape = .declarator id (some value) := by
  unfold Node.initial? at found
  split at found
  · rename_i id init shape
    exact ⟨id, found ▸ shape⟩
  · cases found

theorem Place.value_mem_places {program : Node} {place : Place} (isPlace : place ∈ program.places)
    {left : Option Node} {value : Node} {operator : String}
    (shape : place.node.shape = .assignment left (some value) operator) :
    ⟨value, place.node :: place.above⟩ ∈ program.places := by
  refine Node.parts_mem_places isPlace (Place.mem_parts.2 ⟨?_, rfl⟩)
  simp [Node.children, shape, Shape.children]

theorem Place.initial_mem_places {program : Node} {place : Place} (isPlace : place ∈ program.places)
    {keyword : String} {first value : Node} {others : List Node}
    (shape : place.node.shape = .variables keyword (first :: others))
    (found : first.initial? = some value) :
    ⟨value, first :: place.node :: place.above⟩ ∈ program.places := by
  rcases Node.shape_of_initial? found with ⟨id, declarator⟩
  have isFirst : ⟨first, place.node :: place.above⟩ ∈ program.places := by
    refine Node.parts_mem_places isPlace (Place.mem_parts.2 ⟨?_, rfl⟩)
    simp [Node.children, shape, Shape.children]
  refine Node.parts_mem_places isFirst (Place.mem_parts.2 ⟨?_, rfl⟩)
  simp [Node.children, declarator, Shape.children]

/-- What a statement of a program is recorded for: what it declares, or what it exports. -/
def Node.recorded? (program statement : Node) : Option Decision :=
  if Export.isDeferred program statement then none
  else if statement.shape.isExport then statement.exported?.bind Node.declared?
  else statement.declared?

/-- The classes that have records of their own. -/
def Node.recordedClasses (program : Node) : List Node :=
  (program.body.filterMap program.recorded?).filterMap fun decision =>
    if decision.category = .moduleClass then some decision.node else none

namespace Place

/-- Whether a place is a statement of the program, or a part of an export that is one. -/
def isTopLevel (place : Place) : Bool :=
  match place.above with
  | [_] => true
  | [outer, _] => outer.shape.isExport
  | _ => false

/-- The nearest class around a place. -/
def innermostClass? (place : Place) : Option Node :=
  place.above.find? fun outer => outer.shape.isClass

/-- Whether the nearest class around a place has a record of its own. -/
def isInRecordedClass (program : Node) (place : Place) : Bool :=
  match place.innermostClass? with
  | none => false
  | some classNode => program.recordedClasses.any fun recorded => recorded.id == classNode.id

/-- The assignment to a member of `this` that a statement consists of. -/
def thisAssignment? (statement : Node) : Option Node :=
  match statement.shape with
  | .expressionStatement (some expression) =>
      match expression.shape with
      | .assignment left (some _) _ => if Decision.isThisMember left then some expression else none
      | _ => none
  | _ => none

/-- The class member that a node is, provided that it stands in a recorded class. -/
def memberOf? (node : Node) : Option Decision :=
  match node.shape with
  | .method .. => some ⟨.classMethod, node⟩
  | .property .. => some ⟨.classProperty, node⟩
  | _ => (thisAssignment? node).map fun assignment => ⟨.classMember, assignment⟩

theorem isMember_of_memberOf? {node : Node} {decision : Decision}
    (member : memberOf? node = some decision) : decision.category.isMember := by
  unfold memberOf? at member
  split at member
  · cases member
    rfl
  · cases member
    rfl
  · rcases Option.map_eq_some_iff.1 member with ⟨assignment, -, rfl⟩
    rfl

theorem category_ne_of_memberOf? {node : Node} {decision : Decision}
    (member : memberOf? node = some decision) : decision.category ≠ .moduleClass := by
  intro isClass
  have isMember := isMember_of_memberOf? member
  rw [isClass] at isMember
  cases isMember

/-- What a place in a recorded class is recorded for. -/
def member? (program : Node) (place : Place) : Option Decision :=
  if place.isInRecordedClass program then memberOf? place.node else none

/-- What a place is recorded for by itself. -/
def decision? (program : Node) (place : Place) : Option Decision :=
  if place.isTopLevel then place.node.declared?.or (place.member? program)
  else place.member? program

theorem declared?_of_memberOf? {node : Node} {decision : Decision}
    (member : memberOf? node = some decision) : node.declared? = none := by
  unfold Node.declared?
  split
  case h_7 => rfl
  all_goals
    rename_i shape
    simp [memberOf?, thisAssignment?, shape] at member

theorem memberOf?_of_declared? {node : Node} {decision : Decision}
    (declared : node.declared? = some decision) : memberOf? node = none := by
  cases member : memberOf? node with
  | none => rfl
  | some other =>
      rw [declared?_of_memberOf? member] at declared
      cases declared

theorem isInRecordedClass_of_memberOf? {program : Node} {place : Place} {decision : Decision}
    (decided : place.decision? program = some decision)
    (member : memberOf? place.node = some decision) : place.isInRecordedClass program := by
  simp only [decision?, declared?_of_memberOf? member, Option.none_or, ite_self, member?] at decided
  split at decided
  · assumption
  · cases decided

theorem isSome_of_isInRecordedClass {program : Node} {place : Place}
    (inside : place.isInRecordedClass program) : place.innermostClass?.isSome := by
  unfold isInRecordedClass at inside
  split at inside
  · cases inside
  · rename_i found
    rw [found]
    rfl

/-- Whether a node is wrapped by an export around it that is documented by itself. -/
def isUnwrappedIn (node : Node) : List Node → Bool
  | [] => false
  | outer :: above =>
      (outer.shape.isExport && outer.exported?.any fun declaration => declaration.id == node.id) &&
        !isUnwrappedIn outer above

/-- Whether a place is documented together with the export around it. -/
def isUnwrapped (place : Place) : Bool :=
  isUnwrappedIn place.node place.above

/-- What wraps a part is an export that is not wrapped itself. -/
theorem isExport_of_isUnwrapped {part place : Place} (isPart : part ∈ place.parts)
    (unwrapped : part.isUnwrapped) :
    place.node.shape.isExport ∧ place.isUnwrapped = false := by
  rw [isUnwrapped, (mem_parts.1 isPart).2] at unwrapped
  simp only [isUnwrappedIn, Bool.and_eq_true, Bool.not_eq_true'] at unwrapped
  exact ⟨unwrapped.1.1, unwrapped.2⟩

theorem id_eq_of_isUnwrapped {part place : Place} (isPart : part ∈ place.parts)
    (unwrapped : part.isUnwrapped) :
    ∃ declaration, place.node.exported? = some declaration ∧ declaration.id = part.node.id := by
  rw [isUnwrapped, (mem_parts.1 isPart).2] at unwrapped
  simp only [isUnwrappedIn, Bool.and_eq_true] at unwrapped
  rcases (Option.any_eq_true _ _).1 unwrapped.1.2 with ⟨declaration, wrapped, same⟩
  exact ⟨declaration, wrapped, by simpa using same⟩

/-- The declaration of an export is wrapped by it, unless the export is wrapped itself. -/
theorem isUnwrapped_of_exported? {place : Place} {declaration : Node}
    (isExport : place.node.shape.isExport) (notWrapped : place.isUnwrapped = false)
    (wrapped : place.node.exported? = some declaration) :
    isUnwrapped ⟨declaration, place.node :: place.above⟩ := by
  have notWrappedIn : isUnwrappedIn place.node place.above = false := notWrapped
  simp [isUnwrapped, isUnwrappedIn, isExport, notWrappedIn, wrapped]

end Place

/-- What is recorded when the walk reaches a place: the place decided about, and the decision. -/
structure Finding where
  place : Place
  decision : Decision

/-- The decision about a place, if there is one. -/
def Place.found? (program : Node) (place : Place) : Option Finding :=
  (place.decision? program).map (⟨place, ·⟩)

/-- What is recorded at a place: a wrapped declaration is recorded together with its export. -/
def Place.finding? (program : Node) (place : Place) : Option Finding :=
  if Export.isDeferred program place.node || place.isUnwrapped then none
  else if place.node.shape.isExport then
    place.node.exported?.bind fun declaration =>
      (⟨declaration, place.node :: place.above⟩ : Place).found? program
  else place.found? program

namespace Node

/-- The places of a program that the walk of the first pass reaches. -/
def walked (program : Node) : List Place :=
  (⟨program, []⟩ : Place).reach fun node => !Export.isDeferred program node

/-- What the first pass records, in order. -/
def findings (program : Node) : List Finding :=
  program.walked.filterMap (Place.finding? program)

end Node

end DocHarvest
