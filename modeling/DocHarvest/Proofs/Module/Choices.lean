import DocHarvest.Proofs.Module.Expected
import DocHarvest.Proofs.Module.Lineage

/-!
# What deciding can do

Deciding about a node changes the tables a little on the way. `Decision.Chooses` lists all that can come
of it when the shape of the node decides, together with the state that is left behind, and `decide_run`
adds what the tags do. What holds of every decision follows by cases, and no proof has to go through the
shapes again.
-/

namespace DocHarvest

/-- Whether records of a category are about declarations in code. -/
def Category.isCode (category : Category) : Bool :=
  category.isModule || category.isMember

theorem Category.isFile_of_isCode {category : Category} (isCode : category.isCode) :
    category.isFile = false := by
  cases category <;> first | rfl | cases isCode

namespace Node

/-- Whether a node may be described by one of its parts. -/
def isBinder (node : Node) : Bool :=
  match node.shape with
  | .assignment .. | .declarator .. | .expressionStatement _ => true
  | _ => false

/-- A node binds a value, as an assignment or in the first variable that it declares. -/
inductive Gives (node value : Node) : Prop
  | assignment {left : Option Node} {operator : String}
      (shape : node.shape = .assignment left (some value) operator) : Gives node value
  | declaration {keyword : String} {first : Node} {others : List Node}
      (shape : node.shape = .variables keyword (first :: others))
      (initial : first.initial? = some value) : Gives node value

/-- A value stands at a place below the node that binds it. -/
theorem Gives.exists_part {program value : Node} {place : Place} (gives : place.node.Gives value)
    (isPlace : place ∈ program.places) : ∃ part ∈ program.places, part.node = value ∧
      part.Follows (some place.node) ∧ part.above.head?.any isBinder := by
  cases gives with
  | assignment shape =>
      exact ⟨_, Place.value_mem_places isPlace shape, rfl, Place.follows_outer _ _ _,
        by simp [isBinder, shape]⟩
  | declaration shape initial =>
      rcases shape_of_initial? initial with ⟨id, declarator⟩
      exact ⟨_, Place.initial_mem_places isPlace shape initial, rfl,
        Place.follows_declaration _ _ _ (Shape.isDeclarator_of_initial? initial),
        by simp [isBinder, declarator]⟩

theorem isModule_of_value? {value : Node} {decision : Decision}
    (found : value.value? = some decision) : decision.category.isModule := by
  unfold value? at found
  split at found <;> cases found <;> rfl

theorem expression_mem_places {program expression : Node} {place : Place}
    (isPlace : place ∈ program.places)
    (shape : place.node.shape = .expressionStatement (some expression)) :
    ⟨expression, place.node :: place.above⟩ ∈ program.places :=
  parts_mem_places isPlace
    (Place.mem_parts.2 ⟨by simp [children, shape, Shape.children], rfl⟩)

end Node

namespace Decision

/-! ## Each kind of decision -/

theorem topLevel_run (scope : Scope) (category : Category) (node : Node) (before : Progress) :
    (topLevel scope category node).run before =
      (if scope.isTopLevel before.links node then some ⟨category, node⟩ else none, before) :=
  rfl

theorem classScoped_run (category : Category) (what : String) (node : Node) (before : Progress) :
    (classScoped category what node).run before =
      if Scope.isClassProcessed before (before.links.findUp? node.id Shape.isClass) then
        (some ⟨category, node⟩, before)
      else (none, ((warnNotInClass what node).run before).2) := by
  change StateT.run (if Scope.isClassProcessed before
    (before.links.findUp? node.id Shape.isClass) then _ else _) before = _
  split <;> rfl

theorem binding_run (category : Category) (outer : Node) (value : Option Node)
    (before : Progress) :
    (binding category outer value).run before =
      match value.bind Node.value? with
      | some decision => (some decision,
          { before with
            links := before.links.setParent decision.node.id (some outer)
            visited := before.visited.insert decision.node.id })
      | none => (some ⟨category, outer⟩, before) := by
  have same : boundCategory? value =
      (value.bind Node.value?).map fun decision => (decision.category, decision.node) := by
    cases value with
    | none => rfl
    | some node =>
        simp only [boundCategory?, Option.bind_some, Node.value?]
        split <;> simp_all
  unfold binding
  rw [same]
  cases value.bind Node.value? with
  | none => rfl
  | some decision => rfl

theorem topLevelBinding_run (scope : Scope) (category : Category) (outer : Node)
    (value : Option Node) (before : Progress) :
    (topLevelBinding scope category outer value).run before =
      if scope.isTopLevel before.links outer then (binding category outer value).run before
      else (none, before) := by
  change StateT.run (if scope.isTopLevel before.links outer then _ else _) before = _
  split <;> rfl

/-- A state in which the statement around an expression has been noted. -/
def linked (before : Progress) (statement expression : Node) : Progress :=
  { before with links := before.links.setParent expression.id (some statement) }

theorem memberAssignment_run {statement assignment value : Node} {left : Option Node}
    {operator : String} (shape : assignment.shape = .assignment left (some value) operator)
    (before : Progress) :
    (memberAssignment statement (some assignment)).run before =
      if isThisMember left then
        match (linked before statement assignment).links.findUp? assignment.id Shape.isClass with
        | none => (none, linked before statement assignment)
        | some classNode =>
            if Scope.isClassProcessed (linked before statement assignment) (some classNode) then
              (some ⟨.classMember, assignment⟩,
                { linked before statement assignment with
                  visited := before.visited.insert assignment.id })
            else
              (none, ((warnNotInClass "This class member" assignment).run
                (linked before statement assignment)).2)
      else (none, linked before statement assignment) := by
  simp only [memberAssignment, Option.map_some, shape]
  cases isThisMember left with
  | false => rfl
  | true =>
      simp only [if_true]
      change StateT.run (match (linked before statement assignment).links.findUp? assignment.id
        Shape.isClass with | none => _ | some classNode => _) (linked before statement assignment) = _
      split
      · rfl
      · rename_i classNode _
        change StateT.run (if !Scope.isClassProcessed (linked before statement assignment)
          (some classNode) then _ else _) (linked before statement assignment) = _
        cases Scope.isClassProcessed (linked before statement assignment) (some classNode) with
        | false => rfl
        | true => rfl

/-! ## All decisions by shape -/

/-- What comes of a decision by shape: what is decided on, and the state that is left behind. -/
inductive Chooses (node : Node) (before : Progress) : Option Decision × Progress → Prop
  | nothing (messages : List Message) : Chooses node before (none, { before with messages })
  | self {category : Category} (isCode : category.isCode) :
      Chooses node before (some ⟨category, node⟩, before)
  /-- An assignment is told its statement, even if it is no member that is recorded. -/
  | passed {assignment : Node} (shape : node.shape = .expressionStatement (some assignment))
      (messages : List Message) :
      Chooses node before (none, { linked before node assignment with messages })
  /-- An assignment is described in place of its statement. -/
  | member {assignment value : Node} {left : Option Node} {operator : String}
      (shape : node.shape = .expressionStatement (some assignment))
      (assigns : assignment.shape = .assignment left (some value) operator) :
      Chooses node before (some ⟨.classMember, assignment⟩,
        { linked before node assignment with visited := before.visited.insert assignment.id })
  /-- A value is described in place of what binds it. -/
  | value {value : Node} {decision : Decision} (gives : node.Gives value)
      (isValue : value.value? = some decision) :
      Chooses node before (some decision,
        { before with
          links := before.links.setParent decision.node.id (some node)
          visited := before.visited.insert decision.node.id })

namespace Chooses

variable {scope : Scope} {node : Node} {before : Progress} {category : Category}

theorem unchanged : Chooses node before (none, before) :=
  nothing before.messages

theorem topLevel (isCode : category.isCode) :
    Chooses node before ((Decision.topLevel scope category node).run before) := by
  rw [topLevel_run]
  split
  · exact self isCode
  · exact unchanged

theorem classScoped (what : String) (isCode : category.isCode) :
    Chooses node before ((Decision.classScoped category what node).run before) := by
  rw [classScoped_run]
  split
  · exact self isCode
  · exact nothing _

theorem memberAssignment {expression : Option Node}
    (shape : node.shape = .expressionStatement expression) :
    Chooses node before ((Decision.memberAssignment node expression).run before) := by
  cases expression with
  | none => exact unchanged
  | some assignment =>
      have silent : Chooses node before (none, linked before node assignment) :=
        passed shape before.messages
      cases assigns : assignment.shape with
      | assignment left value operator =>
          cases value with
          | none =>
              simp only [Decision.memberAssignment, Option.map_some, assigns]
              exact unchanged
          | some value =>
              rw [memberAssignment_run assigns]
              split
              · split
                · exact silent
                · split
                  · exact member shape assigns
                  · exact passed shape _
              · exact silent
      | _ =>
          simp only [Decision.memberAssignment, Option.map_some, assigns]
          exact unchanged

theorem topLevelBinding (isCode : category.isCode) {value : Option Node}
    (gives : ∀ bound, value = some bound → node.Gives bound) :
    Chooses node before ((Decision.topLevelBinding scope category node value).run before) := by
  rw [topLevelBinding_run]
  split
  · rw [binding_run]
    cases bound : value.bind Node.value? with
    | none => exact self isCode
    | some decision =>
        rcases Option.bind_eq_some_iff.1 bound with ⟨found, isValue, described⟩
        exact Chooses.value (gives found isValue) described
  · exact unchanged

end Chooses

theorem ofShape_chooses (scope : Scope) (node : Node) (before : Progress) :
    Chooses node before ((ofShape scope node).run before) := by
  unfold ofShape
  split
  case h_1 => exact .topLevel rfl
  case h_2 => exact .classScoped _ rfl
  case h_3 => exact .classScoped _ rfl
  case h_4 shape => exact .memberAssignment shape
  case h_5 => exact .topLevel rfl
  case h_6 =>
    split
    · exact .topLevel rfl
    · exact .unchanged
  case h_7 => exact .topLevel rfl
  case h_8 shape =>
    refine .topLevelBinding rfl ?_
    rintro value rfl
    exact .assignment shape
  case h_9 shape =>
    split
    · rename_i initial
      refine .topLevelBinding rfl ?_
      rintro value ⟨⟩
      exact .declaration shape initial
    · exact .unchanged
  case h_10 => exact .unchanged

/-- Nothing is decided on for a virtual node without tags. -/
theorem ofShape_virtual (scope : Scope) {node : Node} (shape : node.shape = .virtual)
    (before : Progress) : (ofShape scope node).run before = (none, before) := by
  simp only [ofShape, shape]
  rfl

namespace Chooses

variable {node : Node} {before : Progress} {result : Option Decision × Progress}

theorem isCode (chooses : Chooses node before result) :
    ∀ decision, result.1 = some decision → decision.category.isCode := by
  cases chooses with
  | nothing | passed => rintro decision ⟨⟩
  | self isCode =>
      rintro decision ⟨⟩
      exact isCode
  | member =>
      rintro decision ⟨⟩
      rfl
  | value gives isValue =>
      rintro decision ⟨⟩
      simp [Category.isCode, Node.isModule_of_value? isValue]

/-- A decision changes nothing but the tables of parents and visits, and adds messages. -/
theorem frame (chooses : Chooses node before result) : result.2 =
    { before with
      links := { before.links with parents := result.2.links.parents }
      visited := result.2.visited
      messages := result.2.messages } := by
  cases chooses <;> rfl

end Chooses

/-! ## Decisions with tags -/

/-- Tags alone decide on types and external things. -/
theorem category_of_ofTags? {tags : List Tag} {category : Category}
    (found : ofTags? tags = some category) :
    category = .virtualTypedef ∨ category = .virtualExternal := by
  have kept : ∀ other ∈ ofTags? tags, other = .virtualTypedef ∨ other = .virtualExternal := by
    refine List.foldlRecOn tags _ (motive := fun start : Option Category =>
        ∀ other ∈ start, other = .virtualTypedef ∨ other = .virtualExternal)
      (by simp) ?_
    intro start inside tag _
    split
    · rintro other ⟨⟩
      exact Or.inl rfl
    · split
      · rintro other ⟨⟩
        exact Or.inr rfl
      · exact inside
  exact kept category found

/-- The class among what has been decided on, which counts as recorded from then on. -/
def classes (decision : Option Decision) : List Node :=
  match decision with
  | some ⟨.moduleClass, described⟩ => [described]
  | _ => []

/-- Without tags that decide, the shape decides, and a class is noted as recorded. -/
theorem decide_run (scope : Scope) (node : Node) {tags : List Tag}
    (untagged : ofTags? tags = none) (before : Progress) :
    (decide scope tags node).run before =
      (((ofShape scope node).run before).1, { ((ofShape scope node).run before).2 with
        classes := ((ofShape scope node).run before).2.classes ++
          classes ((ofShape scope node).run before).1 }) := by
  simp only [decide, untagged, StateT.run_bind]
  generalize (ofShape scope node).run before = pair
  rcases pair with ⟨found, noted⟩
  have kept (decision : Option Decision) (noClass : classes decision = []) :
      (decision, noted) =
        (decision, { noted with classes := noted.classes ++ classes decision }) := by
    rw [noClass, List.append_nil]
  cases found with
  | none => exact kept none rfl
  | some decision =>
      rcases decision with ⟨category, described⟩
      cases category with
      | moduleClass => rfl
      | _ => exact kept _ rfl

theorem decide_tagged (scope : Scope) (node : Node) {tags : List Tag} {category : Category}
    (tagged : ofTags? tags = some category) (before : Progress) :
    (decide scope tags node).run before = (some ⟨category, node⟩, before) := by
  simp only [decide, tagged]
  rfl

/-- Deciding leaves records, names and waiting exports alone. -/
theorem decide_frame (scope : Scope) (tags : List Tag) (node : Node) (before : Progress) :
    ((decide scope tags node).run before).2 =
      { before with
        links := { before.links with
          parents := ((decide scope tags node).run before).2.links.parents }
        visited := ((decide scope tags node).run before).2.visited
        classes := ((decide scope tags node).run before).2.classes
        messages := ((decide scope tags node).run before).2.messages } := by
  cases found : ofTags? tags with
  | some category => rw [decide_tagged scope node found]
  | none =>
      rw [decide_run scope node found, (ofShape_chooses scope node before).frame]

/-- What the tags or the shape of a node decide on is never the record of a file. -/
theorem decide_inside (scope : Scope) (tags : List Tag) (node : Node) (before : Progress) :
    ∀ decision ∈ ((decide scope tags node).run before).1, decision.category.isFile = false := by
  cases found : ofTags? tags with
  | some category =>
      rw [decide_tagged scope node found]
      rintro decision ⟨⟩
      rcases category_of_ofTags? found with rfl | rfl <;> rfl
  | none =>
      rw [decide_run scope node found]
      intro decision decided
      exact Category.isFile_of_isCode ((ofShape_chooses scope node before).isCode decision decided)

end Decision

end DocHarvest
