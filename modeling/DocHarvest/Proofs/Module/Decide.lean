import DocHarvest.Proofs.Module.Choices

/-!
# Decisions at places

Where the tables fit the program, deciding about a node comes to what is expected of its place. On
the way values and assignments that are described themselves are marked as visited, so that the walk
passes over them later; nothing would have been recorded there anyway.
-/

namespace DocHarvest

open Run

variable {scope : Scope} {program : Node}

namespace Place

/-- Nothing is recorded at a part of a node that is neither a statement nor an export. -/
theorem finding?_eq_none {place : Place} {outer next : Node} {rest : List Node}
    (above : place.above = outer :: next :: rest) (inner : outer.shape.isExport = false)
    (plain : place.node.shape.isExport = false) (noMember : memberOf? place.node = none) :
    place.finding? program = none := by
  have notTop : place.isTopLevel = false := by
    rw [isTopLevel, above]
    cases rest <;> simp [inner]
  have nothing : place.decision? program = none := by
    simp [decision?, notTop, member?, noMember]
  simp [finding?, found?, plain, nothing]

end Place

namespace Links

variable {links : Links}

theorem Fits.setParent (fits : links.Fits program) (tree : program.IsTree) {place : Place}
    (isPlace : place ∈ program.places) {parent : Option Node} (follows : place.Follows parent) :
    (links.setParent place.node.id parent).Fits program := by
  intro other isOther noted found
  simp only [Links.setParent, Std.TreeMap.getElem?_insert] at found
  split at found
  · rename_i same
    have equal := tree.place_eq isPlace isOther (by simpa using same)
    cases found
    exact equal ▸ follows
  · exact fits other isOther noted found

theorem Knows.setParent {place : Place} (known : links.Knows place) (id : NodeId)
    (parent : Option Node) : (links.setParent id parent).Knows place := by
  intro inside
  simp only [Links.setParent, Std.TreeMap.getElem?_insert]
  split
  · rfl
  · exact known inside

theorem parentOf_setParent (links : Links) (id other : NodeId) (parent : Option Node) :
    (links.setParent id parent).parentOf other =
      if other = id then parent else links.parentOf other := by
  simp only [parentOf, setParent, Std.TreeMap.getElem?_insert, Nat.compare_eq_eq]
  by_cases same : other = id
  · simp [same]
  · simp [same, Ne.symm same]

theorem knows_setParent_self (place : Place) (parent : Option Node) :
    (links.setParent place.node.id parent).Knows place := by
  intro _
  simp [Links.setParent]

end Links

theorem contains_insert_iff (visited : Std.TreeSet NodeId) (node id : NodeId) :
    (visited.insert node).contains id ↔ visited.contains id ∨ id = node := by
  rw [Std.TreeSet.contains_insert, Bool.or_eq_true, or_comm, beq_iff_eq, Nat.compare_eq_eq,
    eq_comm (a := node)]

/-- What the tables say once some nodes have been marked as visited together with their parents. -/
structure Marks (program : Node) (before after : Progress) : Prop where
  fits : before.links.Fits program → after.links.Fits program
  knows : ∀ place ∈ program.places, before.links.Knows place → after.links.Knows place
  visited : ∀ id, before.visited.contains id → after.visited.contains id
  fresh : ∀ place ∈ program.places, after.visited.contains place.node.id →
    before.visited.contains place.node.id ∨
      place.finding? program = none ∧ place.node.shape.isExport = false ∧ after.links.Knows place

namespace Marks

variable {before after : Progress}

theorem of_eq (parents : after.links.parents = before.links.parents)
    (visited : after.visited = before.visited) : Marks program before after where
  fits fits place isPlace parent noted := by
    rw [parents] at noted
    exact fits place isPlace parent noted
  knows place _ known inside := by
    rw [parents]
    exact known inside
  visited := by
    rw [visited]
    exact fun _ => id
  fresh := by
    rw [visited]
    exact fun _ _ => Or.inl

theorem part (tree : program.IsTree) {place : Place} (isPlace : place ∈ program.places)
    {parent : Node} (follows : place.Follows (some parent)) (nothing : place.finding? program = none)
    (plain : place.node.shape.isExport = false)
    (links : after.links = before.links.setParent place.node.id (some parent))
    (visited : ∀ id, after.visited.contains id →
      before.visited.contains id ∨ id = place.node.id)
    (kept : ∀ id, before.visited.contains id → after.visited.contains id) :
    Marks program before after where
  fits fits := by
    rw [links]
    exact fits.setParent tree isPlace follows
  knows other _ known := by
    rw [links]
    exact known.setParent _ _
  visited := kept
  fresh other isOther isVisited := by
    refine (visited _ isVisited).imp_right fun same => ?_
    have equal := tree.place_eq isOther isPlace same
    rw [equal, links]
    exact ⟨nothing, plain, Links.knows_setParent_self place _⟩

end Marks

theorem Marks.trans {before middle after : Progress} (first : Marks program before middle)
    (second : Marks program middle after) : Marks program before after where
  fits fits := second.fits (first.fits fits)
  knows place isPlace known := second.knows place isPlace (first.knows place isPlace known)
  visited id wasVisited := second.visited id (first.visited id wasVisited)
  fresh place isPlace isVisited := by
    rcases second.fresh place isPlace isVisited with wasVisited | isNew
    · rcases first.fresh place isPlace wasVisited with wasVisited | ⟨nothing, plain, known⟩
      · exact Or.inl wasVisited
      · exact Or.inr ⟨nothing, plain, second.knows place isPlace known⟩
    · exact Or.inr isNew

/-- A place about which a decision is made: everything around it is known, and nothing wrong. -/
structure Stands (scope : Scope) (before : Progress) (place : Place) : Prop where
  tree : scope.program.IsTree
  isProgram : scope.program.isProgram
  isPlace : place ∈ scope.program.places
  inside : place.above ≠ []
  fits : before.links.Fits scope.program
  parent : before.links.parentOf place.node.id = place.above.head?
  known : before.links.Knows place
  knowsOuters : ∀ outer ∈ Place.outers place.above, before.links.Knows outer
  classes : ∀ classNode ∈ place.innermostClass?,
    before.classes.any (fun processed => processed.id == classNode.id) =
      scope.program.recordedClasses.any fun recorded => recorded.id == classNode.id

namespace Stands

variable {before : Progress} {place : Place}

theorem isTopLevel_eq (stands : Stands scope before place) :
    scope.isTopLevel before.links place.node = place.isTopLevel := by
  rcases stands with ⟨tree, isProgram, isPlace, inside, -, parent, -, -, -⟩
  rcases place with ⟨node, above⟩
  cases above with
  | nil => exact absurd rfl inside
  | cons outer above =>
      have isOuter := (Node.outer_mem_places isPlace).1
      have atNode := Node.any_body_iff tree isProgram isPlace
      have atOuter := Node.any_body_iff tree isProgram isOuter
      simp only [List.head?_cons] at parent
      rw [Scope.isTopLevel, parent, Bool.eq_iff_iff]
      cases isExport : outer.shape.isExport with
      | true =>
          simp only [isExport, if_true]
          rw [atOuter]
          match above with
          | [] =>
              have same := Node.eq_root_of_above_nil isOuter
              rw [same, Node.isExport_of_isProgram isProgram] at isExport
              cases isExport
          | [next] =>
              have same := Node.eq_root_of_above_nil (Node.outer_mem_places isOuter).1
              simp [Place.isTopLevel, isExport, same]
          | _ :: _ :: _ => simp [Place.isTopLevel]
      | false =>
          simp only [isExport, Bool.false_eq_true, if_false]
          rw [atNode]
          match above with
          | [] => simp [Place.isTopLevel, Node.eq_root_of_above_nil isOuter]
          | [next] => simp [Place.isTopLevel, isExport]
          | _ :: _ :: _ => simp [Place.isTopLevel]

theorem findUp?_isClass (stands : Stands scope before place) :
    before.links.findUp? place.node.id Shape.isClass = place.innermostClass? :=
  Links.findUp?_eq stands.tree stands.fits stands.isPlace stands.known stands.knowsOuters
    fun _ => Shape.isClass_of_isDeclarator

/-- Whether the class around a node has been recorded is known from the program alone. -/
theorem isClassProcessed_eq (stands : Stands scope before place) :
    Scope.isClassProcessed before (before.links.findUp? place.node.id Shape.isClass) =
      place.isInRecordedClass scope.program := by
  have same := stands.classes
  rw [stands.findUp?_isClass, Place.isInRecordedClass]
  cases innermost : place.innermostClass? with
  | none => rfl
  | some classNode => exact same classNode innermost

end Stands

/-- A decision about a place is the expected one, and changes nothing but marks and messages. -/
structure Decided (scope : Scope) (before : Progress) (place : Place)
    (result : Option Decision × Progress) : Prop where
  found : result.1 = place.decision? scope.program
  frame : result.2 =
    { before with
      links := result.2.links, visited := result.2.visited, messages := result.2.messages }
  names : result.2.links.names = before.links.names
  marks : Marks scope.program before result.2
  around : ∀ decision, result.1 = some decision → Place.memberOf? place.node = some decision →
    result.2.links.findUp? decision.node.id Shape.isClass = place.innermostClass?

namespace Decided

variable {before : Progress} {place : Place}

theorem nothing (declared : place.node.declared? = none)
    (noMember : Place.memberOf? place.node = none) : Decided scope before place (none, before) where
  found := by simp [Place.decision?, Place.member?, declared, noMember]
  frame := rfl
  names := rfl
  marks := .of_eq rfl rfl
  around decision impossible := by cases impossible

theorem topLevel (stands : Stands scope before place) {category : Category}
    (declared : place.node.declared? = some ⟨category, place.node⟩) :
    Decided scope before place ((Decision.topLevel scope category place.node).run before) where
  found := by
    change (if scope.isTopLevel before.links place.node then _ else _) = _
    rw [stands.isTopLevel_eq]
    simp [Place.decision?, Place.member?, declared, Place.memberOf?_of_declared? declared]
  frame := rfl
  names := rfl
  marks := .of_eq rfl rfl
  around decision _ isMember := by
    rw [Place.memberOf?_of_declared? declared] at isMember
    cases isMember

theorem classScoped (stands : Stands scope before place) {category : Category} (what : String)
    (declared : place.node.declared? = none)
    (member : Place.memberOf? place.node = some ⟨category, place.node⟩) :
    Decided scope before place ((Decision.classScoped category what place.node).run before) := by
  have processed := stands.isClassProcessed_eq
  have expected : place.decision? scope.program =
      if place.isInRecordedClass scope.program then some ⟨category, place.node⟩ else none := by
    simp [Place.decision?, Place.member?, declared, member]
  rw [Decision.classScoped_run, processed]
  cases inside : place.isInRecordedClass scope.program with
  | true =>
      refine ⟨by simp [expected, inside], rfl, rfl, .of_eq rfl rfl, ?_⟩
      rintro decision ⟨⟩ -
      exact stands.findUp?_isClass
  | false =>
      refine ⟨by simp [expected, inside], rfl, rfl, .of_eq rfl rfl, ?_⟩
      rintro decision ⟨⟩

theorem topLevelBinding (stands : Stands scope before place) {category : Category}
    {value : Option Node}
    (declared : place.node.declared? = some ((value.bind Node.value?).getD ⟨category, place.node⟩))
    (inner : ∀ decision, value.bind Node.value? = some decision → ∃ part ∈ scope.program.places,
      part.node = decision.node ∧ part.Follows (some place.node) ∧
        part.finding? scope.program = none ∧ part.node.shape.isExport = false) :
    Decided scope before place
      ((Decision.topLevelBinding scope category place.node value).run before) := by
  have noMember := Place.memberOf?_of_declared? declared
  rw [Decision.topLevelBinding_run, stands.isTopLevel_eq]
  cases top : place.isTopLevel with
  | false =>
      refine ⟨?_, rfl, rfl, .of_eq rfl rfl, ?_⟩
      · simp [Place.decision?, Place.member?, top, noMember]
      · rintro decision ⟨⟩
  | true =>
      have found : place.decision? scope.program =
          some ((value.bind Node.value?).getD ⟨category, place.node⟩) := by
        simp [Place.decision?, top, declared]
      rw [if_pos rfl, Decision.binding_run]
      cases bound : value.bind Node.value? with
      | none =>
          refine ⟨by simp [found, bound], rfl, rfl, .of_eq rfl rfl, ?_⟩
          intro decision _ isMember
          rw [noMember] at isMember
          cases isMember
      | some decision =>
          rcases inner decision bound with ⟨part, isPart, same, follows, nothing, plain⟩
          refine ⟨by simp [found, bound], rfl, rfl, ?_, ?_⟩
          · refine .part stands.tree isPart follows nothing plain (by rw [same]) ?_ ?_
            · rw [same]
              exact fun id => (contains_insert_iff _ _ _).1
            · exact fun id wasVisited => (contains_insert_iff _ _ _).2 (Or.inl wasVisited)
          · intro decision _ isMember
            rw [noMember] at isMember
            cases isMember

theorem innermostClass?_statement {place : Place} {expression : Option Node} (node : Node)
    (shape : place.node.shape = .expressionStatement expression) :
    Place.innermostClass? ⟨node, place.node :: place.above⟩ = place.innermostClass? := by
  simp [Place.innermostClass?, shape, Shape.isClass]

theorem stands_linked (stands : Stands scope before place) {expression : Node}
    (shape : place.node.shape = .expressionStatement (some expression)) :
    Stands scope (Decision.linked before place.node expression)
      ⟨expression, place.node :: place.above⟩ := by
  have isPart : ⟨expression, place.node :: place.above⟩ ∈ place.parts :=
    Place.mem_parts.2 ⟨by simp [Node.children, shape, Shape.children], rfl⟩
  have isPlace := Node.parts_mem_places stands.isPlace isPart
  refine ⟨stands.tree, stands.isProgram, isPlace, by simp, ?_, ?_, ?_, ?_, ?_⟩
  · exact stands.fits.setParent stands.tree isPlace (Place.follows_outer _ _ _)
  · simp [Decision.linked, Links.parentOf, Links.setParent]
  · exact Links.knows_setParent_self ⟨expression, place.node :: place.above⟩ _
  · intro outer isOuter
    rcases List.mem_cons.1 isOuter with rfl | isFarther
    · exact stands.known.setParent _ _
    · exact (stands.knowsOuters outer isFarther).setParent _ _
  · rw [innermostClass?_statement _ shape]
    exact stands.classes

theorem marks_linked (stands : Stands scope before place) {assignment : Node}
    {left value : Option Node} {operator : String}
    (shape : place.node.shape = .expressionStatement (some assignment))
    (found : assignment.shape = .assignment left value operator) {after : Progress}
    (links : after.links = (Decision.linked before place.node assignment).links)
    (visited : ∀ id, after.visited.contains id → before.visited.contains id ∨ id = assignment.id)
    (kept : ∀ id, before.visited.contains id → after.visited.contains id) :
    Marks scope.program before after := by
  have stand := stands_linked stands shape
  rcases List.exists_cons_of_ne_nil stands.inside with ⟨next, rest, above⟩
  have plain : assignment.shape.isExport = false := by simp [found, Shape.isExport]
  have nothing : Place.finding? scope.program ⟨assignment, place.node :: place.above⟩ = none := by
    refine Place.finding?_eq_none (by rw [above]) ?_ plain ?_
    · simp [shape, Shape.isExport]
    · simp [Place.memberOf?, Place.thisAssignment?, found]
  exact .part stands.tree stand.isPlace (Place.follows_outer _ _ _) nothing plain links visited kept

/-- An assignment to a member of `this` is recorded if the class around the statement is. -/
theorem thisAssignment (stands : Stands scope before place) {assignment value : Node}
    {left : Option Node} {operator : String}
    (shape : place.node.shape = .expressionStatement (some assignment))
    (found : assignment.shape = .assignment left (some value) operator)
    (isThis : Decision.isThisMember left) :
    Decided scope before place
      ((Decision.memberAssignment place.node (some assignment)).run before) := by
  have expected : place.decision? scope.program =
      if place.isInRecordedClass scope.program then some ⟨.classMember, assignment⟩ else none := by
    simp [Place.decision?, Place.member?, Node.declared?, Place.memberOf?, Place.thisAssignment?,
      shape, found, isThis]
  have stand := stands_linked stands shape
  have sameClass := innermostClass?_statement assignment shape
  have sameInside : Place.isInRecordedClass scope.program ⟨assignment, place.node :: place.above⟩ =
      place.isInRecordedClass scope.program := by
    simp [Place.isInRecordedClass, sameClass]
  have processed := stand.isClassProcessed_eq
  rw [sameInside] at processed
  rw [Decision.memberAssignment_run found, if_pos isThis]
  cases around : (Decision.linked before place.node assignment).links.findUp? assignment.id
      Shape.isClass with
  | none =>
      rw [around] at processed
      refine ⟨?_, rfl, rfl, marks_linked stands shape found rfl (fun _ => Or.inl) fun _ => id, ?_⟩
      · simp [expected, ← processed, Scope.isClassProcessed]
      · rintro decision ⟨⟩
  | some classNode =>
      rw [around] at processed
      simp only [processed]
      cases inside : place.isInRecordedClass scope.program with
      | false =>
          refine ⟨?_, rfl, rfl, marks_linked stands shape found rfl (fun _ => Or.inl) fun _ => id, ?_⟩
          · simp [expected, inside]
          · rintro decision ⟨⟩
      | true =>
          refine ⟨?_, rfl, rfl, marks_linked stands shape found rfl ?_ ?_, ?_⟩
          · simp [expected, inside]
          · exact fun id => (contains_insert_iff _ _ _).1
          · exact fun id wasVisited => (contains_insert_iff _ _ _).2 (Or.inl wasVisited)
          · rintro decision ⟨⟩ -
            exact stand.findUp?_isClass.trans sameClass

theorem memberAssignment (stands : Stands scope before place) (expression : Option Node)
    (shape : place.node.shape = .expressionStatement expression) :
    Decided scope before place
      ((Decision.memberAssignment place.node expression).run before) := by
  have declared : place.node.declared? = none := by simp [Node.declared?, shape]
  cases expression with
  | none =>
      exact nothing declared (by simp [Place.memberOf?, Place.thisAssignment?, shape])
  | some assignment =>
      cases found : assignment.shape with
      | assignment left value operator =>
          have noMember (unfit : value = none ∨ Decision.isThisMember left = false) :
              Place.memberOf? place.node = none := by
            rcases unfit with rfl | notThis
            · simp [Place.memberOf?, Place.thisAssignment?, shape, found]
            · cases value <;> simp [Place.memberOf?, Place.thisAssignment?, shape, found, notThis]
          cases value with
          | none =>
              simp only [Decision.memberAssignment, Option.map_some, found]
              exact nothing declared (noMember (Or.inl rfl))
          | some value =>
              cases isThis : Decision.isThisMember left with
              | true => exact thisAssignment stands shape found isThis
              | false =>
                  rw [Decision.memberAssignment_run found, isThis]
                  refine ⟨?_, rfl, rfl,
                    marks_linked stands shape found rfl (fun _ => Or.inl) fun _ => id, ?_⟩
                  · simp [Place.decision?, Place.member?, declared, noMember (Or.inr isThis)]
                  · rintro decision ⟨⟩
      | _ =>
          simp only [Decision.memberAssignment, Option.map_some, found]
          exact nothing declared (by simp [Place.memberOf?, Place.thisAssignment?, shape, found])

/-- A value that is described itself stands where nothing else would be recorded. -/
theorem finding?_eq_none_of_value? (program : Node) (part : Place) {outer next : Node}
    {rest : List Node} {decision : Decision} (above : part.above = outer :: next :: rest)
    (inner : outer.shape.isExport = false) (value : part.node.value? = some decision) :
    part.finding? program = none ∧ part.node.shape.isExport = false ∧ decision.node = part.node := by
  have shapes : part.node.shape.isExport = false ∧ Place.memberOf? part.node = none ∧
      decision.node = part.node := by
    unfold Node.value? at value
    split at value
    case h_4 => cases value
    all_goals
      rename_i shape
      cases value
      simp [shape, Shape.isExport, Place.memberOf?, Place.thisAssignment?]
  exact ⟨Place.finding?_eq_none above inner shapes.1 shapes.2.1, shapes.1, shapes.2.2⟩

theorem assignment (stands : Stands scope before place) {left right : Option Node}
    {operator : String} (shape : place.node.shape = .assignment left right operator) :
    Decided scope before place
      ((Decision.topLevelBinding scope .moduleAssignment place.node right).run before) := by
  rcases List.exists_cons_of_ne_nil stands.inside with ⟨next, rest, above⟩
  refine topLevelBinding stands (by simp [Node.declared?, shape]) fun decision bound => ?_
  rcases Option.bind_eq_some_iff.1 bound with ⟨value, rfl, isValue⟩
  rcases finding?_eq_none_of_value? scope.program ⟨value, place.node :: place.above⟩ (by rw [above])
    (by simp [shape, Shape.isExport]) isValue with ⟨noFinding, plain, same⟩
  exact ⟨_, Place.value_mem_places stands.isPlace shape, same.symm, Place.follows_outer _ _ _,
    noFinding, plain⟩

theorem declaration (stands : Stands scope before place) {keyword : String} {first value : Node}
    {others : List Node} (shape : place.node.shape = .variables keyword (first :: others))
    (found : first.initial? = some value) :
    Decided scope before place
      ((Decision.topLevelBinding scope .moduleVariable place.node (some value)).run before) := by
  refine topLevelBinding stands (by simp [Node.declared?, shape, found]) fun decision bound => ?_
  have isValue : value.value? = some decision := bound
  rcases Node.shape_of_initial? found with ⟨id, declarator⟩
  rcases finding?_eq_none_of_value? scope.program ⟨value, first :: place.node :: place.above⟩ rfl
    (by simp [declarator, Shape.isExport]) isValue with ⟨noFinding, plain, same⟩
  exact ⟨_, Place.initial_mem_places stands.isPlace shape found, same.symm,
    Place.follows_declaration _ _ _ (Shape.isDeclarator_of_initial? found), noFinding, plain⟩

theorem ofShape (stands : Stands scope before place) :
    Decided scope before place ((Decision.ofShape scope place.node).run before) := by
  cases shape : place.node.shape with
  | classLike form decorators id superClass body =>
      cases form with
      | declaration =>
          simp only [Decision.ofShape, shape]
          exact topLevel stands (by simp [Node.declared?, shape])
      | expression =>
          simp only [Decision.ofShape, shape]
          exact nothing (by simp [Node.declared?, shape])
            (by simp [Place.memberOf?, Place.thisAssignment?, shape])
  | function form id params body async generator =>
      cases form with
      | declaration =>
          simp only [Decision.ofShape, shape]
          exact topLevel stands (by simp [Node.declared?, shape])
      | expression =>
          simp only [Decision.ofShape, shape]
          cases async with
          | true => exact topLevel stands (by simp [Node.declared?, shape])
          | false =>
              exact nothing (by simp [Node.declared?, shape])
                (by simp [Place.memberOf?, Place.thisAssignment?, shape])
  | arrow params body async generator =>
      simp only [Decision.ofShape, shape]
      exact topLevel stands (by simp [Node.declared?, shape])
  | method decorators key params body kind static computed async generator =>
      simp only [Decision.ofShape, shape]
      exact classScoped stands _ (by simp [Node.declared?, shape]) (by simp [Place.memberOf?, shape])
  | property decorators key value static computed =>
      simp only [Decision.ofShape, shape]
      exact classScoped stands _ (by simp [Node.declared?, shape]) (by simp [Place.memberOf?, shape])
  | expressionStatement expression =>
      simp only [Decision.ofShape, shape]
      exact memberAssignment stands _ shape
  | assignment left right operator =>
      simp only [Decision.ofShape, shape]
      exact assignment stands shape
  | «variables» keyword declarators =>
      cases declarators with
      | nil =>
          simp only [Decision.ofShape, shape]
          exact nothing (by simp [Node.declared?, shape])
            (by simp [Place.memberOf?, Place.thisAssignment?, shape])
      | cons first others =>
          simp only [Decision.ofShape, shape]
          cases found : first.initial? with
          | none =>
              exact nothing (by simp [Node.declared?, shape, found])
                (by simp [Place.memberOf?, Place.thisAssignment?, shape])
          | some value => exact declaration stands shape found
  | _ =>
      simp only [Decision.ofShape, shape]
      exact nothing (by simp [Node.declared?, shape])
        (by simp [Place.memberOf?, Place.thisAssignment?, shape])

end Decided

/-- Without tags that decide, the decision about a place is the expected one. -/
theorem Stands.decide {before : Progress} {place : Place} (stands : Stands scope before place)
    {tags : List Tag} (plain : Decision.ofTags? tags = none) :
    ∃ noted, Decided scope before place (place.decision? scope.program, noted) ∧
      (Decision.decide scope tags place.node).run before = (place.decision? scope.program,
        { noted with classes := noted.classes ++ Decision.classes (place.decision? scope.program) }) := by
  have decided := Decided.ofShape stands
  rw [Decision.decide_run scope place.node plain]
  generalize (Decision.ofShape scope place.node).run before = pair at decided
  rcases pair with ⟨found, noted⟩
  rcases decided.found with rfl
  exact ⟨noted, decided, rfl⟩

end DocHarvest
