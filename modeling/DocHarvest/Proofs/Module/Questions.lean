import DocHarvest.Proofs.Module.Traces

/-!
# Questions about the nodes above a node

Deciding about a node and building its record ask for the nodes above it, and the table of parents
answers with the chain that it has at this moment. The questions are the events of a run, each put to the
table as it is when the question is asked. No question is left out: what a decision or a record comes to
depends on the table of parents through the parent of its node and the answers alone.
-/

namespace DocHarvest

open Run

/-- A question about the nodes above a node, put to a table of parents. -/
structure Question where
  links : Links
  node : Node

/-- The chain that answers a question. -/
def Question.answer (question : Question) : List Node :=
  question.links.ancestors question.node.id

/-- What a step asks, by the state in which it starts. -/
abbrev Questions := Trace Question

/--
An outcome depends on the table of parents through two things: the parent of a node and the answers to
the questions that are asked.
-/
def Questions.Suffice {α : Type} (asked : Questions) (node : Node) (outcome : Progress → α) : Prop :=
  ∀ before other : Progress, other.links.parentOf node.id = before.links.parentOf node.id →
    other.links.names = before.links.names → other.classes = before.classes →
    (asked other).map Question.answer = (asked before).map Question.answer →
    outcome other = outcome before

/-! ## The questions of a decision -/

namespace Decision

/-- What is asked where the shape of a node decides. -/
def shapeQuestions (node : Node) : Questions := fun before =>
  match node.shape with
  | .method .. | .property .. => [⟨before.links, node⟩]
  | .expressionStatement (some assignment) =>
      match assignment.shape with
      | .assignment left (some _) _ =>
          if isThisMember left then [⟨(linked before node assignment).links, assignment⟩] else []
      | _ => []
  | _ => []

/-- What is asked to decide about a node; nothing is asked if its tags decide. -/
def questions (tags : List Tag) (node : Node) : Questions :=
  if (ofTags? tags).isSome then .nothing else shapeQuestions node

variable {scope : Scope} {node : Node} {before other : Progress}

theorem isTopLevel_congr (parent : other.links.parentOf node.id = before.links.parentOf node.id) :
    scope.isTopLevel other.links node = scope.isTopLevel before.links node := by
  simp only [Scope.isTopLevel, parent]

theorem topLevel_congr {category : Category}
    (parent : other.links.parentOf node.id = before.links.parentOf node.id) :
    ((topLevel scope category node).run other).1 = ((topLevel scope category node).run before).1 := by
  rw [topLevel_run, topLevel_run, isTopLevel_congr parent]

theorem topLevelBinding_congr {category : Category} {value : Option Node}
    (parent : other.links.parentOf node.id = before.links.parentOf node.id) :
    ((topLevelBinding scope category node value).run other).1 =
      ((topLevelBinding scope category node value).run before).1 := by
  rw [topLevelBinding_run, topLevelBinding_run, isTopLevel_congr parent]
  cases scope.isTopLevel before.links node with
  | false => rfl
  | true =>
      simp only [if_true, binding_run]
      cases value.bind Node.value? <;> rfl

theorem classScoped_congr {category : Category} {what : String}
    (classes : other.classes = before.classes)
    (chain : other.links.ancestors node.id = before.links.ancestors node.id) :
    ((classScoped category what node).run other).1 =
      ((classScoped category what node).run before).1 := by
  have found : Scope.isClassProcessed other (other.links.findUp? node.id Shape.isClass) =
      Scope.isClassProcessed before (before.links.findUp? node.id Shape.isClass) := by
    simp only [Links.findUp?, chain, Scope.isClassProcessed, classes]
  rw [classScoped_run, classScoped_run, found]
  cases Scope.isClassProcessed before (before.links.findUp? node.id Shape.isClass) <;> rfl

theorem memberAssignment_congr {assignment value : Node} {left : Option Node} {operator : String}
    (shape : assignment.shape = .assignment left (some value) operator)
    (classes : other.classes = before.classes)
    (chain : isThisMember left →
      (linked other node assignment).links.ancestors assignment.id =
        (linked before node assignment).links.ancestors assignment.id) :
    ((memberAssignment node (some assignment)).run other).1 =
      ((memberAssignment node (some assignment)).run before).1 := by
  rw [memberAssignment_run shape, memberAssignment_run shape]
  cases isThis : isThisMember left with
  | false => rfl
  | true =>
      simp only [if_true, Links.findUp?, chain isThis]
      cases ((linked before node assignment).links.ancestors assignment.id).find? fun ancestor =>
          ancestor.shape.isClass with
      | none => rfl
      | some classNode =>
          have processed : Scope.isClassProcessed (linked other node assignment) (some classNode) =
              Scope.isClassProcessed (linked before node assignment) (some classNode) := by
            simp only [Scope.isClassProcessed, linked, classes]
          simp only [processed]
          cases Scope.isClassProcessed (linked before node assignment) (some classNode) <;> rfl

theorem ofShape_congr (parent : other.links.parentOf node.id = before.links.parentOf node.id)
    (classes : other.classes = before.classes)
    (answers : (shapeQuestions node other).map Question.answer =
      (shapeQuestions node before).map Question.answer) :
    ((ofShape scope node).run other).1 = ((ofShape scope node).run before).1 := by
  unfold shapeQuestions at answers
  unfold ofShape
  split
  case h_1 => exact topLevel_congr parent
  case h_2 shape | h_3 shape =>
    rw [shape] at answers
    exact classScoped_congr classes (List.cons.inj answers).1
  case h_4 expression shape =>
    rw [shape] at answers
    cases expression with
    | none => rfl
    | some assignment =>
        cases assigns : assignment.shape with
        | assignment left value operator =>
            cases value with
            | none =>
                simp only [memberAssignment, Option.map_some, assigns]
                rfl
            | some value =>
                refine memberAssignment_congr assigns classes fun isThis => ?_
                simp only [assigns, if_pos isThis] at answers
                exact (List.cons.inj answers).1
        | _ =>
            simp only [memberAssignment, Option.map_some, assigns]
            rfl
  case h_5 | h_7 => exact topLevel_congr parent
  case h_6 =>
    split
    · exact topLevel_congr parent
    · rfl
  case h_8 => exact topLevelBinding_congr parent
  case h_9 =>
    split
    · exact topLevelBinding_congr parent
    · rfl
  case h_10 => rfl

/-- Whatever is decided about a node, the questions are all that the decision looks at. -/
theorem questions_suffice (scope : Scope) (tags : List Tag) (node : Node) :
    (questions tags node).Suffice node fun state => ((decide scope tags node).run state).1 := by
  intro before other parent names classes answers
  dsimp only
  cases tagged : ofTags? tags with
  | some category => rw [decide_tagged scope node tagged, decide_tagged scope node tagged]
  | none =>
      rw [decide_run scope node tagged, decide_run scope node tagged]
      refine ofShape_congr parent classes ?_
      simpa [questions, tagged] using answers

end Decision

/-! ## The questions of a record -/

/-- Whether building a record of a category asks for the nodes above the node. -/
def Category.asks : Category → Bool
  | .file | .memory | .testFile | .module | .virtualExternal => false
  | _ => true

namespace Draft

variable {scope : Scope} {links other : Links} {id : Int} {node : Node} {tags : List Tag}

theorem moduleDoc_congr (chain : other.ancestors node.id = links.ancestors node.id)
    (category : Category) (name : Option String) :
    moduleDoc ⟨scope, other, id, node, tags⟩ category name =
      moduleDoc ⟨scope, links, id, node, tags⟩ category name := by
  simp only [moduleDoc, exportStyle?, chain]
  rfl

theorem classMemberof_congr (names : other.names = links.names)
    (chain : other.ancestors node.id = links.ancestors node.id) :
    classMemberof ⟨scope, other, id, node, tags⟩ = classMemberof ⟨scope, links, id, node, tags⟩ := by
  simp only [classMemberof, Links.findUp?, chain, names]

theorem isAssignedStatic_congr (chain : other.ancestors node.id = links.ancestors node.id) :
    isAssignedStatic ⟨scope, other, id, node, tags⟩ =
      isAssignedStatic ⟨scope, links, id, node, tags⟩ := by
  simp only [isAssignedStatic, Links.findUp?, chain]

theorem typedefMemberof_congr (chain : other.ancestors node.id = links.ancestors node.id) :
    typedefMemberof ⟨scope, other, id, node, tags⟩ =
      typedefMemberof ⟨scope, links, id, node, tags⟩ := by
  simp only [typedefMemberof, Links.findUp?, chain]

theorem enclosingBlocks_congr (names : other.names = links.names)
    (chain : other.ancestors node.id = links.ancestors node.id) :
    enclosingBlocks ⟨scope, other, id, node, tags⟩ =
      enclosingBlocks ⟨scope, links, id, node, tags⟩ := by
  simp only [enclosingBlocks, chain, names]

theorem classNameOf_congr (parent : other.parentOf node.id = links.parentOf node.id) :
    classNameOf scope other node = classNameOf scope links node := by
  simp only [classNameOf, parent]

theorem functionName_congr (parent : other.parentOf node.id = links.parentOf node.id) :
    functionName ⟨scope, other, id, node, tags⟩ = functionName ⟨scope, links, id, node, tags⟩ := by
  simp only [functionName, parent]

theorem build_congr {category : Category} (names : other.names = links.names)
    (parent : other.parentOf node.id = links.parentOf node.id)
    (chain : category.asks → other.ancestors node.id = links.ancestors node.id) :
    build ⟨scope, other, id, node, tags⟩ category =
      build ⟨scope, links, id, node, tags⟩ category := by
  cases category with
  | file | memory | testFile | module | virtualExternal => rfl
  | moduleClass =>
      simp only [build, moduleClass, moduleDoc_congr (chain rfl), classNameOf_congr parent]
      rfl
  | moduleFunction =>
      simp only [build, moduleFunction, moduleDoc_congr (chain rfl), functionName_congr parent]
      rfl
  | moduleVariable =>
      simp only [build, moduleVariable, moduleDoc_congr (chain rfl)]
      rfl
  | moduleAssignment =>
      simp only [build, moduleAssignment, moduleDoc_congr (chain rfl)]
      rfl
  | classMethod =>
      simp only [build, classMethod, classMemberof_congr names (chain rfl)]
      rfl
  | classMember =>
      simp only [build, classMember, classMemberof_congr names (chain rfl),
        isAssignedStatic_congr (chain rfl)]
      rfl
  | classProperty =>
      simp only [build, classProperty, classMemberof_congr names (chain rfl)]
      rfl
  | virtualTypedef =>
      simp only [build, typedef, typedefMemberof_congr (chain rfl)]
      rfl
  | test =>
      simp only [build, testBlock, blockMemberof, enclosingBlocks_congr names (chain rfl), names]
      rfl

end Draft

namespace Run

def buildQuestions (scope : Scope) (category : Category) (node : Node) : Questions := fun before =>
  if category.asks then [⟨before.links.naming scope category node, node⟩] else []

/-- Whatever record is built, the questions are all that it looks at. -/
theorem buildQuestions_suffice (scope : Scope) (id : Int) (category : Category) (node : Node)
    (tags : List Tag) : (buildQuestions scope category node).Suffice node fun state =>
      ((build scope id category node tags).run.run state).1 := by
  intro before other parent names classes answers
  dsimp only
  rcases ended : (build scope id category node tags).run.run before with ⟨outcome, after⟩
  rcases endedToo : (build scope id category node tags).run.run other with ⟨outcomeToo, afterToo⟩
  rcases ends_build ended with ⟨messages, rfl, rfl⟩
  rcases ends_build endedToo with ⟨messagesToo, rfl, rfl⟩
  have sameNames : (other.links.naming scope category node).names =
      (before.links.naming scope category node).names := by
    unfold Links.naming
    split
    · simp only [Links.setName, names, Draft.classNameOf_congr parent]
    · exact names
  have sameParent : (other.links.naming scope category node).parentOf node.id =
      (before.links.naming scope category node).parentOf node.id := by
    simpa only [Links.parentOf, Links.parents_naming] using parent
  refine Draft.build_congr sameNames sameParent fun asks => ?_
  simp only [buildQuestions, if_pos asks] at answers
  exact (List.cons.inj answers).1

end Run

/-- The questions of decisions and of records. -/
def Question.watch : Watch Question where
  decision := Decision.questions
  record scope _ category node _ := buildQuestions scope category node

/-- Everything that is asked while a module is documented. -/
def Module.generateQuestions (scope : Scope) : Questions :=
  generateTrace Question.watch scope

end DocHarvest
