import DocHarvest.Proofs.Node.Writable
import DocHarvest.Proofs.Record.Built

/-!
# Builders that cannot fail

Where the tags say nothing, a builder has only the code to go by. It then makes a record of every node of
a program in which integers can be written out and decorators are names, members or calls. Only for a
variable the first declarator matters as well, which has to bind something that can be named.
-/

namespace DocHarvest

namespace Node

/-- A decorator whose expression has a name: an identifier, a member or a call. -/
def isNamedDecorator (decorator : Node) : Bool :=
  match decorator.shape with
  | .decorator (some expression) =>
      match expression.shape with
      | .identifier _ | .member .. | .call .. => true
      | _ => false
  | _ => false

/-- All decorators in a program have names. -/
def HasNamedDecorators (program : Node) : Prop :=
  ∀ node, program.Contains node → ∀ decorator ∈ node.shape.decorators, decorator.isNamedDecorator

/-- A declarator that binds a name, an object pattern with properties, or an array pattern. -/
def bindsName (declarator : Node) : Bool :=
  match declarator.bound?.map Node.shape with
  | some (.identifier _) | some (.objectPattern (_ :: _)) | some (.arrayPattern _) => true
  | _ => false

theorem firstDeclarator?_mem_children {node first : Node} (isFirst : node.firstDeclarator? = some first) :
    first ∈ node.children := by
  unfold firstDeclarator? declarators? at isFirst
  split at isFirst
  · rename_i keyword declarators shape
    rw [children, shape]
    exact List.mem_of_head? isFirst
  · cases isFirst

theorem initial?_subset_children (declarator : Node) :
    declarator.initial?.toList ⊆ declarator.children := by
  intro part isPart
  cases initial : declarator.initial? with
  | none =>
      rw [initial] at isPart
      cases isPart
  | some value =>
      rw [initial, Option.toList_some, List.mem_singleton] at isPart
      rcases shape_of_initial? initial with ⟨id, shape⟩
      simp [children, shape, Shape.children, isPart]

end Node

variable {program : Node}

namespace Decorator

theorem exists_ofNode {decorator : Node} (named : decorator.isNamedDecorator) :
    ∃ made, ofNode decorator = .ok made := by
  unfold Node.isNamedDecorator at named
  split at named <;> rename_i shape
  · rename_i expression
    unfold ofNode ofExpression
    rw [shape]
    dsimp only
    cases shaped : expression.shape with
    | identifier | member | call => exact ⟨_, rfl⟩
    | _ =>
        rw [shaped] at named
        cases named
  · cases named

theorem exists_mapM {nodes : List Node} (each : ∀ node ∈ nodes, ∃ made, ofNode node = .ok made) :
    ∃ made, nodes.mapM ofNode = .ok made := by
  induction nodes with
  | nil => exact ⟨[], rfl⟩
  | cons node rest ih =>
      rw [List.forall_mem_cons] at each
      rcases each.1 with ⟨first, made⟩
      rcases ih each.2 with ⟨others, madeToo⟩
      exact ⟨first :: others, by rw [List.mapM_cons, made, madeToo]; rfl⟩

/-- The decorators of a node can be told. -/
theorem exists_all (named : program.HasNamedDecorators) {node : Node}
    (contained : program.Contains node) : ∃ decorators, all node = .ok decorators := by
  have each : ∀ decorator ∈ node.shape.decorators, ∃ made, ofNode decorator = .ok made :=
    fun decorator isDecorator => exists_ofNode (named node contained decorator isDecorator)
  unfold all
  split
  · exact ⟨none, rfl⟩
  · rcases exists_mapM each with ⟨made, isMade⟩
    exact ⟨some made, by rw [isMade]; rfl⟩

end Decorator

namespace Draft

/-- A draft with no tags but the one that stands in for a missing comment. -/
def IsBare (draft : Draft) : Prop :=
  ∀ tag ∈ draft.tags, tag.name = "@_undocument"

variable {draft : Draft}

namespace IsBare

theorem named_eq_nil (bare : draft.IsBare) {names : List String}
    (others : "@_undocument" ∉ names) : Tag.named names draft.tags = [] := by
  refine List.filter_eq_nil_iff.2 fun tag isTag => ?_
  rw [bare tag isTag]
  simpa using others

theorem paramsOf_eq (bare : draft.IsBare) {tag : String} (other : "@_undocument" ≠ tag)
    (named : Bool) : draft.paramsOf tag named = .ok none := by
  have nothing : Tag.named [tag] draft.tags = [] := bare.named_eq_nil (by simpa using other)
  simp only [paramsOf, values?, Tag.values?, nothing]

theorem lastValue?_eq_none (bare : draft.IsBare) {names : List String}
    (others : "@_undocument" ∉ names) : Tag.lastValue? names draft.tags = none := by
  simp only [Tag.lastValue?, Tag.last?, bare.named_eq_nil others, List.getLast?_nil, Option.map_none]

theorem paramsOr_eq (bare : draft.IsBare) (guess : Except Fault (List Param)) :
    draft.paramsOr guess = guess := by
  unfold paramsOr
  rw [bare.paramsOf_eq (by decide)]
  rfl

theorem resultOr_eq (bare : draft.IsBare) (guess : Except Fault (Option Param)) :
    draft.resultOr guess = guess := by
  unfold resultOr resultOf
  rw [bare.lastValue?_eq_none (by decide)]
  rfl

theorem typeOr_eq (bare : draft.IsBare) (guess : Except Fault (Option Param)) :
    draft.typeOr guess = guess := by
  unfold typeOr typeOf value?
  rw [bare.lastValue?_eq_none (by decide)]
  rfl

end IsBare

/-! ## Parts of nodes -/

variable {node : Node}

theorem contains_paramNodes (contained : program.Contains node) :
    ∀ part ∈ paramNodes node, program.Contains part :=
  fun _ isPart => contained.child (paramNodes_subset_children node isPart)

theorem contains_bodyNode? (contained : program.Contains node) :
    ∀ part ∈ (bodyNode? node).toList, program.Contains part :=
  fun _ isPart => contained.child (bodyNode?_subset_children node isPart)

theorem exists_guessedResult (writable : program.IsWritable) (contained : program.Contains node)
    (noList : node.shape.statements? = none) : ∃ result, guessedResult node = .ok result := by
  unfold guessedResult
  rw [noList]
  exact ⟨_, Param.guessResult_eq_ok writable (contains_bodyNode? contained)⟩

theorem exists_assignedType (writable : program.IsWritable) (contained : program.Contains node) :
    ∃ type, assignedType node = .ok type := by
  unfold assignedType sides?
  cases shape : node.shape with
  | assignment left right operator =>
      dsimp only
      rw [Param.guessType_eq_ok writable]
      · exact ⟨_, rfl⟩
      · exact fun part isPart =>
          Param.contains_children contained shape part (by simp [Shape.children, isPart])
  | _ => exact ⟨none, rfl⟩

theorem exists_memberName (writable : program.IsWritable) {key : Option Node}
    (contained : ∀ part ∈ key.toList, program.Contains part) (computed : Bool) :
    ∃ name, memberName key computed = .ok name := by
  unfold memberName
  split
  · exact ⟨_, rfl⟩
  · rw [if_pos (Param.keyIsWritable_of_contains writable contained)]
    exact ⟨_, rfl⟩

theorem exists_methodName (writable : program.IsWritable) (contained : program.Contains node) :
    ∃ name, methodName node = .ok name := by
  unfold methodName
  split
  · rename_i decorators key params body kind static computed async generator shape
    refine exists_memberName writable (fun part isPart => ?_) computed
    exact Param.contains_children contained shape part (by simp [Shape.children, isPart])
  · exact ⟨none, rfl⟩

theorem exists_bindingName {declarator : Node} (bound : declarator.bindsName) :
    ∃ name, bindingName declarator.bound? = .ok name := by
  unfold Node.bindsName at bound
  cases given : declarator.bound? with
  | none =>
      rw [given] at bound
      cases bound
  | some pattern =>
      rw [given, Option.map_some] at bound
      unfold bindingName
      dsimp only
      split at bound
      · rename_i name shape
        exact ⟨some name, by rw [Option.some.inj shape]⟩
      · rename_i first rest shape
        exact ⟨_, by rw [Option.some.inj shape]⟩
      · rename_i elements shape
        exact ⟨_, by rw [Option.some.inj shape]⟩
      · cases bound

/-! ## Builders -/

section Builders

variable (bare : draft.IsBare) (writable : program.IsWritable)
  (contained : program.Contains draft.node)

include contained

theorem exists_moduleClass (named : program.HasNamedDecorators) :
    ∃ doc, draft.moduleClass = .ok doc := by
  rcases Decorator.exists_all named contained with ⟨decorators, told⟩
  unfold moduleClass
  rw [told]
  exact ⟨_, rfl⟩

include bare writable

theorem exists_moduleFunction (noList : draft.node.shape.statements? = none) :
    ∃ doc, draft.moduleFunction = .ok doc := by
  rcases exists_guessedResult writable contained noList with ⟨result, guessed⟩
  unfold moduleFunction
  rw [bare.paramsOr_eq, bare.resultOr_eq, guessed, bare.paramsOf_eq (by decide),
    bare.paramsOf_eq (by decide), bare.paramsOf_eq (by decide),
    Param.guess_eq_ok writable (contains_paramNodes contained)]
  exact ⟨_, rfl⟩

theorem exists_moduleVariable {first : Node} (isFirst : draft.node.firstDeclarator? = some first)
    (bound : first.bindsName) : ∃ doc, draft.moduleVariable = .ok doc := by
  have isDeclarator := contained.child (Node.firstDeclarator?_mem_children isFirst)
  have typed : ∃ type, draft.variableType first.initial? = .ok type := by
    unfold variableType
    split
    · exact ⟨_, rfl⟩
    · refine ⟨_, Param.guessType_eq_ok writable fun part isPart => ?_⟩
      exact isDeclarator.child (Node.initial?_subset_children first isPart)
  rcases exists_bindingName bound with ⟨name, isName⟩
  rcases typed with ⟨type, isType⟩
  unfold moduleVariable
  rw [isFirst]
  dsimp only
  rw [isName, bare.typeOr_eq, isType]
  exact ⟨_, rfl⟩

theorem exists_moduleAssignment : ∃ doc, draft.moduleAssignment = .ok doc := by
  rcases exists_assignedType writable contained with ⟨type, guessed⟩
  unfold moduleAssignment
  rw [bare.typeOr_eq, guessed]
  exact ⟨_, rfl⟩

theorem exists_classMember : ∃ doc, draft.classMember = .ok doc := by
  rcases exists_assignedType writable contained with ⟨type, guessed⟩
  unfold classMember
  rw [bare.typeOr_eq, guessed]
  exact ⟨_, rfl⟩

theorem exists_classProperty (named : program.HasNamedDecorators) :
    ∃ doc, draft.classProperty = .ok doc := by
  rcases Decorator.exists_all named contained with ⟨decorators, told⟩
  have parts : ∃ name type, propertyParts draft.node = (.ok name, .ok type) := by
    unfold propertyParts
    split
    · rename_i others key value static computed shape
      have inside := Param.contains_children contained shape
      have ofKey : ∀ part ∈ key.toList, program.Contains part :=
        fun part isPart => inside part (by simp [Shape.children, isPart])
      have ofValue : ∀ part ∈ value.toList, program.Contains part :=
        fun part isPart => inside part (by simp [Shape.children, isPart])
      rcases exists_memberName writable ofKey computed with ⟨name, isName⟩
      rw [isName, Param.guessType_eq_ok writable ofValue]
      exact ⟨name, _, rfl⟩
    · exact ⟨none, none, rfl⟩
  rcases parts with ⟨name, type, same⟩
  unfold classProperty
  rw [same]
  dsimp only
  rw [bare.typeOr_eq, told]
  exact ⟨_, rfl⟩

theorem exists_methodParams : ∃ params, draft.methodParams = .ok params := by
  unfold methodParams
  split
  · exact ⟨none, bare.paramsOf_eq (by decide) true⟩
  · rw [bare.paramsOr_eq, Param.guess_eq_ok writable (contains_paramNodes contained)]
    exact ⟨_, rfl⟩

theorem exists_classMethod (named : program.HasNamedDecorators)
    (noList : draft.node.shape.statements? = none) : ∃ doc, draft.classMethod = .ok doc := by
  have ofBody := exists_guessedResult writable contained noList
  have result : ∃ result, methodResult draft.node = .ok result := by
    unfold methodResult
    cases methodKindOf draft.node with
    | constructor | getter | setter => exact ⟨none, rfl⟩
    | method => exact ofBody
    | other name => exact ofBody
  have type : ∃ type, accessorType draft.node = .ok type := by
    unfold accessorType
    cases methodKindOf draft.node with
    | getter => exact ⟨_, Param.guessResult_eq_ok writable (contains_bodyNode? contained)⟩
    | setter => exact ⟨_, rfl⟩
    | constructor | method => exact ⟨none, rfl⟩
    | other name => exact ⟨none, rfl⟩
  rcases exists_methodName writable contained with ⟨name, isName⟩
  rcases exists_methodParams bare writable contained with ⟨params, areParams⟩
  rcases result with ⟨result, isResult⟩
  rcases type with ⟨type, isType⟩
  rcases Decorator.exists_all named contained with ⟨decorators, told⟩
  unfold classMethod
  rw [isName, areParams, bare.resultOr_eq, isResult, bare.typeOr_eq, isType,
    bare.paramsOf_eq (by decide), bare.paramsOf_eq (by decide), bare.paramsOf_eq (by decide), told]
  exact ⟨_, rfl⟩

/-- A record of code that no comment documents is always made. -/
theorem exists_build (named : program.HasNamedDecorators)
    (noList : draft.node.shape.statements? = none) {category : Category}
    (isCode : category.isCode) (binds : category = .moduleVariable →
      ∃ first, draft.node.firstDeclarator? = some first ∧ first.bindsName) :
    ∃ doc, draft.build category = .ok doc := by
  cases category with
  | moduleClass => exact exists_moduleClass contained named
  | moduleFunction => exact exists_moduleFunction bare writable contained noList
  | moduleVariable =>
      rcases binds rfl with ⟨first, isFirst, bound⟩
      exact exists_moduleVariable bare writable contained isFirst bound
  | moduleAssignment => exact exists_moduleAssignment bare writable contained
  | classMethod => exact exists_classMethod bare writable contained named noList
  | classMember => exact exists_classMember bare writable contained
  | classProperty => exact exists_classProperty bare writable contained named
  | _ => cases isCode

end Builders

end Draft

end DocHarvest
