import DocHarvest.Proofs.Record.Built
import DocHarvest.Workspace

/-!
# Faults of builders

A builder fails over the tags or the shape of what it describes, or because the text of the file
cannot be read. It never finds fault with the id of a record: only the store does that.
-/

namespace DocHarvest

/-- A result that does not complain that an id is already stored. -/
def AcceptsId {α : Type} (id : Int) (result : Except Fault α) : Prop :=
  result ≠ .error (.duplicateId id)

namespace AcceptsId

variable {α β : Type} {id : Int}

theorem ok (value : α) : AcceptsId id (.ok value : Except Fault α) := by
  intro same
  cases same

theorem error {fault : Fault} (other : fault ≠ .duplicateId id) :
    AcceptsId id (.error fault : Except Fault α) := by
  intro same
  cases same
  exact other rfl

theorem bind {result : Except Fault α} {next : α → Except Fault β} (first : AcceptsId id result)
    (second : ∀ value, AcceptsId id (next value)) : AcceptsId id (result >>= next) := by
  cases result with
  | error fault => exact fun same => first (by cases same; rfl)
  | ok value => exact second value

theorem map {result : Except Fault α} (change : α → β) (accepts : AcceptsId id result) :
    AcceptsId id (change <$> result) := by
  cases result with
  | error fault => exact fun same => accepts (by cases same; rfl)
  | ok value => exact ok _

theorem mapM {make : α → Except Fault β} (accepts : ∀ part, AcceptsId id (make part))
    (parts : List α) : AcceptsId id (parts.mapM make) := by
  induction parts with
  | nil => exact ok []
  | cons part parts ih =>
      rw [List.mapM_cons]
      exact (accepts part).bind fun value => ih.bind fun values => ok _

end AcceptsId

namespace Param

variable {id : Int}

theorem ofParts_acceptsId (type name description : Option String) :
    AcceptsId id (ofParts type name description) := by
  simp only [ofParts]
  split
  · exact AcceptsId.error (by simp)
  · exact AcceptsId.ok _

theorem parse_acceptsId (wanted : Wanted) (value : String) : AcceptsId id (parse wanted value) :=
  ofParts_acceptsId _ _ _

theorem guess_acceptsId (nodes : List Node) : AcceptsId id (guess nodes) := by
  unfold guess
  split
  · exact AcceptsId.ok _
  · exact AcceptsId.error (by simp)

theorem guessType_acceptsId (expression : Option Node) : AcceptsId id (guessType expression) := by
  unfold guessType
  split
  · exact AcceptsId.ok _
  · exact AcceptsId.error (by simp)

theorem guessResult_acceptsId (body : Option Node) : AcceptsId id (guessResult body) := by
  simp only [guessResult]
  split
  · exact AcceptsId.ok _
  · exact AcceptsId.error (by simp)

end Param

namespace Decorator

variable {id : Int}

theorem ofNode_acceptsId (node : Node) : AcceptsId id (ofNode node) := by
  unfold ofNode ofExpression
  split
  · split
    · exact AcceptsId.error (by simp)
    · split
      · exact AcceptsId.ok _
      · exact AcceptsId.ok _
      · exact AcceptsId.ok _
      · exact AcceptsId.error (by simp)
  · exact AcceptsId.error (by simp)

theorem all_acceptsId (node : Node) : AcceptsId id (all node) := by
  unfold all
  split
  · exact AcceptsId.ok _
  · exact (AcceptsId.mapM ofNode_acceptsId _).map some

end Decorator

namespace Draft

variable (draft : Draft) {id : Int}

theorem paramsOf_acceptsId (tag : String) (named : Bool) :
    AcceptsId id (draft.paramsOf tag named) := by
  unfold paramsOf
  split
  · exact AcceptsId.ok _
  · exact (AcceptsId.mapM (Param.parse_acceptsId _) _).map some

theorem paramsOr_acceptsId {guess : Except Fault (List Param)} (accepts : AcceptsId id guess) :
    AcceptsId id (draft.paramsOr guess) := by
  refine (draft.paramsOf_acceptsId "@param" true).bind fun params => ?_
  cases params with
  | none => exact accepts
  | some params => exact AcceptsId.ok _

theorem resultOr_acceptsId {guess : Except Fault (Option Param)} (accepts : AcceptsId id guess) :
    AcceptsId id (draft.resultOr guess) := by
  have tagged : AcceptsId id draft.resultOf := by
    unfold resultOf
    split
    · exact AcceptsId.ok _
    · exact (Param.parse_acceptsId _ _).map some
  refine tagged.bind fun result => ?_
  cases result with
  | none => exact accepts
  | some result => exact AcceptsId.ok _

theorem typeOr_acceptsId {guess : Except Fault (Option Param)} (accepts : AcceptsId id guess) :
    AcceptsId id (draft.typeOr guess) := by
  have tagged : AcceptsId id draft.typeOf := by
    unfold typeOf
    split
    · exact AcceptsId.ok _
    · exact (Param.parse_acceptsId _ _).map some
  refine tagged.bind fun type => ?_
  cases type with
  | none => exact accepts
  | some type => exact AcceptsId.ok _

theorem guessedResult_acceptsId (node : Node) : AcceptsId id (guessedResult node) := by
  unfold guessedResult
  split
  · exact AcceptsId.error (by simp)
  · exact Param.guessResult_acceptsId _

theorem assignedType_acceptsId (node : Node) : AcceptsId id (assignedType node) := by
  unfold assignedType
  split
  · exact (Param.guessType_acceptsId _).map some
  · exact AcceptsId.ok _

theorem memberName_acceptsId (key : Option Node) (computed : Bool) :
    AcceptsId id (memberName key computed) := by
  unfold memberName
  split
  · exact AcceptsId.ok _
  · split
    · exact AcceptsId.ok _
    · exact AcceptsId.error (by simp)

theorem moduleClass_acceptsId : AcceptsId id draft.moduleClass :=
  (Decorator.all_acceptsId _).bind fun _ => AcceptsId.ok _

theorem moduleFunction_acceptsId : AcceptsId id draft.moduleFunction := by
  refine (draft.paramsOr_acceptsId (Param.guess_acceptsId _)).bind fun _ => ?_
  refine (draft.resultOr_acceptsId (guessedResult_acceptsId _)).bind fun _ => ?_
  refine (draft.paramsOf_acceptsId _ _).bind fun _ => ?_
  refine (draft.paramsOf_acceptsId _ _).bind fun _ => ?_
  exact (draft.paramsOf_acceptsId _ _).bind fun _ => AcceptsId.ok _

theorem moduleVariable_acceptsId : AcceptsId id draft.moduleVariable := by
  unfold moduleVariable
  split
  · exact AcceptsId.error (by simp)
  · rename_i declarator found
    have named : AcceptsId id (bindingName declarator.bound?) := by
      unfold bindingName
      split
      · exact AcceptsId.error (by simp)
      · split
        · exact AcceptsId.ok _
        · exact AcceptsId.ok _
        · exact AcceptsId.ok _
        · exact AcceptsId.error (by simp)
    have guessed : AcceptsId id (draft.variableType declarator.initial?) := by
      unfold variableType
      split
      · exact AcceptsId.ok _
      · exact Param.guessType_acceptsId _
    exact named.bind fun _ =>
      (draft.typeOr_acceptsId (guessed.map some)).bind fun _ => AcceptsId.ok _

theorem classMethod_acceptsId : AcceptsId id draft.classMethod := by
  have named : AcceptsId id (methodName draft.node) := by
    unfold methodName
    split
    · exact memberName_acceptsId _ _
    · exact AcceptsId.ok _
  have params : AcceptsId id draft.methodParams := by
    unfold methodParams
    split
    · exact draft.paramsOf_acceptsId _ _
    · exact (draft.paramsOr_acceptsId (Param.guess_acceptsId _)).map some
  have result : AcceptsId id (methodResult draft.node) := by
    unfold methodResult
    cases methodKindOf draft.node with
    | constructor => exact AcceptsId.ok _
    | method => exact guessedResult_acceptsId _
    | getter => exact AcceptsId.ok _
    | setter => exact AcceptsId.ok _
    | other name => exact guessedResult_acceptsId _
  have type : AcceptsId id (accessorType draft.node) := by
    unfold accessorType
    cases methodKindOf draft.node with
    | constructor => exact AcceptsId.ok _
    | method => exact AcceptsId.ok _
    | getter => exact Param.guessResult_acceptsId _
    | setter => exact AcceptsId.ok _
    | other name => exact AcceptsId.ok _
  refine named.bind fun _ => params.bind fun _ => ?_
  refine (draft.resultOr_acceptsId result).bind fun _ => ?_
  refine (draft.typeOr_acceptsId type).bind fun _ => ?_
  refine (draft.paramsOf_acceptsId _ _).bind fun _ => ?_
  refine (draft.paramsOf_acceptsId _ _).bind fun _ => ?_
  refine (draft.paramsOf_acceptsId _ _).bind fun _ => ?_
  exact (Decorator.all_acceptsId _).bind fun _ => AcceptsId.ok _

theorem classProperty_acceptsId : AcceptsId id draft.classProperty := by
  have parts : AcceptsId id (propertyParts draft.node).1 ∧ AcceptsId id (propertyParts draft.node).2 := by
    unfold propertyParts
    split
    · exact ⟨memberName_acceptsId _ _, (Param.guessType_acceptsId _).map some⟩
    · exact ⟨AcceptsId.ok _, AcceptsId.ok _⟩
  refine parts.1.bind fun _ => (draft.typeOr_acceptsId parts.2).bind fun _ => ?_
  exact (Decorator.all_acceptsId _).bind fun _ => AcceptsId.ok _

theorem typedef_acceptsId : AcceptsId id draft.typedef := by
  simp only [typedef]
  split
  · exact (AcceptsId.ok _).bind fun _ =>
      (draft.paramsOf_acceptsId _ _).bind fun _ => AcceptsId.ok _
  · exact ((Param.ofParts_acceptsId _ _ _).map some).bind fun _ =>
      (draft.paramsOf_acceptsId _ _).bind fun _ => AcceptsId.ok _

/-- A builder complains about an id only if that is what reading the file came to. -/
theorem build_acceptsId (category : Category) (readable : AcceptsId id draft.scope.fileText) :
    AcceptsId id (draft.build category) := by
  have file (category : Category) : AcceptsId id (draft.file category) :=
    readable.bind fun _ => AcceptsId.ok _
  cases category with
  | file => exact file _
  | memory => exact AcceptsId.ok _
  | testFile =>
      simp only [build, testFile]
      split
      · exact AcceptsId.ok _
      · exact file _
  | module => exact AcceptsId.error (by simp)
  | moduleClass => exact draft.moduleClass_acceptsId
  | moduleFunction => exact draft.moduleFunction_acceptsId
  | moduleVariable => exact draft.moduleVariable_acceptsId
  | moduleAssignment =>
      exact (draft.typeOr_acceptsId (assignedType_acceptsId _)).bind fun _ => AcceptsId.ok _
  | classMethod => exact draft.classMethod_acceptsId
  | classMember =>
      exact (draft.typeOr_acceptsId (assignedType_acceptsId _)).bind fun _ => AcceptsId.ok _
  | classProperty => exact draft.classProperty_acceptsId
  | virtualTypedef => exact draft.typedef_acceptsId
  | virtualExternal => exact AcceptsId.ok _
  | test =>
      have kind : AcceptsId id (blockKind draft.node) := by
        simp only [blockKind]
        split
        · exact AcceptsId.ok _
        · split
          · exact AcceptsId.ok _
          · exact AcceptsId.error (by simp)
      exact kind.bind fun _ => AcceptsId.ok _

end Draft

theorem Workspace.text?_acceptsId (workspace : Workspace) (path : Path) (id : Int) :
    AcceptsId id (workspace.text? path) := by
  unfold text?
  split
  · refine AcceptsId.map some ?_
    unfold textOf
    split
    · exact AcceptsId.error (by simp)
    · exact AcceptsId.ok _
  · exact AcceptsId.ok _
  · exact AcceptsId.error (by simp)
  · exact AcceptsId.ok _

end DocHarvest
