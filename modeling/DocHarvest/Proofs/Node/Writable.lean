import DocHarvest.Proofs.Module.Origins
import DocHarvest.Proofs.Param.Default
import DocHarvest.Proofs.Param.Returns
import DocHarvest.Proofs.Value.Plain

/-!
# Programs whose integers can be written out

Guessing what a program says about a parameter, a result or a value only fails over an integer with too
many digits to be shown. All that a guess shows are literals of the program, the arguments of the
`return`s in a body included, so nothing fails where every literal of the program can be written out.
-/

namespace DocHarvest

/-- Every literal of a program can be written out. -/
def Node.IsWritable (program : Node) : Prop :=
  ∀ node, program.Contains node → ∀ value, node.literal? = some value → value.isWritable

namespace Param

variable {program node : Node}

/-- The parts of a node of the program, by its shape. -/
theorem contains_children {shape : Shape Node} (contained : program.Contains node)
    (same : node.shape = shape) : ∀ part ∈ shape.children, program.Contains part := by
  rintro part isPart
  refine contained.child ?_
  rw [Node.children, same]
  exact isPart

theorem composes_writable (writable : program.IsWritable) :
    Composes program.Contains fun value => value.isWritable = true where
  literal contained isLiteral := writable _ contained _ isLiteral
  part contained isPart := contained.child isPart
  null := rfl
  text _ := rfl
  list all := Value.areWritable_iff.2 all
  empty := rfl
  set := by
    intro known value all isWritable name
    have kept : ∀ member ∈ Value.setMember name value known, member.2.isWritable = true :=
      @Value.forall_setMember _ _ _ _ (fun value : Value => value.isWritable = true) isWritable
        (Value.membersAreWritable_iff.1 all)
    exact Value.membersAreWritable_iff.2 kept

/-- The key of a property or method is a part of it. -/
theorem contains_keyOf? (contained : program.Contains node) :
    ∀ key ∈ (keyOf? node).toList, program.Contains key := by
  intro key isKey
  refine contained.child ?_
  unfold keyOf? at isKey
  unfold Node.children
  split at isKey <;> simp_all [Shape.children]

theorem keyIsWritable_of_contains (writable : program.IsWritable) {key : Option Node}
    (contained : ∀ node ∈ key.toList, program.Contains node) : keyIsWritable key = true :=
  (composes_writable writable).literalValue fun node same => contained node (by simp [same])

/-! ## Parameters -/

theorem patternKeys_areWritable (writable : program.IsWritable) {left : Option Node}
    (contained : ∀ node ∈ left.toList, program.Contains node) :
    (patternKeys left).all keyIsWritable = true := by
  unfold patternKeys
  split
  · rename_i properties shape
    rcases Option.map_eq_some_iff.1 shape with ⟨pattern, rfl, shaped⟩
    simp only [List.all_map, List.all_eq_true, Function.comp_apply]
    intro property isProperty
    have inside := contains_children (contained pattern (by simp)) shaped property isProperty
    exact keyIsWritable_of_contains writable (contains_keyOf? inside)
  · rfl

theorem propertyKeys_areWritable (writable : program.IsWritable) {properties : List Node}
    (contained : ∀ property ∈ properties, program.Contains property) :
    (properties.map propertyKey?).all keyIsWritable = true := by
  simp only [List.all_map, List.all_eq_true, Function.comp_apply]
  intro property isProperty
  unfold propertyKey?
  split
  · rename_i key value computed shape
    refine keyIsWritable_of_contains writable fun node isKey => ?_
    exact contains_children (contained property isProperty) shape node (by simp [Shape.children, isKey])
  · rfl

theorem defaultIsWritable_of_contains (writable : program.IsWritable) {left right : Option Node}
    (ofLeft : ∀ node ∈ left.toList, program.Contains node)
    (ofRight : ∀ node ∈ right.toList, program.Contains node) :
    defaultIsWritable left right = true := by
  have start : ({} : Param).defaultValue.isWritable = true := rfl
  have default : (withDefault left right {}).defaultValue.isWritable = true :=
    (composes_writable writable).withDefault (fun node same => ofRight node (by simp [same])) start
  unfold defaultIsWritable
  rw [default, Bool.and_true]
  split
  · rename_i properties shape
    rcases Option.map_eq_some_iff.1 shape with ⟨node, rfl, shaped⟩
    have inside := contains_children (ofRight node (by simp)) shaped
    rw [List.all_append, patternKeys_areWritable writable ofLeft, Bool.true_and]
    exact propertyKeys_areWritable writable inside
  · rfl

theorem elementDefault?_isWritable (writable : program.IsWritable) {element : Node}
    (contained : program.Contains element) {value : Value}
    (found : elementDefault? element = some value) : value.isWritable = true := by
  unfold elementDefault? at found
  split at found
  · rename_i left right shape
    have inside := contains_children contained shape right (by simp [Shape.children])
    exact writable right inside value found
  · cases found

theorem isWritableParam_of_contains (writable : program.IsWritable)
    (contained : program.Contains node) : isWritableParam node = true := by
  unfold isWritableParam
  split <;> rename_i shape
  · refine defaultIsWritable_of_contains writable ?_ ?_
    · exact fun part isPart => contains_children contained shape part (by simp [Shape.children, isPart])
    · exact fun part isPart => contains_children contained shape part (by simp [Shape.children, isPart])
  · refine List.all_eq_true.2 fun property isProperty => ?_
    have inside := contains_children contained shape property isProperty
    exact keyIsWritable_of_contains writable (contains_keyOf? inside)
  · refine List.all_eq_true.2 fun value isValue => ?_
    rcases List.mem_filterMap.1 isValue with ⟨element, isElement, found⟩
    have inside := contains_children contained shape element isElement
    exact elementDefault?_isWritable writable inside found
  · rfl

/-- The parameters of a list of nodes can be guessed. -/
theorem guess_eq_ok (writable : program.IsWritable) {nodes : List Node}
    (contained : ∀ node ∈ nodes, program.Contains node) : guess nodes = .ok (guessAll nodes) := by
  unfold guess
  rw [if_pos]
  exact List.all_eq_true.2 fun node isNode => isWritableParam_of_contains writable (contained node isNode)

/-! ## Types -/

theorem typeIsWritable_of_contains (writable : program.IsWritable) {expression : Option Node}
    (contained : ∀ node ∈ expression.toList, program.Contains node) :
    typeIsWritable expression = true := by
  unfold typeIsWritable
  split
  · rename_i properties shape
    rcases Option.map_eq_some_iff.1 shape with ⟨node, rfl, shaped⟩
    refine List.all_eq_true.2 fun property isProperty => ?_
    have inside := contains_children (contained node (by simp)) shaped property isProperty
    split
    · rename_i key value computed keyed
      refine keyIsWritable_of_contains writable fun part isKey => ?_
      exact contains_children inside keyed part (by simp [Shape.children, isKey])
    · rename_i key params body keyed
      refine keyIsWritable_of_contains writable fun part isKey => ?_
      exact contains_children inside keyed part (by simp [Shape.children, isKey])
    · rfl
  · rfl

theorem guessType_eq_ok (writable : program.IsWritable) {expression : Option Node}
    (contained : ∀ node ∈ expression.toList, program.Contains node) :
    guessType expression = .ok (ofExpression expression) := by
  unfold guessType
  rw [if_pos (typeIsWritable_of_contains writable contained)]

/-! ## Results -/

theorem contains_returns {body : Node} (contained : program.Contains body) :
    ∀ argument ∈ returns body, program.Contains argument := by
  let inside (place : Place) : Prop := program.Contains place.node
  have handed (outer : Place) (held : inside outer) (_ : entersFrom body outer.node) (part : Place)
      (isPart : part ∈ outer.parts) : inside part := held.child (Place.mem_parts.1 isPart).1
  intro argument isArgument
  rw [returns_eq ⟨body, []⟩, List.mem_reverse] at isArgument
  rcases List.mem_filterMap.1 isArgument with ⟨place, isReached, isReturned⟩
  have isInside := Place.forall_mem_reach handed ⟨body, []⟩ contained place isReached
  exact isInside.child (Node.mem_children_of_returned? isReturned)

theorem guessResult_eq_ok (writable : program.IsWritable) {body : Option Node}
    (contained : ∀ node ∈ body.toList, program.Contains node) :
    guessResult body = .ok (ofBody? body) := by
  have arguments : ∀ argument ∈ (body.map returns).getD [], program.Contains argument := by
    cases body with
    | none => simp
    | some node => exact contains_returns (contained node (by simp))
  simp only [guessResult]
  rw [if_pos]
  refine List.all_eq_true.2 fun argument isArgument => ?_
  refine typeIsWritable_of_contains writable ?_
  simpa using arguments argument isArgument

end Param

end DocHarvest
