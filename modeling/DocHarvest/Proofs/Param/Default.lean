import DocHarvest.Param.Guess

/-!
# What defaults are made of

The default of a parameter is a literal, or a list or an object that is filled with literals. So a property
of values that is kept where values are put together holds of the default, once it holds of the literals
that the default is made of.
-/

namespace DocHarvest.Param

/-- A property of values that the literals in some nodes have, and that is kept in lists and objects. -/
structure Composes (fine : Node → Prop) (good : Value → Prop) : Prop where
  literal : ∀ {node : Node} {value : Value}, fine node → node.literal? = some value → good value
  part : ∀ {node part : Node}, fine node → part ∈ node.children → fine part
  null : good .null
  text : ∀ name, good (.text name)
  list : ∀ {items : List Value}, (∀ item ∈ items, good item) → good (.list items)
  empty : good (.object [])
  set : ∀ {known : List (String × Value)} {value : Value}, good (.object known) → good value →
    ∀ name, good (.object (Value.setMember name value known))

namespace Composes

variable {fine : Node → Prop} {good : Value → Prop} (composes : Composes fine good)

include composes

/-- An object that is filled member by member. -/
theorem filled {α : Type} {entries : List α} {name : α → String} {value : α → Value}
    (all : ∀ entry ∈ entries, good (value entry)) {known : List (String × Value)}
    (start : good (.object known)) :
    good (.object (entries.foldl
      (fun members entry => Value.setMember (name entry) (value entry) members) known)) := by
  induction entries generalizing known with
  | nil => exact start
  | cons entry rest ih =>
      rw [List.forall_mem_cons] at all
      exact ih all.2 (composes.set start all.1 _)

theorem literalValue {found : Option Node} (each : ∀ node, found = some node → fine node) :
    good (literalValue found) := by
  unfold Param.literalValue
  cases isLiteral : found.bind Node.literal? with
  | none => exact composes.null
  | some value =>
      rcases Option.bind_eq_some_iff.1 isLiteral with ⟨node, same, isValue⟩
      exact composes.literal (each node same) isValue

theorem child {node part : Node} {shape : Shape Node} (isFine : fine node) (same : node.shape = shape)
    (isPart : part ∈ shape.children) : fine part := by
  refine composes.part isFine ?_
  rwa [Node.children, same]

/-- The values of the properties of an object literal are parts of the properties. -/
theorem namedProperties {properties : List Node} (each : ∀ property ∈ properties, fine property) :
    ∀ entry ∈ namedProperties properties, good (Param.literalValue entry.2) := by
  intro entry isEntry
  rcases List.mem_filterMap.1 isEntry with ⟨property, isProperty, found⟩
  split at found
  · rename_i key value computed same
    rcases Option.map_eq_some_iff.1 found with ⟨name, -, rfl⟩
    refine composes.literalValue ?_
    rintro node rfl
    exact composes.child (each property isProperty) same (by simp [Shape.children])
  · cases found

theorem withDefault {left right : Option Node} (each : ∀ node, right = some node → fine node)
    {param : Param} (start : good param.defaultValue) :
    good (withDefault left right param).defaultValue := by
  unfold Param.withDefault
  cases right with
  | none => exact start
  | some node =>
      have isFine := each node rfl
      rw [Option.map_some]
      cases same : node.shape with
      | literal value kind => exact composes.literal isFine (by simp [Node.literal?, same])
      | array elements =>
          refine composes.list fun value isValue => ?_
          rcases List.mem_map.1 isValue with ⟨element, isElement, rfl⟩
          refine composes.literalValue ?_
          rintro _ ⟨⟩
          exact composes.child isFine same isElement
      | object properties =>
          refine composes.filled (composes.namedProperties fun property isProperty => ?_) composes.empty
          exact composes.child isFine same isProperty
      | identifier name => exact composes.text name
      | _ => exact start

end Composes

end DocHarvest.Param
