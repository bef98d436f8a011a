import DocHarvest.Proofs.Module.Origins
import DocHarvest.Proofs.Value.Plain

/-!
# Programs with plain literals

Values in a program stand in its literals. If they are plain, so is every value that a literal
somewhere in the program gives.
-/

namespace DocHarvest

/-- The values of all literals in a node are plain. -/
inductive Node.HasPlainLiterals : Node → Prop
  | mk {node : Node} (own : ∀ value, node.literal? = some value → value.IsPlain)
      (parts : ∀ part ∈ node.children, HasPlainLiterals part) : HasPlainLiterals node

/-- The values of all literals in a layer are plain, those of its parts included. -/
structure Shape.HasPlainLiterals (shape : Shape Node) : Prop where
  own : ∀ value kind, shape = .literal value kind → value.IsPlain
  parts : ∀ part ∈ shape.children, part.HasPlainLiterals

namespace Node

variable {node part : Node} {value : Value}

theorem hasPlainLiterals_mk {info : NodeInfo} {shape : Shape Node} :
    (Node.mk info shape).HasPlainLiterals ↔ shape.HasPlainLiterals := by
  constructor
  · rintro ⟨own, parts⟩
    refine ⟨?_, parts⟩
    rintro value kind rfl
    exact own value rfl
  · rintro ⟨own, parts⟩
    refine ⟨fun value isValue => ?_, parts⟩
    simp only [literal?, Node.shape] at isValue
    split at isValue
    · cases isValue
      exact own value _ rfl
    · cases isValue

namespace HasPlainLiterals

theorem shape (plain : node.HasPlainLiterals) : node.shape.HasPlainLiterals := by
  cases node
  exact hasPlainLiterals_mk.1 plain

theorem child (plain : node.HasPlainLiterals) (isPart : part ∈ node.children) :
    part.HasPlainLiterals := by
  cases plain with
  | mk own parts => exact parts part isPart

theorem literal (plain : node.HasPlainLiterals) (isValue : node.literal? = some value) :
    value.IsPlain := by
  cases plain with
  | mk own parts => exact own value isValue

/-- What a node carries besides its shape is not among its literals. -/
theorem withInfo (plain : node.HasPlainLiterals) (info : NodeInfo) :
    (node.withInfo info).HasPlainLiterals :=
  hasPlainLiterals_mk.2 plain.shape

theorem contained (plain : node.HasPlainLiterals) (contained : node.Contains part) :
    part.HasPlainLiterals := by
  let holds (place : Place) : Prop := place.node.HasPlainLiterals
  have handed (outer : Place) (held : holds outer) (_ : true) (inner : Place)
      (isInner : inner ∈ outer.parts) : holds inner :=
    held.child (Place.mem_parts.1 isInner).1
  rcases contained with ⟨place, isPlace, rfl⟩
  exact Place.forall_mem_reach handed ⟨node, []⟩ plain place isPlace

end HasPlainLiterals

end Node

end DocHarvest
