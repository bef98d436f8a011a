import DocHarvest.Proofs.Record.Built
import DocHarvest.Tree.Program

/-!
# What a step of the construction makes

`NodeBuilder.Yields` says that what a step makes, if it makes anything, is suitable. It is closed
under the combinators from which the rules for the constructs of the grammar are put together.
-/

namespace DocHarvest

namespace NodeBuilder

variable {α β : Type} {suitable : α → Prop} {fine : β → Prop}

/-- What a step makes, if it makes anything, is suitable. -/
def Yields (suitable : α → Prop) (step : NodeBuilder α) : Prop :=
  ∀ ⦃before value after⦄, step.run before = .ok (value, after) → suitable value

namespace Yields

theorem pure {value : α} (isSuitable : suitable value) : Yields suitable (pure value) := by
  intro before result after ran
  cases ran
  exact isSuitable

theorem throw (fault : Fault) : Yields suitable (throw fault) := by
  intro before result after ran
  cases ran

theorem bind {step : NodeBuilder α} {next : α → NodeBuilder β} (first : Yields suitable step)
    (second : ∀ value, suitable value → Yields fine (next value)) :
    Yields fine (step >>= next) := by
  intro before result after ran
  rw [StateT.run_bind] at ran
  rcases bind_eq_ok.1 ran with ⟨⟨value, middle⟩, start, rest⟩
  exact second value (first start) rest

/-- What a step makes is suitable if all that can come of its second half is. -/
theorem andThen {step : NodeBuilder α} {next : α → NodeBuilder β}
    (second : ∀ value, Yields fine (next value)) : Yields fine (step >>= next) := by
  intro before result after ran
  rw [StateT.run_bind] at ran
  rcases bind_eq_ok.1 ran with ⟨⟨value, middle⟩, -, rest⟩
  exact second value rest

theorem map {step : NodeBuilder α} {change : α → β} (first : Yields suitable step)
    (each : ∀ value, suitable value → fine (change value)) : Yields fine (change <$> step) := by
  rw [map_eq_pure_bind]
  exact first.bind fun value isSuitable => pure (each value isSuitable)

theorem mapM {work : α → NodeBuilder β} {parts : List α}
    (each : ∀ part ∈ parts, Yields fine (work part)) :
    Yields (fun values => ∀ value ∈ values, fine value) (parts.mapM work) := by
  induction parts with
  | nil => exact pure (by simp)
  | cons part parts ih =>
      rw [List.mapM_cons]
      refine (each part (List.mem_cons_self ..)).bind fun value isFine => ?_
      refine (ih fun other isPart => each other (List.mem_cons_of_mem _ isPart)).bind
        fun values areFine => pure ?_
      exact List.forall_mem_cons.2 ⟨isFine, areFine⟩

theorem length_mapM {work : α → NodeBuilder β} {parts : List α} :
    Yields (fun values => values.length = parts.length) (parts.mapM work) := by
  induction parts with
  | nil => exact pure rfl
  | cons part parts ih =>
      rw [List.mapM_cons]
      exact andThen fun value => ih.bind fun values counted => pure (congrArg Nat.succ counted)

end Yields

end NodeBuilder

end DocHarvest
