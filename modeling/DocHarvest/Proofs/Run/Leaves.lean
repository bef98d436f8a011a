import DocHarvest.Proofs.Run.Sound

/-!
# What steps leave alone

A view shows a part of the state. `Run.Still` holds of the changes of the state that never change
what the view shows, and `Run.Leaves` of the steps that do not change it however they end. Both are
closed under composition, and to build or to store a record shows in few views only.
-/

namespace DocHarvest.Run

variable {α β γ : Type} {view : Progress → γ}

/-- A change of the state that leaves alone what a view shows. -/
def Still (view : Progress → γ) (action : StateM Progress α) : Prop :=
  ∀ before, view (action.run before).2 = view before

/-- A step that leaves alone what a view shows, however it ends. -/
def Leaves (view : Progress → γ) (step : Run α) : Prop :=
  ∀ ⦃before outcome after⦄, Ends step before outcome after → view after = view before

namespace Leaves

theorem pure (value : α) : Leaves view (pure value) := by
  intro before outcome after ended
  rcases ends_pure.1 ended with ⟨-, rfl⟩
  rfl

theorem get : Leaves view get := by
  intro before outcome after ended
  rcases ends_get.1 ended with ⟨-, rfl⟩
  rfl

theorem lift {action : StateM Progress α} (still : Still view action) :
    Leaves view (liftM action) := by
  intro before outcome after ended
  rcases ends_lift.1 ended with ⟨-, rfl⟩
  exact still before

theorem bind {step : Run α} {next : α → Run β} (first : Leaves view step)
    (second : ∀ value, Leaves view (next value)) : Leaves view (step >>= next) := by
  intro before outcome after ended
  rcases ends_bind.1 ended with ⟨value, middle, start, rest⟩ | ⟨fault, failed, -⟩
  · exact (second value rest).trans (first start)
  · exact first failed

theorem mapM {work : α → Run β} (each : ∀ part, Leaves view (work part)) (parts : List α) :
    Leaves view (parts.mapM work) := by
  induction parts with
  | nil => exact pure _
  | cons part parts ih =>
      rw [List.mapM_cons]
      exact (each part).bind fun value => ih.bind fun values => pure _

theorem forM {work : α → Run PUnit} (each : ∀ part, Leaves view (work part)) (parts : List α) :
    Leaves view (parts.forM work) := by
  induction parts with
  | nil => exact pure _
  | cons part parts ih => exact (each part).bind fun _ => ih

end Leaves

/-! ## Building and storing -/

/-- Building a record shows in the names of nodes and in the messages only. -/
theorem build_leaves (unnamed : ∀ (state : Progress) names messages,
      view { state with links := { state.links with names }, messages } = view state)
    (scope : Scope) (id : Int) (category : Category) (node : Node) (tags : List Tag) :
    Leaves view (build scope id category node tags) := by
  intro before outcome after ended
  rcases ends_build ended with ⟨messages, rfl, -⟩
  have named : before.links.naming scope category node =
      { before.links with names := (before.links.naming scope category node).names } := by
    unfold Links.naming
    split <;> rfl
  rw [named]
  exact unnamed before _ messages

/-- Storing a record shows in the store only. -/
theorem insert_leaves (unstored : ∀ (state : Progress) store, view { state with store } = view state)
    (scope : Scope) (doc : Doc) : Leaves view (insert scope doc) := by
  intro before outcome after ended
  rcases ends_insert ended with ⟨-, -, rfl⟩ | ⟨-, rfl, -⟩ | ⟨rfl, -⟩
  · exact unstored before _
  · rfl
  · rfl

end DocHarvest.Run
