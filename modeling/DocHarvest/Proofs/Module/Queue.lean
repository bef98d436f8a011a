import DocHarvest.Proofs.Module.Trails
import DocHarvest.Proofs.Run.Leaves

/-!
# The queue of deferred exports

Whatever a program looks like, and whatever faults are noted on the way, a walk that comes to its
end has put aside the exports of the queue, in their order. Nothing but the visit of a deferred
export touches the list of exports that wait.
-/

namespace DocHarvest

open Run

variable {scope : Scope}

namespace Module

theorem documentInner_leaves (scope : Scope) : Leaves Progress.pending (documentInner scope) := by
  unfold documentInner
  split
  · intro before outcome after ended
    rcases ends_guarded ended with ran | ⟨fault, middle, entry, messages, failed, -, -, rfl⟩
    · exact (documentComments_recording _ _ _ _).waits ran
    · have left := (documentComments_recording _ _ _ _).waits failed
      exact left
  · exact Leaves.pure _

theorem prepare_leaves (scope : Scope) : Leaves Progress.pending (prepare scope) := by
  have drawn : Leaves Progress.pending (liftM drawId) := Leaves.lift fun _ => rfl
  refine drawn.bind fun id => Leaves.bind ?_ fun _ => ?_
  · rw [storeModule_eq]
    refine Leaves.bind ?_ fun _ => Leaves.pure _
    exact (build_leaves (fun _ _ _ => rfl) _ _ _ _ _).bind fun doc =>
      insert_leaves (fun _ _ => rfl) _ doc
  · exact (documentInner_leaves _).bind fun _ => Leaves.pure _

/-- A visit puts a node aside exactly if it is a deferred export. -/
theorem visit_queues {node : Node} {parent : Option Node} {before after : Progress}
    {outcome : Except Fault Node.Descent}
    (ended : Ends (visit scope node parent) before outcome after) :
    after.pending = before.pending ++ [node].filter (Export.isDeferred scope.program) := by
  cases deferred : Export.isDeferred scope.program node with
  | true =>
      rcases ends_visit_of_deferred deferred ended with ⟨-, rfl⟩
      simp [deferred]
  | false =>
      have leaves : Leaves Progress.pending (visit scope node parent) := by
        unfold visit
        rw [deferred]
        exact (push_recording _ _ _).waits.bind fun _ => Leaves.pure _
      rw [leaves ended]
      simp [deferred]

theorem enter_queues {node : Node} {parent : Option Node} {before after : Progress}
    {outcome : Except Fault Node.Descent}
    (ended : Ends (enter scope node parent) before outcome after) :
    after.pending = before.pending ++ [node].filter (Export.isDeferred scope.program) := by
  rw [enter_eq] at ended
  rcases ends_guarded ended with visited | ⟨fault, middle, entry, messages, failed, -, -, rfl⟩
  · exact visit_queues visited
  · have queued := visit_queues failed
    exact queued

theorem forM_enter_queues {places : List Place} {before after : Progress}
    (ended : Ends (places.forM fun place => enter scope place.node place.above.head? >>=
      fun _ => pure ()) before (.ok ()) after) :
    after.pending = before.pending ++
      (places.map Place.node).filter (Export.isDeferred scope.program) := by
  induction places generalizing before with
  | nil =>
      rcases ends_forM_nil.1 ended with ⟨-, rfl⟩
      simp
  | cons place places ih =>
      rcases ends_bind_ok.1 ended with ⟨_, middle, first, later⟩
      rcases ends_bind_ok.1 first with ⟨descent, _, entered, rested⟩
      rcases ends_pure.1 rested with ⟨-, rfl⟩
      rw [ih later, enter_queues entered, List.append_assoc, ← List.filter_append]
      rfl

/-- A walk that comes to its end has put aside the exports of the queue. -/
theorem firstPass_queues {before after : Progress}
    (ended : Ends (firstPass scope) before (.ok ()) after) :
    after.pending = before.pending ++ scope.program.queue :=
  forM_enter_queues (ends_walked ended)

end Module

end DocHarvest
