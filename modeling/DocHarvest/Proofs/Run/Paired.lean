import DocHarvest.Proofs.Run.Sound
import Mathlib.Data.List.Forall2

/-!
# Pairs of runs

Two steps that start in related states are paired if they end alike and leave related states behind.
`Run.Paired` is about any relation of states and any relation of the values that the steps return,
and it is closed under composition.
-/

namespace DocHarvest.Run

variable {α β γ δ : Type}

/-- Two outcomes that are the same fault, or values that are related. -/
inductive Alike (values : α → β → Prop) : Except Fault α → Except Fault β → Prop
  | ok {left : α} {right : β} (related : values left right) : Alike values (.ok left) (.ok right)
  | error (fault : Fault) : Alike values (.error fault) (.error fault)

theorem Alike.map {values : α → β → Prop} {change : α → β} {outcome : Except Fault α}
    (related : ∀ value, values value (change value)) :
    Alike values outcome (change <$> outcome) := by
  cases outcome with
  | ok value => exact .ok (related value)
  | error fault => exact .error fault

theorem Alike.mono {values others : α → β → Prop} {outcome : Except Fault α}
    {outcomeToo : Except Fault β} (alike : Alike values outcome outcomeToo)
    (more : ∀ value valueToo, outcome = .ok value → values value valueToo → others value valueToo) :
    Alike others outcome outcomeToo := by
  cases alike with
  | ok related => exact .ok (more _ _ rfl related)
  | error fault => exact .error fault

theorem Alike.eq {outcome outcomeToo : Except Fault α} (alike : Alike (· = ·) outcome outcomeToo) :
    outcomeToo = outcome := by
  cases alike with
  | ok same => rw [same]
  | error fault => rfl

/-- Two steps that keep states related, and end with the same fault or with related values. -/
def Paired (states : Progress → Progress → Prop) (values : α → β → Prop) (left : Run α)
    (right : Run β) : Prop :=
  ∀ ⦃before beforeToo outcome after⦄, states before beforeToo → Ends left before outcome after →
    ∃ outcomeToo afterToo, Ends right beforeToo outcomeToo afterToo ∧
      Alike values outcome outcomeToo ∧ states after afterToo

namespace Paired

variable {states : Progress → Progress → Prop} {values : α → β → Prop} {results : γ → δ → Prop}

theorem pure {left : α} {right : β} (related : values left right) :
    Paired states values (pure left) (pure right) := by
  intro before beforeToo outcome after aligned ended
  rcases ends_pure.1 ended with ⟨rfl, rfl⟩
  exact ⟨_, beforeToo, ends_pure.2 ⟨rfl, rfl⟩, .ok related, aligned⟩

theorem lift {action : StateM Progress α} {actionToo : StateM Progress β}
    (keeps : ∀ ⦃before beforeToo⦄, states before beforeToo →
      values (action.run before).1 (actionToo.run beforeToo).1 ∧
        states (action.run before).2 (actionToo.run beforeToo).2) :
    Paired states values (liftM action) (liftM actionToo) := by
  intro before beforeToo outcome after aligned ended
  rcases ends_lift.1 ended with ⟨rfl, rfl⟩
  rcases keeps aligned with ⟨related, alignedAfter⟩
  exact ⟨_, _, ends_lift.2 ⟨rfl, rfl⟩, .ok related, alignedAfter⟩

theorem throw (fault : Fault) : Paired states values (throw fault) (throw fault) := by
  intro before beforeToo outcome after aligned ended
  rcases ends_throw.1 ended with ⟨rfl, rfl⟩
  exact ⟨_, beforeToo, ends_throw.2 ⟨rfl, rfl⟩, .error fault, aligned⟩

theorem liftExcept {left : Except Fault α} {right : Except Fault β}
    (alike : Alike values left right) : Paired states values (liftM left) (liftM right) := by
  intro before beforeToo outcome after aligned ended
  rcases ends_liftExcept.1 ended with ⟨rfl, rfl⟩
  exact ⟨right, beforeToo, ends_liftExcept.2 ⟨rfl, rfl⟩, alike, aligned⟩

theorem get : Paired states states get get := by
  intro before beforeToo outcome after aligned ended
  rcases ends_get.1 ended with ⟨rfl, rfl⟩
  exact ⟨_, beforeToo, ends_get.2 ⟨rfl, rfl⟩, .ok aligned, aligned⟩

theorem bind {left : Run α} {right : Run β} {next : α → Run γ} {nextToo : β → Run δ}
    (first : Paired states values left right)
    (second : ∀ ⦃value valueToo⦄, values value valueToo →
      Paired states results (next value) (nextToo valueToo)) :
    Paired states results (left >>= next) (right >>= nextToo) := by
  intro before beforeToo outcome after aligned ended
  rcases ends_bind.1 ended with ⟨value, middle, start, rest⟩ | ⟨fault, failed, rfl⟩
  · rcases first aligned start with ⟨_, middleToo, startToo, ⟨related⟩, alignedToo⟩
    rcases second related alignedToo rest with ⟨outcomeToo, afterToo, restToo, alike, alignedAfter⟩
    exact ⟨outcomeToo, afterToo, ends_bind.2 (Or.inl ⟨_, middleToo, startToo, restToo⟩), alike,
      alignedAfter⟩
  · rcases first aligned failed with ⟨_, afterToo, failedToo, ⟨⟩, alignedAfter⟩
    exact ⟨_, afterToo, ends_bind.2 (Or.inr ⟨fault, failedToo, rfl⟩), .error fault, alignedAfter⟩

theorem mono {others : α → β → Prop} {left : Run α} {right : Run β}
    (paired : Paired states values left right)
    (more : ∀ value valueToo, values value valueToo → others value valueToo) :
    Paired states others left right := by
  intro before beforeToo outcome after aligned ended
  rcases paired aligned ended with ⟨outcomeToo, afterToo, endedToo, alike, alignedAfter⟩
  exact ⟨outcomeToo, afterToo, endedToo, alike.mono fun _ _ _ => more _ _, alignedAfter⟩

/-- What is known of the values of the first step can be used together with the relation. -/
theorem yielding {left : Run α} {right : Run β} {suitable : α → Prop}
    (paired : Paired states values left right) (yields : Yields left suitable) :
    Paired states (fun value valueToo => suitable value ∧ values value valueToo) left right := by
  intro before beforeToo outcome after aligned ended
  rcases paired aligned ended with ⟨outcomeToo, afterToo, endedToo, alike, alignedAfter⟩
  refine ⟨outcomeToo, afterToo, endedToo, alike.mono ?_, alignedAfter⟩
  rintro value valueToo rfl related
  exact ⟨yields _ _ _ ended, related⟩

/-- Handlers of the same faults are paired as well, since both steps fail with the same fault. -/
theorem tryCatch {left : Run α} {right : Run β} {handler : Fault → Run α}
    {handlerToo : Fault → Run β} (first : Paired states values left right)
    (second : ∀ fault, Paired states values (handler fault) (handlerToo fault)) :
    Paired states values (tryCatch left handler) (tryCatch right handlerToo) := by
  intro before beforeToo outcome after aligned ended
  rcases ends_tryCatch.1 ended with ⟨value, succeeded, rfl⟩ | ⟨fault, middle, failed, handled⟩
  · rcases first aligned succeeded with ⟨_, afterToo, succeededToo, ⟨related⟩, alignedAfter⟩
    exact ⟨_, afterToo, ends_tryCatch.2 (Or.inl ⟨_, succeededToo, rfl⟩), .ok related, alignedAfter⟩
  · rcases first aligned failed with ⟨_, middleToo, failedToo, ⟨⟩, alignedToo⟩
    rcases second fault alignedToo handled with
      ⟨outcomeToo, afterToo, handledToo, alike, alignedAfter⟩
    exact ⟨outcomeToo, afterToo, ends_tryCatch.2 (Or.inr ⟨fault, middleToo, failedToo, handledToo⟩),
      alike, alignedAfter⟩

theorem forM {work : α → Run PUnit} {workToo : β → Run PUnit} {parts : List α} {partsToo : List β}
    (same : List.Forall₂ values parts partsToo)
    (each : ∀ ⦃part partToo⦄, values part partToo →
      Paired states (· = ·) (work part) (workToo partToo)) :
    Paired states (· = ·) (parts.forM work) (partsToo.forM workToo) := by
  induction same with
  | nil => exact pure rfl
  | cons related _ ih =>
      rw [forM_cons, forM_cons]
      exact (each related).bind fun _ _ _ => ih

theorem mapM_of_mem {work : γ → Run α} {workToo : γ → Run β} {parts : List γ}
    (each : ∀ part ∈ parts, Paired states values (work part) (workToo part)) :
    Paired states (List.Forall₂ values) (parts.mapM work) (parts.mapM workToo) := by
  induction parts with
  | nil => exact pure .nil
  | cons part parts ih =>
      obtain ⟨first, others⟩ := List.forall_mem_cons.1 each
      rw [List.mapM_cons, List.mapM_cons]
      refine first.bind fun _ _ related => (ih others).bind fun _ _ rest => ?_
      exact pure (.cons related rest)

theorem mapM {work : γ → Run α} {workToo : γ → Run β}
    (each : ∀ part, Paired states values (work part) (workToo part)) (parts : List γ) :
    Paired states (List.Forall₂ values) (parts.mapM work) (parts.mapM workToo) :=
  mapM_of_mem fun part _ => each part

theorem walkStack {visit visitToo : Node → Option Node → Run Node.Descent}
    (each : ∀ node parent, Paired states (· = ·) (visit node parent) (visitToo node parent))
    (stack : Node.Stack) :
    Paired states (· = ·) (Node.walkStack visit stack) (Node.walkStack visitToo stack) := by
  induction stack using Node.walkStack.induct with
  | case1 =>
      rw [Node.walkStack, Node.walkStack]
      exact pure rfl
  | case2 node parent rest skipped entered =>
      rw [Node.walkStack, Node.walkStack]
      refine (each node parent).bind fun descent _ same => ?_
      cases same
      cases descent with
      | enter => exact entered
      | skip => exact skipped

end Paired

end DocHarvest.Run
