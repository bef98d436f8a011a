import DocHarvest.Proofs.Run.Leaves

/-!
# Invariants of records and names

Much of what can be said of a run is said of every record in the store, and of the names that nodes
have been given. `Run.Upholds` says of a step that it hands such an invariant on, however it ends, and
that what it returns is suitable. It is closed under composition, so an invariant of whole runs comes
down to the records that are stored and revised and to the names that are noted.
-/

namespace DocHarvest

/-- The names of nodes by their identities. -/
abbrev NodeNames := Std.TreeMap NodeId String

/-- All records are good, and the names of nodes fit. -/
structure Progress.Holds (good : Doc → Prop) (fits : NodeNames → Prop) (state : Progress) : Prop where
  records : ∀ doc ∈ state.store.docs, good doc
  names : fits state.links.names

/-- What the invariants of `Progress.Holds` are about. -/
def Progress.facts (state : Progress) : List Doc × NodeNames :=
  (state.store.docs, state.links.names)

theorem Progress.Holds.congr {good : Doc → Prop} {fits : NodeNames → Prop}
    {before after : Progress} (holds : before.Holds good fits)
    (same : after.facts = before.facts) : after.Holds good fits := by
  rcases Prod.mk.inj same with ⟨docs, names⟩
  exact ⟨docs ▸ holds.records, names ▸ holds.names⟩

namespace Run

variable {α β : Type} {good : Doc → Prop} {fits : NodeNames → Prop} {suitable : α → Prop}
  {fine : β → Prop} {scope : Scope}

/-- A step hands an invariant on, however it ends, and what it returns is suitable. -/
def Upholds (good : Doc → Prop) (fits : NodeNames → Prop) (suitable : α → Prop)
    (step : Run α) : Prop :=
  ∀ ⦃before outcome after⦄, before.Holds good fits → Ends step before outcome after →
    after.Holds good fits ∧ ∀ value, outcome = .ok value → suitable value

namespace Upholds

theorem pure {value : α} (isSuitable : suitable value) :
    Upholds good fits suitable (pure value) := by
  intro before outcome after holds ended
  rcases ends_pure.1 ended with ⟨rfl, rfl⟩
  refine ⟨holds, ?_⟩
  rintro other ⟨⟩
  exact isSuitable

/-- A change of the state that leaves records and names alone. -/
theorem lift {action : StateM Progress α} (still : Still Progress.facts action)
    (each : ∀ before, suitable (action.run before).1) :
    Upholds good fits suitable (liftM action) := by
  intro before outcome after holds ended
  rcases ends_lift.1 ended with ⟨rfl, rfl⟩
  refine ⟨holds.congr (still before), ?_⟩
  rintro value ⟨⟩
  exact each before

/-- What is read is the state itself, so the invariant is known of it. -/
theorem get : Upholds good fits (Progress.Holds good fits) get := by
  intro before outcome after holds ended
  rcases ends_get.1 ended with ⟨rfl, rfl⟩
  refine ⟨holds, ?_⟩
  rintro state ⟨⟩
  exact holds

theorem mono {wider : α → Prop} {step : Run α} (upholds : Upholds good fits suitable step)
    (more : ∀ value, suitable value → wider value) : Upholds good fits wider step := by
  intro before outcome after holds ended
  rcases upholds holds ended with ⟨holdsToo, areSuitable⟩
  exact ⟨holdsToo, fun value same => more value (areSuitable value same)⟩

theorem bind {step : Run α} {next : α → Run β} (first : Upholds good fits suitable step)
    (second : ∀ value, suitable value → Upholds good fits fine (next value)) :
    Upholds good fits fine (step >>= next) := by
  intro before outcome after holds ended
  rcases ends_bind.1 ended with ⟨value, middle, start, rest⟩ | ⟨fault, failed, rfl⟩
  · rcases first holds start with ⟨holdsToo, areSuitable⟩
    exact second value (areSuitable value rfl) holdsToo rest
  · refine ⟨(first holds failed).1, ?_⟩
    rintro value ⟨⟩

/-- What a step does after the state has changed in other ways is all that counts. -/
theorem after {action : StateM Progress α} {next : α → Run β}
    (still : Still Progress.facts action) (second : ∀ value, Upholds good fits fine (next value)) :
    Upholds good fits fine (liftM action >>= next) :=
  (lift still fun _ => trivial).bind fun value (_ : True) => second value

theorem mapM {work : α → Run β} {parts : List α}
    (each : ∀ part ∈ parts, Upholds good fits fine (work part)) :
    Upholds good fits (fun values => ∀ value ∈ values, fine value) (parts.mapM work) := by
  induction parts with
  | nil => exact pure (by simp)
  | cons part parts ih =>
      rw [List.mapM_cons]
      refine (each part (List.mem_cons_self ..)).bind fun value isFine => ?_
      refine (ih fun other isPart => each other (List.mem_cons_of_mem _ isPart)).bind
        fun values areFine => pure ?_
      simpa using ⟨isFine, areFine⟩

theorem forM {work : α → Run PUnit} {parts : List α}
    (each : ∀ part ∈ parts, Upholds good fits (fun _ => True) (work part)) :
    Upholds good fits (fun _ => True) (parts.forM work) := by
  induction parts with
  | nil => exact pure trivial
  | cons part parts ih =>
      refine (each part (List.mem_cons_self ..)).bind fun _ _ => ih fun other isPart => ?_
      exact each other (List.mem_cons_of_mem _ isPart)

theorem insert {doc : Doc} (isGood : good doc) :
    Upholds good fits (fun _ => True) (Run.insert scope doc) := by
  intro before outcome after holds ended
  refine ⟨?_, fun _ _ => trivial⟩
  rcases ends_insert ended with ⟨-, -, rfl⟩ | ⟨-, rfl, -⟩ | ⟨rfl, -⟩
  · exact ⟨List.forall_mem_append.2 ⟨holds.records, by simpa using isGood⟩, holds.names⟩
  · exact holds
  · exact holds

theorem revise {id : Int} {change : Doc → Doc} (kept : ∀ doc, good doc → good (change doc)) :
    Upholds good fits (fun _ => True) (modify fun progress =>
      { progress with store := progress.store.modify id change }) := by
  intro before outcome after holds ended
  rcases ends_modify.1 ended with ⟨-, rfl⟩
  refine ⟨⟨?_, holds.names⟩, fun _ _ => trivial⟩
  intro doc isStored
  rcases List.mem_map.1 isStored with ⟨old, wasStored, rfl⟩
  have isGood := holds.records old wasStored
  split
  · exact kept old isGood
  · exact isGood

end Upholds

end Run

end DocHarvest
