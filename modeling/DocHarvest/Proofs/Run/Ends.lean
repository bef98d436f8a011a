import DocHarvest.Module.Scope

/-!
# How steps end

A step of the work is followed through its parts: `Run.Ends` relates the state in which a step
starts to its outcome and to the state in which it ends. The lemmas here take a composed step apart,
so that a step that succeeds is a chain of parts that all succeed.
-/

namespace DocHarvest.Run

variable {α β : Type}

/-- A step that starts in one state ends with an outcome in another state. -/
def Ends (step : Run α) (before : Progress) (outcome : Except Fault α) (after : Progress) : Prop :=
  step.run.run before = (outcome, after)

theorem Ends.unique {step : Run α} {before left right : Progress}
    {outcome other : Except Fault α} (first : Ends step before outcome left)
    (second : Ends step before other right) : outcome = other ∧ left = right := by
  unfold Ends at first second
  rw [first] at second
  exact Prod.mk.inj second

@[simp]
theorem ends_pure {value : α} {before after : Progress} {outcome : Except Fault α} :
    Ends (pure value) before outcome after ↔ outcome = .ok value ∧ after = before := by
  change (Except.ok value, before) = (outcome, after) ↔ _
  rw [Prod.mk.injEq, eq_comm, eq_comm (a := before)]

@[simp]
theorem ends_throw {fault : Fault} {before after : Progress} {outcome : Except Fault α} :
    Ends (throw fault) before outcome after ↔ outcome = .error fault ∧ after = before := by
  change (Except.error fault, before) = (outcome, after) ↔ _
  rw [Prod.mk.injEq, eq_comm, eq_comm (a := before)]

@[simp]
theorem ends_lift {action : StateM Progress α} {before after : Progress}
    {outcome : Except Fault α} :
    Ends (liftM action) before outcome after ↔
      outcome = .ok (action.run before).1 ∧ after = (action.run before).2 := by
  change (Except.ok (action.run before).1, (action.run before).2) = (outcome, after) ↔ _
  rw [Prod.mk.injEq, eq_comm, eq_comm (b := after)]

@[simp]
theorem ends_liftExcept {result : Except Fault α} {before after : Progress}
    {outcome : Except Fault α} :
    Ends (liftM result) before outcome after ↔ outcome = result ∧ after = before := by
  change (result, before) = (outcome, after) ↔ _
  rw [Prod.mk.injEq, eq_comm, eq_comm (a := before)]

@[simp]
theorem ends_get {before after : Progress} {outcome : Except Fault Progress} :
    Ends get before outcome after ↔ outcome = .ok before ∧ after = before := by
  change (Except.ok before, before) = (outcome, after) ↔ _
  rw [Prod.mk.injEq, eq_comm, eq_comm (a := before) (b := after)]

@[simp]
theorem ends_modify {change : Progress → Progress} {before after : Progress}
    {outcome : Except Fault Unit} :
    Ends (modify change) before outcome after ↔ outcome = .ok () ∧ after = change before := by
  change (Except.ok (), change before) = (outcome, after) ↔ _
  rw [Prod.mk.injEq, eq_comm, eq_comm (b := after)]

/-- A change of the state never fails, so the step goes on after it. -/
theorem ends_lift_bind {action : StateM Progress α} {next : α → Run β} {before after : Progress}
    {outcome : Except Fault β} :
    Ends (liftM action >>= next) before outcome after ↔
      Ends (next (action.run before).1) (action.run before).2 outcome after :=
  Iff.rfl

/-- A composed step ends with its second part, or where its first part failed. -/
theorem ends_bind {step : Run α} {next : α → Run β} {before after : Progress}
    {outcome : Except Fault β} :
    Ends (step >>= next) before outcome after ↔
      (∃ value middle, Ends step before (.ok value) middle ∧ Ends (next value) middle outcome after) ∨
        ∃ fault, Ends step before (.error fault) after ∧ outcome = .error fault := by
  rcases ended : step.run.run before with ⟨fault | value, middle⟩
  · have failed : Ends step before (.error fault) middle := ended
    have whole : Ends (step >>= next) before (.error fault) middle := by
      simp only [Ends, ExceptT.run_bind, StateT.run_bind, ended]
      rfl
    constructor
    · intro given
      rcases whole.unique given with ⟨rfl, rfl⟩
      exact Or.inr ⟨fault, failed, rfl⟩
    · rintro (⟨value, state, succeeded, -⟩ | ⟨other, failedToo, rfl⟩)
      · exact absurd (failed.unique succeeded).1 (by simp)
      · rcases failed.unique failedToo with ⟨same, rfl⟩
        cases same
        exact whole
  · have succeeded : Ends step before (.ok value) middle := ended
    have whole : Ends (step >>= next) before outcome after ↔
        Ends (next value) middle outcome after := by
      simp only [Ends, ExceptT.run_bind, StateT.run_bind, ended]
      rfl
    rw [whole]
    constructor
    · intro given
      exact Or.inl ⟨value, middle, succeeded, given⟩
    · rintro (⟨other, state, succeededToo, given⟩ | ⟨fault, failed, -⟩)
      · rcases succeeded.unique succeededToo with ⟨same, rfl⟩
        cases same
        exact given
      · exact absurd (succeeded.unique failed).1 (by simp)

@[simp]
theorem ends_bind_ok {step : Run α} {next : α → Run β} {before after : Progress} {value : β} :
    Ends (step >>= next) before (.ok value) after ↔
      ∃ inner middle, Ends step before (.ok inner) middle ∧
        Ends (next inner) middle (.ok value) after := by
  rw [ends_bind]
  simp

/-- A guarded step ends as the step does, or as the handler of its fault does. -/
theorem ends_tryCatch {step : Run α} {handler : Fault → Run α} {before after : Progress}
    {outcome : Except Fault α} :
    Ends (tryCatch step handler) before outcome after ↔
      (∃ value, Ends step before (.ok value) after ∧ outcome = .ok value) ∨
        ∃ fault middle, Ends step before (.error fault) middle ∧
          Ends (handler fault) middle outcome after := by
  rcases ended : step.run.run before with ⟨fault | value, middle⟩
  · have failed : Ends step before (.error fault) middle := ended
    have whole : Ends (tryCatch step handler) before outcome after ↔
        Ends (handler fault) middle outcome after := by
      simp only [Ends, ExceptT.run_tryCatch, StateT.run_bind, ended]
      rfl
    rw [whole]
    constructor
    · intro given
      exact Or.inr ⟨fault, middle, failed, given⟩
    · rintro (⟨value, succeeded, -⟩ | ⟨other, state, failedToo, given⟩)
      · exact absurd (failed.unique succeeded).1 (by simp)
      · rcases failed.unique failedToo with ⟨same, rfl⟩
        cases same
        exact given
  · have succeeded : Ends step before (.ok value) middle := ended
    have whole : Ends (tryCatch step handler) before (.ok value) middle := by
      simp only [Ends, ExceptT.run_tryCatch, StateT.run_bind, ended]
      rfl
    constructor
    · intro given
      rcases whole.unique given with ⟨rfl, rfl⟩
      exact Or.inl ⟨value, succeeded, rfl⟩
    · rintro (⟨other, succeededToo, rfl⟩ | ⟨fault, state, failed, -⟩)
      · rcases succeeded.unique succeededToo with ⟨same, rfl⟩
        cases same
        exact whole
      · exact absurd (succeeded.unique failed).1 (by simp)

@[simp]
theorem ends_forM_nil {work : α → Run PUnit} {before after : Progress}
    {outcome : Except Fault PUnit} :
    Ends (([] : List α).forM work) before outcome after ↔ outcome = .ok () ∧ after = before :=
  ends_pure

@[simp]
theorem forM_cons (first : α) (rest : List α) (work : α → Run PUnit) :
    (first :: rest).forM work = work first >>= fun _ => rest.forM work :=
  rfl

end DocHarvest.Run
