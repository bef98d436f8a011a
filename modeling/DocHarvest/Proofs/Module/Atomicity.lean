import DocHarvest.Proofs.Module.Filtering
import DocHarvest.Proofs.Module.Lookups
import DocHarvest.Proofs.Module.Policies

/-!
# Deferred exports are all or nothing

Planning an export asks nothing but the store, and leaves it alone. A plan that has been made can be
applied to the end, as long as all stored ids are below the counter. Hence an export that faults has
faulted in planning, and the exports after it find what they would have found without it:
`Module.Beside` relates the states of the two passes.
-/

namespace DocHarvest

open Run

/-- All ids of the store have been given out. -/
def Store.Below (store : Store) : Prop :=
  ∀ doc ∈ store.docs, doc.id < store.nextId

/-- A filter that comes to a decision about every record. -/
def Scope.IsTotal (scope : Scope) : Prop :=
  ∀ doc, ∃ passes, scope.passes doc = .ok passes

/-- Whatever is added comes under an id that has been given out. -/
theorem Store.Grows.below {fits : Doc → Prop} {before after : Store}
    (grows : before.Grows fits after) (below : before.Below) : after.Below := by
  rcases grows.docs with ⟨kept, added, stored, outlines, -, fit⟩
  intro doc isStored
  rw [stored] at isStored
  rcases List.mem_append.1 isStored with isKept | isAdded
  · have isOld : doc.id ∈ before.docs.map Doc.id :=
      ids_eq_of_outlines outlines ▸ List.mem_map_of_mem isKept
    rcases List.mem_map.1 isOld with ⟨old, wasStored, sameId⟩
    have isBelow := below old wasStored
    have counter := grows.counter
    omega
  · exact (fit doc isAdded).2.1

/-- A record under an id just drawn is stored or left out, and all ids stay below the counter. -/
theorem Run.insert_returns {scope : Scope} (total : scope.IsTotal) {before drawn : Progress} (below : before.store.Below)
    (draw : drawn.store = before.store.draw.2) {doc : Doc} (fresh : doc.id = before.store.nextId) :
    ∃ passes store, Ends (insert scope doc) drawn (.ok passes) { drawn with store } ∧
      store.Below := by
  rcases total doc with ⟨passes, decided⟩
  have absent : drawn.store.get? doc.id = none := by
    rw [draw, fresh]
    exact Store.get?_eq_none_of_below below
  refine ⟨passes, _, (ends_insert_of_absent absent).2 ⟨decided.symm, rfl⟩, ?_⟩
  rw [draw]
  cases passes with
  | false =>
      have grows : before.store.Grows (fun _ => True) before.store.draw.2 := .draw _
      exact grows.below below
  | true =>
      have grows : before.store.Grows (fun _ => True)
          ⟨before.store.docs ++ [doc], before.store.nextId + 1⟩ := .record fresh trivial
      exact grows.below below

namespace Export

variable {scope : Scope} {base baseToo : Progress}

/-! ## Planning over one store -/

/-- Over one store an export is planned for in one way, whatever else differs. -/
theorem plan_once (same : baseToo.store = base.store) (exportNode : Node) :
    PlannedOnce base baseToo (plan scope exportNode) :=
  plan_once_of_same fun name _ category => by rw [same]

/-- However planning ends, no code has been noted as invalid. -/
theorem plan_invalid {exportNode : Node} {before after : Progress}
    {outcome : Except Fault (List Mutation)}
    (ended : Ends (plan scope exportNode) before outcome after) :
    after.invalid = before.invalid :=
  (plan_drafts exportNode).invalid ended

/-! ## Plans can be applied -/

/-- A mutation is applied to the end, and all ids stay below the counter. -/
theorem applyOne_returns (total : scope.IsTotal) {before : Progress} (below : before.store.Below)
    (mutation : Mutation) :
    ∃ store, Ends (applyOne scope mutation) before (.ok ()) { before with store } ∧
      store.Below := by
  cases mutation with
  | update id change =>
      have kept : ∀ doc, (change.apply doc).outline = doc.outline := fun _ => rfl
      have grows : before.store.Grows (fun _ => True) _ := .revise _ id kept
      exact ⟨_, rfl, grows.below below⟩
  | append id text =>
      have grows : before.store.Grows (fun _ => True) _ :=
        .revise _ id (outline_describeMore text)
      exact ⟨_, rfl, grows.below below⟩
  | insert doc =>
      let drawn : Progress := { before with store := before.store.draw.2 }
      let numbered : Doc := { doc with id := before.store.nextId }
      have inserting := @Run.insert_returns scope total before drawn below rfl numbered rfl
      rcases inserting with ⟨passes, store, inserted, belowToo⟩
      have ended : Ends (applyOne scope (.insert doc)) before (.ok ()) { before with store } :=
        ends_lift_bind.2 (ends_bind_ok.2 ⟨passes, _, inserted, ends_pure.2 ⟨rfl, rfl⟩⟩)
      exact ⟨store, ended, belowToo⟩

/-- A plan is applied to the end, and changes nothing but the store. -/
theorem exists_applied (total : scope.IsTotal) (plan : List Mutation) {before : Progress}
    (below : before.store.Below) :
    ∃ store, Ends (applyAll scope plan) before (.ok ()) { before with store } ∧ store.Below := by
  induction plan generalizing before with
  | nil => exact ⟨before.store, ends_forM_nil.2 ⟨rfl, rfl⟩, below⟩
  | cons mutation plan ih =>
      rcases applyOne_returns total below mutation with ⟨changed, applied, belowToo⟩
      rcases @ih { before with store := changed } belowToo with ⟨store, rest, belowLast⟩
      exact ⟨store, ends_bind_ok.2 ⟨(), _, applied, rest⟩, belowLast⟩

theorem applyAll_returns (total : scope.IsTotal) (plan : List Mutation) {before : Progress}
    (below : before.store.Below) : ∃ after, Ends (applyAll scope plan) before (.ok ()) after := by
  rcases exists_applied total plan below with ⟨store, ended, -⟩
  exact ⟨_, ended⟩

/-- An export that faults has faulted in planning. -/
theorem planned_fault (total : scope.IsTotal) {exportNode : Node} {before after : Progress}
    {fault : Fault} (below : before.store.Below)
    (failed : Ends (plan scope exportNode >>= applyAll scope) before (.error fault) after) :
    Ends (plan scope exportNode) before (.error fault) after := by
  rcases ends_bind.1 failed with ⟨made, ready, planning, applying⟩ | ⟨other, planning, same⟩
  · have belowToo : ready.store.Below := plan_reads exportNode planning ▸ below
    rcases applyAll_returns total made belowToo with ⟨applied, succeeded⟩
    cases (succeeded.unique applying).1
  · cases same
    exact planning

end Export

namespace Module

variable {scope : Scope} {base baseToo before after : Progress}

/-! ## Passes side by side -/

/--
Two states on the way of two passes. The stores are the same, and the same invalid code and the same
messages have been noted since the start.
-/
structure Beside (base baseToo now nowToo : Progress) : Prop where
  store : nowToo.store = now.store
  invalid : ∃ entries, now.invalid = base.invalid ++ entries ∧
    nowToo.invalid = baseToo.invalid ++ entries
  messages : ∃ texts, now.messages = base.messages ++ texts ∧
    nowToo.messages = baseToo.messages ++ texts

namespace Beside

variable {middle middleToo now nowToo : Progress}

theorem start (same : baseToo.store = base.store) : Beside base baseToo base baseToo where
  store := same
  invalid := ⟨[], by simp, by simp⟩
  messages := ⟨[], by simp, by simp⟩

theorem trans (first : Beside base baseToo middle middleToo)
    (second : Beside middle middleToo now nowToo) : Beside base baseToo now nowToo where
  store := second.store
  invalid := by
    rcases first.invalid with ⟨early, noted, notedToo⟩
    rcases second.invalid with ⟨late, notedLater, notedLaterToo⟩
    refine ⟨early ++ late, ?_, ?_⟩
    · rw [notedLater, noted, List.append_assoc]
    · rw [notedLaterToo, notedToo, List.append_assoc]
  messages := by
    rcases first.messages with ⟨early, said, saidToo⟩
    rcases second.messages with ⟨late, saidLater, saidLaterToo⟩
    refine ⟨early ++ late, ?_, ?_⟩
    · rw [saidLater, said, List.append_assoc]
    · rw [saidLaterToo, saidToo, List.append_assoc]

theorem of_planning (same : baseToo.store = base.store)
    (planning : Export.Planning base baseToo now nowToo) : Beside base baseToo now nowToo where
  store := by rw [planning.storeToo, planning.store, same]
  invalid := ⟨[], by simp [planning.invalid], by simp [planning.invalidToo]⟩
  messages := planning.messages

/-- The stores are changed in the same way. -/
theorem change (beside : Beside base baseToo now nowToo) (change : Store → Store) :
    Beside base baseToo { now with store := change now.store }
      { nowToo with store := change nowToo.store } where
  store := congrArg change beside.store
  invalid := beside.invalid
  messages := beside.messages

end Beside

theorem insert_beside (doc : Doc) :
    Paired (Beside base baseToo) (· = ·) (insert scope doc) (insert scope doc) := by
  refine Paired.get.bind fun now nowToo beside => ?_
  rw [beside.store]
  have decided : Paired (Beside base baseToo) (· = ·)
      (liftM (now.store.insert scope.filter doc) : Run (Bool × Store))
      (liftM (now.store.insert scope.filter doc)) := by
    refine Paired.liftExcept ?_
    cases now.store.insert scope.filter doc with
    | ok result => exact .ok rfl
    | error fault => exact .error fault
  refine decided.bind fun result _ same => same ▸ ?_
  have stored : Paired (Beside base baseToo) (· = ·)
      (modify fun progress => { progress with store := result.2 } : Run Unit)
      (modify fun progress => { progress with store := result.2 }) :=
    Paired.lift fun _ _ beside => ⟨rfl, beside.change fun _ => result.2⟩
  exact stored.bind fun _ _ _ => Paired.pure rfl

theorem applyOne_beside (mutation : Mutation) :
    Paired (Beside base baseToo) (· = ·) (Export.applyOne scope mutation)
      (Export.applyOne scope mutation) := by
  cases mutation with
  | update id change =>
      exact Paired.lift fun _ _ beside =>
        ⟨rfl, beside.change fun store => store.modify id change.apply⟩
  | append id text =>
      exact Paired.lift fun _ _ beside =>
        ⟨rfl, beside.change fun store => store.modify id (Doc.describeMore text)⟩
  | insert doc =>
      have drawn : Paired (Beside base baseToo) (· = ·) (liftM drawId : Run Int) (liftM drawId) :=
        Paired.lift fun now nowToo beside =>
          ⟨congrArg Store.nextId beside.store.symm, beside.change fun store => store.draw.2⟩
      refine drawn.bind fun id _ same => same ▸ ?_
      exact (insert_beside _).bind fun _ _ _ => Paired.pure rfl

/-- Over one store an export is resolved in one way, whatever else differs. -/
theorem resolve_beside (exportNode : Node) :
    Paired (Beside base baseToo) (· = ·) (resolve scope exportNode) (resolve scope exportNode) := by
  have resolved : Paired (Beside base baseToo) (· = ·)
      (Export.plan scope exportNode >>= Export.applyAll scope)
      (Export.plan scope exportNode >>= Export.applyAll scope) := by
    have planned : Paired (Beside base baseToo) (· = ·) (Export.plan scope exportNode)
        (Export.plan scope exportNode) := by
      intro before beforeToo outcome after beside ended
      rcases Export.plan_once beside.store exportNode .start ended with
        ⟨outcomeToo, afterToo, endedToo, alike, planning⟩
      exact ⟨outcomeToo, afterToo, endedToo, alike,
        beside.trans (.of_planning beside.store planning)⟩
    refine planned.bind fun plan _ same => same ▸ ?_
    exact Paired.forM (List.forall₂_same.2 fun _ _ => rfl) fun mutation _ same =>
      same ▸ applyOne_beside mutation
  have noted (fault : Fault) : Paired (Beside base baseToo) (· = ·)
      (liftM (noteInvalid scope.filePath (some exportNode) fault) : Run Unit)
      (liftM (noteInvalid scope.filePath (some exportNode) fault)) := by
    refine Paired.lift fun now nowToo beside => ⟨rfl, beside.trans ?_⟩
    exact ⟨beside.store, ⟨_, rfl, rfl⟩, ⟨_, rfl, rfl⟩⟩
  exact guarded_paired noted resolved rfl

theorem forM_resolve_beside (pending : List Node) :
    Paired (Beside base baseToo) (· = ·) (pending.forM (resolve scope))
      (pending.forM (resolve scope)) :=
  Paired.forM (List.forall₂_same.2 fun _ _ => rfl) fun exportNode _ same =>
    same ▸ resolve_beside exportNode

/-- The exports that wait are resolved, and then the list is empty. -/
theorem ends_secondPass_of_forM (ended : Ends (before.pending.forM (resolve scope)) before (.ok ())
      after) : Ends (secondPass scope) before (.ok ()) { after with pending := [] } :=
  ends_bind_ok.2 ⟨before, before, ends_get.2 ⟨rfl, rfl⟩,
    ends_bind_ok.2 ⟨(), after, ended, ends_modify.2 ⟨rfl, rfl⟩⟩⟩

theorem ends_forM_append {α : Type} {work : α → Run PUnit} {parts others : List α}
    {middle : Progress} (first : Ends (parts.forM work) before (.ok ()) middle)
    (second : Ends (others.forM work) middle (.ok ()) after) :
    Ends ((parts ++ others).forM work) before (.ok ()) after := by
  have split : (parts ++ others).forM work = parts.forM work >>= fun _ => others.forM work :=
    List.forM_append
  rw [split]
  exact ends_bind_ok.2 ⟨(), middle, first, second⟩

/-- Under the tolerant policy all exports are resolved, whatever faults there are. -/
theorem forM_resolve_returns (tolerant : scope.policy = .log) (pending : List Node)
    (before : Progress) : ∃ after, Ends (pending.forM (resolve scope)) before (.ok ()) after := by
  have same : scope.under .log = scope := by
    rw [← tolerant]
    rfl
  have tolerates : Tolerates (pending.forM (resolve (scope.under .stop)))
      (pending.forM (resolve (scope.under .log))) := .forM (resolve_tolerates scope)
  rw [same] at tolerates
  rcases tolerates.returns before with ⟨⟨⟩, after, ended⟩
  exact ⟨after, ended⟩

/-- An export that faults is noted, and leaves the store as it was. -/
theorem ends_resolve_of_fault (total : scope.IsTotal) (tolerant : scope.policy = .log)
    (below : before.store.Below) {exportNode : Node} {fault : Fault} {broken : Progress}
    (failed : Ends (Export.plan scope exportNode >>= Export.applyAll scope) before (.error fault)
      broken) :
    ∃ noted entry, Ends (resolve scope exportNode) before (.ok ()) noted ∧
      noted.store = before.store ∧ noted.invalid = before.invalid ++ [entry] ∧
      entry.fault = fault := by
  have planning := Export.planned_fault total below failed
  rcases ends_guarded_of_log exportNode () tolerant failed with ⟨entry, messages, blamed, ended⟩
  have unchanged : broken.store = before.store := Export.plan_reads exportNode planning
  have nothing : broken.invalid = before.invalid := Export.plan_invalid planning
  exact ⟨_, entry, ended, unchanged, congrArg (· ++ [entry]) nothing, blamed⟩

/--
Deferred exports are all or nothing. Planning one leaves the store alone, however it ends. With a
total filter and all ids below the counter, a plan that has been made is applied to the end. Hence
under the tolerant policy an export that faults is noted and leaves the store as it was, and the
second pass goes on and ends as if the export had not been in the queue.
-/
theorem deferred_exports_atomic (scope : Scope) (exportNode : Node) :
    (∀ ⦃before outcome after⦄, Ends (Export.plan scope exportNode) before outcome after →
      after.store = before.store) ∧
    (scope.IsTotal → ∀ ⦃before : Progress⦄, before.store.Below →
      (∀ ⦃plan ready⦄, Ends (Export.plan scope exportNode) before (.ok plan) ready →
        ∀ state : Progress, state.store = before.store →
          ∃ after, Ends (Export.applyAll scope plan) state (.ok ()) after) ∧
      (scope.policy = .log → ∀ ⦃earlier later reached fault broken⦄,
        before.pending = earlier ++ exportNode :: later →
        Ends (earlier.forM (resolve scope)) before (.ok ()) reached →
        Ends (Export.plan scope exportNode >>= Export.applyAll scope) reached (.error fault)
          broken →
        broken.store = reached.store ∧
        ∃ noted entry after without, Ends (resolve scope exportNode) reached (.ok ()) noted ∧
          noted.store = reached.store ∧ noted.invalid = reached.invalid ++ [entry] ∧
          entry.fault = fault ∧
          Ends (secondPass scope) before (.ok ()) after ∧
          Ends (secondPass scope) { before with pending := earlier ++ later } (.ok ()) without ∧
          Beside noted reached after without)) := by
  refine ⟨fun _ _ _ ended => Export.plan_reads exportNode ended, fun total before below => ⟨?_, ?_⟩⟩
  · intro plan ready _ state same
    exact Export.applyAll_returns total plan (same ▸ below)
  · intro tolerant earlier later reached fault broken queued resolving failed
    have sound := Sound.forM fun (other : Node) (_ : other ∈ earlier) => resolve_sound scope other
    have belowToo : reached.store.Below := (sound.reaches resolving).grows.below below
    have planning := Export.planned_fault total belowToo failed
    rcases ends_resolve_of_fault total tolerant belowToo failed with
      ⟨noted, entry, resolved, unchanged, isNoted, blamed⟩
    -- without the export, the pass comes to the same state before it
    let start : Progress := { before with pending := earlier ++ later }
    have opens : Beside before start before start := .start rfl
    rcases forM_resolve_beside earlier opens resolving with
      ⟨_, reachedToo, resolvingToo, ⟨⟨⟩⟩, aligned⟩
    have sameInvalid : reachedToo.invalid = reached.invalid := by
      rcases aligned.invalid with ⟨entries, entered, enteredToo⟩
      exact enteredToo.trans entered.symm
    have sameMessages : reachedToo.messages = reached.messages := by
      rcases aligned.messages with ⟨texts, said, saidToo⟩
      exact saidToo.trans said.symm
    -- after it, the passes go on side by side
    rcases forM_resolve_returns tolerant later noted with ⟨final, rest⟩
    have same : reachedToo.store = noted.store := aligned.store.trans unchanged.symm
    rcases forM_resolve_beside later (.start same) rest with ⟨_, finalToo, restToo, ⟨⟨⟩⟩, beside⟩
    refine ⟨Export.plan_reads exportNode planning, noted, entry, { final with pending := [] },
      { finalToo with pending := [] }, resolved, unchanged, isNoted, blamed, ?_, ?_, ?_⟩
    · apply ends_secondPass_of_forM
      rw [queued]
      exact ends_forM_append resolving (ends_bind_ok.2 ⟨(), noted, resolved, rest⟩)
    · exact ends_secondPass_of_forM (ends_forM_append resolvingToo restToo)
    · exact ⟨beside.store, sameInvalid ▸ beside.invalid, sameMessages ▸ beside.messages⟩

/-- The export of an instance of a class under its own name. -/
def instanceExport (first : NodeId) (name className : String) : Node :=
  .mk { id := first } (.exportNamed (some (instanceOf (first + 1) name className)) [] none)

/-- The default export of a new instance of a class, with comments. -/
def freshDefault (first : NodeId) (leading : List Comment) (className : String) : Node :=
  .mk { id := first, leading } (.exportDefault (some (.mk { id := first + 1 }
    (.construct (some (.mk { id := first + 2 } (.identifier className))) []))))

/-- A module that exports three instances of its class, of which one cannot be documented. -/
def brokenScope : Scope where
  program := .mk { id := 0 } (.program [emptyClass 1 "Foo", instanceExport 4 "early" "Foo",
    freshDefault 10 [typeless] "Foo", instanceExport 13 "late" "Foo"] [])
  filePath := "broken.js"
  policy := .log

/-- What the walk through that module leaves. -/
def brokenWalked : Progress :=
  ((walkthrough brokenScope).run.run (Program.start ⟨brokenScope.program, 19⟩ {})).2

/-- What the second pass has made of it before that export. -/
def brokenReached : Progress :=
  (([instanceExport 4 "early" "Foo"].forM (resolve (within brokenScope 0))).run.run
    brokenWalked).2

/-- The second export faults, and the module is documented as if it were not there. -/
theorem broken_export_skipped :
    brokenWalked.store.docs.map Doc.name = [some "broken.js", some "Foo"] ∧
    brokenReached.store.docs.map Doc.name = [some "broken.js", some "Foo", some "early"] ∧
    ∃ (noted after without : Progress) (entry : InvalidCode),
      Ends (resolve (within brokenScope 0) (freshDefault 10 [typeless] "Foo")) brokenReached (.ok ())
        noted ∧
      noted.store = brokenReached.store ∧ entry.fault = .emptyType none none ∧
      noted.invalid = brokenReached.invalid ++ [entry] ∧
      Ends (secondPass (within brokenScope 0)) brokenWalked (.ok ()) after ∧
      Ends (secondPass (within brokenScope 0)) { brokenWalked with
        pending := [instanceExport 4 "early" "Foo", instanceExport 13 "late" "Foo"] } (.ok ())
        without ∧
      after.store = without.store := by
  have total : (within brokenScope 0).IsTotal := fun _ => ⟨true, rfl⟩
  have below : brokenWalked.store.Below := by
    unfold Store.Below
    decide +kernel
  have walks : Ends (walkthrough brokenScope) (Program.start ⟨brokenScope.program, 19⟩ {}) (.ok 0)
      brokenWalked := Prod.ext (by decide +kernel) rfl
  have queue : brokenScope.program.queue = [instanceExport 4 "early" "Foo"] ++
      freshDefault 10 [typeless] "Foo" :: [instanceExport 13 "late" "Foo"] := by
    with_unfolding_all rfl
  have queued := walkthrough_queues walks
  rw [queue] at queued
  have resolved : Ends ([instanceExport 4 "early" "Foo"].forM (resolve (within brokenScope 0)))
      brokenWalked (.ok ()) brokenReached := Prod.ext (by decide +kernel) rfl
  have failed : Ends (Export.plan (within brokenScope 0) (freshDefault 10 [typeless] "Foo") >>=
      Export.applyAll (within brokenScope 0)) brokenReached (.error (.emptyType none none)) _ :=
    Prod.ext (by decide +kernel) rfl
  rcases ((deferred_exports_atomic (within brokenScope 0) (freshDefault 10 [typeless] "Foo")).2 total
    below).2 rfl queued resolved failed with
    ⟨-, noted, entry, after, without, ended, unchanged, isNoted, blamed, passes, passesToo, beside⟩
  exact ⟨by decide +kernel, by decide +kernel, noted, after, without, entry, ended, unchanged,
    blamed, isNoted, passes, passesToo, beside.store.symm⟩

end Module

end DocHarvest
