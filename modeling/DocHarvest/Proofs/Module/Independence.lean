import DocHarvest.Proofs.Module.Atomicity
import DocHarvest.Proofs.Module.Revising

/-!
# Independent exports commute

Two deferred exports are independent if they look up different names. What one of them makes of the
store is then nothing that the other one reads: it revises records of the names that it looks up, and
it adds records under such names. So each is planned for as if it came first, and the two plans revise
different records. Only the order of the records that they add, and the ids of these, depend on which
export comes first.
-/

namespace DocHarvest

open Run

/-- A filter that has no regard to the ids of records. -/
def Scope.IsBlind (scope : Scope) : Prop :=
  ∀ (doc : Doc) id, scope.passes { doc with id } = scope.passes doc

/-- A revision of a record comes with a change that exports the record. -/
theorem Edits.exists_update {filePath : String} {store : Store} {plan : List Mutation}
    (edits : Edits filePath store plan) {mutation : Mutation} (planned : mutation ∈ plan) {id : Int}
    {revision : Doc → Doc} (revises : mutation.revision? id = some revision) :
    ∃ change, .update id change ∈ plan := by
  induction edits with
  | nil => cases planned
  | @update _ target change rest _ _ _ ih =>
      rcases List.mem_cons.1 planned with rfl | isLater
      · obtain ⟨rfl, -⟩ := Option.ite_none_right_eq_some.1 revises
        exact ⟨change, List.mem_cons_self ..⟩
      · obtain ⟨other, isUpdate⟩ := ih isLater
        exact ⟨other, List.mem_cons_of_mem _ isUpdate⟩
  | @describe target text change rest _ _ _ ih =>
      have isNext : Mutation.update target change ∈
          .append target text :: .update target change :: rest := by simp
      rcases List.mem_cons.1 planned with rfl | isLater
      · obtain ⟨rfl, -⟩ := Option.ite_none_right_eq_some.1 revises
        exact ⟨change, isNext⟩
      · rcases List.mem_cons.1 isLater with rfl | isLast
        · obtain ⟨rfl, -⟩ := Option.ite_none_right_eq_some.1 revises
          exact ⟨change, isNext⟩
        · obtain ⟨other, isUpdate⟩ := ih isLast
          exact ⟨other, by simp [isUpdate]⟩
  | @insert doc rest _ _ _ ih =>
      rcases List.mem_cons.1 planned with rfl | isLater
      · cases revises
      · obtain ⟨other, isUpdate⟩ := ih isLater
        exact ⟨other, List.mem_cons_of_mem _ isUpdate⟩

namespace Export

variable {scope : Scope} {before after ready : Progress} {exportNode : Node} {plan : List Mutation}

/-! ## What a plan touches -/

theorem mem_lookedUp_of_styling {store : Store} {styling : Styling}
    (isStyling : styling ∈ stylings scope store exportNode) (named : styling.name.isEmpty = false) :
    styling.name ∈ lookedUp scope store exportNode := by
  refine List.mem_filter.2 ⟨List.mem_append_right _ ?_, by simp [named]⟩
  rw [names_eq, List.map_map]
  exact List.mem_map_of_mem isStyling

/-- A record that a plan revises has one of the names that are looked up. -/
theorem exists_lookedUp_of_revised (planned : Ends (Export.plan scope exportNode) before (.ok plan)
      ready) (distinct : (before.store.docs.map Doc.id).Nodup) {doc : Doc}
    (isStored : doc ∈ before.store.docs)
    (revised : plan.filterMap (Mutation.revision? doc.id) ≠ []) :
    ∃ name ∈ lookedUp scope before.store exportNode, doc.name = some name := by
  have carries := plan_plans exportNode planned
  obtain ⟨revision, isRevision⟩ := List.exists_mem_of_ne_nil _ revised
  obtain ⟨mutation, isPlanned, revises⟩ := List.mem_filterMap.1 isRevision
  have updates := carries.edits.exists_update isPlanned revises
  obtain ⟨style, restyles⟩ := (carries.exists_update_iff doc.id).1 updates
  obtain ⟨styling, isStyling, found⟩ := List.mem_filterMap.1 restyles
  obtain ⟨target, isTarget, sameId⟩ := Option.map_eq_some_iff.1 found
  have stored := Store.mem_of_lookup? isTarget
  have same : target = doc :=
    List.inj_on_of_nodup_map distinct stored.1 isStored (congrArg Prod.fst sameId)
  have named : styling.name.isEmpty = false := by
    cases nameless : styling.name.isEmpty with
    | false => rfl
    | true =>
        rw [Store.lookup?_of_isEmpty _ _ nameless] at isTarget
        cases isTarget
  exact ⟨styling.name, mem_lookedUp_of_styling isStyling named, same ▸ stored.2.2.1⟩

/-- A record that a plan adds has one of the names that are looked up, unless it has an empty one. -/
theorem lookedUp_of_insert (planned : Ends (Export.plan scope exportNode) before (.ok plan) ready)
    {doc : Doc} (isAdded : .insert doc ∈ plan) {name : String} (named : doc.name = some name)
    (nonempty : name.isEmpty = false) : name ∈ lookedUp scope before.store exportNode := by
  obtain ⟨styling, isStyling, same⟩ := (plan_plans exportNode planned).named doc isAdded
  cases Option.some.inj (named.symm.trans same)
  exact mem_lookedUp_of_styling isStyling nonempty

/-- For a name that an export does not look up, the store answers as before. -/
theorem sameFor_of_applied {lets : Doc → Bool}
    (planned : Ends (Export.plan scope exportNode) before (.ok plan) ready)
    (distinct : (before.store.docs.map Doc.id).Nodup)
    (applied : before.store.Applied plan lets after.store) {name : String}
    (other : name ∉ lookedUp scope before.store exportNode) : SameFor scope before after name := by
  cases nonempty : name.isEmpty with
  | true => exact .empty nonempty
  | false =>
      intro category
      obtain ⟨added, stored, records, -⟩ := applied.docs
      rw [Store.lookup?_eq _ _ nonempty, Store.lookup?_eq _ _ nonempty, stored, List.find?_append]
      have old : (before.store.docs.map (Doc.revisedBy plan)).find?
          (Doc.isCalled category name scope.filePath) =
          before.store.docs.find? (Doc.isCalled category name scope.filePath) := by
        rw [Doc.find?_revisedBy]
        cases found : before.store.docs.find? (Doc.isCalled category name scope.filePath) with
        | none => rfl
        | some doc =>
            have called := Doc.isCalled_iff.1 (List.find?_some found)
            refine congrArg some (Doc.revisedBy_of_spared ?_)
            by_contra revised
            obtain ⟨_, isLookedUp, same⟩ := exists_lookedUp_of_revised planned distinct
              (List.mem_of_find?_eq_some found) revised
            cases Option.some.inj (called.2.1.symm.trans same)
            exact other isLookedUp
      have new : added.find? (Doc.isCalled category name scope.filePath) = none := by
        rw [List.find?_eq_none]
        intro doc isAdded called
        have isRecord := List.mem_map_of_mem (f := Doc.unnumbered) isAdded
        rw [records] at isRecord
        obtain ⟨record, isLet, same⟩ := List.mem_map.1 isRecord
        have isInsert := Mutation.mem_records.1 (List.mem_filter.1 isLet).1
        have named : record.name = some name :=
          (congrArg Doc.name same : _).trans (Doc.isCalled_iff.1 called).2.1
        exact other (lookedUp_of_insert planned isInsert named nonempty)
      rw [old, new, Option.or_none]

/-! ## One export after the other -/

/-- Two exports that are planned for and applied in turn. -/
def inTurn (scope : Scope) (first second : Node) : Run Unit := do
  applyAll scope (← Export.plan scope first)
  applyAll scope (← Export.plan scope second)

/-- Two exports for which plans can be made and that look up different names. -/
structure Independent (scope : Scope) (before : Progress) (first second : Node) : Prop where
  planned : ∃ plan ready, Ends (Export.plan scope first) before (.ok plan) ready
  plannedToo : ∃ plan ready, Ends (Export.plan scope second) before (.ok plan) ready
  apart : ∀ name ∈ lookedUp scope before.store first, name ∉ lookedUp scope before.store second

/-- What two plans that are applied in turn make of a store: the records that were there are revised
by both, and behind them stand the records that each of them adds. -/
structure Turned (lets : Doc → Bool) (plan planToo : List Mutation) (before after : Store)
    (added addedToo : List Doc) : Prop where
  docs : after.docs =
    before.docs.map (fun doc => (doc.revisedBy plan).revisedBy planToo) ++ added ++ addedToo
  records : added.map Doc.unnumbered =
    ((plan.filterMap Mutation.record?).filter lets).map Doc.unnumbered
  recordsToo : addedToo.map Doc.unnumbered =
    ((planToo.filterMap Mutation.record?).filter lets).map Doc.unnumbered

/-- An export that looks up nothing that the first one touches is planned for as if it came first. -/
theorem exists_turned {lets : Doc → Bool} (decides : ∀ doc, scope.passes doc = .ok (lets doc))
    (blind : ∀ (doc : Doc) id, lets { doc with id } = lets doc)
    (disciplined : before.store.Disciplined) {first second : Node} {planToo : List Mutation}
    {readyToo : Progress} (planned : Ends (Export.plan scope first) before (.ok plan) ready)
    (plannedToo : Ends (Export.plan scope second) before (.ok planToo) readyToo)
    (apart : ∀ name ∈ lookedUp scope before.store second,
      name ∉ lookedUp scope before.store first) :
    ∃ after added addedToo, Ends (inTurn scope first second) before (.ok ()) after ∧
      Turned lets plan planToo before.store after.store added addedToo := by
  have total : scope.IsTotal := fun doc => ⟨lets doc, decides doc⟩
  -- the first export is applied
  have unread : ready.store = before.store := plan_reads first planned
  have spares (id : Int) (undrawn : before.store.nextId ≤ id) :
      plan.filterMap (Mutation.revision? id) = [] :=
    (plan_plans first planned).edits.spares disciplined undrawn
  obtain ⟨middle, applying⟩ := applyAll_returns total plan (unread ▸ disciplined.below)
  have applied := (applyAll_applied lets decides blind (unread ▸ disciplined)
    (Int.le_of_eq (congrArg Store.nextId unread.symm)) spares applying).2
  rw [unread] at applied
  -- the second one finds what it would have found before
  have same (name : String) (isLookedUp : name ∈ lookedUp scope before.store second) :
      SameFor scope before middle name :=
    sameFor_of_applied planned disciplined.distinct applied (apart name isLookedUp)
  obtain ⟨_, again, replanned, ⟨rfl⟩, planning⟩ := plan_once_of_same same .start plannedToo
  have sparesToo (id : Int) (undrawn : before.store.nextId ≤ id) :
      planToo.filterMap (Mutation.revision? id) = [] :=
    (plan_plans second plannedToo).edits.spares disciplined undrawn
  have disciplinedToo : again.store.Disciplined :=
    planning.storeToo ▸ applied.grows.disciplined disciplined
  have reached : before.store.nextId ≤ again.store.nextId :=
    planning.storeToo ▸ applied.grows.counter
  obtain ⟨after, applyingToo⟩ := applyAll_returns total planToo disciplinedToo.below
  have appliedToo := (applyAll_applied lets decides blind disciplinedToo reached sparesToo
    applyingToo).2
  rw [planning.storeToo] at appliedToo
  obtain ⟨added, stored, records, own⟩ := applied.docs
  obtain ⟨addedToo, storedToo, recordsToo, -⟩ := appliedToo.docs
  refine ⟨after, added, addedToo, ?_, ?_, records, recordsToo⟩
  · exact ends_bind_ok.2 ⟨plan, ready, planned, ends_bind_ok.2 ⟨(), middle, applying,
      ends_bind_ok.2 ⟨planToo, again, replanned, applyingToo⟩⟩⟩
  · -- the records of the first export are too new to be revised by the second
    have kept : added.map (Doc.revisedBy planToo) = added := by
      conv_rhs => rw [← List.map_id added]
      refine List.map_congr_left fun doc isAdded => ?_
      exact Doc.revisedBy_of_spared (sparesToo doc.id (own doc isAdded))
    rw [storedToo, stored, List.map_append, kept, List.map_map]
    rfl

/-- Plans of independent exports revise different records, so that their order does not matter. -/
theorem revisedBy_comm (distinct : (before.store.docs.map Doc.id).Nodup) {first second : Node}
    {planToo : List Mutation} {readyToo : Progress}
    (planned : Ends (Export.plan scope first) before (.ok plan) ready)
    (plannedToo : Ends (Export.plan scope second) before (.ok planToo) readyToo)
    (apart : ∀ name ∈ lookedUp scope before.store first,
      name ∉ lookedUp scope before.store second) {doc : Doc} (isStored : doc ∈ before.store.docs) :
    (doc.revisedBy plan).revisedBy planToo = (doc.revisedBy planToo).revisedBy plan := by
  have sameId (plan : List Mutation) : (doc.revisedBy plan).id = doc.id :=
    Doc.id_eq_of_outline (Doc.outline_revisedBy plan doc)
  by_cases spared : plan.filterMap (Mutation.revision? doc.id) = []
  · have sparedLater : plan.filterMap (Mutation.revision? (doc.revisedBy planToo).id) = [] := by
      rwa [sameId]
    rw [Doc.revisedBy_of_spared spared, Doc.revisedBy_of_spared sparedLater]
  · have sparedToo : planToo.filterMap (Mutation.revision? doc.id) = [] := by
      by_contra revisedToo
      obtain ⟨name, isLookedUp, named⟩ :=
        exists_lookedUp_of_revised planned distinct isStored spared
      obtain ⟨other, isLookedUpToo, namedToo⟩ :=
        exists_lookedUp_of_revised plannedToo distinct isStored revisedToo
      cases Option.some.inj (named.symm.trans namedToo)
      exact apart name isLookedUp isLookedUpToo
    have sparedLater : planToo.filterMap (Mutation.revision? (doc.revisedBy plan).id) = [] := by
      rwa [sameId]
    rw [Doc.revisedBy_of_spared sparedToo, Doc.revisedBy_of_spared sparedLater]

/--
Independent exports commute. Let the filter come to a decision about every record without regard to
its id, and let the ids in the store be distinct and below the counter. Then two independent exports
can be planned for and applied in turn, in either order, and the records that come of it are the same:
those that were in the store, revised in one way under their ids, and then the records that each of the
exports adds, which differ in their ids only.
-/
theorem independent_exports_commute (scope : Scope) (total : scope.IsTotal) (blind : scope.IsBlind)
    {before : Progress} (disciplined : before.store.Disciplined) {first second : Node}
    (independent : Independent scope before first second) :
    ∃ after afterToo kept ofFirst ofSecond ofFirstToo ofSecondToo,
      Ends (inTurn scope first second) before (.ok ()) after ∧
      Ends (inTurn scope second first) before (.ok ()) afterToo ∧
      kept.map Doc.id = before.store.docs.map Doc.id ∧
      after.store.docs = kept ++ ofFirst ++ ofSecond ∧
      afterToo.store.docs = kept ++ ofSecondToo ++ ofFirstToo ∧
      ofFirst.map Doc.unnumbered = ofFirstToo.map Doc.unnumbered ∧
      ofSecond.map Doc.unnumbered = ofSecondToo.map Doc.unnumbered := by
  obtain ⟨plan, ready, planned⟩ := independent.planned
  obtain ⟨planToo, readyToo, plannedToo⟩ := independent.plannedToo
  have apart := independent.apart
  choose lets decides using total
  have blindLets (doc : Doc) (id : Int) : lets { doc with id } = lets doc := by
    have same := blind doc id
    rw [decides, decides] at same
    exact Except.ok.inj same
  have apartToo (name : String) (isLookedUp : name ∈ lookedUp scope before.store second) :
      name ∉ lookedUp scope before.store first :=
    fun isLookedUpToo => apart name isLookedUpToo isLookedUp
  obtain ⟨after, ofFirst, ofSecond, ended, turned⟩ :=
    exists_turned decides blindLets disciplined planned plannedToo apartToo
  obtain ⟨afterToo, ofSecondToo, ofFirstToo, endedToo, turnedToo⟩ :=
    exists_turned decides blindLets disciplined plannedToo planned apart
  refine ⟨after, afterToo, _, ofFirst, ofSecond, ofFirstToo, ofSecondToo, ended, endedToo, ?_,
    turned.docs, ?_, turned.records.trans turnedToo.recordsToo.symm,
    turned.recordsToo.trans turnedToo.records.symm⟩
  · rw [List.map_map]
    refine List.map_congr_left fun doc _ => ?_
    have same := (Doc.outline_revisedBy planToo (doc.revisedBy plan)).trans
      (Doc.outline_revisedBy plan doc)
    exact Doc.id_eq_of_outline same
  · have comm := List.map_congr_left fun doc (isStored : doc ∈ before.store.docs) =>
      revisedBy_comm disciplined.distinct planned plannedToo apart isStored
    rw [turnedToo.docs, ← comm]

end Export

namespace Module

open Export

/-- A module that exports an instance of each of its two classes. -/
def twinScope : Scope where
  program := .mk { id := 0 } (.program [emptyClass 1 "Foo", emptyClass 4 "Bar",
    instanceExport 7 "foo" "Foo", instanceExport 13 "bar" "Bar"] [])
  filePath := "pair.js"

/-- A store in which the first of these classes is recorded. -/
def twinStore : Store where
  docs := [{ id := 0, category := .moduleClass, filePath := "pair.js", name := some "Foo" }]
  nextId := 1

/-- The state in which the exports of that module find a store. -/
def twinStart (store : Store) : Progress :=
  Program.start ⟨twinScope.program, 19⟩ store

/-- The export of the instance of the first class. -/
def exportsFoo : Node := instanceExport 7 "foo" "Foo"

/-- The export of the instance of the second class. -/
def exportsBar : Node := instanceExport 13 "bar" "Bar"

/-- The records that come of two exports in turn. -/
def recordsInTurn (scope : Scope) (before : Progress) (first second : Node) : List Doc :=
  ((inTurn scope first second).run.run before).2.store.docs

theorem independent_of_isOk {scope : Scope} {before : Progress} {first second : Node}
    (planned : ((Export.plan scope first).run.run before).1.isOk)
    (plannedToo : ((Export.plan scope second).run.run before).1.isOk)
    (apart : ∀ name ∈ lookedUp scope before.store first,
      name ∉ lookedUp scope before.store second) : Independent scope before first second := by
  have made (exportNode : Node)
      (isOk : ((Export.plan scope exportNode).run.run before).1.isOk) :
      ∃ plan ready, Ends (Export.plan scope exportNode) before (.ok plan) ready := by
    rcases ended : (Export.plan scope exportNode).run.run before with ⟨fault | plan, ready⟩
    · rw [ended] at isOk
      cases isOk
    · exact ⟨plan, ready, ended⟩
  exact ⟨made first planned, made second plannedToo, apart⟩

/-- The exports of that module commute: only the records of the instances change places. -/
theorem pair_exports_commute :
    (recordsInTurn twinScope (twinStart twinStore) exportsFoo exportsBar).map
      (fun doc => (doc.id, doc.name)) =
        [(0, some "Foo"), (1, some "foo"), (2, some "bar")] ∧
    (recordsInTurn twinScope (twinStart twinStore) exportsBar exportsFoo).map
      (fun doc => (doc.id, doc.name)) =
        [(0, some "Foo"), (1, some "bar"), (2, some "foo")] ∧
    ∃ after afterToo kept ofFirst ofSecond ofFirstToo ofSecondToo,
      Ends (inTurn twinScope exportsFoo exportsBar) (twinStart twinStore) (.ok ()) after ∧
      Ends (inTurn twinScope exportsBar exportsFoo) (twinStart twinStore) (.ok ()) afterToo ∧
      kept.map Doc.id = [0] ∧
      after.store.docs = kept ++ ofFirst ++ ofSecond ∧
      afterToo.store.docs = kept ++ ofSecondToo ++ ofFirstToo ∧
      ofFirst.map Doc.unnumbered = ofFirstToo.map Doc.unnumbered ∧
      ofSecond.map Doc.unnumbered = ofSecondToo.map Doc.unnumbered := by
  have total : twinScope.IsTotal := fun _ => ⟨true, rfl⟩
  have blind : twinScope.IsBlind := fun _ _ => rfl
  have disciplined : twinStore.Disciplined := ⟨by decide +kernel, by decide +kernel⟩
  have independent : Independent twinScope (twinStart twinStore) exportsFoo exportsBar :=
    independent_of_isOk (by decide +kernel) (by decide +kernel) (by decide +kernel)
  exact ⟨by decide +kernel, by decide +kernel,
    independent_exports_commute twinScope total blind disciplined independent⟩

/-- A filter that drops the record of one id. -/
def numberedScope : Scope :=
  { twinScope with filter := some (Doc.fieldFilter "doc_id" [.integer 0] false) }

/-- A filter that comes to no decision. -/
def undecidedScope : Scope :=
  { twinScope with filter := some (Doc.fieldFilter "nothing" [] true) }

/-- A store with a record above the counter. -/
def occupiedStore : Store where
  docs := [{ id := 1, category := .module, filePath := "other.js" }]

/--
Independent exports do not commute if the filter looks at ids, if an id above the counter is taken, or
if the filter comes to no decision: then it depends on their order which of the records are stored, or
how far the work gets.
-/
theorem exports_out_of_step :
    (Independent numberedScope (twinStart {}) exportsFoo exportsBar ∧
      ¬((recordsInTurn numberedScope (twinStart {}) exportsFoo exportsBar).map Doc.unnumbered).Perm
        ((recordsInTurn numberedScope (twinStart {}) exportsBar exportsFoo).map Doc.unnumbered)) ∧
    (Independent twinScope (twinStart occupiedStore) exportsFoo exportsBar ∧
      ¬((recordsInTurn twinScope (twinStart occupiedStore) exportsFoo exportsBar).map
          Doc.unnumbered).Perm
        ((recordsInTurn twinScope (twinStart occupiedStore) exportsBar exportsFoo).map
          Doc.unnumbered)) ∧
    (Independent undecidedScope (twinStart twinStore) exportsFoo exportsBar ∧
      ¬((recordsInTurn undecidedScope (twinStart twinStore) exportsBar exportsFoo).map
          Doc.unnumbered).Perm
        ((recordsInTurn undecidedScope (twinStart twinStore) exportsFoo exportsBar).map
          Doc.unnumbered)) := by
  refine ⟨⟨?_, fun same => ?_⟩, ⟨?_, fun same => ?_⟩, ⟨?_, fun same => ?_⟩⟩
  · exact independent_of_isOk (by decide +kernel) (by decide +kernel) (by decide +kernel)
  · exact absurd (same.map Doc.name) (by decide +kernel)
  · exact independent_of_isOk (by decide +kernel) (by decide +kernel) (by decide +kernel)
  · exact absurd (same.map Doc.name) (by decide +kernel)
  · exact independent_of_isOk (by decide +kernel) (by decide +kernel) (by decide +kernel)
  · exact absurd (same.map Doc.exported) (by decide +kernel)

end Module

end DocHarvest
