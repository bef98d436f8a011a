import DocHarvest.Proofs.Module.Agreement

/-!
# What plans make of a store

A plan that is applied revises the records that are there, each by itself. Of the records that it
adds those follow that pass the filter, under new ids. Hence two plans that agree make stores that
show the same records from stores that do so.
-/

namespace DocHarvest

open Run

/-- What a plan makes of a record. -/
def Doc.revisedBy (plan : List Mutation) (doc : Doc) : Doc :=
  (plan.filterMap (Mutation.revision? doc.id)).foldl (fun doc change => change doc) doc

/-- The records of a store have been revised by a plan; those that it adds follow if they pass. -/
structure Store.Applied (plan : List Mutation) (lets : Doc → Bool) (before after : Store) :
    Prop where
  grows : before.Grows (fun _ => True) after
  docs : ∃ added, after.docs = before.docs.map (Doc.revisedBy plan) ++ added ∧
    added.map Doc.unnumbered =
      ((plan.filterMap Mutation.record?).filter lets).map Doc.unnumbered ∧
    ∀ doc ∈ added, before.nextId ≤ doc.id

namespace Mutation

variable {id : Int} {mutation : Mutation} {change : Doc → Doc}

theorem outline_of_revision? (isRevision : mutation.revision? id = some change) (doc : Doc) :
    (change doc).outline = doc.outline := by
  cases mutation with
  | update target change =>
      rcases Option.ite_none_right_eq_some.1 isRevision with ⟨-, ⟨⟩⟩
      rfl
  | append target text =>
      rcases Option.ite_none_right_eq_some.1 isRevision with ⟨-, ⟨⟩⟩
      exact Export.outline_describeMore text doc
  | insert doc => cases isRevision

/-- Revisions have no regard to the id of a record. -/
theorem unnumbered_of_revision? (isRevision : mutation.revision? id = some change) (doc : Doc) :
    (change doc).unnumbered = change doc.unnumbered := by
  cases mutation with
  | update target change =>
      rcases Option.ite_none_right_eq_some.1 isRevision with ⟨-, ⟨⟩⟩
      rfl
  | append target text =>
      rcases Option.ite_none_right_eq_some.1 isRevision with ⟨-, ⟨⟩⟩
      have described : doc.unnumbered.description = doc.description := rfl
      unfold Doc.describeMore
      rw [described]
      split <;> rfl
  | insert doc => cases isRevision

end Mutation

namespace Doc

variable {plan planToo : List Mutation} {doc docToo : Doc}

theorem outline_revisedBy (plan : List Mutation) (doc : Doc) :
    (doc.revisedBy plan).outline = doc.outline := by
  refine List.foldlRecOn (motive := fun new : Doc => new.outline = doc.outline) _ _ rfl ?_
  intro new same change isChange
  rcases List.mem_filterMap.1 isChange with ⟨mutation, -, isRevision⟩
  exact (Mutation.outline_of_revision? isRevision new).trans same

theorem unnumbered_foldl {changes : List (Doc → Doc)}
    (each : ∀ change ∈ changes, ∀ doc : Doc, (change doc).unnumbered = change doc.unnumbered)
    (doc : Doc) :
    (changes.foldl (fun doc change => change doc) doc).unnumbered =
      changes.foldl (fun doc change => change doc) doc.unnumbered := by
  induction changes generalizing doc with
  | nil => rfl
  | cons change changes ih =>
      rcases List.forall_mem_cons.1 each with ⟨first, rest⟩
      rw [List.foldl_cons, List.foldl_cons, ih rest, first]

/-- What is made of a record depends on its revisions only, and not on its id. -/
theorem unnumbered_revisedBy_eq
    (revisions : plan.filterMap (Mutation.revision? doc.id) =
      planToo.filterMap (Mutation.revision? docToo.id))
    (same : doc.unnumbered = docToo.unnumbered) :
    (doc.revisedBy plan).unnumbered = (docToo.revisedBy planToo).unnumbered := by
  have through (plan : List Mutation) (doc : Doc) : (doc.revisedBy plan).unnumbered =
      (plan.filterMap (Mutation.revision? doc.id)).foldl (fun doc change => change doc)
        doc.unnumbered := by
    refine unnumbered_foldl (fun change isChange => ?_) doc
    rcases List.mem_filterMap.1 isChange with ⟨mutation, -, isRevision⟩
    exact Mutation.unnumbered_of_revision? isRevision
  rw [through, through, revisions, same]

theorem revisedBy_of_spared (spared : plan.filterMap (Mutation.revision? doc.id) = []) :
    doc.revisedBy plan = doc := by
  rw [revisedBy, spared]
  rfl

end Doc

namespace Store.Applied

variable {plan : List Mutation} {lets : Doc → Bool} {before after : Store} {doc : Doc}

theorem nil (store : Store) : store.Applied [] lets store where
  grows := .refl store
  docs := by
    have unchanged : Doc.revisedBy [] = id := rfl
    exact ⟨[], by simp [unchanged], rfl, by simp⟩

/-- A mutation about one record comes before the rest of the plan. -/
theorem revise {mutation : Mutation} {target : Int} {change : Doc → Doc}
    (revises : ∀ id, mutation.revision? id = if target = id then some change else none)
    (bare : mutation.record? = none) (kept : ∀ doc, (change doc).outline = doc.outline)
    (rest : (before.modify target change).Applied plan lets after) :
    before.Applied (mutation :: plan) lets after where
  grows := (Grows.revise before target kept).trans rest.grows
  docs := by
    rcases rest.docs with ⟨added, stored, records, own⟩
    refine ⟨added, ?_, ?_, own⟩
    · rw [stored, Store.modify, List.map_map]
      congr 1
      apply List.map_congr_left
      intro doc _
      rw [Function.comp_apply, Doc.revisedBy, Doc.revisedBy, List.filterMap_cons, revises]
      by_cases isTarget : target = doc.id
      · have sameId : (change doc).id = doc.id := Doc.id_eq_of_outline (kept doc)
        simp [isTarget, sameId]
      · have other : (doc.id == target) = false := by simpa using Ne.symm isTarget
        simp [isTarget, other]
    · rw [records, List.filterMap_cons, bare]

/-- A record that passes is stored under the next id, where the rest of the plan leaves it alone. -/
theorem insert (isLet : lets doc) (spared : plan.filterMap (Mutation.revision? before.nextId) = [])
    (rest : (⟨before.docs ++ [{ doc with id := before.nextId }], before.nextId + 1⟩ : Store).Applied
      plan lets after) : before.Applied (.insert doc :: plan) lets after where
  grows := by
    let numbered : Doc := { doc with id := before.nextId }
    have recorded : before.Grows (fun _ => True) ⟨before.docs ++ [numbered], before.nextId + 1⟩ :=
      .record rfl trivial
    exact recorded.trans rest.grows
  docs := by
    rcases rest.docs with ⟨added, stored, records, own⟩
    have unchanged : Doc.revisedBy plan { doc with id := before.nextId } =
        { doc with id := before.nextId } := Doc.revisedBy_of_spared spared
    have revised : Doc.revisedBy (.insert doc :: plan) = Doc.revisedBy plan := rfl
    refine ⟨{ doc with id := before.nextId } :: added, ?_, ?_, ?_⟩
    · rw [stored, List.map_append, List.map_singleton, unchanged, revised, List.append_assoc]
      rfl
    · have first : (Mutation.insert doc :: plan).filterMap Mutation.record? =
          doc :: plan.filterMap Mutation.record? := rfl
      rw [List.map_cons, records, first, List.filter_cons, if_pos isLet, List.map_cons]
      rfl
    · intro other isAdded
      rcases List.mem_cons.1 isAdded with rfl | isLater
      · exact Int.le_refl _
      · have := own other isLater
        simp only at this
        omega

/-- Of a record that does not pass, only the id is lost. -/
theorem drop (isKeptOut : lets doc = false) (rest : before.draw.2.Applied plan lets after) :
    before.Applied (.insert doc :: plan) lets after where
  grows := (Grows.draw before).trans rest.grows
  docs := by
    rcases rest.docs with ⟨added, stored, records, own⟩
    refine ⟨added, stored, ?_, fun other isAdded => ?_⟩
    · have first : (Mutation.insert doc :: plan).filterMap Mutation.record? =
          doc :: plan.filterMap Mutation.record? := rfl
      rw [records, first, List.filter_cons, isKeptOut, if_neg Bool.false_ne_true]
    · have := own other isAdded
      simp only [Store.draw] at this
      omega

end Store.Applied

/-- A plan for a store is about its records only, and not about ids that are yet to be drawn. -/
theorem Edits.spares {filePath : String} {store : Store} {plan : List Mutation}
    (edits : Edits filePath store plan) (disciplined : store.Disciplined) {id : Int}
    (undrawn : store.nextId ≤ id) : plan.filterMap (Mutation.revision? id) = [] := by
  have other {category : Category} {target : Int}
      (isTarget : store.Targets filePath category target) : target ≠ id := by
    rcases isTarget with ⟨place, doc, first, rfl, -, -⟩
    have := disciplined.below doc (List.mem_of_getElem? first.stored)
    omega
  induction edits with
  | nil => rfl
  | update target _ _ ih => simpa [Mutation.revision?, other target] using ih
  | describe target _ _ ih => simpa [Mutation.revision?, other target] using ih
  | insert _ _ _ ih => simpa [Mutation.revision?] using ih

namespace Export

variable {scope : Scope} {lets : Doc → Bool} {before after : Progress} {outcome : Except Fault Unit}

/-- With a filter that has no regard to ids, a record is stored under the next id if it passes. -/
theorem ends_insert_of_lets (decides : ∀ doc, scope.passes doc = .ok (lets doc))
    (blind : ∀ (doc : Doc) id, lets { doc with id } = lets doc)
    (disciplined : before.store.Disciplined) {doc : Doc}
    (ended : Ends (applyOne scope (.insert doc)) before outcome after) :
    outcome = .ok () ∧ after.store = if lets doc then
      ⟨before.store.docs ++ [{ doc with id := before.store.nextId }], before.store.nextId + 1⟩
      else before.store.draw.2 := by
  have drawn := ends_lift_bind.1 ended
  have absent : before.store.draw.2.get? before.store.nextId = none :=
    Store.get?_eq_none_of_below disciplined.below
  rcases ends_bind.1 drawn with ⟨stored, middle, inserting, rested⟩ | ⟨fault, failed, -⟩
  · rcases ends_pure.1 rested with ⟨rfl, rfl⟩
    rcases (ends_insert_of_absent absent).1 inserting with ⟨decided, rfl⟩
    rw [decided, decides, blind]
    refine ⟨rfl, ?_⟩
    cases lets doc <;> rfl
  · have decided := ((ends_insert_of_absent absent).1 failed).1
    rw [decides] at decided
    cases decided

/-- A plan that spares ids which are yet to be drawn is applied in full. -/
theorem applyAll_applied (lets : Doc → Bool) {plan : List Mutation} {floor : Int}
    (decides : ∀ doc, scope.passes doc = .ok (lets doc))
    (blind : ∀ (doc : Doc) id, lets { doc with id } = lets doc)
    (disciplined : before.store.Disciplined) (reached : floor ≤ before.store.nextId)
    (spares : ∀ id, floor ≤ id → plan.filterMap (Mutation.revision? id) = [])
    (ended : Ends (applyAll scope plan) before outcome after) :
    outcome = .ok () ∧ before.store.Applied plan lets after.store := by
  induction plan generalizing before with
  | nil =>
      rcases ends_forM_nil.1 ended with ⟨rfl, rfl⟩
      exact ⟨rfl, .nil _⟩
  | cons mutation plan ih =>
      have sparesRest (id : Int) (undrawn : floor ≤ id) :
          plan.filterMap (Mutation.revision? id) = [] := by
        have none := spares id undrawn
        rw [List.filterMap_cons] at none
        split at none
        · exact none
        · cases none
      have later {state : Progress} (applying : Ends (applyAll scope plan) state outcome after)
          (grows : before.store.Grows (fun _ => True) state.store) :
          outcome = .ok () ∧ state.store.Applied plan lets after.store :=
        ih (grows.disciplined disciplined) (Int.le_trans reached grows.counter) sparesRest applying
      cases mutation with
      | update target change =>
          have changed := ends_lift_bind.1 ended
          rcases later changed (.revise before.store target fun _ => rfl) with ⟨rfl, rest⟩
          exact ⟨rfl, .revise (fun _ => rfl) rfl (fun _ => rfl) rest⟩
      | append target text =>
          have changed := ends_lift_bind.1 ended
          have kept := outline_describeMore text
          rcases later changed (.revise before.store target kept) with ⟨rfl, rest⟩
          exact ⟨rfl, .revise (fun _ => rfl) rfl kept rest⟩
      | insert doc =>
          rw [applyAll, forM_cons] at ended
          rcases ends_bind.1 ended with ⟨_, middle, inserting, applying⟩ | ⟨fault, failed, -⟩
          · have stored := (ends_insert_of_lets decides blind disciplined inserting).2
            cases isLet : lets doc with
            | true =>
                rw [isLet, if_pos rfl] at stored
                have recorded : before.store.Grows (fun _ => True) middle.store := by
                  rw [stored]
                  exact .record rfl trivial
                rcases later applying recorded with ⟨rfl, rest⟩
                rw [stored] at rest
                exact ⟨rfl, .insert isLet (sparesRest _ reached) rest⟩
            | false =>
                rw [isLet, if_neg Bool.false_ne_true] at stored
                have drawn : before.store.Grows (fun _ => True) middle.store := by
                  rw [stored]
                  exact .draw before.store
                rcases later applying drawn with ⟨rfl, rest⟩
                rw [stored] at rest
                exact ⟨rfl, .drop isLet rest⟩
          · cases (ends_insert_of_lets decides blind disciplined failed).1

end Export

/-! ## Stores seen through a sieve -/

namespace Store

variable {sieve : Sieve} {whole thin wholeAfter thinAfter : Store} {plan planToo : List Mutation}
  {lets : Doc → Bool}

/-- What is seen after a plan: the revised records that were seen, and the new ones to be seen. -/
theorem Applied.seen {before after : Store} (applied : before.Applied plan lets after)
    (reached : sieve.floor ≤ before.nextId) (lenient : ∀ doc, sieve.admits doc → lets doc) :
    (after.docs.filter sieve.sees).map Doc.unnumbered =
      (before.docs.filter sieve.sees).map (fun doc => (doc.revisedBy plan).unnumbered) ++
        ((plan.filterMap Mutation.record?).filter sieve.admits).map Doc.unnumbered := by
  rcases applied.docs with ⟨added, stored, records, own⟩
  have old : (before.docs.map (Doc.revisedBy plan)).filter sieve.sees =
      (before.docs.filter sieve.sees).map (Doc.revisedBy plan) := by
    rw [List.filter_map]
    congr 1
    apply List.filter_congr
    intro doc _
    exact Sieve.sees_of_outline (Doc.outline_revisedBy plan doc)
  have blind (docs : List Doc) : (docs.filter sieve.admits).map Doc.unnumbered =
      (docs.map Doc.unnumbered).filter sieve.admits := by
    rw [List.filter_map]
    rfl
  have new : (added.filter sieve.sees).map Doc.unnumbered =
      ((plan.filterMap Mutation.record?).filter sieve.admits).map Doc.unnumbered := by
    have admitted : added.filter sieve.sees = added.filter sieve.admits := by
      apply List.filter_congr
      intro doc isAdded
      exact Sieve.sees_of_le (Int.le_trans reached (own doc isAdded))
    have once (docs : List Doc) : (docs.filter lets).filter sieve.admits =
        docs.filter sieve.admits := by
      rw [List.filter_filter]
      apply List.filter_congr
      intro doc _
      cases isAdmitted : sieve.admits doc with
      | true => simp [lenient doc isAdmitted]
      | false => simp
    rw [admitted, blind, records, ← blind, once]
  rw [stored, List.filter_append, List.map_append, old, new, List.map_map]
  rfl

/-- Plans that agree make stores that show the same records. -/
theorem Sifted.applied (sifted : whole.Sifted sieve thin)
    (agree : Agree sieve whole thin plan planToo)
    (applied : whole.Applied plan (fun _ => true) wholeAfter)
    (appliedToo : thin.Applied planToo (fun doc => sieve.keeps doc.category doc.name) thinAfter) :
    wholeAfter.Sifted sieve thinAfter where
  seen := by
    have lenient (doc : Doc) (isAdmitted : sieve.admits doc) :
        sieve.keeps doc.category doc.name := by
      rw [Sieve.admits, Bool.and_eq_true] at isAdmitted
      exact isAdmitted.1
    rw [applied.seen sifted.layered.reached fun _ _ => rfl,
      appliedToo.seen sifted.layeredToo.reached lenient, agree.records]
    congr 1
    rcases List.forall₂_iff_zip.1 sifted.forall₂ with ⟨length, same⟩
    rw [← List.forall₂_eq_eq_eq, List.forall₂_map_left_iff, List.forall₂_map_right_iff,
      List.forall₂_iff_zip]
    refine ⟨length, fun counterparts => ?_⟩
    exact Doc.unnumbered_revisedBy_eq (agree.revisions counterparts) (same counterparts)
  passing doc isStored := by
    rcases appliedToo.docs with ⟨added, stored, records, own⟩
    rw [stored] at isStored
    rcases List.mem_append.1 isStored with isOld | isAdded
    · rcases List.mem_map.1 isOld with ⟨original, wasStored, rfl⟩
      rw [Sieve.passes_of_outline (Doc.outline_revisedBy planToo original)]
      exact sifted.passing original wasStored
    · rw [Sieve.passes_of_le (Int.le_trans sifted.layeredToo.reached (own doc isAdded))]
      have isRecord := List.mem_map_of_mem (f := Doc.unnumbered) isAdded
      rw [records] at isRecord
      rcases List.mem_map.1 isRecord with ⟨record, isLet, same⟩
      have keptAlike := congrArg (fun doc : Doc => sieve.keeps doc.category doc.name) same
      exact keptAlike.symm.trans (List.mem_filter.1 isLet).2
  layered := sifted.layered.grows applied.grows
  layeredToo := sifted.layeredToo.grows appliedToo.grows

end Store

end DocHarvest
