import DocHarvest.Proofs.Module.Courses
import DocHarvest.Proofs.Module.Sieve
import DocHarvest.Proofs.Run.Moved

/-!
# The first half of a filtered run

Up to the end of the walk, a run with a filter by category and name does the same as the run without
it, and draws the same ids. It leaves out the records that do not pass, as `Store.Thinned` says.
-/

namespace DocHarvest

open Run

/-- The same scope with a filter that looks at the category and the name of a record. -/
def Scope.filtered (keeps : Category → Option String → Bool) (scope : Scope) : Scope :=
  { scope with filter := some fun doc => .ok (keeps doc.category doc.name) }

/-- The second store is the first one without the records that do not pass. -/
structure Store.Thinned (sieve : Sieve) (whole thin : Store) : Prop where
  docs : thin.docs = whole.docs.filter sieve.passes
  counter : thin.nextId = whole.nextId
  layered : whole.Layered sieve.floor

namespace Store

variable {sieve : Sieve} {whole thin : Store}

theorem Layered.filter (layered : whole.Layered sieve.floor) (keeps : Doc → Bool) :
    (⟨whole.docs.filter keeps, whole.nextId⟩ : Store).Layered sieve.floor where
  disciplined := by
    constructor
    · exact layered.disciplined.distinct.sublist ((List.filter_sublist).map _)
    · intro doc isStored
      exact layered.disciplined.below doc (List.mem_of_mem_filter isStored)
  reached := layered.reached
  layers := layered.layers.sublist List.filter_sublist

namespace Thinned

theorem draw (thinned : whole.Thinned sieve thin) : whole.draw.2.Thinned sieve thin.draw.2 where
  docs := thinned.docs
  counter := by
    have := thinned.counter
    simp only [Store.draw]
    omega
  layered := by
    have grows : whole.Grows (fun _ => True) whole.draw.2 := .draw whole
    exact thinned.layered.grows grows

theorem record (thinned : whole.Thinned sieve thin) {doc : Doc} (drawn : doc.id = whole.nextId) :
    (⟨whole.docs ++ [doc], whole.nextId + 1⟩ : Store).Thinned sieve
      ⟨thin.docs ++ [doc].filter sieve.passes, thin.nextId + 1⟩ where
  docs := by rw [thinned.docs, List.filter_append]
  counter := by
    have := thinned.counter
    simp only
    omega
  layered := by
    have grows : whole.Grows (fun _ => True) ⟨whole.docs ++ [doc], whole.nextId + 1⟩ :=
      .record drawn trivial
    exact thinned.layered.grows grows

/-- A store that is thinned out shows what the whole store shows. -/
theorem sifted (thinned : whole.Thinned sieve thin) : whole.Sifted sieve thin where
  seen := by
    have same : (whole.docs.filter sieve.passes).filter sieve.sees =
        whole.docs.filter sieve.sees := by
      rw [List.filter_filter]
      apply List.filter_congr
      intro doc _
      cases passed : sieve.passes doc <;> simp [Sieve.sees, passed]
    rw [thinned.docs, same]
  passing doc isStored := by
    rw [thinned.docs] at isStored
    exact (List.mem_filter.1 isStored).2
  layered := thinned.layered
  layeredToo := by
    have layered := thinned.layered.filter sieve.passes
    rcases thin with ⟨docs, nextId⟩
    cases thinned.docs
    cases thinned.counter
    exact layered

end Thinned

end Store

namespace Run

variable {scope : Scope} {sieve : Sieve} {before beforeToo after : Progress}

/-- A record under the id drawn for it is stored in both runs, or left out of the filtered one. -/
theorem insert_thinned (unfiltered : scope.filter = none) {whole thin : Store}
    (thinned : whole.Thinned sieve thin) {doc : Doc} (drawn : doc.id = whole.nextId)
    (aligned : Over (fun left right => left = whole.draw.2 ∧ right = thin.draw.2) before beforeToo)
    {outcome : Except Fault Bool} (ended : Ends (insert scope doc) before outcome after) :
    outcome = .ok true ∧ ∃ stored afterToo,
      Ends (insert (scope.filtered sieve.keeps) doc) beforeToo (.ok stored) afterToo ∧
        Over (Store.Thinned sieve) after afterToo := by
  rcases aligned.related with ⟨left, right⟩
  have below (other : Doc) (isStored : other ∈ whole.docs) : other.id < doc.id :=
    drawn ▸ thinned.layered.disciplined.below other isStored
  have absent : before.store.get? doc.id = none := by
    rw [left]
    exact Store.get?_eq_none_of_below below
  have absentToo : beforeToo.store.get? doc.id = none := by
    rw [right]
    refine Store.get?_eq_none_of_below fun other isStored => ?_
    have isThin : other ∈ thin.docs := isStored
    rw [thinned.docs] at isThin
    exact below other (List.mem_of_mem_filter isThin)
  have passes : scope.passes doc = .ok true := by rw [Scope.passes, unfiltered]
  have passesToo : (scope.filtered sieve.keeps).passes doc =
      .ok (sieve.keeps doc.category doc.name) := rfl
  rcases (ends_insert_of_absent absent).1 ended with ⟨rfl, rfl⟩
  rw [passes]
  refine ⟨rfl, _, _, (ends_insert_of_absent absentToo).2 ⟨passesToo.symm, rfl⟩, ?_⟩
  apply aligned.stored
  have recorded := thinned.record drawn
  have own : sieve.floor ≤ doc.id := drawn ▸ thinned.layered.reached
  rw [left, right]
  cases isKept : sieve.keeps doc.category doc.name with
  | true => simpa [Store.accept, Store.draw, Sieve.passes_of_le own, isKept] using recorded
  | false => simpa [Store.accept, Store.draw, Sieve.passes_of_le own, isKept] using recorded

/-- The filter has no part in what is recorded. -/
theorem build_filtered (links : Links) (id : Int) (category : Category) (node : Node)
    (tags : List Tag) :
    Draft.build ⟨scope.filtered sieve.keeps, links, id, node, tags⟩ category =
      Draft.build ⟨scope, links, id, node, tags⟩ category := by
  cases category <;> rfl

/-- A record is built in both runs alike, and stored under the id drawn for it if it passes. -/
theorem store_thinned (unfiltered : scope.filter = none) {category : Category} {node : Node}
    {tags : List Tag} {outcome : Except Fault Unit}
    (aligned : Over (Store.Thinned sieve) before beforeToo)
    (ended : Ends ((build scope before.store.nextId category node tags >>= insert scope) >>=
      fun _ => pure ()) { before with store := before.store.draw.2 } outcome after) :
    ∃ afterToo, Ends ((build (scope.filtered sieve.keeps) before.store.nextId category node tags >>=
        insert (scope.filtered sieve.keeps)) >>= fun _ => pure ())
        { beforeToo with store := beforeToo.store.draw.2 } outcome afterToo ∧
      Over (Store.Thinned sieve) after afterToo := by
  rw [bind_assoc] at ended ⊢
  have drawn : Over (fun left right => left = before.store.draw.2 ∧ right = beforeToo.store.draw.2)
      { before with store := before.store.draw.2 }
      { beforeToo with store := beforeToo.store.draw.2 } :=
    aligned.stored ⟨rfl, rfl⟩
  have builds : Lockstep
      (fun left right => left = before.store.draw.2 ∧ right = beforeToo.store.draw.2) (· = ·)
      (build scope before.store.nextId category node tags)
      (build (scope.filtered sieve.keeps) before.store.nextId category node tags) := by
    refine Lockstep.builds fun links => ?_
    have same := @build_filtered scope sieve links before.store.nextId category node tags
    refine same.symm ▸ ?_
    cases Draft.build ⟨scope, links, before.store.nextId, node, tags⟩ category with
    | ok doc => exact .ok rfl
    | error fault => exact .error fault
  rcases ends_bind.1 ended with ⟨doc, built, making, rest⟩ | ⟨fault, failed, rfl⟩
  · rcases builds drawn making with ⟨_, builtToo, makingToo, ⟨rfl⟩, alignedToo⟩
    rcases (build_sound making).2.2.1 doc rfl with ⟨links, heads⟩
    have inserts {result : Except Fault Bool} {stored : Progress}
        (inserting : Ends (insert scope doc) built result stored) :=
      insert_thinned unfiltered aligned.related heads.id alignedToo inserting
    rcases ends_bind.1 rest with ⟨_, stored, inserting, rested⟩ | ⟨fault, refused, rfl⟩
    · rcases ends_pure.1 rested with ⟨rfl, rfl⟩
      rcases inserts inserting with ⟨-, _, afterToo, insertingToo, alignedAfter⟩
      refine ⟨afterToo, ends_bind.2 (Or.inl ⟨doc, builtToo, makingToo, ?_⟩), alignedAfter⟩
      exact ends_bind.2 (Or.inl ⟨_, afterToo, insertingToo, ends_pure.2 ⟨rfl, rfl⟩⟩)
    · cases (inserts refused).1
  · rcases builds drawn failed with ⟨_, afterToo, failedToo, ⟨⟩, alignedAfter⟩
    refine ⟨afterToo, ends_bind.2 (Or.inr ⟨fault, failedToo, rfl⟩), ?_⟩
    rcases alignedAfter.related with ⟨left, right⟩
    exact alignedAfter.mono fun _ => left ▸ right ▸ aligned.related.draw

theorem Records.thinned (unfiltered : scope.filter = none) :
    Records (Store.Thinned sieve) scope (scope.filtered sieve.keeps) := by
  intro category node tags before beforeToo outcome after aligned ended
  rw [bind_assoc] at ended ⊢
  rcases store_thinned unfiltered aligned (ends_lift_bind.1 ended) with
    ⟨afterToo, endedToo, alignedAfter⟩
  rw [← aligned.related.counter] at endedToo
  refine ⟨outcome, afterToo, ends_lift_bind.2 endedToo, ?_, alignedAfter⟩
  cases outcome with
  | ok stored => exact .ok rfl
  | error fault => exact .error fault

end Run

namespace Module

variable {scope : Scope} {sieve : Sieve}

theorem firstPass_thinned (unfiltered : scope.filter = none) :
    Lockstep (Store.Thinned sieve) (· = ·) (firstPass scope)
      (firstPass (scope.filtered sieve.keeps)) :=
  firstPass_lockstep (Records.thinned unfiltered)

theorem documentInner_thinned (unfiltered : scope.filter = none) :
    Lockstep (Store.Thinned sieve) (· = ·) (documentInner scope)
      (documentInner (scope.filtered sieve.keeps)) :=
  documentInner_lockstep (Records.thinned unfiltered)

/-- The record of the module is treated like all others. -/
theorem prepare_thinned (unfiltered : scope.filter = none) :
    Lockstep (Store.Thinned sieve) (· = ·) (prepare scope)
      (prepare (scope.filtered sieve.keeps)) := by
  intro before beforeToo outcome after aligned ended
  have unfilteredToo (id : Int) : (within scope id).filter = none := unfiltered
  have drawn := ends_lift_bind.1 ended
  let next := before.store.nextId
  have opens {result : Except Fault Unit} {stored : Progress} {category : Category}
      (storing : Ends (storeModule (within scope next) category next)
        { before with store := before.store.draw.2 } result stored) :
      ∃ storedToo, Ends (storeModule (within (scope.filtered sieve.keeps) next) category next)
          { beforeToo with store := beforeToo.store.draw.2 } result storedToo ∧
        Over (Store.Thinned sieve) stored storedToo := by
    rw [storeModule_eq] at storing ⊢
    exact store_thinned (unfilteredToo next) aligned storing
  have opening_of {result : Except Fault Int} {afterToo : Progress}
      (continued : Ends (storeModule (within (scope.filtered sieve.keeps) next)
        (if scope.code.isSome then .memory else .file) next >>= fun _ =>
          documentInner (within (scope.filtered sieve.keeps) next) >>= fun _ => pure next)
        { beforeToo with store := beforeToo.store.draw.2 } result afterToo) :
      Ends (prepare (scope.filtered sieve.keeps)) beforeToo result afterToo := by
    have counter : next = beforeToo.store.nextId := aligned.related.counter.symm
    rw [counter] at continued
    exact ends_lift_bind.2 continued
  rcases ends_bind.1 drawn with ⟨_, stored, storing, rest⟩ | ⟨fault, failed, rfl⟩
  · rcases opens storing with ⟨storedToo, storingToo, alignedToo⟩
    have inner : Lockstep (Store.Thinned sieve) (· = ·)
        (documentInner (within scope next) >>= fun _ => pure next)
        (documentInner (within (scope.filtered sieve.keeps) next) >>= fun _ => pure next) :=
      (documentInner_thinned (unfilteredToo next)).bind fun _ _ _ => Lockstep.pure rfl
    rcases inner alignedToo rest with ⟨outcomeToo, afterToo, restToo, alike, alignedAfter⟩
    refine ⟨outcomeToo, afterToo, opening_of (ends_bind.2 (Or.inl ?_)), alike, alignedAfter⟩
    exact ⟨(), storedToo, storingToo, restToo⟩
  · rcases opens failed with ⟨afterToo, failedToo, alignedToo⟩
    have ended := opening_of (ends_bind.2 (Or.inr ⟨fault, failedToo, rfl⟩))
    exact ⟨_, afterToo, ended, .error fault, alignedToo⟩

end Module

end DocHarvest
