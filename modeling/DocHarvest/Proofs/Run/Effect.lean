import DocHarvest.Module.Generate
import DocHarvest.Proofs.Record.Faults
import DocHarvest.Proofs.Run.Ends
import Mathlib.Logic.Relation

/-!
# What a step can do to the records

Whatever a step of the work does, its effect on the store and on the list of invalid code is one of
five: none at all, an id that is drawn and lost, a record that is stored under the id drawn for it, a
record that is revised, and an entry about invalid code where the policy asks for one. Properties of
whole runs follow by induction over the effects.
-/

namespace DocHarvest

/-- A record without the fields that exports change. -/
def Doc.outline (doc : Doc) : Doc :=
  { doc with
    exported := false
    ignored := false
    importStyle := none
    type := none
    description := none }

theorem Doc.id_eq_of_outline {left right : Doc} (same : left.outline = right.outline) :
    left.id = right.id :=
  (congrArg Doc.id same :)

theorem Doc.category_eq_of_outline {left right : Doc} (same : left.outline = right.outline) :
    left.category = right.category :=
  (congrArg Doc.category same :)

theorem Doc.name_eq_of_outline {left right : Doc} (same : left.outline = right.outline) :
    left.name = right.name :=
  (congrArg Doc.name same :)

theorem Doc.filePath_eq_of_outline {left right : Doc} (same : left.outline = right.outline) :
    left.filePath = right.filePath :=
  (congrArg Doc.filePath same :)

/-- Every record has an id of its own, and all ids have been given out. -/
structure Store.Disciplined (store : Store) : Prop where
  distinct : (store.docs.map Doc.id).Nodup
  below : ∀ doc ∈ store.docs, doc.id < store.nextId

/-- A complaint about an id comes from reading the file or from the filter, never from the store. -/
def Scope.Excuses (scope : Scope) (fault : Fault) : Prop :=
  ∀ id, fault = .duplicateId id → scope.fileText = .error fault ∨
    ∃ filter doc, scope.filter = some filter ∧ filter doc = .error fault

namespace Run

/-- What a step can do to the store and to the list of invalid code. -/
inductive Effect (scope : Scope) (kinds : Category → Prop) (before after : Progress) : Prop
  | quiet (store : after.store = before.store) (invalid : after.invalid = before.invalid)
  | draw (store : after.store = before.store.draw.2) (invalid : after.invalid = before.invalid)
  | record (doc : Doc) (drawn : doc.id = before.store.nextId)
      (absent : before.store.get? doc.id = none) (moduleId : doc.moduleId = scope.moduleId)
      (filePath : doc.filePath = scope.filePath) (kind : kinds doc.category)
      (store : after.store = ⟨before.store.docs ++ [doc], before.store.nextId + 1⟩)
      (invalid : after.invalid = before.invalid)
  | revise (id : Int) (change : Doc → Doc) (kept : ∀ doc, (change doc).outline = doc.outline)
      (store : after.store = before.store.modify id change)
      (invalid : after.invalid = before.invalid)
  | note (tolerant : scope.policy = .log) (entry : InvalidCode)
      (store : after.store = before.store)
      (invalid : after.invalid = before.invalid ++ [entry])

/-- One state is reached from another by effects. -/
abbrev Reaches (scope : Scope) (kinds : Category → Prop) : Progress → Progress → Prop :=
  Relation.ReflTransGen (Effect scope kinds)

end Run

namespace Store

theorem get?_eq_none_of_below {store : Store} {id : Int} (below : ∀ doc ∈ store.docs, doc.id < id) :
    store.get? id = none := by
  simp only [get?, List.find?_eq_none, beq_iff_eq]
  intro doc isStored same
  have := below doc isStored
  omega

theorem forall_ne_of_get?_eq_none {store : Store} {id : Int} (absent : store.get? id = none) :
    ∀ doc ∈ store.docs, doc.id ≠ id := by
  simpa [get?, List.find?_eq_none] using absent

/-- A record is stored, or left out by the filter, or refused by the filter or for its id. -/
theorem insert_cases (store : Store) (filter : Option Doc.Filter) (doc : Doc) :
    (store.insert filter doc = .ok (true, { store with docs := store.docs ++ [doc] }) ∧
      store.get? doc.id = none) ∨
    (store.insert filter doc = .ok (false, store) ∧ filter.isSome) ∨
    ∃ fault, store.insert filter doc = .error fault ∧
      ((∃ test, filter = some test ∧ test doc = .error fault) ∨
        fault = .duplicateId doc.id ∧ (store.get? doc.id).isSome) := by
  unfold insert
  cases filter with
  | none =>
      cases store.get? doc.id with
      | none =>
          left
          simp [bind, Except.bind, pure, Except.pure]
      | some stored =>
          right
          right
          simp [bind, Except.bind, pure, Except.pure, throw, throwThe, MonadExceptOf.throw]
  | some test =>
      cases passed : test doc with
      | error fault =>
          right
          right
          simp [passed, bind, Except.bind]
      | ok passes =>
          cases passes with
          | false =>
              right
              left
              simp [passed, bind, Except.bind, pure, Except.pure]
          | true =>
              cases store.get? doc.id with
              | none =>
                  left
                  simp [passed, bind, Except.bind, pure, Except.pure]
              | some stored =>
                  right
                  right
                  simp [passed, bind, Except.bind, throw, throwThe, MonadExceptOf.throw]

namespace Disciplined

variable {store : Store}

/-- With distinct ids, every record is found under its own. -/
theorem get?_id (disciplined : store.Disciplined) {doc : Doc}
    (isStored : doc ∈ store.docs) : store.get? doc.id = some doc := by
  rcases store with ⟨docs, nextId⟩
  have distinct := disciplined.distinct
  simp only [Store.get?] at isStored distinct ⊢
  clear disciplined
  induction docs with
  | nil => exact absurd isStored List.not_mem_nil
  | cons first rest ih =>
      rw [List.map_cons, List.nodup_cons] at distinct
      rcases List.mem_cons.1 isStored with rfl | isLater
      · simp
      · have other : first.id ≠ doc.id := by
          intro same
          exact distinct.1 (same ▸ List.mem_map_of_mem isLater)
        rw [List.find?_cons_of_neg (by simpa using other)]
        exact ih isLater distinct.2

end Disciplined

end Store

namespace Run

variable {scope : Scope} {kinds : Category → Prop} {before after : Progress}

theorem Reaches.quiet (store : after.store = before.store)
    (invalid : after.invalid = before.invalid) : Reaches scope kinds before after :=
  .single (.quiet store invalid)

theorem Reaches.mono {others : Category → Prop} (more : ∀ category, kinds category → others category)
    (reaches : Reaches scope kinds before after) : Reaches scope others before after := by
  refine Relation.ReflTransGen.mono (fun first second effect => ?_) _ _ reaches
  cases effect with
  | quiet store invalid => exact .quiet store invalid
  | draw store invalid => exact .draw store invalid
  | record doc drawn absent moduleId filePath kind store invalid =>
      exact .record doc drawn absent moduleId filePath (more _ kind) store invalid
  | revise id change kept store invalid => exact .revise id change kept store invalid
  | note tolerant entry store invalid => exact .note tolerant entry store invalid

/-- Entries about invalid code are only ever added. -/
theorem Reaches.keeps_invalid (reaches : Reaches scope kinds before after) :
    before.invalid <+: after.invalid := by
  induction reaches with
  | refl => exact List.prefix_rfl
  | tail _ effect ih =>
      refine ih.trans ?_
      cases effect with
      | quiet _ invalid => exact invalid ▸ List.prefix_rfl
      | draw _ invalid => exact invalid ▸ List.prefix_rfl
      | record _ _ _ _ _ _ _ invalid => exact invalid ▸ List.prefix_rfl
      | revise _ _ _ _ invalid => exact invalid ▸ List.prefix_rfl
      | note _ entry _ invalid => exact invalid ▸ List.prefix_append _ _

/-- Under the strict policy nothing is noted. -/
theorem Reaches.invalid_of_stop (strict : scope.policy = .stop)
    (reaches : Reaches scope kinds before after) : after.invalid = before.invalid := by
  induction reaches with
  | refl => rfl
  | tail _ effect ih =>
      rw [← ih]
      cases effect with
      | quiet _ invalid => exact invalid
      | draw _ invalid => exact invalid
      | record _ _ _ _ _ _ _ invalid => exact invalid
      | revise _ _ _ _ invalid => exact invalid
      | note tolerant entry _ _ =>
          rw [strict] at tolerant
          cases tolerant

/-- Where nothing is noted on the whole, nothing is noted on the way. -/
theorem invalid_unchanged {middle : Progress} (first : before.invalid <+: middle.invalid)
    (second : middle.invalid <+: after.invalid) (nothing : after.invalid = before.invalid) :
    middle.invalid = before.invalid ∧ after.invalid = middle.invalid := by
  have longer := second.length_le
  rw [nothing] at longer
  have same := first.eq_of_length_le longer
  exact ⟨same.symm, nothing.trans same⟩

end Run

end DocHarvest
