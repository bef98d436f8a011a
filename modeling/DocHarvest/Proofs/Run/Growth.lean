import DocHarvest.Proofs.Run.Effect

/-!
# How the store grows

Whatever effects a run has, the records that were there stay where they are with their outlines, and
new records follow them under ids that were drawn on the way. `Store.Grows` says so about two states
of the store, and what it says about new records is left open: any property of outlines that holds of
a record when it is stored.
-/

namespace DocHarvest

/-- Old records keep their places and outlines; new ones follow, in the order of their ids. -/
structure Store.Grows (fits : Doc → Prop) (before after : Store) : Prop where
  counter : before.nextId ≤ after.nextId
  docs : ∃ kept added, after.docs = kept ++ added ∧
    kept.map Doc.outline = before.docs.map Doc.outline ∧
    (added.map Doc.id).Pairwise (· < ·) ∧
    ∀ doc ∈ added, before.nextId ≤ doc.id ∧ doc.id < after.nextId ∧ fits doc.outline

theorem ids_eq_of_outlines {left right : List Doc}
    (same : left.map Doc.outline = right.map Doc.outline) :
    left.map Doc.id = right.map Doc.id := by
  have sameIds := congrArg (List.map Doc.id) same
  simp only [List.map_map] at sameIds
  exact sameIds

theorem Store.outlines_modify (store : Store) (id : Int) {change : Doc → Doc}
    (kept : ∀ doc, (change doc).outline = doc.outline) :
    (store.modify id change).docs.map Doc.outline = store.docs.map Doc.outline := by
  simp only [Store.modify, List.map_map]
  apply List.map_congr_left
  intro doc _
  simp only [Function.comp_apply]
  split
  · exact kept doc
  · rfl

theorem Store.nodup_ids_append {store : Store} {doc : Doc}
    (distinct : (store.docs.map Doc.id).Nodup) (absent : store.get? doc.id = none) :
    ((store.docs ++ [doc]).map Doc.id).Nodup := by
  rw [List.map_append, List.nodup_append]
  refine ⟨distinct, by simp, ?_⟩
  intro oldId isOld newId isNew
  rcases List.mem_map.1 isOld with ⟨old, isStored, rfl⟩
  cases List.mem_singleton.1 isNew
  exact Store.forall_ne_of_get?_eq_none absent old isStored

namespace Store.Grows

variable {fits : Doc → Prop} {before middle after : Store}

theorem refl (store : Store) : Grows fits store store where
  counter := Int.le_refl _
  docs := ⟨store.docs, [], by simp, rfl, by simp, by simp⟩

theorem draw (store : Store) : Grows fits store store.draw.2 where
  counter := by
    simp only [Store.draw]
    omega
  docs := ⟨store.docs, [], by simp [Store.draw], rfl, by simp, by simp⟩

theorem record {store : Store} {doc : Doc} (drawn : doc.id = store.nextId)
    (isFit : fits doc.outline) : Grows fits store ⟨store.docs ++ [doc], store.nextId + 1⟩ where
  counter := by
    simp only
    omega
  docs := by
    refine ⟨store.docs, [doc], rfl, rfl, by simp, ?_⟩
    simp only [List.mem_singleton, forall_eq]
    exact ⟨by omega, by omega, isFit⟩

theorem revise (store : Store) (id : Int) {change : Doc → Doc}
    (kept : ∀ doc, (change doc).outline = doc.outline) :
    Grows fits store (store.modify id change) where
  counter := Int.le_refl _
  docs := ⟨(store.modify id change).docs, [], by simp, store.outlines_modify id kept, by simp,
    by simp⟩

theorem mono {others : Doc → Prop} (grows : Grows fits before after)
    (more : ∀ doc, before.nextId ≤ doc.id → doc.id < after.nextId → fits doc → others doc) :
    Grows others before after where
  counter := grows.counter
  docs := by
    rcases grows.docs with ⟨kept, added, same, outlines, increasing, fit⟩
    refine ⟨kept, added, same, outlines, increasing, fun doc isAdded => ?_⟩
    rcases fit doc isAdded with ⟨low, high, isFit⟩
    exact ⟨low, high, more _ low high isFit⟩

/-- The records that the first part adds are old ones for the second part. -/
theorem trans (first : Grows fits before middle) (second : Grows fits middle after) :
    Grows fits before after where
  counter := Int.le_trans first.counter second.counter
  docs := by
    rcases first.docs with ⟨kept, early, sameMiddle, outlines, increasing, fit⟩
    rcases second.docs with ⟨held, late, sameAfter, outlinesToo, increasingToo, fitToo⟩
    rw [sameMiddle, List.map_append] at outlinesToo
    rcases List.map_eq_append_iff.1 outlinesToo with ⟨keptToo, earlyToo, rfl, keptSame, earlySame⟩
    have sameIds : earlyToo.map Doc.id = early.map Doc.id := ids_eq_of_outlines earlySame
    have earlyFit : ∀ doc ∈ earlyToo,
        before.nextId ≤ doc.id ∧ doc.id < middle.nextId ∧ fits doc.outline := by
      intro doc isEarly
      have isOutline : doc.outline ∈ early.map Doc.outline :=
        earlySame ▸ List.mem_map_of_mem isEarly
      rcases List.mem_map.1 isOutline with ⟨original, wasEarly, same⟩
      rcases fit original wasEarly with ⟨low, high, isFit⟩
      rw [← Doc.id_eq_of_outline same, ← same]
      exact ⟨low, high, isFit⟩
    have counters := second.counter
    have start := first.counter
    refine ⟨keptToo, earlyToo ++ late, by simp [sameAfter], keptSame.trans outlines, ?_, ?_⟩
    · rw [List.map_append, List.pairwise_append]
      refine ⟨sameIds ▸ increasing, increasingToo, ?_⟩
      intro earlyId isEarly lateId isLate
      rcases List.mem_map.1 isEarly with ⟨earlyDoc, inEarly, rfl⟩
      rcases List.mem_map.1 isLate with ⟨lateDoc, inLate, rfl⟩
      have := (earlyFit earlyDoc inEarly).2.1
      have := (fitToo lateDoc inLate).1
      omega
    · intro doc isAdded
      rcases List.mem_append.1 isAdded with isEarly | isLate
      · rcases earlyFit doc isEarly with ⟨low, high, isFit⟩
        exact ⟨low, by omega, isFit⟩
      · rcases fitToo doc isLate with ⟨low, high, isFit⟩
        exact ⟨by omega, high, isFit⟩

/-- A record is never lost, and keeps all that exports do not change. -/
theorem exists_outline (grows : Grows fits before after) {doc : Doc} (isStored : doc ∈ before.docs) :
    ∃ last ∈ after.docs, last.outline = doc.outline := by
  rcases grows.docs with ⟨kept, added, same, outlines, -⟩
  have isOutline : doc.outline ∈ kept.map Doc.outline := outlines ▸ List.mem_map_of_mem isStored
  rcases List.mem_map.1 isOutline with ⟨last, isKept, sameOutline⟩
  exact ⟨last, same ▸ List.mem_append_left _ isKept, sameOutline⟩

theorem disciplined (grows : Grows fits before after) (disciplined : before.Disciplined) :
    after.Disciplined := by
  rcases grows.docs with ⟨kept, added, same, outlines, increasing, fit⟩
  have sameIds : kept.map Doc.id = before.docs.map Doc.id := ids_eq_of_outlines outlines
  have keptBelow : ∀ doc ∈ kept, doc.id < before.nextId := by
    intro doc isKept
    have isId : doc.id ∈ before.docs.map Doc.id := sameIds ▸ List.mem_map_of_mem isKept
    rcases List.mem_map.1 isId with ⟨original, isStored, sameId⟩
    rw [← sameId]
    exact disciplined.below original isStored
  constructor
  · rw [same, List.map_append, List.nodup_append, sameIds]
    refine ⟨disciplined.distinct, increasing.imp Int.ne_of_lt, ?_⟩
    intro oldId isOld newId isNew equal
    rcases List.mem_map.1 isNew with ⟨new, isAdded, rfl⟩
    rcases List.mem_map.1 isOld with ⟨old, isStored, rfl⟩
    have := disciplined.below old isStored
    have := (fit new isAdded).1
    omega
  · intro doc isStored
    rw [same] at isStored
    rcases List.mem_append.1 isStored with isKept | isAdded
    · have := keptBelow doc isKept
      have := grows.counter
      omega
    · exact (fit doc isAdded).2.1

end Store.Grows

/-- A record of the module of a scope, of one of some kinds. -/
structure Scope.Fits (scope : Scope) (kinds : Category → Prop) (doc : Doc) : Prop where
  moduleId : doc.moduleId = scope.moduleId
  filePath : doc.filePath = scope.filePath
  kind : kinds doc.category

namespace Run

variable {scope : Scope} {kinds : Category → Prop} {before after : Progress}

theorem Effect.grows (effect : Effect scope kinds before after) :
    before.store.Grows (scope.Fits kinds) after.store := by
  cases effect with
  | quiet store _ => exact store ▸ .refl _
  | draw store _ => exact store ▸ .draw _
  | record doc drawn _ moduleId filePath kind store _ =>
      exact store ▸ .record drawn ⟨moduleId, filePath, kind⟩
  | revise id change kept store _ => exact store ▸ .revise _ id kept
  | note _ _ store _ => exact store ▸ .refl _

theorem Reaches.grows (reaches : Reaches scope kinds before after) :
    before.store.Grows (scope.Fits kinds) after.store := by
  induction reaches with
  | refl => exact .refl _
  | tail _ effect ih => exact ih.trans effect.grows

theorem Reaches.disciplined (reaches : Reaches scope kinds before after)
    (disciplined : before.store.Disciplined) : after.store.Disciplined :=
  reaches.grows.disciplined disciplined

/-- Records that have ids of their own at the start have them ever after. -/
theorem Reaches.distinct (reaches : Reaches scope kinds before after)
    (distinct : (before.store.docs.map Doc.id).Nodup) : (after.store.docs.map Doc.id).Nodup := by
  induction reaches with
  | refl => exact distinct
  | tail _ effect ih =>
      cases effect with
      | quiet store _ => rwa [store]
      | draw store _ => rwa [store]
      | record doc _ absent _ _ _ store _ =>
          rw [store]
          exact Store.nodup_ids_append ih absent
      | revise id change kept store _ =>
          rwa [store, ids_eq_of_outlines (Store.outlines_modify _ id kept)]
      | note _ _ store _ => rwa [store]

end Run

end DocHarvest
