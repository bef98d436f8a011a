import DocHarvest.Proofs.Module.Applying

/-!
# What a plan makes of one record

A record that a plan revises at all is revised as exports do it, and it ends with the one type that
the plan gives it. A look-up finds the revised record, or else a record that the plan adds.
-/

namespace DocHarvest

/-! ## Records that are revised -/

namespace Doc

variable {plan : List Mutation} {doc : Doc}

theorem revisedBy_cons (mutation : Mutation) :
    doc.revisedBy (mutation :: plan) =
      ((mutation.revision? doc.id).elim doc fun change => change doc).revisedBy plan := by
  cases isRevision : mutation.revision? doc.id with
  | none => rw [revisedBy, List.filterMap_cons_none isRevision, Option.elim_none, revisedBy]
  | some change =>
      have sameId : (change doc).id = doc.id :=
        id_eq_of_outline (Mutation.outline_of_revision? isRevision doc)
      rw [revisedBy, List.filterMap_cons_some isRevision, List.foldl_cons, Option.elim_some,
        revisedBy, sameId]

theorem revisedBy_update (id : Int) (change : ExportChange) :
    doc.revisedBy (.update id change :: plan) =
      if id = doc.id then (change.apply doc).revisedBy plan else doc.revisedBy plan := by
  rw [revisedBy_cons, Mutation.revision?]
  split <;> rfl

theorem revisedBy_append (id : Int) (text : String) :
    doc.revisedBy (.append id text :: plan) =
      if id = doc.id then (doc.describeMore text).revisedBy plan else doc.revisedBy plan := by
  rw [revisedBy_cons, Mutation.revision?]
  split <;> rfl

theorem revisedBy_insert (record : Doc) :
    doc.revisedBy (.insert record :: plan) = doc.revisedBy plan :=
  rfl

/-- A record ends with a type if the plan gives it this one and no other. -/
theorem type_revisedBy {type : Param}
    (gives : doc.type = some type ∨
      ∃ change, .update doc.id change ∈ plan ∧ change.type = some type)
    (only : ∀ change other, .update doc.id change ∈ plan → change.type = some other →
      other = type) : (doc.revisedBy plan).type = some type := by
  induction plan generalizing doc with
  | nil =>
      rcases gives with isTyped | ⟨change, impossible, -⟩
      · exact isTyped
      · cases impossible
  | cons mutation plan ih =>
      have onlyLater (change : ExportChange) (other : Param)
          (planned : .update doc.id change ∈ plan) :=
        only change other (List.mem_cons_of_mem _ planned)
      -- what the first mutation does not give, the rest of the plan gives
      have givesLater (bare : ∀ change, mutation = .update doc.id change → change.type = none) :
          doc.type = some type ∨ ∃ change, .update doc.id change ∈ plan ∧
            change.type = some type := by
        refine gives.imp_right ?_
        rintro ⟨change, planned, isTyped⟩
        rcases List.mem_cons.1 planned with same | later
        · rw [bare change same.symm] at isTyped
          cases isTyped
        · exact ⟨change, later, isTyped⟩
      cases mutation with
      | update id change =>
          rw [revisedBy_update]
          split
          · rename_i sameId
            subst sameId
            refine ih ?_ onlyLater
            cases isTyped : change.type with
            | some other =>
                left
                rw [← only change other (List.mem_cons_self ..) isTyped]
                simp [ExportChange.apply, isTyped]
            | none =>
                have kept : (change.apply doc).type = doc.type := by
                  simp [ExportChange.apply, isTyped]
                rw [kept]
                apply givesLater
                rintro _ ⟨⟩
                exact isTyped
          · rename_i otherId
            refine ih (givesLater ?_) onlyLater
            rintro _ ⟨⟩
            exact absurd rfl otherId
      | append id text =>
          have idKept : (doc.describeMore text).id = doc.id :=
            id_eq_of_outline (Export.outline_describeMore text doc)
          have later := givesLater (by rintro _ ⟨⟩)
          rw [revisedBy_append]
          split
          · apply ih
            · rwa [Export.type_describeMore, idKept]
            · rwa [idKept]
          · exact ih later onlyLater
      | insert record =>
          rw [revisedBy_insert]
          exact ih (givesLater (by rintro _ ⟨⟩)) onlyLater

/-- A first revision is followed by more of them, or it is the only one. -/
theorem Revised.revisedBy {next : Doc} (first : doc.Revised next)
    (later : plan.filterMap (Mutation.revision? next.id) ≠ [] →
      next.Revised (next.revisedBy plan)) : doc.Revised (next.revisedBy plan) := by
  by_cases spared : plan.filterMap (Mutation.revision? next.id) = []
  · rwa [revisedBy_of_spared spared]
  · exact first.trans (later spared)

end Doc

/-- The record that a plan is about is told by its id. -/
theorem Store.Targets.of_mem {filePath : String} {store : Store} {category : Category} {old : Doc}
    (target : store.Targets filePath category old.id) (distinct : (store.docs.map Doc.id).Nodup)
    (isStored : old ∈ store.docs) : old.category = category ∧ old.filePath = filePath := by
  rcases target with ⟨place, targeted, first, isTarget, rfl, rfl⟩
  rw [List.inj_on_of_nodup_map distinct (List.mem_of_getElem? first.stored) isStored isTarget]
  exact ⟨rfl, rfl⟩

/-- A record that a plan revises at all is revised as exports do it. -/
theorem Edits.revised {filePath : String} {store : Store} {plan : List Mutation}
    (edits : Edits filePath store plan) (distinct : (store.docs.map Doc.id).Nodup) {old doc : Doc}
    (isStored : old ∈ store.docs) (outline : doc.outline = old.outline)
    (touched : plan.filterMap (Mutation.revision? doc.id) ≠ []) :
    doc.Revised (doc.revisedBy plan) := by
  induction edits generalizing doc with
  | nil => exact absurd rfl touched
  | @update category id change rest target suits _ ih =>
      rw [Doc.revisedBy_update]
      split
      · rename_i isTarget
        rw [isTarget, Doc.id_eq_of_outline outline] at target
        rcases target.of_mem distinct isStored with ⟨inCategory, located⟩
        rw [← located, ← Doc.filePath_eq_of_outline outline] at suits
        have revised := suits.revises ((Doc.category_eq_of_outline outline).trans inCategory)
        exact revised.revisedBy fun touchedToo => ih (revised.outline.trans outline) touchedToo
      · rename_i isOther
        have bare : (Mutation.update id change).revision? doc.id = none := if_neg isOther
        rw [List.filterMap_cons_none bare] at touched
        exact ih outline touched
  | @describe id text change rest target suits _ ih =>
      have kept := Export.outline_describeMore text doc
      rw [Doc.revisedBy_append]
      split
      · rename_i isTarget
        rw [isTarget, Doc.id_eq_of_outline outline] at target
        rcases target.of_mem distinct isStored with ⟨isVariable, located⟩
        rw [← located, ← Doc.filePath_eq_of_outline outline] at suits
        have revised := suits.revises_described text
          ((Doc.category_eq_of_outline outline).trans isVariable)
        rw [Doc.revisedBy_update, if_pos (isTarget.trans (Doc.id_eq_of_outline kept).symm)]
        exact revised.revisedBy fun touchedToo => ih (kept.trans outline) touchedToo
      · rename_i isOther
        have bare : (Mutation.append id text).revision? doc.id = none := if_neg isOther
        have bareToo : (Mutation.update id change).revision? doc.id = none := if_neg isOther
        rw [List.filterMap_cons_none bare, List.filterMap_cons_none bareToo] at touched
        rw [Doc.revisedBy_update, if_neg isOther]
        exact ih outline touched
  | @insert record rest _ _ _ ih =>
      rw [Doc.revisedBy_insert]
      exact ih outline touched

/-! ## What is found afterwards -/

theorem Doc.isCalled_of_outline {category : Category} {name filePath : String} {old new : Doc}
    (same : new.outline = old.outline) :
    new.isCalled category name filePath = old.isCalled category name filePath := by
  rw [isCalled, isCalled, category_eq_of_outline same, name_eq_of_outline same,
    filePath_eq_of_outline same]

/-- Under a category and a name the revised records are called as they were before. -/
theorem Doc.find?_revisedBy (plan : List Mutation) (docs : List Doc) (category : Category)
    (name filePath : String) :
    (docs.map (Doc.revisedBy plan)).find? (Doc.isCalled category name filePath) =
      (docs.find? (Doc.isCalled category name filePath)).map (Doc.revisedBy plan) := by
  have blind : Doc.isCalled category name filePath ∘ Doc.revisedBy plan =
      Doc.isCalled category name filePath := by
    funext doc
    exact Doc.isCalled_of_outline (Doc.outline_revisedBy plan doc)
  rw [List.find?_map, blind]

theorem Mutation.mem_records {plan : List Mutation} {record : Doc} :
    record ∈ plan.filterMap Mutation.record? ↔ .insert record ∈ plan := by
  rw [List.mem_filterMap]
  constructor
  · rintro ⟨mutation, planned, isRecord⟩
    cases mutation with
    | insert doc =>
        cases isRecord
        exact planned
    | update id change => cases isRecord
    | append id text => cases isRecord
  · intro planned
    exact ⟨.insert record, planned, rfl⟩

namespace Store.Applied

variable {plan : List Mutation} {lets : Doc → Bool} {before after : Store} {category : Category}
  {name filePath : String}

/-- A record that was found is found again, as the plan has revised it. -/
theorem lookup?_of_some (applied : before.Applied plan lets after) {doc : Doc}
    (found : before.lookup? category name filePath = some doc) :
    after.lookup? category name filePath = some (doc.revisedBy plan) := by
  cases nameless : name.isEmpty with
  | true =>
      rw [lookup?_of_isEmpty _ _ nameless] at found
      cases found
  | false =>
      obtain ⟨added, stored, -, -⟩ := applied.docs
      rw [lookup?_eq _ _ nameless] at found
      rw [lookup?_eq _ _ nameless, stored, List.find?_append, Doc.find?_revisedBy, found]
      rfl

/-- Where nothing was found, a record that the plan adds is found, up to its id. -/
theorem lookup?_of_none (applied : before.Applied plan lets after) {record : Doc}
    (planned : .insert record ∈ plan) (isLet : lets record)
    (called : record.isCalled category name filePath) (nameless : name.isEmpty = false)
    (missing : before.lookup? category name filePath = none) :
    ∃ updated other, after.lookup? category name filePath = some updated ∧
      .insert other ∈ plan ∧ other.unnumbered = updated.unnumbered := by
  obtain ⟨added, stored, records, -⟩ := applied.docs
  rw [lookup?_eq _ _ nameless] at missing
  rw [lookup?_eq _ _ nameless, stored, List.find?_append, Doc.find?_revisedBy, missing]
  have isRecord : record.unnumbered ∈ added.map Doc.unnumbered := by
    rw [records]
    exact List.mem_map_of_mem (List.mem_filter.2 ⟨Mutation.mem_records.2 planned, isLet⟩)
  obtain ⟨copy, isAdded, same⟩ := List.mem_map.1 isRecord
  have isCalled : copy.isCalled category name filePath :=
    (congrArg (Doc.isCalled category name filePath) same :).trans called
  have isFound : (added.find? (Doc.isCalled category name filePath)).isSome :=
    List.find?_isSome.2 ⟨copy, isAdded, isCalled⟩
  obtain ⟨updated, found⟩ := Option.isSome_iff_exists.1 isFound
  have isUpdated := List.mem_map_of_mem (f := Doc.unnumbered) (List.mem_of_find?_eq_some found)
  rw [records] at isUpdated
  obtain ⟨other, isOther, sameToo⟩ := List.mem_map.1 isUpdated
  exact ⟨updated, other, by simp [found], Mutation.mem_records.1 (List.mem_filter.1 isOther).1,
    sameToo⟩

end Store.Applied

end DocHarvest
