import DocHarvest.Proofs.Module.Planning
import DocHarvest.Proofs.Module.Trails
import DocHarvest.Proofs.Module.Writing

/-!
# Which records are exported

The plans of the deferred exports are applied one after the other. Each keeps the store on track, so
in the end a record of the walk is marked exactly if one of the exports refers to it.
-/

namespace DocHarvest

open Run

namespace Tracks

variable {scope : Scope} {filePath : String} {base store : Store} {marked : Int → Prop}

/-- A record may be changed in what its outline leaves out. -/
theorem modify (tracks : Tracks filePath base marked store) (id : Int) {change : Doc → Doc}
    {marks : Prop} (outline : ∀ doc, (change doc).outline = doc.outline)
    (exported : ∀ doc, (change doc).exported = true ↔ doc.exported = true ∨ marks) :
    Tracks filePath base (fun other => marked other ∨ other = id ∧ marks)
      (store.modify id change) := by
  rcases tracks.docs with ⟨kept, added, stored, pairs, companions⟩
  have same (doc : Doc) : (if doc.id == id then change doc else doc).outline = doc.outline := by
    split
    · exact outline doc
    · rfl
  constructor
  · rw [ids_eq_of_outlines (store.outlines_modify id outline)]
    exact tracks.distinct
  · refine ⟨kept.map fun doc => if doc.id == id then change doc else doc,
      added.map fun doc => if doc.id == id then change doc else doc, ?_, ?_, ?_⟩
    · simp only [Store.modify, stored, List.map_append]
    · rw [List.forall₂_map_right_iff]
      refine pairs.imp ?_
      rintro old new ⟨sameOutline, wasExported⟩
      refine ⟨(same new).trans sameOutline, ?_⟩
      have sameId := Doc.id_eq_of_outline sameOutline
      by_cases isChanged : new.id = id
      · simp [isChanged, exported, wasExported, ← sameId, or_assoc]
      · simp [isChanged, wasExported, ← sameId]
    · intro doc isAdded
      rcases List.mem_map.1 isAdded with ⟨original, wasAdded, rfl⟩
      rw [Doc.IsCompanion, Doc.category_eq_of_outline (same original),
        Doc.name_eq_of_outline (same original)]
      exact companions original wasAdded

theorem insert (tracks : Tracks filePath base marked store) {doc : Doc}
    (absent : store.get? doc.id = none) (companion : doc.IsCompanion filePath base)
    (nextId : Int) : Tracks filePath base marked ⟨store.docs ++ [doc], nextId⟩ := by
  rcases tracks.docs with ⟨kept, added, stored, pairs, companions⟩
  constructor
  · exact Store.nodup_ids_append tracks.distinct absent
  · refine ⟨kept, added ++ [doc], by simp [stored], pairs, ?_⟩
    intro other isAdded
    rcases List.mem_append.1 isAdded with wasAdded | isNew
    · exact companions other wasAdded
    · rw [List.mem_singleton.1 isNew]
      exact companion

theorem split (tracks : Tracks filePath base marked store) {first second : List Doc}
    (parts : base.docs = first ++ second) :
    ∃ earlier final added, store.docs = earlier ++ final ++ added ∧
      earlier.map Doc.outline = first.map Doc.outline ∧
      List.Forall₂ (fun old new => new.outline = old.outline ∧
        (new.exported = true ↔ old.exported = true ∨ marked old.id)) second final := by
  rcases tracks.docs with ⟨kept, added, stored, pairs, -⟩
  rw [parts] at pairs
  refine ⟨kept.take first.length, kept.drop first.length, added, ?_, ?_, ?_⟩
  · rw [List.take_append_drop]
    exact stored
  · have ofFirst := List.forall₂_take first.length pairs
    rw [List.take_left] at ofFirst
    exact outlines_eq ofFirst
  · have ofSecond := List.forall₂_drop first.length pairs
    rwa [List.drop_left] at ofSecond

/-- A record of a variable that is unknown now is one of a variable that the walk did not record. -/
theorem companion {filePath : String} (tracks : Tracks filePath base marked store) {doc : Doc}
    (companion : doc.IsCompanion filePath store) : doc.IsCompanion filePath base := by
  rcases companion with ⟨category, name, named, missing⟩
  refine ⟨category, name, named, ?_⟩
  cases recorded : base.lookup? .moduleVariable name filePath with
  | none => rfl
  | some old =>
      rcases tracks.lookup?_of_some recorded with ⟨new, found, -⟩
      cases missing.symm.trans found

/-- The styles that an export gives do not depend on what is planned before it. -/
theorem stylings_eq (tracks : Tracks scope.filePath base marked store) (exportNode : Node) :
    Export.stylings scope store exportNode = Export.stylings scope base exportNode := by
  simp only [Export.stylings, Export.styledDefault, Export.styledInstance,
    tracks.isSome_lookup?_moduleClass]

/-- A styling is about the same record of the walk, whatever is planned before. -/
theorem filter_restyling? {filePath : String} (tracks : Tracks filePath base marked store)
    (styling : Styling) {id : Int} (isOld : id ∈ base.docs.map Doc.id) :
    (styling.restyling? filePath store).filter (fun restyling => restyling.1 == id) =
      (styling.restyling? filePath base).filter fun restyling => restyling.1 == id := by
  unfold Styling.restyling?
  cases recorded : base.lookup? styling.category styling.name filePath with
  | some old =>
      rcases tracks.lookup?_of_some recorded with ⟨new, found, same⟩
      rw [found, Option.map_some, Option.map_some, same]
  | none =>
      cases found : store.lookup? styling.category styling.name filePath with
      | none => rfl
      | some new =>
          have other : new.id ≠ id := by
            rintro rfl
            exact (tracks.lookup?_of_none recorded found).2 isOld
          simp [other]

/-- An export gives the same styles to a record of the walk, whatever is planned before it. -/
theorem filter_restylings (tracks : Tracks scope.filePath base marked store) (exportNode : Node)
    {id : Int} (isOld : id ∈ base.docs.map Doc.id) :
    (Export.restylings scope store exportNode).filter (fun restyling => restyling.1 == id) =
      (Export.restylings scope base exportNode).filter fun restyling => restyling.1 == id := by
  unfold Export.restylings
  rw [tracks.stylings_eq, List.filter_filterMap, List.filter_filterMap]
  simp only [tracks.filter_restyling? _ isOld]

/-- The records of the walk that an export restyles are those that it refers to. -/
theorem restyled_iff_refers (tracks : Tracks scope.filePath base marked store) (exportNode : Node)
    {id : Int} (isOld : id ∈ base.docs.map Doc.id) :
    (∃ style, (id, style) ∈ Export.restylings scope store exportNode) ↔
      base.Refers scope.filePath (Export.names scope base exportNode) id := by
  rw [← Export.exists_restyling_iff]
  refine exists_congr fun style => ?_
  have same := congrArg ((id, style) ∈ ·) (tracks.filter_restylings exportNode isOld)
  simpa [List.mem_filter] using same

end Tracks

namespace Export

variable {scope : Scope} {base : Store} {marked : Int → Prop} {before after : Progress}

/-- A mutation marks the record that it updates. -/
theorem applyOne_tracks (unfiltered : scope.filter = none) {mutation : Mutation}
    (companions : ∀ doc, mutation = .insert doc → doc.IsCompanion scope.filePath base)
    (tracks : Tracks scope.filePath base marked before.store)
    (ended : Ends (applyOne scope mutation) before (.ok ()) after) :
    Tracks scope.filePath base
      (fun id => marked id ∨ ∃ change, mutation = .update id change) after.store := by
  cases mutation with
  | update id change =>
      rcases ends_modify.1 ended with ⟨-, rfl⟩
      have changed : Tracks scope.filePath base (fun other => marked other ∨ other = id ∧ True)
          (before.store.modify id change.apply) :=
        tracks.modify id (fun _ => rfl) fun doc => by simp [ExportChange.apply]
      refine changed.congr fun other _ => ?_
      simp [eq_comm]
  | append id text =>
      rcases ends_modify.1 ended with ⟨-, rfl⟩
      have changed : Tracks scope.filePath base (fun other => marked other ∨ other = id ∧ False)
          (before.store.modify id (Doc.describeMore text)) :=
        tracks.modify id (outline_describeMore text) fun doc => by
          unfold Doc.describeMore
          split <;> simp
      refine changed.congr fun other _ => ?_
      simp
  | insert doc =>
      rcases store_of_insert unfiltered ended with ⟨absent, stored⟩
      let numbered : Doc := { doc with id := before.store.nextId }
      have companion : numbered.IsCompanion scope.filePath base := companions doc rfl
      have added := tracks.insert absent companion (before.store.nextId + 1)
      rw [stored]
      refine added.congr fun other _ => ?_
      simp

theorem applyAll_tracks (unfiltered : scope.filter = none) {plan : List Mutation}
    (companions : ∀ doc, Mutation.insert doc ∈ plan → doc.IsCompanion scope.filePath base)
    (tracks : Tracks scope.filePath base marked before.store)
    (ended : Ends (applyAll scope plan) before (.ok ()) after) :
    Tracks scope.filePath base
      (fun id => marked id ∨ ∃ change, Mutation.update id change ∈ plan) after.store := by
  unfold applyAll at ended
  induction plan generalizing marked before with
  | nil =>
      rcases ends_forM_nil.1 ended with ⟨-, rfl⟩
      exact tracks.congr fun id _ => by simp
  | cons mutation plan ih =>
      rw [forM_cons] at ended
      rcases ends_bind_ok.1 ended with ⟨_, middle, first, rest⟩
      have stepped := applyOne_tracks unfiltered
        (fun doc isInsert => companions doc (isInsert ▸ List.mem_cons_self ..)) tracks first
      have finished := ih (fun doc planned => companions doc (List.mem_cons_of_mem _ planned))
        stepped rest
      refine finished.congr fun id _ => ?_
      simp only [List.mem_cons, exists_or, or_assoc, eq_comm]

end Export

namespace Module

variable {scope : Scope} {base : Store} {marked : Int → Prop} {before after : Progress}

theorem resolve_tracks (unfiltered : scope.filter = none) {exportNode : Node}
    (tracks : Tracks scope.filePath base marked before.store)
    (ended : Ends (resolve scope exportNode) before (.ok ()) after)
    (faultless : after.invalid = before.invalid) :
    Tracks scope.filePath base (fun id => marked id ∨
      base.Refers scope.filePath (Export.names scope base exportNode) id) after.store := by
  have ran := ends_guarded_of_invalid (planned_sound scope exportNode) ended faultless
  rcases ends_bind_ok.1 ran with ⟨plan, planned, planning, applied⟩
  have carries := Export.plan_plans exportNode planning
  have store := Export.plan_reads exportNode planning
  have marks := Export.applyAll_tracks unfiltered
    (fun doc planned => tracks.companion (carries.inserts doc planned)) (store ▸ tracks) applied
  refine marks.congr fun id isOld => or_congr_right ?_
  rw [carries.exists_update_iff]
  exact tracks.restyled_iff_refers exportNode isOld

/-- Resolving all exports marks the records that one of them refers to. -/
theorem forM_resolve_tracks (unfiltered : scope.filter = none) {pending : List Node}
    (tracks : Tracks scope.filePath base marked before.store)
    (ended : Ends (pending.forM (resolve scope)) before (.ok ()) after)
    (faultless : after.invalid = before.invalid) :
    Tracks scope.filePath base (fun id => marked id ∨ ∃ exportNode ∈ pending,
      base.Refers scope.filePath (Export.names scope base exportNode) id) after.store := by
  induction pending generalizing marked before with
  | nil =>
      rcases ends_forM_nil.1 ended with ⟨-, rfl⟩
      exact tracks.congr fun id _ => by simp
  | cons exportNode pending ih =>
      rcases Sound.ends_forM_cons (resolve_sound scope) ended faultless with
        ⟨middle, first, same, rest, sameToo⟩
      have stepped := resolve_tracks unfiltered tracks first same
      refine (ih stepped rest sameToo).congr fun id _ => ?_
      simp only [List.mem_cons, exists_eq_or_imp, or_assoc]

/-- The second pass resolves the exports that were put aside, and forgets them. -/
theorem ends_secondPass (ended : Ends (secondPass scope) before (.ok ()) after) :
    ∃ resolved, Ends (before.pending.forM (resolve scope)) before (.ok ()) resolved ∧
      after = { resolved with pending := [] } := by
  rcases ends_bind_ok.1 ended with ⟨state, _, got, rest⟩
  rcases ends_get.1 got with ⟨same, rfl⟩
  cases same
  rcases ends_bind_ok.1 rest with ⟨_, resolved, resolving, cleared⟩
  exact ⟨resolved, resolving, (ends_modify.1 cleared).2⟩

/-- The second pass marks the records that one of the exports put aside refers to. -/
theorem secondPass_tracks (unfiltered : scope.filter = none)
    (distinct : (before.store.docs.map Doc.id).Nodup)
    (ended : Ends (secondPass scope) before (.ok ()) after)
    (faultless : after.invalid = before.invalid) :
    Tracks scope.filePath before.store (fun id => ∃ exportNode ∈ before.pending,
      before.store.Refers scope.filePath (Export.names scope before.store exportNode) id)
      after.store := by
  rcases ends_secondPass ended with ⟨resolved, resolving, rfl⟩
  have tracks := forM_resolve_tracks unfiltered (.start distinct) resolving faultless
  exact tracks.congr fun id _ => by simp

end Module

/-- An export names a record, which is the first one of its category and name in the module. -/
def Doc.IsNamedBy (scope : Scope) (store : Store) (exportNode : Node) (doc : Doc) : Prop :=
  ∃ name, (doc.category, name) ∈ Export.names scope store exportNode ∧
    store.lookup? doc.category name scope.filePath = some doc

theorem Store.refers_iff {scope : Scope} {store : Store} {exportNode : Node} {doc : Doc}
    (distinct : (store.docs.map Doc.id).Nodup) (isStored : doc ∈ store.docs) :
    store.Refers scope.filePath (Export.names scope store exportNode) doc.id ↔
      doc.IsNamedBy scope store exportNode := by
  constructor
  · rintro ⟨category, name, other, isNamed, found, sameId⟩
    rcases Store.mem_of_lookup? found with ⟨isStoredToo, isCategory, -, -⟩
    cases List.inj_on_of_nodup_map distinct isStoredToo isStored sameId
    cases isCategory
    exact ⟨name, isNamed, found⟩
  · rintro ⟨name, isNamed, found⟩
    exact ⟨doc.category, name, doc, isNamed, found, rfl⟩

theorem isModule_of_mem_lookupCategories {category : Category}
    (isLookedUp : category ∈ Export.lookupCategories) : category.isModule := by
  revert isLookedUp
  cases category <;> decide

namespace Module

/-- What holds of made records, and of what has become of them, holds of both together. -/
theorem forall₂_zip {builds : Making → Doc → Prop} {becomes : Doc → Doc → Prop}
    {makings : List Making} {added final : List Doc} (built : List.Forall₂ builds makings added)
    (became : List.Forall₂ becomes added final) :
    List.Forall₂ (fun made last => builds made.1 made.2 ∧ becomes made.2 last)
      (makings.zip added) final := by
  induction built generalizing final with
  | nil =>
      cases became
      exact .nil
  | cons first _ ih =>
      cases became with
      | cons same rest => exact .cons ⟨first, same⟩ (ih rest)

/-- What the walk has stored, each record with the draft that it was built from. -/
theorem exists_made {id : Int} {opened walked : Progress}
    (walks : Ends (firstPass (within scope id)) opened (.ok ()) walked) :
    ∃ makings added, List.Sublist makings (firstPassTrace Making.watch (within scope id) opened) ∧
      List.Forall₂ Making.Builds makings added ∧
      walked.store.docs = opened.store.docs ++ added ∧
      ∀ making ∈ makings, making.draft.scope = within scope id := by
  have written := @firstPass_writes (within scope id) (fun _ => True) opened
    (fun _ _ _ _ => trivial) trivial _ _ walks
  rcases written.stored with ⟨makings, added, part, built, stored⟩
  exact ⟨makings, added, part, built, stored, fun making isMaking =>
    (written.sound making (part.subset isMaking)).inScope⟩

/--
The records of the walk stay in place. Each of them has been built from a draft that the walk has made on
its way, and in the end, if it is one of a class, a function or a variable, it is marked as exported
exactly if there is an export around the node of this draft, or one of the exports that the walk put
aside names it.
-/
theorem exports_resolved (scope : Scope) (store : Store) (nextNode : NodeId)
    (coherent : scope.program.IsCoherent) (below : scope.program.Below nextNode)
    (distinct : (store.docs.map Doc.id).Nodup) (unfiltered : scope.filter = none) {id : Int}
    {after : Progress}
    (ended : Ends (generate scope) (Program.start ⟨scope.program, nextNode⟩ store) (.ok id) after)
    (faultless : after.invalid = []) :
    ∃ opened walked makings added earlier final companions,
      Stages scope id (Program.start ⟨scope.program, nextNode⟩ store) opened walked after ∧
      List.Sublist makings (firstPassTrace Making.watch (within scope id) opened) ∧
      List.Forall₂ Making.Builds makings added ∧
      walked.store.docs = opened.store.docs ++ added ∧
      after.store.docs = earlier ++ final ++ companions ∧
      earlier.map Doc.outline = opened.store.docs.map Doc.outline ∧
      List.Forall₂ (fun (made : Making × Doc) last => last.outline = made.2.outline ∧
          made.1.draft.scope = within scope id ∧
          (made.2.category ∈ Export.lookupCategories → made.1.category = made.2.category ∧
            ∃ place ∈ scope.program.places, place.node = made.1.draft.node ∧
              (last.exported = true ↔ (∃ outer ∈ place.above, outer.shape.isExport) ∨
                ∃ exportNode ∈ scope.program.queue,
                  made.2.IsNamedBy (within scope id) walked.store exportNode)))
        (makings.zip added) final := by
  rcases exists_stages ended with ⟨opened, walked, stages⟩
  rcases stages.invalid faultless with ⟨openedFaultless, walkedFaultless, resolvedFaultless⟩
  have chartedStart := charted_start below store
  rcases charted_prepare coherent unfiltered chartedStart stages.opens openedFaultless with
    ⟨charted, noneQueued⟩
  have walk := @Extends.firstPass (within scope id) opened walked coherent charted stages.walks
    walkedFaultless
  rcases exists_made stages.walks with ⟨makings, added, part, built, stored, inScope⟩
  have queued : walked.pending = scope.program.queue := by
    rw [walk.pending, noneQueued]
    rfl
  have walkedDistinct : (walked.store.docs.map Doc.id).Nodup :=
    ((firstPass_sound _).reaches stages.walks).distinct
      ((prepare_reaches stages.opens).distinct distinct)
  rcases stages.resolves with ⟨messages, resolves⟩
  have tracks := @secondPass_tracks (within scope id) walked { after with messages } unfiltered
    walkedDistinct resolves resolvedFaultless
  rcases tracks.split stored with ⟨earlier, final, companions, resolved, outlines, pairs⟩
  refine ⟨opened, walked, makings, added, earlier, final, companions, stages, part, built, stored,
    resolved, outlines, ?_⟩
  have made := (List.forall₂_and_left _ _).2 ⟨fun making (isMaking : making ∈ makings) => isMaking, built⟩
  have became := (List.forall₂_and_left _ _).2 ⟨fun doc (isAdded : doc ∈ added) => isAdded, pairs⟩
  refine (forall₂_zip made became).imp ?_
  rintro ⟨making, doc⟩ last ⟨⟨isMaking, built⟩, isAdded, outline, exported⟩
  refine ⟨outline, inScope making isMaking, fun isLookedUp => ?_⟩
  have isModule := isModule_of_mem_lookupCategories isLookedUp
  have isStored : doc ∈ walked.store.docs := stored ▸ List.mem_append_right _ isAdded
  have heads := Draft.build_heads built
  have sameCategory : making.category = doc.category := by
    rcases heads.category with same | ⟨-, isMember⟩
    · exact same.symm
    · rw [isMember] at isModule
      cases isModule
  rcases walk.stand making (part.subset isMaking) (sameCategory ▸ isModule) with
    ⟨place, isPlace, node, around⟩
  refine ⟨sameCategory, place, isPlace, node, ?_⟩
  rw [exported, Draft.exported_of_build (sameCategory ▸ isModule) built, around, List.any_eq_true,
    queued]
  simp only [Store.refers_iff walkedDistinct isStored]

/-- A class without members. -/
def emptyClass (first : NodeId) (name : String) : Node :=
  .mk { id := first } (.classLike .declaration [] (some (.mk { id := first + 1 } (.identifier name)))
    none (.mk { id := first + 2 } (.classBody [])))

/-- A declaration that gives a variable an instance of a class. -/
def instanceOf (first : NodeId) (name className : String) : Node :=
  let value : Node := .mk { id := first + 3 }
    (.construct (some (.mk { id := first + 4 } (.identifier className))) [])
  .mk { id := first } (.variables "var" [.mk { id := first + 1 } (.declarator
    (some (.mk { id := first + 2 } (.identifier name))) (some value))])

/-- The default export of a variable. -/
def reboundExport : Node :=
  .mk { id := 17 } (.exportDefault (some (.mk { id := 18 } (.identifier "x"))))

/-- A module that exports a variable which holds an instance of one class, and then of another. -/
def reboundScope : Scope where
  program := .mk { id := 0 } (.program [emptyClass 1 "A", emptyClass 4 "B", instanceOf 7 "x" "A",
    instanceOf 12 "x" "B", reboundExport] [])
  filePath := "rebound.js"

/-- What is left when that module has been documented into an empty store. -/
def reboundEnd : Progress :=
  ((generate reboundScope).run.run (Program.start ⟨reboundScope.program, 19⟩ {})).2

theorem ends_reboundScope :
    Ends (generate reboundScope) (Program.start ⟨reboundScope.program, 19⟩ {}) (.ok 0) reboundEnd :=
  Prod.ext (by decide +kernel) rfl

theorem rebound_exports_resolved : ∃ opened walked makings added earlier final companions,
    Stages reboundScope 0 (Program.start ⟨reboundScope.program, 19⟩ {}) opened walked reboundEnd ∧
    List.Sublist makings (firstPassTrace Making.watch (within reboundScope 0) opened) ∧
    List.Forall₂ Making.Builds makings added ∧
    walked.store.docs = opened.store.docs ++ added ∧
    reboundEnd.store.docs = earlier ++ final ++ companions ∧
    List.Forall₂ (fun (made : Making × Doc) last => made.2.category ∈ Export.lookupCategories →
        ∃ place ∈ reboundScope.program.places, place.node = made.1.draft.node ∧
          (last.exported = true ↔ (∃ outer ∈ place.above, outer.shape.isExport) ∨
            ∃ exportNode ∈ reboundScope.program.queue,
              made.2.IsNamedBy (within reboundScope 0) walked.store exportNode))
      (makings.zip added) final := by
  have tree : reboundScope.program.IsTree := by decide +kernel
  rcases exports_resolved reboundScope {} 19 tree.isCoherent (by decide +kernel) (by simp) rfl
    ends_reboundScope (by decide +kernel) with
    ⟨opened, walked, makings, added, earlier, final, companions, stages, part, built, stored,
      resolved, -, exported⟩
  refine ⟨opened, walked, makings, added, earlier, final, companions, stages, part, built, stored,
    resolved, ?_⟩
  refine exported.imp ?_
  rintro made last ⟨-, -, marked⟩ isLookedUp
  exact (marked isLookedUp).2

/--
The class of a second instance is not exported with the variable: a statement of that module gives the
exported variable an instance of a recorded class, and yet the record of the class is not marked.
-/
theorem second_instance_not_exported : ∃ statement ∈ reboundScope.program.body,
    statement.shape.isExport = false ∧ statement.instanceVariable? = some "x" ∧
    Export.instanceClass statement = "B" ∧
    reboundExport ∈ reboundScope.program.queue ∧ Export.isIgnored reboundExport = false ∧
    (reboundEnd.store.lookup? .moduleClass "B" reboundScope.filePath).map Doc.exported =
      some false := by
  have isStatement : reboundExport ∈ reboundScope.program.body := by
    simp [reboundScope, Node.body, Node.shape]
  have isQueued : reboundExport ∈ reboundScope.program.queue := by
    refine List.mem_filter.2 ⟨List.mem_map.2 ⟨⟨reboundExport, [reboundScope.program]⟩, ?_, rfl⟩, rfl⟩
    exact Node.statement_mem_walked rfl isStatement
  refine ⟨instanceOf 12 "x" "B", ?_, rfl, rfl, ?_, isQueued, ?_, ?_⟩
  · simp [reboundScope, Node.body, Node.shape]
  · decide +kernel
  · decide +kernel
  · decide +kernel

end Module

end DocHarvest
