import DocHarvest.Proofs.Module.Exports

/-!
# Import styles of exported records

Applying a plan writes its styles one after the other, so the last one counts, and a run that breaks off
has written a first part of them. Only the class of an exported instance is left without a style, hence
the second pass never takes the import style from any other record.
-/

namespace DocHarvest

open Run

/-! ## Applying plans -/

/-- The import style that the last of some restylings gives to the record of an id. -/
def lastStyle? (restylings : List (Int × Option String)) (id : Int) : Option (Option String) :=
  (restylings.filter fun restyling => restyling.1 == id).getLast?.map Prod.snd

/-- A record after some restylings. -/
def Doc.restyled (restylings : List (Int × Option String)) (doc : Doc) : Doc :=
  { doc with importStyle := (lastStyle? restylings doc.id).getD doc.importStyle }

/-- A record without the fields that exports change, apart from its import style. -/
def Doc.face (doc : Doc) : Doc :=
  { doc.outline with importStyle := doc.importStyle }

/-- A store that has come from another one by restyling its records and adding others. -/
def Restyled (restylings : List (Int × Option String)) (before after : Store) : Prop :=
  before.docs.map (fun doc => (doc.restyled restylings).face) <+: after.docs.map Doc.face

theorem lastStyle?_singleton (id other : Int) (style : Option String) :
    lastStyle? [(id, style)] other = if id == other then some style else none := by
  unfold lastStyle?
  rw [List.filter_singleton]
  cases id == other <;> rfl

theorem lastStyle?_append (first second : List (Int × Option String)) (id : Int) :
    lastStyle? (first ++ second) id = (lastStyle? second id).or (lastStyle? first id) := by
  unfold lastStyle?
  rw [List.filter_append, List.getLast?_append, Option.map_or]

theorem mem_of_lastStyle? {restylings : List (Int × Option String)} {id : Int}
    {style : Option String} (last : lastStyle? restylings id = some style) :
    (id, style) ∈ restylings := by
  rcases Option.map_eq_some_iff.1 last with ⟨⟨other, same⟩, isLast, rfl⟩
  rcases List.mem_filter.1 (List.mem_of_getLast? isLast) with ⟨isRestyling, isId⟩
  cases beq_iff_eq.1 isId
  exact isRestyling

theorem exists_lastStyle? {restylings : List (Int × Option String)} {id : Int}
    {style : Option String} (isRestyling : (id, style) ∈ restylings) :
    ∃ last, lastStyle? restylings id = some last := by
  have isSome : restylings.filter (fun restyling => restyling.1 == id) ≠ [] :=
    List.ne_nil_of_mem (List.mem_filter.2 ⟨isRestyling, by simp⟩)
  exact ⟨_, by rw [lastStyle?, List.getLast?_eq_some_getLast isSome, Option.map_some]⟩

namespace Doc

theorem restyled_append (first second : List (Int × Option String)) (doc : Doc) :
    doc.restyled (first ++ second) = (doc.restyled first).restyled second := by
  unfold restyled
  rw [lastStyle?_append]
  cases lastStyle? second doc.id <;> rfl

theorem face_restyled (restylings : List (Int × Option String)) (doc : Doc) :
    (doc.restyled restylings).face = doc.face.restyled restylings :=
  rfl

theorem outline_face (doc : Doc) : doc.face.outline = doc.outline :=
  rfl

theorem outline_restyled (restylings : List (Int × Option String)) (doc : Doc) :
    (doc.restyled restylings).outline = doc.outline :=
  rfl

theorem face_inj {left right : Doc} (same : left.face = right.face) :
    left.outline = right.outline ∧ left.importStyle = right.importStyle := by
  have outlines := congrArg Doc.outline same
  rw [outline_face, outline_face] at outlines
  exact ⟨outlines, (congrArg Doc.importStyle same :)⟩

theorem face_describeMore (text : String) (doc : Doc) : (doc.describeMore text).face = doc.face := by
  unfold describeMore
  split <;> rfl

end Doc

theorem Store.mem_of_get? {store : Store} {id : Int} {doc : Doc} (found : store.get? id = some doc) :
    doc ∈ store.docs :=
  List.mem_of_find?_eq_some found

theorem Store.id_of_get? {store : Store} {id : Int} {doc : Doc} (found : store.get? id = some doc) :
    doc.id = id := by
  unfold get? at found
  have same := List.find?_some found
  exact beq_iff_eq.1 same

namespace Restyled

variable {first second : List (Int × Option String)} {before middle after : Store}

theorem of_docs (same : after.docs.map Doc.face = before.docs.map Doc.face) :
    Restyled [] before after := by
  rw [Restyled, same]
  exact List.prefix_rfl

theorem trans (early : Restyled first before middle) (late : Restyled second middle after) :
    Restyled (first ++ second) before after := by
  -- a record shows its style and its id in its face, so faces can be restyled as records can
  have early := List.IsPrefix.map (Doc.restyled second) early
  simp only [List.map_map, Function.comp_def, ← Doc.face_restyled, ← Doc.restyled_append] at early
  exact early.trans late

theorem modify (id : Int) (change : ExportChange) :
    Restyled [(id, change.importStyle)] before (before.modify id change.apply) := by
  have same (doc : Doc) : (doc.restyled [(id, change.importStyle)]).face =
      (if doc.id == id then change.apply doc else doc).face := by
    unfold Doc.restyled
    rw [lastStyle?_singleton, BEq.comm]
    split <;> rfl
  unfold Restyled
  simp only [same, Store.modify, List.map_map, Function.comp_def]
  exact List.prefix_rfl

/-- The record of an id is kept, and has the style that it was given last. -/
theorem get? (restyled : Restyled first before after) {id : Int} {old : Doc}
    (found : before.get? id = some old) :
    ∃ new, after.get? id = some new ∧ new.outline = old.outline ∧
      new.importStyle = (lastStyle? first id).getD old.importStyle := by
  have kept : (before.docs.map fun doc => (doc.restyled first).face).find? (·.id == id) =
      some (old.restyled first).face := by
    rw [List.find?_map]
    exact congrArg (Option.map fun doc : Doc => (doc.restyled first).face) found
  have whole := List.IsPrefix.find?_eq_some restyled kept
  rw [List.find?_map] at whole
  rcases Option.map_eq_some_iff.1 whole with ⟨new, isNew, same⟩
  rcases Doc.face_inj same with ⟨outline, style⟩
  rw [Doc.outline_restyled] at outline
  refine ⟨new, isNew, outline, ?_⟩
  rw [style, ← Store.id_of_get? found]
  rfl

end Restyled

namespace Export

variable {scope : Scope} {before after : Progress}

/-- A mutation restyles the record that it updates, and takes no other style away. -/
theorem applyOne_restyles {mutation : Mutation} {outcome : Except Fault Unit}
    (ended : Ends (applyOne scope mutation) before outcome after) :
    Restyled mutation.restyling?.toList before.store after.store := by
  cases mutation with
  | update id change =>
      rcases ends_modify.1 ended with ⟨-, rfl⟩
      exact .modify id change
  | append id text =>
      rcases ends_modify.1 ended with ⟨-, rfl⟩
      refine .of_docs ?_
      simp only [Store.modify, List.map_map]
      refine List.map_congr_left fun doc _ => ?_
      simp only [Function.comp_apply]
      split
      · exact Doc.face_describeMore text doc
      · rfl
  | insert doc =>
      rcases docs_of_insert ended with same | ⟨-, stored⟩
      · exact .of_docs (congrArg (List.map Doc.face) same)
      · have added : before.store.docs <+: after.store.docs := stored ▸ List.prefix_append _ _
        exact added.map Doc.face

theorem applyAll_restyles {plan : List Mutation} {outcome : Except Fault Unit}
    (ended : Ends (applyAll scope plan) before outcome after) :
    ∃ applied, applied <+: plan.filterMap Mutation.restyling? ∧
      (outcome = .ok () → applied = plan.filterMap Mutation.restyling?) ∧
      Restyled applied before.store after.store := by
  unfold applyAll at ended
  induction plan generalizing before with
  | nil =>
      rcases ends_forM_nil.1 ended with ⟨-, rfl⟩
      exact ⟨[], List.prefix_rfl, fun _ => rfl, .of_docs rfl⟩
  | cons mutation plan ih =>
      have parts : (mutation :: plan).filterMap Mutation.restyling? =
          mutation.restyling?.toList ++ plan.filterMap Mutation.restyling? := by
        rw [List.filterMap_cons]
        cases mutation.restyling? <;> rfl
      rw [forM_cons] at ended
      rw [parts]
      rcases ends_bind.1 ended with ⟨_, middle, first, rest⟩ | ⟨fault, failed, rfl⟩
      · rcases ih rest with ⟨applied, isFirst, whole, restyled⟩
        -- what is applied later counts more, as in the plan
        refine ⟨_, (List.prefix_append_right_inj _).2 isFirst, fun succeeded => ?_,
          (applyOne_restyles first).trans restyled⟩
        rw [whole succeeded]
      · exact ⟨_, List.prefix_append _ _, nofun, applyOne_restyles failed⟩

end Export

namespace Module

variable {scope : Scope} {before after : Progress}

/--
Resolving an export restyles the records that the export has styles for. Where it breaks off, a first
part of the styles is written.
-/
theorem resolve_restyles {exportNode : Node} {outcome : Except Fault Unit}
    (ended : Ends (resolve scope exportNode) before outcome after) :
    ∃ applied, applied <+: Export.restylings scope before.store exportNode ∧
      (outcome = .ok () → after.invalid = before.invalid →
        applied = Export.restylings scope before.store exportNode) ∧
      Restyled applied before.store after.store := by
  have planned {result : Except Fault Unit} {middle : Progress}
      (ran : Ends (Export.plan scope exportNode >>= fun plan => Export.applyAll scope plan) before
        result middle) :
      ∃ applied, applied <+: Export.restylings scope before.store exportNode ∧
        (result = .ok () → applied = Export.restylings scope before.store exportNode) ∧
        Restyled applied before.store middle.store := by
    rcases ends_bind.1 ran with ⟨plan, planned, planning, applying⟩ | ⟨fault, failed, rfl⟩
    · rcases Export.applyAll_restyles applying with ⟨applied, isFirst, whole, restyled⟩
      rw [(Export.plan_plans exportNode planning).restyles] at isFirst whole
      rw [Export.plan_reads exportNode planning] at restyled
      exact ⟨applied, isFirst, whole, restyled⟩
    · have same := Export.plan_reads exportNode failed
      exact ⟨[], List.nil_prefix, nofun, .of_docs (by rw [same])⟩
  by_cases faultless : after.invalid = before.invalid
  · have ran := ends_guarded_of_invalid (planned_sound scope exportNode) ended faultless
    rcases planned ran with ⟨applied, isFirst, whole, restyled⟩
    exact ⟨applied, isFirst, fun succeeded _ => whole succeeded, restyled⟩
  · rcases ends_guarded ended with ran | ⟨fault, middle, entry, messages, failed, -, -, rfl⟩
    · rcases planned ran with ⟨applied, isFirst, -, restyled⟩
      exact ⟨applied, isFirst, fun _ same => absurd same faultless, restyled⟩
    · rcases planned failed with ⟨applied, isFirst, -, restyled⟩
      exact ⟨applied, isFirst, fun _ same => absurd same faultless, restyled⟩

end Module

/-! ## What is kept -/

/-- A deferred export makes an instance of the class that a record is about. -/
def Doc.IsInstantiatedBy (program exportNode : Node) (doc : Doc) : Prop :=
  doc.category = .moduleClass ∧
    ∃ className ∈ Export.instanceClasses program exportNode, doc.name = some className

theorem Doc.isInstantiatedBy_iff_of_outline {program exportNode : Node} {left right : Doc}
    (same : left.outline = right.outline) :
    left.IsInstantiatedBy program exportNode ↔ right.IsInstantiatedBy program exportNode := by
  unfold IsInstantiatedBy
  rw [category_eq_of_outline same, name_eq_of_outline same]

namespace Module

variable {scope : Scope} {before after : Progress}

/-- An export takes the import style from no record but that of a class that it makes an instance of. -/
theorem resolve_keeps_style {exportNode : Node} {outcome : Except Fault Unit}
    (distinct : (before.store.docs.map Doc.id).Nodup)
    (ended : Ends (resolve scope exportNode) before outcome after) {id : Int} {old : Doc}
    (found : before.store.get? id = some old) :
    ∃ new, after.store.get? id = some new ∧ new.outline = old.outline ∧
      (old.importStyle.isSome →
        new.importStyle.isSome ∨ old.IsInstantiatedBy scope.program exportNode) := by
  rcases resolve_restyles ended with ⟨applied, isFirst, -, restyled⟩
  rcases restyled.get? found with ⟨new, isNew, outline, style⟩
  refine ⟨new, isNew, outline, fun styled => ?_⟩
  rw [style]
  cases last : lastStyle? applied id with
  | none => exact Or.inl styled
  | some given =>
      cases given with
      | some importStyle => exact Or.inl rfl
      | none =>
          -- the export has a styling without a style, and it found the record by its name
          right
          rcases List.mem_filterMap.1 (isFirst.subset (mem_of_lastStyle? last)) with
            ⟨styling, isStyling, restyles⟩
          rcases Option.map_eq_some_iff.1 restyles with ⟨doc, isFound, same⟩
          rcases Prod.mk.inj same with ⟨sameId, bare⟩
          rcases Export.instantiated_of_bare isStyling bare with ⟨category, isClass⟩
          rcases Store.mem_of_lookup? isFound with ⟨isStored, isCategory, named, -⟩
          have equal : doc = old := List.inj_on_of_nodup_map distinct isStored
            (Store.mem_of_get? found) (sameId.trans (Store.id_of_get? found).symm)
          subst equal
          exact ⟨isCategory.trans category, styling.name, isClass, named⟩

theorem forM_resolve_keeps_style {pending : List Node} {outcome : Except Fault Unit}
    (distinct : (before.store.docs.map Doc.id).Nodup)
    (ended : Ends (pending.forM (resolve scope)) before outcome after) {id : Int} {old : Doc}
    (found : before.store.get? id = some old) :
    ∃ new, after.store.get? id = some new ∧ new.outline = old.outline ∧
      (old.importStyle.isSome → new.importStyle.isSome ∨
        ∃ exportNode ∈ pending, old.IsInstantiatedBy scope.program exportNode) := by
  induction pending generalizing before old with
  | nil =>
      rcases ends_forM_nil.1 ended with ⟨-, rfl⟩
      exact ⟨old, found, rfl, Or.inl⟩
  | cons exportNode pending ih =>
      rw [forM_cons] at ended
      rcases ends_bind.1 ended with ⟨_, middle, first, rest⟩ | ⟨fault, failed, -⟩
      · rcases resolve_keeps_style distinct first found with ⟨new, isNew, outline, kept⟩
        have distinctToo := ((resolve_sound scope exportNode).reaches first).distinct distinct
        rcases ih distinctToo rest isNew with ⟨last, isLast, outlineToo, keptToo⟩
        refine ⟨last, isLast, outlineToo.trans outline, fun styled => ?_⟩
        rcases kept styled with styledToo | instantiated
        · refine (keptToo styledToo).imp_right ?_
          rintro ⟨other, isPending, instantiated⟩
          exact ⟨other, List.mem_cons_of_mem _ isPending,
            (Doc.isInstantiatedBy_iff_of_outline outline).1 instantiated⟩
        · exact Or.inr ⟨exportNode, List.mem_cons_self .., instantiated⟩
      · rcases resolve_keeps_style distinct failed found with ⟨new, isNew, outline, kept⟩
        refine ⟨new, isNew, outline, fun styled => (kept styled).imp_right fun instantiated => ?_⟩
        exact ⟨exportNode, List.mem_cons_self .., instantiated⟩

end Module

/-! ## The style in the end -/

namespace Tracks

variable {scope : Scope} {base store : Store} {marked : Int → Prop}

theorem lastStyle?_restylings (tracks : Tracks scope.filePath base marked store) (exportNode : Node)
    {id : Int} (isOld : id ∈ base.docs.map Doc.id) :
    lastStyle? (Export.restylings scope store exportNode) id =
      lastStyle? (Export.restylings scope base exportNode) id := by
  unfold lastStyle?
  rw [tracks.filter_restylings exportNode isOld]

end Tracks

namespace Module

variable {scope : Scope} {base : Store} {marked : Int → Prop} {before after : Progress}

/-- Resolving all exports restyles the records of the walk as their stylings for the walk say. -/
theorem forM_resolve_restyles (unfiltered : scope.filter = none) {pending : List Node}
    (tracks : Tracks scope.filePath base marked before.store)
    (ended : Ends (pending.forM (resolve scope)) before (.ok ()) after)
    (faultless : after.invalid = before.invalid) :
    ∃ applied, Restyled applied before.store after.store ∧ ∀ id ∈ base.docs.map Doc.id,
      lastStyle? applied id = lastStyle? (pending.flatMap (Export.restylings scope base)) id := by
  induction pending generalizing marked before with
  | nil =>
      rcases ends_forM_nil.1 ended with ⟨-, rfl⟩
      exact ⟨[], .of_docs rfl, fun _ _ => rfl⟩
  | cons exportNode pending ih =>
      rcases Sound.ends_forM_cons (resolve_sound scope) ended faultless with
        ⟨middle, first, same, rest, sameToo⟩
      rcases resolve_restyles first with ⟨early, -, whole, restyled⟩
      -- each export is planned for the store at hand, where its stylings may also find new records
      rcases ih (resolve_tracks unfiltered tracks first same) rest sameToo with
        ⟨late, restyledToo, agrees⟩
      refine ⟨early ++ late, restyled.trans restyledToo, fun id isOld => ?_⟩
      rw [List.flatMap_cons, lastStyle?_append, lastStyle?_append, agrees id isOld,
        whole rfl same, tracks.lastStyle?_restylings exportNode isOld]

/--
From any point of the second pass on, however it goes on, a record that has an import style keeps one,
unless the record is about a class that one of the exports ahead makes an instance of. If all goes well,
then it has in the end what the exports ahead say of it last, or what it had if they say nothing.
-/
theorem import_style_kept (scope : Scope) {pending : List Node} {before after : Progress}
    {outcome : Except Fault Unit} (distinct : (before.store.docs.map Doc.id).Nodup)
    (ended : Ends (pending.forM (resolve scope)) before outcome after) {id : Int} {old : Doc}
    (found : before.store.get? id = some old) :
    ∃ new, after.store.get? id = some new ∧ new.outline = old.outline ∧
      (old.importStyle.isSome → new.importStyle.isSome ∨
        ∃ exportNode ∈ pending, old.IsInstantiatedBy scope.program exportNode) ∧
      (scope.filter = none → outcome = .ok () → after.invalid = before.invalid →
        new.importStyle =
          (lastStyle? (pending.flatMap (Export.restylings scope before.store)) id).getD
            old.importStyle) := by
  rcases forM_resolve_keeps_style distinct ended found with ⟨new, isNew, outline, kept⟩
  refine ⟨new, isNew, outline, kept, ?_⟩
  rintro unfiltered rfl faultless
  rcases forM_resolve_restyles unfiltered (.start distinct) ended faultless with
    ⟨applied, restyled, agrees⟩
  rcases restyled.get? found with ⟨other, isOther, -, style⟩
  cases isNew.symm.trans isOther
  have isOld : id ∈ before.store.docs.map Doc.id :=
    List.mem_map.2 ⟨old, Store.mem_of_get? found, Store.id_of_get? found⟩
  rw [style, agrees id isOld]

/-- The export of a class without members. -/
def exportedClass (first : NodeId) (name : String) : Node :=
  .mk { id := first } (.exportNamed (some (emptyClass (first + 1) name)) [] none)

/-- The default export of an instance. -/
def directInstance : Node :=
  .mk { id := 9 } (.exportDefault (some (.mk { id := 10 }
    (.construct (some (.mk { id := 11 } (.identifier "Foo"))) []))))

/-- A module that exports two classes, and an instance of the first of them. -/
def directScope : Scope where
  program := .mk { id := 0 }
    (.program [exportedClass 1 "Foo", exportedClass 5 "Bar", directInstance] [])
  filePath := "direct.js"

/-- What there is before the walk through that module. -/
def directOpened : Progress :=
  ((prepare directScope).run.run (Program.start ⟨directScope.program, 12⟩ {})).2

/-- What the walk leaves. -/
def directWalked : Progress :=
  ((firstPass (within directScope 0)).run.run directOpened).2

/-- What the export of the instance leaves. -/
def directResolved : Progress :=
  ((resolve (within directScope 0) directInstance).run.run directWalked).2

theorem ends_directInstance :
    Ends (resolve (within directScope 0) directInstance) directWalked (.ok ()) directResolved :=
  Prod.ext (by decide +kernel) rfl

theorem ends_directPending :
    Ends ([directInstance].forM (resolve (within directScope 0))) directWalked (.ok ())
      directResolved :=
  ends_bind_ok.2 ⟨(), _, ends_directInstance, ends_forM_nil.2 ⟨rfl, rfl⟩⟩

theorem other_import_style_kept :
    (∃ new, directResolved.store.get? 2 = some new ∧ new.importStyle.isSome) ∧
      ∃ new, directResolved.store.get? 1 = some new ∧ new.importStyle = none := by
  have distinct : (directWalked.store.docs.map Doc.id).Nodup := by decide +kernel
  constructor
  · have recorded : (directWalked.store.get? 2).map (fun doc => (doc.name, doc.importStyle)) =
        some (some "Bar", some (Export.braced "Bar")) := by decide +kernel
    rcases Option.map_eq_some_iff.1 recorded with ⟨old, found, same⟩
    rcases Prod.mk.inj same with ⟨named, styled⟩
    rcases import_style_kept (within directScope 0) distinct ends_directPending found with
      ⟨new, isNew, -, kept, -⟩
    refine ⟨new, isNew, (kept (by rw [styled]; rfl)).resolve_right ?_⟩
    rintro ⟨exportNode, isPending, -, className, isClass, isName⟩
    have classes : Export.instanceClasses (within directScope 0).program directInstance = ["Foo"] := by
      decide +kernel
    rw [List.mem_singleton.1 isPending, classes, List.mem_singleton] at isClass
    rw [named, isClass] at isName
    exact absurd isName (by decide)
  · have isRecorded : (directWalked.store.get? 1).isSome := by decide +kernel
    rcases Option.isSome_iff_exists.1 isRecorded with ⟨old, found⟩
    rcases import_style_kept (within directScope 0) distinct ends_directPending found with
      ⟨new, isNew, -, -, style⟩
    refine ⟨new, isNew, (style rfl rfl (by decide +kernel)).trans ?_⟩
    have last : lastStyle? ([directInstance].flatMap
        (Export.restylings (within directScope 0) directWalked.store)) 1 = some none := by
      decide +kernel
    rw [last]
    rfl

/--
The first class is exported in its own right, with an import style, and the export of its instance
takes that import style away.
-/
theorem direct_import_style_lost :
    Ends (prepare directScope) (Program.start ⟨directScope.program, 12⟩ {}) (.ok 0) directOpened ∧
    Ends (firstPass (within directScope 0)) directOpened (.ok ()) directWalked ∧
    directInstance ∈ directScope.program.queue ∧
    Ends (resolve (within directScope 0) directInstance) directWalked (.ok ()) directResolved ∧
    (directWalked.store.get? 1).map (fun doc => (doc.name, doc.exported, doc.importStyle)) =
      some (some "Foo", true, some (Export.braced "Foo")) ∧
    (directResolved.store.get? 1).map (fun doc => (doc.name, doc.exported, doc.importStyle)) =
      some (some "Foo", true, none) := by
  have isStatement : directInstance ∈ directScope.program.body := by
    simp [directScope, Node.body, Node.shape]
  have isQueued : directInstance ∈ directScope.program.queue := by
    refine List.mem_filter.2 ⟨List.mem_map.2 ⟨⟨directInstance, [directScope.program]⟩, ?_, rfl⟩, rfl⟩
    exact Node.statement_mem_walked rfl isStatement
  refine ⟨Prod.ext ?_ rfl, Prod.ext ?_ rfl, isQueued, ends_directInstance, ?_, ?_⟩
  · decide +kernel
  · decide +kernel
  · decide +kernel
  · decide +kernel

end Module

end DocHarvest
