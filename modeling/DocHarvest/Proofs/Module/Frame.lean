import DocHarvest.Proofs.Module.Exports

/-!
# The frame of the second pass

What the second pass can change and what it leaves alone, for any store in which ids are distinct
and for any exports. Applying a plan keeps to `Store.Framed` however it ends, and so does resolving
one export and resolving all of them.
-/

namespace DocHarvest

open Run

namespace Store

theorem modify_modify (store : Store) (id : Int) {first second : Doc → Doc}
    (kept : ∀ doc, (first doc).id = doc.id) :
    (store.modify id first).modify id second = store.modify id (fun doc => second (first doc)) := by
  simp only [modify, List.map_map]
  congr 1
  apply List.map_congr_left
  intro doc _
  simp only [Function.comp_apply]
  by_cases same : doc.id == id
  · simp [same, kept]
  · simp [same]

end Store

namespace Export

variable {scope : Scope} {before after : Progress}

/-- A change of a target keeps to the frame, and ids stay distinct. -/
theorem modify_framed {base store : Store} {filePath : String} {category : Category} {id : Int}
    (change : Doc → Doc) (framed : base.Framed filePath store)
    (distinct : (store.docs.map Doc.id).Nodup) (target : base.Targets filePath category id)
    (kept : ∀ doc, (change doc).outline = doc.outline)
    (revises : ∀ doc : Doc, doc.category = category → doc.filePath = filePath →
      doc.Revised (change doc)) :
    base.Framed filePath (store.modify id change) ∧
      ((store.modify id change).docs.map Doc.id).Nodup := by
  refine ⟨framed.trans (.modify distinct (framed.kept.targets target) revises), ?_⟩
  rwa [ids_eq_of_outlines (Store.outlines_modify store id kept)]

/-- However the application of a plan ends, the store keeps to the frame. -/
theorem applyAll_framed {plan : List Mutation} {base : Store} {outcome : Except Fault Unit}
    (edits : Edits scope.filePath base plan) (framed : base.Framed scope.filePath before.store)
    (distinct : (before.store.docs.map Doc.id).Nodup)
    (ended : Ends (applyAll scope plan) before outcome after) :
    base.Framed scope.filePath after.store := by
  unfold applyAll at ended
  induction edits generalizing before with
  | nil =>
      rcases ends_forM_nil.1 ended with ⟨-, rfl⟩
      exact framed
  | update target suits _ ih =>
      have changed := ends_lift_bind.1 ended
      rcases modify_framed (ExportChange.apply _) framed distinct target (fun _ => rfl)
        fun doc inCategory located => (located.symm ▸ suits).revises inCategory with
        ⟨framedToo, distinctToo⟩
      exact ih framedToo distinctToo changed
  | @describe id text change rest target suits _ ih =>
      have described := ends_lift_bind.1 ended
      have changed := ends_lift_bind.1 described
      have outline (doc : Doc) : (doc.describeMore text).outline = doc.outline :=
        outline_describeMore text doc
      -- the description alone is outside the frame, so the two changes are taken together
      have together : (before.store.modify id (Doc.describeMore text)).modify id change.apply =
          before.store.modify id fun doc => change.apply (doc.describeMore text) :=
        Store.modify_modify _ id fun doc => Doc.id_eq_of_outline (outline doc)
      rcases modify_framed (fun doc => change.apply (doc.describeMore text)) framed distinct target
        outline fun doc isVariable located =>
          (located.symm ▸ suits).revises_described text isVariable with ⟨framedToo, distinctToo⟩
      rw [← together] at framedToo distinctToo
      exact ih framedToo distinctToo changed
  | @insert doc rest located synthesized _ ih =>
      have added {result : Except Fault Unit} {middle : Progress}
          (inserting : Ends (applyOne scope (.insert doc)) before result middle) :
          base.Framed scope.filePath middle.store ∧ (middle.store.docs.map Doc.id).Nodup := by
        rcases docs_of_insert inserting with same | ⟨absent, stored⟩
        · rw [same]
          exact ⟨framed.trans (.of_docs same), distinct⟩
        · rw [stored]
          let numbered : Doc := { doc with id := before.store.nextId }
          have isLocated : numbered.filePath = scope.filePath := located
          have isSynthesized : numbered.Synthesized := { synthesized with }
          exact ⟨framed.trans (.append isLocated isSynthesized stored),
            Store.nodup_ids_append distinct absent⟩
      rw [forM_cons] at ended
      rcases ends_bind.1 ended with ⟨_, middle, inserting, later⟩ | ⟨fault, failed, -⟩
      · exact ih (added inserting).1 (added inserting).2 later
      · exact (added failed).1

end Export

namespace Module

variable {scope : Scope} {before after : Progress}

theorem resolve_framed {exportNode : Node} {outcome : Except Fault Unit}
    (distinct : (before.store.docs.map Doc.id).Nodup)
    (ended : Ends (resolve scope exportNode) before outcome after) :
    before.store.Framed scope.filePath after.store := by
  have planned {result : Except Fault Unit} {middle : Progress}
      (ran : Ends (Export.plan scope exportNode >>= fun plan => Export.applyAll scope plan) before
        result middle) : before.store.Framed scope.filePath middle.store := by
    rcases ends_bind.1 ran with ⟨plan, ready, planning, applying⟩ | ⟨fault, failed, -⟩
    · -- the plan has been made for the very store that it is applied to
      have same := Export.plan_reads exportNode planning
      have edits := (Export.plan_plans exportNode planning).edits
      exact Export.applyAll_framed edits (.of_docs (congrArg Store.docs same)) (same ▸ distinct)
        applying
    · exact .of_docs (congrArg Store.docs (Export.plan_reads exportNode failed))
  rcases ends_guarded ended with ran | ⟨fault, middle, entry, messages, failed, -, -, rfl⟩
  · exact planned ran
  · have broken := planned failed
    exact broken

theorem forM_resolve_framed {pending : List Node} {outcome : Except Fault Unit}
    (distinct : (before.store.docs.map Doc.id).Nodup)
    (ended : Ends (pending.forM (resolve scope)) before outcome after) :
    before.store.Framed scope.filePath after.store := by
  induction pending generalizing before with
  | nil =>
      rcases ends_forM_nil.1 ended with ⟨-, rfl⟩
      exact .of_docs rfl
  | cons exportNode pending ih =>
      rw [forM_cons] at ended
      rcases ends_bind.1 ended with ⟨_, middle, first, rest⟩ | ⟨fault, failed, -⟩
      · have framed := resolve_framed distinct first
        have reaches := (resolve_sound scope exportNode).reaches first
        exact framed.trans (ih (reaches.distinct distinct) rest)
      · exact resolve_framed distinct failed

theorem secondPass_framed {outcome : Except Fault Unit}
    (distinct : (before.store.docs.map Doc.id).Nodup)
    (ended : Ends (secondPass scope) before outcome after) :
    before.store.Framed scope.filePath after.store := by
  rcases ends_bind.1 ended with ⟨state, _, got, rest⟩ | ⟨fault, failed, -⟩
  · rcases ends_get.1 got with ⟨same, rfl⟩
    cases same
    rcases ends_bind.1 rest with ⟨_, resolved, resolving, cleared⟩ | ⟨fault, failed, -⟩
    · rcases ends_modify.1 cleared with ⟨-, rfl⟩
      have framed := forM_resolve_framed distinct resolving
      exact framed
    · exact forM_resolve_framed distinct failed
  · cases (ends_get.1 failed).1

/--
The frame of the second pass. When it comes to its end, under either policy, no export is left over.
All records that were stored keep their places, and what differs in one of them is what exports
revise in the first class, function or variable of its name in the file. All that is stored in
addition are variables that exports have made.
-/
theorem second_pass_keeps_frame (scope : Scope) {before after : Progress}
    (distinct : (before.store.docs.map Doc.id).Nodup)
    (ended : Ends (secondPass scope) before (.ok ()) after) :
    before.store.Framed scope.filePath after.store ∧ after.pending = [] := by
  refine ⟨secondPass_framed distinct ended, ?_⟩
  rcases ends_secondPass ended with ⟨resolved, -, rfl⟩
  rfl

/--
A module that holds an instance of a class in one variable and exports it as the default with a
description, and that declares another instance as it exports it.
-/
def sharedScope : Scope where
  program :=
    let described : Comment := ⟨.block, "* The one. ", none⟩
    .mk { id := 0 } (.program [emptyClass 1 "Foo", instanceOf 4 "foo" "Foo",
      .mk { id := 9, leading := [described] }
        (.exportDefault (some (.mk { id := 10 } (.identifier "foo")))),
      .mk { id := 11 } (.exportNamed (some (instanceOf 12 "other" "Foo")) [] none)] [])
  filePath := "shared.js"

/-- What the walk through that module leaves. -/
def sharedWalked : Progress :=
  ((firstPass (within sharedScope 0)).run.run
    ((prepare sharedScope).run.run (Program.start ⟨sharedScope.program, 17⟩ {})).2).2

/-- What the second pass makes of it. -/
def sharedResolved : Progress :=
  ((secondPass (within sharedScope 0)).run.run sharedWalked).2

theorem shared_instance_keeps_frame :
    (sharedWalked.store.docs.map Doc.id).Nodup ∧
    Ends (secondPass (within sharedScope 0)) sharedWalked (.ok ()) sharedResolved ∧
    sharedWalked.store.docs.map (fun doc => (doc.name, doc.exported)) =
      [(some "shared.js", false), (some "Foo", false), (some "foo", false)] ∧
    sharedResolved.store.docs.map (fun doc => (doc.name, doc.exported)) =
      [(some "shared.js", false), (some "Foo", true), (some "foo", true), (some "other", true)] ∧
    sharedWalked.store.Framed "shared.js" sharedResolved.store ∧ sharedResolved.pending = [] := by
  have distinct : (sharedWalked.store.docs.map Doc.id).Nodup := by decide +kernel
  have ended : Ends (secondPass (within sharedScope 0)) sharedWalked (.ok ()) sharedResolved :=
    Prod.ext (by decide +kernel) rfl
  refine ⟨distinct, ended, ?_, ?_, second_pass_keeps_frame _ distinct ended⟩
  · decide +kernel
  · decide +kernel

end Module

end DocHarvest
