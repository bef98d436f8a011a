import DocHarvest.Proofs.Module.Applying
import DocHarvest.Proofs.Module.Frame
import DocHarvest.Proofs.Module.Queue

/-!
# What filters leave out

A run with a filter that looks at categories and names is compared with the same run without it. Up
to the end of the walk the filter leaves out records and does nothing else. In the second pass it
could change what is planned, as plans depend on what is stored; yet they agree on all records that
pass, save where the instance of a class is exported as the default and the record of the class does
not pass. Such an export is not planned as an instance in the filtered run.
-/

namespace DocHarvest

open Run

/--
The names of the instances that are exported as the default while the record of their class is in
the first store only.
-/
def Export.lostInstances (scope : Scope) (whole thin : Store) : List String :=
  (scope.program.queue.filterMap (defaultInstance? scope.program)).filterMap
    fun (className, variableName) =>
      if (whole.lookup? .moduleClass className scope.filePath).isSome &&
          !(thin.lookup? .moduleClass className scope.filePath).isSome then some variableName
      else none

/--
The comments of an export give a readable type, if any, where they are read in the run without the
filter only: where it exports an instance of a class that the filter leaves out.
-/
def Export.IsReadable (keeps : Category → Option String → Bool) (program exportNode : Node) :
    Prop :=
  ∀ className variableName, defaultInstance? program exportNode = some (className, variableName) →
    keeps .moduleClass (some className) = false → (declaredType exportNode).isOk

theorem Export.lostInstances_congr {scope : Scope} {whole thin wholeToo thinToo : Store}
    (classes : ∀ name, (wholeToo.lookup? .moduleClass name scope.filePath).isSome =
      (whole.lookup? .moduleClass name scope.filePath).isSome)
    (classesToo : ∀ name, (thinToo.lookup? .moduleClass name scope.filePath).isSome =
      (thin.lookup? .moduleClass name scope.filePath).isSome) :
    lostInstances scope wholeToo thinToo = lostInstances scope whole thin := by
  simp only [lostInstances, classes, classesToo]

/-- Where only variables are added, the classes that are found stay the same. -/
theorem Store.Grows.isSome_lookup?_moduleClass {scope : Scope} {before after : Store}
    (grows : before.Grows (scope.Fits (· = .moduleVariable)) after) (name filePath : String) :
    (after.lookup? .moduleClass name filePath).isSome =
      (before.lookup? .moduleClass name filePath).isSome := by
  rcases grows.docs with ⟨kept, added, stored, outlines, -, fit⟩
  rcases after with ⟨docs, nextId⟩
  simp only at stored
  subst stored
  have nothing : (⟨added, nextId⟩ : Store).lookup? .moduleClass name filePath = none := by
    cases found : (⟨added, nextId⟩ : Store).lookup? .moduleClass name filePath with
    | none => rfl
    | some doc =>
        rcases Store.mem_of_lookup? found with ⟨isAdded, isClass, -, -⟩
        have isVariable : doc.category = .moduleVariable := (fit doc isAdded).2.2.kind
        cases isClass.symm.trans isVariable
  have same : ((⟨kept, nextId⟩ : Store).lookup? .moduleClass name filePath).map Doc.outline =
      (before.lookup? .moduleClass name filePath).map Doc.outline :=
    Store.map_lookup?_of_outlines outlines
  have found := congrArg Option.isSome same
  rw [Option.isSome_map, Option.isSome_map] at found
  rw [Store.lookup?_append, nothing, Option.or_none, found]

/-! ## The second pass -/

namespace Module

variable {scope : Scope} {sieve : Sieve} {whole thin : Store}
  {before beforeToo after afterToo : Progress}

/-- Two states of the second pass: stores that show the same records, and find classes as before. -/
structure Resolving (sieve : Sieve) (whole thin : Store) (left right : Progress) : Prop where
  sifted : left.store.Sifted sieve right.store
  classes : ∀ name, (left.store.lookup? .moduleClass name sieve.filePath).isSome =
    (whole.lookup? .moduleClass name sieve.filePath).isSome
  classesToo : ∀ name, (right.store.lookup? .moduleClass name sieve.filePath).isSome =
    (thin.lookup? .moduleClass name sieve.filePath).isSome

/-- All default instances of an export are planned for in both runs, or lost in the filtered one. -/
def Covers (scope : Scope) (lost : List String) (whole thin : Store) (exportNode : Node) : Prop :=
  ∀ className variableName,
    Export.defaultInstance? scope.program exportNode = some (className, variableName) →
      Export.Covered scope lost whole thin exportNode className variableName

namespace Resolving

/-- What is covered at the start of the second pass is covered all along. -/
theorem covers (resolving : Resolving sieve whole thin before beforeToo)
    (located : sieve.filePath = scope.filePath) {exportNode : Node}
    (covers : Covers scope sieve.lost whole thin exportNode) :
    Covers scope sieve.lost before.store beforeToo.store exportNode := by
  intro className variableName isInstance known unknown
  have knownBefore := resolving.classes className
  have unknownBefore := resolving.classesToo className
  rw [located] at knownBefore unknownBefore
  rw [unknown, Option.isSome_none, eq_comm, Option.isSome_eq_false_iff, Option.isNone_iff_eq_none]
    at unknownBefore
  exact covers className variableName isInstance (knownBefore ▸ known) unknownBefore

/-- Nothing but variables is added on the way, so classes go on being found as before. -/
theorem grows (resolving : Resolving sieve whole thin before beforeToo)
    (grows : before.store.Grows (scope.Fits (· = .moduleVariable)) after.store)
    (growsToo : beforeToo.store.Grows ((scope.filtered sieve.keeps).Fits (· = .moduleVariable))
      afterToo.store)
    (sifted : after.store.Sifted sieve afterToo.store) :
    Resolving sieve whole thin after afterToo where
  sifted := sifted
  classes name := by rw [grows.isSome_lookup?_moduleClass, resolving.classes]
  classesToo name := by rw [growsToo.isSome_lookup?_moduleClass, resolving.classesToo]

end Resolving

/-- Plans that agree are applied in both runs, and the stores go on showing the same records. -/
theorem applyAll_sifted (unfiltered : scope.filter = none) {plan planToo : List Mutation}
    {filePath : String} {outcome : Except Fault Unit}
    (sifted : before.store.Sifted sieve beforeToo.store)
    (agree : Agree sieve before.store beforeToo.store plan planToo)
    (edits : Edits filePath before.store plan) (editsToo : Edits filePath beforeToo.store planToo)
    (ended : Ends (Export.applyAll scope plan) before outcome after) :
    outcome = .ok () ∧ ∃ afterToo,
      Ends (Export.applyAll (scope.filtered sieve.keeps) planToo) beforeToo (.ok ()) afterToo ∧
        after.store.Sifted sieve afterToo.store := by
  have disciplined := sifted.layered.disciplined
  have disciplinedToo := sifted.layeredToo.disciplined
  have endedToo : Ends (Export.applyAll (scope.filtered sieve.keeps) planToo) beforeToo _ _ := rfl
  rcases Export.applyAll_applied (fun _ => true) (fun doc => by rw [Scope.passes, unfiltered])
    (fun _ _ => rfl) disciplined (Int.le_refl _) (fun _ => edits.spares disciplined) ended with
    ⟨rfl, applied⟩
  rcases Export.applyAll_applied (fun doc => sieve.keeps doc.category doc.name) (fun _ => rfl)
    (fun _ _ => rfl) disciplinedToo (Int.le_refl _) (fun _ => editsToo.spares disciplinedToo)
    endedToo with ⟨succeeded, appliedToo⟩
  rw [succeeded] at endedToo
  exact ⟨rfl, _, endedToo, sifted.applied agree applied appliedToo⟩

/-- Planning and applying the plan keeps the states of the two runs related. -/
theorem planned_paired (unfiltered : scope.filter = none)
    (located : sieve.filePath = scope.filePath) {exportNode : Node}
    (covers : Covers scope sieve.lost whole thin exportNode) :
    Paired (Resolving sieve whole thin) (· = ·)
      (Export.plan scope exportNode >>= fun plan => Export.applyAll scope plan)
      (Export.plan (scope.filtered sieve.keeps) exportNode >>= fun plan =>
        Export.applyAll (scope.filtered sieve.keeps) plan) := by
  intro before beforeToo outcome after resolving ended
  have planned := @Export.plan_paired scope sieve.keeps sieve before.store beforeToo.store
    resolving.sifted located exportNode (resolving.covers located covers)
  have resolves {outcomeToo : Except Fault Unit} {afterToo : Progress}
      (endedToo : Ends (Export.plan (scope.filtered sieve.keeps) exportNode >>= fun plan =>
        Export.applyAll (scope.filtered sieve.keeps) plan) beforeToo outcomeToo afterToo)
      (sifted : after.store.Sifted sieve afterToo.store) :
      Resolving sieve whole thin after afterToo :=
    resolving.grows ((planned_sound scope exportNode).reaches ended).grows
      ((planned_sound (scope.filtered sieve.keeps) exportNode).reaches endedToo).grows sifted
  rcases ends_bind.1 ended with ⟨plan, ready, planning, applying⟩ | ⟨fault, failed, rfl⟩
  · rcases planned ⟨rfl, rfl⟩ planning with ⟨_, readyToo, planningToo, ⟨agree⟩, same, sameToo⟩
    have edits := (Export.plan_plans exportNode planning).edits
    have editsToo := (Export.plan_plans exportNode planningToo).edits
    rw [← same] at edits agree
    rw [← sameToo] at editsToo agree
    have siftedNow : ready.store.Sifted sieve readyToo.store := same ▸ sameToo ▸ resolving.sifted
    rcases applyAll_sifted unfiltered siftedNow agree edits editsToo applying with
      ⟨rfl, afterToo, applyingToo, sifted⟩
    have endedToo := ends_bind_ok.2 ⟨_, readyToo, planningToo, applyingToo⟩
    exact ⟨_, afterToo, endedToo, .ok rfl, resolves endedToo sifted⟩
  · rcases planned ⟨rfl, rfl⟩ failed with ⟨_, afterToo, failedToo, ⟨⟩, same, sameToo⟩
    have endedToo : Ends (Export.plan (scope.filtered sieve.keeps) exportNode >>= fun plan =>
        Export.applyAll (scope.filtered sieve.keeps) plan) beforeToo (.error fault) afterToo :=
      ends_bind.2 (Or.inr ⟨fault, failedToo, rfl⟩)
    have sifted : after.store.Sifted sieve afterToo.store := same ▸ sameToo ▸ resolving.sifted
    exact ⟨_, afterToo, endedToo, .error fault, resolves endedToo sifted⟩

theorem resolve_paired (unfiltered : scope.filter = none)
    (located : sieve.filePath = scope.filePath) {exportNode : Node}
    (covers : Covers scope sieve.lost whole thin exportNode) :
    Paired (Resolving sieve whole thin) (· = ·) (resolve scope exportNode)
      (resolve (scope.filtered sieve.keeps) exportNode) := by
  refine guarded_paired (fun fault => ?_) (planned_paired unfiltered located covers) rfl
  refine Paired.lift fun before beforeToo resolving => ⟨rfl, ?_⟩
  exact ⟨resolving.sifted, resolving.classes, resolving.classesToo⟩

/-- The exports that wait are resolved one after the other in both runs. -/
theorem secondPass_sifted (unfiltered : scope.filter = none)
    (located : sieve.filePath = scope.filePath)
    (sifted : before.store.Sifted sieve beforeToo.store)
    (waiting : beforeToo.pending = before.pending)
    (covers : ∀ exportNode ∈ before.pending,
      Covers scope sieve.lost before.store beforeToo.store exportNode)
    {outcome : Except Fault Unit} (ended : Ends (secondPass scope) before outcome after) :
    ∃ afterToo, Ends (secondPass (scope.filtered sieve.keeps)) beforeToo outcome afterToo ∧
      Resolving sieve before.store beforeToo.store after afterToo := by
  let clear : Run Unit := modify fun progress => { progress with pending := [] }
  have same : List.Forall₂ (fun part partToo => part = partToo ∧ part ∈ before.pending)
      before.pending before.pending := List.forall₂_same.2 fun part isPart => ⟨rfl, isPart⟩
  have paired : Paired (Resolving sieve before.store beforeToo.store) (· = ·)
      (before.pending.forM (resolve scope) >>= fun _ => clear)
      (before.pending.forM (resolve (scope.filtered sieve.keeps)) >>= fun _ => clear) := by
    refine (Paired.forM same ?_).bind fun _ _ _ => ?_
    · rintro exportNode _ ⟨rfl, isPending⟩
      exact resolve_paired unfiltered located (covers exportNode isPending)
    · refine Paired.lift fun _ _ resolving => ⟨rfl, ?_⟩
      exact ⟨resolving.sifted, resolving.classes, resolving.classesToo⟩
  have start : Resolving sieve before.store beforeToo.store before beforeToo :=
    ⟨sifted, fun _ => rfl, fun _ => rfl⟩
  rcases paired start ended with ⟨outcomeToo, afterToo, endedToo, alike, resolving⟩
  rw [alike.eq, ← waiting] at endedToo
  exact ⟨afterToo, endedToo, resolving⟩

/-- With the variables of lost instances missed, all exports of the queue are covered. -/
theorem covers_lostInstances (sifted : whole.Sifted sieve thin)
    (lost : sieve.lost = Export.lostInstances scope whole thin) {exportNode : Node}
    (isQueued : exportNode ∈ scope.program.queue)
    (readable : Export.IsReadable sieve.keeps scope.program exportNode) :
    Covers scope sieve.lost whole thin exportNode := by
  intro className variableName isInstance known unknown
  constructor
  · rw [lost]
    refine List.mem_filterMap.2 ⟨(className, variableName), ?_, by simp [known, unknown]⟩
    exact List.mem_filterMap.2 ⟨exportNode, isQueued, isInstance⟩
  · refine readable className variableName isInstance ?_
    by_contra isKept
    rw [Bool.not_eq_false] at isKept
    -- a class that the filter keeps would be found in both stores
    have shown (doc : Doc) (called : doc.isCalled .moduleClass className scope.filePath) :
        sieve.admits doc := by
      rcases Doc.isCalled_iff.1 called with ⟨isClass, named, -⟩
      simp [Sieve.admits, Sieve.misses, isClass, named, isKept]
    have together := sifted.isSome_lookup? shown
    rw [known, unknown] at together
    cases together

end Module

/-! ## Whole runs -/

/-- The outlines of the records that exports have not made. -/
def Store.recorded (store : Store) : List Doc :=
  (store.docs.map Doc.outline).filter fun doc => !doc.pseudoExport

/-- The sieve through which a run is compared with the run with a filter, by what both have left. -/
def Scope.sieve (scope : Scope) (keeps : Category → Option String → Bool) (floor : Int)
    (whole thin : Store) : Sieve :=
  ⟨keeps, floor, scope.filePath, Export.lostInstances scope whole thin⟩

/--
The second store holds, in the same order and up to their ids, the records of the first one that
pass, and no others, if those that are missed are left aside in both. Of the records that exports
have not made it holds all that pass, under their ids and up to what exports change.
-/
structure Store.Filtered (sieve : Sieve) (whole thin : Store) : Prop where
  docs : (whole.docs.filter fun doc => sieve.passes doc && !sieve.misses doc).map Doc.unnumbered =
    (thin.docs.filter fun doc => !sieve.misses doc).map Doc.unnumbered
  passing : ∀ doc ∈ thin.docs, sieve.passes doc
  recorded : whole.recorded.filter sieve.passes = thin.recorded

namespace Store

variable {sieve : Sieve} {whole thin before after : Store}

/-- All that the second pass adds has been made by exports. -/
theorem Framed.recorded {filePath : String} {fits : Doc → Prop}
    (framed : before.Framed filePath after) (grows : before.Grows fits after) :
    after.recorded = before.recorded := by
  rcases grows.docs with ⟨kept, added, stored, outlines, -, -⟩
  have length : kept.length = before.docs.length := by
    simpa using congrArg List.length outlines
  have made (doc : Doc) (isAdded : doc ∈ added) : doc.pseudoExport = true := by
    rcases List.mem_iff_getElem?.1 isAdded with ⟨place, isPlace⟩
    have isStored : after.docs[kept.length + place]? = some doc := by
      rw [stored, List.getElem?_append_right (Nat.le_add_right _ _), Nat.add_sub_cancel_left]
      exact isPlace
    have absent : before.docs[kept.length + place]? = none :=
      List.getElem?_eq_none (by omega)
    exact (framed.added absent isStored).2.pseudoExport
  have nothing : (added.map Doc.outline).filter (fun doc => !doc.pseudoExport) = [] := by
    rw [List.filter_eq_nil_iff]
    intro outline isOutline
    rcases List.mem_map.1 isOutline with ⟨doc, isAdded, rfl⟩
    have isMade : doc.outline.pseudoExport = true := made doc isAdded
    simp [isMade]
  rw [Store.recorded, Store.recorded, stored, List.map_append, List.filter_append, nothing,
    List.append_nil, outlines]

theorem Thinned.recorded (thinned : whole.Thinned sieve thin) :
    whole.recorded.filter sieve.passes = thin.recorded := by
  have outlined (docs : List Doc) :
      (docs.filter sieve.passes).map Doc.outline = (docs.map Doc.outline).filter sieve.passes := by
    rw [List.filter_map]
    rfl
  rw [Store.recorded, Store.recorded, thinned.docs, outlined, List.filter_filter,
    List.filter_filter]
  simp only [Bool.and_comm]

theorem Sifted.filtered (sifted : whole.Sifted sieve thin)
    (recorded : whole.recorded.filter sieve.passes = thin.recorded) :
    whole.Filtered sieve thin where
  docs := by
    have passing : thin.docs.filter (fun doc => !sieve.misses doc) =
        thin.docs.filter sieve.sees := by
      apply List.filter_congr
      intro doc isStored
      simp [Sieve.sees, sifted.passing doc isStored]
    rw [passing]
    exact sifted.seen
  passing := sifted.passing
  recorded := recorded

/-- At the start, a store is thinned out to itself: all of its records are old. -/
theorem Disciplined.thinned (disciplined : whole.Disciplined)
    (newest : sieve.floor = whole.nextId) : whole.Thinned sieve whole where
  docs := by
    symm
    rw [List.filter_eq_self]
    intro doc isStored
    have isOld := disciplined.below doc isStored
    rw [← newest] at isOld
    simp [Sieve.passes, isOld]
  counter := rfl
  layered := by
    refine ⟨disciplined, Int.le_of_eq newest, ?_⟩
    refine List.pairwise_of_forall_mem_list fun earlier isStored _ _ notOld => ?_
    have := disciplined.below earlier isStored
    omega

end Store

namespace Module

variable {scope : Scope} {sieve : Sieve} {before after : Progress}

/-- What is done for a module before its exports are resolved. -/
def walkthrough (scope : Scope) : Run Int := do
  let id ← prepare scope
  firstPass (within scope id)
  return id

/-- What is done for a module after the walk. -/
def finish (scope : Scope) (id : Int) : Run Int := do
  secondPass (within scope id)
  Run.say .info
    ("Generated docs for " ++ scope.filePath ++ " (module id " ++ Value.integerText id ++ ")")
  return id

theorem generate_eq_walkthrough (scope : Scope) :
    generate scope = walkthrough scope >>= finish scope := by
  rw [generate_eq_prepare]
  simp only [walkthrough, bind_assoc, pure_bind]
  rfl

theorem walkthrough_thinned (unfiltered : scope.filter = none) :
    Lockstep (Store.Thinned sieve) (· = ·) (walkthrough scope)
      (walkthrough (scope.filtered sieve.keeps)) := by
  refine (prepare_thinned unfiltered).bind fun id _ same => ?_
  cases same
  have unfilteredToo : (within scope id).filter = none := unfiltered
  exact (firstPass_thinned unfilteredToo).bind fun _ _ _ => Lockstep.pure rfl

theorem walkthrough_queues {id : Int} (ended : Ends (walkthrough scope) before (.ok id) after) :
    after.pending = before.pending ++ scope.program.queue := by
  rcases ends_bind_ok.1 ended with ⟨_, opened, opens, rest⟩
  rcases ends_bind_ok.1 rest with ⟨_, walked, walks, rested⟩
  rcases ends_pure.1 rested with ⟨-, rfl⟩
  have same : opened.pending = before.pending := prepare_leaves scope opens
  have queued := firstPass_queues walks
  rw [← same]
  exact queued

/-- The work after the walk ends as the second pass does. -/
theorem ends_finish {id : Int} {outcome : Except Fault Int}
    (ended : Ends (finish scope id) before outcome after) :
    ∃ result resolved, Ends (secondPass (within scope id)) before result resolved ∧
      outcome = result.map (fun _ => id) ∧ after.store = resolved.store := by
  rcases ends_bind.1 ended with ⟨_, resolved, resolving, last⟩ | ⟨fault, failed, rfl⟩
  · have said := ends_lift_bind.1 last
    rcases ends_pure.1 said with ⟨rfl, rfl⟩
    exact ⟨_, resolved, resolving, rfl, rfl⟩
  · exact ⟨_, after, failed, rfl, rfl⟩

theorem finish_recorded {id : Int} {outcome : Except Fault Int}
    (disciplined : before.store.Disciplined) (ended : Ends (finish scope id) before outcome after) :
    after.store.recorded = before.store.recorded := by
  rcases ends_finish ended with ⟨result, resolved, resolving, -, same⟩
  have framed := secondPass_framed disciplined.distinct resolving
  rw [same]
  exact framed.recorded ((secondPass_sound _).reaches resolving).grows

/-- After the walk the stores of the two runs go on showing the same records. -/
theorem finish_sifted {keeps : Category → Option String → Bool} {floor : Int} {id : Int}
    {walked walkedToo : Progress} (unfiltered : scope.filter = none)
    (sifted : walked.store.Sifted (scope.sieve keeps floor walked.store walkedToo.store)
      walkedToo.store)
    (waiting : walkedToo.pending = walked.pending) (queued : walked.pending = scope.program.queue)
    (readable : ∀ exportNode ∈ scope.program.queue,
      Export.IsReadable keeps scope.program exportNode)
    {outcome : Except Fault Int} (ended : Ends (finish scope id) walked outcome after) :
    ∃ afterToo, Ends (finish (scope.filtered keeps) id) walkedToo outcome afterToo ∧
      after.store.Sifted (scope.sieve keeps floor after.store afterToo.store) afterToo.store := by
  have covers (exportNode : Node) (isPending : exportNode ∈ walked.pending) :
      Covers (within scope id) (Export.lostInstances scope walked.store walkedToo.store)
        walked.store walkedToo.store exportNode := by
    have isQueued : exportNode ∈ (within scope id).program.queue := queued ▸ isPending
    exact covers_lostInstances sifted rfl isQueued (readable exportNode isQueued)
  have unfilteredToo : (within scope id).filter = none := unfiltered
  rcases ends_finish ended with ⟨result, resolved, resolving, decided, same⟩
  rcases secondPass_sifted unfilteredToo rfl sifted waiting covers resolving with
    ⟨resolvedToo, resolvingToo, related⟩
  have endedToo : Ends (finish (scope.filtered keeps) id) walkedToo _ _ := rfl
  rcases ends_finish endedToo with ⟨resultToo, resolvedAgain, resolvingAgain, decidedToo, sameToo⟩
  rcases resolvingToo.unique resolvingAgain with ⟨rfl, rfl⟩
  rw [decidedToo, ← decided] at endedToo
  refine ⟨_, endedToo, ?_⟩
  rw [same, sameToo, Scope.sieve, Export.lostInstances_congr related.classes related.classesToo]
  exact related.sifted

/--
Filters only filter. A run with a filter that looks at categories and names ends as the same run
without it, and it stores the records that pass among those of that run: the same ones in the same
order, up to their ids. Records from before are kept by every filter. What can be missed are
variables that hold an instance which is exported as the default, where the record of the class is
not stored in the filtered run; the comments of such an export have to give a readable type, if any.
-/
theorem filter_only_filters (scope : Scope) (keeps : Category → Option String → Bool)
    (store : Store) (nextNode : NodeId) (disciplined : store.Disciplined)
    (unfiltered : scope.filter = none)
    (readable : ∀ exportNode ∈ scope.program.queue,
      Export.IsReadable keeps scope.program exportNode)
    {outcome : Except Fault Int} {after : Progress}
    (ended : Ends (generate scope) (Program.start ⟨scope.program, nextNode⟩ store) outcome after) :
    ∃ afterToo,
      Ends (generate (scope.filtered keeps)) (Program.start ⟨scope.program, nextNode⟩ store) outcome
        afterToo ∧
      after.store.Filtered (scope.sieve keeps store.nextId after.store afterToo.store)
        afterToo.store := by
  let sieve : Sieve := ⟨keeps, store.nextId, scope.filePath, []⟩
  let start := Program.start ⟨scope.program, nextNode⟩ store
  have aligned : Over (Store.Thinned sieve) start start := ⟨rfl, disciplined.thinned rfl⟩
  -- a store that is thinned out shows the same records, whatever is missed
  have opens {whole thin : Store} (thinned : whole.Thinned sieve thin) :
      whole.Sifted (scope.sieve keeps store.nextId whole thin) thin :=
    Store.Thinned.sifted ⟨thinned.docs, thinned.counter, thinned.layered⟩
  rw [generate_eq_walkthrough] at ended
  rw [generate_eq_walkthrough]
  rcases ends_bind.1 ended with ⟨id, walked, walks, rest⟩ | ⟨fault, failed, rfl⟩
  · rcases walkthrough_thinned unfiltered aligned walks with
      ⟨_, walkedToo, walksToo, ⟨rfl⟩, alignedToo⟩
    have sifted := opens alignedToo.related
    have waiting : walkedToo.pending = walked.pending := by rw [alignedToo.rest]
    have queued : walked.pending = scope.program.queue := walkthrough_queues walks
    rcases finish_sifted unfiltered sifted waiting queued readable rest with
      ⟨afterToo, finished, siftedToo⟩
    refine ⟨afterToo, ends_bind.2 (Or.inl ⟨id, walkedToo, walksToo, finished⟩),
      siftedToo.filtered ?_⟩
    rw [finish_recorded sifted.layered.disciplined rest,
      finish_recorded sifted.layeredToo.disciplined finished]
    exact alignedToo.related.recorded
  · rcases walkthrough_thinned unfiltered aligned failed with
      ⟨_, afterToo, failedToo, ⟨⟩, alignedToo⟩
    have sifted := opens alignedToo.related
    exact ⟨afterToo, ends_bind.2 (Or.inr ⟨fault, failedToo, rfl⟩),
      sifted.filtered alignedToo.related.recorded⟩

/-- A filter that keeps everything but classes. -/
def keepsNoClass (category : Category) (_ : Option String) : Bool :=
  category != .moduleClass

/-- What is left when a program has been documented into an empty store. -/
def endOf (scope : Scope) : Progress :=
  ((generate scope).run.run (Program.start ⟨scope.program, 17⟩ {})).2

/-- Without its class, the variable that is exported as the default is missed; the other is not. -/
theorem shared_instance_filtered :
    ({} : Store).Disciplined ∧ sharedScope.filter = none ∧
    (∀ exportNode ∈ sharedScope.program.queue, (Export.declaredType exportNode).isOk) ∧
    Ends (generate sharedScope) (Program.start ⟨sharedScope.program, 17⟩ {}) (.ok 0)
      (endOf sharedScope) ∧
    Ends (generate (sharedScope.filtered keepsNoClass))
      (Program.start ⟨sharedScope.program, 17⟩ {}) (.ok 0)
      (endOf (sharedScope.filtered keepsNoClass)) ∧
    Export.lostInstances sharedScope (endOf sharedScope).store
      (endOf (sharedScope.filtered keepsNoClass)).store = ["foo"] ∧
    (endOf (sharedScope.filtered keepsNoClass)).store.docs.map Doc.name =
      [some "shared.js", some "foo", some "other"] ∧
    (endOf sharedScope).store.Filtered (sharedScope.sieve keepsNoClass 0 (endOf sharedScope).store
        (endOf (sharedScope.filtered keepsNoClass)).store)
      (endOf (sharedScope.filtered keepsNoClass)).store := by
  have empty : ({} : Store).Disciplined := ⟨by simp, by simp⟩
  have readable : ∀ exportNode ∈ sharedScope.program.queue,
      (Export.declaredType exportNode).isOk := by
    decide +kernel
  have ended : Ends (generate sharedScope) (Program.start ⟨sharedScope.program, 17⟩ {}) (.ok 0)
      (endOf sharedScope) := Prod.ext (by decide +kernel) rfl
  have endedToo : Ends (generate (sharedScope.filtered keepsNoClass))
      (Program.start ⟨sharedScope.program, 17⟩ {}) (.ok 0)
      (endOf (sharedScope.filtered keepsNoClass)) := Prod.ext (by decide +kernel) rfl
  refine ⟨empty, rfl, readable, ended, endedToo, by decide +kernel, by decide +kernel, ?_⟩
  rcases filter_only_filters sharedScope keepsNoClass {} 17 empty rfl
    (fun exportNode isQueued _ _ _ _ => readable exportNode isQueued) ended with
    ⟨afterToo, endedAgain, filtered⟩
  rcases endedToo.unique endedAgain with ⟨-, rfl⟩
  exact filtered

/-- A module that exports an instance of its class as the default, with comments. -/
def loneScope (leading : List Comment) : Scope where
  program := .mk { id := 0 } (.program [emptyClass 1 "Foo",
    .mk { id := 4, leading } (.exportDefault (some (.mk { id := 5 }
      (.construct (some (.mk { id := 6 } (.identifier "Foo"))) []))))] [])
  filePath := "lone.js"

/-- A comment that announces a type and gives none. -/
def typeless : Comment :=
  ⟨.block, "* @type {} ", none⟩

/--
Without its class, the variable of such an export is not stored although it passes. If the comments
give no readable type, then even the run without the filter fails, and the filtered run does not.
-/
theorem lone_instance_missed :
    Ends (generate (loneScope [])) (Program.start ⟨(loneScope []).program, 17⟩ {}) (.ok 0)
      (endOf (loneScope [])) ∧
    Ends (generate ((loneScope []).filtered keepsNoClass))
      (Program.start ⟨(loneScope []).program, 17⟩ {}) (.ok 0)
      (endOf ((loneScope []).filtered keepsNoClass)) ∧
    ((endOf (loneScope [])).store.docs.filter fun doc =>
        keepsNoClass doc.category doc.name).map Doc.unnumbered ≠
      (endOf ((loneScope []).filtered keepsNoClass)).store.docs.map Doc.unnumbered ∧
    (∃ fault after, Ends (generate (loneScope [typeless]))
      (Program.start ⟨(loneScope [typeless]).program, 17⟩ {}) (.error fault) after) ∧
    ∃ after, Ends (generate ((loneScope [typeless]).filtered keepsNoClass))
      (Program.start ⟨(loneScope [typeless]).program, 17⟩ {}) (.ok 0) after := by
  refine ⟨Prod.ext (by decide +kernel) rfl, Prod.ext (by decide +kernel) rfl, ?_, ?_, ?_⟩
  · intro same
    have names := congrArg (List.map Doc.name) same
    revert names
    decide +kernel
  · exact ⟨.emptyType none none, _, Prod.ext (by decide +kernel) rfl⟩
  · exact ⟨_, Prod.ext (by decide +kernel) rfl⟩

end Module

end DocHarvest
