import DocHarvest.Proofs.Module.Origins
import DocHarvest.Proofs.Module.Traces

/-!
# Records and their drafts

On its way the first pass makes drafts, and what it adds to the store has been built from them, in
their order; it leaves out what the filter refuses and what a fault puts an end to. `Run.Writes` says
this of a step together with where its drafts come from. So it is enough to look at drafts to know that
all records of the first pass are good.
-/

namespace DocHarvest

open Run

variable {scope : Scope} {good : Doc → Prop} {fits : NodeNames → Prop}
  {before after : Progress}

/-- A draft of a scope has a known origin, and has been made while the names of nodes fit. -/
structure Making.IsSound (making : Making) (scope : Scope) (fits : NodeNames → Prop) : Prop where
  inScope : making.draft.scope = scope
  arises : making.draft.Arises making.category
  isFit : fits making.draft.links.names

/-- What has been added to the store has been built from drafts, in their order. -/
structure Written (scope : Scope) (fits : NodeNames → Prop) (makings : List Making)
    (before after : Progress) : Prop where
  names : fits after.links.names
  sound : ∀ making ∈ makings, making.IsSound scope fits
  stored : ∃ taken added, List.Sublist taken makings ∧ List.Forall₂ Making.Builds taken added ∧
    after.store.docs = before.store.docs ++ added

namespace Written

variable {makings : List Making}

theorem still (isFit : fits before.links.names) (same : after.facts = before.facts) :
    Written scope fits [] before after := by
  rcases Prod.mk.inj same with ⟨docs, names⟩
  exact ⟨names ▸ isFit, List.forall_mem_nil _, [], [], .slnil, .nil, by simp [docs]⟩

theorem refl (isFit : fits before.links.names) : Written scope fits [] before before :=
  still isFit rfl

theorem trans {later : List Making} {middle : Progress}
    (first : Written scope fits makings before middle)
    (second : Written scope fits later middle after) :
    Written scope fits (makings ++ later) before after where
  names := second.names
  sound := List.forall_mem_append.2 ⟨first.sound, second.sound⟩
  stored := by
    rcases first.stored with ⟨taken, added, part, built, stored⟩
    rcases second.stored with ⟨takenToo, addedToo, partToo, builtToo, storedToo⟩
    refine ⟨taken ++ takenToo, added ++ addedToo, part.append partToo, ?_, ?_⟩
    · exact List.rel_append built builtToo
    · rw [storedToo, stored, List.append_assoc]

/-- A step that changes neither records nor names may follow. -/
theorem followed {middle : Progress} (written : Written scope fits makings before middle)
    (same : after.facts = middle.facts) : Written scope fits makings before after := by
  have whole := written.trans (still written.names same)
  rwa [List.append_nil] at whole

/-- A change of the state that touches neither records nor names may come before. -/
theorem preceded {middle : Progress} (written : Written scope fits makings middle after)
    (same : middle.facts = before.facts) : Written scope fits makings before after where
  names := written.names
  sound := written.sound
  stored := by
    have docs : middle.store.docs = before.store.docs := (Prod.mk.inj same).1
    exact docs ▸ written.stored

/-- Every record that has been added has been built from one of the drafts. -/
theorem exists_making (written : Written scope fits makings before after) {doc : Doc}
    (isStored : doc ∈ after.store.docs) :
    doc ∈ before.store.docs ∨ ∃ making ∈ makings, making.Builds doc := by
  rcases written.stored with ⟨taken, added, part, built, stored⟩
  rw [stored] at isStored
  refine (List.mem_append.1 isStored).imp_right fun isAdded => ?_
  rcases List.mem_iff_getElem.1 isAdded with ⟨index, isIndex, rfl⟩
  have isTaken : index < taken.length := built.length_eq ▸ isIndex
  exact ⟨taken[index], part.subset (List.getElem_mem isTaken), built.get isTaken isIndex⟩

end Written

/-- From a state on, a step adds nothing but what it builds from its drafts, however it ends. -/
def Run.Writes {α : Type} (scope : Scope) (fits : NodeNames → Prop) (step : Run α)
    (makings : Trace Making) (before : Progress) : Prop :=
  ∀ ⦃outcome after⦄, Ends step before outcome after →
    Written scope fits (makings before) before after

namespace Run.Writes

variable {α β : Type} {step : Run α} {makings : Trace Making}

/-- A step that changes neither records nor names. -/
theorem quiet (isFit : fits before.links.names) (leaves : Leaves Progress.facts step) :
    Writes scope fits step .nothing before :=
  fun _ _ ended => .still isFit (leaves ended)

theorem pure (isFit : fits before.links.names) (value : α) :
    Writes scope fits (pure value) .nothing before :=
  quiet isFit (Leaves.pure value)

theorem bind {next : α → Run β} {later : α → Trace Making}
    (first : Writes scope fits step makings before)
    (second : ∀ value middle, Ends step before (.ok value) middle → fits middle.links.names →
      Writes scope fits (next value) (later value) middle) :
    Writes scope fits (step >>= next) (.bind step makings later) before := by
  intro outcome after ended
  rcases ends_bind.1 ended with ⟨value, middle, start, rest⟩ | ⟨fault, failed, -⟩
  · rw [Trace.bind_of_ok start]
    exact (first start).trans (second value middle start (first start).names rest)
  · rw [Trace.bind_of_error failed]
    exact first failed

theorem andQuiet {next : α → Run β} (first : Writes scope fits step makings before)
    (leaves : ∀ value, Leaves Progress.facts (next value)) :
    Writes scope fits (step >>= next) makings before := by
  intro outcome after ended
  rcases ends_bind.1 ended with ⟨value, middle, start, rest⟩ | ⟨fault, failed, -⟩
  · exact (first start).followed (leaves value rest)
  · exact first failed

theorem guarded {node : Node} {fallback : α} (writes : Writes scope fits step makings before) :
    Writes scope fits (Module.guarded scope node fallback step) makings before := by
  intro outcome after ended
  rcases Module.ends_guarded ended with ran | ⟨fault, middle, entry, messages, failed, -, -, rfl⟩
  · exact writes ran
  · exact (writes failed).followed rfl

theorem forM {work : α → Run β} {each : α → Trace Making} {parts : List α}
    (isFit : fits before.links.names) (writes : ∀ part ∈ parts, ∀ state : Progress,
      fits state.links.names → Writes scope fits (work part) (each part) state) :
    Writes scope fits (parts.forM fun part => work part >>= fun _ => Pure.pure ())
      (.each work each parts) before := by
  induction parts generalizing before with
  | nil => exact pure isFit _
  | cons part rest ih =>
      rw [forM_cons, bind_assoc]
      simp only [pure_bind]
      refine (writes part (List.mem_cons_self ..) before isFit).bind fun _ middle _ isFitToo => ?_
      exact ih isFitToo fun other isPart => writes other (List.mem_cons_of_mem _ isPart)

/-- What a step builds from its drafts is good if it is admitted. -/
theorem upholds (admits : scope.Admits good fits)
    (writes : ∀ state : Progress, fits state.links.names → Writes scope fits step makings state) :
    Upholds good fits (fun _ => True) step := by
  intro before outcome after holds ended
  have written := writes before holds.names ended
  refine ⟨⟨fun doc isStored => ?_, written.names⟩, fun _ _ => trivial⟩
  rcases written.exists_making isStored with wasStored | ⟨making, isMaking, built⟩
  · exact holds.records doc wasStored
  · have sound := written.sound making isMaking
    exact admits.built sound.inScope sound.arises sound.isFit built

end Run.Writes

/-! ## The first pass -/

theorem Scope.Names.naming (named : scope.Names fits) {links : Links} {category : Category}
    {node : Node} (known : category = .moduleClass → scope.program.Contains node)
    (isFit : fits links.names) : fits (links.naming scope category node).names := by
  by_cases isClass : category = .moduleClass
  · subst isClass
    exact named links node (known rfl) isFit
  · rwa [Links.naming_of_ne _ _ _ isClass]

namespace Run.Writes

theorem record (named : scope.Names fits) (isFit : fits before.links.names) {id : Int}
    {category : Category} {node : Node} {tags : List Tag}
    (known : category = .moduleClass → scope.program.Contains node)
    (arises : ∀ links, Draft.Arises ⟨scope, links, id, node, tags⟩ category) :
    Writes scope fits
      (Run.build scope id category node tags >>= fun doc => Run.insert scope doc >>= fun _ =>
        Pure.pure ()) (Making.watch.record scope id category node tags) before := by
  intro outcome after ended
  have isFitToo := named.naming known isFit
  have sound : Making.IsSound ⟨category, ⟨scope, before.links.naming scope category node, id, node,
      tags⟩⟩ scope fits := ⟨rfl, arises _, isFitToo⟩
  rcases ends_record ended with ⟨added, messages, rfl, ⟨doc, rfl, -, built⟩ | ⟨rfl, -⟩⟩
  · exact ⟨isFitToo, List.forall_mem_singleton.2 sound, _, _, .refl _, .cons built .nil, rfl⟩
  · exact ⟨isFitToo, List.forall_mem_singleton.2 sound, [], [], List.nil_sublist _, .nil, rfl⟩

/-- An id is drawn for a record, and the record is built and stored. -/
theorem drawn (named : scope.Names fits) (isFit : fits before.links.names) {category : Category}
    {node : Node} {tags : List Tag} (known : category = .moduleClass → scope.program.Contains node)
    (arises : ∀ links id, Draft.Arises ⟨scope, links, id, node, tags⟩ category) :
    Writes scope fits ((liftM drawId >>= fun id =>
        Run.build scope id category node tags >>= Run.insert scope) >>= fun _ => Pure.pure ())
      (.bind (liftM drawId) .nothing fun id => Making.watch.record scope id category node tags)
      before := by
  simp only [bind_assoc]
  have drawing : Writes scope fits (liftM drawId) .nothing before :=
    quiet isFit (Leaves.lift fun _ => rfl)
  refine drawing.bind fun id middle _ isFitToo => ?_
  exact record named isFitToo known fun links => arises links id

theorem document (named : scope.Names fits) (isFit : fits before.links.names) {node : Node}
    (target : node.shape = .virtual ∨ scope.program.Contains node) {comment : Comment}
    (offered : scope.program.Offers comment) :
    Writes scope fits (Run.document scope node comment)
      (documentTrace Making.watch scope node comment) before := by
  rw [document_eq]
  unfold documentTrace
  generalize ofComment : comment.tags = tags
  -- Tags can decide by themselves, and else what is decided on is a node of the program.
  have origin (decision : Decision)
      (isFound : ((Decision.decide scope tags node).run before).1 = some decision) :
      (decision.category = .moduleClass → scope.program.Contains decision.node) ∧
        ∀ links id, Draft.Arises ⟨scope, links, id, decision.node, tags⟩ decision.category := by
    cases tagged : Decision.ofTags? tags with
    | some category =>
        rw [Decision.decide_tagged scope node tagged] at isFound
        cases isFound
        refine ⟨?_, fun links id => .defined tagged⟩
        rintro rfl
        cases Decision.isVirtual_of_ofTags? tagged
    | none =>
        have contained := Decision.decide_contains scope target tagged before decision isFound
        exact ⟨fun _ => contained, fun links id => .placed contained comment offered ofComment.symm⟩
  have decided : Writes scope fits (liftM (Decision.decide scope tags node))
      (Making.watch.decision tags node) before :=
    quiet isFit (Leaves.lift (Decision.decide_facts scope tags node))
  refine decided.bind fun found state ended isFitToo => ?_
  have isFound := Except.ok.inj (ends_lift.1 ended).1
  cases found with
  | none => exact pure isFitToo _
  | some decision =>
      rcases origin decision isFound.symm with ⟨known, arises⟩
      exact drawn named isFitToo known arises

theorem virtualNode {α : Type} {next : Node → Run α} {later : Node → Trace Making}
    (isFit : fits before.links.names) (parent : Option Node)
    (rest : ∀ virtual state, virtual.shape = .virtual → fits state.links.names →
      Writes scope fits (next virtual) (later virtual) state) :
    Writes scope fits (liftM (Run.virtualNode parent) >>= next)
      (.bind (liftM (Run.virtualNode parent)) .nothing later) before := by
  have drawn : Writes scope fits (liftM (Run.virtualNode parent)) .nothing before :=
    quiet isFit (Leaves.lift fun _ => rfl)
  refine drawn.bind fun virtual state ended isFitToo => rest virtual state ?_ isFitToo
  rcases ends_lift.1 ended with ⟨⟨⟩, -⟩
  rfl

theorem documentEach (named : scope.Names fits) (isFit : fits before.links.names) {node : Node}
    (parent : Option Node) (target : node.shape = .virtual ∨ scope.program.Contains node)
    {comments : List Comment} (offered : ∀ comment ∈ comments, scope.program.Offers comment) :
    Writes scope fits (Run.documentEach scope node parent comments)
      (documentEachTrace Making.watch scope node parent comments) before := by
  induction comments generalizing before with
  | nil => exact pure isFit _
  | cons comment rest ih =>
      have first := offered comment (List.mem_cons_self ..)
      cases rest with
      | nil => exact document named isFit target first
      | cons next others =>
          rw [documentEach_cons, documentEachTrace_cons]
          refine virtualNode isFit parent fun aside state isVirtual isFitToo => ?_
          refine (document named isFitToo (Or.inl isVirtual) first).bind fun _ _ _ isFit => ?_
          exact ih isFit fun other isOther => offered other (List.mem_cons_of_mem _ isOther)

theorem documentComments (named : scope.Names fits) (isFit : fits before.links.names)
    {node : Option Node} (parent : Option Node) (contained : ∀ documented, node = some documented →
      scope.program.Contains documented) {comments : List Comment}
    (present : ∀ comment ∈ comments, scope.program.HasComment comment) :
    Writes scope fits (Run.documentComments scope node parent comments)
      (documentCommentsTrace Making.watch scope node parent comments) before := by
  have areOffered := Node.HasComment.offers_docComments present
  cases node with
  | none =>
      have drawn : Writes scope fits (liftM (Run.virtualNode parent) >>= fun virtual =>
          Run.documentEach scope virtual parent (Comment.docComments comments))
          (.bind (liftM (Run.virtualNode parent)) .nothing fun virtual =>
            documentEachTrace Making.watch scope virtual parent (Comment.docComments comments))
          before :=
        virtualNode isFit parent fun virtual state isVirtual isFitToo =>
          documentEach named isFitToo parent (Or.inl isVirtual) areOffered
      exact drawn
  | some node => exact documentEach named isFit parent (Or.inr (contained node rfl)) areOffered

/-- The comments before a node of the program are documented, and then those behind it. -/
theorem documentBoth (named : scope.Names fits) (isFit : fits before.links.names) {node : Node}
    (contained : scope.program.Contains node) (parent : Option Node)
    {leading trailing : List Comment} {withTrailing : Bool}
    (present : ∀ comment ∈ leading, scope.program.HasComment comment)
    (presentToo : ∀ comment ∈ trailing, scope.program.HasComment comment) :
    Writes scope fits
      (Run.documentComments scope (some node) parent leading >>= fun _ =>
        if withTrailing then Run.documentComments scope none parent trailing else Pure.pure ())
      (documentBothTrace Making.watch scope node parent leading trailing withTrailing) before := by
  have first : Writes scope fits (Run.documentComments scope (some node) parent leading) _ before :=
    documentComments named isFit parent (fun other same => Option.some.inj same ▸ contained) present
  refine first.bind fun _ middle _ isFitToo => ?_
  cases withTrailing with
  | false => exact pure isFitToo _
  | true =>
      have second : Writes scope fits (Run.documentComments scope none parent trailing) _ middle :=
        documentComments named isFitToo parent (by rintro _ ⟨⟩) presentToo
      exact second

end Run.Writes

namespace Module

variable {node : Node}

theorem documentNode_writes (named : scope.Names fits) (isFit : fits before.links.names)
    (contained : scope.program.Contains node) (parent : Option Node) (isLast : Bool) :
    Writes scope fits (documentNode scope node parent isLast)
      (documentNodeTrace Making.watch scope node parent isLast) before := by
  have own (comment : Comment) (isComment : comment ∈ node.leading ++ node.trailing) :
      scope.program.HasComment comment :=
    ⟨node, contained, List.mem_append_left _ isComment⟩
  refine Writes.documentBoth named isFit contained parent ?_ ?_
  · intro comment isComment
    split at isComment
    · exact .decorator contained isComment
    · exact own comment (List.mem_append_left _ isComment)
  · exact fun comment isComment => own comment (List.mem_append_right _ isComment)

theorem unwrap_writes (named : scope.Names fits) (isFit : fits before.links.names)
    (contained : scope.program.Contains node) (isLast : Bool) :
    Writes scope fits (Export.unwrap scope node isLast)
      (Export.unwrapTrace Making.watch scope node isLast) before := by
  intro outcome after ended
  unfold Export.unwrap at ended
  unfold Export.unwrapTrace
  cases wrapped : node.exported? with
  | none =>
      rw [wrapped] at ended
      rcases ends_pure.1 ended with ⟨-, rfl⟩
      exact .refl isFit
  | some declaration =>
      rw [wrapped] at ended
      have inside := contained.exported wrapped
      have own (other : Node) (known : scope.program.Contains other) (comment : Comment)
          (isComment : comment ∈ other.leading ++ other.trailing) :
          scope.program.HasComment comment :=
        ⟨other, known, List.mem_append_left _ isComment⟩
      have visited := ends_lift_bind.1 ended
      have linked := ends_lift_bind.1 visited
      have isFitToo : fits (visiting before declaration (some node)).links.names := isFit
      refine (Writes.documentBoth named isFitToo inside (some node) ?_ ?_ linked).preceded rfl
      · simp only [List.forall_mem_append]
        refine ⟨⟨?_, ?_⟩, fun comment => .decorator inside⟩
        · exact fun comment isComment => own _ inside comment (List.mem_append_left _ isComment)
        · exact fun comment isComment => own _ contained comment (List.mem_append_left _ isComment)
      · refine List.forall_mem_append.2 ⟨?_, ?_⟩
        · exact fun comment isComment => own _ inside comment (List.mem_append_right _ isComment)
        · exact fun comment isComment => own _ contained comment (List.mem_append_right _ isComment)

theorem push_writes (named : scope.Names fits) (isFit : fits before.links.names)
    (contained : scope.program.Contains node) (parent : Option Node) :
    Writes scope fits (push scope node parent) (pushTrace Making.watch scope node parent)
      before := by
  intro outcome after ended
  unfold pushTrace
  rcases ends_push ended with ⟨passed, -, rfl⟩ | ⟨⟨notRoot, isNew⟩, documented⟩
  · rw [if_pos (by simpa using passed)]
    exact .refl isFit
  · rw [if_neg (by simp [notRoot, isNew])]
    have isFitToo : fits (visiting before node parent).links.names := isFit
    split at documented
    · rename_i isExport
      rw [if_pos isExport]
      exact (unwrap_writes named isFitToo contained _ documented).preceded rfl
    · rename_i noExport
      rw [if_neg noExport]
      exact (documentNode_writes named isFitToo contained parent _ documented).preceded rfl

theorem enter_writes (named : scope.Names fits) (isFit : fits before.links.names)
    (contained : scope.program.Contains node) (parent : Option Node) :
    Writes scope fits (enter scope node parent) (enterTrace Making.watch scope node parent)
      before := by
  rw [enter_eq]
  refine Writes.guarded ?_
  unfold visit enterTrace
  split
  · exact Writes.quiet isFit ((Leaves.lift fun _ => rfl).bind fun _ => Leaves.pure _)
  · exact (push_writes named isFit contained parent).andQuiet fun _ => Leaves.pure _

theorem firstPass_writes (named : scope.Names fits) (isFit : fits before.links.names) :
    Writes scope fits (firstPass scope) (firstPassTrace Making.watch scope) before := by
  intro outcome after ended
  refine Writes.forM isFit ?_ (ends_walked ended)
  intro place isWalked state isFitToo
  exact enter_writes named isFitToo ⟨place, Node.walked_subset_places isWalked, rfl⟩ _

theorem documentInner_writes (named : scope.Names fits) (isFit : fits before.links.names) :
    Writes scope fits (documentInner scope) (documentInnerTrace Making.watch scope) before := by
  unfold documentInner documentInnerTrace
  split
  · refine .guarded (Writes.documentComments named isFit _ (by rintro documented ⟨⟩) ?_)
    exact fun comment isComment =>
      ⟨_, scope.program.contains_self, List.mem_append_right _ isComment⟩
  · exact Writes.pure isFit _

theorem storeModule_writes (named : scope.Names fits) (isFit : fits before.links.names)
    {category : Category} (isFile : category.isFile) (id : Int) :
    Writes scope fits (storeModule scope category id)
      (Making.watch.record scope id category scope.program []) before := by
  refine Writes.record named isFit ?_ fun links => .whole isFile rfl
  rintro rfl
  cases isFile

/-- Everything that is done before the walk. -/
theorem prepare_writes (named : ∀ id, (within scope id).Names fits)
    (isFit : fits before.links.names) :
    Writes (within scope before.store.nextId) fits (prepare scope)
      (prepareTrace Making.watch scope) before := by
  unfold prepare opening prepareTrace
  have isFile : (if scope.code.isSome then Category.memory else .file).isFile := by
    split <;> rfl
  have drawn : Writes (within scope before.store.nextId) fits (liftM drawId) .nothing before :=
    Writes.quiet isFit (Leaves.lift fun _ => rfl)
  refine drawn.bind fun id middle ended isFitToo => ?_
  cases Except.ok.inj (ends_lift.1 ended).1
  have stored := storeModule_writes (named before.store.nextId) isFitToo isFile before.store.nextId
  refine stored.bind fun _ state _ isFitAgain => ?_
  exact (documentInner_writes (named _) isFitAgain).andQuiet fun _ => Leaves.pure _

theorem firstPass_upholds (admits : scope.Admits good fits) :
    Upholds good fits (fun _ => True) (firstPass scope) :=
  Writes.upholds admits fun _ => firstPass_writes admits.named

theorem storeModule_upholds (admits : scope.Admits good fits) {category : Category}
    (isFile : category.isFile) (id : Int) :
    Upholds good fits (fun _ => True) (storeModule scope category id) :=
  Writes.upholds admits fun _ isFit => storeModule_writes admits.named isFit isFile id

theorem documentInner_upholds (admits : scope.Admits good fits) :
    Upholds good fits (fun _ => True) (documentInner scope) :=
  Writes.upholds admits fun _ => documentInner_writes admits.named

end Module

end DocHarvest
