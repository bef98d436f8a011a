import DocHarvest.Proofs.Module.Choices
import DocHarvest.Proofs.Run.Growth

/-!
# The effects of every step

`Run.Quiet` holds of the steps that touch neither the store nor the list of invalid code,
`Run.Oblivious` of those that do not even look at them, and `Run.Sound` of all others. The last two are
closed under composition, so there is one short lemma for each step of the two passes and of the walk
through a test file.
-/

namespace DocHarvest

namespace Run

variable {α β : Type}

/-- A step that touches neither the store nor the list of invalid code. -/
def Quiet (action : StateM Progress α) : Prop :=
  ∀ before, (action.run before).2.store = before.store ∧
    (action.run before).2.invalid = before.invalid

namespace Quiet

theorem setParent (node : Node) (parent : Option Node) : Quiet (Run.setParent node parent) :=
  fun _ => ⟨rfl, rfl⟩

theorem markVisited (node : Node) : Quiet (Run.markVisited node) :=
  fun _ => ⟨rfl, rfl⟩

theorem isVisited (node : Node) : Quiet (Run.isVisited node) :=
  fun _ => ⟨rfl, rfl⟩

theorem say (level : Level) (text : String) : Quiet (Run.say level text) :=
  fun _ => ⟨rfl, rfl⟩

theorem freshNodes (count : Nat) : Quiet (Run.freshNodes count) :=
  fun _ => ⟨rfl, rfl⟩

theorem virtualNode (parent : Option Node) : Quiet (Run.virtualNode parent) :=
  fun _ => ⟨rfl, rfl⟩

theorem nameBlock (call : Node) : Quiet (Module.nameBlock call) :=
  fun _ => ⟨rfl, rfl⟩

end Quiet

/-- A step that neither looks at the store and the list of invalid code nor changes them. -/
def Oblivious (action : StateM Progress α) : Prop :=
  ∀ before store invalid, action.run { before with store, invalid } =
    ((action.run before).1, { (action.run before).2 with store, invalid })

namespace Oblivious

theorem pure (value : α) : Oblivious (pure value) :=
  fun _ _ _ => rfl

theorem bind {action : StateM Progress α} {next : α → StateM Progress β} (first : Oblivious action)
    (second : ∀ value, Oblivious (next value)) : Oblivious (action >>= next) := by
  intro before store invalid
  change (next (action.run _).1).run (action.run _).2 = _
  rw [first before store invalid]
  exact second _ _ _ _

/-- What a step does with the state must not depend on the store and the list of invalid code. -/
theorem observe {next : Progress → StateM Progress β}
    (blind : ∀ before store invalid, next { before with store, invalid } = next before)
    (second : ∀ progress, Oblivious (next progress)) : Oblivious (get >>= next) := by
  intro before store invalid
  change (next { before with store, invalid }).run _ = _
  rw [blind]
  exact second _ _ _ _

theorem setParent (node : Node) (parent : Option Node) : Oblivious (Run.setParent node parent) :=
  fun _ _ _ => rfl

theorem markVisited (node : Node) : Oblivious (Run.markVisited node) :=
  fun _ _ _ => rfl

theorem say (level : Level) (text : String) : Oblivious (Run.say level text) :=
  fun _ _ _ => rfl

/-- A step that does not look at the store does not touch it. -/
theorem quiet {action : StateM Progress α} (oblivious : Oblivious action) : Quiet action := by
  intro before
  have same : action.run before =
      ((action.run before).1, { (action.run before).2 with
        store := before.store, invalid := before.invalid }) :=
    oblivious before before.store before.invalid
  rw [same]
  exact ⟨rfl, rfl⟩

end Oblivious

end Run

namespace Decision

open Run

theorem topLevel_oblivious (scope : Scope) (category : Category) (node : Node) :
    Oblivious (topLevel scope category node) :=
  fun _ _ _ => rfl

theorem classScoped_oblivious (category : Category) (what : String) (node : Node) :
    Oblivious (classScoped category what node) := by
  refine Oblivious.observe (fun _ _ _ => rfl) fun progress => ?_
  split
  · exact Oblivious.pure _
  · exact (Oblivious.say _ _).bind fun _ => Oblivious.pure _

theorem memberAssignment_oblivious (statement : Node) (expression : Option Node) :
    Oblivious (memberAssignment statement expression) := by
  unfold memberAssignment
  split
  · refine (Oblivious.setParent _ _).bind fun _ => ?_
    split
    · exact Oblivious.pure _
    · refine Oblivious.observe (fun _ _ _ => rfl) fun progress => ?_
      split
      · exact Oblivious.pure _
      · split
        · exact (Oblivious.say _ _).bind fun _ => Oblivious.pure _
        · exact (Oblivious.markVisited _).bind fun _ => Oblivious.pure _
  · exact Oblivious.pure _

theorem binding_oblivious (category : Category) (outer : Node) (value : Option Node) :
    Oblivious (binding category outer value) := by
  unfold binding
  split
  · refine (Oblivious.setParent _ _).bind fun _ => ?_
    exact (Oblivious.markVisited _).bind fun _ => Oblivious.pure _
  · exact Oblivious.pure _

theorem topLevelBinding_oblivious (scope : Scope) (category : Category) (outer : Node)
    (value : Option Node) : Oblivious (topLevelBinding scope category outer value) := by
  refine Oblivious.observe (fun _ _ _ => rfl) fun progress => ?_
  split
  · exact binding_oblivious _ _ _
  · exact Oblivious.pure _

theorem ofShape_oblivious (scope : Scope) (node : Node) : Oblivious (ofShape scope node) := by
  unfold ofShape
  split
  · exact topLevel_oblivious _ _ _
  · exact classScoped_oblivious _ _ _
  · exact classScoped_oblivious _ _ _
  · exact memberAssignment_oblivious _ _
  · exact topLevel_oblivious _ _ _
  · split
    · exact topLevel_oblivious _ _ _
    · exact Oblivious.pure _
  · exact topLevel_oblivious _ _ _
  · exact topLevelBinding_oblivious _ _ _ _
  · split
    · exact topLevelBinding_oblivious _ _ _ _
    · exact Oblivious.pure _
  · exact Oblivious.pure _

/-- Deciding looks at links and classes only. -/
theorem decide_oblivious (scope : Scope) (tags : List Tag) (node : Node) :
    Oblivious (decide scope tags node) := by
  unfold decide
  split
  · exact Oblivious.pure _
  · refine (ofShape_oblivious scope node).bind fun decision => ?_
    split
    · exact Oblivious.bind (fun _ _ _ => rfl) fun _ => Oblivious.pure _
    · exact (Oblivious.pure _).bind fun _ => Oblivious.pure _

end Decision

namespace Run

variable {α β : Type} {scope : Scope} {kinds : Category → Prop}

/-- A step that succeeds returns suitable values only. -/
def Yields (step : Run α) (suitable : α → Prop) : Prop :=
  ∀ before value after, Ends step before (.ok value) after → suitable value

namespace Yields

variable {suitable : α → Prop} {fine : β → Prop}

theorem anything (step : Run α) : Yields step fun _ => True :=
  fun _ _ _ _ => trivial

theorem pure {value : α} (isSuitable : suitable value) : Yields (pure value) suitable := by
  intro before other after ended
  rcases ends_pure.1 ended with ⟨same, -⟩
  cases same
  exact isSuitable

theorem lift {action : StateM Progress α} (each : ∀ before, suitable (action.run before).1) :
    Yields (liftM action) suitable := by
  intro before value after ended
  rcases ends_lift.1 ended with ⟨same, -⟩
  cases same
  exact each before

theorem bindOf {step : Run α} {next : α → Run β} (first : Yields step suitable)
    (second : ∀ value, suitable value → Yields (next value) fine) :
    Yields (step >>= next) fine := by
  intro before value after ended
  rcases ends_bind_ok.1 ended with ⟨inner, middle, start, rest⟩
  exact second inner (first _ _ _ start) _ _ _ rest

theorem bind {step : Run α} {next : α → Run β} (second : ∀ value, Yields (next value) fine) :
    Yields (step >>= next) fine :=
  (anything step).bindOf fun value _ => second value

theorem mapM {work : α → Run β} (each : ∀ part, Yields (work part) fine) (parts : List α) :
    Yields (parts.mapM work) fun values => ∀ value ∈ values, fine value := by
  induction parts with
  | nil => exact pure (by simp)
  | cons part parts ih =>
      rw [List.mapM_cons]
      refine (each part).bindOf fun value isFine => ih.bindOf fun values areFine => pure ?_
      simpa using ⟨isFine, areFine⟩

end Yields

/-- What is complained about has an excuse: the fault in the end, and those noted on the way. -/
structure Fair (scope : Scope) (before : Progress) (outcome : Except Fault α) (after : Progress) :
    Prop where
  ends : ∀ fault, outcome = .error fault → scope.Excuses fault
  notes : ∀ entry ∈ after.invalid, entry ∈ before.invalid ∨ scope.Excuses entry.fault

theorem Fair.ok {before after : Progress} {value : α} (invalid : after.invalid = before.invalid) :
    Fair scope before (.ok value) after where
  ends fault impossible := by cases impossible
  notes entry noted := Or.inl (invalid ▸ noted)

/-- Fairness is about faults only, not about the values of steps that succeed. -/
theorem Fair.recast {before after : Progress} {outcome : Except Fault α} {other : Except Fault β}
    (fair : Fair scope before outcome after)
    (same : ∀ fault, other = .error fault → outcome = .error fault) :
    Fair scope before other after where
  ends fault failed := fair.ends fault (same fault failed)
  notes := fair.notes

theorem Fair.trans {before middle after : Progress} {outcome : Except Fault β}
    (first : ∀ entry ∈ middle.invalid, entry ∈ before.invalid ∨ scope.Excuses entry.fault)
    (second : Fair scope middle outcome after) : Fair scope before outcome after where
  ends := second.ends
  notes entry noted := (second.notes entry noted).elim (first entry) Or.inr

/-- A step has no effects but those listed, and in good order it complains fairly. -/
structure Sound (scope : Scope) (kinds : Category → Prop) (step : Run α) : Prop where
  reaches : ∀ {before outcome after}, Ends step before outcome after →
    Reaches scope kinds before after
  fair : ∀ {before outcome after}, Ends step before outcome after →
    before.store.Disciplined → Fair scope before outcome after

namespace Sound

theorem pure (value : α) : Sound scope kinds (pure value) where
  reaches ended := by
    rcases ends_pure.1 ended with ⟨-, rfl⟩
    exact .refl
  fair ended _ := by
    rcases ends_pure.1 ended with ⟨rfl, rfl⟩
    exact .ok rfl

theorem lift {action : StateM Progress α} (quiet : Quiet action) :
    Sound scope kinds (liftM action) where
  reaches ended := by
    rcases ends_lift.1 ended with ⟨-, rfl⟩
    exact .quiet (quiet _).1 (quiet _).2
  fair ended _ := by
    rcases ends_lift.1 ended with ⟨rfl, rfl⟩
    exact .ok (quiet _).2

theorem get : Sound scope kinds get where
  reaches ended := by
    rcases ends_get.1 ended with ⟨-, rfl⟩
    exact .refl
  fair ended _ := by
    rcases ends_get.1 ended with ⟨rfl, rfl⟩
    exact .ok rfl

theorem modify {change : Progress → Progress}
    (effect : ∀ before, Effect scope kinds before (change before))
    (invalid : ∀ before, (change before).invalid = before.invalid) :
    Sound scope kinds (modify change) where
  reaches ended := by
    rcases ends_modify.1 ended with ⟨-, rfl⟩
    exact .single (effect _)
  fair ended _ := by
    rcases ends_modify.1 ended with ⟨rfl, rfl⟩
    exact .ok (invalid _)

/-- After a step only the values that it can return matter. -/
theorem bindOf {step : Run α} {next : α → Run β} {suitable : α → Prop}
    (first : Sound scope kinds step) (yields : Yields step suitable)
    (second : ∀ value, suitable value → Sound scope kinds (next value)) :
    Sound scope kinds (step >>= next) where
  reaches ended := by
    rcases ends_bind.1 ended with ⟨value, middle, start, rest⟩ | ⟨fault, failed, -⟩
    · exact (first.reaches start).trans ((second value (yields _ _ _ start)).reaches rest)
    · exact first.reaches failed
  fair ended disciplined := by
    rcases ends_bind.1 ended with ⟨value, middle, start, rest⟩ | ⟨fault, failed, rfl⟩
    · have kept := (first.reaches start).disciplined disciplined
      exact .trans (first.fair start disciplined).notes
        ((second value (yields _ _ _ start)).fair rest kept)
    · refine (first.fair failed disciplined).recast ?_
      rintro other ⟨⟩
      rfl

theorem bind {step : Run α} {next : α → Run β} (first : Sound scope kinds step)
    (second : ∀ value, Sound scope kinds (next value)) : Sound scope kinds (step >>= next) :=
  first.bindOf (Yields.anything step) fun value _ => second value

theorem forM {work : α → Run PUnit} {parts : List α}
    (each : ∀ part ∈ parts, Sound scope kinds (work part)) :
    Sound scope kinds (parts.forM work) := by
  induction parts with
  | nil => exact pure _
  | cons part parts ih =>
      refine (each part (by simp)).bind fun _ => ih fun other isPart => ?_
      exact each other (List.mem_cons_of_mem part isPart)

/-- A loop that ends well and notes nothing does so with its first part and with the others. -/
theorem ends_forM_cons {work : α → Run PUnit} (each : ∀ part, Sound scope kinds (work part))
    {part : α} {parts : List α} {before after : Progress}
    (ended : Ends ((part :: parts).forM work) before (.ok ()) after)
    (faultless : after.invalid = before.invalid) :
    ∃ middle, Ends (work part) before (.ok ()) middle ∧ middle.invalid = before.invalid ∧
      Ends (parts.forM work) middle (.ok ()) after ∧ after.invalid = middle.invalid := by
  rw [forM_cons] at ended
  rcases ends_bind_ok.1 ended with ⟨_, middle, first, rest⟩
  have soundRest : Sound scope kinds (parts.forM work) := forM fun other _ => each other
  rcases invalid_unchanged ((each part).reaches first).keeps_invalid
    (soundRest.reaches rest).keeps_invalid faultless with ⟨same, sameToo⟩
  exact ⟨middle, first, same, rest, sameToo⟩

theorem mapM {work : α → Run β} (each : ∀ part, Sound scope kinds (work part))
    (parts : List α) : Sound scope kinds (parts.mapM work) := by
  induction parts with
  | nil => exact pure _
  | cons part parts ih =>
      rw [List.mapM_cons]
      exact (each part).bind fun value => ih.bind fun values => pure _

theorem mono {others : Category → Prop} {step : Run α} (sound : Sound scope kinds step)
    (more : ∀ category, kinds category → others category) : Sound scope others step where
  reaches ended := (sound.reaches ended).mono more
  fair ended := sound.fair ended

end Sound

end Run

/-- The links once a record is begun: a class is noted with its name. -/
def Links.naming (links : Links) (scope : Scope) (category : Category) (node : Node) : Links :=
  if category == .moduleClass then links.setName node.id (Draft.classNameOf scope links node)
  else links

namespace Run

variable {α β : Type} {scope : Scope} {kinds : Category → Prop} {category : Category}
  {before after : Progress}

theorem noteName_run (scope : Scope) (category : Category) (node : Node) (before : Progress) :
    (noteName scope category node).run before =
      ((), { before with links := before.links.naming scope category node }) := by
  unfold noteName Links.naming
  split <;> rfl

theorem reportGuesses_run (category : Category) (node : Node) (tags : List Tag)
    (before : Progress) :
    ∃ messages, (reportGuesses category node tags).run before =
      ((), { before with messages }) := by
  unfold reportGuesses
  split
  · exact ⟨_, rfl⟩
  · exact ⟨before.messages, rfl⟩

/-- Building a record notes the name of a class, may say something, and makes the record. -/
theorem ends_build {id : Int} {node : Node} {tags : List Tag} {outcome : Except Fault Doc}
    (ended : Ends (build scope id category node tags) before outcome after) :
    ∃ messages,
      after = { before with links := before.links.naming scope category node, messages } ∧
        outcome = Draft.build ⟨scope, after.links, id, node, tags⟩ category := by
  unfold build at ended
  rcases reportGuesses_run category node tags
    { before with links := before.links.naming scope category node } with ⟨messages, reported⟩
  simp only [ends_bind, ends_lift, ends_get, ends_liftExcept, noteName_run] at ended
  refine ⟨messages, ?_⟩
  grind

/-- A built record has the heading of its draft, and only reading a file can blame an id. -/
theorem build_sound {id : Int} {node : Node} {tags : List Tag} {outcome : Except Fault Doc}
    (ended : Ends (build scope id category node tags) before outcome after) :
    after.store = before.store ∧ after.invalid = before.invalid ∧
      (∀ doc, outcome = .ok doc →
        ∃ links, Draft.Heads ⟨scope, links, id, node, tags⟩ category doc) ∧
      ∀ fault, outcome = .error fault → scope.Excuses fault := by
  rcases ends_build ended with ⟨messages, rfl, built⟩
  refine ⟨rfl, rfl, ?_, ?_⟩
  · rintro doc rfl
    exact ⟨_, Draft.build_heads built.symm⟩
  · rintro fault rfl id rfl
    by_cases unreadable : scope.fileText = .error (.duplicateId id)
    · exact Or.inl unreadable
    · exact absurd built.symm (Draft.build_acceptsId _ category unreadable)

/-- How a record comes to be stored or not. -/
theorem ends_insert {doc : Doc} {outcome : Except Fault Bool}
    (ended : Ends (insert scope doc) before outcome after) :
    (outcome = .ok true ∧ before.store.get? doc.id = none ∧
      after = { before with store := { before.store with docs := before.store.docs ++ [doc] } }) ∨
    (outcome = .ok false ∧ after = before ∧ scope.filter.isSome) ∨
    after = before ∧ ∃ fault, outcome = .error fault ∧
      ((∃ filter, scope.filter = some filter ∧ filter doc = .error fault) ∨
        fault = .duplicateId doc.id ∧ (before.store.get? doc.id).isSome) := by
  have read : (∃ stored store, before.store.insert scope.filter doc = .ok (stored, store) ∧
      outcome = .ok stored ∧ after = { before with store }) ∨
      ∃ fault, before.store.insert scope.filter doc = .error fault ∧ outcome = .error fault ∧
        after = before := by
    simp only [insert, ends_bind, ends_get, ends_liftExcept, ends_modify, ends_pure] at ended
    grind
  rcases before.store.insert_cases scope.filter doc with
    ⟨inserted, absent⟩ | ⟨leftOut, filtered⟩ | ⟨fault, refused, reason⟩
  · rcases read with ⟨stored, store, same, rfl, rfl⟩ | ⟨fault, same, -, -⟩
    · cases inserted.symm.trans same
      exact Or.inl ⟨rfl, absent, rfl⟩
    · cases inserted.symm.trans same
  · rcases read with ⟨stored, store, same, rfl, rfl⟩ | ⟨fault, same, -, -⟩
    · cases leftOut.symm.trans same
      exact Or.inr (Or.inl ⟨rfl, rfl, filtered⟩)
    · cases leftOut.symm.trans same
  · rcases read with ⟨stored, store, same, rfl, rfl⟩ | ⟨fault, same, rfl, rfl⟩
    · cases refused.symm.trans same
    · cases refused.symm.trans same
      exact Or.inr (Or.inr ⟨rfl, fault, rfl, reason⟩)

/-- To record a node adds the record or nothing, and changes nothing else but links and messages. -/
theorem ends_record {id : Int} {node : Node} {tags : List Tag} {outcome : Except Fault Unit}
    (ended : Ends (build scope id category node tags >>= fun doc => insert scope doc >>= fun _ =>
      pure ()) before outcome after) :
    ∃ added messages, after = { before with
        links := before.links.naming scope category node
        messages
        store := { before.store with docs := before.store.docs ++ added } } ∧
      ((∃ doc, added = [doc] ∧ outcome = .ok () ∧
          Draft.build ⟨scope, after.links, id, node, tags⟩ category = .ok doc) ∨
        added = [] ∧ (scope.filter = none → ∃ fault, outcome = .error fault)) := by
  rcases ends_bind.1 ended with ⟨doc, built, making, rest⟩ | ⟨fault, failed, rfl⟩
  · rcases ends_build making with ⟨messages, rfl, made⟩
    rcases ends_bind.1 rest with ⟨stored, last, inserting, finished⟩ | ⟨fault, refused, rfl⟩
    · rcases ends_pure.1 finished with ⟨rfl, rfl⟩
      rcases ends_insert inserting with ⟨-, -, rfl⟩ | ⟨-, rfl, filtered⟩ | ⟨-, fault, impossible, -⟩
      · exact ⟨[doc], messages, rfl, Or.inl ⟨doc, rfl, rfl, made.symm⟩⟩
      · refine ⟨[], messages, by simp, Or.inr ⟨rfl, fun unfiltered => ?_⟩⟩
        rw [unfiltered] at filtered
        cases filtered
      · cases impossible
    · rcases ends_insert refused with ⟨impossible, -⟩ | ⟨impossible, -⟩ | ⟨rfl, -⟩
      · cases impossible
      · cases impossible
      · exact ⟨[], messages, by simp, Or.inr ⟨rfl, fun _ => ⟨fault, rfl⟩⟩⟩
  · rcases ends_build failed with ⟨messages, rfl, -⟩
    exact ⟨[], messages, by simp, Or.inr ⟨rfl, fun _ => ⟨fault, rfl⟩⟩⟩

/--
A record under an id just drawn is stored, or the id is lost. `drawn` is the state after the draw and
`start` the one before it.
-/
theorem insert_drawn (kinds : Category → Prop) (start : Progress) {drawn : Progress} {doc : Doc}
    {outcome : Except Fault Bool} (fresh : doc.id = start.store.nextId) (moduleId : doc.moduleId = scope.moduleId)
    (filePath : doc.filePath = scope.filePath) (kind : kinds doc.category)
    (ended : Ends (insert scope doc) drawn outcome after)
    (store : drawn.store = start.store.draw.2) (invalid : drawn.invalid = start.invalid) :
    Effect scope kinds start after ∧ after.store.nextId = start.store.nextId + 1 ∧
      (start.store.Disciplined → Fair scope start outcome after) := by
  rcases ends_insert ended with ⟨rfl, new, rfl⟩ | ⟨rfl, rfl, -⟩ | ⟨rfl, fault, rfl, reason⟩
  · refine ⟨?_, ?_, fun _ => .ok invalid⟩
    · refine .record doc fresh ?_ moduleId filePath kind ?_ invalid
      · rw [store] at new
        exact new
      · simp only [store, Store.draw]
    · simp only [store, Store.draw]
  · refine ⟨.draw store invalid, ?_, fun _ => .ok invalid⟩
    simp only [store, Store.draw]
  · refine ⟨.draw store invalid, ?_, fun disciplined => ⟨?_, ?_⟩⟩
    · simp only [store, Store.draw]
    · rintro _ ⟨⟩ id rfl
      rcases reason with ⟨filter, given, refused⟩ | ⟨-, present⟩
      · exact Or.inr ⟨filter, doc, given, refused⟩
      · -- the id has only just been drawn, so nothing is stored under it
        have absent : after.store.get? doc.id = none := by
          apply Store.get?_eq_none_of_below
          intro other isStored
          rw [store] at isStored
          rw [fresh]
          exact disciplined.below other isStored
        rw [absent] at present
        cases present
    · exact fun entry noted => Or.inl (invalid ▸ noted)

/-- A record that is built under an id just drawn is stored under it, or the id is lost. -/
theorem build_drawn (kinds : Category → Prop) (start : Progress) {drawn : Progress} {node : Node}
    {tags : List Tag} {outcome : Except Fault Bool}
    (allowed : ∀ {draft : Draft} {doc}, draft.Heads category doc → kinds doc.category)
    (ended : Ends (build scope start.store.nextId category node tags >>= insert scope)
      drawn outcome after)
    (store : drawn.store = start.store.draw.2) (invalid : drawn.invalid = start.invalid) :
    Effect scope kinds start after ∧ after.store.nextId = start.store.nextId + 1 ∧
      (start.store.Disciplined → Fair scope start outcome after) := by
  rcases ends_bind.1 ended with ⟨doc, built, making, stored⟩ | ⟨fault, failed, rfl⟩
  · rcases build_sound making with ⟨sameStore, sameInvalid, heads, -⟩
    rcases heads doc rfl with ⟨links, heads⟩
    exact insert_drawn kinds start heads.id heads.moduleId heads.filePath (allowed heads) stored
      (sameStore.trans store) (sameInvalid.trans invalid)
  · rcases build_sound failed with ⟨sameStore, sameInvalid, -, excused⟩
    have lost := sameStore.trans store
    refine ⟨.draw lost (sameInvalid.trans invalid), ?_, fun _ => ⟨?_, ?_⟩⟩
    · rw [lost]
      rfl
    · rintro other ⟨⟩
      exact excused fault rfl
    · exact fun entry noted => Or.inl (sameInvalid.trans invalid ▸ noted)

theorem Sound.drawnInsert {make : Int → Doc} (id : ∀ id, (make id).id = id)
    (moduleId : ∀ id, (make id).moduleId = scope.moduleId)
    (filePath : ∀ id, (make id).filePath = scope.filePath)
    (kind : ∀ id, kinds (make id).category) :
    Sound scope kinds (liftM drawId >>= fun id => insert scope (make id)) where
  reaches ended := by
    have stored := ends_lift_bind.1 ended
    exact .single (insert_drawn kinds _ (id _) (moduleId _) (filePath _) (kind _) stored rfl rfl).1
  fair ended := by
    have stored := ends_lift_bind.1 ended
    exact (insert_drawn kinds _ (id _) (moduleId _) (filePath _) (kind _) stored rfl rfl).2.2

theorem Sound.drawnBuild {node : Node} {tags : List Tag}
    (allowed : ∀ {draft : Draft} {doc}, draft.Heads category doc → kinds doc.category) :
    Sound scope kinds (liftM drawId >>= fun id =>
      build scope id category node tags >>= insert scope) where
  reaches ended := by
    have stored := ends_lift_bind.1 ended
    exact .single (build_drawn kinds _ allowed stored rfl rfl).1
  fair ended := by
    have stored := ends_lift_bind.1 ended
    exact (build_drawn kinds _ allowed stored rfl rfl).2.2

end Run

end DocHarvest
