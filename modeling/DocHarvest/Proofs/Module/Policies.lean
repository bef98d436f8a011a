import DocHarvest.Proofs.Module.Calls
import Mathlib.Data.List.Basic

/-!
# The two policies

Under the strict policy the first fault ends the work; under the tolerant one every fault is noted
and the work goes on. `Tolerates` relates a step under the one policy to the step under the other.
Until something fails they go the same way. When the strict one fails, the tolerant one goes on from
the very state of the failure, so what was stored until then is kept, and this fault is the next one
noted. The relation is closed under composition, and so it holds of the two passes.
-/

namespace DocHarvest

open Run

/-- A scope with another policy. -/
def Scope.under (scope : Scope) (policy : Policy) : Scope :=
  { scope with policy }

theorem Store.Grows.outlines {fits : Doc → Prop} {before after : Store}
    (grows : before.Grows fits after) :
    before.docs.map Doc.outline <+: after.docs.map Doc.outline := by
  rcases grows.docs with ⟨kept, added, same, outlines, -, -⟩
  rw [same, List.map_append, outlines]
  exact List.prefix_append _ _

/-- What a record says does not depend on the policy. -/
theorem Draft.build_under (scope : Scope) (policy : Policy) (links : Links) (id : Int)
    (category : Category) (node : Node) (tags : List Tag) :
    Draft.build ⟨scope.under policy, links, id, node, tags⟩ category =
      Draft.build ⟨scope, links, id, node, tags⟩ category := by
  cases category <;> rfl

namespace Run

variable {α β : Type} {scope : Scope} {kinds : Category → Prop} {before middle after : Progress}

/-- Records, up to what exports change, and entries about invalid code are kept. -/
structure Retains (before after : Progress) : Prop where
  outlines : before.store.docs.map Doc.outline <+: after.store.docs.map Doc.outline
  invalid : before.invalid <+: after.invalid

theorem Retains.trans (first : Retains before middle) (second : Retains middle after) :
    Retains before after where
  outlines := first.outlines.trans second.outlines
  invalid := first.invalid.trans second.invalid

theorem Reaches.retains (reaches : Reaches scope kinds before after) : Retains before after where
  outlines := reaches.grows.outlines
  invalid := reaches.keeps_invalid

/-- A run goes on after a fault: this fault is noted next, and nothing is lost. -/
def Survives (fault : Fault) (aborted final : Progress) : Prop :=
  ∃ entry, entry.fault = fault ∧
    Retains { aborted with invalid := aborted.invalid ++ [entry] } final

theorem Survives.trans {fault : Fault} {aborted : Progress}
    (survives : Survives fault aborted middle) (retains : Retains middle after) :
    Survives fault aborted after := by
  rcases survives with ⟨entry, blamed, kept⟩
  exact ⟨entry, blamed, kept.trans retains⟩

/--
Two steps, of which the second one goes the way of the first one until that fails, and then goes on
to its own end.
-/
structure Tolerates (strict tolerant : Run α) : Prop where
  agrees : ∀ {before value after}, Ends strict before (.ok value) after →
    Ends tolerant before (.ok value) after
  survives : ∀ {before fault aborted}, Ends strict before (.error fault) aborted →
    ∃ value final, Ends tolerant before (.ok value) final ∧ Survives fault aborted final
  retains : ∀ {before outcome after}, Ends tolerant before outcome after → Retains before after

namespace Tolerates

/-- A step that goes on after faults comes to its end. -/
theorem returns {strict tolerant : Run α} (tolerates : Tolerates strict tolerant)
    (before : Progress) : ∃ value after, Ends tolerant before (.ok value) after := by
  rcases ended : strict.run.run before with ⟨fault | value, after⟩
  · rcases tolerates.survives ended with ⟨value, final, survived, -⟩
    exact ⟨value, final, survived⟩
  · exact ⟨value, after, tolerates.agrees ended⟩

/-- A step that cannot fail. -/
theorem safe {step : Run α}
    (safe : ∀ {before outcome after}, Ends step before outcome after →
      (∃ value, outcome = .ok value) ∧ Retains before after) : Tolerates step step where
  agrees ended := ended
  survives failed := by
    rcases (safe failed).1 with ⟨value, impossible⟩
    cases impossible
  retains ended := (safe ended).2

theorem pure (value : α) : Tolerates (pure value) (pure value) := by
  apply safe
  intro before outcome after ended
  rcases ends_pure.1 ended with ⟨rfl, rfl⟩
  exact ⟨⟨value, rfl⟩, List.prefix_rfl, List.prefix_rfl⟩

theorem lift {action : StateM Progress α} (quiet : Quiet action) :
    Tolerates (liftM action) (liftM action) := by
  apply safe
  intro before outcome after ended
  rcases ends_lift.1 ended with ⟨rfl, rfl⟩
  rcases quiet before with ⟨store, invalid⟩
  exact ⟨⟨_, rfl⟩, store ▸ List.prefix_rfl, invalid ▸ List.prefix_rfl⟩

theorem bind {strict tolerant : Run α} {strictNext tolerantNext : α → Run β}
    (first : Tolerates strict tolerant)
    (second : ∀ value, Tolerates (strictNext value) (tolerantNext value)) :
    Tolerates (strict >>= strictNext) (tolerant >>= tolerantNext) where
  agrees ended := by
    rcases ends_bind_ok.1 ended with ⟨inner, middle, start, rest⟩
    exact ends_bind_ok.2 ⟨inner, middle, first.agrees start, (second inner).agrees rest⟩
  survives failed := by
    rcases ends_bind.1 failed with ⟨inner, middle, start, rest⟩ | ⟨fault, start, same⟩
    · rcases (second inner).survives rest with ⟨value, final, survived, survives⟩
      exact ⟨value, final, ends_bind_ok.2 ⟨inner, middle, first.agrees start, survived⟩, survives⟩
    · -- the strict step is over, and the tolerant one still has to go through its second part
      cases same
      rcases first.survives start with ⟨inner, middle, survived, survives⟩
      rcases (second inner).returns middle with ⟨value, final, rest⟩
      exact ⟨value, final, ends_bind_ok.2 ⟨inner, middle, survived, rest⟩,
        survives.trans ((second inner).retains rest)⟩
  retains ended := by
    rcases ends_bind.1 ended with ⟨inner, middle, start, rest⟩ | ⟨fault, failed, -⟩
    · exact (first.retains start).trans ((second inner).retains rest)
    · exact first.retains failed

theorem get : Tolerates get get := by
  apply safe
  intro before outcome after ended
  rcases ends_get.1 ended with ⟨rfl, rfl⟩
  exact ⟨⟨_, rfl⟩, List.prefix_rfl, List.prefix_rfl⟩

theorem forM {parts : List α} {strict tolerant : α → Run PUnit}
    (each : ∀ part, Tolerates (strict part) (tolerant part)) :
    Tolerates (parts.forM strict) (parts.forM tolerant) := by
  induction parts with
  | nil => exact pure _
  | cons part parts ih =>
      rw [forM_cons, forM_cons]
      exact (each part).bind fun _ => ih

theorem walkStack {strict tolerant : Node → Option Node → Run Node.Descent}
    (each : ∀ node parent, Tolerates (strict node parent) (tolerant node parent))
    (stack : Node.Stack) :
    Tolerates (Node.walkStack strict stack) (Node.walkStack tolerant stack) := by
  induction stack using Node.walkStack.induct with
  | case1 =>
      rw [Node.walkStack, Node.walkStack]
      exact pure _
  | case2 node parent rest skipped entered =>
      rw [Node.walkStack, Node.walkStack]
      refine (each node parent).bind fun descent => ?_
      cases descent with
      | enter => exact entered
      | skip => exact skipped

/-- The answer to a fault is all that the two policies differ in. -/
theorem guarded {step : Run α} (sound : Sound (scope.under .log) kinds step) (node : Node)
    (fallback : α) :
    Tolerates (Module.guarded (scope.under .stop) node fallback step)
      (Module.guarded (scope.under .log) node fallback step) where
  agrees ended := by
    have succeeded := (Module.ends_guarded_of_stop rfl).1 ended
    exact ends_tryCatch.2 (Or.inl ⟨_, succeeded, rfl⟩)
  survives failed := by
    have broken := (Module.ends_guarded_of_stop rfl).1 failed
    have tolerant : (scope.under .log).policy = .log := rfl
    rcases Module.ends_guarded_of_log node fallback tolerant broken with
      ⟨entry, messages, blamed, survived⟩
    exact ⟨fallback, _, survived, entry, blamed, List.prefix_rfl, List.prefix_rfl⟩
  retains ended := ((Module.guarded_sound sound).reaches ended).retains

end Tolerates

theorem build_under (scope : Scope) (policy : Policy) (id : Int) (category : Category) (node : Node)
    (tags : List Tag) :
    build (scope.under policy) id category node tags = build scope id category node tags := by
  simp only [build, Draft.build_under]
  rfl

theorem document_under (scope : Scope) (policy : Policy) (node : Node) (comment : Comment) :
    document (scope.under policy) node comment = document scope node comment := by
  have decide (tags : List Tag) :
      Decision.decide (scope.under policy) tags node = Decision.decide scope tags node := rfl
  have insert : insert (scope.under policy) = insert scope := rfl
  rw [document_eq, document_eq, decide, insert]
  simp only [build_under]

theorem documentEach_under (scope : Scope) (policy : Policy) (node : Node) (parent : Option Node)
    (comments : List Comment) :
    documentEach (scope.under policy) node parent comments =
      documentEach scope node parent comments := by
  induction comments with
  | nil => rfl
  | cons comment rest ih =>
      cases rest with
      | nil => exact document_under scope policy node comment
      | cons next others => simp only [documentEach_cons, document_under, ih]

theorem documentComments_under (scope : Scope) (policy : Policy) (node parent : Option Node)
    (comments : List Comment) :
    documentComments (scope.under policy) node parent comments =
      documentComments scope node parent comments := by
  simp only [documentComments, documentEach_under]

end Run

namespace Module

variable {scope : Scope} {before after : Progress}

/-- What a visit does before faults are answered does not depend on the policy. -/
theorem visit_under (scope : Scope) (policy : Policy) (node : Node) (parent : Option Node) :
    visit (scope.under policy) node parent = visit scope node parent := by
  simp only [visit, push, Export.unwrap, documentNode, documentComments_under]
  rfl

theorem firstPass_tolerates (scope : Scope) :
    Tolerates (firstPass (scope.under .stop)) (firstPass (scope.under .log)) := by
  refine .walkStack (fun node parent => ?_) _
  have sound := visit_sound (scope.under .log) node parent
  rw [visit_under] at sound
  rw [enter_eq, enter_eq, visit_under, visit_under]
  exact .guarded sound node .enter

theorem resolve_tolerates (scope : Scope) (exportNode : Node) :
    Tolerates (resolve (scope.under .stop) exportNode) (resolve (scope.under .log) exportNode) :=
  .guarded (planned_sound (scope.under .log) exportNode) exportNode ()

theorem secondPass_tolerates (scope : Scope) :
    Tolerates (secondPass (scope.under .stop)) (secondPass (scope.under .log)) := by
  refine .bind .get fun progress => ?_
  refine .bind (.forM (resolve_tolerates scope)) fun _ => ?_
  have clear : Quiet (modify fun progress => { progress with pending := [] }) :=
    fun _ => ⟨rfl, rfl⟩
  exact .lift clear

theorem documentInner_tolerates (scope : Scope) :
    Tolerates (documentInner (scope.under .stop)) (documentInner (scope.under .log)) := by
  have sound := documentComments_sound (scope.under .log) none (some scope.program)
    scope.program.innerComments
  rw [documentComments_under] at sound
  unfold documentInner
  split
  · rw [if_pos ‹_›, documentComments_under, documentComments_under]
    exact .guarded sound _ _
  · rw [if_neg ‹_›]
    exact .pure _

theorem passes_tolerates (scope : Scope) (id : Int) :
    Tolerates (passes (scope.under .stop) id) (passes (scope.under .log) id) := by
  refine .bind (documentInner_tolerates (within scope id)) fun _ => ?_
  refine .bind (firstPass_tolerates (within scope id)) fun _ => ?_
  refine .bind (secondPass_tolerates (within scope id)) fun _ => ?_
  exact .bind (.lift (Quiet.say _ _)) fun _ => .pure _

/-- The record of a source in memory is always stored, unless the filter fails on it. -/
theorem ends_storeModule_memory {outcome : Except Fault Unit}
    (lenient : ∀ filter ∈ scope.filter, ∀ doc fault, filter doc ≠ .error fault)
    (disciplined : before.store.Disciplined)
    (ended : Ends (storeModule scope .memory before.store.nextId)
      { before with store := before.store.draw.2 } outcome after) : outcome = .ok () := by
  rcases ends_bind.1 ended with ⟨doc, built, making, rest⟩ | ⟨fault, failed, -⟩
  · rcases ends_bind.1 rest with ⟨stored, inserted, -, rested⟩ | ⟨fault, failed, -⟩
    · exact (ends_pure.1 rested).1
    · rcases build_sound making with ⟨sameStore, -, heads, -⟩
      rcases heads doc rfl with ⟨links, headed⟩
      rcases ends_insert failed with ⟨impossible, -⟩ | ⟨impossible, -⟩ | ⟨-, other, -, reason⟩
      · cases impossible
      · cases impossible
      · rcases reason with ⟨filter, given, refused⟩ | ⟨-, present⟩
        · exact absurd refused (lenient filter given doc other)
        · have absent : built.store.get? doc.id = none := by
            rw [sameStore, headed.id]
            exact Store.get?_eq_none_of_below disciplined.below
          rw [absent] at present
          cases present
  · rcases ends_build failed with ⟨messages, -, impossible⟩
    cases impossible

/-- With its source in memory a module is always begun, under both policies in the same way. -/
theorem exists_opened (inMemory : scope.code.isSome)
    (lenient : ∀ filter ∈ scope.filter, ∀ doc fault, filter doc ≠ .error fault)
    (disciplined : before.store.Disciplined) :
    ∃ opened, opened.invalid = before.invalid ∧ ∀ policy outcome after,
      Ends (generate (scope.under policy)) before outcome after ↔
        Ends (passes (scope.under policy) before.store.nextId) opened outcome after := by
  let strict := within (scope.under .stop) before.store.nextId
  rcases ended : (storeModule strict .memory before.store.nextId).run.run
    { before with store := before.store.draw.2 } with ⟨stored, opened⟩
  cases @ends_storeModule_memory strict _ _ _ lenient disciplined ended
  have reaches : Reaches strict _ before opened :=
    .single (@storeModule_drawn _ _ strict .memory _ rfl ended).1
  refine ⟨opened, reaches.invalid_of_stop rfl, fun policy outcome after => ?_⟩
  have generated : generate (scope.under policy) =
      opening (scope.under policy) .memory (passes (scope.under policy)) := by
    rw [generate_eq]
    exact congrArg (fun category => opening _ category _) (if_pos inMemory)
  rw [generated]
  constructor
  · intro whole
    have drawn := ends_lift_bind.1 whole
    rcases ends_bind.1 drawn with ⟨_, middle, stores, rest⟩ | ⟨fault, failed, -⟩
    · rcases Ends.unique ended stores with ⟨-, rfl⟩
      exact rest
    · cases (Ends.unique ended failed).1
  · intro rest
    exact ends_lift_bind.2 (ends_bind.2 (Or.inl ⟨(), opened, ended, rest⟩))

/--
The tolerant policy simulates the strict one. A source in memory is documented under both, from the
same state. The tolerant run comes to its end. If the strict run does as well, they do exactly the
same. If it breaks off, its fault is the first one that the tolerant run notes, and what it has
stored comes first in the store of the tolerant run, up to what exports change.
-/
theorem tolerant_run_simulates_strict_run (scope : Scope) (inMemory : scope.code.isSome)
    (lenient : ∀ filter ∈ scope.filter, ∀ doc fault, filter doc ≠ .error fault)
    (store : Store) (disciplined : store.Disciplined) (nextNode : NodeId) :
    ∃ id final,
      Ends (generate (scope.under .log)) (Program.start ⟨scope.program, nextNode⟩ store) (.ok id)
        final ∧
      ∀ outcome aborted,
        Ends (generate (scope.under .stop)) (Program.start ⟨scope.program, nextNode⟩ store) outcome
          aborted →
        (outcome = .ok id ∧ aborted = final ∧ final.invalid = []) ∨
          ∃ fault entry, outcome = .error fault ∧ final.invalid.head? = some entry ∧
            entry.fault = fault ∧
            aborted.store.docs.map Doc.outline <+: final.store.docs.map Doc.outline := by
  let start := Program.start ⟨scope.program, nextNode⟩ store
  have begins : start.store.Disciplined := disciplined
  rcases exists_opened inMemory lenient begins with ⟨opened, nothing, begun⟩
  have tolerates := passes_tolerates scope store.nextId
  rcases tolerates.returns opened with ⟨id, final, survived⟩
  refine ⟨id, final, (begun _ _ _).2 survived, fun outcome aborted strict => ?_⟩
  have ended := (begun _ _ _).1 strict
  have unnoted : aborted.invalid = [] :=
    (((passes_sound _ _).reaches ended).invalid_of_stop rfl).trans nothing
  cases outcome with
  | ok value =>
      left
      rcases (tolerates.agrees ended).unique survived with ⟨same, rfl⟩
      exact ⟨same, rfl, unnoted⟩
  | error fault =>
      right
      rcases tolerates.survives ended with ⟨value, after, survivedToo, entry, blamed, retains⟩
      rcases survived.unique survivedToo with ⟨-, rfl⟩
      refine ⟨fault, entry, rfl, ?_, blamed, retains.outlines⟩
      rcases retains.invalid with ⟨later, noted⟩
      rw [← noted, unnoted]
      rfl

/-- A source in memory with two classes, of which the first one has a decorator without a name. -/
def strangeDecorator : Scope where
  program :=
    let decorator : Node :=
      .mk { id := 2 } (.decorator (some (.mk { id := 3 } .this)))
    let strange : Node :=
      .mk { id := 1 } (.classLike .declaration [decorator]
        (some (.mk { id := 4 } (.identifier "Strange"))) none (.mk { id := 5 } (.classBody [])))
    let plain : Node :=
      .mk { id := 6 } (.classLike .declaration []
        (some (.mk { id := 7 } (.identifier "Plain"))) none (.mk { id := 8 } (.classBody [])))
    .mk { id := 0 } (.program [strange, plain] [])
  filePath := "strange.js"
  code := some "@(this) class Strange \x7b\x7d\nclass Plain \x7b\x7d\n"

/-- Where the strict run on that source breaks off. -/
def strangeAborted : Progress :=
  ((generate (strangeDecorator.under .stop)).run.run
    (Program.start ⟨strangeDecorator.program, 9⟩ {})).2

theorem strange_decorator_simulated :
    strangeDecorator.code.isSome ∧
    (∀ filter ∈ strangeDecorator.filter, ∀ doc fault, filter doc ≠ .error fault) ∧
    ({} : Store).Disciplined ∧
    Ends (generate (strangeDecorator.under .stop)) (Program.start ⟨strangeDecorator.program, 9⟩ {})
      (.error (.unknownDecorator (some "ThisExpression"))) strangeAborted ∧
    ∃ id final,
      Ends (generate (strangeDecorator.under .log)) (Program.start ⟨strangeDecorator.program, 9⟩ {})
        (.ok id) final ∧
      ∃ entry, final.invalid.head? = some entry ∧
        entry.fault = .unknownDecorator (some "ThisExpression") ∧
        strangeAborted.store.docs.map Doc.outline <+: final.store.docs.map Doc.outline := by
  have lenient : ∀ filter ∈ strangeDecorator.filter, ∀ doc fault, filter doc ≠ .error fault := by
    intro filter given
    cases given
  have empty : ({} : Store).Disciplined := ⟨by simp, by simp⟩
  have strict : Ends (generate (strangeDecorator.under .stop))
      (Program.start ⟨strangeDecorator.program, 9⟩ {})
      (.error (.unknownDecorator (some "ThisExpression"))) strangeAborted :=
    Prod.ext (by decide +kernel) rfl
  refine ⟨rfl, lenient, empty, strict, ?_⟩
  rcases tolerant_run_simulates_strict_run strangeDecorator rfl lenient {} empty 9 with
    ⟨id, final, survived, simulates⟩
  refine ⟨id, final, survived, ?_⟩
  rcases simulates _ _ strict with ⟨impossible, -⟩ | ⟨fault, entry, same, noted, blamed, kept⟩
  · cases impossible
  · cases same
    exact ⟨entry, noted, blamed, kept⟩

end Module

end DocHarvest
