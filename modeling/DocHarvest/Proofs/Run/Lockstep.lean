import DocHarvest.Proofs.Run.Paired

/-!
# Runs in lockstep

Two steps that start in states which differ in their stores only keep in step if they end alike and
leave such states behind. `Run.Lockstep` is about any relation of stores and any relation of the
values that the steps return. As a special case of `Run.Paired` it is closed under composition.
-/

namespace DocHarvest

/-- The same scope for a module of another id and with another filter. -/
def Scope.recast (moduleId : Option Int) (filter : Option Doc.Filter) (scope : Scope) : Scope :=
  { scope with moduleId, filter }

namespace Run

variable {α β γ δ : Type}

/-- Two states that agree in everything but their stores, which are related. -/
structure Over (stores : Store → Store → Prop) (left right : Progress) : Prop where
  rest : right = { left with store := right.store }
  related : stores left.store right.store

/-- Two steps that keep states related, and end with the same fault or with related values. -/
def Lockstep (stores : Store → Store → Prop) (values : α → β → Prop) (left : Run α)
    (right : Run β) : Prop :=
  ∀ ⦃before beforeToo outcome after⦄, Over stores before beforeToo →
    Ends left before outcome after →
    ∃ outcomeToo afterToo, Ends right beforeToo outcomeToo afterToo ∧
      Alike values outcome outcomeToo ∧ Over stores after afterToo

/-- States in step stay so when their stores change. -/
theorem Over.stored {stores others : Store → Store → Prop} {left right : Progress}
    (aligned : Over stores left right) {store storeToo : Store} (related : others store storeToo) :
    Over others { left with store } { right with store := storeToo } where
  rest := by rw [aligned.rest]
  related := related

theorem Over.mono {stores others : Store → Store → Prop} {left right : Progress}
    (aligned : Over stores left right) (more : stores left.store right.store →
      others left.store right.store) : Over others left right where
  rest := aligned.rest
  related := more aligned.related

namespace Lockstep

variable {stores : Store → Store → Prop} {values : α → β → Prop} {results : γ → δ → Prop}

theorem pure {left : α} {right : β} (related : values left right) :
    Lockstep stores values (pure left) (pure right) :=
  Paired.pure related

/-- An action that treats all stores alike keeps in step with itself. -/
theorem lift {action : StateM Progress α}
    (blind : ∀ before store, action.run { before with store } =
      ((action.run before).1, { (action.run before).2 with store }))
    (keeps : ∀ before, (action.run before).2.store = before.store) :
    Lockstep stores (· = ·) (liftM action) (liftM action) := by
  refine Paired.lift fun before beforeToo aligned => ?_
  have same := blind before beforeToo.store
  rw [← aligned.rest] at same
  rw [same]
  exact ⟨rfl, rfl, (keeps before).symm ▸ aligned.related⟩

theorem oblivious {action : StateM Progress α} (oblivious : Oblivious action) :
    Lockstep stores (· = ·) (liftM action) (liftM action) := by
  refine .lift (fun before store => ?_) fun before => (oblivious.quiet before).1
  have same : action.run { before with store } =
      ((action.run before).1, { (action.run before).2 with store, invalid := before.invalid }) :=
    oblivious before store before.invalid
  rw [same, ← (oblivious.quiet before).2]

theorem liftExcept {left : Except Fault α} {right : Except Fault β}
    (alike : Alike values left right) : Lockstep stores values (liftM left) (liftM right) :=
  Paired.liftExcept alike

theorem yielding {left : Run α} {right : Run β} {suitable : α → Prop}
    (lockstep : Lockstep stores values left right) (yields : Yields left suitable) :
    Lockstep stores (fun value valueToo => suitable value ∧ values value valueToo) left right :=
  Paired.yielding lockstep yields

theorem get : Lockstep stores (Over stores) get get :=
  Paired.get

theorem bind {left : Run α} {right : Run β} {next : α → Run γ} {nextToo : β → Run δ}
    (first : Lockstep stores values left right)
    (second : ∀ ⦃value valueToo⦄, values value valueToo →
      Lockstep stores results (next value) (nextToo valueToo)) :
    Lockstep stores results (left >>= next) (right >>= nextToo) :=
  Paired.bind first second

theorem forM {work : α → Run PUnit} {workToo : β → Run PUnit} {parts : List α} {partsToo : List β}
    (same : List.Forall₂ values parts partsToo)
    (each : ∀ ⦃part partToo⦄, values part partToo →
      Lockstep stores (· = ·) (work part) (workToo partToo)) :
    Lockstep stores (· = ·) (parts.forM work) (partsToo.forM workToo) :=
  Paired.forM same each

theorem mapM {work : γ → Run α} {workToo : γ → Run β}
    (each : ∀ part, Lockstep stores values (work part) (workToo part)) (parts : List γ) :
    Lockstep stores (List.Forall₂ values) (parts.mapM work) (parts.mapM workToo) :=
  Paired.mapM each parts

theorem walkStack {visit visitToo : Node → Option Node → Run Node.Descent}
    (each : ∀ node parent, Lockstep stores (· = ·) (visit node parent) (visitToo node parent))
    (stack : Node.Stack) :
    Lockstep stores (· = ·) (Node.walkStack visit stack) (Node.walkStack visitToo stack) :=
  Paired.walkStack each stack

/-- Records are built in step, for any two stores, as far as the builders keep in step. -/
theorem builds {scope : Scope} {moduleId : Option Int} {filter : Option Doc.Filter} {id other : Int}
    {category : Category} {node : Node} {tags : List Tag} {records : Doc → Doc → Prop}
    (made : ∀ links, Alike records (Draft.build ⟨scope, links, id, node, tags⟩ category)
      (Draft.build ⟨scope.recast moduleId filter, links, other, node, tags⟩ category)) :
    Lockstep stores records (build scope id category node tags)
      (build (scope.recast moduleId filter) other category node tags) := by
  have named : Oblivious (noteName scope category node) := by
    unfold noteName
    split
    · exact Oblivious.observe (fun _ _ _ => rfl) fun _ _ _ _ => rfl
    · exact Oblivious.pure _
  have reported : Oblivious (reportGuesses category node tags) := by
    unfold reportGuesses
    split
    · exact fun _ _ _ => rfl
    · exact Oblivious.pure _
  refine (Lockstep.oblivious named).bind fun _ _ _ => ?_
  refine (Lockstep.oblivious reported).bind fun _ _ _ => ?_
  refine Lockstep.get.bind fun progress progressToo aligned => ?_
  have links : progressToo.links = progress.links := by rw [aligned.rest]
  refine Lockstep.liftExcept ?_
  rw [links]
  exact made progress.links

end Lockstep

end Run

end DocHarvest
