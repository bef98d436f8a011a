import DocHarvest.Proofs.Module.Sound
import DocHarvest.Proofs.Run.Lockstep

/-!
# The course of the first pass

The first pass never asks what is stored. It takes the same course in two scopes that differ in the
id of the module and in the filter only, and over any two stores, as long as the stores are kept in
step whenever a record is stored: this is all that `Run.Records` asks for.
-/

namespace DocHarvest

open Run

variable {scope : Scope} {moduleId : Option Int} {filter : Option Doc.Filter}
  {stores : Store → Store → Prop}

namespace Run

/-- Records of all kinds are built and stored in step. -/
def Records (stores : Store → Store → Prop) (scope scopeToo : Scope) : Prop :=
  ∀ category node tags, Lockstep stores (· = ·)
    ((liftM drawId >>= fun id => build scope id category node tags >>= insert scope) >>=
      fun _ => pure ())
    ((liftM drawId >>= fun id => build scopeToo id category node tags >>= insert scopeToo) >>=
      fun _ => pure ())

theorem document_lockstep (records : Records stores scope (scope.recast moduleId filter))
    (node : Node) (comment : Comment) :
    Lockstep stores (· = ·) (document scope node comment)
      (document (scope.recast moduleId filter) node comment) := by
  have decide (tags : List Tag) :
      Decision.decide (scope.recast moduleId filter) tags node =
        Decision.decide scope tags node := rfl
  rw [document_eq, document_eq, decide]
  refine (Lockstep.oblivious (Decision.decide_oblivious _ _ _)).bind fun found _ same => ?_
  cases same
  cases found with
  | none => exact Lockstep.pure rfl
  | some decision => exact records _ _ _

theorem documentEach_lockstep (records : Records stores scope (scope.recast moduleId filter))
    (node : Node) (parent : Option Node) (comments : List Comment) :
    Lockstep stores (· = ·) (documentEach scope node parent comments)
      (documentEach (scope.recast moduleId filter) node parent comments) := by
  induction comments with
  | nil => exact Lockstep.pure rfl
  | cons comment rest ih =>
      cases rest with
      | nil => exact document_lockstep records _ _
      | cons next others =>
          rw [documentEach_cons, documentEach_cons]
          have blind : Oblivious (virtualNode parent) := fun _ _ _ => rfl
          refine (Lockstep.oblivious blind).bind fun virtual _ same => ?_
          cases same
          exact (document_lockstep records _ _).bind fun _ _ _ => ih

theorem documentComments_lockstep (records : Records stores scope (scope.recast moduleId filter))
    (node parent : Option Node) (comments : List Comment) :
    Lockstep stores (· = ·) (documentComments scope node parent comments)
      (documentComments (scope.recast moduleId filter) node parent comments) := by
  unfold documentComments
  cases node with
  | none =>
      have blind : Oblivious (virtualNode parent) := fun _ _ _ => rfl
      refine (Lockstep.oblivious blind).bind fun virtual _ same => ?_
      cases same
      exact documentEach_lockstep records _ _ _
  | some node => exact documentEach_lockstep records _ _ _

end Run

namespace Module

/-- A guarded step answers for the same faults, where noting them keeps the states related. -/
theorem guarded_paired {α β : Type} {states : Progress → Progress → Prop} {values : α → β → Prop}
    {node : Node} {fallback : α} {fallbackToo : β} {step : Run α} {stepToo : Run β}
    (notes : ∀ fault, Paired states (· = ·) (liftM (noteInvalid scope.filePath (some node) fault))
      (liftM (noteInvalid scope.filePath (some node) fault)))
    (each : Paired states values step stepToo) (related : values fallback fallbackToo) :
    Paired states values (guarded scope node fallback step)
      (guarded (scope.recast moduleId filter) node fallbackToo stepToo) := by
  refine each.tryCatch fun fault => ?_
  have policy : (scope.recast moduleId filter).policy = scope.policy := rfl
  rw [policy]
  cases scope.policy with
  | stop => exact Paired.throw fault
  | log => exact (notes fault).bind fun _ _ _ => Paired.pure related

theorem guarded_lockstep {α β : Type} {values : α → β → Prop} {node : Node} {fallback : α}
    {fallbackToo : β} {step : Run α} {stepToo : Run β} (each : Lockstep stores values step stepToo)
    (related : values fallback fallbackToo) :
    Lockstep stores values (guarded scope node fallback step)
      (guarded (scope.recast moduleId filter) node fallbackToo stepToo) :=
  guarded_paired (fun _ => Lockstep.lift (fun _ _ => rfl) fun _ => rfl) each related

theorem unwrap_lockstep (records : Records stores scope (scope.recast moduleId filter))
    (exportNode : Node) (isLast : Bool) :
    Lockstep stores (· = ·) (Export.unwrap scope exportNode isLast)
      (Export.unwrap (scope.recast moduleId filter) exportNode isLast) := by
  unfold Export.unwrap
  split
  · exact Lockstep.pure rfl
  · refine (Lockstep.oblivious (Oblivious.markVisited _)).bind fun _ _ _ => ?_
    refine (Lockstep.oblivious (Oblivious.setParent _ _)).bind fun _ _ _ => ?_
    refine (documentComments_lockstep records _ _ _).bind fun _ _ _ => ?_
    split
    · exact documentComments_lockstep records _ _ _
    · exact Lockstep.pure rfl

theorem documentNode_lockstep (records : Records stores scope (scope.recast moduleId filter))
    (node : Node) (parent : Option Node) (isLast : Bool) :
    Lockstep stores (· = ·) (documentNode scope node parent isLast)
      (documentNode (scope.recast moduleId filter) node parent isLast) := by
  refine (documentComments_lockstep records _ _ _).bind fun _ _ _ => ?_
  split
  · exact documentComments_lockstep records _ _ _
  · exact Lockstep.pure rfl

theorem push_lockstep (records : Records stores scope (scope.recast moduleId filter)) (node : Node)
    (parent : Option Node) :
    Lockstep stores (· = ·) (push scope node parent)
      (push (scope.recast moduleId filter) node parent) := by
  have blind : Oblivious (isVisited node) := fun _ _ _ => rfl
  have program : (scope.recast moduleId filter).program = scope.program := rfl
  unfold push
  rw [program]
  split
  · exact Lockstep.pure rfl
  · refine (Lockstep.oblivious blind).bind fun visited _ same => ?_
    cases same
    split
    · exact Lockstep.pure rfl
    · refine (Lockstep.oblivious (Oblivious.markVisited _)).bind fun _ _ _ => ?_
      refine (Lockstep.oblivious (Oblivious.setParent _ _)).bind fun _ _ _ => ?_
      split
      · exact unwrap_lockstep records _ _
      · exact documentNode_lockstep records _ _ _

theorem visit_lockstep (records : Records stores scope (scope.recast moduleId filter)) (node : Node)
    (parent : Option Node) :
    Lockstep stores (· = ·) (visit scope node parent)
      (visit (scope.recast moduleId filter) node parent) := by
  have program : (scope.recast moduleId filter).program = scope.program := rfl
  unfold visit
  rw [program]
  split
  · have puts : Lockstep stores (· = ·)
        (modify fun progress => { progress with pending := progress.pending ++ [node] })
        (modify fun progress => { progress with pending := progress.pending ++ [node] }) :=
      Lockstep.lift (fun _ _ => rfl) fun _ => rfl
    exact puts.bind fun _ _ _ => Lockstep.pure rfl
  · exact (push_lockstep records _ _).bind fun _ _ _ => Lockstep.pure rfl

/-- The first pass takes the same course as long as records are stored in step. -/
theorem firstPass_lockstep (records : Records stores scope (scope.recast moduleId filter)) :
    Lockstep stores (· = ·) (firstPass scope) (firstPass (scope.recast moduleId filter)) := by
  have program : (scope.recast moduleId filter).program = scope.program := rfl
  unfold firstPass
  rw [program]
  refine Lockstep.walkStack (fun node parent => ?_) _
  rw [enter_eq, enter_eq]
  exact guarded_lockstep (visit_lockstep records node parent) rfl

theorem documentInner_lockstep (records : Records stores scope (scope.recast moduleId filter)) :
    Lockstep stores (· = ·) (documentInner scope)
      (documentInner (scope.recast moduleId filter)) := by
  have program : (scope.recast moduleId filter).program = scope.program := rfl
  unfold documentInner
  rw [program]
  split
  · exact guarded_lockstep (documentComments_lockstep records _ _ _) rfl
  · exact Lockstep.pure rfl

end Module

end DocHarvest
