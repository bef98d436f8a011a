import DocHarvest.Proofs.Module.Offers
import DocHarvest.Proofs.Run.Upholds

/-!
# Where records come from

A record of a walk is built for a node of the program with the tags of one of its comments, for tags
that define something, or for a test block; besides there is the record of the whole file.
`Draft.Arises` lists these origins, and `Scope.Admits` says that what is built from them is good as
long as the names of nodes fit. A walk upholds this if its visits do.
-/

namespace DocHarvest

open Run

namespace Node

/-- A node occurs in a program. -/
def Contains (program node : Node) : Prop :=
  ∃ place ∈ program.places, place.node = node

/-- A comment stands at a node of a program. -/
def HasComment (program : Node) (comment : Comment) : Prop :=
  ∃ node, program.Contains node ∧ comment ∈ node.leading ++ node.trailing ++ node.innerComments

/-- A comment documents something in a program, or stands in where there is none that does. -/
def Offers (program : Node) (comment : Comment) : Prop :=
  comment = Comment.undocumented ∨ comment.isDoc ∧ program.HasComment comment

variable {program node part : Node}

theorem contains_self (program : Node) : program.Contains program :=
  ⟨_, root_mem_places program, rfl⟩

theorem Contains.child (contained : program.Contains node) (isChild : part ∈ node.children) :
    program.Contains part := by
  rcases contained with ⟨place, isPlace, rfl⟩
  exact ⟨⟨part, place.node :: place.above⟩,
    parts_mem_places isPlace (Place.mem_parts.2 ⟨isChild, rfl⟩), rfl⟩

theorem Contains.exported (contained : program.Contains node)
    (wrapped : node.exported? = some part) : program.Contains part :=
  contained.child (mem_children_of_exported? wrapped)

/-- A comment that stands at a node, at the declaration in it, or at its first decorator. -/
theorem HasComment.decorator (contained : program.Contains node) {comment : Comment}
    (isComment : comment ∈ Export.decoratorComments node) : program.HasComment comment := by
  unfold Export.decoratorComments at isComment
  split at isComment
  · rename_i first rest decorators
    have isChild : first ∈ node.children :=
      decorators_subset_children node (decorators ▸ List.mem_cons_self ..)
    exact ⟨first, contained.child isChild, by simp [isComment]⟩
  · cases isComment

theorem HasComment.offers_docComments {comments : List Comment}
    (present : ∀ comment ∈ comments, program.HasComment comment) :
    ∀ comment ∈ Comment.docComments comments, program.Offers comment := by
  intro comment isMember
  unfold Comment.docComments at isMember
  split at isMember
  · exact Or.inl (List.mem_singleton.1 isMember)
  · exact Or.inr ⟨(List.mem_filter.1 isMember).2, present comment (List.mem_of_mem_filter isMember)⟩

end Node

/-! ## Decisions -/

namespace Decision

theorem decide_facts (scope : Scope) (tags : List Tag) (node : Node) :
    Still Progress.facts (decide scope tags node) := by
  intro before
  rw [decide_frame]
  rfl

variable {program node : Node} {before : Progress}

/-- What the shape of a node of a program decides on is a node of the program. -/
theorem Chooses.contains {result : Option Decision × Progress}
    (chooses : Chooses node before result) (contained : program.Contains node) :
    ∀ decision, result.1 = some decision → program.Contains decision.node := by
  cases chooses with
  | nothing | passed => rintro decision ⟨⟩
  | self =>
      rintro decision ⟨⟩
      exact contained
  | member shape =>
      rintro decision ⟨⟩
      exact contained.child (by simp [Node.children, shape, Shape.children])
  | value gives isValue =>
      rintro decision ⟨⟩
      rcases contained with ⟨place, isPlace, rfl⟩
      rcases gives.exists_part isPlace with ⟨part, isPart, same, -⟩
      exact ⟨part, isPart, same.trans (Node.node_of_value? isValue).symm⟩

/-- Without tags that decide, only a node of the program is decided on. -/
theorem decide_contains (scope : Scope) (target : node.shape = .virtual ∨ program.Contains node)
    {tags : List Tag} (untagged : ofTags? tags = none) (before : Progress) :
    ∀ decision, ((decide scope tags node).run before).1 = some decision →
      program.Contains decision.node := by
  rw [decide_run scope node untagged]
  rcases target with shape | contained
  · rw [ofShape_virtual scope shape]
    rintro decision ⟨⟩
  · exact (ofShape_chooses scope node before).contains contained

end Decision

/-! ## Origins of records -/

/-- What a record of a category can be made for before exports are planned for. -/
inductive Draft.Arises (draft : Draft) : Category → Prop
  | whole {category : Category} (isFile : category.isFile)
      (node : draft.node = draft.scope.program) : draft.Arises category
  | defined {category : Category} (tagged : Decision.ofTags? draft.tags = some category) :
      draft.Arises category
  | placed {category : Category} (contained : draft.scope.program.Contains draft.node)
      (comment : Comment) (offered : draft.scope.program.Offers comment)
      (tags : draft.tags = comment.tags) : draft.Arises category
  | block : draft.Arises .test

/-- What the code declares is recorded for a node of the program with one of its comments. -/
theorem Draft.Arises.isPlaced {draft : Draft} {category : Category} (arises : draft.Arises category)
    (noFile : category.isFile = false) (noVirtual : category.isVirtual = false)
    (noTest : category ≠ .test) : draft.scope.program.Contains draft.node ∧
      ∃ comment, draft.scope.program.Offers comment ∧ draft.tags = comment.tags := by
  cases arises with
  | whole isFile =>
      rw [noFile] at isFile
      cases isFile
  | defined tagged =>
      have isVirtual := Decision.isVirtual_of_ofTags? tagged
      rw [noVirtual] at isVirtual
      cases isVirtual
  | placed contained comment offered tags => exact ⟨contained, comment, offered, tags⟩
  | block => exact absurd rfl noTest

/-- The names of the classes of a program fit. -/
def Scope.Names (scope : Scope) (fits : NodeNames → Prop) : Prop :=
  ∀ (links : Links) (node : Node), scope.program.Contains node → fits links.names →
    fits (links.naming scope .moduleClass node).names

/-- What is built in a scope while the names of nodes fit is good. -/
structure Scope.Admits (scope : Scope) (good : Doc → Prop) (fits : NodeNames → Prop) : Prop where
  named : scope.Names fits
  built : ∀ {draft : Draft} {category : Category} {doc : Doc}, draft.scope = scope →
    draft.Arises category → fits draft.links.names → draft.build category = .ok doc → good doc

variable {scope : Scope} {good : Doc → Prop} {fits : NodeNames → Prop}

/-! ## Walks -/

namespace Run.Upholds

/-- A guarded step notes its fault, which touches neither records nor names. -/
theorem guarded {α : Type} {suitable : α → Prop} {node : Node} {fallback : α} {step : Run α}
    (upholds : Upholds good fits suitable step) (isSuitable : suitable fallback) :
    Upholds good fits suitable (Module.guarded scope node fallback step) := by
  intro before outcome after holds ended
  rcases Module.ends_guarded ended with
    ran | ⟨fault, middle, entry, messages, failed, rfl, -, rfl⟩
  · exact upholds holds ran
  · refine ⟨(upholds holds failed).1.congr rfl, ?_⟩
    rintro value ⟨⟩
    exact isSuitable

/-- A walk upholds what its visits of the nodes of the program uphold. -/
theorem walk {program : Node} {visit : Node → Option Node → Run Node.Descent}
    (each : ∀ node parent, program.Contains node →
      Upholds good fits (fun _ => True) (visit node parent)) :
    Upholds good fits (fun _ => True) (program.walk visit) := by
  have stacked (stack : Node.Stack) (contained : ∀ entry ∈ stack, program.Contains entry.1) :
      Upholds good fits (fun _ => True) (Node.walkStack visit stack) := by
    induction stack using Node.walkStack.induct with
    | case1 =>
        rw [Node.walkStack]
        exact pure trivial
    | case2 node parent rest skipped entered =>
        rw [Node.walkStack]
        have known := contained _ (List.mem_cons_self ..)
        have others := fun entry isEntry => contained entry (List.mem_cons_of_mem _ isEntry)
        refine (each node parent known).bind fun descent _ => ?_
        cases descent with
        | skip => exact skipped others
        | enter =>
            refine entered (List.forall_mem_append.2 ⟨?_, others⟩)
            intro entry isEntry
            rcases List.mem_map.1 isEntry with ⟨child, isChild, rfl⟩
            exact known.child isChild
  exact stacked _ (by simpa using program.contains_self)

end Run.Upholds

end DocHarvest
