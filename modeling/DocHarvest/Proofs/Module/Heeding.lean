import DocHarvest.Proofs.Module.Heeds

/-!
# Documenting with comments

A node is documented with a list of comments. However that ends, the step heeds the comments, and the
only nodes that it marks as visited are values and assignments that describe what is around them.
Nothing is assumed of the program, so the results hold where nodes are shared.
-/

namespace DocHarvest

open Run

/-- Whether a place may be marked as visited when what is around it is documented. -/
def Place.isBound (place : Place) : Bool :=
  place.above.head?.any Node.isBinder && !place.node.shape.isExport

theorem Node.isExport_of_value? {value : Node} {decision : Decision}
    (found : value.value? = some decision) : value.shape.isExport = false := by
  unfold Node.value? at found
  split at found
  all_goals simp_all [Shape.isExport]

namespace Run

/-- Only parts that describe something around them have been marked as visited. -/
structure Binds (program : Node) (before after : Progress) : Prop where
  nextNode : before.nextNode ≤ after.nextNode
  kept : ∀ id, before.visited.contains id → after.visited.contains id
  bound : ∀ id, after.visited.contains id → before.visited.contains id ∨
    ∃ place ∈ program.places, place.node.id = id ∧ place.isBound

namespace Binds

variable {program : Node} {before after : Progress}

theorem of_eq (nextNode : before.nextNode ≤ after.nextNode)
    (visited : after.visited = before.visited) : Binds program before after :=
  ⟨nextNode, fun id isVisited => by rwa [visited], fun id isVisited => Or.inl (by rwa [← visited])⟩

theorem refl (state : Progress) : Binds program state state :=
  of_eq (Nat.le_refl _) rfl

theorem trans {middle : Progress} (first : Binds program before middle)
    (second : Binds program middle after) : Binds program before after where
  nextNode := Nat.le_trans first.nextNode second.nextNode
  kept id isVisited := second.kept id (first.kept id isVisited)
  bound id isVisited := by
    rcases second.bound id isVisited with wasVisited | isBound
    · exact first.bound id wasVisited
    · exact Or.inr isBound

theorem mark {place : Place} (isPlace : place ∈ program.places) (isBound : place.isBound)
    (nextNode : after.nextNode = before.nextNode)
    (visited : after.visited = before.visited.insert place.node.id) :
    Binds program before after where
  nextNode := Nat.le_of_eq nextNode.symm
  kept id isVisited := by
    rw [visited]
    exact (contains_insert_iff _ _ _).2 (Or.inl isVisited)
  bound id isVisited := by
    rw [visited] at isVisited
    refine ((contains_insert_iff _ _ _).1 isVisited).imp_right ?_
    rintro rfl
    exact ⟨place, isPlace, rfl, isBound⟩

end Binds

end Run

namespace Decision

/-- A decision that is made without tags: it marks bound parts only, and is about no comment. -/
structure Finds (program : Node) (before : Progress) (result : Option Decision × Progress) :
    Prop where
  binds : Binds program before result.2
  ordinary : ∀ decision, result.1 = some decision → decision.category.isVirtual = false

namespace Finds

variable {scope : Scope} {program : Node} {before after : Progress} {place : Place}

theorem nothing (binds : Binds program before after) : Finds program before (none, after) :=
  ⟨binds, by rintro decision ⟨⟩⟩

theorem ofShape (isPlace : place ∈ program.places) :
    Finds program before ((Decision.ofShape scope place.node).run before) := by
  have chooses := ofShape_chooses scope place.node before
  generalize (Decision.ofShape scope place.node).run before = result at chooses ⊢
  refine ⟨?_, fun decision decided => Category.isVirtual_of_isCode (chooses.isCode decision decided)⟩
  cases chooses with
  | nothing | passed => exact .of_eq (Nat.le_refl _) rfl
  | self => exact .refl _
  | member shape assigns =>
      refine .mark (Node.expression_mem_places isPlace shape) ?_ rfl rfl
      simp [Place.isBound, Node.isBinder, shape, assigns, Shape.isExport]
  | value gives isValue =>
      rcases gives.exists_part isPlace with ⟨part, isPart, rfl, -, inBinder⟩
      refine .mark isPart ?_ rfl (by rw [Node.node_of_value? isValue])
      rw [Place.isBound, inBinder, Node.isExport_of_value? isValue]
      rfl

/-- What can be documented: a virtual node, or a node of the program. -/
theorem decide {node : Node}
    (target : node.shape = .virtual ∨ ∃ place ∈ program.places, place.node = node)
    {tags : List Tag} (untagged : ofTags? tags = none) :
    Finds program before ((Decision.decide scope tags node).run before) := by
  have decided : Finds program before ((Decision.ofShape scope node).run before) := by
    rcases target with shape | ⟨place, isPlace, rfl⟩
    · rw [ofShape_virtual scope shape]
      exact nothing (.refl _)
    · exact ofShape isPlace
  rw [decide_run scope node untagged]
  exact ⟨decided.binds.trans (.of_eq (Nat.le_refl _) rfl), decided.ordinary⟩

end Finds

end Decision

/-! ## Documenting nodes -/

namespace Run

variable {scope : Scope} {before after : Progress}

/-- A record has been built from tags and stored, or nothing has been stored at all. -/
structure Stores (scope : Scope) (category : Category) (tags : List Tag) (before : Progress)
    (outcome : Except Fault Unit) (after : Progress) : Prop where
  visited : after.visited = before.visited
  nextNode : after.nextNode = before.nextNode
  invalid : after.invalid = before.invalid
  stored : (∃ (draft : Draft) (doc : Doc), draft.scope = scope ∧ draft.tags = tags ∧
      draft.build category = .ok doc ∧ after.store.docs = before.store.docs ++ [doc]) ∨
    after.store.docs = before.store.docs ∧ (scope.filter = none → ∃ fault, outcome = .error fault)

theorem build_stores {id : Int} {category : Category} {node : Node} {tags : List Tag}
    {outcome : Except Fault Unit}
    (ended : Ends (build scope id category node tags >>= fun doc => insert scope doc >>= fun _ =>
      pure ()) before outcome after) : Stores scope category tags before outcome after := by
  rcases ends_record ended with ⟨added, messages, rfl, ⟨doc, rfl, -, made⟩ | ⟨rfl, refused⟩⟩
  · exact ⟨rfl, rfl, rfl, Or.inl ⟨_, doc, rfl, rfl, made, rfl⟩⟩
  · exact ⟨rfl, rfl, rfl, Or.inr ⟨by simp, refused⟩⟩

/-- The record of a decision is stored under an id that is drawn for it. -/
theorem drawn_stores {category : Category} {node : Node} {tags : List Tag}
    {outcome : Except Fault Unit}
    (ended : Ends ((liftM drawId >>= fun id => build scope id category node tags >>= insert scope)
      >>= fun _ => pure ()) before outcome after) :
    Stores scope category tags before outcome after := by
  rw [bind_assoc] at ended
  have drawn := ends_lift_bind.1 ended
  rw [bind_assoc] at drawn
  rcases build_stores drawn with ⟨visited, nextNode, invalid, stored⟩
  exact ⟨visited, nextNode, invalid, stored⟩

/-- A step heeds the comments offered to it, and marks only parts that describe something. -/
structure Documents {α : Type} (scope : Scope) (offered : List Occasion) (before : Progress)
    (outcome : Except Fault α) (after : Progress) : Prop where
  heeds : Heeds scope offered before outcome after
  binds : Binds scope.program before after

namespace Documents

variable {α β : Type} {offered others : List Occasion} {outcome : Except Fault β}

theorem bind {step : Run α} {next : α → Run β}
    (first : ∀ {outcome middle}, Ends step before outcome middle →
      Documents scope offered before outcome middle)
    (second : ∀ {value middle}, Ends (next value) middle outcome after →
      Documents scope others middle outcome after)
    (ended : Ends (step >>= next) before outcome after) :
    Documents scope (offered ++ others) before outcome after := by
  rcases ends_bind.1 ended with ⟨value, middle, ran, rest⟩ | ⟨fault, failed, rfl⟩
  · exact ⟨(first ran).heeds.trans (second rest).heeds, (first ran).binds.trans (second rest).binds⟩
  · exact ⟨(first failed).heeds.fail others, (first failed).binds⟩

theorem ofPure {value : β} (ended : Ends (pure value) before outcome after) :
    Documents scope [] before outcome after := by
  rcases ends_pure.1 ended with ⟨-, rfl⟩
  exact ⟨.nothing List.prefix_rfl rfl, .refl _⟩

theorem ofVirtual {parent : Option Node}
    (documents : Documents scope offered ((virtualNode parent).run before).2 outcome after) :
    Documents scope offered before outcome after :=
  have drawn : Binds scope.program before ((virtualNode parent).run before).2 :=
    .of_eq (Nat.le_succ before.nextNode) rfl
  ⟨documents.heeds.startsAt rfl rfl, drawn.trans documents.binds⟩

theorem documentUntagged {node : Node}
    (target : node.shape = .virtual ∨ ∃ place ∈ scope.program.places, place.node = node)
    {comment : Comment} (untagged : Decision.ofTags? comment.tags = none)
    {outcome : Except Fault Unit}
    (ended : Ends (document scope node comment) before outcome after) :
    Documents scope [] before outcome after := by
  rw [document_eq] at ended
  have rest := ends_lift_bind.1 ended
  have quiet := (Decision.decide_oblivious scope comment.tags node).quiet before
  have finds : Decision.Finds scope.program before
      ((Decision.decide scope comment.tags node).run before) := .decide target untagged
  generalize (Decision.decide scope comment.tags node).run before = pair at rest quiet finds
  rcases pair with ⟨found, state⟩
  rcases quiet with ⟨store, invalid⟩
  cases found with
  | none =>
      rcases ends_pure.1 rest with ⟨-, rfl⟩
      exact ⟨.nothing (invalid ▸ List.prefix_rfl) (by rw [store]), finds.binds⟩
  | some decision =>
      rcases drawn_stores rest with ⟨visited, nextNode, sameInvalid, stored⟩
      have unnoted := sameInvalid.trans invalid
      refine ⟨.nothing (unnoted ▸ List.prefix_rfl) ?_,
        finds.binds.trans (.of_eq (Nat.le_of_eq nextNode.symm) visited)⟩
      rcases stored with ⟨draft, doc, -, -, built, stored⟩ | ⟨stored, -⟩
      · have ordinary : doc.category.isVirtual = false := by
          rcases (Draft.build_heads built).category with same | ⟨-, same⟩
          · rw [same]
            exact finds.ordinary decision rfl
          · rw [same]
            rfl
        have noVirtual : Doc.virtuals [doc] = [] := Doc.virtuals_eq_nil (by simp [ordinary])
        rw [stored, store, Doc.virtuals_append, noVirtual, List.append_nil]
      · rw [stored, store]

theorem documentTagged {node : Node} {occasion : Occasion} (isDoc : occasion.comment.isDoc)
    {category : Category} (tagged : Decision.ofTags? occasion.comment.tags = some category)
    {outcome : Except Fault Unit}
    (ended : Ends (document scope node occasion.comment) before outcome after) :
    Documents scope [occasion] before outcome after := by
  rw [document_eq] at ended
  have rest := ends_lift_bind.1 ended
  have definition : Occasion.definitions [occasion] = [occasion] := by
    simp [Occasion.definitions, Comment.defines, tagged, isDoc]
  rw [Decision.decide_tagged scope node tagged] at rest
  rcases drawn_stores rest with ⟨visited, nextNode, invalid, stored⟩
  refine ⟨⟨invalid ▸ List.prefix_rfl, ?_⟩, .of_eq (Nat.le_of_eq nextNode.symm) visited⟩
  rw [definition]
  rcases stored with ⟨draft, doc, inScope, tags, built, stored⟩ | ⟨stored, fails⟩
  · have isVirtual : doc.category.isVirtual := by
      have virtualCategory := Decision.isVirtual_of_ofTags? tagged
      rcases (Draft.build_heads built).category with same | ⟨rfl, -⟩
      · rwa [same]
      · cases virtualCategory
    have made : occasion.comment.Makes scope doc.outline :=
      ⟨draft, category, doc, inScope, tags, tagged, built, rfl⟩
    refine ⟨[occasion], [doc.outline], List.Sublist.refl _, ?_, .cons made .nil, fun _ _ _ => rfl⟩
    rw [stored, Doc.virtuals_append]
    simp [Doc.virtuals, Doc.outline, isVirtual]
  · refine ⟨[], [], List.nil_sublist _, by rw [stored, List.append_nil], .nil, ?_⟩
    rintro unfiltered ⟨value, rfl⟩ -
    rcases fails unfiltered with ⟨fault, impossible⟩
    cases impossible

/-- Documenting a comment makes a virtual record of it if it defines something, and else none. -/
theorem document {node : Node}
    (target : node.shape = .virtual ∨ ∃ place ∈ scope.program.places, place.node = node)
    {occasion : Occasion} (isDoc : occasion.comment.isDoc) {outcome : Except Fault Unit}
    (ended : Ends (document scope node occasion.comment) before outcome after) :
    Documents scope [occasion] before outcome after := by
  cases tagged : Decision.ofTags? occasion.comment.tags with
  | some category => exact documentTagged isDoc tagged ended
  | none =>
      have documents := documentUntagged target tagged ended
      refine ⟨documents.heeds.congr ?_, documents.binds⟩
      simp [Occasion.definitions, Comment.defines, tagged]

theorem documentEach {node : Node} {parent : Option Node}
    (target : node.shape = .virtual ∨ ∃ place ∈ scope.program.places, place.node = node)
    {occasions : List Occasion} (areDocs : ∀ occasion ∈ occasions, occasion.comment.isDoc)
    {outcome : Except Fault Unit}
    (ended : Ends (documentEach scope node parent (occasions.map Occasion.comment)) before outcome
      after) :
    Documents scope occasions before outcome after := by
  induction occasions generalizing before with
  | nil => exact ofPure ended
  | cons occasion rest ih =>
      have isDoc := areDocs occasion (List.mem_cons_self ..)
      cases rest with
      | nil => exact document target isDoc ended
      | cons next others =>
          have drawn := ends_lift_bind.1 ended
          have documents : Documents scope ([occasion] ++ next :: others)
              ((virtualNode parent).run before).2 outcome after := by
            refine bind (fun ran => ?_) (fun rested => ?_) drawn
            · exact document (Or.inl rfl) isDoc ran
            · exact ih (fun other isOther => areDocs other (List.mem_cons_of_mem _ isOther)) rested
          exact ofVirtual documents

/-- Comments that define nothing are documented as well, but nothing is heeded for them. -/
theorem documentComments (node parent : Option Node)
    (target : ∀ documented, node = some documented →
      ∃ place ∈ scope.program.places, place.node = documented)
    (occasions : List Occasion) {outcome : Except Fault Unit}
    (ended : Ends (documentComments scope node parent (occasions.map Occasion.comment)) before
      outcome after) :
    Documents scope occasions before outcome after := by
  have sameDefinitions : Occasion.definitions (occasions.filter fun occasion =>
      occasion.comment.isDoc) = Occasion.definitions occasions := by
    simp only [Occasion.definitions, List.filter_filter]
    refine List.filter_congr fun occasion _ => ?_
    cases isDoc : occasion.comment.isDoc <;> simp [Comment.defines, isDoc]
  have each {state : Progress} {documented : Node}
      (target : documented.shape = .virtual ∨
        ∃ place ∈ scope.program.places, place.node = documented)
      (ran : Ends (Run.documentEach scope documented parent
        (Comment.docComments (occasions.map Occasion.comment))) state outcome after) :
      Documents scope occasions state outcome after := by
    unfold Comment.docComments at ran
    rw [List.filter_map] at ran
    split at ran
    · rename_i noDocs
      have undefined : Occasion.definitions occasions = [] := by
        rw [← sameDefinitions]
        exact congrArg Occasion.definitions (List.map_eq_nil_iff.1 noDocs)
      have standIn : Documents scope [⟨documented.id, .leading, 0, Comment.undocumented⟩] state
          outcome after := document target Comment.isDoc_undocumented ran
      refine ⟨standIn.heeds.congr ?_, standIn.binds⟩
      rw [undefined]
      simp [Occasion.definitions, Comment.defines_undocumented]
    · have documents := documentEach target (fun occasion isMember =>
        (List.mem_filter.1 isMember).2) ran
      exact ⟨documents.heeds.congr sameDefinitions, documents.binds⟩
  cases node with
  | none => exact ofVirtual (each (Or.inl rfl) (ends_lift_bind.1 ended))
  | some node => exact each (Or.inr (target node rfl)) ended

end Documents

end Run

end DocHarvest
