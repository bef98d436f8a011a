import DocHarvest.Proofs.Module.Decide
import DocHarvest.Proofs.Module.Sound

/-!
# Documenting a place

The comments of a node are documented one by one, but only the last one meets the node; the others
meet virtual nodes, which nothing is recorded for as long as no comment defines anything by itself.
So documenting a place comes to its expected decision and, if there is one, to one record.
-/

namespace DocHarvest

open Run

/-- A comment that defines nothing by itself. -/
def Comment.IsPlain (comment : Comment) : Prop :=
  ∀ tag ∈ comment.tags, tag.name ≠ "@typedef" ∧ tag.name ≠ "@external"

instance (comment : Comment) : Decidable comment.IsPlain :=
  inferInstanceAs (Decidable (∀ tag ∈ comment.tags,
    tag.name ≠ "@typedef" ∧ tag.name ≠ "@external"))

theorem Decision.ofTags?_eq_none {comment : Comment} (plain : comment.IsPlain) :
    ofTags? comment.tags = none := by
  have undecided {tags : List Tag}
      (plain : ∀ tag ∈ tags, tag.name ≠ "@typedef" ∧ tag.name ≠ "@external") :
      ofTags? tags = none := by
    unfold ofTags?
    induction tags with
    | nil => rfl
    | cons tag tags ih =>
        rcases plain tag (List.mem_cons_self ..) with ⟨noTypedef, noExternal⟩
        rw [List.foldl_cons]
        simp only [beq_iff_eq, noTypedef, noExternal, if_false]
        simpa using ih fun other isOther => plain other (List.mem_cons_of_mem tag isOther)
  exact undecided plain

theorem Comment.isPlain_of_mem_docComments {comments : List Comment}
    (plain : ∀ comment ∈ comments, comment.isDoc → comment.IsPlain) :
    ∀ comment ∈ docComments comments, comment.IsPlain := by
  intro comment isMember
  unfold docComments at isMember
  split at isMember
  · rw [List.mem_singleton.1 isMember]
    have noTag : ∀ tag ∈ undocumented.tags, tag.name = "@_undocument" := by decide
    intro tag isTag
    rw [noTag tag isTag]
    decide
  · exact plain comment (List.mem_of_mem_filter isMember) (List.mem_filter.1 isMember).2

variable {scope : Scope} {before after : Progress}

/-- Nothing happens but that identities of virtual nodes are given out and their parents noted. -/
structure Aside (before after : Progress) : Prop where
  store : after.store = before.store
  visited : after.visited = before.visited
  classes : after.classes = before.classes
  names : after.links.names = before.links.names
  nextNode : before.nextNode ≤ after.nextNode
  parents : ∀ id < before.nextNode, after.links.parents[id]? = before.links.parents[id]?

namespace Aside

theorem refl (state : Progress) : Aside state state :=
  ⟨rfl, rfl, rfl, rfl, Nat.le_refl _, fun _ _ => rfl⟩

theorem trans {middle : Progress} (first : Aside before middle) (second : Aside middle after) :
    Aside before after where
  store := second.store.trans first.store
  visited := second.visited.trans first.visited
  classes := second.classes.trans first.classes
  names := second.names.trans first.names
  nextNode := Nat.le_trans first.nextNode second.nextNode
  parents id isOld :=
    (second.parents id (Nat.lt_of_lt_of_le isOld first.nextNode)).trans (first.parents id isOld)

theorem virtualNode (parent : Option Node) (before : Progress) :
    Aside before ((Run.virtualNode parent).run before).2 := by
  refine ⟨rfl, rfl, rfl, rfl, Nat.le_succ _, fun id isOld => ?_⟩
  change (before.links.parents.insert before.nextNode parent)[id]? = _
  rw [Std.TreeMap.getElem?_insert, if_neg]
  rw [Nat.compare_eq_eq]
  exact Nat.ne_of_gt isOld

theorem marks {program : Node} (aside : Aside before after)
    (bounded : ∀ place ∈ program.places, place.node.id < before.nextNode) :
    Marks program before after where
  fits fits place isPlace parent noted := by
    rw [aside.parents _ (bounded place isPlace)] at noted
    exact fits place isPlace parent noted
  knows place isPlace known inside := by
    rw [aside.parents _ (bounded place isPlace)]
    exact known inside
  visited id := by
    rw [aside.visited]
    exact fun wasVisited => wasVisited
  fresh place _ := by
    rw [aside.visited]
    exact Or.inl

end Aside

theorem ends_document_virtual {node : Node} {comment : Comment} (isVirtual : node.shape = .virtual)
    (plain : comment.IsPlain)
    (ended : Ends (document scope node comment) before (.ok ()) after) : after = before := by
  have decided : (Decision.decide scope comment.tags node).run before = (none, before) := by
    simp only [Decision.decide, Decision.ofTags?_eq_none plain, Decision.ofShape, isVirtual]
    rfl
  rw [document_eq] at ended
  have rest := ends_lift_bind.1 ended
  rw [decided] at rest
  exact (ends_pure.1 rest).2

/-- Of several comments only the last one meets the node. -/
theorem ends_documentEach {node : Node} {parent : Option Node} {comments : List Comment}
    (plain : ∀ comment ∈ comments, comment.IsPlain) (isSome : comments ≠ [])
    (ended : Ends (documentEach scope node parent comments) before (.ok ()) after) :
    ∃ last ∈ comments, ∃ middle, Aside before middle ∧
      Ends (document scope node last) middle (.ok ()) after := by
  induction comments generalizing before with
  | nil => exact absurd rfl isSome
  | cons comment rest ih =>
      cases rest with
      | nil => exact ⟨comment, by simp, before, .refl before, ended⟩
      | cons next others =>
          have first := ends_lift_bind.1 ended
          rcases ends_bind_ok.1 first with ⟨_, middle, documented, rested⟩
          rcases ends_document_virtual rfl (plain comment (List.mem_cons_self ..)) documented with
            rfl
          rcases ih (fun other isOther => plain other (List.mem_cons_of_mem comment isOther))
            (by simp) rested with ⟨last, isLast, later, aside, documentedLast⟩
          exact ⟨last, List.mem_cons_of_mem comment isLast, later,
            (Aside.virtualNode parent before).trans aside, documentedLast⟩

theorem docComments_ne_nil (comments : List Comment) : Comment.docComments comments ≠ [] := by
  unfold Comment.docComments
  split
  · simp
  · assumption

theorem ends_documentComments {node : Node} {parent : Option Node} {comments : List Comment}
    (plain : ∀ comment ∈ comments, comment.isDoc → comment.IsPlain)
    (ended : Ends (documentComments scope (some node) parent comments) before (.ok ()) after) :
    ∃ last : Comment, last.IsPlain ∧ ∃ middle, Aside before middle ∧
      Ends (document scope node last) middle (.ok ()) after := by
  have arePlain := Comment.isPlain_of_mem_docComments plain
  rcases ends_documentEach arePlain (docComments_ne_nil comments) ended with
    ⟨last, isLast, middle, aside, documented⟩
  exact ⟨last, arePlain last isLast, middle, aside, documented⟩

theorem ends_documentComments_none {parent : Option Node} {comments : List Comment}
    (plain : ∀ comment ∈ comments, comment.isDoc → comment.IsPlain)
    (ended : Ends (documentComments scope none parent comments) before (.ok ()) after) :
    Aside before after := by
  have arePlain := Comment.isPlain_of_mem_docComments plain
  have first := ends_lift_bind.1 ended
  rcases ends_documentEach arePlain (docComments_ne_nil comments) first with
    ⟨last, isLast, middle, aside, documented⟩
  rcases ends_document_virtual rfl (arePlain last isLast) documented with rfl
  exact (Aside.virtualNode parent before).trans aside

theorem Stands.aside {place : Place} {middle : Progress} (stands : Stands scope before place)
    (aside : Aside before middle)
    (bounded : ∀ place ∈ scope.program.places, place.node.id < before.nextNode) :
    Stands scope middle place where
  tree := stands.tree
  isProgram := stands.isProgram
  isPlace := stands.isPlace
  inside := stands.inside
  fits := (aside.marks bounded).fits stands.fits
  parent := by
    rw [Links.parentOf, aside.parents _ (bounded place stands.isPlace)]
    exact stands.parent
  known := (aside.marks bounded).knows place stands.isPlace stands.known
  knowsOuters outer isOuter :=
    (aside.marks bounded).knows outer (Place.outers_subset_places stands.isPlace isOuter)
      (stands.knowsOuters outer isOuter)
  classes := by
    rw [aside.classes]
    exact stands.classes

/-- What a decision about a place leads to: no record, or one, with the name of a class noted. -/
inductive Tells (scope : Scope) (place : Place) (before after : Std.TreeMap NodeId String) :
    Option Decision → List Doc → Prop
  | nothing (names : after = before) : Tells scope place before after none []
  | record (draft : Draft) {decision : Decision} {doc : Doc} (inScope : draft.scope = scope)
      (node : draft.node = decision.node) (built : draft.build decision.category = .ok doc)
      (names : draft.links.names = after)
      (named : decision.category = .moduleClass → ∃ name, doc.name = some name ∧
        after = before.insert decision.node.id name)
      (unnamed : decision.category ≠ .moduleClass → after = before)
      (around : Place.memberOf? place.node = some decision →
        draft.links.findUp? decision.node.id Shape.isClass = place.innermostClass?) :
      Tells scope place before after (some decision) [doc]

/-- A place has been documented: its decision has been made, and the records are these. -/
structure Documented (scope : Scope) (place : Place) (before after : Progress)
    (docs : List Doc) : Prop where
  stored : after.store.docs = before.store.docs ++ docs
  nextNode : before.nextNode ≤ after.nextNode
  classes : after.classes = before.classes ++ Decision.classes (place.decision? scope.program)
  marks : Marks scope.program before after
  tells : Tells scope place before.links.names after.links.names
    (place.decision? scope.program) docs

/-- A successful step that stores a record without a filter stores it at the end. -/
theorem ends_drawnBuild {category : Category} {node : Node} {tags : List Tag} {stored : Bool}
    (unfiltered : scope.filter = none)
    (ended : Ends (liftM drawId >>= fun id => build scope id category node tags >>= insert scope)
      before (.ok stored) after) :
    ∃ doc messages,
      Draft.build ⟨scope, before.links.naming scope category node, before.store.nextId, node, tags⟩
        category = .ok doc ∧
      after = { before with
        links := before.links.naming scope category node
        messages
        store := ⟨before.store.docs ++ [doc], before.store.nextId + 1⟩ } := by
  have drawn := ends_lift_bind.1 ended
  rcases ends_bind_ok.1 drawn with ⟨doc, built, building, inserted⟩
  rcases ends_build building with ⟨messages, rfl, made⟩
  rcases ends_insert inserted with ⟨-, -, rfl⟩ | ⟨-, -, filtered⟩ | ⟨-, fault, impossible, -⟩
  · exact ⟨doc, messages, made.symm, rfl⟩
  · rw [unfiltered] at filtered
    cases filtered
  · cases impossible

theorem Links.parents_naming (links : Links) (scope : Scope) (category : Category) (node : Node) :
    (links.naming scope category node).parents = links.parents := by
  unfold naming
  split <;> rfl

theorem Links.naming_of_ne (links : Links) (scope : Scope) {category : Category} (node : Node)
    (other : category ≠ .moduleClass) : links.naming scope category node = links := by
  simp [naming, other]

/-- Documenting a place with a plain comment carries out the expected decision. -/
theorem Stands.document {place : Place} (stands : Stands scope before place)
    (unfiltered : scope.filter = none) {comment : Comment} (plain : comment.IsPlain)
    (ended : Ends (document scope place.node comment) before (.ok ()) after) :
    ∃ docs, Documented scope place before after docs := by
  rcases stands.decide (Decision.ofTags?_eq_none plain) with ⟨noted, decided, run⟩
  have store : noted.store = before.store := (congrArg Progress.store decided.frame :)
  have nextNode : noted.nextNode = before.nextNode := (congrArg Progress.nextNode decided.frame :)
  have classes : noted.classes = before.classes := (congrArg Progress.classes decided.frame :)
  have names : noted.links.names = before.links.names := decided.names
  have marks : Marks scope.program before noted := decided.marks
  rw [document_eq] at ended
  have rest := ends_lift_bind.1 ended
  rw [run] at rest
  cases found : place.decision? scope.program with
  | none =>
      rw [found] at rest
      rcases ends_pure.1 rest with ⟨-, rfl⟩
      refine ⟨[], by simp [store], Nat.le_of_eq nextNode.symm, by simp [classes, found], ?_, ?_⟩
      · exact marks.trans (.of_eq rfl rfl)
      · rw [found]
        exact .nothing names
  | some decision =>
      rw [found] at rest
      rcases ends_bind_ok.1 rest with ⟨stored, later, drawn, finished⟩
      rcases ends_pure.1 finished with ⟨-, rfl⟩
      rcases ends_drawnBuild unfiltered drawn with ⟨doc, messages, built, rfl⟩
      refine ⟨[doc], ?_, Nat.le_of_eq nextNode.symm, ?_, ?_, ?_⟩
      · simp [store]
      · simp [classes, found]
      · exact marks.trans (.of_eq (Links.parents_naming _ _ _ _) rfl)
      · rw [found]
        refine .record _ rfl rfl built rfl ?_ ?_ ?_
        · intro isClass
          rw [isClass] at built ⊢
          exact ⟨_, Draft.name_of_build_moduleClass built, by rw [← names]; rfl⟩
        · intro noClass
          rw [Links.naming_of_ne _ _ _ noClass]
          exact names
        · intro isMember
          rw [Links.naming_of_ne _ _ _ (Place.category_ne_of_memberOf? isMember)]
          exact decided.around decision found isMember

namespace Documented

variable {place : Place} {middle : Progress} {docs : List Doc}

theorem afterAside (aside : Aside before middle)
    (bounded : ∀ place ∈ scope.program.places, place.node.id < before.nextNode)
    (documented : Documented scope place middle after docs) :
    Documented scope place before after docs where
  stored := by rw [documented.stored, aside.store]
  nextNode := Nat.le_trans aside.nextNode documented.nextNode
  classes := by rw [documented.classes, aside.classes]
  marks := (aside.marks bounded).trans documented.marks
  tells := by
    rw [← aside.names]
    exact documented.tells

theorem beforeAside (documented : Documented scope place before middle docs)
    (aside : Aside middle after)
    (bounded : ∀ place ∈ scope.program.places, place.node.id < before.nextNode) :
    Documented scope place before after docs where
  stored := by rw [aside.store, documented.stored]
  nextNode := Nat.le_trans documented.nextNode aside.nextNode
  classes := by rw [aside.classes, documented.classes]
  marks := documented.marks.trans (aside.marks fun place isPlace =>
    Nat.lt_of_lt_of_le (bounded place isPlace) documented.nextNode)
  tells := by
    rw [aside.names]
    exact documented.tells

end Documented

theorem Stands.documentComments {place : Place} (stands : Stands scope before place)
    (unfiltered : scope.filter = none)
    (bounded : ∀ place ∈ scope.program.places, place.node.id < before.nextNode)
    {parent : Option Node} {comments : List Comment}
    (plain : ∀ comment ∈ comments, comment.isDoc → comment.IsPlain)
    (ended : Ends (documentComments scope (some place.node) parent comments) before (.ok ()) after) :
    ∃ docs, Documented scope place before after docs := by
  rcases ends_documentComments plain ended with ⟨last, lastPlain, middle, aside, documented⟩
  rcases (stands.aside aside bounded).document unfiltered lastPlain documented with ⟨docs, recorded⟩
  exact ⟨docs, recorded.afterAside aside bounded⟩

theorem Stands.documentBoth {place : Place} (stands : Stands scope before place)
    (unfiltered : scope.filter = none)
    (bounded : ∀ place ∈ scope.program.places, place.node.id < before.nextNode)
    {parent : Option Node} {leading trailing : List Comment} {withTrailing : Bool}
    (plain : ∀ comment ∈ leading, comment.isDoc → comment.IsPlain)
    (plainToo : ∀ comment ∈ trailing, comment.isDoc → comment.IsPlain)
    (ended : Ends (Run.documentComments scope (some place.node) parent leading >>= fun _ =>
      if withTrailing then Run.documentComments scope none parent trailing else pure ())
      before (.ok ()) after) :
    ∃ docs, Documented scope place before after docs := by
  rcases ends_bind_ok.1 ended with ⟨_, middle, first, rest⟩
  rcases stands.documentComments unfiltered bounded plain first with ⟨docs, documented⟩
  cases withTrailing with
  | false =>
      rcases ends_pure.1 rest with ⟨-, rfl⟩
      exact ⟨docs, documented⟩
  | true => exact ⟨docs, documented.beforeAside (ends_documentComments_none plainToo rest) bounded⟩

end DocHarvest
