import DocHarvest.Proofs.Module.Answers
import DocHarvest.Proofs.Module.Planning
import DocHarvest.Proofs.Module.Stages

/-!
# Ancestors are those of the program

The walk fills the table of parents, and so do decisions and exports, each in its own order and up to
the fault that ends it. None of them leaves a table behind that leads astray: `Run.Careful` says of a step
that it keeps the tables in order, however it ends, and that all its questions are answered.
-/

namespace DocHarvest

open Run

variable {program : Node} {before after : Progress}

/-- From a state on, a step keeps the tables in order, however it ends, and has its questions answered. -/
structure Run.Careful {α : Type} (program : Node) (step : Run α) (asked : Questions)
    (before : Progress) : Prop where
  keeps : ∀ {outcome after}, Ends step before outcome after → Keeps program before after
  answered : ∀ question ∈ asked before, question.IsAnswered program

namespace Run.Careful

variable {α β : Type} {step : Run α} {asked : Questions}

theorem bind {next : α → Run β} {askedNext : α → Questions}
    (first : Careful program step asked before)
    (second : ∀ value middle, Ends step before (.ok value) middle →
      Careful program (next value) (askedNext value) middle) :
    Careful program (step >>= next) (.bind step asked askedNext) before where
  keeps ended := by
    rcases ends_bind.1 ended with ⟨value, middle, start, rest⟩ | ⟨fault, failed, -⟩
    · exact (first.keeps start).trans ((second value middle start).keeps rest)
    · exact first.keeps failed
  answered := Trace.forall_bind first.answered fun value middle start =>
    (second value middle start).answered

/-- A step that leaves the tables alone and asks nothing. -/
theorem quiet (charted : Charted program before) (leaves : Leaves Progress.tables step) :
    Careful program step .nothing before where
  keeps ended := .congr charted (leaves ended)
  answered := List.forall_mem_nil _

theorem pure (charted : Charted program before) (value : α) :
    Careful program (pure value) .nothing before :=
  quiet charted (Leaves.pure value)

/-- Whatever leaves the tables alone may follow. -/
theorem andQuiet (first : Careful program step asked before) {next : α → Run β}
    (leaves : ∀ value, Leaves Progress.tables (next value)) :
    Careful program (step >>= next) asked before where
  keeps ended := by
    rcases ends_bind.1 ended with ⟨value, middle, start, rest⟩ | ⟨fault, failed, -⟩
    · have kept := first.keeps start
      exact kept.trans (.congr kept.charted (leaves value rest))
    · exact first.keeps failed
  answered := first.answered

theorem guarded {scope : Scope} {node : Node} {fallback : α}
    (careful : Careful program step asked before) :
    Careful program (Module.guarded scope node fallback step) asked before where
  keeps ended := by
    rcases Module.ends_guarded ended with ran | ⟨fault, middle, entry, messages, failed, -, -, rfl⟩
    · exact careful.keeps ran
    · have kept := careful.keeps failed
      exact kept.trans (.congr kept.charted rfl)
  answered := careful.answered

end Run.Careful

/-! ## Decisions and records -/

namespace Keeps

variable {scope : Scope} {place : Place}

/-- A part of a located place is located once its parent has been noted. -/
theorem markPart (coherent : program.IsCoherent) (charted : Charted program before)
    (noted : (before.links.parentOf place.node.id).isSome) {part : Place}
    (isPart : part ∈ program.places) (follows : part.Follows (some place.node))
    {visited : Std.TreeSet NodeId}
    (news : ∀ id, visited.contains id → before.visited.contains id ∨ id = part.node.id)
    (messages : List Message) :
    Keeps program before { before with
        links := before.links.setParent part.node.id (some place.node), visited, messages } ∧
      Located program { before with
        links := before.links.setParent part.node.id (some place.node), visited, messages }
        part.node := by
  have marked := Keeps.mark charted coherent isPart follows (Or.inr noted) news
  refine ⟨marked.trans (.congr marked.charted rfl), .placed isPart rfl ?_⟩
  rw [Links.parentOf_setParent, if_pos rfl]
  rfl

theorem ofShape (coherent : program.IsCoherent) (charted : Charted program before)
    (isPlace : place ∈ program.places)
    (noted : (before.links.parentOf place.node.id).isSome) :
    Keeps program before ((Decision.ofShape scope place.node).run before).2 ∧
      ∀ decision, ((Decision.ofShape scope place.node).run before).1 = some decision →
        Located program ((Decision.ofShape scope place.node).run before).2 decision.node := by
  have chooses := Decision.ofShape_chooses scope place.node before
  generalize (Decision.ofShape scope place.node).run before = result at chooses ⊢
  cases chooses with
  | nothing messages => exact ⟨.congr charted rfl, by rintro decision ⟨⟩⟩
  | self =>
      refine ⟨.refl charted, ?_⟩
      rintro decision ⟨⟩
      exact .placed isPlace rfl noted
  | passed shape messages =>
      have marked := markPart coherent charted noted (Node.expression_mem_places isPlace shape)
        (Place.follows_outer _ _ _) (fun _ => Or.inl) messages
      exact ⟨marked.1, by rintro decision ⟨⟩⟩
  | member shape assigns =>
      have marked := markPart coherent charted noted (Node.expression_mem_places isPlace shape)
        (Place.follows_outer _ _ _) (fun id => (contains_insert_iff _ _ _).1) before.messages
      refine ⟨marked.1, ?_⟩
      rintro decision ⟨⟩
      exact marked.2
  | value gives isValue =>
      rcases gives.exists_part isPlace with ⟨part, isPart, rfl, follows, -⟩
      rw [Node.node_of_value? isValue]
      have marked := markPart coherent charted noted isPart follows
        (fun id => (contains_insert_iff _ _ _).1) before.messages
      refine ⟨marked.1, ?_⟩
      rintro decision ⟨⟩
      rw [Node.node_of_value? isValue]
      exact marked.2

theorem decide (coherent : program.IsCoherent) (charted : Charted program before) {node : Node}
    (located : Located program before node) (documentable : program.Documents node)
    (tags : List Tag) :
    Keeps program before ((Decision.decide scope tags node).run before).2 ∧
      ∀ decision, ((Decision.decide scope tags node).run before).1 = some decision →
        Located program ((Decision.decide scope tags node).run before).2 decision.node := by
  cases found : Decision.ofTags? tags with
  | some category =>
      rw [Decision.decide_tagged scope node found]
      refine ⟨.refl charted, ?_⟩
      rintro decision ⟨⟩
      exact located
  | none =>
      have decided : Keeps program before ((Decision.ofShape scope node).run before).2 ∧
          ∀ decision, ((Decision.ofShape scope node).run before).1 = some decision →
            Located program ((Decision.ofShape scope node).run before).2 decision.node := by
        cases located with
        | placed isPlace same noted => exact same ▸ ofShape coherent charted isPlace noted
        | below isPlace goesOn parent isNew isOld =>
            rw [Decision.ofShape_virtual scope (documentable.virtual_of_new isNew)]
            exact ⟨.refl charted, by rintro decision ⟨⟩⟩
      rw [Decision.decide_run scope node found]
      have classed : Keeps program ((Decision.ofShape scope node).run before).2
          { ((Decision.ofShape scope node).run before).2 with
            classes := ((Decision.ofShape scope node).run before).2.classes ++
              Decision.classes ((Decision.ofShape scope node).run before).1 } :=
        .congr decided.1.charted rfl
      exact ⟨decided.1.trans classed, fun decision same => (decided.2 decision same).mono classed⟩

end Keeps

/-- What is asked about the shape of a place is answered. -/
theorem Charted.shapeQuestions_answered (charted : Charted program before) (tree : program.IsTree)
    {place : Place} (isPlace : place ∈ program.places)
    (noted : (before.links.parentOf place.node.id).isSome) :
    ∀ question ∈ Decision.shapeQuestions place.node before, question.IsAnswered program := by
  unfold Decision.shapeQuestions
  split
  · simpa using charted.isAnswered tree (.placed isPlace rfl noted)
  · simpa using charted.isAnswered tree (.placed isPlace rfl noted)
  · rename_i assignment shape
    split
    · split
      · have marked := Keeps.markPart tree.isCoherent charted noted
          (Node.expression_mem_places isPlace shape) (Place.follows_outer _ _ _)
          (fun _ => Or.inl) before.messages
        simpa [Decision.linked] using marked.1.charted.isAnswered tree marked.2
      · exact List.forall_mem_nil _
    · exact List.forall_mem_nil _
  · exact List.forall_mem_nil _

theorem Run.build_tables (scope : Scope) (id : Int) (category : Category) (node : Node)
    (tags : List Tag) : Leaves Progress.tables (build scope id category node tags) :=
  build_leaves (fun _ _ _ => rfl) scope id category node tags

theorem Run.insert_tables (scope : Scope) (doc : Doc) :
    Leaves Progress.tables (insert scope doc) :=
  insert_leaves (fun _ _ => rfl) scope doc

namespace Run.Careful

variable {scope : Scope} {node : Node}

theorem decide (tree : program.IsTree) (charted : Charted program before)
    (located : Located program before node) (documentable : program.Documents node)
    (tags : List Tag) :
    Careful program (liftM (Decision.decide scope tags node)) (Question.watch.decision tags node)
      before where
  keeps ended := by
    rcases ends_lift.1 ended with ⟨-, rfl⟩
    exact (Keeps.decide tree.isCoherent charted located documentable tags).1
  answered := by
    change ∀ question ∈ Decision.questions tags node before, question.IsAnswered program
    unfold Decision.questions
    split
    · exact List.forall_mem_nil _
    · cases located with
      | placed isPlace same noted => exact same ▸ charted.shapeQuestions_answered tree isPlace noted
      | below isPlace goesOn parent isNew isOld =>
          simp [Decision.shapeQuestions, documentable.virtual_of_new isNew]

theorem build (tree : program.IsTree) (charted : Charted program before)
    (located : Located program before node) (scope : Scope) (id : Int) (category : Category)
    (tags : List Tag) :
    Careful program (Run.build scope id category node tags)
      (Question.watch.record scope id category node tags) before where
  keeps ended := .congr charted (build_tables scope id category node tags ended)
  answered := by
    change ∀ question ∈ buildQuestions scope category node before, question.IsAnswered program
    unfold buildQuestions
    split
    · let named : Progress := { before with links := before.links.naming scope category node }
      have same : named.tables = before.tables := by
        simp only [Progress.tables, named, Links.parents_naming]
      have kept := Keeps.congr charted same
      simpa using kept.charted.isAnswered tree (located.mono kept)
    · exact List.forall_mem_nil _

theorem document (tree : program.IsTree) (charted : Charted program before)
    (located : Located program before node) (documentable : program.Documents node)
    (comment : Comment) :
    Careful program (Run.document scope node comment) (documentTrace Question.watch scope node comment)
      before := by
  rw [document_eq]
  unfold documentTrace
  refine (decide tree charted located documentable comment.tags).bind ?_
  intro found middle decided
  have settled := @Keeps.decide program before scope tree.isCoherent charted node located
    documentable comment.tags
  have ran := ends_lift.1 decided
  generalize (Decision.decide scope comment.tags node).run before = result at settled ran
  rcases result with ⟨value, state⟩
  rcases ran with ⟨⟨⟩, rfl⟩
  cases value with
  | none => exact pure settled.1.charted _
  | some decision =>
      refine andQuiet ?_ fun _ => Leaves.pure _
      simp only [Option.elim_some]
      have drawing : Leaves Progress.tables (liftM drawId : Run Int) := Leaves.lift fun _ => rfl
      refine (quiet settled.1.charted drawing).bind fun id drawn isDrawn => ?_
      rcases ends_lift.1 isDrawn with ⟨-, rfl⟩
      have kept : Keeps program middle (drawId.run middle).2 := .congr settled.1.charted rfl
      have stored := build tree kept.charted ((settled.2 decision rfl).mono kept) scope id
        decision.category comment.tags
      exact stored.andQuiet fun doc => insert_tables scope doc

/-- A virtual node below a place that is located is located itself. -/
theorem virtualNode {outer : Place} (charted : Charted program before)
    (isOuter : outer ∈ program.places) (goesOn : before.links.GoesOn program outer.node)
    {next : Node → Run α} {asked : Node → Questions}
    (rest : ∀ virtual middle, Keeps program before middle → Located program middle virtual →
      program.Documents virtual → Careful program (next virtual) (asked virtual) middle) :
    Careful program (liftM (Run.virtualNode (some outer.node)) >>= next)
      (.bind (liftM (Run.virtualNode (some outer.node))) .nothing asked) before := by
  let virtual : Node := .mk { id := before.nextNode } .virtual
  have drawn := Keeps.draw charted 1 (some outer.node)
  have located : Located program { before with
      nextNode := before.nextNode + 1
      links := before.links.setParent before.nextNode (some outer.node) } virtual := by
    refine .below isOuter (drawn.goesOn isOuter goesOn) ?_ ?_ (Nat.lt_succ_self _)
    · exact (Links.parentOf_setParent ..).trans (if_pos rfl)
    · exact fun place isPlace => Nat.ne_of_lt (charted.below place isPlace)
  have drawing : Careful program (liftM (Run.virtualNode (some outer.node))) .nothing before := by
    refine ⟨fun ended => ?_, List.forall_mem_nil _⟩
    rcases ends_lift.1 ended with ⟨-, rfl⟩
    exact drawn
  refine drawing.bind fun value middle ended => ?_
  rcases ends_lift.1 ended with ⟨⟨⟩, rfl⟩
  exact rest virtual _ drawn located (Or.inl rfl)

theorem documentEach (tree : program.IsTree) (charted : Charted program before)
    (located : Located program before node) (documentable : program.Documents node)
    {outer : Place} (isOuter : outer ∈ program.places)
    (goesOn : before.links.GoesOn program outer.node) (comments : List Comment) :
    Careful program (Run.documentEach scope node (some outer.node) comments)
      (documentEachTrace Question.watch scope node (some outer.node) comments) before := by
  induction comments generalizing before with
  | nil => exact pure charted _
  | cons comment rest ih =>
      cases rest with
      | nil => exact document tree charted located documentable comment
      | cons next others =>
          rw [documentEach_cons]
          refine virtualNode charted isOuter goesOn fun virtual middle drawn isLocated isVirtual => ?_
          have first : Careful program (Run.document scope virtual comment) _ middle :=
            document tree drawn.charted isLocated isVirtual comment
          refine first.bind fun _ state ended => ?_
          have kept := drawn.trans (first.keeps ended)
          exact ih kept.charted (located.mono kept) (kept.goesOn isOuter goesOn)

/-- The comments of a located node are documented, or comments without a node. -/
theorem documentComments (tree : program.IsTree) (charted : Charted program before)
    {node : Option Node} (located : ∀ documented, node = some documented →
      Located program before documented ∧ program.Documents documented)
    {outer : Place} (isOuter : outer ∈ program.places)
    (goesOn : before.links.GoesOn program outer.node) (comments : List Comment) :
    Careful program (Run.documentComments scope node (some outer.node) comments)
      (documentCommentsTrace Question.watch scope node (some outer.node) comments) before := by
  cases node with
  | none =>
      have drawing : Careful program (liftM (Run.virtualNode (some outer.node)) >>= fun virtual =>
          Run.documentEach scope virtual (some outer.node) (Comment.docComments comments))
          (.bind (liftM (Run.virtualNode (some outer.node))) .nothing fun virtual =>
            documentEachTrace Question.watch scope virtual (some outer.node) (Comment.docComments comments))
          before := by
        refine virtualNode charted isOuter goesOn ?_
        intro virtual middle drawn isLocated isVirtual
        have goesOnToo := drawn.goesOn isOuter goesOn
        exact documentEach tree drawn.charted isLocated isVirtual isOuter goesOnToo _
      exact drawing
  | some node =>
      rcases located node rfl with ⟨isLocated, documentable⟩
      exact documentEach tree charted isLocated documentable isOuter goesOn _

theorem documentBoth (tree : program.IsTree) (charted : Charted program before)
    (located : Located program before node) (documentable : program.Documents node)
    {outer : Place} (isOuter : outer ∈ program.places)
    (goesOn : before.links.GoesOn program outer.node) (leading trailing : List Comment)
    (withTrailing : Bool) :
    Careful program (Run.documentComments scope (some node) (some outer.node) leading >>= fun _ =>
        if withTrailing then Run.documentComments scope none (some outer.node) trailing else Pure.pure ())
      (documentBothTrace Question.watch scope node (some outer.node) leading trailing withTrailing) before := by
  have first : Careful program
      (Run.documentComments scope (some node) (some outer.node) leading) _ before :=
    documentComments tree charted
      (fun other same => Option.some.inj same ▸ ⟨located, documentable⟩) isOuter goesOn leading
  refine first.bind fun _ middle ended => ?_
  have kept := first.keeps ended
  cases withTrailing with
  | false => exact pure kept.charted _
  | true =>
      have second : Careful program
          (Run.documentComments scope none (some outer.node) trailing) _ middle :=
        documentComments tree kept.charted (by rintro _ ⟨⟩) isOuter (kept.goesOn isOuter goesOn) _
      exact second

end Run.Careful

/-! ## The first pass -/

namespace Run.Careful

variable {scope : Scope} {place : Place}

/-- A part of a place is visited, and then documented with its comments. -/
theorem visited (tree : scope.program.IsTree) {node : Node} {outer : Place}
    (charted : Charted scope.program before)
    (isPlace : ⟨node, outer.node :: outer.above⟩ ∈ scope.program.places)
    (goesOn : before.links.GoesOn scope.program outer.node) :
    Keeps scope.program before (visiting before node (some outer.node)) ∧
      ((visiting before node (some outer.node)).links.parentOf node.id).isSome ∧
      ∀ leading trailing withTrailing, Careful scope.program
        (Run.documentComments scope (some node) (some outer.node) leading >>= fun _ =>
          if withTrailing then Run.documentComments scope none (some outer.node) trailing
          else Pure.pure ())
        (documentBothTrace Question.watch scope node (some outer.node) leading trailing withTrailing)
        (visiting before node (some outer.node)) := by
  have marked : Keeps scope.program before (visiting before node (some outer.node)) :=
    Keeps.mark charted tree.isCoherent isPlace (Place.follows_outer _ _ _) goesOn
      fun id => (contains_insert_iff _ _ _).1
  have noted : ((visiting before node (some outer.node)).links.parentOf node.id).isSome := by
    rw [visiting, Links.parentOf_setParent, if_pos rfl]
    rfl
  have isOuter := (Node.outer_mem_places isPlace).1
  refine ⟨marked, noted, fun leading trailing withTrailing => ?_⟩
  exact documentBoth tree marked.charted (.placed isPlace rfl noted) (Or.inr ⟨_, isPlace, rfl⟩)
    isOuter (marked.goesOn isOuter goesOn) leading trailing withTrailing

theorem unwrap (tree : scope.program.IsTree) (charted : Charted scope.program before)
    (isPlace : place ∈ scope.program.places)
    (noted : (before.links.parentOf place.node.id).isSome) (isLast : Bool) :
    Careful scope.program (Export.unwrap scope place.node isLast)
      (Export.unwrapTrace Question.watch scope place.node isLast) before := by
  unfold Export.unwrap Export.unwrapTrace
  cases wrapped : place.node.exported? with
  | none => exact pure charted _
  | some declaration =>
      have isPart : ⟨declaration, place.node :: place.above⟩ ∈ scope.program.places :=
        Node.parts_mem_places isPlace
          (Place.mem_parts.2 ⟨Node.mem_children_of_exported? wrapped, rfl⟩)
      rcases visited tree charted isPart (Or.inr noted) with ⟨marked, -, documented⟩
      refine ⟨fun ended => ?_, (documented _ _ _).answered⟩
      dsimp only at ended
      have isVisited := ends_lift_bind.1 ended
      have linked := ends_lift_bind.1 isVisited
      exact marked.trans ((documented _ _ _).keeps linked)

/-- A place that is documented as an export or by itself, once it has been visited. -/
theorem pushed (tree : scope.program.IsTree) {node : Node} {outer : Place}
    (charted : Charted scope.program before)
    (isPlace : ⟨node, outer.node :: outer.above⟩ ∈ scope.program.places)
    (goesOn : before.links.GoesOn scope.program outer.node) (isLast : Bool) :
    Keeps scope.program before (visiting before node (some outer.node)) ∧
      ((visiting before node (some outer.node)).links.parentOf node.id).isSome ∧
      Careful scope.program
        (if node.shape.isExport then Export.unwrap scope node isLast
          else Module.documentNode scope node (some outer.node) isLast)
        (if node.shape.isExport then Export.unwrapTrace Question.watch scope node isLast
          else Module.documentNodeTrace Question.watch scope node (some outer.node) isLast)
        (visiting before node (some outer.node)) := by
  rcases visited tree charted isPlace goesOn with ⟨marked, noted, documented⟩
  refine ⟨marked, noted, ?_⟩
  split
  · exact unwrap tree marked.charted isPlace noted isLast
  · exact documented _ _ _

/-- However reaching a place ends, the way to the program goes on there. -/
theorem push (tree : scope.program.IsTree) (charted : Charted scope.program before)
    (isPlace : place ∈ scope.program.places)
    (goesOn : ∀ outer, place.above.head? = some outer → before.links.GoesOn scope.program outer) :
    Careful scope.program (Module.push scope place.node place.above.head?)
        (Module.pushTrace Question.watch scope place.node place.above.head?) before ∧
      ∀ {outcome after}, Ends (Module.push scope place.node place.above.head?) before outcome after →
        after.links.GoesOn scope.program place.node := by
  by_cases passed : place.node.id = scope.program.id ∨ before.visited.contains place.node.id
  · have stays {outcome : Except Fault Unit} {after : Progress}
        (ended : Ends (Module.push scope place.node place.above.head?) before outcome after) :
        after = before := by
      rcases ends_push ended with ⟨-, -, same⟩ | ⟨⟨notRoot, unvisited⟩, -⟩
      · exact same
      · simp [notRoot, unvisited] at passed
    refine ⟨⟨fun ended => ?_, ?_⟩, fun ended => ?_⟩
    · rw [stays ended]
      exact .refl charted
    · have nothing : (place.node.id == scope.program.id ||
          before.visited.contains place.node.id) = true := by simpa using passed
      simp [Module.pushTrace, nothing]
    · rw [stays ended]
      rcases passed with isRoot | isVisited
      · exact Or.inl (tree.isCoherent place isPlace ⟨scope.program, []⟩ (Node.root_mem_places _) isRoot)
      · exact Or.inr (charted.visited place isPlace isVisited)
  · have fresh : (place.node.id == scope.program.id ||
        before.visited.contains place.node.id) = false := by simpa [-Std.TreeSet.contains_iff_mem] using passed
    rcases place with ⟨node, above⟩
    cases above with
    | nil =>
        rw [Node.eq_root_of_above_nil isPlace] at passed
        exact absurd (Or.inl rfl) passed
    | cons outer above =>
        have reached := @pushed before scope tree node ⟨outer, above⟩ charted isPlace
          (goesOn outer rfl) (Module.isLastIn node (some outer))
        rcases reached with ⟨marked, noted, careful⟩
        have documented {outcome : Except Fault Unit} {after : Progress}
            (ended : Ends (Module.push scope node (some outer)) before outcome after) :
            Ends (if node.shape.isExport then
                Export.unwrap scope node (Module.isLastIn node (some outer))
              else Module.documentNode scope node (some outer) (Module.isLastIn node (some outer)))
              (visiting before node (some outer)) outcome after := by
          rcases ends_push ended with ⟨skipped, -, -⟩ | ⟨-, documented⟩
          · exact absurd skipped passed
          · exact documented
        refine ⟨⟨fun ended => marked.trans (careful.keeps (documented ended)), ?_⟩, fun ended => ?_⟩
        · have answered := careful.answered
          rw [Module.pushTrace, fresh]
          split at answered
          · rename_i isExport
            rw [if_neg Bool.false_ne_true, if_pos isExport]
            exact answered
          · rename_i noExport
            rw [if_neg Bool.false_ne_true, if_neg noExport]
            exact answered
        · exact Or.inr ((careful.keeps (documented ended)).kept _ isPlace noted)

/-- One step of the walk; below a place that is not put aside the walk goes on. -/
theorem enter (tree : scope.program.IsTree) (charted : Charted scope.program before)
    (isPlace : place ∈ scope.program.places)
    (goesOn : ∀ outer, place.above.head? = some outer → before.links.GoesOn scope.program outer) :
    Careful scope.program (Module.enter scope place.node place.above.head?)
        (Module.enterTrace Question.watch scope place.node place.above.head?) before ∧
      (Export.isDeferred scope.program place.node = false → ∀ {outcome after},
        Ends (Module.enter scope place.node place.above.head?) before outcome after →
          after.links.GoesOn scope.program place.node) := by
  unfold Module.enterTrace
  rw [Module.enter_eq]
  cases deferred : Export.isDeferred scope.program place.node with
  | true =>
      refine ⟨guarded ⟨fun ended => ?_, List.forall_mem_nil _⟩, by rintro ⟨⟩⟩
      rcases ends_visit_of_deferred deferred ended with ⟨-, rfl⟩
      exact .congr charted rfl
  | false =>
      rcases push tree charted isPlace goesOn with ⟨careful, goesOnToo⟩
      have entered : Module.visit scope place.node place.above.head? =
          Module.push scope place.node place.above.head? >>= fun _ => Pure.pure .enter := by
        rw [Module.visit, deferred]
        rfl
      have visited {outcome : Except Fault Node.Descent} {after : Progress}
          (ended : Ends (Module.visit scope place.node place.above.head?) before outcome after) :
          after.links.GoesOn scope.program place.node := by
        rw [entered] at ended
        rcases ends_bind.1 ended with ⟨_, middle, pushed, rested⟩ | ⟨fault, failed, -⟩
        · rcases ends_pure.1 rested with ⟨-, rfl⟩
          exact goesOnToo pushed
        · exact goesOnToo failed
      constructor
      · rw [entered]
        exact guarded (careful.andQuiet fun _ => Leaves.pure _)
      · intro _ outcome after ended
        rcases Module.ends_guarded ended with ran | ⟨fault, middle, entry, messages, failed, -, -, rfl⟩
        · exact visited ran
        · have reached := visited failed
          exact reached

theorem loop (tree : scope.program.IsTree) {known rest : List Place}
    (charted : Charted scope.program before) (areKnown : known ⊆ scope.program.places)
    (goesOn : ∀ place ∈ known, Export.isDeferred scope.program place.node = false →
      before.links.GoesOn scope.program place.node)
    (rooted : Place.Rooted (fun node => !Export.isDeferred scope.program node) known rest) :
    Careful scope.program
      (rest.forM fun place => Module.enter scope place.node place.above.head? >>= fun _ => Pure.pure ())
      (.each (fun place => Module.enter scope place.node place.above.head?)
        (fun place => Module.enterTrace Question.watch scope place.node place.above.head?) rest) before := by
  induction rest generalizing known before with
  | nil => exact pure charted _
  | cons place rest ih =>
      rcases rooted with ⟨⟨outer, isKnown, entered, isPart⟩, rootedToo⟩
      have isPlace := Node.parts_mem_places (areKnown isKnown) isPart
      have outerGoesOn (direct : Node) (isDirect : place.above.head? = some direct) :
          before.links.GoesOn scope.program direct := by
        rw [(Place.mem_parts.1 isPart).2] at isDirect
        cases isDirect
        exact goesOn outer isKnown (by simpa using entered)
      rcases enter tree charted isPlace outerGoesOn with ⟨careful, goesOnToo⟩
      rw [forM_cons, bind_assoc]
      simp only [pure_bind]
      refine careful.bind fun _ middle ended => ?_
      have kept := careful.keeps ended
      refine ih kept.charted ?_ ?_ rootedToo
      · exact List.append_subset.2 ⟨areKnown, List.cons_subset.2 ⟨isPlace, List.nil_subset _⟩⟩
      · refine List.forall_mem_append.2 ⟨fun other isOther notDeferred => ?_, fun other isNew => ?_⟩
        · exact kept.goesOn (areKnown isOther) (goesOn other isOther notDeferred)
        · rw [List.mem_singleton.1 isNew]
          exact fun notDeferred => goesOnToo notDeferred ended

theorem firstPass (tree : scope.program.IsTree) (charted : Charted scope.program before) :
    Careful scope.program (Module.firstPass scope) (Module.firstPassTrace Question.watch scope) before := by
  have looped : Careful scope.program
      (scope.program.walked.forM fun place =>
        Module.enter scope place.node place.above.head? >>= fun _ => Pure.pure ())
      (Module.firstPassTrace Question.watch scope) before := by
    unfold Module.firstPassTrace
    rcases Place.Rooted.exists_reach (fun node => !Export.isDeferred scope.program node)
      ⟨scope.program, []⟩ with ⟨rest, reached, rooted⟩
    rw [Node.walked, reached, forM_cons, bind_assoc]
    simp only [pure_bind]
    have atRoot := enter tree charted (Node.root_mem_places scope.program) (by rintro _ ⟨⟩)
    refine atRoot.1.bind fun _ middle ended => ?_
    refine loop tree (atRoot.1.keeps ended).charted ?_ ?_ rooted
    · exact List.cons_subset.2 ⟨Node.root_mem_places _, List.nil_subset _⟩
    · intro place isRoot notDeferred
      rw [List.mem_singleton.1 isRoot] at notDeferred ⊢
      exact atRoot.2 notDeferred ended
  exact ⟨fun ended => looped.keeps (Module.ends_walked ended), looped.answered⟩

theorem documentInner (tree : scope.program.IsTree) (charted : Charted scope.program before) :
    Careful scope.program (Module.documentInner scope) (Module.documentInnerTrace Question.watch scope)
      before := by
  unfold Module.documentInner Module.documentInnerTrace
  split
  · refine guarded ?_
    exact @documentComments _ before scope tree charted none (by rintro _ ⟨⟩) ⟨scope.program, []⟩
      (Node.root_mem_places _) (Or.inl rfl) _
  · exact pure charted _

end Run.Careful

/-! ## The second pass -/

namespace Run.Careful

variable {scope : Scope} {α β : Type}

theorem mapM {work : α → Run β} {asked : α → Questions} (charted : Charted program before)
    (each : ∀ part {before}, Charted program before → Careful program (work part) (asked part) before)
    (parts : List α) : Careful program (parts.mapM work) (.each work asked parts) before := by
  induction parts generalizing before with
  | nil => exact pure charted _
  | cons part rest ih =>
      rw [List.mapM_cons]
      have first := each part charted
      refine first.bind fun value middle ended => ?_
      exact (ih (first.keeps ended).charted).andQuiet fun _ => Leaves.pure _

theorem forM {work : α → Run PUnit} {asked : α → Questions} (charted : Charted program before)
    (each : ∀ part {before}, Charted program before → Careful program (work part) (asked part) before)
    (parts : List α) : Careful program (parts.forM work) (.each work asked parts) before := by
  induction parts generalizing before with
  | nil => exact pure charted _
  | cons part rest ih =>
      have first := each part charted
      exact first.bind fun _ middle ended => ih (first.keeps ended).charted

/-- A variable for an instance is declared below the program itself. -/
theorem planCompanion (tree : scope.program.IsTree) (charted : Charted scope.program before)
    (exportNode : Node) (variableName className : String) :
    Careful scope.program (Export.planCompanion scope exportNode variableName className)
      (Export.companionTrace Question.watch scope exportNode variableName className) before := by
  let declaration := Node.instanceDeclaration before.nextNode variableName className exportNode
  let drawn : Progress := { before with
    nextNode := before.nextNode + Node.instanceDeclarationSize
    links := before.links.setParent before.nextNode (some scope.program) }
  have kept : Keeps scope.program before drawn := Keeps.draw charted _ _
  have located : Located scope.program drawn declaration := by
    refine .below (Node.root_mem_places _) (Or.inl rfl) ?_ ?_ ?_
    · exact (Links.parentOf_setParent ..).trans (if_pos rfl)
    · exact fun place isPlace => Nat.ne_of_lt (charted.below place isPlace)
    · exact Nat.lt_add_of_pos_right (by decide)
  have built := fun tags => build tree kept.charted located scope unassignedId .moduleVariable tags
  refine ⟨fun ended => kept.trans ?_, (built []).answered⟩
  have first := ends_lift_bind.1 ended
  have linked := ends_lift_bind.1 first
  refine ((built _).andQuiet fun companion => ?_).keeps linked
  refine (Export.find?_leaves _ _).bind fun found => ?_
  split <;> exact Leaves.pure _

theorem planInstance (tree : scope.program.IsTree) (charted : Charted scope.program before)
    (exportNode : Node) (className variableName : String) :
    Careful scope.program (Export.planInstance scope exportNode className variableName)
      (Export.instanceTrace Question.watch scope exportNode className variableName) before := by
  have looked := quiet charted (@Export.find?_leaves scope _ _ .moduleClass className)
  refine looked.bind fun found middle ended => ?_
  have chartedToo := (looked.keeps ended).charted
  cases found with
  | none => exact pure chartedToo _
  | some doc =>
      exact (planCompanion tree chartedToo _ _ _).andQuiet fun _ => Leaves.pure _

theorem planDefault (tree : scope.program.IsTree) (charted : Charted scope.program before)
    (exportNode : Node) (declaration : Option Node) :
    Careful scope.program (Export.planDefault scope exportNode declaration)
      (Export.defaultTrace Question.watch scope exportNode declaration) before := by
  have other (action : StateM Progress Unit) (still : Still Progress.tables action) :
      Careful scope.program (liftM action >>= fun _ => (Pure.pure [] : Run (List Mutation))) .nothing
        before :=
    (quiet charted (Leaves.lift still)).andQuiet fun _ => Leaves.pure _
  unfold Export.planDefault Export.defaultTrace
  cases declaration with
  | none => exact other _ fun _ => rfl
  | some declared =>
      simp only [Option.map_some]
      cases shape : declared.shape with
      | construct callee arguments => exact planInstance tree charted _ _ _
      | identifier name =>
          have named (instances : List Mutation) : Leaves Progress.tables (do
              return instances ++ (← Export.planName scope name name) : Run (List Mutation)) :=
            (Export.planName_leaves _ _).bind fun _ => Leaves.pure _
          dsimp only
          cases scope.program.findInstance? name with
          | none => exact (pure charted _).andQuiet named
          | some instanced => exact (planInstance tree charted _ _ _).andQuiet named
      | _ => exact other _ fun _ => rfl

theorem planDeclarator (tree : scope.program.IsTree) (charted : Charted scope.program before)
    (exportNode declarator : Node) :
    Careful scope.program (Export.planDeclarator scope exportNode declarator)
      (Export.declaratorTrace Question.watch scope exportNode declarator) before := by
  unfold Export.planDeclarator Export.declaratorTrace
  cases declarator.initial?.bind Node.constructed? with
  | none => exact pure charted _
  | some callee =>
      have looked := quiet charted
        (@Export.find?_leaves scope _ _ .moduleClass (Node.calleeName callee))
      simp only [Option.elim_some]
      refine looked.bind fun found middle ended => ?_
      have chartedToo := (looked.keeps ended).charted
      split
      · exact pure chartedToo _
      · exact (planCompanion tree chartedToo _ _ _).andQuiet fun _ => Leaves.pure _

theorem plan (tree : scope.program.IsTree) (charted : Charted scope.program before)
    (exportNode : Node) :
    Careful scope.program (Export.plan scope exportNode) (Export.planTrace Question.watch scope exportNode)
      before := by
  unfold Export.plan Export.planTrace
  split
  · exact pure charted _
  · cases shape : exportNode.shape with
    | exportDefault declaration => exact planDefault tree charted _ _
    | exportNamed declaration specifiers origin =>
        have planned := mapM charted fun declarator {_} chartedToo =>
          planDeclarator tree chartedToo exportNode declarator
        refine (planned _).andQuiet fun instances => ?_
        split
        · exact Leaves.pure _
        · exact (Leaves.mapM Export.planSpecifier_leaves _).bind fun _ => Leaves.pure _
    | _ => exact pure charted _

theorem applyOne_tables (mutation : Mutation) :
    Leaves Progress.tables (Export.applyOne scope mutation) := by
  have revised (change : Store → Store) : Leaves Progress.tables (modify fun progress =>
      { progress with store := change progress.store } : Run PUnit) := by
    intro before outcome after ended
    rcases ends_modify.1 ended with ⟨-, rfl⟩
    rfl
  cases mutation with
  | update id change => exact revised fun store => store.modify id change.apply
  | append id text => exact revised fun store => store.modify id (Doc.describeMore text)
  | insert doc =>
      have drawing : Leaves Progress.tables (liftM drawId : Run Int) := Leaves.lift fun _ => rfl
      exact drawing.bind fun id => (insert_tables scope _).bind fun _ => Leaves.pure _

theorem secondPass (tree : scope.program.IsTree) (charted : Charted scope.program before) :
    Careful scope.program (Module.secondPass scope) (Module.secondPassTrace Question.watch scope) before := by
  have resolved (exportNode : Node) {state : Progress} (chartedToo : Charted scope.program state) :
      Careful scope.program (Module.resolve scope exportNode) (Export.planTrace Question.watch scope exportNode)
        state := by
    refine guarded ((plan tree chartedToo exportNode).andQuiet fun mutations => ?_)
    exact Leaves.forM applyOne_tables mutations
  have emptied : Leaves Progress.tables (modify fun progress =>
      { progress with pending := [] } : Run PUnit) := by
    intro before outcome after ended
    rcases ends_modify.1 ended with ⟨-, rfl⟩
    rfl
  have looped := (forM charted resolved before.pending).andQuiet fun _ => emptied
  exact ⟨fun ended => looped.keeps ended, looped.answered⟩

/-! ## Whole runs -/

/-- Building the record of a file asks nothing. -/
theorem storeModule (charted : Charted program before) (scope : Scope) (id : Int)
    {category : Category} (asksNothing : category.asks = false) :
    Careful program (Module.storeModule scope category id)
      (Question.watch.record scope id category scope.program []) before := by
  have asked : Question.watch.record scope id category scope.program [] = .nothing := by
    funext state
    simp [Question.watch, buildQuestions, asksNothing, Trace.nothing]
  rw [Module.storeModule_eq, asked]
  have built := build_tables scope id category scope.program []
  exact quiet charted ((built.bind fun doc => insert_tables scope doc).bind fun _ => Leaves.pure _)

theorem prepare (tree : scope.program.IsTree) (charted : Charted scope.program before) :
    Careful scope.program (Module.prepare scope) (Module.prepareTrace Question.watch scope)
      before := by
  have asksNothing : (if scope.code.isSome then Category.memory else .file).asks = false := by
    split <;> rfl
  have drawn := quiet charted (Leaves.lift fun _ => rfl : Leaves Progress.tables (liftM drawId))
  unfold Module.prepare Module.opening Module.prepareTrace
  refine drawn.bind fun id first ended => ?_
  have stored := storeModule (drawn.keeps ended).charted (Module.within scope id) id asksNothing
  refine stored.bind fun _ second ended => ?_
  have inner := @documentInner second (Module.within scope id) tree (stored.keeps ended).charted
  exact inner.andQuiet fun _ => Leaves.pure _

theorem generate (tree : scope.program.IsTree) (charted : Charted scope.program before) :
    Careful scope.program (Module.generate scope) (Module.generateQuestions scope) before := by
  rw [Module.generate_eq_prepare]
  have opened := prepare tree charted
  refine opened.bind fun id middle ended => ?_
  have walked := @firstPass middle (Module.within scope id) tree (opened.keeps ended).charted
  refine walked.bind fun _ later ended => ?_
  have resolved := @secondPass later (Module.within scope id) tree (walked.keeps ended).charted
  have said (text : String) : Leaves Progress.tables (liftM (say .info text) : Run Unit) :=
    Leaves.lift fun _ => rfl
  exact resolved.andQuiet fun _ => (said _).bind fun _ => Leaves.pure _

end Run.Careful

namespace Module

/--
In a program that is a tree, whatever is asked about the nodes above a node while the program is
documented is answered from the program, whether faults are noted or end the work. Nothing else is read
from the table of parents: every decision and every record depends on it through the parent of its node
and the answers to its questions alone.
-/
theorem questions_answered {scope : Scope} {nextNode : NodeId} (tree : scope.program.IsTree)
    (below : scope.program.Below nextNode) (store : Store) :
    (∀ question ∈ generateQuestions scope (Program.start ⟨scope.program, nextNode⟩ store),
      question.IsAnswered scope.program) ∧
    (∀ id tags node, (Decision.questions tags node).Suffice node fun state =>
      ((Decision.decide (within scope id) tags node).run state).1) ∧
    ∀ id recordId category node tags,
      (buildQuestions (within scope id) category node).Suffice node fun state =>
        ((Run.build (within scope id) recordId category node tags).run.run state).1 := by
  refine ⟨(Careful.generate tree (charted_start below store)).answered, ?_, ?_⟩
  · exact fun id tags node => Decision.questions_suffice (within scope id) tags node
  · intro id recordId category node tags
    exact buildQuestions_suffice (within scope id) recordId category node tags

/-- An exported variable that holds a function, with a comment of its own and one that defines a type. -/
def functionScope : Scope where
  program :=
    let function : Node := .mk { id := 5 } (.arrow [] none false false)
    let declarator : Node :=
      .mk { id := 3 } (.declarator (some (.mk { id := 4 } (.identifier "make"))) (some function))
    let leading : List Comment := [⟨.block, "* @typedef Size ", none⟩, ⟨.block, "* Makes. ", none⟩]
    .mk { id := 0 } (.program [.mk { id := 1, leading } (.exportNamed
      (some (.mk { id := 2 } (.variables "const" [declarator]))) [] none)] [])
  filePath := "make.js"

/-- A virtual node below the export and the function are asked about; the declarator is left out. -/
theorem function_questions_answered :
    let asked := generateQuestions functionScope (Program.start ⟨functionScope.program, 6⟩ {})
    (asked.map fun question => (question.node.id, question.answer.map Node.id)) =
        [(6, [1, 0]), (5, [2, 1, 0])] ∧
      ∀ question ∈ asked, question.IsAnswered functionScope.program := by
  have tree : functionScope.program.IsTree := by decide +kernel
  have below : functionScope.program.Below 6 := by decide +kernel
  exact ⟨by decide +kernel, (questions_answered tree below {}).1⟩

end Module

end DocHarvest
