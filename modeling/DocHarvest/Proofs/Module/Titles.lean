import DocHarvest.Proofs.Comment.Layout
import DocHarvest.Proofs.Module.Suites

/-!
# Titles of test blocks

A test block without a description is described by its title. A comment that holds nothing but tags
leaves the title where it is only if the first tag stands beside the marks that open the comment:
otherwise the comment has an empty description, and an empty description is one.
-/

namespace DocHarvest

open Run

variable {scope : Scope}

/-- The title of a test block: the text that its call has as the first argument. -/
def Node.HasTitle (statement : Node) (title : String) : Prop :=
  ∃ call callee first rest, Module.blockCall? statement = some call ∧
    call.shape = .call callee (first :: rest) ∧ first.literal? = some (.text title)

/-- The comment that documents a statement: the last documentation comment before it. -/
def Node.docComment? (statement : Node) : Option Comment :=
  (statement.leading.filter Comment.isDoc).getLast?

/-- A record of a test block that is described by its title, or not at all. -/
structure Place.DescribedBy (block : Place) (doc : Doc) : Prop where
  category : doc.category = .test
  line : doc.line = (Module.blockCall? block.node).bind Node.line?
  uncommented : ∀ title, block.node.HasTitle title → block.node.docComment? = none →
    doc.description = some title
  commented : ∀ title comment above, block.node.HasTitle title →
    block.node.docComment? = some comment → comment.HoldsTags above →
    doc.description = some (if above = 0 then title else "")

theorem Comment.docTags_eq (statement : Node) :
    Comment.docTags statement.leading = (statement.docComment?.map Comment.tags).getD [] := by
  unfold Comment.docTags Comment.lastTags Node.docComment?
  split
  · next isLast => rw [isLast, Option.map_some, Option.getD_some]
  · next nothing => rw [nothing, Option.map_none, Option.getD_none]

theorem Draft.blockTitle?_eq {call : Node} {callee : Option Node} {first : Node} {rest : List Node}
    {title : String} (shape : call.shape = .call callee (first :: rest))
    (isText : first.literal? = some (.text title)) : Draft.blockTitle? call = some title := by
  simp [Draft.blockTitle?, shape, isText]

/-- The description of a block is that of its tags, or else its title. -/
theorem Draft.description_of_test {draft : Draft} {doc : Doc}
    (built : draft.build .test = .ok doc) : doc.category = .test ∧ doc.line = draft.node.line? ∧
      doc.description = (draft.value? "@desc").or (Draft.blockTitle? draft.node) := by
  rw [Draft.build, testBlock] at built
  cases found : blockKind draft.node with
  | error fault =>
      rw [found] at built
      cases built
  | ok kind =>
      rw [found] at built
      cases built
      exact ⟨rfl, rfl, rfl⟩

theorem Draft.describedBy {links : Links} {id : Int} {block : Place} {call : Node} {doc : Doc}
    (calls : Module.blockCall? block.node = some call)
    (built : Draft.build ⟨scope, links, id, call, Comment.docTags block.node.leading⟩ .test =
      .ok doc) : block.DescribedBy doc := by
  rcases Draft.description_of_test built with ⟨category, line, description⟩
  have titled {title : String} (hasTitle : block.node.HasTitle title) :
      Draft.blockTitle? call = some title := by
    rcases hasTitle with ⟨other, callee, first, rest, same, shape, isText⟩
    rw [calls, Option.some.injEq] at same
    exact Draft.blockTitle?_eq (same ▸ shape) isText
  simp only [Draft.value?, Comment.docTags_eq] at description
  constructor
  · exact category
  · rw [line, calls]
    rfl
  · intro title hasTitle noComment
    rw [description, titled hasTitle, noComment]
    rfl
  · intro title comment above hasTitle isComment holds
    rw [description, titled hasTitle, isComment]
    simp only [Option.map_some, Option.getD_some, Comment.lastValue?_desc_of_holdsTags holds]
    split <;> rfl

/-! ## The walk -/

namespace Module

variable {base : List Doc} {done rest recorded : List Place} {place : Place} {well : Prop}
  {start state after : Progress} {tests : List Doc}

/-- How the visit of a place on the walk through a file of tests ends. -/
inductive TestPush (scope : Scope) (place : Place) (state : Progress) :
    Except Fault Unit → Progress → Prop
  | again (visited : state.visited.contains place.node.id) :
      TestPush scope place state (.ok ()) state
  | plain (isNew : state.visited.contains place.node.id = false)
      (noBlock : blockCall? place.node = none) :
      TestPush scope place state (.ok ()) (visiting state place.node place.above.head?)
  | told {call : Node} {doc : Doc} (messages : List Message)
      (isNew : state.visited.contains place.node.id = false)
      (calls : blockCall? place.node = some call)
      (made : Draft.build ⟨scope, (naming state place call).links, state.store.nextId, call,
        Comment.docTags place.node.leading⟩ .test = .ok doc) :
      TestPush scope place state (.ok ()) { naming state place call with
        messages
        store := ⟨state.store.docs ++ [doc], state.store.nextId + 1⟩ }
  | lost {call : Node} {outcome : Except Fault Unit} {after : Progress}
      (isNew : state.visited.contains place.node.id = false)
      (calls : blockCall? place.node = some call)
      (docs : after.store.docs = state.store.docs)
      (invalid : after.invalid = state.invalid)
      (reason : scope.filter = none → ∃ fault, outcome = .error fault) :
      TestPush scope place state outcome after

theorem testPush_of_ends {outcome : Except Fault Unit}
    (ended : Ends (pushTest scope place.node place.above.head?) state outcome after) :
    TestPush scope place state outcome after := by
  have started := ends_lift_bind.1 ended
  change Ends (if state.visited.contains place.node.id then _ else _) state outcome after at started
  cases visited : state.visited.contains place.node.id with
  | true =>
      rw [visited, if_pos rfl] at started
      rcases ends_pure.1 started with ⟨rfl, rfl⟩
      exact .again visited
  | false =>
      rw [visited, if_neg Bool.false_ne_true] at started
      have marked := ends_lift_bind.1 started
      have reached := ends_lift_bind.1 marked
      cases calls : blockCall? place.node with
      | none =>
          rw [calls] at reached
          rcases ends_pure.1 reached with ⟨rfl, rfl⟩
          exact .plain visited calls
      | some call =>
          rw [calls] at reached
          have markedCall := ends_lift_bind.1 reached
          have placedCall := ends_lift_bind.1 markedCall
          have named := ends_lift_bind.1 placedCall
          have drawn := ends_lift_bind.1 named
          rcases ends_record drawn with
            ⟨added, messages, rfl, ⟨doc, rfl, rfl, made⟩ | ⟨rfl, reason⟩⟩
          · exact .told messages visited calls made
          · exact .lost visited calls (List.append_nil _) rfl reason

/--
What the walk has stored once it has passed some places: records of test blocks among them, at most
one for each and in order, and one for each if all has gone well.
-/
structure Titled (scope : Scope) (base : List Doc) (done : List Place) (well : Prop)
    (state : Progress) (recorded : List Place) (tests : List Doc) : Prop where
  areBlocks : recorded.Sublist (done.filter Place.isBlock)
  docs : state.store.docs = base ++ tests
  described : List.Forall₂ Place.DescribedBy recorded tests
  complete : scope.program.IsTree → scope.filter = none → well → state.invalid = [] →
    Mapped scope.program done state ∧ recorded = done.filter Place.isBlock

namespace Titled

theorem mono (titled : Titled scope base done well state recorded tests) {others : Prop}
    (implies : others → well) : Titled scope base done others state recorded tests :=
  ⟨titled.areBlocks, titled.docs, titled.described,
    fun tree unfiltered isWell => titled.complete tree unfiltered (implies isWell)⟩

/-- Where not all has gone well, what has been stored is all there is to say. -/
theorem weaken (titled : Titled scope base done well state recorded tests) {others : List Place}
    {wellToo : Prop} (longer : done.Sublist others) (docs : after.store.docs = state.store.docs)
    (unwell : scope.filter = none → wellToo → after.invalid ≠ []) :
    Titled scope base others wellToo after recorded tests where
  areBlocks := titled.areBlocks.trans (longer.filter Place.isBlock)
  docs := docs.trans titled.docs
  described := titled.described
  complete _ unfiltered isWell nothing := absurd nothing (unwell unfiltered isWell)

/-- At a place that is no block nothing is stored. -/
theorem pass (titled : Titled scope base done True state recorded tests)
    (docs : after.store.docs = state.store.docs) (invalid : after.invalid = state.invalid)
    (mapped : scope.program.IsTree → Mapped scope.program done state →
      place.isBlock = false ∧ Mapped scope.program (done ++ [place]) after) :
    Titled scope base (done ++ [place]) well after recorded tests where
  areBlocks := by
    rw [List.filter_append]
    exact titled.areBlocks.trans (List.sublist_append_left _ _)
  docs := docs.trans titled.docs
  described := titled.described
  complete tree unfiltered _ nothing := by
    rcases titled.complete tree unfiltered trivial (invalid ▸ nothing) with ⟨before, all⟩
    rcases mapped tree before with ⟨noBlock, mappedToo⟩
    exact ⟨mappedToo, by simp [all, noBlock]⟩

/-- At a block its record is stored. -/
theorem tell (titled : Titled scope base done True state recorded tests) {call : Node} {doc : Doc}
    (calls : blockCall? place.node = some call) (described : place.DescribedBy doc)
    (docs : after.store.docs = state.store.docs ++ [doc]) (invalid : after.invalid = state.invalid)
    (mapped : scope.program.IsTree → Mapped scope.program done state →
      Mapped scope.program (done ++ [place]) after) :
    Titled scope base (done ++ [place]) well after (recorded ++ [place]) (tests ++ [doc]) := by
  have isBlock : place.isBlock := by
    rw [Place.isBlock, calls]
    rfl
  have blocks : (done ++ [place]).filter Place.isBlock = done.filter Place.isBlock ++ [place] := by
    simp [isBlock]
  constructor
  · rw [blocks]
    exact titled.areBlocks.append_right [place]
  · rw [docs, titled.docs, List.append_assoc]
  · exact List.rel_append titled.described (.cons described .nil)
  · intro tree unfiltered _ nothing
    rcases titled.complete tree unfiltered trivial (invalid ▸ nothing) with ⟨before, all⟩
    exact ⟨mapped tree before, by rw [all, blocks]⟩

theorem push (titled : Titled scope base done True state recorded tests)
    (whole : scope.program.places = done ++ place :: rest) {outcome : Except Fault Unit}
    (pushed : TestPush scope place state outcome after) :
    ∃ more others, Titled scope base (done ++ [place]) (∃ value, outcome = .ok value) after
      (recorded ++ more) (tests ++ others) := by
  have isPlace : place ∈ scope.program.places := by simp [whole]
  cases pushed with
  | again visited =>
      refine ⟨[], [], ?_⟩
      rw [List.append_nil, List.append_nil]
      refine titled.pass rfl rfl fun tree mapped => ?_
      have isNew := tree.not_mem_of_places_eq whole
      have met := (mapped.visited place isPlace).1 visited
      exact ⟨met.isBlock_eq_false isNew, mapped.revisit isNew met⟩
  | plain isNew noBlock =>
      refine ⟨[], [], ?_⟩
      rw [List.append_nil, List.append_nil]
      refine titled.pass rfl rfl fun tree mapped => ?_
      have noCall : place.call? = none := by simp [Place.call?, noBlock]
      exact ⟨by simp [Place.isBlock, noBlock], mapped.visit tree isPlace noCall⟩
  | @told call doc messages isNew calls made =>
      refine ⟨[place], [doc], titled.tell calls (Draft.describedBy calls made) rfl rfl
        fun tree mapped => ?_⟩
      have called : place.call? = some ⟨call, place.node :: place.above⟩ :=
        Place.call?_eq_some.2 ⟨calls, rfl⟩
      have named := mapped.name tree whole called
      exact ⟨named.visited, named.parents, named.named, named.unnamed, named.blocks⟩
  | lost isNew calls docs invalid reason =>
      refine ⟨[], [], ?_⟩
      rw [List.append_nil, List.append_nil]
      apply titled.weaken (List.sublist_append_left done [place]) docs
      rintro unfiltered ⟨value, rfl⟩
      rcases reason unfiltered with ⟨fault, impossible⟩
      cases impossible

/-- A fault that is noted counts as none, but then not all has gone well. -/
theorem step (titled : Titled scope base done True state recorded tests)
    (whole : scope.program.places = done ++ place :: rest) {outcome : Except Fault Node.Descent}
    (ended : Ends (enterTest scope place.node place.above.head?) state outcome after) :
    ∃ more others, Titled scope base (done ++ [place]) (∃ value, outcome = .ok value) after
      (recorded ++ more) (tests ++ others) := by
  rcases ends_guarded ended with ran | ⟨fault, middle, entry, messages, ran, rfl, -, rfl⟩
  · rcases ends_bind.1 ran with ⟨_, middle, pushed, rested⟩ | ⟨fault, failed, rfl⟩
    · rcases ends_pure.1 rested with ⟨rfl, rfl⟩
      rcases titled.push whole (testPush_of_ends pushed) with ⟨more, others, told⟩
      exact ⟨more, others, told.mono fun _ => ⟨(), rfl⟩⟩
    · rcases titled.push whole (testPush_of_ends failed) with ⟨more, others, told⟩
      exact ⟨more, others, told.mono (by simp)⟩
  · have failed : Ends (pushTest scope place.node place.above.head?) state (.error fault)
        middle := by
      rcases ends_bind.1 ran with ⟨_, other, -, rested⟩ | ⟨other, failed, same⟩
      · cases (ends_pure.1 rested).1
      · cases same
        exact failed
    rcases titled.push whole (testPush_of_ends failed) with ⟨more, others, told⟩
    refine ⟨more, others, told.weaken (List.Sublist.refl _) rfl fun _ _ nothing => ?_⟩
    simp at nothing

theorem run (titled : Titled scope base done True state recorded tests)
    (whole : scope.program.places = done ++ rest) {outcome : Except Fault Unit}
    (looped : Ends (rest.forM fun place => enterTest scope place.node place.above.head? >>=
      fun _ => pure ()) state outcome after) :
    ∃ more others, Titled scope base scope.program.places (∃ value, outcome = .ok value) after
      (recorded ++ more) (tests ++ others) := by
  induction rest generalizing done state recorded tests with
  | nil =>
      rcases ends_forM_nil.1 looped with ⟨rfl, rfl⟩
      rw [List.append_nil] at whole
      refine ⟨[], [], ?_⟩
      rw [List.append_nil, List.append_nil, whole]
      exact titled.mono fun _ => trivial
  | cons place rest ih =>
      have wholeToo : scope.program.places = (done ++ [place]) ++ rest := by simp [whole]
      rw [forM_cons] at looped
      rcases ends_bind.1 looped with ⟨_, middle, visited, later⟩ | ⟨fault, failed, rfl⟩
      · rcases ends_bind_ok.1 visited with ⟨descent, last, entered, rested⟩
        rcases ends_pure.1 rested with ⟨-, rfl⟩
        rcases titled.step whole entered with ⟨more, others, told⟩
        rcases ih (told.mono fun _ => ⟨descent, rfl⟩) wholeToo later with
          ⟨moreToo, othersToo, toldToo⟩
        exact ⟨more ++ moreToo, others ++ othersToo, by simpa using toldToo⟩
      · rcases ends_bind.1 failed with ⟨descent, last, -, rested⟩ | ⟨fault', failed, same⟩
        · cases (ends_pure.1 rested).1
        · cases same
          rcases titled.step whole failed with ⟨more, others, told⟩
          refine ⟨more, others, told.weaken ?_ rfl (by simp)⟩
          rw [wholeToo]
          exact List.sublist_append_left _ _

end Titled

/-! ## Whole files of tests -/

/-- What is stored first is the record of the file, if anything. -/
theorem category_of_storeTests {id : Int} {outcome : Except Fault Unit}
    (ended : Ends (storeModule scope .testFile id) state outcome after) :
    ∃ opened messages, after = { state with
        messages
        store := { state.store with docs := state.store.docs ++ opened } } ∧
      ∀ doc ∈ opened, doc.category = .testFile := by
  rcases ends_record ended with ⟨added, messages, rfl, ⟨doc, rfl, -, made⟩ | ⟨rfl, -⟩⟩
  · refine ⟨[doc], messages, rfl, ?_⟩
    rcases (Draft.build_heads made).category with same | ⟨impossible, -⟩
    · simpa using same
    · cases impossible
  · exact ⟨[], messages, rfl, by simp⟩

/-- What is done for a file of tests after its record tells the titles of its blocks. -/
theorem titled_of_testPass {id : Int} {outcome : Except Fault Int}
    (mapped : Mapped scope.program [] state)
    (ended : Ends (testPass scope id) state outcome after) :
    ∃ recorded tests, Titled (within scope id) state.store.docs scope.program.places
      (∃ value, outcome = .ok value) after recorded tests := by
  have begun : Titled (within scope id) state.store.docs [] True state [] [] :=
    ⟨List.Sublist.refl _, by simp, .nil, fun _ _ _ _ => ⟨mapped, rfl⟩⟩
  rcases ends_bind.1 ended with ⟨_, walked, walking, rested⟩ | ⟨fault, failed, rfl⟩
  · rcases begun.run rfl (ends_looped walking) with ⟨recorded, tests, titled⟩
    have said := ends_lift_bind.1 rested
    rcases ends_pure.1 said with ⟨rfl, rfl⟩
    refine ⟨recorded, tests, titled.areBlocks, titled.docs, titled.described, ?_⟩
    intro tree unfiltered _ nothing
    rcases titled.complete tree unfiltered ⟨(), rfl⟩ nothing with ⟨finished, all⟩
    refine ⟨⟨finished.visited, finished.parents, finished.named, finished.unnamed, ?_⟩, all⟩
    exact finished.blocks
  · rcases begun.run rfl (ends_looped failed) with ⟨recorded, tests, titled⟩
    exact ⟨recorded, tests, titled.mono (by simp)⟩

/--
The descriptions of test blocks, by the layout of their comments. However a run on a file of tests
ends, it stores at most the record of the file and records of test blocks, of all of them if nothing
goes wrong. A block with a title is described by it if no comment documents the block, or one that
holds nothing but tags of which the first stands beside the marks. If the first tag stands on a
later line, the description is empty.
-/
theorem titles_by_layout (scope : Scope) {store : Store} {nextNode : NodeId}
    {outcome : Except Fault Int}
    (ended : Ends (generateTests scope) (Program.start ⟨scope.program, nextNode⟩ store) outcome
      after) :
    ∃ opened recorded tests,
      after.store.docs = store.docs ++ (opened ++ tests) ∧
      (∀ doc ∈ opened, doc.category = .testFile) ∧
      recorded.Sublist scope.program.blocks ∧
      List.Forall₂ Place.DescribedBy recorded tests ∧
      (scope.program.IsTree → scope.filter = none → (∃ id, outcome = .ok id) → after.invalid = [] →
        recorded = scope.program.blocks) := by
  let start := Program.start ⟨scope.program, nextNode⟩ store
  have drawn : Ends (storeModule (within scope store.nextId) .testFile store.nextId >>= fun _ =>
      testPass scope store.nextId) { start with store := store.draw.2 } outcome after :=
    ends_lift_bind.1 ended
  rcases ends_bind.1 drawn with ⟨_, prepared, storing, rested⟩ | ⟨fault, failed, rfl⟩
  · rcases category_of_storeTests storing with ⟨opened, messages, rfl, isFile⟩
    rcases titled_of_testPass (.start rfl rfl rfl) rested with ⟨recorded, tests, titled⟩
    refine ⟨opened, recorded, tests, ?_, isFile, titled.areBlocks, titled.described, ?_⟩
    · rw [titled.docs, ← List.append_assoc]
      rfl
    · intro tree unfiltered well nothing
      exact (titled.complete tree unfiltered well nothing).2
  · rcases category_of_storeTests failed with ⟨opened, messages, rfl, isFile⟩
    refine ⟨opened, [], [], ?_, isFile, List.nil_sublist _, .nil, by simp⟩
    rw [List.append_nil]
    rfl

/-- A group of tests with a title and a comment, as a statement. -/
def titledStatement (comment : Comment) : Node :=
  let callee : Node := .mk { id := 3 } (.identifier "describe")
  let title : Node := .mk { id := 4 } (.literal (.text "Foo") .string)
  .mk { id := 1, leading := [comment] } (.expressionStatement (some
    (.mk { id := 2 } (.call (some callee) [title]))))

/-- A file of tests in memory with such a group. -/
def titledSuite (comment : Comment) : Scope where
  program := .mk { id := 0 } (.program [titledStatement comment] [])
  filePath := "foo.js"
  code := some "describe('Foo');"

theorem hasTitle_titledStatement (comment : Comment) : (titledStatement comment).HasTitle "Foo" :=
  ⟨_, _, _, _, rfl, rfl, rfl⟩

theorem places_titledSuite (comment : Comment) :
    (titledSuite comment).program.places.map (fun place => place.node.id) = [0, 1, 2, 3, 4] := by
  simp [titledSuite, titledStatement, Node.places, Place.reach_of_all, Place.parts, Node.children,
    Node.shape, Shape.children, Node.id, Node.info]

theorem blocks_titledSuite (comment : Comment) :
    (titledSuite comment).program.blocks =
      [⟨titledStatement comment, [(titledSuite comment).program]⟩] := by
  simp [titledSuite, titledStatement, Node.blocks, Node.places, Place.reach_of_all, Place.parts,
    Node.children, Node.shape, Shape.children, Place.isBlock, blockCall?, Draft.blockFunction,
    Draft.groupFunctions, Node.identifier?]

/-- A tag beside the marks of its comment. -/
def besideMarks : Comment := { kind := .block, text := "* @test {Foo} " }

/-- The same tag on a line of its own. -/
def belowMarks : Comment := { kind := .block, text := "*\n * @test {Foo}\n " }

theorem holdsTags_besideMarks : besideMarks.HoldsTags 0 where
  shape := ⟨["@test {Foo}".toList], by decide +kernel, by decide +kernel⟩
  flush := by decide +kernel
  uncut := by decide +kernel
  others := by decide +kernel

theorem holdsTags_belowMarks : belowMarks.HoldsTags 1 where
  shape := ⟨["@test {Foo}".toList, []], by decide +kernel, by decide +kernel⟩
  flush := by decide +kernel
  uncut := by decide +kernel
  others := by decide +kernel

/-- Where the run on such a file ends. -/
def titledEnd (comment : Comment) : Progress :=
  testEndOf (titledSuite comment) {}

/--
Beside the marks of its comment a tag leaves the title where it is, and below them it does not.
-/
theorem foo_suite_described :
    (∃ file test, Ends (generateTests (titledSuite besideMarks))
        (Program.start ⟨(titledSuite besideMarks).program, 16⟩ {}) (.ok 0) (titledEnd besideMarks) ∧
      (titledEnd besideMarks).store.docs = file ++ [test] ∧ test.description = some "Foo") ∧
    ∃ file test, Ends (generateTests (titledSuite belowMarks))
        (Program.start ⟨(titledSuite belowMarks).program, 16⟩ {}) (.ok 0) (titledEnd belowMarks) ∧
      (titledEnd belowMarks).store.docs = file ++ [test] ∧ test.description = some "" := by
  have described {comment : Comment} {above : Nat} (holds : comment.HoldsTags above)
      (documents : (titledStatement comment).docComment? = some comment)
      (nothing : (titledEnd comment).invalid = [])
      (ended : Ends (generateTests (titledSuite comment))
        (Program.start ⟨(titledSuite comment).program, 16⟩ {}) (.ok 0) (titledEnd comment)) :
      ∃ file test, (titledEnd comment).store.docs = file ++ [test] ∧
        test.description = some (if above = 0 then "Foo" else "") := by
    have tree : (titledSuite comment).program.IsTree := by
      rw [Node.IsTree, places_titledSuite]
      decide
    rcases titles_by_layout (titledSuite comment) ended with
      ⟨file, recorded, tests, docs, -, -, pairs, all⟩
    rw [all tree rfl ⟨0, rfl⟩ nothing, blocks_titledSuite, List.forall₂_cons_left_iff] at pairs
    rcases pairs with ⟨test, later, told, others, rfl⟩
    rw [List.forall₂_nil_left_iff.1 others] at docs
    exact ⟨file, test, docs, told.commented "Foo" comment above
      (hasTitle_titledStatement comment) documents holds⟩
  have beside : Ends (generateTests (titledSuite besideMarks))
      (Program.start ⟨(titledSuite besideMarks).program, 16⟩ {}) (.ok 0) (titledEnd besideMarks) :=
    Prod.ext (by decide +kernel) rfl
  have below : Ends (generateTests (titledSuite belowMarks))
      (Program.start ⟨(titledSuite belowMarks).program, 16⟩ {}) (.ok 0) (titledEnd belowMarks) :=
    Prod.ext (by decide +kernel) rfl
  rcases described holdsTags_besideMarks (by decide +kernel) (by decide +kernel) beside with
    ⟨file, test, docs, description⟩
  rcases described holdsTags_belowMarks (by decide +kernel) (by decide +kernel) below with
    ⟨fileToo, testToo, docsToo, descriptionToo⟩
  exact ⟨⟨file, test, beside, docs, description⟩, fileToo, testToo, below, docsToo, descriptionToo⟩

/-- A group with a title is described by an empty text if its only tag stands below the marks. -/
theorem title_lost_below_marks :
    (titledStatement belowMarks).HasTitle "Foo" ∧
    (titledStatement belowMarks).docComment? = some belowMarks ∧ belowMarks.HoldsTags 1 ∧
    belowMarks.tags = [⟨"@desc", ""⟩, ⟨"@test", "{Foo}"⟩] ∧
    besideMarks.tags = [⟨"@test", "{Foo}"⟩] ∧
    (titledEnd belowMarks).store.docs.map Doc.description = [none, some ""] ∧
    (titledEnd besideMarks).store.docs.map Doc.description = [none, some "Foo"] :=
  ⟨hasTitle_titledStatement belowMarks, by decide +kernel, holdsTags_belowMarks, by decide +kernel⟩

end Module

end DocHarvest
