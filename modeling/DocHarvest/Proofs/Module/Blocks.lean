import DocHarvest.Module.Generate
import DocHarvest.Proofs.Node.Tree
import DocHarvest.Proofs.Text.Joining
import DocHarvest.Proofs.Value.Numbers

/-!
# Test blocks

A test block is a statement that calls one of a few functions. The blocks around a block are those
among the statements around it, and a block is named after its function and its number in the order of
the walk. Names have no marks in them that join names, so the name of a block can be read off the
longname that it has with the blocks around it, and different blocks have different longnames.
-/

namespace DocHarvest

namespace Module

/-- A test block is a call of one of the functions of tests, as a statement of its own. -/
theorem blockCall?_eq_some {node call : Node} :
    blockCall? node = some call ↔ node.shape = .expressionStatement (some call) ∧
      Draft.blockFunction call ∈ Draft.groupFunctions ++ Draft.caseFunctions := by
  unfold blockCall?
  split
  · rename_i expression shape
    rw [shape]
    simp only [Bool.or_eq_true, List.contains_iff_mem, ← List.mem_append]
    split
    · rename_i isFunction
      simp only [Option.some.injEq, Shape.expressionStatement.injEq]
      constructor
      · rintro rfl
        exact ⟨rfl, isFunction⟩
      · exact And.left
    · rename_i noFunction
      simp only [reduceCtorEq, Option.some.injEq, Shape.expressionStatement.injEq, false_iff,
        not_and]
      rintro rfl
      exact noFunction
  · rename_i noStatement
    simp only [reduceCtorEq, false_iff, not_and]
    exact fun shape => absurd shape (noStatement call)

/-- What is called is an identifier. -/
theorem blockFunction_eq_of_mem {call : Node}
    (isFunction : Draft.blockFunction call ∈ Draft.groupFunctions ++ Draft.caseFunctions) :
    ∃ callee arguments, call.shape = .call (some callee) arguments ∧
      callee.identifier? = some (Draft.blockFunction call) := by
  have notEmpty : Draft.blockFunction call ≠ "" := by
    intro same
    rw [same] at isFunction
    revert isFunction
    decide
  unfold Draft.blockFunction at notEmpty ⊢
  split at notEmpty
  · rename_i callee arguments shape
    cases callee with
    | none => exact absurd rfl notEmpty
    | some callee =>
        cases named : callee.identifier? with
        | none => simp [named] at notEmpty
        | some function => exact ⟨callee, arguments, shape, by simp [named]⟩
  · exact absurd rfl notEmpty

end Module

namespace Place

/-- Whether a place is a test block. -/
def isBlock (place : Place) : Bool :=
  (Module.blockCall? place.node).isSome

/-- The test blocks around a place, nearest first. -/
def enclosing (place : Place) : List Place :=
  (outers place.above).filter isBlock

/-- The call that a test block consists of, as a place of its own. -/
def call? (place : Place) : Option Place :=
  (Module.blockCall? place.node).map fun call => ⟨call, place.node :: place.above⟩

theorem call?_eq_some {block call : Place} :
    block.call? = some call ↔
      Module.blockCall? block.node = some call.node ∧ call.above = block.node :: block.above := by
  rcases call with ⟨node, above⟩
  simp only [call?, Option.map_eq_some_iff, mk.injEq]
  constructor
  · rintro ⟨found, calls, rfl, rfl⟩
    exact ⟨calls, rfl⟩
  · rintro ⟨calls, rfl⟩
    exact ⟨node, calls, rfl, rfl⟩

theorem isBlock_of_call? {block call : Place} (calls : block.call? = some call) :
    block.isBlock := by
  rw [isBlock, (call?_eq_some.1 calls).1]
  rfl

theorem exists_call? {block : Place} (isBlock : block.isBlock) : ∃ call, block.call? = some call := by
  rcases Option.isSome_iff_exists.1 isBlock with ⟨call, found⟩
  exact ⟨⟨call, block.node :: block.above⟩, call?_eq_some.2 ⟨found, rfl⟩⟩

theorem call?_of_not_isBlock {place : Place} (noBlock : place.isBlock = false) :
    place.call? = none := by
  have nothing : Module.blockCall? place.node = none := by simpa [isBlock] using noBlock
  rw [call?, nothing]
  rfl

/-- A statement that is a test block has its call for its only part. -/
theorem parts_of_call? {block call : Place} (calls : block.call? = some call) :
    block.parts = [call] := by
  rcases call with ⟨node, above⟩
  rcases call?_eq_some.1 calls with ⟨found, rfl⟩
  have shape := (Module.blockCall?_eq_some.1 found).1
  simp [parts, Node.children, shape, Shape.children]

/-- The call of a block belongs to this block only. -/
theorem call?_inj {block other call : Place} (calls : block.call? = some call)
    (callsToo : other.call? = some call) : block = other := by
  rcases block with ⟨node, above⟩
  rcases other with ⟨nodeToo, aboveToo⟩
  have same := (call?_eq_some.1 calls).2.symm.trans (call?_eq_some.1 callsToo).2
  simpa using same

/-- A place of a rooted list is a part of one that is known or comes before it. -/
theorem Rooted.outer_of_append {enters : Node → Bool} {known before rest : List Place}
    {place : Place} (rooted : Rooted enters known (before ++ place :: rest)) :
    ∃ outer ∈ known ++ before, place ∈ outer.parts := by
  induction before generalizing known with
  | nil =>
      rcases rooted.1 with ⟨outer, isKnown, -, isPart⟩
      exact ⟨outer, by simpa using isKnown, isPart⟩
  | cons first before ih =>
      rcases ih rooted.2 with ⟨outer, isOuter, isPart⟩
      exact ⟨outer, by simpa using isOuter, isPart⟩

end Place

namespace Node

variable {program : Node} {block other call : Place}

/-- The test blocks of a program, in the order of the walk. -/
def blocks (program : Node) : List Place :=
  program.places.filter Place.isBlock

/-- The number of a test block in the order of the walk. -/
def blockNumber (program : Node) (block : Place) : Nat :=
  program.blocks.findIdx fun other => other.node.id == block.node.id

/-- The function that a test block calls. -/
def blockFunction (block : Place) : String :=
  ((Module.blockCall? block.node).map Draft.blockFunction).getD ""

/-- The name of a test block: its function and its number. -/
def blockName (program : Node) (block : Place) : String :=
  blockFunction block ++ Value.integerText (program.blockNumber block)

theorem mem_blocks : block ∈ program.blocks ↔ block ∈ program.places ∧ block.isBlock :=
  List.mem_filter

theorem call_mem_places (isPlace : block ∈ program.places) (calls : block.call? = some call) :
    call ∈ program.places := by
  refine parts_mem_places isPlace ?_
  rw [Place.parts_of_call? calls]
  exact List.mem_singleton_self call

theorem enclosing_subset_blocks (isPlace : block ∈ program.places) :
    block.enclosing ⊆ program.blocks := by
  intro outer isOuter
  rcases List.mem_filter.1 isOuter with ⟨isAround, isBlock⟩
  exact mem_blocks.2 ⟨Place.outers_subset_places isPlace isAround, isBlock⟩

/-- In the order of the walk a place comes after everything around it. -/
theorem outers_subset_of_places_eq {done rest : List Place} {place : Place}
    (whole : program.places = done ++ place :: rest) : Place.outers place.above ⊆ done := by
  induction same : done.length using Nat.strongRecOn generalizing done rest place with
  | ind size ih =>
      rcases Place.Rooted.exists_reach (fun _ => true) ⟨program, []⟩ with ⟨later, reached, rooted⟩
      have listed : (⟨program, []⟩ : Place) :: later = done ++ place :: rest := reached.symm.trans whole
      cases done with
      | nil =>
          rcases List.cons.inj listed with ⟨rfl, -⟩
          exact List.nil_subset _
      | cons first done =>
          rcases List.cons.inj listed with ⟨rfl, following⟩
          rw [following] at rooted
          rcases rooted.outer_of_append with ⟨outer, isDone, isPart⟩
          rcases List.append_of_mem isDone with ⟨before, after, found⟩
          have split : (⟨program, []⟩ : Place) :: done = before ++ outer :: after := found
          have earlier : program.places = before ++ outer :: (after ++ place :: rest) := by
            rw [whole, split]
            simp
          have shorter : before.length < size := by
            rw [← same, split]
            simp
          have farther := ih before.length shorter earlier rfl
          rw [(Place.mem_parts.1 isPart).2, split]
          refine List.cons_subset.2 ⟨by simp, ?_⟩
          exact List.subset_append_of_subset_left _ farther

theorem IsTree.not_mem_of_places_eq (tree : program.IsTree) {done rest : List Place} {place : Place}
    (whole : program.places = done ++ place :: rest) : place ∉ done := by
  intro isDone
  have distinct := List.Nodup.of_map _ tree
  rw [whole] at distinct
  exact (List.nodup_append.1 distinct).2.2 _ isDone _ (List.mem_cons_self ..) rfl

/-- The number of a block is the number of blocks that the walk has met before. -/
theorem blockNumber_eq (tree : program.IsTree) {done rest : List Place}
    (whole : program.places = done ++ block :: rest) (isBlock : block.isBlock) :
    program.blockNumber block = (done.filter Place.isBlock).length := by
  have isPlace : block ∈ program.places := by
    rw [whole]
    simp
  have listed : program.blocks = done.filter Place.isBlock ++ block :: rest.filter Place.isBlock := by
    rw [blocks, whole, List.filter_append, List.filter_cons_of_pos isBlock]
  have others : ∀ other ∈ done.filter Place.isBlock, (other.node.id == block.node.id) = false := by
    intro other isOther
    have isDone := (List.mem_filter.1 isOther).1
    rw [IsTree, whole, List.map_append, List.map_cons] at tree
    have distinct := (List.nodup_append.1 tree).2.2 _ (List.mem_map_of_mem isDone) _
      (List.mem_cons_self ..)
    simpa using distinct
  rw [blockNumber, listed, List.findIdx_append, List.findIdx_eq_length.2 others]
  simp [List.findIdx_cons]

theorem blockNumber_inj (tree : program.IsTree) (isBlock : block ∈ program.blocks)
    (isBlockToo : other ∈ program.blocks)
    (same : program.blockNumber block = program.blockNumber other) : block = other := by
  have found {place : Place} (isPlace : place ∈ program.blocks) :
      ∃ bound : program.blockNumber place < program.blocks.length,
        program.blocks[program.blockNumber place] = place := by
    have bound : program.blockNumber place < program.blocks.length :=
      List.findIdx_lt_length_of_exists ⟨place, isPlace, by simp⟩
    have met : (program.blocks[program.blockNumber place].node.id == place.node.id) = true :=
      List.findIdx_getElem (w := bound)
    refine ⟨bound, tree.place_eq ?_ (mem_blocks.1 isPlace).1 (by simpa using met)⟩
    exact (mem_blocks.1 (List.getElem_mem bound)).1
  rcases found isBlock with ⟨bound, first⟩
  rcases found isBlockToo with ⟨boundToo, second⟩
  rw [← first, ← second]
  simp only [same]

theorem blockFunction_chars {character : Char} (isMember : character ∈ (blockFunction block).toList) :
    character.isDigit = false ∧ character ≠ '.' ∧ character ≠ '~' := by
  have ofFunctions : ∀ function ∈ Draft.groupFunctions ++ Draft.caseFunctions,
      ∀ character ∈ function.toList,
        character.isDigit = false ∧ character ≠ '.' ∧ character ≠ '~' := by
    simp [Draft.groupFunctions, Draft.caseFunctions]
  unfold blockFunction at isMember
  cases called : Module.blockCall? block.node with
  | none => simp [called] at isMember
  | some call =>
      rw [called] at isMember
      exact ofFunctions _ (Module.blockCall?_eq_some.1 called).2 _ isMember

/-- The marks that join names do not occur in the names of blocks. -/
theorem notMem_blockName {mark : Char} (isMark : mark = '.' ∨ mark = '~') :
    mark ∉ (program.blockName block).toList := by
  intro isMember
  rw [blockName, String.toList_append, List.mem_append] at isMember
  rcases isMember with inFunction | inNumber
  · rcases blockFunction_chars inFunction with ⟨-, noDot, noTilde⟩
    exact isMark.elim noDot noTilde
  · have isDigit := Value.isDigit_of_mem_integerText inNumber
    rcases isMark with rfl | rfl
    · exact absurd isDigit (by decide)
    · exact absurd isDigit (by decide)

/-- The number of a block can be read off its name: functions have no digits in them. -/
theorem blockName_inj (tree : program.IsTree) (isBlock : block ∈ program.blocks)
    (isBlockToo : other ∈ program.blocks)
    (same : program.blockName block = program.blockName other) : block = other := by
  have digits (place : Place) : (program.blockName place).toList.filter Char.isDigit =
      Nat.toDigits 10 (program.blockNumber place) := by
    have ofFunction : (blockFunction place).toList.filter Char.isDigit = [] :=
      List.filter_eq_nil_iff.2 fun character isMember => by
        simp [(blockFunction_chars isMember).1]
    have ofNumber : (Value.integerText (program.blockNumber place)).toList.filter Char.isDigit =
        (Value.integerText (program.blockNumber place)).toList :=
      List.filter_eq_self.2 fun character => Value.isDigit_of_mem_integerText
    rw [blockName, String.toList_append, List.filter_append, ofFunction, ofNumber, List.nil_append,
      Value.integerText_natCast]
  refine blockNumber_inj tree isBlock isBlockToo (Value.toDigits_inj ?_)
  rw [← digits, ← digits, same]

end Node

/-! ## Paths of blocks -/

namespace Scope

variable {scope : Scope} {block other : Place} {enclosing enclosingToo : List Place}

/-- The longname of the nearest of several blocks, each in the next one; of none it is the file. -/
def blockPath (scope : Scope) : List Place → String
  | [] => scope.filePath
  | blocks => scope.filePath ++ "~" ++
      Text.joinStrings "." (blocks.map scope.program.blockName).reverse

theorem blockPath_cons (block : Place) (enclosing : List Place) :
    scope.blockPath (block :: enclosing) = scope.filePath ++ "~" ++
      Text.joinStrings "." ((enclosing.map scope.program.blockName).reverse ++
        [scope.program.blockName block]) := by
  simp [blockPath]

/-- A block is spelt as a member of the blocks around it. -/
theorem longnameOf_blockPath (unmarked : '~' ∉ scope.filePath.toList) (block : Place)
    (enclosing : List Place) :
    longnameOf (scope.blockPath enclosing) (some (scope.program.blockName block)) true =
      scope.blockPath (block :: enclosing) := by
  rw [blockPath_cons]
  cases enclosing with
  | nil => simp [blockPath, longnameOf, unmarked, Text.orNone, Text.joinStrings, Text.join]
  | cons outer rest =>
      have marked : '~' ∈ (scope.blockPath (outer :: rest)).toList := by simp [blockPath]
      have nonempty : ((outer :: rest).map scope.program.blockName).reverse ≠ [] := by simp
      rw [longnameOf, if_neg (by simpa using marked), if_pos rfl,
        Text.joinStrings_concat _ nonempty]
      simp [blockPath, Text.orNone, String.append_assoc]

/-- The name of a block ends its path, after the last of the marks that join names. -/
theorem exists_blockPath_eq (unmarked : '~' ∉ scope.filePath.toList) (block : Place)
    (enclosing : List Place) :
    ∃ before mark, (mark = '.' ∨ mark = '~') ∧ (scope.blockPath (block :: enclosing)).toList =
      before ++ mark :: (scope.program.blockName block).toList := by
  rw [← longnameOf_blockPath unmarked block enclosing]
  by_cases marked : '~' ∈ (scope.blockPath enclosing).toList
  · exact ⟨(scope.blockPath enclosing).toList, '.', Or.inl rfl,
      by simp [longnameOf, marked, Text.orNone]⟩
  · exact ⟨(scope.blockPath enclosing).toList, '~', Or.inr rfl,
      by simp [longnameOf, marked, Text.orNone]⟩

theorem blockName_eq_of_blockPath (unmarked : '~' ∉ scope.filePath.toList)
    (same : scope.blockPath (block :: enclosing) = scope.blockPath (other :: enclosingToo)) :
    scope.program.blockName block = scope.program.blockName other := by
  have isName (block : Place) (enclosing : List Place) :
      (scope.blockPath (block :: enclosing)).toList.reverse.takeWhile
        (fun character => !(character == '.' || character == '~')) =
      (scope.program.blockName block).toList.reverse := by
    rcases exists_blockPath_eq unmarked block enclosing with ⟨before, mark, isMark, spelt⟩
    have plain : ∀ character ∈ (scope.program.blockName block).toList.reverse,
        !(character == '.' || character == '~') := by
      intro character isMember
      have isMember := List.mem_reverse.1 isMember
      have noDot := ne_of_mem_of_not_mem isMember (Node.notMem_blockName (Or.inl rfl))
      have noTilde := ne_of_mem_of_not_mem isMember (Node.notMem_blockName (Or.inr rfl))
      simp [noDot, noTilde]
    have stops : (!(mark == '.' || mark == '~')) = false := by
      rcases isMark with rfl | rfl <;> rfl
    rw [spelt, List.reverse_append, List.reverse_cons, List.append_assoc,
      List.takeWhile_append_of_pos plain, List.singleton_append, List.takeWhile_cons, stops]
    simp
  have reversed := isName block enclosing
  rw [same, isName other enclosingToo] at reversed
  exact String.toList_injective (List.reverse_injective reversed).symm

end Scope

end DocHarvest
