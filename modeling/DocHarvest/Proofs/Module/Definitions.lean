import DocHarvest.Module.Request
import DocHarvest.Proofs.Module.Offers
import Mathlib.Data.List.Perm.Basic

/-!
# Which definitions are recorded, and how often

A comment that defines something is recorded with the statement that it belongs to, unless the
statement is put aside or exports nothing of its own. No comment is recorded more often than the places
that it is documented with say: once with its own node, and once more if it stands above a decorator
and is hoisted to what the decorator belongs to.
-/

namespace DocHarvest

open Run

/-! ## Comments and their nodes -/

namespace Node

/-- The comments of a node itself, before and after it. -/
def ownOccasions (node : Node) : List Occasion :=
  node.leadingOccasions ++ node.trailingOccasions

variable {node : Node} {occasion : Occasion}

theorem of_mem_leadingOccasions (isLeading : occasion ∈ node.leadingOccasions) :
    occasion.node = node.id ∧ occasion.side = .leading ∧ node.isDistinctive := by
  rcases Occasion.of_mem_list isLeading with ⟨same, side, isComment⟩
  refine ⟨same, side, ?_⟩
  simp [isDistinctive, List.ne_nil_of_mem isComment]

theorem of_mem_trailingOccasions (isTrailing : occasion ∈ node.trailingOccasions) :
    occasion.node = node.id ∧ occasion.side = .trailing ∧ node.isDistinctive := by
  rcases Occasion.of_mem_list isTrailing with ⟨same, side, isComment⟩
  refine ⟨same, side, ?_⟩
  simp [isDistinctive, List.ne_nil_of_mem isComment]

theorem of_mem_ownOccasions (isOwn : occasion ∈ node.ownOccasions) :
    occasion.node = node.id ∧ occasion.side ≠ .inner ∧ node.isDistinctive := by
  rcases List.mem_append.1 isOwn with isLeading | isTrailing
  · rcases of_mem_leadingOccasions isLeading with ⟨same, side, distinctive⟩
    exact ⟨same, by simp [side], distinctive⟩
  · rcases of_mem_trailingOccasions isTrailing with ⟨same, side, distinctive⟩
    exact ⟨same, by simp [side], distinctive⟩

theorem nodup_ownOccasions (node : Node) : node.ownOccasions.Nodup := by
  refine List.nodup_append.2 ⟨Occasion.nodup_list, Occasion.nodup_list, ?_⟩
  rintro occasion isLeading _ isTrailing rfl
  have side := (of_mem_leadingOccasions isLeading).2.1
  rw [(of_mem_trailingOccasions isTrailing).2.1] at side
  cases side

theorem nodup_decoratorOccasions (node : Node) : node.decoratorOccasions.Nodup := by
  unfold decoratorOccasions
  split
  · exact Occasion.nodup_list
  · exact List.nodup_nil

/-- A comment above a decorator belongs to the decorator, which is part of a node. -/
theorem of_mem_decoratorOccasions (isHoisted : occasion ∈ node.decoratorOccasions) :
    node.isDistinctive ∧ ∃ first ∈ node.children, occasion ∈ first.leadingOccasions := by
  unfold decoratorOccasions at isHoisted
  split at isHoisted
  · rename_i first others decorators
    refine ⟨by simp [isDistinctive, decorators], first, ?_, isHoisted⟩
    exact decorators_subset_children node (decorators ▸ List.mem_cons_self ..)
  · cases isHoisted

end Node

/-! ## How often a comment is offered -/

namespace Place

variable {program : Node} {place : Place} {occasion : Occasion}

/-- Only a node that lends its comments has them hoisted from its decorators. -/
theorem hoisted_sublist (place : Place) :
    place.hoisted.Sublist (place.givers.flatMap Node.decoratorOccasions) := by
  unfold hoisted givers
  cases wrapped : place.node.exported? with
  | some declaration => exact List.sublist_append_left _ _
  | none =>
      cases isExport : place.node.shape.isExport with
      | true => simp [Node.decoratorOccasions_of_isExport isExport]
      | false =>
          simp only [Bool.false_eq_true, if_false, List.flatMap_singleton]
          split
          · exact List.Sublist.refl _
          · exact List.nil_sublist _

theorem of_mem_offer (isOffered : occasion ∈ place.offer) :
    ∃ giver ∈ place.givers, occasion ∈ giver.ownOccasions ∨ occasion ∈ giver.decoratorOccasions := by
  rcases List.mem_append.1 isOffered with isLeading | isTrailing
  · rcases List.mem_append.1 isLeading with isOwn | isHoisted
    · rcases List.mem_flatMap.1 isOwn with ⟨giver, gives, isOwn⟩
      exact ⟨giver, gives, Or.inl (List.mem_append_left _ isOwn)⟩
    · rcases List.mem_flatMap.1 (place.hoisted_sublist.subset isHoisted) with ⟨giver, gives, isAbove⟩
      exact ⟨giver, gives, Or.inr isAbove⟩
  · unfold trailingOffer at isTrailing
    split at isTrailing
    · rcases List.mem_flatMap.1 isTrailing with ⟨giver, gives, isOwn⟩
      exact ⟨giver, gives, Or.inl (List.mem_append_right _ isOwn)⟩
    · cases isTrailing

/-- Of the comments that a place is documented with, only those of decorators come in addition. -/
theorem count_offer_le (place : Place) (occasion : Occasion) :
    place.offer.count occasion ≤
      (place.givers.flatMap Node.ownOccasions).count occasion + place.hoisted.count occasion := by
  have own : (place.givers.flatMap Node.ownOccasions).count occasion =
      (place.givers.flatMap Node.leadingOccasions).count occasion +
        (place.givers.flatMap Node.trailingOccasions).count occasion := by
    rw [← List.count_append]
    exact ((List.flatMap_append_perm _ _ _).count_eq occasion).symm
  have trailing : place.trailingOffer.count occasion ≤
      (place.givers.flatMap Node.trailingOccasions).count occasion := by
    unfold trailingOffer
    split
    · exact Nat.le_refl _
    · exact Nat.zero_le _
  rw [offer, leadingOffer, List.count_append, List.count_append, own]
  omega

theorem count_offers_le (places : List Place) (occasion : Occasion) :
    (places.flatMap offer).count occasion ≤
      ((places.flatMap givers).flatMap Node.ownOccasions).count occasion +
        (places.flatMap hoisted).count occasion := by
  induction places with
  | nil => exact Nat.le_refl _
  | cons place rest ih =>
      have first := place.count_offer_le occasion
      simp only [List.flatMap_cons, List.flatMap_append, List.count_append]
      omega

end Place

namespace Survey

variable {scope : Scope} {done pushed : List Place} {state : Progress}

/-- No node lends its own comments twice. -/
theorem nodup_own (survey : Survey scope done pushed state) :
    ((pushed.flatMap Place.givers).flatMap Node.ownOccasions).Nodup := by
  refine List.nodup_flatMap.2 ⟨fun giver _ => giver.nodup_ownOccasions, ?_⟩
  refine survey.apart.imp fun {first second} apart => ?_
  refine List.disjoint_left.2 fun occasion isFirst isSecond => ?_
  rcases Node.of_mem_ownOccasions isFirst with ⟨same, -, distinctive⟩
  rcases Node.of_mem_ownOccasions isSecond with ⟨sameToo, -, distinctiveToo⟩
  exact apart distinctive distinctiveToo (same.symm.trans sameToo)

/-- No node has the comments above its first decorator hoisted twice. -/
theorem nodup_hoisted (survey : Survey scope done pushed state)
    (unambiguous : scope.program.IsUnambiguous) (arePlaces : done ⊆ scope.program.places) :
    (pushed.flatMap Place.hoisted).Nodup := by
  have longer : (pushed.flatMap Place.hoisted).Sublist
      ((pushed.flatMap Place.givers).flatMap Node.decoratorOccasions) := by
    rw [List.flatMap_assoc]
    exact List.Sublist.flatMap_right _ fun place _ => place.hoisted_sublist
  refine List.Nodup.sublist longer ?_
  have spot {giver : Node} (lent : giver ∈ pushed.flatMap Place.givers) :
      ∃ spot ∈ scope.program.places, spot.node = giver := by
    rcases List.mem_flatMap.1 lent with ⟨pusher, isPushed, gives⟩
    rcases Place.giver_place (arePlaces (survey.areDone isPushed)) gives with
      ⟨spot, isSpot, same, -⟩
    exact ⟨spot, isSpot, same⟩
  refine List.nodup_flatMap.2 ⟨fun giver _ => giver.nodup_decoratorOccasions, ?_⟩
  refine survey.apart.imp_of_mem fun {first second} isFirst isSecond apart => ?_
  refine List.disjoint_left.2 fun occasion isAbove isAboveToo => ?_
  rcases Node.of_mem_decoratorOccasions isAbove with ⟨distinctive, one, isChild, isLeading⟩
  rcases Node.of_mem_decoratorOccasions isAboveToo with ⟨distinctiveToo, other, isChildToo, isLeadingToo⟩
  rcases spot isFirst with ⟨outer, isOuter, rfl⟩
  rcases spot isSecond with ⟨outerToo, isOuterToo, rfl⟩
  have isPart : ⟨one, outer.node :: outer.above⟩ ∈ scope.program.places :=
    Node.parts_mem_places isOuter (Place.mem_parts.2 ⟨isChild, rfl⟩)
  have isPartToo : ⟨other, outerToo.node :: outerToo.above⟩ ∈ scope.program.places :=
    Node.parts_mem_places isOuterToo (Place.mem_parts.2 ⟨isChildToo, rfl⟩)
  rcases Node.of_mem_leadingOccasions isLeading with ⟨same, -, commented⟩
  have sameToo := (Node.of_mem_leadingOccasions isLeadingToo).1
  have equal := unambiguous _ isPart _ isPartToo commented (same.symm.trans sameToo)
  have equalNodes : outer.node = outerToo.node := by
    have := congrArg Place.above equal
    exact (List.cons.inj this).1
  exact apart distinctive distinctiveToo (congrArg Node.id equalNodes)

end Survey

namespace Node

/-- The comments of a program: those of its nodes, and those of a program that holds nothing else. -/
def occasions (program : Node) : List Occasion :=
  program.innerOccasions ++ program.places.flatMap fun place => place.node.ownOccasions

variable {program : Node} {occasion : Occasion}

theorem side_of_mem_innerOccasions (isInner : occasion ∈ program.innerOccasions) :
    occasion.side = .inner := by
  unfold innerOccasions at isInner
  split at isInner
  · exact (Occasion.of_mem_list isInner).2.1
  · cases isInner

theorem nodup_innerOccasions (program : Node) : program.innerOccasions.Nodup := by
  unfold innerOccasions
  split
  · exact Occasion.nodup_list
  · exact List.nodup_nil

theorem own_mem_occasions {place : Place} (isPlace : place ∈ program.places)
    (isOwn : occasion ∈ place.node.ownOccasions) : occasion ∈ program.occasions :=
  List.mem_append_right _ (List.mem_flatMap.2 ⟨place, isPlace, isOwn⟩)

/-- The comments that a place is documented with are comments of the program, none of them inner. -/
theorem offer_mem_occasions {place : Place} (isPlace : place ∈ program.places)
    (isOffered : occasion ∈ place.offer) :
    occasion.side ≠ .inner ∧ occasion ∈ program.occasions := by
  rcases Place.of_mem_offer isOffered with ⟨giver, gives, isOwn | isAbove⟩
  · rcases Place.giver_place isPlace gives with ⟨spot, isSpot, rfl, -⟩
    exact ⟨(of_mem_ownOccasions isOwn).2.1, own_mem_occasions isSpot isOwn⟩
  · rcases Place.giver_place isPlace gives with ⟨spot, isSpot, rfl, -⟩
    rcases of_mem_decoratorOccasions isAbove with ⟨-, first, isChild, isLeading⟩
    have isPart : ⟨first, spot.node :: spot.above⟩ ∈ program.places :=
      parts_mem_places isSpot (Place.mem_parts.2 ⟨isChild, rfl⟩)
    have isOwn : occasion ∈ first.ownOccasions := List.mem_append_left _ isLeading
    exact ⟨(of_mem_ownOccasions isOwn).2.1, own_mem_occasions isPart isOwn⟩

end Node

namespace Survey

variable {scope : Scope} {done pushed : List Place} {state : Progress}

/-- What the walk offers, it offers once, or twice if it is hoisted from a decorator. -/
theorem count_offers (survey : Survey scope done pushed state)
    (arePlaces : done ⊆ scope.program.places) (occasion : Occasion) :
    (scope.program.innerOccasions ++ pushed.flatMap Place.offer).count occasion ≤
      1 + (pushed.flatMap Place.hoisted).count occasion := by
  have isPlace {place : Place} (isPushed : place ∈ pushed) : place ∈ scope.program.places :=
    arePlaces (survey.areDone isPushed)
  rw [List.count_append]
  by_cases isInner : occasion.side = .inner
  · have inner := List.nodup_iff_count_le_one.1 scope.program.nodup_innerOccasions occasion
    have walked : (pushed.flatMap Place.offer).count occasion = 0 := by
      refine List.count_eq_zero.2 fun isOffered => ?_
      rcases List.mem_flatMap.1 isOffered with ⟨place, isPushed, isOffered⟩
      exact (Node.offer_mem_occasions (isPlace isPushed) isOffered).1 isInner
    omega
  · have inner : scope.program.innerOccasions.count occasion = 0 :=
      List.count_eq_zero.2 fun isMember => isInner (Node.side_of_mem_innerOccasions isMember)
    have offers := Place.count_offers_le pushed occasion
    have own := List.nodup_iff_count_le_one.1 survey.nodup_own occasion
    omega

end Survey

namespace Module

variable {scope : Scope} {before after : Progress}

/--
However the work on a module ends, the records of definitions that it adds are made from comments of
the program, and from none of them more than twice. Two records are made only of a comment above a
decorator that is hoisted to what the decorator belongs to.
-/
theorem definitions_repeated_only_if_hoisted (unambiguous : scope.program.IsUnambiguous)
    (unvisited : ∀ node, before.visited.contains node = false) {outcome : Except Fault Int}
    (ended : Ends (generate scope) before outcome after) :
    ∃ told added, Doc.virtuals after.store.docs = Doc.virtuals before.store.docs ++ added ∧
      List.Forall₂ (fun occasion outline =>
        occasion.comment.Makes (within scope before.store.nextId) outline) told added ∧
      (∀ occasion ∈ told, occasion.comment.defines ∧ occasion ∈ scope.program.occasions) ∧
      ∀ occasion, told.count occasion ≤ 1 ∨ told.count occasion = 2 ∧
        ∃ place ∈ scope.program.places, Export.isDeferred scope.program place.node = false ∧
          occasion ∈ place.hoisted := by
  rcases generate_heeds unambiguous unvisited ended with
    ⟨done, pushed, state, -, arePlaces, survey, heeds⟩
  rcases heeds.told with ⟨told, added, areTold, stored, made, -⟩
  have isPlace {place : Place} (isPushed : place ∈ pushed) : place ∈ scope.program.places :=
    arePlaces (survey.areDone isPushed)
  refine ⟨told, added, stored, made, fun occasion isTold => ?_, fun occasion => ?_⟩
  · rcases List.mem_filter.1 (areTold.subset isTold) with ⟨isOffered, defines⟩
    refine ⟨defines, ?_⟩
    rcases List.mem_append.1 isOffered with isInner | isWalked
    · exact List.mem_append_left _ isInner
    · rcases List.mem_flatMap.1 isWalked with ⟨place, isPushed, isOffered⟩
      exact (Node.offer_mem_occasions (isPlace isPushed) isOffered).2
  · have fewer : told.count occasion ≤
        (scope.program.innerOccasions ++ pushed.flatMap Place.offer).count occasion :=
      (areTold.trans List.filter_sublist).count_le occasion
    have offers := Nat.le_trans fewer (survey.count_offers arePlaces occasion)
    have nodup := survey.nodup_hoisted unambiguous arePlaces
    have once := List.nodup_iff_count_le_one.1 nodup occasion
    by_cases isHoisted : occasion ∈ pushed.flatMap Place.hoisted
    · rcases List.mem_flatMap.1 isHoisted with ⟨place, isPushed, isHoisted⟩
      have reason : ∃ place ∈ scope.program.places,
          Export.isDeferred scope.program place.node = false ∧ occasion ∈ place.hoisted :=
        ⟨place, isPlace isPushed, survey.entered place isPushed, isHoisted⟩
      rcases Nat.lt_or_ge 1 (told.count occasion) with isMore | isLess
      · exact Or.inr ⟨by omega, reason⟩
      · exact Or.inl isLess
    · have never := List.count_eq_zero.2 isHoisted
      exact Or.inl (by omega)

/-- The source of a module with a comment above the decorator of a class. -/
def decoratedSource : String :=
  "/** @typedef \x7bnumber\x7d Count */\n@dec\nclass Foo \x7b\x7d\n"

/-- The syntax tree of that module. -/
def decoratedTree : Tree :=
  .mk "program" true none 0 49 [
    .mk "comment" true none 0 30 [],
    .mk "class_declaration" true none 31 48 [
      .mk "decorator" true (some "decorator") 31 35 [
        .mk "@" false none 31 32 [], .mk "identifier" true none 32 35 []],
      .mk "class" false none 36 41 [],
      .mk "identifier" true (some "name") 42 45 [],
      .mk "class_body" true (some "body") 46 48 [
        .mk "\x7b" false none 46 47 [], .mk "\x7d" false none 47 48 []]]]

/-- What that module is read as. -/
def decoratedReading : Option Program :=
  (readProgram (.ofText decoratedSource) ⟨decoratedTree, false⟩).toOption

/-- The program of that module. -/
def decoratedProgram : Program :=
  decoratedReading.getD ⟨default, 0⟩

def decoratedScope : Scope where
  program := decoratedProgram.root
  filePath := "decorated.js"

/-- What becomes of that module when it is documented into an empty store. -/
def decoratedResult : Except Fault Int × Progress :=
  (generate decoratedScope).run.run (Program.start decoratedProgram {})

/-- All that is computed about that module, in one go. -/
theorem decorated_facts : decoratedReading.isSome ∧ decoratedScope.program.IsTree ∧
    decoratedScope.program.occasions.length = 1 ∧ decoratedResult.1.toOption = some 0 ∧
    decoratedResult.2.invalid = [] ∧ (Doc.virtuals decoratedResult.2.store.docs).length = 2 := by
  decide +kernel

theorem ends_decoratedScope : Ends (generate decoratedScope) (Program.start decoratedProgram {})
    decoratedResult.1 decoratedResult.2 :=
  (Prod.eta decoratedResult).symm

theorem decorated_definitions_repeated : ∃ (told : List Occasion) (added : List Doc),
    Doc.virtuals decoratedResult.2.store.docs = added ∧
    List.Forall₂ (fun occasion outline =>
      occasion.comment.Makes (within decoratedScope 0) outline) told added ∧
    ∀ occasion ∈ told, told.count occasion ≤ 1 ∨ told.count occasion = 2 ∧
      ∃ place ∈ decoratedScope.program.places, occasion ∈ place.hoisted := by
  rcases decorated_facts with ⟨-, tree, -⟩
  rcases definitions_repeated_only_if_hoisted tree.isUnambiguous
    (fun _ => Std.TreeSet.contains_emptyc) ends_decoratedScope with
    ⟨told, added, stored, made, -, counts⟩
  refine ⟨told, added, stored, made, fun occasion _ => (counts occasion).imp_right ?_⟩
  rintro ⟨twice, place, isPlace, -, isHoisted⟩
  exact ⟨twice, place, isPlace, isHoisted⟩

/--
Two records are made although the module has one comment: the walk hoists it to the class, and meets it
again when it comes to the decorator.
-/
theorem lone_definition_recorded_twice :
    readProgram (.ofText decoratedSource) ⟨decoratedTree, false⟩ = .ok decoratedProgram ∧
    Ends (generate decoratedScope) (Program.start decoratedProgram {}) (.ok 0) decoratedResult.2 ∧
    decoratedScope.program.IsTree ∧ decoratedScope.program.occasions.length = 1 ∧
    decoratedResult.2.invalid = [] ∧ (Doc.virtuals decoratedResult.2.store.docs).length = 2 := by
  rcases decorated_facts with ⟨isRead, tree, alone, succeeded, faultless, twice⟩
  refine ⟨?_, ?_, tree, alone, faultless, twice⟩
  · unfold decoratedProgram decoratedReading
    unfold decoratedReading at isRead
    generalize readProgram (.ofText decoratedSource) ⟨decoratedTree, false⟩ = result at isRead ⊢
    cases result with
    | ok program => rfl
    | error fault => cases isRead
  · have ended := ends_decoratedScope
    generalize decoratedResult.1 = outcome at succeeded ended
    cases outcome with
    | ok id =>
        cases succeeded
        exact ended
    | error fault => cases succeeded

end Module

/-! ## The comments of statements -/

namespace Node

variable {program statement : Node}

/-- A statement with comments stands in one place. -/
theorem IsUnambiguous.eq_statement (unambiguous : program.IsUnambiguous)
    (isProgram : program.isProgram) (isStatement : statement ∈ program.body)
    (distinctive : statement.isDistinctive) {place : Place} (isPlace : place ∈ program.places)
    (same : place.node.id = statement.id) : place = ⟨statement, [program]⟩ :=
  have isPlaceToo := walked_subset_places (statement_mem_walked isProgram isStatement)
  (unambiguous _ isPlaceToo place isPlace distinctive same.symm).symm

/-- A program holds no declaration as an export does, and has no decorators. -/
theorem nothing_around_of_isProgram (isProgram : program.isProgram) :
    program.exported? = none ∧ program.decoratorOccasions = [] := by
  unfold Node.isProgram at isProgram
  unfold exported? decoratorOccasions
  split at isProgram <;> simp_all [Shape.decorators]

/-- The last statement of a program is last in the program. -/
theorem IsUnambiguous.isLastIn_iff (unambiguous : program.IsUnambiguous)
    (isProgram : program.isProgram) (isStatement : statement ∈ program.body)
    (distinctive : statement.isDistinctive) :
    Module.isLastIn statement (some program) ↔ program.body.getLast? = some statement := by
  have statements : program.shape.statements? = some program.body := by
    unfold Node.isProgram at isProgram
    unfold body
    split at isProgram <;> simp_all [Shape.statements?]
  unfold Module.isLastIn
  simp only [Option.bind_some, statements]
  split
  · rename_i last isLast
    rw [isLast, beq_iff_eq, Option.some_inj]
    refine ⟨fun same => ?_, congrArg Node.id⟩
    have isMember : last ∈ program.body := List.mem_of_getLast? isLast
    have isPlace := walked_subset_places (statement_mem_walked isProgram isMember)
    have equal := unambiguous.eq_statement isProgram isStatement distinctive isPlace same
    exact congrArg Place.node equal
  · rename_i noLast
    simp [noLast]

end Node

namespace Place

variable {program statement : Node} {place : Place} {occasion : Occasion}

/-- A statement with comments is marked only when it is documented itself. -/
theorem eq_statement_of_mem_marks (unambiguous : program.IsUnambiguous)
    (isProgram : program.isProgram) (isStatement : statement ∈ program.body)
    (distinctive : statement.isDistinctive) (isPlace : place ∈ program.places)
    (isMark : statement.id ∈ place.marks) : place = ⟨statement, [program]⟩ := by
  rcases List.mem_cons.1 isMark with same | isWrapped
  · exact unambiguous.eq_statement isProgram isStatement distinctive isPlace same.symm
  · rcases List.mem_map.1 isWrapped with ⟨declaration, isWrapped, same⟩
    have wrapped := Option.mem_toList.1 isWrapped
    have equal := unambiguous.eq_statement isProgram isStatement distinctive
      (exported_mem_places isPlace wrapped) same
    have isRoot : place.node = program := (List.cons.inj (congrArg Place.above equal)).1
    rw [isRoot, (Node.nothing_around_of_isProgram isProgram).1] at wrapped
    cases wrapped

/-- The comments of a statement are offered only when the statement is documented itself. -/
theorem eq_statement_of_mem_offer (unambiguous : program.IsUnambiguous)
    (isProgram : program.isProgram) (isStatement : statement ∈ program.body)
    (distinctive : statement.isDistinctive) (isPlace : place ∈ program.places)
    (isOffered : occasion ∈ place.offer) (same : occasion.node = statement.id) :
    place = ⟨statement, [program]⟩ := by
  rcases of_mem_offer isOffered with ⟨giver, gives, isOwn | isAbove⟩
  · refine eq_statement_of_mem_marks unambiguous isProgram isStatement distinctive isPlace ?_
    rw [← same, (Node.of_mem_ownOccasions isOwn).1]
    exact id_mem_marks_of_giver gives
  · rcases giver_place isPlace gives with ⟨spot, isSpot, rfl, -⟩
    rcases Node.of_mem_decoratorOccasions isAbove with ⟨-, first, isChild, isLeading⟩
    have isPart : ⟨first, spot.node :: spot.above⟩ ∈ program.places :=
      Node.parts_mem_places isSpot (mem_parts.2 ⟨isChild, rfl⟩)
    have equal := unambiguous.eq_statement isProgram isStatement distinctive isPart
      ((Node.of_mem_leadingOccasions isLeading).1.symm.trans same)
    have isRoot : spot.node = program := (List.cons.inj (congrArg Place.above equal)).1
    rw [isRoot, (Node.nothing_around_of_isProgram isProgram).2] at isAbove
    cases isAbove

/-- Whether a node lends its comments when its place is documented: an export must wrap something. -/
theorem node_mem_givers_iff (place : Place) :
    place.node ∈ place.givers ↔ (place.node.shape.isExport → place.node.exported?.isSome) := by
  unfold givers
  cases wrapped : place.node.exported? <;> cases place.node.shape.isExport <;> simp

theorem givers_eq_nil (idle : ¬ place.node ∈ place.givers) : place.givers = [] := by
  rw [node_mem_givers_iff] at idle
  unfold givers
  cases wrapped : place.node.exported? <;> simp_all

theorem node_mem_givers_of_mem_offer (isOffered : occasion ∈ place.offer) :
    place.node ∈ place.givers := by
  by_contra idle
  rcases of_mem_offer isOffered with ⟨giver, gives, -⟩
  rw [givers_eq_nil idle] at gives
  cases gives

theorem side_of_mem_leadingOffer (isLeading : occasion ∈ place.leadingOffer) :
    occasion.side = .leading := by
  rcases List.mem_append.1 isLeading with isOwn | isHoisted
  · rcases List.mem_flatMap.1 isOwn with ⟨giver, -, isOwn⟩
    exact (Node.of_mem_leadingOccasions isOwn).2.1
  · rcases List.mem_flatMap.1 (place.hoisted_sublist.subset isHoisted) with ⟨giver, -, isAbove⟩
    rcases Node.of_mem_decoratorOccasions isAbove with ⟨-, first, -, isLeading⟩
    exact (Node.of_mem_leadingOccasions isLeading).2.1

theorem leading_mem_offer_iff (isLeading : occasion ∈ place.node.leadingOccasions) :
    occasion ∈ place.offer ↔ place.node ∈ place.givers := by
  refine ⟨node_mem_givers_of_mem_offer, fun gives => ?_⟩
  refine List.mem_append_left _ (List.mem_append_left _ ?_)
  exact List.mem_flatMap.2 ⟨place.node, gives, isLeading⟩

theorem trailing_mem_offer_iff (isTrailing : occasion ∈ place.node.trailingOccasions) :
    occasion ∈ place.offer ↔ place.node ∈ place.givers ∧ place.isLast := by
  constructor
  · intro isOffered
    refine ⟨node_mem_givers_of_mem_offer isOffered, ?_⟩
    rcases List.mem_append.1 isOffered with isLeading | isLast
    · have side := side_of_mem_leadingOffer isLeading
      rw [(Node.of_mem_trailingOccasions isTrailing).2.1] at side
      cases side
    · unfold trailingOffer at isLast
      split at isLast
      · assumption
      · cases isLast
  · rintro ⟨gives, isLast⟩
    refine List.mem_append_right _ ?_
    rw [trailingOffer, if_pos isLast]
    exact List.mem_flatMap.2 ⟨place.node, gives, isTrailing⟩

end Place

namespace Survey

variable {scope : Scope} {pushed : List Place} {state : Progress} {statement : Node}

/-- A whole walk documents a statement with comments unless it is put aside. -/
theorem statement_mem_pushed_iff (survey : Survey scope scope.program.walked pushed state)
    (unambiguous : scope.program.IsUnambiguous) (isProgram : scope.program.isProgram)
    (isStatement : statement ∈ scope.program.body) (distinctive : statement.isDistinctive) :
    ⟨statement, [scope.program]⟩ ∈ pushed ↔
      Export.isDeferred scope.program statement = false := by
  refine ⟨fun isPushed => survey.entered _ isPushed, fun entered => ?_⟩
  have isWalked := Node.statement_mem_walked isProgram isStatement
  have isPlace := Node.walked_subset_places isWalked
  have inside : statement.id ≠ scope.program.id := fun same => by
    have equal := unambiguous _ isPlace _ (Node.root_mem_places scope.program) distinctive same
    cases congrArg Place.above equal
  have isVisited := survey.visited _ isWalked entered inside
  rcases survey.traced _ isPlace distinctive isVisited with isBound | ⟨pusher, isPushed, isMark⟩
  · have binds : scope.program.isBinder := by
      simpa using (Bool.and_eq_true_iff.1 isBound).1
    unfold Node.isProgram at isProgram
    unfold Node.isBinder at binds
    split at isProgram <;> simp_all
  · rw [← Place.eq_statement_of_mem_marks unambiguous isProgram isStatement distinctive
      (Node.walked_subset_places (survey.areDone isPushed)) isMark]
    exact isPushed

theorem offered_iff (survey : Survey scope scope.program.walked pushed state)
    (unambiguous : scope.program.IsUnambiguous) (isProgram : scope.program.isProgram)
    (isStatement : statement ∈ scope.program.body) (distinctive : statement.isDistinctive)
    {occasion : Occasion} (same : occasion.node = statement.id) :
    occasion ∈ scope.program.innerOccasions ++ pushed.flatMap Place.offer ↔
      Export.isDeferred scope.program statement = false ∧
        occasion ∈ (⟨statement, [scope.program]⟩ : Place).offer := by
  have noInner : scope.program.innerOccasions = [] := by
    unfold Node.innerOccasions
    rw [if_neg]
    simp [List.ne_nil_of_mem isStatement]
  rw [noInner, List.nil_append, List.mem_flatMap,
    ← survey.statement_mem_pushed_iff unambiguous isProgram isStatement distinctive]
  refine ⟨fun ⟨place, isPushed, isOffered⟩ => ?_, fun ⟨isPushed, isOffered⟩ =>
    ⟨_, isPushed, isOffered⟩⟩
  rw [← Place.eq_statement_of_mem_offer unambiguous isProgram isStatement distinctive
    (Node.walked_subset_places (survey.areDone isPushed)) isOffered same]
  exact ⟨isPushed, isOffered⟩

end Survey

namespace Module

variable {scope : Scope} {before after : Progress}

/--
Work on a module that ends well and without a fault records the definitions in the comments of a
statement: those before it, and those after it if it is the last one. The exceptions are statements
that are put aside, and exports that wrap no declaration; of their comments no definition is recorded.
-/
theorem statement_definitions_recorded (unambiguous : scope.program.IsUnambiguous)
    (isProgram : scope.program.isProgram) (unfiltered : scope.filter = none)
    (unvisited : ∀ node, before.visited.contains node = false) {id : Int}
    (ended : Ends (generate scope) before (.ok id) after)
    (faultless : after.invalid = before.invalid) :
    ∃ told added, Doc.virtuals after.store.docs = Doc.virtuals before.store.docs ++ added ∧
      List.Forall₂ (fun occasion outline =>
        occasion.comment.Makes (within scope before.store.nextId) outline) told added ∧
      ∀ statement ∈ scope.program.body,
        (∀ occasion ∈ statement.leadingOccasions, occasion ∈ told ↔ occasion.comment.defines ∧
          Export.isDeferred scope.program statement = false ∧
            (statement.shape.isExport → statement.exported?.isSome)) ∧
        ∀ occasion ∈ statement.trailingOccasions, occasion ∈ told ↔ occasion.comment.defines ∧
          Export.isDeferred scope.program statement = false ∧
            (statement.shape.isExport → statement.exported?.isSome) ∧
              scope.program.body.getLast? = some statement := by
  rcases generate_heeds unambiguous unvisited ended with
    ⟨done, pushed, state, all, -, survey, heeds⟩
  rcases heeds.told with ⟨told, added, -, stored, made, allTold⟩
  have told_eq : told = Occasion.definitions
      (scope.program.innerOccasions ++ pushed.flatMap Place.offer) :=
    allTold unfiltered ⟨id, rfl⟩ faultless
  rw [all ⟨id, rfl⟩] at survey
  have told_iff {statement : Node} (isStatement : statement ∈ scope.program.body)
      (distinctive : statement.isDistinctive) {occasion : Occasion}
      (same : occasion.node = statement.id) :
      occasion ∈ told ↔ occasion.comment.defines ∧
        Export.isDeferred scope.program statement = false ∧
          occasion ∈ (⟨statement, [scope.program]⟩ : Place).offer := by
    rw [told_eq, Occasion.definitions, List.mem_filter, and_comm]
    have offered := survey.offered_iff unambiguous isProgram isStatement distinctive same
    exact and_congr_right' offered
  refine ⟨told, added, stored, made, fun statement isStatement => ⟨?_, ?_⟩⟩
  · intro occasion isLeading
    rcases Node.of_mem_leadingOccasions isLeading with ⟨same, -, distinctive⟩
    have isLeadingToo : occasion ∈ (⟨statement, [scope.program]⟩ : Place).node.leadingOccasions :=
      isLeading
    rw [told_iff isStatement distinctive same, Place.leading_mem_offer_iff isLeadingToo,
      Place.node_mem_givers_iff]
  · intro occasion isTrailing
    rcases Node.of_mem_trailingOccasions isTrailing with ⟨same, -, distinctive⟩
    have isTrailingToo : occasion ∈ (⟨statement, [scope.program]⟩ : Place).node.trailingOccasions :=
      isTrailing
    have isLast : (⟨statement, [scope.program]⟩ : Place).isLast ↔
        scope.program.body.getLast? = some statement :=
      unambiguous.isLastIn_iff isProgram isStatement distinctive
    rw [told_iff isStatement distinctive same, Place.trailing_mem_offer_iff isTrailingToo,
      Place.node_mem_givers_iff, isLast]

/-- A comment that defines a type. -/
def countDefinition : Comment where
  kind := .block
  text := "* @typedef \x7bnumber\x7d Count "

/-- A comment that defines another type. -/
def sizeDefinition : Comment where
  kind := .block
  text := "* @typedef \x7bnumber\x7d Size "

/-- A class with comments around it. -/
def annotatedClass (leading trailing : List Comment) : Node :=
  .mk { id := 1, leading, trailing } (.classLike .declaration []
    (some (.mk { id := 2 } (.identifier "Foo"))) none (.mk { id := 3 } (.classBody [])))

/-- A module with a class that stands between two definitions. -/
def annotatedScope : Scope where
  program := .mk { id := 0 } (.program [annotatedClass [countDefinition] [sizeDefinition]] [])
  filePath := "annotated.js"

/-- What is left when that module has been documented into an empty store. -/
def annotatedEnd : Progress :=
  ((generate annotatedScope).run.run (Program.start ⟨annotatedScope.program, 4⟩ {})).2

theorem ends_annotatedScope :
    Ends (generate annotatedScope) (Program.start ⟨annotatedScope.program, 4⟩ {}) (.ok 0)
      annotatedEnd :=
  Prod.ext (by decide +kernel) rfl

theorem annotated_statement_definitions_recorded : ∃ (told : List Occasion) (added : List Doc),
    Doc.virtuals annotatedEnd.store.docs = added ∧
    List.Forall₂ (fun occasion outline =>
      occasion.comment.Makes (within annotatedScope 0) outline) told added ∧
    ⟨1, .leading, 0, countDefinition⟩ ∈ told ∧ ⟨1, .trailing, 0, sizeDefinition⟩ ∈ told := by
  have tree : annotatedScope.program.IsTree := by decide +kernel
  rcases statement_definitions_recorded tree.isUnambiguous rfl rfl
    (fun _ => Std.TreeSet.contains_emptyc) ends_annotatedScope (by decide +kernel) with
    ⟨told, added, stored, made, recorded⟩
  rcases recorded (annotatedClass [countDefinition] [sizeDefinition]) (List.mem_singleton_self _) with
    ⟨leading, trailing⟩
  refine ⟨told, added, stored, made, ?_, ?_⟩
  · refine (leading _ (List.mem_singleton_self _)).2 ⟨by decide +kernel, rfl, ?_⟩
    rintro ⟨⟩
  · refine (trailing _ (List.mem_singleton_self _)).2 ⟨by decide +kernel, rfl, ?_, rfl⟩
    rintro ⟨⟩

/-- The export of a class that is declared elsewhere, with a definition before it. -/
def annotatedExport : Node :=
  .mk { id := 4, leading := [countDefinition] } (.exportNamed none
    [.mk { id := 5 } (.exportSpecifier (some (.mk { id := 6 } (.identifier "Foo"))) none)] none)

/-- A module with a class and its export. -/
def deferredScope : Scope where
  program := .mk { id := 0 } (.program [annotatedClass [] [], annotatedExport] [])
  filePath := "deferred.js"

/-- What is left when that module has been documented into an empty store. -/
def deferredEnd : Progress :=
  ((generate deferredScope).run.run (Program.start ⟨deferredScope.program, 7⟩ {})).2

/-- No record is made of a definition before a statement that is put aside. -/
theorem deferred_definition_lost :
    Ends (generate deferredScope) (Program.start ⟨deferredScope.program, 7⟩ {}) (.ok 0)
      deferredEnd ∧
    deferredEnd.invalid = [] ∧ annotatedExport ∈ deferredScope.program.body ∧
    (∃ occasion ∈ annotatedExport.leadingOccasions, occasion.comment.defines) ∧
    Doc.virtuals deferredEnd.store.docs = [] := by
  refine ⟨Prod.ext (by decide +kernel) rfl, by decide +kernel, ?_, ?_, ?_⟩
  · exact List.mem_cons_of_mem _ (List.mem_singleton_self _)
  · exact ⟨_, List.mem_singleton_self _, by decide +kernel⟩
  · refine List.eq_nil_of_length_eq_zero ?_
    decide +kernel

end Module

end DocHarvest
