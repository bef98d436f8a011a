import DocHarvest.Proofs.Node.Tree
import DocHarvest.Proofs.Record.Built

/-!
# The `return`s of a function

The result of a function is guessed from the `return`s that the walk over its body meets. The walk
keeps out of the functions inside, so these are the `return`s whose innermost function is the
function itself, unless the body is a function too: the walk goes into its start, whatever that is,
and the guess is then made from the `return`s of the body.
-/

namespace DocHarvest

variable {function owner body : Node} {start place : Place}

namespace Node

/-- The argument of a `return`. -/
def returned? (node : Node) : Option Node :=
  match node.shape with
  | .returnStatement argument => argument
  | _ => none

theorem returned?_of_isFunctionLike {node : Node} (isFunction : node.shape.isFunctionLike) :
    node.returned? = none := by
  unfold returned?
  split
  · next shape =>
    rw [shape] at isFunction
    cases isFunction
  · rfl

theorem mem_children_of_returned? {node argument : Node} (isReturned : node.returned? = some argument) :
    argument ∈ node.children := by
  unfold returned? at isReturned
  split at isReturned
  · next shape => simp [children, shape, Shape.children, isReturned]
  · cases isReturned

end Node

namespace Place

/-- The innermost function around a place. -/
def innermostFunction? (place : Place) : Option Node :=
  place.above.find? fun outer => outer.shape.isFunctionLike

/-- The argument of a `return` that belongs to a function. -/
def returnedTo? (owner : Node) (place : Place) : Option Node :=
  if place.innermostFunction?.map Node.id = some owner.id then place.node.returned? else none

/-- The arguments of the `return`s from a place on that belong to a function. -/
def returnsTo (owner : Node) (start : Place) : List Node :=
  (start.reach fun _ => true).filterMap (returnedTo? owner)

theorem innermostFunction?_of_mem_parts {part : Place} (isPart : part ∈ place.parts) :
    part.innermostFunction? =
      if place.node.shape.isFunctionLike then some place.node else place.innermostFunction? := by
  simp only [innermostFunction?, (mem_parts.1 isPart).2, List.find?_cons]
  cases place.node.shape.isFunctionLike <;> rfl

theorem id_ne_of_mem_reach (coherent : function.IsCoherent) (isPlace : place ∈ function.places)
    (isBelow : place ∈ start.reach fun _ => true) (inside : place ≠ start) :
    place.node.id ≠ start.node.id := by
  have isOuter : start ∈ outers place.above := by
    apply (List.mem_cons.1 (mem_lineage_of_mem_reach isBelow)).resolve_left
    exact Ne.symm inside
  have isAbove : start.node.id ∈ place.above.map Node.id := by
    apply List.mem_map_of_mem
    exact (suffix_of_mem_outers isOuter).subset (List.mem_cons_self ..)
  intro same
  rw [← same] at isAbove
  exact (List.nodup_cons.1 (nodup_lineage coherent isPlace)).1 isAbove

/-- No `return` inside of a function belongs to the function around it. -/
theorem returnedTo?_of_isFunctionLike (coherent : function.IsCoherent) {below : Place}
    (isPlace : below ∈ function.places) (isBelow : below ∈ place.reach fun _ => true)
    (isFunction : place.node.shape.isFunctionLike) (around : place.innermostFunction? = some owner) :
    returnedTo? owner below = none := by
  rcases List.mem_cons.1 (mem_lineage_of_mem_reach isBelow) with rfl | isOuter
  · simp [returnedTo?, Node.returned?_of_isFunctionLike isFunction]
  · obtain ⟨skipped, wayOut⟩ := suffix_of_mem_outers isOuter
    have distinct := (List.nodup_cons.1 (nodup_lineage coherent isPlace)).2
    rw [← wayOut, ← List.singleton_append, ← List.append_assoc, List.map_append] at distinct
    -- the innermost function is met on the way from the inner place to the function in between
    have isFound : ∃ inner ∈ skipped ++ [place.node], below.innermostFunction? = some inner := by
      simp only [innermostFunction?, ← wayOut, List.find?_append, List.find?_cons, isFunction]
      cases found : skipped.find? fun outer => outer.shape.isFunctionLike with
      | none => exact ⟨place.node, by simp, rfl⟩
      | some inner => exact ⟨inner, by simp [List.mem_of_find?_eq_some found], rfl⟩
    rcases isFound with ⟨inner, isInner, found⟩
    have differs : inner.id ≠ owner.id := by
      intro same
      apply List.disjoint_of_nodup_append distinct (List.mem_map_of_mem isInner)
      rw [same]
      exact List.mem_map_of_mem (List.mem_of_find?_eq_some around)
    simp [returnedTo?, found, differs]

end Place

namespace Param

/-- Whether the walk over a body goes into a node. -/
def entersFrom (body node : Node) : Bool :=
  node.id == body.id || !node.shape.isFunctionLike

theorem visitReturn_run_of_enters {node : Node} (entered : entersFrom body node) (found : List Node) :
    (visitReturn body.id node).run found = (.enter, node.returned?.toList ++ found) := by
  have goesIn : ¬ (node.id != body.id && node.shape.isFunctionLike) := by
    simpa [entersFrom, or_iff_not_imp_left] using entered
  unfold visitReturn
  rw [if_neg goesIn]
  cases shape : node.shape <;> try simp [Node.returned?, shape]; rfl
  case returnStatement argument =>
    cases argument <;> simp [Node.returned?, shape] <;> rfl

theorem visitReturn_run_of_not_enters {node : Node} (skipped : entersFrom body node = false)
    (found : List Node) :
    (visitReturn body.id node).run found = (.skip, node.returned?.toList ++ found) := by
  have staysOut : (node.id != body.id && node.shape.isFunctionLike) = true := by
    simpa [entersFrom] using skipped
  unfold visitReturn
  rw [if_pos staysOut, Node.returned?_of_isFunctionLike (Bool.and_eq_true_iff.1 staysOut).2]
  rfl

/-- The walk notes what is returned at the places that it reaches, the last one first. -/
theorem walkStack_visitReturn_run (body : Node) {stack : Node.Stack} {places : List Place}
    (onStack : stack.map Prod.fst = places.map Place.node) (found : List Node) :
    ((Node.walkStack (fun node _ => visitReturn body.id node) stack).run found).2 =
      ((places.flatMap (Place.reach (entersFrom body))).filterMap
        fun place => place.node.returned?).reverse ++ found := by
  induction stack using Node.walkStack.induct generalizing places found with
  | case1 =>
      have nothing : places = [] := by simpa using onStack.symm
      subst nothing
      rw [Node.walkStack]
      rfl
  | case2 node parent rest skipped entered =>
      cases places with
      | nil => cases onStack
      | cons place others =>
          rcases List.cons.inj onStack with ⟨rfl, others'⟩
          rw [Node.walkStack, StateT.run_bind, List.flatMap_cons]
          cases goesIn : entersFrom body place.node with
          | false =>
              rw [visitReturn_run_of_not_enters goesIn, Place.reach_of_not_enters goesIn]
              refine (skipped others' (place.node.returned?.toList ++ found)).trans ?_
              cases returned : place.node.returned? <;> simp [returned]
          | true =>
              have parts : (place.node.partsOf ++ rest).map Prod.fst =
                  (place.parts ++ others).map Place.node := by
                rw [List.map_append, List.map_append, others', ← Node.map_frame_parts, List.map_map]
                rfl
              rw [visitReturn_run_of_enters goesIn, Place.reach_of_enters goesIn]
              refine (entered parts (place.node.returned?.toList ++ found)).trans ?_
              cases returned : place.node.returned? <;> simp [returned]

theorem returns_eq (start : Place) :
    returns start.node = ((start.reach (entersFrom start.node)).filterMap
      fun place => place.node.returned?).reverse := by
  have onStack : ([(start.node, none)] : Node.Stack).map Prod.fst = [start].map Place.node := rfl
  have walked := walkStack_visitReturn_run start.node onStack []
  simpa [returns, Node.walk] using walked

/-- The walk over a body keeps to the `return`s of the innermost function at its start. -/
theorem returns_eq_returnsTo (coherent : function.IsCoherent) (isPlace : start ∈ function.places)
    (owns : (if start.node.shape.isFunctionLike then some start.node else start.innermostFunction?) =
      some owner) :
    returns start.node = (start.returnsTo owner).reverse := by
  let known (place : Place) : Prop := place ∈ start.reach (fun _ => true) ∧
    (place = start ∨ place.innermostFunction? = some owner)
  have plain {place : Place} (isKnown : known place) (inside : place ≠ start)
      (entered : entersFrom start.node place.node) : place.node.shape.isFunctionLike = false := by
    have isBelow := Place.reach_subset isPlace isKnown.1
    have differs := Place.id_ne_of_mem_reach coherent isBelow isKnown.1 inside
    simpa [entersFrom, differs] using entered
  rw [returns_eq, Place.returnsTo]
  congr 1
  apply @Place.filterMap_reach_eq _ _ _ _ known
  · intro place isKnown entered part isPart
    refine ⟨Place.parts_mem_reach start isKnown.1 rfl isPart, Or.inr ?_⟩
    rw [Place.innermostFunction?_of_mem_parts isPart]
    rcases isKnown.2 with rfl | around
    · exact owns
    · by_cases isStart : place = start
      · rw [isStart]
        exact owns
      · rw [plain isKnown isStart entered]
        exact around
  · intro place isKnown entered
    cases isFunction : place.node.shape.isFunctionLike with
    | true => simp [Place.returnedTo?, Node.returned?_of_isFunctionLike isFunction]
    | false =>
        have around : place.innermostFunction? = some owner := by
          rcases isKnown.2 with rfl | around
          · simpa [isFunction] using owns
          · exact around
        simp [Place.returnedTo?, around]
  · intro place isKnown skipped
    have inside : place.node.id ≠ start.node.id ∧ place.node.shape.isFunctionLike := by
      simpa [entersFrom] using skipped
    have around : place.innermostFunction? = some owner := by
      apply isKnown.2.resolve_left
      rintro rfl
      exact inside.1 rfl
    refine ⟨Node.returned?_of_isFunctionLike inside.2, fun below isBelow => ?_⟩
    have isBelowStart := Place.reach_subset isKnown.1 isBelow
    exact Place.returnedTo?_of_isFunctionLike coherent (Place.reach_subset isPlace isBelowStart) isBelow
      inside.2 around
  · exact ⟨Place.self_mem_reach start, Or.inl rfl⟩

/-- What is guessed from the last of some expressions, if all that they show can be written out. -/
def guessLast (expressions : List Node) : Except Fault (Option Param) :=
  List.getLast? <$> expressions.mapM fun expression => guessType (some expression)

theorem mapM_guessType (expressions : List Node) :
    (expressions.mapM fun expression => guessType (some expression)) =
      if expressions.all fun expression => typeIsWritable (some expression) then
        .ok (expressions.map fun expression => ofExpression (some expression))
      else .error .integerTooLong := by
  induction expressions with
  | nil => rfl
  | cons first rest ih =>
      rw [List.mapM_cons, ih, guessType, List.all_cons]
      cases typeIsWritable (some first) with
      | false => rfl
      | true =>
          cases rest.all fun expression => typeIsWritable (some expression) with
          | false => rfl
          | true => rfl

theorem guessResult_eq (body : Node) : guessResult (some body) = guessLast (returns body).reverse := by
  simp only [guessResult, guessLast, mapM_guessType, List.all_reverse, Option.map_some,
    Option.getD_some]
  split
  · simp [ofBody?, lastReturn?, Functor.map, Except.map, List.getLast?_reverse]
  · rfl

end Param

/-- The arguments of the `return`s in the body of a function that belong to the function itself. -/
def Node.ownReturns (function : Node) : List Node :=
  ((Draft.bodyNode? function).map fun body => (⟨body, [function]⟩ : Place).returnsTo function).getD []

namespace Draft

theorem statements?_of_isFunctionLike (isFunction : function.shape.isFunctionLike) :
    function.shape.statements? = none := by
  cases shape : function.shape <;> first | rfl | (rw [shape] at isFunction; cases isFunction)

theorem body_mem_places (hasBody : bodyNode? function = some body) :
    ⟨body, [function]⟩ ∈ function.places := by
  apply Node.parts_mem_places (Node.root_mem_places function)
  exact Place.mem_parts.2 ⟨bodyNode?_subset_children function (by simp [hasBody]), rfl⟩

theorem guessedResult_eq (isFunction : function.shape.isFunctionLike) (coherent : function.IsCoherent)
    (hasBody : bodyNode? function = some body) :
    guessedResult function =
      Param.guessLast ((⟨body, [function]⟩ : Place).returnsTo
        (if body.shape.isFunctionLike then body else function)) := by
  have owns : (if body.shape.isFunctionLike then some body
      else (⟨body, [function]⟩ : Place).innermostFunction?) =
        some (if body.shape.isFunctionLike then body else function) := by
    cases body.shape.isFunctionLike <;> simp [Place.innermostFunction?, isFunction]
  have returns := Param.returns_eq_returnsTo coherent (body_mem_places hasBody) owns
  simp [guessedResult, statements?_of_isFunctionLike isFunction, hasBody, Param.guessResult_eq, returns]

/-- No `return` in a body that is a function belongs to the function around it. -/
theorem ownReturns_eq_nil (isFunction : function.shape.isFunctionLike) (coherent : function.IsCoherent)
    (hasBody : bodyNode? function = some body) (bodyIsFunction : body.shape.isFunctionLike) :
    function.ownReturns = [] := by
  have isPlace := body_mem_places hasBody
  have around : (⟨body, [function]⟩ : Place).innermostFunction? = some function := by
    simp [Place.innermostFunction?, isFunction]
  rw [Node.ownReturns, hasBody, Option.map_some, Option.getD_some]
  apply List.filterMap_eq_nil_iff.2
  intro below isBelow
  exact Place.returnedTo?_of_isFunctionLike coherent (Place.reach_subset isPlace isBelow) isBelow
    bodyIsFunction around

/-- A record with a result that is guessed for its node. -/
inductive GuessesResult (node : Node) : Category → Prop
  | function : GuessesResult node .moduleFunction
  | method (ordinary : methodKindOf node ∉ [.constructor, .getter, .setter]) :
      GuessesResult node .classMethod

theorem resultOr_of_untagged {draft : Draft} {guess : Except Fault (Option Param)}
    (untagged : Tag.lastValue? ["@return", "@returns"] draft.tags = none) :
    draft.resultOr guess = guess := by
  simp only [resultOr, resultOf, untagged]
  rfl

theorem methodResult_of_ordinary {node : Node}
    (ordinary : methodKindOf node ∉ [.constructor, .getter, .setter]) :
    methodResult node = guessedResult node := by
  unfold methodResult
  split <;> simp_all

/-- Without a tag for it the result of a record is the one that is guessed for its node. -/
theorem result_of_build {draft : Draft} {category : Category} {doc : Doc}
    (guesses : GuessesResult draft.node category)
    (untagged : Tag.lastValue? ["@return", "@returns"] draft.tags = none)
    (built : draft.build category = .ok doc) : guessedResult draft.node = .ok doc.result := by
  cases guesses with
  | function =>
      replace built : draft.moduleFunction = .ok doc := built
      simp only [moduleFunction, bind_eq_ok, pure, Except.pure, Except.ok.injEq,
        resultOr_of_untagged untagged] at built
      rcases built with ⟨params, -, result, guessed, throws, -, emits, -, listens, -, rfl⟩
      exact guessed
  | method ordinary =>
      replace built : draft.classMethod = .ok doc := built
      simp only [classMethod, bind_eq_ok, pure, Except.pure, Except.ok.injEq,
        resultOr_of_untagged untagged, methodResult_of_ordinary ordinary] at built
      rcases built with
        ⟨name, -, params, -, result, guessed, type, -, throws, -, emits, -, listens, -, decorators, -,
         rfl⟩
      exact guessed

/--
The result of a function is guessed from the last `return` of its body that belongs to the function
itself, unless the body is a function too. Then there is no such `return`, and the guess is made
from those that belong to the body.
-/
theorem result_of_own_returns (isFunction : function.shape.isFunctionLike)
    (coherent : function.IsCoherent) :
    ((∀ body, bodyNode? function = some body → body.shape.isFunctionLike = false) →
      guessedResult function = Param.guessLast function.ownReturns) ∧
    (∀ body, bodyNode? function = some body → body.shape.isFunctionLike →
      function.ownReturns = [] ∧
        guessedResult function = Param.guessLast ((⟨body, [function]⟩ : Place).returnsTo body)) ∧
    ∀ (draft : Draft) (category : Category) (doc : Doc), draft.node = function →
      GuessesResult function category →
      Tag.lastValue? ["@return", "@returns"] draft.tags = none →
        draft.build category = .ok doc → guessedResult function = .ok doc.result := by
  refine ⟨?_, ?_, ?_⟩
  · intro plain
    cases hasBody : bodyNode? function with
    | none =>
        simp only [guessedResult, statements?_of_isFunctionLike isFunction, Node.ownReturns, hasBody]
        rfl
    | some body =>
        rw [guessedResult_eq isFunction coherent hasBody, plain body hasBody, Node.ownReturns, hasBody]
        rfl
  · intro body hasBody bodyIsFunction
    refine ⟨ownReturns_eq_nil isFunction coherent hasBody bodyIsFunction, ?_⟩
    rw [guessedResult_eq isFunction coherent hasBody, if_pos bodyIsFunction]
  · rintro draft category doc rfl guesses untagged built
    exact result_of_build guesses untagged built

/-- The function `() => { function inner() { return 1 } return "a" }`. -/
def withInner : Node :=
  .mk { id := 1 } (.arrow [] (some (.mk { id := 2 } (.block [
    .mk { id := 3 } (.function .declaration (some (.mk { id := 4 } (.identifier "inner"))) []
      (some (.mk { id := 5 } (.block [.mk { id := 6 } (.returnStatement
        (some (.mk { id := 7 } (.literal (.integer 1) .number))))]))) false false),
    .mk { id := 8 } (.returnStatement
      (some (.mk { id := 9 } (.literal (.text "a") .string))))]))) false false)

/-- The `return` of a function inside is left out. -/
theorem withInner_result : withInner.shape.isFunctionLike ∧ withInner.IsCoherent ∧
    guessedResult withInner = Param.guessLast withInner.ownReturns ∧
    withInner.ownReturns.map Node.id = [9] := by
  have isFunction : withInner.shape.isFunctionLike := rfl
  have coherent : withInner.IsCoherent := Node.IsTree.isCoherent (by decide +kernel)
  refine ⟨isFunction, coherent, ?_, by decide +kernel⟩
  apply (result_of_own_returns isFunction coherent).1
  rintro _ ⟨⟩
  rfl

/-- The function `() => () => { return 1 }`. -/
def curried : Node :=
  .mk { id := 1 } (.arrow [] (some (.mk { id := 2 } (.arrow [] (some (.mk { id := 3 } (.block [
    .mk { id := 4 } (.returnStatement (some (.mk { id := 5 } (.literal (.integer 1) .number))))])))
    false false))) false false)

/-- A function with a function for its body is given the result of that function. -/
theorem curried_result : curried.shape.isFunctionLike ∧ curried.IsTree ∧ curried.ownReturns = [] ∧
    (guessedResult curried).toOption.map (·.map Param.types) = some (some ["number"]) := by
  have none : curried.ownReturns.map Node.id = [] := by decide +kernel
  refine ⟨rfl, by decide +kernel, List.map_eq_nil_iff.1 none, by decide +kernel⟩

end Draft

end DocHarvest
