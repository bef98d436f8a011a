import DocHarvest.Node.Walk
import DocHarvest.Proofs.Run.Ends
import Mathlib.Data.List.Basic
import Mathlib.Data.List.Flatten

/-!
# The places of a program

A place is a node together with the nodes around it. `Place.reach` lists the places below a place in
the order of the walk, so that a walk is a loop over a list: `ends_walkStack` turns the one into the
other, and `Rooted` says that every place of the list comes after the place that it is a part of.
-/

namespace DocHarvest

/-- A node of a program with the nodes around it, nearest first. -/
structure Place where
  node : Node
  above : List Node

namespace Place

/-- The parts of the node of a place. -/
def parts (place : Place) : List Place :=
  place.node.children.map fun part => ⟨part, place.node :: place.above⟩

theorem mem_parts {part place : Place} :
    part ∈ place.parts ↔ part.node ∈ place.node.children ∧ part.above = place.node :: place.above := by
  rcases part with ⟨node, above⟩
  simp only [parts, List.mem_map, mk.injEq]
  constructor
  · rintro ⟨child, isChild, rfl, rfl⟩
    exact ⟨isChild, rfl⟩
  · rintro ⟨isChild, rfl⟩
    exact ⟨node, isChild, rfl, rfl⟩

theorem sizeOf_lt_of_mem_parts {part place : Place} (isPart : part ∈ place.parts) :
    sizeOf part.node < sizeOf place.node :=
  Node.sizeOf_lt_of_mem_children (mem_parts.1 isPart).1

/-- A place and those below it, in the order of a walk that goes into some nodes only. -/
def reach (enters : Node → Bool) (place : Place) : List Place :=
  place :: if enters place.node then place.parts.attach.flatMap fun part => reach enters part.1
    else []
termination_by sizeOf place.node
decreasing_by exact sizeOf_lt_of_mem_parts part.2

variable {enters : Node → Bool}

theorem reach_of_enters {place : Place} (entered : enters place.node) :
    place.reach enters = place :: place.parts.flatMap (reach enters) := by
  rw [reach, if_pos entered]
  simp

theorem reach_of_all (place : Place) :
    place.reach (fun _ => true) = place :: place.parts.flatMap (reach fun _ => true) :=
  reach_of_enters rfl

theorem reach_of_not_enters {place : Place} (skipped : enters place.node = false) :
    place.reach enters = [place] := by
  rw [reach, skipped]
  rfl

theorem self_mem_reach (place : Place) : place ∈ place.reach enters := by
  cases entered : enters place.node with
  | true => simp [reach_of_enters entered]
  | false => simp [reach_of_not_enters entered]

/-- What holds of the places of a list and is handed down to parts holds below the list. -/
theorem forall_mem_reach {holds : Place → Prop}
    (handed : ∀ place, holds place → enters place.node → ∀ part ∈ place.parts, holds part) :
    ∀ place : Place, holds place → ∀ below ∈ place.reach enters, holds below := by
  intro place
  induction place using reach.induct with
  | case1 place ih =>
      intro start below isBelow
      cases entered : enters place.node with
      | false =>
          rw [reach_of_not_enters entered, List.mem_singleton] at isBelow
          rwa [isBelow]
      | true =>
          rw [reach_of_enters entered] at isBelow
          rcases List.mem_cons.1 isBelow with rfl | isDeeper
          · exact start
          · rcases List.mem_flatMap.1 isDeeper with ⟨part, isPart, isReached⟩
            exact ih ⟨part, isPart⟩ (handed place start entered part isPart) below isReached

theorem parts_mem_reach (start : Place) {place : Place} (reached : place ∈ start.reach enters)
    (entered : enters place.node) {part : Place} (isPart : part ∈ place.parts) :
    part ∈ start.reach enters := by
  induction start using reach.induct with
  | case1 start ih =>
      cases startEntered : enters start.node with
      | false =>
          rw [reach_of_not_enters startEntered, List.mem_singleton] at reached
          rw [reached, startEntered] at entered
          cases entered
      | true =>
          rw [reach_of_enters startEntered] at reached ⊢
          refine List.mem_cons_of_mem _ (List.mem_flatMap.2 ?_)
          rcases List.mem_cons.1 reached with rfl | isDeeper
          · exact ⟨part, isPart, self_mem_reach part⟩
          · rcases List.mem_flatMap.1 isDeeper with ⟨first, isFirst, isBelow⟩
            exact ⟨first, isFirst, ih ⟨first, isFirst⟩ isBelow⟩

theorem reach_subset {start place : Place} (reached : place ∈ start.reach enters) :
    place.reach enters ⊆ start.reach enters := by
  let holds (below : Place) : Prop := below ∈ start.reach enters
  have handed (outer : Place) (held : holds outer) (entered : enters outer.node) (part : Place)
      (isPart : part ∈ outer.parts) : holds part := parts_mem_reach start held entered isPart
  exact forall_mem_reach handed place reached

theorem length_above_le_of_mem_reach {place below : Place} (isBelow : below ∈ place.reach enters) :
    place.above.length ≤ below.above.length := by
  let holds (below : Place) : Prop := place.above.length ≤ below.above.length
  have handed (outer : Place) (held : holds outer) (_ : enters outer.node) (part : Place)
      (isPart : part ∈ outer.parts) : holds part := by
    change place.above.length ≤ part.above.length
    rw [(mem_parts.1 isPart).2]
    exact Nat.le_succ_of_le held
  exact forall_mem_reach handed place (Nat.le_refl _) below isBelow

/-- A place that is reached is the start or a part of another one that is gone into. -/
theorem reach_cases {start place : Place} (reached : place ∈ start.reach enters) :
    place = start ∨ ∃ outer ∈ start.reach enters, enters outer.node ∧ place ∈ outer.parts := by
  let holds (place : Place) : Prop := place ∈ start.reach enters ∧
    (place = start ∨ ∃ outer ∈ start.reach enters, enters outer.node ∧ place ∈ outer.parts)
  have handed (outer : Place) (held : holds outer) (entered : enters outer.node) (part : Place)
      (isPart : part ∈ outer.parts) : holds part :=
    ⟨parts_mem_reach start held.1 entered isPart, Or.inr ⟨outer, held.1, entered, isPart⟩⟩
  exact (forall_mem_reach handed start ⟨self_mem_reach start, Or.inl rfl⟩ place reached).2

/-- A walk that goes into fewer nodes reaches some of the places, in the same order. -/
theorem reach_sublist (place : Place) :
    (place.reach enters).Sublist (place.reach fun _ => true) := by
  induction place using reach.induct with
  | case1 place ih =>
      rw [reach_of_all]
      cases entered : enters place.node with
      | false =>
          rw [reach_of_not_enters entered]
          exact (List.nil_sublist _).cons_cons _
      | true =>
          rw [reach_of_enters entered]
          refine List.Sublist.cons_cons _ ?_
          exact List.Sublist.flatMap_right _ fun part isPart => ih ⟨part, isPart⟩

/-- A walk that goes into fewer nodes takes the same as one that takes nothing where it skips. -/
theorem filterMap_reach_eq {α : Type} {take keep : Place → Option α} {known : Place → Prop}
    (handed : ∀ place, known place → enters place.node → ∀ part ∈ place.parts, known part)
    (entered : ∀ place, known place → enters place.node → take place = keep place)
    (skipped : ∀ place, known place → enters place.node = false →
      take place = none ∧ ∀ below ∈ place.reach fun _ => true, keep below = none)
    (place : Place) (isKnown : known place) :
    (place.reach enters).filterMap take = (place.reach fun _ => true).filterMap keep := by
  induction place using reach.induct with
  | case1 place ih =>
      cases goesIn : enters place.node with
      | false =>
          rcases skipped place isKnown goesIn with ⟨nothing, nothingBelow⟩
          rw [reach_of_not_enters goesIn, List.filterMap_eq_nil_iff.2 nothingBelow]
          simp [nothing]
      | true =>
          have rest : place.parts.flatMap (fun part => (part.reach enters).filterMap take) =
              place.parts.flatMap fun part => (part.reach fun _ => true).filterMap keep :=
            List.flatMap_congr fun part isPart =>
              ih ⟨part, isPart⟩ (handed place isKnown goesIn part isPart)
          rw [reach_of_enters goesIn, reach_of_all, List.filterMap_cons, List.filterMap_cons,
            entered place isKnown goesIn, List.filterMap_flatMap, List.filterMap_flatMap, rest]

/-! ## The order of the walk -/

/-- Every place of a list is a part of one that is known or comes before it. -/
def Rooted (enters : Node → Bool) : List Place → List Place → Prop
  | _, [] => True
  | known, place :: rest =>
      (∃ outer ∈ known, enters outer.node ∧ place ∈ outer.parts) ∧
        Rooted enters (known ++ [place]) rest

theorem Rooted.append {known first second : List Place} (rootedFirst : Rooted enters known first)
    (rootedSecond : Rooted enters (known ++ first) second) :
    Rooted enters known (first ++ second) := by
  induction first generalizing known with
  | nil => simpa using rootedSecond
  | cons place rest ih =>
      exact ⟨rootedFirst.1, ih rootedFirst.2 (by simpa using rootedSecond)⟩

theorem Rooted.flatMapOf {place : Place} {parts : List Place} (areParts : parts ⊆ place.parts)
    (each : ∀ part ∈ place.parts, ∀ known : List Place, place ∈ known →
      Rooted enters known (part.reach enters))
    {known : List Place} (isKnown : place ∈ known) :
    Rooted enters known (parts.flatMap (Place.reach enters)) := by
  induction parts generalizing known with
  | nil => trivial
  | cons part rest ih =>
      rw [List.flatMap_cons]
      refine (each part (areParts (List.mem_cons_self ..)) known isKnown).append ?_
      exact ih (fun other isOther => areParts (List.mem_cons_of_mem _ isOther))
        (List.mem_append_left _ isKnown)

theorem Rooted.reach {known : List Place} (place : Place)
    (isPart : ∃ outer ∈ known, enters outer.node ∧ place ∈ outer.parts) :
    Rooted enters known (place.reach enters) := by
  induction place using reach.induct generalizing known with
  | case1 place ih =>
      cases entered : enters place.node with
      | false =>
          rw [reach_of_not_enters entered]
          exact ⟨isPart, trivial⟩
      | true =>
          rw [reach_of_enters entered]
          refine ⟨isPart, flatMapOf (List.Subset.refl _) ?_ (by simp)⟩
          exact fun part isPart _ isKnown =>
            ih ⟨part, isPart⟩ ⟨place, isKnown, entered, isPart⟩

theorem Rooted.flatMap {place : Place} (entered : enters place.node) {parts : List Place}
    (areParts : parts ⊆ place.parts) {known : List Place} (isKnown : place ∈ known) :
    Rooted enters known (parts.flatMap (Place.reach enters)) :=
  flatMapOf areParts
    (fun part isPart _ isKnown => Rooted.reach part ⟨place, isKnown, entered, isPart⟩) isKnown

/-- The walk starts with a place, and everything else is rooted in it. -/
theorem Rooted.exists_reach (enters : Node → Bool) (place : Place) :
    ∃ rest, place.reach enters = place :: rest ∧ Rooted enters [place] rest := by
  cases entered : enters place.node with
  | false => exact ⟨[], reach_of_not_enters entered, trivial⟩
  | true =>
      refine ⟨_, reach_of_enters entered, ?_⟩
      exact Rooted.flatMap entered (List.Subset.refl _) (List.mem_singleton_self place)

/-- A place as it stands on the stack of the walk. -/
def frame (place : Place) : Node × Option Node :=
  (place.node, place.above.head?)

end Place

namespace Node

open Run

theorem map_frame_parts (place : Place) : place.parts.map Place.frame = place.node.partsOf := by
  simp [Place.parts, partsOf, Place.frame]

/-- A walk is a loop over the places that it reaches, up to the fault that ends it. -/
theorem ends_walkStack {visit : Node → Option Node → Run Descent} {enters : Node → Bool}
    (descends : ∀ node parent {before descent after},
      Ends (visit node parent) before (.ok descent) after →
        descent = if enters node then .enter else .skip)
    (places : List Place) {before after : Progress} {outcome : Except Fault Unit}
    (ended : Ends (walkStack visit (places.map Place.frame)) before outcome after) :
    Ends ((places.flatMap (Place.reach enters)).forM fun place =>
      visit place.node place.above.head? >>= fun _ => pure ()) before outcome after := by
  generalize onStack : places.map Place.frame = stack at ended
  induction stack using walkStack.induct generalizing places before with
  | case1 =>
      rw [List.map_eq_nil_iff] at onStack
      subst onStack
      simpa [walkStack] using ended
  | case2 node parent rest skipped entered =>
      cases places with
      | nil => cases onStack
      | cons place others =>
          rcases List.cons.inj onStack with ⟨same, rfl⟩
          cases same
          rw [walkStack] at ended
          rcases ends_bind.1 ended with ⟨descent, middle, visited, rested⟩ | ⟨fault, failed, rfl⟩
          · have descended := descends _ _ visited
            have looped {more : List Place} (rested : Ends (more.forM fun place =>
                visit place.node place.above.head? >>= fun _ => pure ()) middle outcome after) :
                Ends ((place :: more).forM fun place =>
                  visit place.node place.above.head? >>= fun _ => pure ()) before outcome after := by
              rw [forM_cons, bind_assoc]
              exact ends_bind.2 (Or.inl ⟨descent, middle, visited, by simpa only [pure_bind] using rested⟩)
            rw [List.flatMap_cons]
            cases goesIn : enters place.node with
            | false =>
                rw [goesIn] at descended
                subst descended
                rw [Place.reach_of_not_enters goesIn]
                exact looped (skipped others rfl rested)
            | true =>
                rw [goesIn] at descended
                subst descended
                rw [Place.reach_of_enters goesIn, List.cons_append, ← List.flatMap_append]
                refine looped (entered _ ?_ rested)
                rw [List.map_append, map_frame_parts]
          · rw [List.flatMap_cons, Place.reach, List.cons_append, forM_cons, bind_assoc]
            exact ends_bind.2 (Or.inr ⟨fault, failed, rfl⟩)

end Node

end DocHarvest
