import DocHarvest.Proofs.Module.Offers

/-!
# What the walk leaves behind

Some visits of the walk leave something in the store that nothing takes away again. `Visits` is about a
statement of which every visit that documents it does: then the walk leaves this behind, as it comes to
the statement, and passes it over only if it has been documented before.
-/

namespace DocHarvest

open Run

namespace Module

variable {scope : Scope} {statement : Node} {done : Store → Prop} {before after : Progress}

/-- A statement that is not put aside, of which every visit that documents it gets something done. -/
structure Visits (scope : Scope) (statement : Node) (done : Store → Prop) : Prop where
  isWalked : ⟨statement, [scope.program]⟩ ∈ scope.program.walked
  entered : Export.isDeferred scope.program statement = false
  lone : ∀ place ∈ scope.program.places, place.node.exported? ≠ some statement
  unbound : ∀ place ∈ scope.program.places, place.node.id = statement.id → place.isBound = false
  kept : ∀ {fits : Doc → Prop} {store larger : Store}, store.Grows fits larger → done store →
    done larger
  documents : ∀ {place : Place} {before after : Progress} {descent : Node.Descent},
    place ∈ scope.program.places → place.node = statement →
    scope.program.Below before.nextNode → before.visited.contains statement.id = false →
    Ends (enter scope statement place.above.head?) before (.ok descent) after →
    after.invalid = before.invalid → done after.store

/-- What is known on the walk: if the statement has been visited, then its work is done. -/
structure Awaits (scope : Scope) (statement : Node) (done : Store → Prop) (state : Progress) :
    Prop where
  below : scope.program.Below state.nextNode
  done : state.visited.contains statement.id → done state.store

namespace Visits

theorem id_ne (visits : Visits scope statement done) (coherent : scope.program.IsCoherent) :
    statement.id ≠ scope.program.id :=
  Place.id_ne_of_above_ne_nil coherent (Node.walked_subset_places visits.isWalked) (by simp)

/-- A visit of the walk marks the statement as visited only when it gets its work done. -/
theorem enter (visits : Visits scope statement done) (coherent : scope.program.IsCoherent)
    (awaits : Awaits scope statement done before) {place : Place}
    (isPlace : place ∈ scope.program.places) {descent : Node.Descent}
    (ended : Ends (Module.enter scope place.node place.above.head?) before (.ok descent) after)
    (faultless : after.invalid = before.invalid) :
    Awaits scope statement done after ∧
      (∀ id, before.visited.contains id → after.visited.contains id) ∧
      (place.node = statement → after.visited.contains statement.id) := by
  have isStatement := Node.walked_subset_places visits.isWalked
  have still (wasVisited : before.visited.contains statement.id) : done after.store :=
    visits.kept ((enter_sound scope _ _).reaches ended).grows (awaits.done wasVisited)
  -- A node is newly marked because it is visited itself, because it is the declaration of the export
  -- that is visited, or because it describes what is around it; only the first concerns a statement.
  rcases enter_cases isPlace ended with pushes | idles
  · refine ⟨⟨fun other isOther => Nat.lt_of_lt_of_le (awaits.below other isOther) pushes.nextNode,
      fun isVisited => ?_⟩, pushes.kept, ?_⟩
    · rcases pushes.traced _ isVisited with wasVisited | isMark | ⟨part, isPart, same, isBound⟩
      · exact still wasVisited
      · rcases List.mem_cons.1 isMark with same | isWrapped
        · have equal : place.node = statement := coherent place isPlace _ isStatement same.symm
          exact visits.documents isPlace equal awaits.below (equal ▸ pushes.unvisited)
            (equal ▸ ended) faultless
        · rcases List.mem_map.1 isWrapped with ⟨wrapped, isWrapped, same⟩
          have isExported := Option.mem_toList.1 isWrapped
          have equal : wrapped = statement := coherent _
            (Place.exported_mem_places isPlace isExported) _ isStatement same
          exact absurd (equal ▸ isExported) (visits.lone place isPlace)
      · rw [visits.unbound part isPart same] at isBound
        cases isBound
    · rintro rfl
      exact pushes.marks _ (List.mem_cons_self ..)
  · refine ⟨⟨idles.nextNode ▸ awaits.below, fun isVisited => still (by rwa [← idles.visited])⟩,
      fun id isVisited => by rwa [idles.visited], ?_⟩
    rintro rfl
    rcases idles.reason with deferred | isRoot | isVisited
    · exact absurd deferred (by simp [visits.entered])
    · exact absurd isRoot (visits.id_ne coherent)
    · rwa [idles.visited]

theorem loop (visits : Visits scope statement done) (coherent : scope.program.IsCoherent)
    (awaits : Awaits scope statement done before) {places : List Place}
    (arePlaces : places ⊆ scope.program.places)
    (ended : Ends (places.forM fun place => Module.enter scope place.node place.above.head? >>=
      fun _ => pure ()) before (.ok ()) after)
    (faultless : after.invalid = before.invalid) :
    Awaits scope statement done after ∧
      (∀ id, before.visited.contains id → after.visited.contains id) ∧
      ((∃ place ∈ places, place.node = statement) → after.visited.contains statement.id) := by
  induction places generalizing before with
  | nil =>
      rcases ends_forM_nil.1 ended with ⟨-, rfl⟩
      exact ⟨awaits, fun _ isVisited => isVisited, by simp⟩
  | cons place rest ih =>
      rcases ends_loop_cons ended faultless with ⟨descent, middle, visited, same, later, sameToo⟩
      rcases visits.enter coherent awaits (arePlaces (List.mem_cons_self ..)) visited same with
        ⟨awaitsToo, longer, marked⟩
      rcases ih awaitsToo (List.subset_of_cons_subset arePlaces) later sameToo with
        ⟨finished, longerToo, markedToo⟩
      refine ⟨finished, fun id isVisited => longerToo id (longer id isVisited), ?_⟩
      rintro ⟨other, isOther, equal⟩
      rcases List.mem_cons.1 isOther with rfl | isLater
      · exact longerToo _ (marked equal)
      · exact markedToo ⟨other, isLater, equal⟩

/-- Where the walk comes to a statement, its work is done in the end. -/
theorem firstPass (visits : Visits scope statement done) (coherent : scope.program.IsCoherent)
    (awaits : Awaits scope statement done before)
    (ended : Ends (Module.firstPass scope) before (.ok ()) after)
    (faultless : after.invalid = before.invalid) : done after.store := by
  rcases visits.loop coherent awaits Node.walked_subset_places (ends_walked ended) faultless with
    ⟨finished, -, marked⟩
  exact finished.done (marked ⟨_, visits.isWalked, rfl⟩)

end Visits

/-! ## From the start -/

theorem prepare_binds {start opened : Progress} {id : Int}
    (ended : Ends (prepare scope) start (.ok id) opened) : Binds scope.program start opened := by
  have drawn := ends_lift_bind.1 ended
  rcases ends_bind_ok.1 drawn with ⟨_, stored, storing, rest⟩
  rcases ends_bind_ok.1 rest with ⟨_, documented, inner, rested⟩
  rcases ends_pure.1 rested with ⟨-, rfl⟩
  have isFile : (if scope.code.isSome then Category.memory else .file).isFile := by
    split <;> rfl
  have opens := (storeModule_documents isFile storing).binds
  have inside := (documentInner_documents inner).binds
  exact Binds.trans ⟨opens.nextNode, opens.kept, opens.bound⟩ inside

/-- The work on a module comes to its statements with all of them unvisited. -/
theorem Visits.walkthrough {id : Int} (visits : Visits (within scope id) statement done)
    (coherent : scope.program.IsCoherent) {store : Store} {nextNode : NodeId}
    (below : scope.program.Below nextNode) {opened walked : Progress}
    (stages : Stages scope id (Program.start ⟨scope.program, nextNode⟩ store) opened walked after)
    (faultless : walked.invalid = opened.invalid) : done walked.store := by
  have binds := prepare_binds stages.opens
  refine visits.firstPass coherent ⟨?_, fun isVisited => ?_⟩ stages.walks faultless
  · exact fun place isPlace => Nat.lt_of_lt_of_le (below place isPlace) binds.nextNode
  · rcases binds.bound _ isVisited with wasVisited | ⟨part, isPart, same, isBound⟩
    · have unvisited : (∅ : Std.TreeSet NodeId).contains statement.id = false :=
        Std.TreeSet.contains_emptyc
      cases unvisited.symm.trans wasVisited
    · rw [visits.unbound part isPart same] at isBound
      cases isBound

end Module

end DocHarvest
