import DocHarvest.Proofs.Run.Lockstep

/-!
# Records behind other records

A module is documented in the same way whether its records come first in the store or behind others;
only the ids are moved. `Store.Behind` relates the store in which the records of a module are alone
to the one in which they come behind others. Building a record and storing it under the next id keep
in step.
-/

namespace DocHarvest

/-- A record with its id and the id of its module moved. -/
def Doc.moved (offset : Int) (doc : Doc) : Doc :=
  { doc with
    id := doc.id + offset
    moduleId := doc.moduleId.map (· + offset) }

/-- A record under another id, with the id of its module moved. -/
def Doc.renumbered (offset id : Int) (doc : Doc) : Doc :=
  { doc.moved offset with id }

theorem Doc.renumbered_id (offset : Int) (doc : Doc) :
    doc.renumbered offset (doc.id + offset) = doc.moved offset :=
  rfl

/-- A scope with the id of the module moved. -/
def Scope.moved (offset : Int) (scope : Scope) : Scope :=
  { scope with moduleId := scope.moduleId.map (· + offset) }

theorem Scope.moved_program (offset : Int) (scope : Scope) :
    (scope.moved offset).program = scope.program :=
  rfl

theorem Scope.moved_code (offset : Int) (scope : Scope) :
    (scope.moved offset).code = scope.code :=
  rfl

theorem Scope.moved_filter (offset : Int) (scope : Scope) :
    (scope.moved offset).filter = scope.filter :=
  rfl

/-- The filter of a scope does not depend on ids. -/
def Scope.Indifferent (scope : Scope) (offset : Int) : Prop :=
  ∀ filter ∈ scope.filter, ∀ doc : Doc, filter (doc.moved offset) = filter doc

/--
The records of the second store are some records, which are older than all ids to be drawn, and
behind them the moved ones of the first store, which all have ids from a floor on.
-/
structure Store.Behind (base : List Doc) (floor offset : Int) (alone joined : Store) : Prop where
  docs : joined.docs = base ++ alone.docs.map (Doc.moved offset)
  counter : joined.nextId = alone.nextId + offset
  older : ∀ doc ∈ base, doc.id < floor + offset
  own : ∀ doc ∈ alone.docs, floor ≤ doc.id ∧ doc.id < alone.nextId
  reached : floor ≤ alone.nextId

namespace Draft

/-- A record depends on the id of its module in one field, and on its own id in one. -/
theorem build_renumbered (scope : Scope) (offset : Int) (links : Links) (id other : Int)
    (category : Category) (node : Node) (tags : List Tag) :
    build ⟨scope.moved offset, links, other, node, tags⟩ category =
      Doc.renumbered offset other <$> build ⟨scope, links, id, node, tags⟩ category := by
  cases category with
  | file =>
      simp only [build, file, map_bind, map_pure]
      rfl
  | memory => rfl
  | testFile =>
      simp only [build, testFile, scope.moved_code]
      cases scope.code with
      | none =>
          simp only [file, map_bind, map_pure]
          rfl
      | some code => rfl
  | module => rfl
  | moduleClass =>
      simp only [build, moduleClass, map_bind, map_pure]
      rfl
  | moduleFunction =>
      simp only [build, moduleFunction, map_bind, map_pure]
      rfl
  | moduleVariable =>
      simp only [build, moduleVariable]
      cases node.firstDeclarator? with
      | none => rfl
      | some declarator =>
          simp only [map_bind, map_pure]
          rfl
  | moduleAssignment =>
      simp only [build, moduleAssignment, map_bind, map_pure]
      rfl
  | classMethod =>
      simp only [build, classMethod, map_bind, map_pure]
      rfl
  | classMember =>
      simp only [build, classMember, map_bind, map_pure]
      rfl
  | classProperty =>
      simp only [build, classProperty, map_bind, map_pure]
      rfl
  | virtualTypedef =>
      have parts (wanted : Param.Wanted) :
          partsOf ⟨scope.moved offset, links, other, node, tags⟩ "@typedef" wanted =
            partsOf ⟨scope, links, id, node, tags⟩ "@typedef" wanted := rfl
      simp only [build, typedef, parts]
      split
      · simp only [map_bind, map_pure]
        rfl
      · simp only [map_bind, map_pure]
        rfl
  | virtualExternal => rfl
  | test =>
      simp only [build, testBlock, map_bind, map_pure]
      rfl

end Draft

namespace Store.Behind

variable {base : List Doc} {floor offset : Int} {alone joined : Store}

theorem absent (behind : Behind base floor offset alone joined) :
    alone.get? alone.nextId = none ∧ joined.get? (alone.nextId + offset) = none := by
  constructor
  · exact get?_eq_none_of_below fun doc isStored => (behind.own doc isStored).2
  · apply get?_eq_none_of_below
    intro doc isStored
    rw [behind.docs, List.mem_append, List.mem_map] at isStored
    -- old records lie below the floor, and the moved ones below the moved counter
    rcases isStored with isOld | ⟨original, isOwn, rfl⟩
    · have := behind.older doc isOld
      have := behind.reached
      omega
    · have := (behind.own original isOwn).2
      simp only [Doc.moved]
      omega

theorem draw (behind : Behind base floor offset alone joined) :
    Behind base floor offset alone.draw.2 joined.draw.2 where
  docs := behind.docs
  counter := by
    have := behind.counter
    simp only [Store.draw]
    omega
  older := behind.older
  own doc isStored := by
    have := behind.own doc isStored
    simp only [Store.draw]
    omega
  reached := by
    have := behind.reached
    simp only [Store.draw]
    omega

theorem append (behind : Behind base floor offset alone joined) {doc : Doc}
    (drawn : doc.id = alone.nextId) :
    Behind base floor offset ⟨alone.docs ++ [doc], alone.nextId + 1⟩
      ⟨joined.docs ++ [doc.moved offset], joined.nextId + 1⟩ where
  docs := by simp [behind.docs]
  counter := by
    have := behind.counter
    simp only
    omega
  older := behind.older
  own other isStored := by
    have := behind.reached
    rcases List.mem_append.1 isStored with isOwn | isNew
    · have := behind.own other isOwn
      simp only
      omega
    · rw [List.mem_singleton.1 isNew, drawn]
      simp only
      omega
  reached := by
    have := behind.reached
    simp only
    omega

theorem modify (behind : Behind base floor offset alone joined) {id : Int} (own : floor ≤ id)
    (change : Doc → Doc) (keeps : ∀ doc, (change doc).id = doc.id)
    (commutes : ∀ doc : Doc, change (doc.moved offset) = (change doc).moved offset) :
    Behind base floor offset (alone.modify id change) (joined.modify (id + offset) change) where
  docs := by
    -- the records before have ids below the floor, so none of them is the one that is changed
    have untouched : base.map (fun doc => if doc.id == id + offset then change doc else doc) =
        base := by
      refine (List.map_congr_left fun doc isOld => ?_).trans (List.map_id base)
      have := behind.older doc isOld
      rw [if_neg (by simp; omega)]
      rfl
    simp only [Store.modify, behind.docs, List.map_append, untouched, List.map_map]
    congr 1
    apply List.map_congr_left
    intro doc _
    have same : (doc.moved offset).id == id + offset ↔ doc.id == id := by simp [Doc.moved]
    simp only [Function.comp_apply, same]
    split
    · exact commutes doc
    · rfl
  counter := behind.counter
  older := behind.older
  own doc isStored := by
    rcases List.mem_map.1 isStored with ⟨original, isOwn, rfl⟩
    have := behind.own original isOwn
    split
    · rwa [keeps]
    · exact this
  reached := behind.reached

/-- In a file that the records before do not come from, the same records are found. -/
theorem lookup? (behind : Behind base floor offset alone joined) {filePath : String}
    (unknown : ∀ doc ∈ base, doc.filePath ≠ filePath) (category : Category) (name : String) :
    joined.lookup? category name filePath =
      (alone.lookup? category name filePath).map (Doc.moved offset) := by
  unfold Store.lookup?
  split
  · rfl
  · have missed : base.find? (fun doc => doc.category == category && doc.name == some name &&
        doc.filePath == filePath) = none := by
      rw [List.find?_eq_none]
      intro doc isOld
      simp [unknown doc isOld]
    rw [behind.docs, List.find?_append, missed, Option.none_or, List.find?_map]
    rfl

end Store.Behind

/-! ## Storing records -/

/-- Whether the filter of a scope lets a record pass. -/
def Scope.passes (scope : Scope) (doc : Doc) : Except Fault Bool :=
  match scope.filter with
  | none => .ok true
  | some filter => filter doc

/-- The store when the filter has decided about a record. -/
def Store.accept (store : Store) (doc : Doc) (decided : Except Fault Bool) : Store :=
  match decided with
  | .ok true => { store with docs := store.docs ++ [doc] }
  | _ => store

theorem Scope.passes_moved {scope : Scope} {offset : Int} (indifferent : scope.Indifferent offset)
    (doc : Doc) : (scope.moved offset).passes (doc.moved offset) = scope.passes doc := by
  unfold Scope.passes
  rw [scope.moved_filter]
  cases given : scope.filter with
  | none => rfl
  | some filter => exact indifferent filter given doc

/-- Under an id that nothing is stored under, the filter decides. -/
theorem Store.insert_of_absent {store : Store} {doc : Doc} (absent : store.get? doc.id = none)
    (scope : Scope) : store.insert scope.filter doc =
      (fun passes => (passes, store.accept doc (.ok passes))) <$> scope.passes doc := by
  unfold insert Scope.passes
  cases scope.filter with
  | none =>
      rw [absent]
      rfl
  | some filter =>
      simp only
      cases filter doc with
      | error fault => rfl
      | ok passes =>
          cases passes with
          | false => rfl
          | true =>
              rw [absent]
              rfl

namespace Run

variable {scope : Scope} {base : List Doc} {floor offset : Int}
  {before beforeToo after : Progress}

theorem ends_insert_of_absent {doc : Doc} {outcome : Except Fault Bool}
    (absent : before.store.get? doc.id = none) :
    Ends (insert scope doc) before outcome after ↔ outcome = scope.passes doc ∧
      after = { before with store := before.store.accept doc outcome } := by
  have whole : Ends (insert scope doc) before (scope.passes doc)
      { before with store := before.store.accept doc (scope.passes doc) } := by
    refine ends_bind.2 (Or.inl ⟨before, before, ends_get.2 ⟨rfl, rfl⟩, ?_⟩)
    rw [Store.insert_of_absent absent]
    cases scope.passes doc with
    | error fault => exact ends_bind.2 (Or.inr ⟨fault, ends_liftExcept.2 ⟨rfl, rfl⟩, rfl⟩)
    | ok passes =>
        refine ends_bind.2 (Or.inl ⟨_, before, ends_liftExcept.2 ⟨rfl, rfl⟩, ?_⟩)
        exact ends_bind_ok.2 ⟨(), _, ends_modify.2 ⟨rfl, rfl⟩, ends_pure.2 ⟨rfl, rfl⟩⟩
  constructor
  · intro ended
    rcases whole.unique ended with ⟨rfl, rfl⟩
    exact ⟨rfl, rfl⟩
  · rintro ⟨rfl, rfl⟩
    exact whole

/-- The next id has been drawn in each of two stores that are in step. -/
def Drawn (base : List Doc) (floor offset id : Int) (left right : Store) : Prop :=
  ∃ alone joined : Store, alone.Behind base floor offset joined ∧ id = alone.nextId ∧
    left = alone.draw.2 ∧ right = joined.draw.2

theorem Drawn.behind {id : Int} {left right : Store}
    (drawn : Drawn base floor offset id left right) : left.Behind base floor offset right := by
  rcases drawn with ⟨alone, joined, behind, -, rfl, rfl⟩
  exact behind.draw

/-- A record under the ids drawn for it is stored in both stores, or in neither. -/
theorem insert_drawn_moved (indifferent : scope.Indifferent offset) {doc : Doc}
    {outcome : Except Fault Bool} (aligned : Over (Drawn base floor offset doc.id) before beforeToo)
    (ended : Ends (insert scope doc) before outcome after) :
    ∃ afterToo, Ends (insert (scope.moved offset) (doc.moved offset)) beforeToo outcome afterToo ∧
      Over (Store.Behind base floor offset) after afterToo := by
  rcases aligned.related with ⟨alone, joined, behind, isNext, left, right⟩
  have absent : before.store.get? doc.id = none := by
    rw [left, isNext]
    exact behind.absent.1
  have absentToo : beforeToo.store.get? (doc.moved offset).id = none := by
    have id : (doc.moved offset).id = alone.nextId + offset := by rw [← isNext]; rfl
    rw [right, id]
    exact behind.absent.2
  rcases (ends_insert_of_absent absent).1 ended with ⟨rfl, rfl⟩
  have passes := scope.passes_moved indifferent doc
  refine ⟨_, (ends_insert_of_absent absentToo).2 ⟨passes.symm, rfl⟩, ?_⟩
  apply aligned.stored
  rw [left, right]
  unfold Store.accept
  split
  · exact behind.append isNext
  · exact behind.draw

/-- Building a record keeps in step, for any two stores. -/
theorem build_lockstep (stores : Store → Store → Prop) (scope : Scope) (offset id other : Int)
    (category : Category) (node : Node) (tags : List Tag) :
    Lockstep stores (fun doc docToo => docToo = doc.renumbered offset other)
      (build scope id category node tags)
      (build (scope.moved offset) other category node tags) := by
  refine Lockstep.builds fun links => ?_
  have renumbers := Draft.build_renumbered scope offset links id other category node tags
  exact renumbers ▸ Alike.map fun doc => rfl

/-- Building a record under the ids drawn for it and storing it keep in step. -/
theorem build_insert_drawn_moved (indifferent : scope.Indifferent offset) {id : Int}
    {category : Category} {node : Node} {tags : List Tag} {outcome : Except Fault Bool}
    (aligned : Over (Drawn base floor offset id) before beforeToo)
    (ended : Ends (build scope id category node tags >>= insert scope) before outcome after) :
    ∃ afterToo, Ends (build (scope.moved offset) (id + offset) category node tags >>=
        insert (scope.moved offset)) beforeToo outcome afterToo ∧
      Over (Store.Behind base floor offset) after afterToo := by
  have builds := build_lockstep (Drawn base floor offset id) scope offset id (id + offset) category
    node tags
  rcases ends_bind.1 ended with ⟨doc, built, making, storing⟩ | ⟨fault, failed, rfl⟩
  · rcases builds aligned making with ⟨_, builtToo, makingToo, ⟨same⟩, alignedToo⟩
    rcases (build_sound making).2.2.1 doc rfl with ⟨links, heads⟩
    have hasId : doc.id = id := heads.id
    subst hasId
    rw [Doc.renumbered_id] at same
    subst same
    rcases insert_drawn_moved indifferent alignedToo storing with
      ⟨afterToo, storingToo, alignedAfter⟩
    exact ⟨afterToo, ends_bind.2 (Or.inl ⟨_, builtToo, makingToo, storingToo⟩), alignedAfter⟩
  · rcases builds aligned failed with ⟨_, afterToo, failedToo, ⟨⟩, alignedAfter⟩
    exact ⟨afterToo, ends_bind.2 (Or.inr ⟨fault, failedToo, rfl⟩),
      alignedAfter.mono fun drawn => drawn.behind⟩

theorem drawn_of_behind (aligned : Over (Store.Behind base floor offset) before beforeToo) :
    Over (Drawn base floor offset before.store.nextId)
      { before with store := before.store.draw.2 }
      { beforeToo with store := beforeToo.store.draw.2 } :=
  aligned.stored ⟨_, _, aligned.related, rfl, rfl, rfl⟩

theorem Lockstep.drawnBuild (indifferent : scope.Indifferent offset) (category : Category)
    (node : Node) (tags : List Tag) :
    Lockstep (Store.Behind base floor offset) (· = ·)
      (liftM drawId >>= fun id => build scope id category node tags >>= insert scope)
      (liftM drawId >>= fun id => build (scope.moved offset) id category node tags >>=
        insert (scope.moved offset)) := by
  intro before beforeToo outcome after aligned ended
  have drawn := ends_lift_bind.1 ended
  rcases build_insert_drawn_moved indifferent (drawn_of_behind aligned) drawn with
    ⟨afterToo, endedToo, alignedAfter⟩
  rw [← aligned.related.counter] at endedToo
  refine ⟨outcome, afterToo, ends_lift_bind.2 endedToo, ?_, alignedAfter⟩
  cases outcome with
  | ok stored => exact .ok rfl
  | error fault => exact .error fault

end Run

end DocHarvest
