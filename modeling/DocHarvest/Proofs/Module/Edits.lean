import DocHarvest.Proofs.Module.Sound
import Mathlib.Data.List.Nodup

/-!
# What exports edit

Deferred exports revise records that were stored before and add records of variables. `Store.Keeps`
says how far the former goes, place by place: a record is left alone, or it is the first one of its
category and name in its file and is `Doc.Revised`. `Store.Framed` says besides that whatever is
added is `Doc.Synthesized`. `Edits` is the form that plans have for it.
-/

namespace DocHarvest

open Run

/-- The type of the instances of a class of a module. -/
def instanceType (filePath className : String) : Param :=
  Param.ofType (filePath ++ "~" ++ className)

/-- What exports can make of a record. -/
structure Doc.Revised (old new : Doc) : Prop where
  outline : new.outline = old.outline
  lookedUp : old.category ∈ Export.lookupCategories
  exported : new.exported = true
  shown : new.ignored = false
  styled : old.category ≠ .moduleClass → new.importStyle.isSome
  typed : new.type = old.type ∨ old.category = .moduleVariable ∧
    ∃ className, new.type = some (instanceType old.filePath className)
  described : new.description = old.description ∨ old.category = .moduleVariable

/-- A record that exports have made: of a variable that holds an instance of a class. -/
structure Doc.Synthesized (doc : Doc) : Prop where
  category : doc.category = .moduleVariable
  pseudoExport : doc.pseudoExport = true
  exported : doc.exported = true
  shown : doc.ignored = false
  styled : doc.importStyle.isSome
  typed : ∃ className, doc.type = some (instanceType doc.filePath className)

/-- Records of one category and one name in one file. -/
structure Doc.Namesakes (left right : Doc) : Prop where
  category : left.category = right.category
  name : left.name = right.name
  filePath : left.filePath = right.filePath

/-- A record in its place that comes before all of its namesakes. -/
structure Store.First (store : Store) (place : Nat) (doc : Doc) : Prop where
  stored : store.docs[place]? = some doc
  first : ∀ earlier < place, ∀ other, store.docs[earlier]? = some other → ¬ other.Namesakes doc

/-- All records keep their places, and only first ones of their names in some files are revised. -/
def Store.Keeps (files : String → Prop) (before after : Store) : Prop :=
  ∀ ⦃place : Nat⦄ ⦃old : Doc⦄, before.docs[place]? = some old →
    ∃ new, after.docs[place]? = some new ∧
      (new = old ∨ files old.filePath ∧ old.Revised new ∧ before.First place old)

/-- What deferred exports of a file can make of a store. -/
structure Store.Framed (filePath : String) (before after : Store) : Prop where
  kept : before.Keeps (· = filePath) after
  added : ∀ ⦃place : Nat⦄ ⦃doc : Doc⦄, before.docs[place]? = none → after.docs[place]? = some doc →
    doc.filePath = filePath ∧ doc.Synthesized

/-- The record of an id is the first one of its names, in a category and a file. -/
def Store.Targets (store : Store) (filePath : String) (category : Category) (id : Int) : Prop :=
  ∃ place doc, store.First place doc ∧ doc.id = id ∧ doc.category = category ∧
    doc.filePath = filePath

/-- A change that exports make to a record of a category. -/
structure ExportChange.Suits (change : ExportChange) (filePath : String) (category : Category) :
    Prop where
  lookedUp : category ∈ Export.lookupCategories
  styled : category ≠ .moduleClass → change.importStyle.isSome
  typed : change.type = none ∨ category = .moduleVariable ∧
    ∃ className, change.type = some (instanceType filePath className)

/--
A plan for a store that changes only targets there and inserts only synthesized records. A text goes
only to a variable that is changed right after.
-/
inductive Edits (filePath : String) (store : Store) : List Mutation → Prop
  | nil : Edits filePath store []
  | update {category : Category} {id : Int} {change : ExportChange} {rest : List Mutation}
      (target : store.Targets filePath category id) (suits : change.Suits filePath category)
      (later : Edits filePath store rest) : Edits filePath store (.update id change :: rest)
  | describe {id : Int} {text : String} {change : ExportChange} {rest : List Mutation}
      (target : store.Targets filePath .moduleVariable id)
      (suits : change.Suits filePath .moduleVariable) (later : Edits filePath store rest) :
      Edits filePath store (.append id text :: .update id change :: rest)
  | insert {doc : Doc} {rest : List Mutation} (located : doc.filePath = filePath)
      (synthesized : doc.Synthesized) (later : Edits filePath store rest) :
      Edits filePath store (.insert doc :: rest)

namespace Doc

variable {old new next : Doc}

namespace Revised

theorem category_eq (revised : old.Revised new) : new.category = old.category :=
  category_eq_of_outline revised.outline

theorem filePath_eq (revised : old.Revised new) : new.filePath = old.filePath :=
  filePath_eq_of_outline revised.outline

theorem trans (first : old.Revised new) (second : new.Revised next) : old.Revised next where
  outline := second.outline.trans first.outline
  lookedUp := first.lookedUp
  exported := second.exported
  shown := second.shown
  styled isNoClass := second.styled (first.category_eq ▸ isNoClass)
  typed := by
    rcases second.typed with same | ⟨isVariable, made⟩
    · rw [same]
      exact first.typed
    · exact Or.inr ⟨first.category_eq ▸ isVariable, first.filePath_eq ▸ made⟩
  described := by
    rcases second.described with same | isVariable
    · rw [same]
      exact first.described
    · exact Or.inr (first.category_eq ▸ isVariable)

end Revised

/-- Records that exports have made stay such records when exports revise them. -/
theorem Synthesized.revised (synthesized : old.Synthesized) (revised : old.Revised new) :
    new.Synthesized where
  category := revised.category_eq.trans synthesized.category
  pseudoExport := (congrArg Doc.pseudoExport revised.outline : _).trans synthesized.pseudoExport
  exported := revised.exported
  shown := revised.shown
  styled := by
    apply revised.styled
    rw [synthesized.category]
    nofun
  typed := by
    rw [revised.filePath_eq]
    rcases revised.typed with same | ⟨-, made⟩
    · rw [same]
      exact synthesized.typed
    · exact made

theorem Namesakes.of_outlines {left right : Doc} (sameLeft : new.outline = left.outline)
    (sameRight : next.outline = right.outline) (namesakes : new.Namesakes next) :
    left.Namesakes right where
  category := by
    rw [← category_eq_of_outline sameLeft, ← category_eq_of_outline sameRight]
    exact namesakes.category
  name := by
    rw [← name_eq_of_outline sameLeft, ← name_eq_of_outline sameRight]
    exact namesakes.name
  filePath := by
    rw [← filePath_eq_of_outline sameLeft, ← filePath_eq_of_outline sameRight]
    exact namesakes.filePath

end Doc

namespace ExportChange.Suits

variable {category : Category} {change : ExportChange} {doc : Doc}

theorem revises (suits : change.Suits doc.filePath category)
    (inCategory : doc.category = category) : doc.Revised (change.apply doc) where
  outline := rfl
  lookedUp := inCategory ▸ suits.lookedUp
  exported := rfl
  shown := rfl
  styled isNoClass := suits.styled (inCategory ▸ isNoClass)
  typed := by
    simp only [apply]
    rcases suits.typed with untyped | ⟨isVariable, className, typed⟩
    · rw [untyped, Option.none_or]
      exact Or.inl rfl
    · rw [typed, Option.some_or]
      exact Or.inr ⟨inCategory.trans isVariable, className, rfl⟩
  described := Or.inl rfl

theorem revises_described (suits : change.Suits doc.filePath .moduleVariable) (text : String)
    (isVariable : doc.category = .moduleVariable) :
    doc.Revised (change.apply (doc.describeMore text)) := by
  have outline := Export.outline_describeMore text doc
  have typed : (doc.describeMore text).type = doc.type := Export.type_describeMore text doc
  have inFile : (doc.describeMore text).filePath = doc.filePath :=
    Doc.filePath_eq_of_outline outline
  have revised := (inFile ▸ suits).revises ((Doc.category_eq_of_outline outline).trans isVariable)
  constructor
  · exact revised.outline.trans outline
  · exact isVariable ▸ suits.lookedUp
  · exact revised.exported
  · exact revised.shown
  · exact fun _ => suits.styled nofun
  · rw [← typed, isVariable, ← inFile]
    exact revised.typed.imp_right fun made => ⟨rfl, made.2⟩
  · exact Or.inr isVariable

end ExportChange.Suits

namespace Store

variable {filePath : String} {category : Category} {name : String} {before middle after : Store}

/-- What a look-up finds is the first record of its names. -/
theorem targets_of_lookup? {doc : Doc} (found : before.lookup? category name filePath = some doc) :
    before.Targets filePath category doc.id := by
  unfold lookup? at found
  split at found
  · cases found
  · rcases List.find?_eq_some_iff_getElem.1 found with ⟨suits, place, inside, isPlace, others⟩
    simp only [Bool.and_eq_true, beq_iff_eq] at suits
    rcases suits with ⟨⟨isCategory, isName⟩, located⟩
    have stored := List.getElem?_eq_some_iff.2 ⟨inside, isPlace⟩
    refine ⟨place, doc, ⟨stored, ?_⟩, rfl, isCategory, located⟩
    -- a namesake in an earlier place would have been found instead
    intro earlier isEarlier other isOther namesakes
    rcases List.getElem?_eq_some_iff.1 isOther with ⟨_, same⟩
    have differs := others earlier isEarlier
    rw [same] at differs
    simp [namesakes.category, namesakes.name, namesakes.filePath, isCategory, isName, located]
      at differs

namespace Keeps

variable {files : String → Prop}

theorem refl (store : Store) : Keeps files store store :=
  fun _ old stored => ⟨old, stored, Or.inl rfl⟩

theorem of_added (added : before.docs <+: after.docs) : Keeps files before after := by
  intro place old stored
  rcases added with ⟨others, same⟩
  refine ⟨old, ?_, Or.inl rfl⟩
  rw [← same, List.getElem?_append_left (List.getElem?_eq_some_iff.1 stored).1]
  exact stored

theorem mono {others : String → Prop} (keeps : Keeps files before after)
    (more : ∀ path, files path → others path) : Keeps others before after := by
  intro place old stored
  rcases keeps stored with ⟨new, isNew, same | ⟨inFile, revised⟩⟩
  · exact ⟨new, isNew, Or.inl same⟩
  · exact ⟨new, isNew, Or.inr ⟨more _ inFile, revised⟩⟩

theorem outline (keeps : Keeps files before after) {place : Nat} {old new : Doc}
    (wasStored : before.docs[place]? = some old) (isStored : after.docs[place]? = some new) :
    new.outline = old.outline := by
  rcases keeps wasStored with ⟨kept, isKept, same | ⟨-, revised, -⟩⟩
  · cases isStored.symm.trans isKept
    rw [same]
  · cases isStored.symm.trans isKept
    exact revised.outline

/-- What comes first among old records came first before. -/
theorem first (keeps : Keeps files before after) {place : Nat} {old new : Doc}
    (first : after.First place new) (wasStored : before.docs[place]? = some old) :
    before.First place old where
  stored := wasStored
  first earlier isEarlier other wasOther namesakes := by
    rcases keeps wasOther with ⟨kept, isKept, -⟩
    refine first.first earlier isEarlier kept isKept ?_
    exact namesakes.of_outlines (keeps.outline wasOther isKept).symm
      (keeps.outline wasStored first.stored).symm

theorem first_after (keeps : Keeps files before after) {place : Nat} {old : Doc}
    (first : before.First place old) :
    ∃ new, after.First place new ∧ new.outline = old.outline := by
  rcases keeps first.stored with ⟨new, isNew, -⟩
  have outline := keeps.outline first.stored isNew
  refine ⟨new, ⟨isNew, fun earlier isEarlier kept isKept namesakes => ?_⟩, outline⟩
  have inside := (List.getElem?_eq_some_iff.1 first.stored).1
  have wasOther := List.getElem?_eq_getElem (Nat.lt_trans isEarlier inside)
  exact first.first earlier isEarlier _ wasOther
    (namesakes.of_outlines (keeps.outline wasOther isKept) outline)

theorem trans (early : Keeps files before middle) (late : Keeps files middle after) :
    Keeps files before after := by
  intro place old wasStored
  rcases early wasStored with ⟨kept, isKept, same⟩
  rcases late isKept with ⟨new, isNew, sameToo⟩
  refine ⟨new, isNew, ?_⟩
  rcases sameToo with rfl | ⟨inFile, revised, first⟩
  · exact same
  · -- the second part revises what is first among the kept records, and so it was first before
    right
    have firstBefore := early.first first wasStored
    rcases same with rfl | ⟨inFileBefore, revisedBefore, -⟩
    · exact ⟨inFile, revised, firstBefore⟩
    · exact ⟨inFileBefore, revisedBefore.trans revised, firstBefore⟩

theorem targets (keeps : Keeps files before after) {id : Int}
    (targets : before.Targets filePath category id) : after.Targets filePath category id := by
  rcases targets with ⟨place, old, first, rfl, rfl, rfl⟩
  rcases keeps.first_after first with ⟨new, firstToo, outline⟩
  exact ⟨place, new, firstToo, Doc.id_eq_of_outline outline, Doc.category_eq_of_outline outline,
    Doc.filePath_eq_of_outline outline⟩

end Keeps

namespace Framed

/-- The next id has no part in the frame. -/
theorem of_docs (same : after.docs = before.docs) : Framed filePath before after where
  kept := .of_added (same ▸ List.prefix_rfl)
  added _ _ absent stored := by
    rw [same, absent] at stored
    cases stored

theorem append {doc : Doc} (located : doc.filePath = filePath) (synthesized : doc.Synthesized)
    (stored : after.docs = before.docs ++ [doc]) : Framed filePath before after where
  kept := .of_added (stored ▸ List.prefix_append _ _)
  added place other absent isStored := by
    rw [stored, List.getElem?_append_right (List.getElem?_eq_none_iff.1 absent)] at isStored
    cases List.mem_singleton.1 (List.mem_of_getElem? isStored)
    exact ⟨located, synthesized⟩

theorem trans (early : Framed filePath before middle) (late : Framed filePath middle after) :
    Framed filePath before after where
  kept := early.kept.trans late.kept
  added place doc absent isStored := by
    cases stored : middle.docs[place]? with
    | none => exact late.added stored isStored
    | some old =>
        rcases early.added absent stored with ⟨located, synthesized⟩
        rcases late.kept stored with ⟨new, isNew, same⟩
        cases isStored.symm.trans isNew
        rcases same with rfl | ⟨-, revised, -⟩
        · exact ⟨located, synthesized⟩
        · exact ⟨revised.filePath_eq.trans located, synthesized.revised revised⟩

/-- Where ids are distinct, a change of a target leaves all other records alone. -/
theorem modify (distinct : (before.docs.map Doc.id).Nodup) {id : Int} {change : Doc → Doc}
    (targets : before.Targets filePath category id)
    (revises : ∀ doc : Doc, doc.category = category → doc.filePath = filePath →
      doc.Revised (change doc)) :
    Framed filePath before (before.modify id change) where
  kept place old wasStored := by
    rcases targets with ⟨targeted, target, first, rfl, isCategory, located⟩
    have isStored : (before.modify target.id change).docs[place]? =
        some (if old.id == target.id then change old else old) := by
      rw [Store.modify, List.getElem?_map, wasStored, Option.map_some]
    refine ⟨_, isStored, ?_⟩
    split
    · -- ids are distinct, so the record that is changed is the target, in its place
      rename_i sameId
      have same : target = old := List.inj_on_of_nodup_map distinct
        (List.mem_of_getElem? first.stored) (List.mem_of_getElem? wasStored)
        (beq_iff_eq.1 sameId).symm
      subst same
      have samePlace : targeted = place := by
        have inside := (List.getElem?_eq_some_iff.1 first.stored).1
        exact (List.getElem?_inj inside (distinct.of_map _)).1 (first.stored.trans wasStored.symm)
      subst samePlace
      exact Or.inr ⟨located, revises _ isCategory located, first⟩
    · exact Or.inl rfl
  added place doc absent isStored := by
    rw [Store.modify, List.getElem?_map, absent] at isStored
    cases isStored

end Framed

end Store

namespace Export

variable {scope : Scope} {before after : Progress}

/-- However the insertion of a record ends, it is stored under the next id, or nothing is stored. -/
theorem docs_of_insert {doc : Doc} {outcome : Except Fault Unit}
    (ended : Ends (applyOne scope (.insert doc)) before outcome after) :
    after.store.docs = before.store.docs ∨
      before.store.get? before.store.nextId = none ∧
        after.store.docs = before.store.docs ++ [{ doc with id := before.store.nextId }] := by
  have drawn := ends_lift_bind.1 ended
  have inserted {result : Except Fault Bool} {stored : Progress}
      (inserting : Ends (insert scope { doc with id := before.store.nextId })
        { before with store := before.store.draw.2 } result stored) :
      stored.store.docs = before.store.docs ∨
        before.store.get? before.store.nextId = none ∧
          stored.store.docs = before.store.docs ++ [{ doc with id := before.store.nextId }] := by
    rcases ends_insert inserting with ⟨-, absent, rfl⟩ | ⟨-, rfl, -⟩ | ⟨rfl, -⟩
    · exact Or.inr ⟨absent, rfl⟩
    · exact Or.inl rfl
    · exact Or.inl rfl
  rcases ends_bind.1 drawn with ⟨stored, middle, inserting, rested⟩ | ⟨fault, failed, -⟩
  · rcases ends_pure.1 rested with ⟨-, rfl⟩
    exact inserted inserting
  · exact inserted failed

/-- Without a filter, a record that is inserted is stored under the next id. -/
theorem store_of_insert (unfiltered : scope.filter = none) {doc : Doc}
    (ended : Ends (applyOne scope (.insert doc)) before (.ok ()) after) :
    before.store.get? before.store.nextId = none ∧
      after.store = ⟨before.store.docs ++ [{ doc with id := before.store.nextId }],
        before.store.nextId + 1⟩ := by
  have drawn := ends_lift_bind.1 ended
  rcases ends_bind_ok.1 drawn with ⟨stored, inserted, inserting, rested⟩
  rcases ends_pure.1 rested with ⟨-, rfl⟩
  rcases ends_insert inserting with ⟨-, absent, rfl⟩ | ⟨-, -, filtered⟩ | ⟨-, _, impossible, -⟩
  · exact ⟨absent, rfl⟩
  · rw [unfiltered] at filtered
    cases filtered
  · cases impossible

end Export

namespace Edits

variable {filePath : String} {store : Store} {plan more : List Mutation}

theorem append (first : Edits filePath store plan) (second : Edits filePath store more) :
    Edits filePath store (plan ++ more) := by
  induction first with
  | nil => exact second
  | update target suits _ ih => exact .update target suits ih
  | describe target suits _ ih => exact .describe target suits ih
  | insert located synthesized _ ih => exact .insert located synthesized ih

end Edits

end DocHarvest
