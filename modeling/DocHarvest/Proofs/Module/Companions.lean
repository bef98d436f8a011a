import DocHarvest.Proofs.Module.Asking
import DocHarvest.Proofs.Module.Provenance
import DocHarvest.Proofs.Module.Revising
import DocHarvest.Proofs.Module.Styles
import DocHarvest.Proofs.Module.Succeeds

/-!
# One companion for each name

Every plan is made for the store that the plans before it have left. So no name gets a second
companion, and none gets one that the walk has already recorded as a variable: `Store.Single`. Where
ids are in step with the counter, an export that can be read gets what it asks for: `Store.Served`.
-/

namespace DocHarvest

open Run

/--
The names of the variables of a file of which there are records: of those that exports have made, or
of the others.
-/
def Store.variableNames (store : Store) (filePath : String) (made : Bool) : List String :=
  (store.docs.filter fun doc => doc.category == .moduleVariable && doc.filePath == filePath &&
    doc.pseudoExport == made).filterMap Doc.name

/-- The records of a name in a file that exports have made. -/
def Store.companions (store : Store) (filePath name : String) : List Doc :=
  store.docs.filter fun doc =>
    doc.pseudoExport && doc.name == some name && doc.filePath == filePath

/-! ## Companions in a store -/

namespace Store

variable {store before after : Store} {filePath name : String} {made : Bool}

theorem mem_variableNames : name ∈ store.variableNames filePath made ↔
    ∃ doc ∈ store.docs, doc.isCalled .moduleVariable name filePath ∧ doc.pseudoExport = made := by
  simp only [variableNames, List.mem_filterMap, List.mem_filter, Bool.and_eq_true, beq_iff_eq,
    Doc.isCalled_iff]
  constructor
  · rintro ⟨doc, ⟨isStored, ⟨isVariable, located⟩, isMade⟩, named⟩
    exact ⟨doc, isStored, ⟨isVariable, named, located⟩, isMade⟩
  · rintro ⟨doc, isStored, ⟨isVariable, named, located⟩, isMade⟩
    exact ⟨doc, ⟨isStored, ⟨isVariable, located⟩, isMade⟩, named⟩

/-- The names of variables are not touched where only other things change in records. -/
theorem variableNames_of_outlines (same : after.docs.map Doc.outline = before.docs.map Doc.outline)
    (filePath : String) (made : Bool) :
    after.variableNames filePath made = before.variableNames filePath made := by
  have through (store : Store) : store.variableNames filePath made =
      ((store.docs.map Doc.outline).filter fun doc => doc.category == .moduleVariable &&
        doc.filePath == filePath && doc.pseudoExport == made).filterMap Doc.name := by
    rw [variableNames, List.filter_map, List.filterMap_map]
    rfl
  rw [through, through, same]

/-- A record that exports have made adds its name. -/
theorem variableNames_of_append {doc : Doc} (stored : after.docs = before.docs ++ [doc])
    (named : doc.name = some name) (located : doc.filePath = filePath)
    (synthesized : doc.Synthesized) (made : Bool) : after.variableNames filePath made =
      before.variableNames filePath made ++ if made then [name] else [] := by
  rw [variableNames, stored, List.filter_append, List.filterMap_append]
  cases made <;>
    simp [variableNames, synthesized.category, located, synthesized.pseudoExport, named]

/-- Where the walk has recorded no variable and exports have made none, none is found. -/
theorem notMem_variableNames_of_lookup? (named : name.isEmpty = false)
    (missing : store.lookup? .moduleVariable name filePath = none) (made : Bool) :
    name ∉ store.variableNames filePath made := by
  rw [lookup?_eq store .moduleVariable named, List.find?_eq_none] at missing
  intro isVariable
  rcases mem_variableNames.1 isVariable with ⟨doc, isStored, called, -⟩
  exact missing doc isStored called

/--
Exports have made records of variables only, one for each name, and none for names under which other
variables are recorded. Those others are the same as at the start.
-/
structure Single (filePath : String) (start store : Store) : Prop where
  declared : store.variableNames filePath false = start.variableNames filePath false
  distinct : (store.variableNames filePath true).Nodup
  apart : ∀ name ∈ store.variableNames filePath true, name ∉ store.variableNames filePath false
  made : ∀ doc ∈ store.docs, doc.filePath = filePath → doc.pseudoExport = true →
    doc.category = .moduleVariable

/-- Exports have made nothing yet. -/
theorem Single.start (untouched : ∀ doc ∈ store.docs, doc.filePath = filePath →
    doc.pseudoExport = false) : Single filePath store store := by
  have noneMade : store.variableNames filePath true = [] := by
    rw [List.eq_nil_iff_forall_not_mem]
    intro name isMade
    rcases mem_variableNames.1 isMade with ⟨doc, isStored, called, made⟩
    rw [untouched doc isStored (Doc.isCalled_iff.1 called).2.2] at made
    cases made
  refine ⟨rfl, by simp [noneMade], by simp [noneMade], fun doc isStored located made => ?_⟩
  rw [untouched doc isStored located] at made
  cases made

namespace Single

variable {start : Store}

theorem revise (single : Single filePath start before)
    (same : after.docs.map Doc.outline = before.docs.map Doc.outline) :
    Single filePath start after where
  declared := (variableNames_of_outlines same filePath false).trans single.declared
  distinct := variableNames_of_outlines same filePath true ▸ single.distinct
  apart := by
    rw [variableNames_of_outlines same filePath true, variableNames_of_outlines same filePath false]
    exact single.apart
  made doc isStored located isMade := by
    have isOutline : doc.outline ∈ before.docs.map Doc.outline :=
      same ▸ List.mem_map_of_mem isStored
    rcases List.mem_map.1 isOutline with ⟨old, wasStored, outline⟩
    have pseudoExport : old.pseudoExport = doc.pseudoExport := (congrArg Doc.pseudoExport outline :)
    rw [← Doc.category_eq_of_outline outline]
    exact single.made old wasStored ((Doc.filePath_eq_of_outline outline).trans located)
      (pseudoExport.trans isMade)

/-- A companion is added for a name that is not taken. -/
theorem insert (single : Single filePath start before) {doc : Doc}
    (stored : after.docs = before.docs ++ [doc]) (named : doc.name = some name)
    (located : doc.filePath = filePath) (synthesized : doc.Synthesized)
    (free : ∀ made, name ∉ before.variableNames filePath made) : Single filePath start after := by
  have added := variableNames_of_append stored named located synthesized
  refine ⟨?_, ?_, ?_, ?_⟩
  · rw [added, single.declared]
    simp
  · rw [added, if_pos rfl, List.nodup_append]
    refine ⟨single.distinct, List.nodup_singleton _, fun other isOther last isLast same => ?_⟩
    cases List.mem_singleton.1 isLast
    exact free true (same ▸ isOther)
  · intro other isMade
    rw [added, if_pos rfl] at isMade
    rw [added]
    simp only [Bool.false_eq_true, if_false, List.append_nil]
    rcases List.mem_append.1 isMade with wasMade | isNew
    · exact single.apart other wasMade
    · cases List.mem_singleton.1 isNew
      exact free false
  · intro other isStored isLocated isMade
    rw [stored] at isStored
    rcases List.mem_append.1 isStored with wasStored | isNew
    · exact single.made other wasStored isLocated isMade
    · cases List.mem_singleton.1 isNew
      exact synthesized.category

/-- The companions of a name are counted by the names of variables. -/
theorem length_companions (single : Single filePath start store) (name : String) :
    (store.companions filePath name).length = (store.variableNames filePath true).count name := by
  rw [variableNames, List.count, List.countP_filterMap, List.countP_filter, companions,
    ← List.countP_eq_length_filter]
  apply List.countP_congr
  intro doc isStored
  have made := single.made doc isStored
  cases named : doc.name with
  | none => simp
  | some other =>
      simp only [Bool.and_eq_true, beq_iff_eq, Option.some.injEq, Option.map_some, Option.getD_some]
      constructor
      · rintro ⟨⟨isMade, same⟩, located⟩
        exact ⟨same, ⟨made located isMade, located⟩, isMade⟩
      · rintro ⟨same, ⟨-, located⟩, isMade⟩
        exact ⟨⟨isMade, same⟩, located⟩

/-- No name has two companions. -/
theorem length_companions_le (single : Single filePath start store) (name : String) :
    (store.companions filePath name).length ≤ 1 := by
  rw [single.length_companions]
  exact List.nodup_iff_count_le_one.1 single.distinct name

/-- A name under which another variable is recorded has no companion. -/
theorem companions_eq_nil (single : Single filePath start store)
    (declared : name ∈ start.variableNames filePath false) :
    store.companions filePath name = [] := by
  rw [← List.length_eq_zero_iff, single.length_companions, List.count_eq_zero]
  intro isMade
  rw [← single.declared] at declared
  exact single.apart name isMade declared

/-- If a name has a companion, then it is the record of a variable that is found under the name. -/
theorem eq_of_lookup? (single : Single filePath start store) {found : Doc}
    (isFound : store.lookup? .moduleVariable name filePath = some found) :
    ∀ doc ∈ store.companions filePath name, doc = found := by
  intro doc isCompanion
  rcases Store.mem_of_lookup? isFound with ⟨isStored, isVariable, named, located⟩
  rcases List.mem_filter.1 isCompanion with ⟨isStoredToo, isCalled⟩
  simp only [Bool.and_eq_true, beq_iff_eq] at isCalled
  rcases isCalled with ⟨⟨isMade, namedToo⟩, locatedToo⟩
  have isVariableToo := single.made doc isStoredToo locatedToo isMade
  cases made : found.pseudoExport with
  | true =>
      have isCompanionToo : found ∈ store.companions filePath name :=
        List.mem_filter.2 ⟨isStored, by simp [made, named, located]⟩
      have atMostOne := single.length_companions_le name
      generalize store.companions filePath name = docs at isCompanion isCompanionToo atMostOne
      rcases docs with _ | ⟨first, _ | ⟨second, rest⟩⟩
      · cases isCompanion
      · exact (List.mem_singleton.1 isCompanion).trans (List.mem_singleton.1 isCompanionToo).symm
      · simp at atMostOne
  | false =>
      have declared : name ∈ store.variableNames filePath false :=
        mem_variableNames.2 ⟨found, isStored, Doc.isCalled_iff.2 ⟨isVariable, named, located⟩, made⟩
      have made : name ∈ store.variableNames filePath true :=
        mem_variableNames.2 ⟨doc, isStoredToo,
          Doc.isCalled_iff.2 ⟨isVariableToo, namedToo, locatedToo⟩, isMade⟩
      exact absurd declared (single.apart name made)

end Single

end Store

/-- The id has no part in what makes a record one that exports have made. -/
theorem Doc.Synthesized.of_unnumbered {old new : Doc} (synthesized : old.Synthesized)
    (same : old.unnumbered = new.unnumbered) : new.Synthesized := by
  have numbered : new = { old with id := new.id } :=
    congrArg (fun doc : Doc => { doc with id := new.id }) same.symm
  rw [numbered]
  exact { synthesized with }

/-- The variables of which a plan adds records are synthesized in the file. -/
theorem Edits.synthesized {filePath : String} {store : Store} {plan : List Mutation}
    (edits : Edits filePath store plan) {doc : Doc} (planned : .insert doc ∈ plan) :
    doc.filePath = filePath ∧ doc.Synthesized := by
  induction edits with
  | nil => cases planned
  | update _ _ _ ih =>
      rcases List.mem_cons.1 planned with impossible | later
      · cases impossible
      · exact ih later
  | describe _ _ _ ih =>
      rcases List.mem_cons.1 planned with impossible | later
      · cases impossible
      · rcases List.mem_cons.1 later with impossible | later
        · cases impossible
        · exact ih later
  | insert located synthesized _ ih =>
      rcases List.mem_cons.1 planned with same | later
      · cases same
        exact ⟨located, synthesized⟩
      · exact ih later

/-! ## What exports get -/

namespace Export

/--
A variable has a record that says that it is an instance of a class, with an import style that the
export gives it. It is the record that was found before, revised, or else one that has been made; and
no other one has been made.
-/
structure Served (scope : Scope) (exportNode : Node) (className name : String)
    (before after : Store) (updated : Doc) : Prop where
  found : after.lookup? .moduleVariable name scope.filePath = some updated
  typed : updated.type = some (instanceType scope.filePath className)
  styled : ⟨.moduleVariable, name, updated.importStyle⟩ ∈ stylings scope before exportNode
  only : ∀ companion ∈ after.companions scope.filePath name, companion = updated
  revised : ∀ doc, before.lookup? .moduleVariable name scope.filePath = some doc →
    doc.Revised updated
  made : before.lookup? .moduleVariable name scope.filePath = none → updated.Synthesized

/-- A style for a record is a style for the category and the name under which it is found. -/
theorem mem_stylings_of_restyling {scope : Scope} {store : Store} {exportNode : Node}
    {category : Category} {name : String} {doc : Doc} {style : Option String}
    (distinct : (store.docs.map Doc.id).Nodup)
    (found : store.lookup? category name scope.filePath = some doc)
    (restyles : (doc.id, style) ∈ restylings scope store exportNode) :
    ⟨category, name, style⟩ ∈ stylings scope store exportNode := by
  rcases List.mem_filterMap.1 restyles with ⟨styling, isStyling, isRestyling⟩
  rcases Option.map_eq_some_iff.1 isRestyling with ⟨other, isFound, same⟩
  rcases Prod.mk.inj same with ⟨sameId, rfl⟩
  rcases Store.mem_of_lookup? found with ⟨isStored, inCategory, named, -⟩
  rcases Store.mem_of_lookup? isFound with ⟨isStoredToo, inCategoryToo, namedToo, -⟩
  cases List.inj_on_of_nodup_map distinct isStoredToo isStored sameId
  rcases styling with ⟨otherCategory, otherName, style⟩
  cases inCategory.symm.trans inCategoryToo
  cases Option.some.inj (named.symm.trans namedToo)
  exact isStyling

/-- The plan of an export has been applied as a whole. -/
structure Fulfilled (scope : Scope) (exportNode : Node) (plan : List Mutation)
    (before after : Store) : Prop where
  carries : Carries scope.filePath before (stylings scope before exportNode) plan
  serves : Serves scope.filePath exportNode before (companionsAsked scope before exportNode) plan
  applied : before.Applied plan (fun _ => true) after
  restyled : Restyled (restylings scope before exportNode) before after

namespace Fulfilled

variable {scope : Scope} {exportNode : Node} {plan : List Mutation} {before after : Store}
  {className name : String} {doc : Doc}

/-- A companion that is found is changed. -/
theorem touched (fulfilled : Fulfilled scope exportNode plan before after)
    (asked : (className, name) ∈ companionsAsked scope before exportNode)
    (found : before.lookup? .moduleVariable name scope.filePath = some doc) :
    .update doc.id (companionChange scope.filePath exportNode name className) ∈ plan :=
  fulfilled.serves.updated className name asked doc found

theorem revised (fulfilled : Fulfilled scope exportNode plan before after)
    (disciplined : before.Disciplined)
    (asked : (className, name) ∈ companionsAsked scope before exportNode)
    (found : before.lookup? .moduleVariable name scope.filePath = some doc) :
    doc.Revised (doc.revisedBy plan) := by
  have isStored := (Store.mem_of_lookup? found).1
  refine fulfilled.carries.edits.revised disciplined.distinct isStored rfl ?_
  exact List.ne_nil_of_mem
    (List.mem_filterMap.2 ⟨_, fulfilled.touched asked found, if_pos rfl⟩)

/-- It gets the type of the instance, since nobody else asks for its name. -/
theorem type_revisedBy (fulfilled : Fulfilled scope exportNode plan before after)
    (disciplined : before.Disciplined) (distinct : (constructedNames exportNode).Nodup)
    (asked : (className, name) ∈ companionsAsked scope before exportNode)
    (found : before.lookup? .moduleVariable name scope.filePath = some doc) :
    (doc.revisedBy plan).type = some (instanceType scope.filePath className) := by
  refine Doc.type_revisedBy (Or.inr ⟨_, fulfilled.touched asked found, rfl⟩) ?_
  intro change other planned isTyped
  obtain ⟨otherClass, otherName, known, askedToo, isKnown, sameId, rfl⟩ :=
    fulfilled.serves.typed doc.id change other planned isTyped
  obtain ⟨isStored, -, named, -⟩ := Store.mem_of_lookup? found
  obtain ⟨isStoredToo, -, namedToo, -⟩ := Store.mem_of_lookup? isKnown
  cases List.inj_on_of_nodup_map disciplined.distinct isStoredToo isStored sameId
  cases Option.some.inj (named.symm.trans namedToo)
  rw [eq_of_asked distinct asked askedToo]

/-- It has the style that it is given last. -/
theorem style_revisedBy (fulfilled : Fulfilled scope exportNode plan before after)
    (disciplined : before.Disciplined)
    (asked : (className, name) ∈ companionsAsked scope before exportNode)
    (found : before.lookup? .moduleVariable name scope.filePath = some doc) :
    ⟨.moduleVariable, name, (doc.revisedBy plan).importStyle⟩ ∈
      stylings scope before exportNode := by
  have isStored := (Store.mem_of_lookup? found).1
  have isStoredToo := (Store.mem_of_lookup? (fulfilled.applied.lookup?_of_some found)).1
  obtain ⟨new, isNew, -, isStyle⟩ := fulfilled.restyled.get? (disciplined.get?_id isStored)
  have kept := (fulfilled.applied.grows.disciplined disciplined).get?_id isStoredToo
  rw [Doc.id_eq_of_outline (Doc.outline_revisedBy plan doc)] at kept
  cases isNew.symm.trans kept
  have isRestyling : (doc.id, (styledCompanion exportNode name).style) ∈
      restylings scope before exportNode := by
    rw [restylings, ← fulfilled.carries.restyles]
    exact List.mem_filterMap.2 ⟨_, fulfilled.touched asked found, rfl⟩
  obtain ⟨last, isLast⟩ := exists_lastStyle? isRestyling
  rw [isStyle, isLast]
  exact mem_stylings_of_restyling disciplined.distinct found (mem_of_lastStyle? isLast)

/-- A companion that is not found is made. -/
theorem made (fulfilled : Fulfilled scope exportNode plan before after)
    (distinct : (constructedNames exportNode).Nodup)
    (asked : (className, name) ∈ companionsAsked scope before exportNode)
    (missing : before.lookup? .moduleVariable name scope.filePath = none) :
    ∃ updated, after.lookup? .moduleVariable name scope.filePath = some updated ∧
      updated.Synthesized ∧ updated.type = some (instanceType scope.filePath className) ∧
      ⟨.moduleVariable, name, updated.importStyle⟩ ∈ stylings scope before exportNode := by
  have isAdded : name ∈ plan.filterMap Mutation.addedName? := by
    rw [fulfilled.serves.inserted]
    exact List.mem_filter.2 ⟨List.mem_map_of_mem asked, by simp [missing]⟩
  obtain ⟨mutation, planned, isName⟩ := List.mem_filterMap.1 isAdded
  obtain ⟨record, isRecord, named⟩ := Option.bind_eq_some_iff.1 isName
  have isInsert : .insert record ∈ plan :=
    Mutation.mem_records.1 (List.mem_filterMap.2 ⟨mutation, planned, isRecord⟩)
  obtain ⟨located, synthesized⟩ := fulfilled.carries.edits.synthesized isInsert
  have called := Doc.isCalled_iff.2 ⟨synthesized.category, named, located⟩
  obtain ⟨updated, other, found, isInsertToo, same⟩ :=
    fulfilled.applied.lookup?_of_none isInsert rfl called (isEmpty_of_asked asked) missing
  obtain ⟨otherClass, otherName, askedToo, namedToo, typed, styled⟩ :=
    fulfilled.serves.made other isInsertToo
  obtain ⟨-, -, isCalled, -⟩ := Store.mem_of_lookup? found
  have sameName : other.name = updated.name := (congrArg Doc.name same :)
  cases Option.some.inj (namedToo.symm.trans (sameName.trans isCalled))
  have sameType : other.type = updated.type := (congrArg Doc.type same :)
  have sameStyle : other.importStyle = updated.importStyle := (congrArg Doc.importStyle same :)
  have synthesizedToo := (fulfilled.carries.edits.synthesized isInsertToo).2.of_unnumbered same
  refine ⟨updated, found, synthesizedToo, ?_, ?_⟩
  · rw [← sameType, typed, eq_of_asked distinct asked askedToo]
  · rw [← sameStyle, styled]
    exact styledCompanion_mem_stylings asked

end Fulfilled

end Export

/-! ## The second pass -/

namespace Module

variable {scope : Scope} {start : Store} {before after : Progress}

/-- However an insertion ends, a companion is added at most once, for a free name. -/
theorem insert_single {doc : Doc} {name : String} {names : List String}
    {outcome : Except Fault Unit} (located : doc.filePath = scope.filePath)
    (synthesized : doc.Synthesized) (named : doc.name = some name) (isOther : name ∉ names)
    (free : ∀ other ∈ name :: names, ∀ made,
      other ∉ before.store.variableNames scope.filePath made)
    (single : start.Single scope.filePath before.store)
    (ended : Ends (Export.applyOne scope (.insert doc)) before outcome after) :
    start.Single scope.filePath after.store ∧ ∀ other ∈ names, ∀ made,
      other ∉ after.store.variableNames scope.filePath made := by
  rcases List.forall_mem_cons.1 free with ⟨isFree, areFree⟩
  rcases Export.docs_of_insert ended with same | ⟨-, stored⟩
  · have outlines := congrArg (List.map Doc.outline) same
    refine ⟨single.revise outlines, fun other isMember made => ?_⟩
    rw [Store.variableNames_of_outlines outlines]
    exact areFree other isMember made
  · let numbered : Doc := { doc with id := before.store.nextId }
    have synthesizedToo : numbered.Synthesized := { synthesized with }
    refine ⟨single.insert stored named located synthesizedToo isFree,
      fun other isMember made => ?_⟩
    rw [Store.variableNames_of_append stored named located synthesizedToo]
    intro isVariable
    rcases List.mem_append.1 isVariable with wasVariable | isNew
    · exact areFree other isMember made wasVariable
    · split at isNew
      · cases List.mem_singleton.1 isNew
        exact isOther isMember
      · cases isNew

/-- However the application of a plan ends, a companion is added at most once, for a free name. -/
theorem applyAll_single {plan : List Mutation} {outcome : Except Fault Unit}
    (synthesized : ∀ doc, .insert doc ∈ plan →
      doc.filePath = scope.filePath ∧ doc.Synthesized ∧ ∃ name, doc.name = some name)
    (distinct : (plan.filterMap Mutation.addedName?).Nodup)
    (free : ∀ name ∈ plan.filterMap Mutation.addedName?, ∀ made,
      name ∉ before.store.variableNames scope.filePath made)
    (single : start.Single scope.filePath before.store)
    (ended : Ends (Export.applyAll scope plan) before outcome after) :
    start.Single scope.filePath after.store := by
  induction plan generalizing before with
  | nil =>
      rcases ends_forM_nil.1 ended with ⟨-, rfl⟩
      exact single
  | cons mutation plan ih =>
      have synthesizedRest (doc : Doc) (planned : .insert doc ∈ plan) :=
        synthesized doc (List.mem_cons_of_mem _ planned)
      -- changes of records leave all names of variables as they are
      have revised {state : Progress} (bare : mutation.addedName? = none)
          (same : state.store.docs.map Doc.outline = before.store.docs.map Doc.outline)
          (applying : Ends (Export.applyAll scope plan) state outcome after) :
          start.Single scope.filePath after.store := by
        rw [List.filterMap_cons_none bare] at distinct free
        refine ih synthesizedRest distinct (fun name planned made => ?_) (single.revise same)
          applying
        rw [Store.variableNames_of_outlines same]
        exact free name planned made
      cases mutation with
      | update id change =>
          have kept : ∀ doc, (change.apply doc).outline = doc.outline := fun _ => rfl
          exact revised rfl (before.store.outlines_modify id kept) (ends_lift_bind.1 ended)
      | append id text =>
          exact revised rfl (before.store.outlines_modify id (Export.outline_describeMore text))
            (ends_lift_bind.1 ended)
      | insert doc =>
          rcases synthesized doc (List.mem_cons_self ..) with ⟨located, isSynthesized, name, named⟩
          have isName : (Mutation.insert doc).addedName? = some name := named
          rw [List.filterMap_cons_some isName, List.nodup_cons] at distinct
          rw [List.filterMap_cons_some isName] at free
          rw [Export.applyAll, forM_cons] at ended
          rcases ends_bind.1 ended with ⟨_, middle, inserting, applying⟩ | ⟨fault, failed, -⟩
          · rcases insert_single located isSynthesized named distinct.1 free single inserting with
              ⟨singleToo, freeToo⟩
            exact ih synthesizedRest distinct.2 freeToo singleToo applying
          · exact (insert_single located isSynthesized named distinct.1 free single failed).1

/-- Whatever becomes of an export, no name gets a second companion. -/
theorem resolve_single {exportNode : Node} {outcome : Except Fault Unit}
    (distinct : (Export.constructedNames exportNode).Nodup)
    (single : start.Single scope.filePath before.store)
    (ended : Ends (resolve scope exportNode) before outcome after) :
    start.Single scope.filePath after.store := by
  have planned {result : Except Fault Unit} {middle : Progress}
      (ran : Ends (Export.plan scope exportNode >>= fun plan => Export.applyAll scope plan) before
        result middle) : start.Single scope.filePath middle.store := by
    rcases ends_bind.1 ran with ⟨plan, ready, planning, applying⟩ | ⟨fault, failed, -⟩
    · have same := Export.plan_reads exportNode planning
      have carries := Export.plan_plans exportNode planning
      have serves := Export.plan_answers exportNode planning
      refine applyAll_single (fun doc isPlanned => ?_) ?_ (fun name isPlanned made => ?_)
        (same ▸ single) applying
      · rcases carries.edits.synthesized isPlanned with ⟨located, synthesized⟩
        rcases carries.inserts doc isPlanned with ⟨-, name, named, -⟩
        exact ⟨located, synthesized, name, named⟩
      · rw [serves.inserted]
        exact (Export.nodup_asked distinct _).filter _
      · rw [serves.inserted] at isPlanned
        rcases List.mem_filter.1 isPlanned with ⟨isAsked, missing⟩
        rcases List.mem_map.1 isAsked with ⟨⟨className, _⟩, asked, rfl⟩
        rw [same]
        exact Store.notMem_variableNames_of_lookup? (Export.isEmpty_of_asked asked)
          (Option.isNone_iff_eq_none.1 missing) made
    · exact Export.plan_reads exportNode failed ▸ single
  rcases ends_guarded ended with ran | ⟨fault, middle, entry, messages, failed, -, -, rfl⟩
  · exact planned ran
  · have broken := planned failed
    exact broken

theorem forM_resolve_single {pending : List Node} {outcome : Except Fault Unit}
    (distinct : ∀ exportNode ∈ pending, (Export.constructedNames exportNode).Nodup)
    (single : start.Single scope.filePath before.store)
    (ended : Ends (pending.forM (resolve scope)) before outcome after) :
    start.Single scope.filePath after.store := by
  induction pending generalizing before with
  | nil =>
      rcases ends_forM_nil.1 ended with ⟨-, rfl⟩
      exact single
  | cons exportNode pending ih =>
      rcases List.forall_mem_cons.1 distinct with ⟨first, rest⟩
      rw [forM_cons] at ended
      rcases ends_bind.1 ended with ⟨_, middle, resolving, later⟩ | ⟨fault, failed, -⟩
      · exact ih rest (resolve_single first single resolving) later
      · exact resolve_single first single failed

theorem secondPass_single {outcome : Except Fault Unit}
    (distinct : ∀ exportNode ∈ before.pending, (Export.constructedNames exportNode).Nodup)
    (single : start.Single scope.filePath before.store)
    (ended : Ends (secondPass scope) before outcome after) :
    start.Single scope.filePath after.store := by
  rcases ends_bind.1 ended with ⟨state, _, got, rest⟩ | ⟨fault, failed, -⟩
  · rcases ends_get.1 got with ⟨same, rfl⟩
    cases same
    rcases ends_bind.1 rest with ⟨_, resolved, resolving, cleared⟩ | ⟨fault, failed, -⟩
    · rcases ends_modify.1 cleared with ⟨-, rfl⟩
      have single := forM_resolve_single distinct single resolving
      exact single
    · exact forM_resolve_single distinct single failed
  · cases (ends_get.1 failed).1

/-! ## Whole runs -/

/-- However the walk ends, no record of the file has been made by exports. -/
theorem walkthrough_untouched {store : Store} {nextNode : NodeId} {outcome : Except Fault Int}
    (fresh : ∀ doc ∈ store.docs, doc.filePath ≠ scope.filePath)
    (ended : Ends (walkthrough scope) (Program.start ⟨scope.program, nextNode⟩ store) outcome
      after) :
    ∀ doc ∈ after.store.docs, doc.filePath = scope.filePath → doc.pseudoExport = false := by
  let untouched (doc : Doc) : Prop := doc.filePath = scope.filePath → doc.pseudoExport = false
  have admits (id : Int) : (within scope id).Admits untouched fun _ => True :=
    ⟨fun _ _ _ _ => trivial, fun _ _ _ built _ => (Draft.build_heads built).pseudoExport⟩
  have upholds : Upholds untouched (fun _ => True) (fun _ => True) (walkthrough scope) := by
    refine (prepare_upholds admits).bind fun id _ => ?_
    exact (firstPass_upholds (admits id)).bind fun _ _ => .pure trivial
  have holds : (Program.start ⟨scope.program, nextNode⟩ store).Holds untouched fun _ => True :=
    ⟨fun doc isStored located => absurd located (fresh doc isStored), trivial⟩
  exact (upholds holds ended).1.records

/-- If its comments can be read, an export is resolved, and its plan is applied as a whole. -/
theorem resolve_fulfills {exportNode : Node} (unfiltered : scope.filter = none)
    (disciplined : before.store.Disciplined) (readable : (Export.declaredType exportNode).isOk) :
    ∃ plan next, Ends (resolve scope exportNode) before (.ok ()) next ∧
      next.invalid = before.invalid ∧
      Export.Fulfilled scope exportNode plan before.store next.store := by
  have decides (doc : Doc) : scope.passes doc = .ok true := by
    rw [Scope.passes, unfiltered]
  have total : scope.IsTotal := fun doc => ⟨true, decides doc⟩
  obtain ⟨plan, ready, planning⟩ := Export.exists_planned readable disciplined.below
  have unread : ready.store = before.store := Export.plan_reads exportNode planning
  have disciplinedToo : ready.store.Disciplined := unread ▸ disciplined
  obtain ⟨store, applying, -⟩ := Export.exists_applied total plan disciplinedToo.below
  have resolved : Ends (resolve scope exportNode) before (.ok ()) { ready with store } :=
    ends_tryCatch.2 (Or.inl ⟨(), ends_bind_ok.2 ⟨plan, ready, planning, applying⟩, rfl⟩)
  have unnoted : ready.invalid = before.invalid := Export.plan_invalid planning
  have carries := Export.plan_plans exportNode planning
  refine ⟨plan, _, resolved, unnoted, carries, Export.plan_answers exportNode planning, ?_, ?_⟩
  · have applied := (Export.applyAll_applied (fun _ => true) decides (fun _ _ => rfl) disciplinedToo
      (Int.le_of_eq (congrArg Store.nextId unread.symm))
      (fun id undrawn => carries.edits.spares disciplined undrawn) applying).2
    rwa [unread] at applied
  · rcases resolve_restyles resolved with ⟨written, -, whole, restyled⟩
    rwa [whole rfl unnoted] at restyled

/-- If its comments can be read, an export gets what it asks for. -/
theorem resolve_serves {exportNode : Node} (unfiltered : scope.filter = none)
    (disciplined : before.store.Disciplined)
    (distinct : (Export.constructedNames exportNode).Nodup)
    (readable : (Export.declaredType exportNode).isOk)
    (single : start.Single scope.filePath before.store) :
    ∃ next, Ends (resolve scope exportNode) before (.ok ()) next ∧ next.invalid = before.invalid ∧
      ∀ className name,
        (className, name) ∈ Export.companionsAsked scope before.store exportNode →
        ∃ updated, Export.Served scope exportNode className name before.store next.store
          updated := by
  obtain ⟨plan, next, resolved, unnoted, fulfilled⟩ :=
    resolve_fulfills unfiltered disciplined readable
  have singleToo := resolve_single distinct single resolved
  refine ⟨next, resolved, unnoted, fun className name asked => ?_⟩
  cases found : before.store.lookup? .moduleVariable name scope.filePath with
  | some doc =>
      have foundToo := fulfilled.applied.lookup?_of_some found
      refine ⟨doc.revisedBy plan, foundToo, fulfilled.type_revisedBy disciplined distinct asked found,
        fulfilled.style_revisedBy disciplined asked found, singleToo.eq_of_lookup? foundToo,
        fun known isKnown => ?_, fun missing => ?_⟩
      · cases found.symm.trans isKnown
        exact fulfilled.revised disciplined asked found
      · cases found.symm.trans missing
  | none =>
      obtain ⟨updated, foundToo, synthesized, typed, styled⟩ := fulfilled.made distinct asked found
      refine ⟨updated, foundToo, typed, styled, singleToo.eq_of_lookup? foundToo,
        fun known isKnown => ?_, fun _ => synthesized⟩
      cases found.symm.trans isKnown

/-- After the walk the ids are still in step with the counter. -/
theorem walkthrough_disciplined {id : Int} (disciplined : before.store.Disciplined)
    (ended : Ends (walkthrough scope) before (.ok id) after) : after.store.Disciplined := by
  rcases ends_bind_ok.1 ended with ⟨_, opened, opens, rest⟩
  rcases ends_bind_ok.1 rest with ⟨_, walked, walks, rested⟩
  rcases ends_pure.1 rested with ⟨-, rfl⟩
  have openedInStep := (prepare_reaches opens).grows.disciplined disciplined
  exact ((firstPass_sound _).reaches walks).grows.disciplined openedInStep

/-- However the work after the walk ends, each name has one companion at most. -/
theorem finish_single {id : Int} {walked : Progress} {outcome : Except Fault Int}
    (untouched : ∀ doc ∈ walked.store.docs, doc.filePath = scope.filePath →
      doc.pseudoExport = false)
    (distinct : ∀ exportNode ∈ walked.pending, (Export.constructedNames exportNode).Nodup)
    (ended : Ends (finish scope id) walked outcome after) :
    walked.store.Single scope.filePath after.store := by
  rcases ends_finish ended with ⟨result, resolved, resolving, -, same⟩
  have opens : walked.store.Single (within scope id).filePath walked.store := .start untouched
  have closes : walked.store.Single (within scope id).filePath resolved.store :=
    secondPass_single distinct opens resolving
  exact same ▸ closes

/--
At most one companion for each name. If the `new` declarators of every export bind distinct names,
then a run into a store without records of the file leaves at most one record for each name that
exports have made, however it ends, and none for names of variables that the walk has recorded. If
besides there is no filter and the ids of the store are distinct and below the counter, then every
export on the way whose comments give a readable type, if any, is resolved without a fault, and it
gets what it asks for: the record that is found is revised, and one is made only where none is found.
-/
theorem one_companion_for_each_name (scope : Scope) (store : Store) (nextNode : NodeId)
    (fresh : ∀ doc ∈ store.docs, doc.filePath ≠ scope.filePath)
    (distinct : ∀ exportNode ∈ scope.program.queue, (Export.constructedNames exportNode).Nodup)
    {outcome : Except Fault Int} {after : Progress}
    (ended : Ends (generate scope) (Program.start ⟨scope.program, nextNode⟩ store) outcome after) :
    (∀ name, (after.store.companions scope.filePath name).length ≤ 1) ∧
    ∀ ⦃id walked⦄, Ends (walkthrough scope) (Program.start ⟨scope.program, nextNode⟩ store) (.ok id)
        walked →
      (∀ name, (∃ doc ∈ walked.store.docs, doc.isCalled .moduleVariable name scope.filePath) →
        after.store.companions scope.filePath name = []) ∧
      (scope.filter = none → store.Disciplined → ∀ ⦃earlier exportNode later reached⦄,
        scope.program.queue = earlier ++ exportNode :: later →
        Ends (earlier.forM (resolve (within scope id))) walked (.ok ()) reached →
        (Export.declaredType exportNode).isOk →
        ∃ next, Ends (resolve (within scope id) exportNode) reached (.ok ()) next ∧
          next.invalid = reached.invalid ∧
          ∀ className name,
            (className, name) ∈ Export.companionsAsked scope reached.store exportNode →
            ∃ updated, Export.Served (within scope id) exportNode className name reached.store
              next.store updated) := by
  rw [generate_eq_walkthrough] at ended
  constructor
  · intro name
    rcases ends_bind.1 ended with ⟨id, walked, walks, rest⟩ | ⟨fault, failed, -⟩
    · have queued : walked.pending = scope.program.queue := walkthrough_queues walks
      have single := finish_single (walkthrough_untouched fresh walks) (queued ▸ distinct) rest
      exact single.length_companions_le name
    · have single := Store.Single.start (walkthrough_untouched fresh failed)
      exact single.length_companions_le name
  · intro id walked walks
    have untouched := walkthrough_untouched fresh walks
    constructor
    · rintro name ⟨doc, isStored, called⟩
      rcases ends_bind.1 ended with ⟨other, state, walksToo, rest⟩ | ⟨fault, failed, -⟩
      · rcases walks.unique walksToo with ⟨-, rfl⟩
        have queued : walked.pending = scope.program.queue := walkthrough_queues walks
        have single := finish_single untouched (queued ▸ distinct) rest
        have recorded := untouched doc isStored (Doc.isCalled_iff.1 called).2.2
        exact single.companions_eq_nil (Store.mem_variableNames.2 ⟨doc, isStored, called, recorded⟩)
      · cases (walks.unique failed).1
    · intro unfiltered disciplined earlier exportNode later reached queue resolving readable
      rw [queue] at distinct
      have opens : walked.store.Single (within scope id).filePath walked.store := .start untouched
      have single : walked.store.Single (within scope id).filePath reached.store :=
        forM_resolve_single (fun other isEarlier => distinct other
          (List.mem_append_left _ isEarlier)) opens resolving
      have walkedInStep : walked.store.Disciplined := walkthrough_disciplined disciplined walks
      have reachedInStep : reached.store.Disciplined := by
        have sound := Sound.forM fun (other : Node) (_ : other ∈ earlier) =>
          resolve_sound (within scope id) other
        exact (sound.reaches resolving).grows.disciplined walkedInStep
      have isQueued : exportNode ∈ earlier ++ exportNode :: later := by simp
      exact resolve_serves unfiltered reachedInStep (distinct exportNode isQueued) readable single

/-- A module of which two exports ask for the same companion. -/
def askingScope : Scope where
  program := .mk { id := 0 } (.program [emptyClass 1 "Foo", freshDefault 4 [] "Foo",
    instanceExport 7 "foo" "Foo"] [])
  filePath := "asking.js"

/-- What the walk through that module leaves. -/
def askingWalked : Progress :=
  ((walkthrough askingScope).run.run (Program.start ⟨askingScope.program, 17⟩ {})).2

/-- What the first of the two exports makes of it. -/
def askingReached : Progress :=
  (([freshDefault 4 [] "Foo"].forM (resolve (within askingScope 0))).run.run askingWalked).2

/-- The first export makes the companion, and the second one changes it. -/
theorem asking_exports_share_companion :
    (endOf askingScope).store.docs.map (fun doc => (doc.name, doc.importStyle, doc.pseudoExport)) =
      [(some "asking.js", none, false), (some "Foo", none, false),
        (some "foo", some "\x7bfoo\x7d", true)] ∧
    ((endOf askingScope).store.companions "asking.js" "foo").length ≤ 1 ∧
    ∃ doc next updated, askingReached.store.lookup? .moduleVariable "foo" "asking.js" = some doc ∧
      Ends (resolve (within askingScope 0) (instanceExport 7 "foo" "Foo")) askingReached (.ok ())
        next ∧
      next.invalid = askingReached.invalid ∧
      Export.Served (within askingScope 0) (instanceExport 7 "foo" "Foo") "Foo" "foo"
        askingReached.store next.store updated ∧
      doc.Revised updated := by
  have queue : askingScope.program.queue = [freshDefault 4 [] "Foo"] ++
      instanceExport 7 "foo" "Foo" :: [] := by with_unfolding_all rfl
  have distinct : ∀ exportNode ∈ askingScope.program.queue,
      (Export.constructedNames exportNode).Nodup := by
    decide +kernel
  have ended : Ends (generate askingScope) (Program.start ⟨askingScope.program, 17⟩ {}) (.ok 0)
      (endOf askingScope) := Prod.ext (by decide +kernel) rfl
  have walks : Ends (walkthrough askingScope) (Program.start ⟨askingScope.program, 17⟩ {}) (.ok 0)
      askingWalked := Prod.ext (by decide +kernel) rfl
  have resolving : Ends ([freshDefault 4 [] "Foo"].forM (resolve (within askingScope 0))) askingWalked
      (.ok ()) askingReached := Prod.ext (by decide +kernel) rfl
  have empty : ({} : Store).Disciplined := ⟨by simp, by simp⟩
  rcases one_companion_for_each_name askingScope {} 17 (by simp) distinct ended with ⟨single, rest⟩
  rcases (rest walks).2 rfl empty queue resolving (by decide +kernel) with
    ⟨next, resolved, unnoted, served⟩
  have asked : ("Foo", "foo") ∈ Export.companionsAsked askingScope askingReached.store
      (instanceExport 7 "foo" "Foo") := by decide +kernel
  have known : (askingReached.store.lookup? .moduleVariable "foo" askingScope.filePath).isSome := by
    decide +kernel
  rcases Option.isSome_iff_exists.1 known with ⟨doc, found⟩
  rcases served "Foo" "foo" asked with ⟨updated, serves⟩
  exact ⟨by decide +kernel, single "foo", doc, next, updated, found, resolved, unnoted, serves,
    serves.revised doc found⟩

/-- The export of two new instances of a class. -/
def pairExport (first : NodeId) (name other className : String) : Node :=
  let declarator (first : NodeId) (name : String) : Node := .mk { id := first } (.declarator
    (some (.mk { id := first + 1 } (.identifier name)))
    (some (.mk { id := first + 2 }
      (.construct (some (.mk { id := first + 3 } (.identifier className))) []))))
  .mk { id := first } (.exportNamed (some (.mk { id := first + 1 } (.variables "const"
    [declarator (first + 2) name, declarator (first + 6) other]))) [] none)

/-- A module whose last export asks for a new companion, and for one that is there already. -/
def clashScope : Scope where
  program := .mk { id := 0 } (.program [emptyClass 1 "Foo", freshDefault 4 [] "Foo",
    pairExport 7 "x" "foo" "Foo"] [])
  filePath := "clash.js"
  policy := .log

/-- A store in which the id is taken that the new companion would get. -/
def clashStore : Store where
  docs := [{ id := 3, category := .module, filePath := "other.js" }]

/-- A module whose last export has an unreadable comment. -/
def unreadScope : Scope where
  program := .mk { id := 0 } (.program [emptyClass 1 "Foo", instanceExport 4 "foo" "Foo",
    freshDefault 10 [typeless] "Foo"] [])
  filePath := "unread.js"
  policy := .log

/-- What the walk through a module and its first export make of a store. -/
def afterFirst (scope : Scope) (start : Store) : Progress :=
  let walked := ((walkthrough scope).run.run (Program.start ⟨scope.program, 19⟩ start)).2
  (((scope.program.queue.take 1).forM (resolve (within scope 0))).run.run walked).2

/-- The import style of the variable of a name after a run. -/
def finalStyle? (scope : Scope) (start : Store) (name : String) : Option (Option String) :=
  let after := ((generate scope).run.run (Program.start ⟨scope.program, 19⟩ start)).2
  (after.store.lookup? .moduleVariable name scope.filePath).map Doc.importStyle

/--
The second of two exports does not change the companion that it asks for, if it asks for another one
whose id is taken, or if its comments give no readable type: the style of the first export stays.
-/
theorem companion_left_alone :
    ((∀ doc ∈ clashStore.docs, doc.filePath ≠ clashScope.filePath) ∧ clashScope.filter = none ∧
      (∀ exportNode ∈ clashScope.program.queue, (Export.constructedNames exportNode).Nodup) ∧
      ("Foo", "foo") ∈ Export.companionsAsked clashScope (afterFirst clashScope clashStore).store
        (pairExport 7 "x" "foo" "Foo") ∧
      (Export.companionChange clashScope.filePath (pairExport 7 "x" "foo" "Foo") "foo"
        "Foo").importStyle = some "\x7bfoo\x7d" ∧
      finalStyle? clashScope clashStore "foo" = some (some "foo")) ∧
    unreadScope.filter = none ∧
      (∀ exportNode ∈ unreadScope.program.queue, (Export.constructedNames exportNode).Nodup) ∧
      ("Foo", "foo") ∈ Export.companionsAsked unreadScope (afterFirst unreadScope {}).store
        (freshDefault 10 [typeless] "Foo") ∧
      (Export.companionChange unreadScope.filePath (freshDefault 10 [typeless] "Foo") "foo"
        "Foo").importStyle = some "foo" ∧
      finalStyle? unreadScope {} "foo" = some (some "\x7bfoo\x7d") := by
  refine ⟨⟨?_, rfl, ?_, ?_, ?_, ?_⟩, rfl, ?_, ?_, ?_, ?_⟩ <;> decide +kernel

end Module

end DocHarvest
