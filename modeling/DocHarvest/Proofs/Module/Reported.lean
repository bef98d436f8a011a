import DocHarvest.Proofs.Module.Documented
import DocHarvest.Proofs.Module.Statements

/-!
# Tables and records along the walk

The walk is followed place by place. `Tabled` says what the tables hold once some places have been
passed, and `Reported` what the store holds: one record for every finding at these places, in their
order, where the records of class members belong to the record of a class stored before.
-/

namespace DocHarvest

open Run

variable {scope : Scope} {start state : Progress} {done : List Place}

/-- What the tables hold once the walk has passed some places. -/
structure Tabled (program : Node) (start : Progress) (done : List Place) (state : Progress) :
    Prop where
  nextNode : start.nextNode ≤ state.nextNode
  fits : state.links.Fits program
  knows : ∀ place ∈ done, Export.isDeferred program place.node = false → state.links.Knows place
  marked : ∀ place ∈ program.places, state.visited.contains place.node.id → place ∈ done ∨
    place.finding? program = none ∧ (place.node.shape.isExport → place.isUnwrapped) ∧
      state.links.Knows place

/-- The declarations that the passed exports wrap have been visited with them. -/
def Unwraps (program : Node) (done : List Place) (state : Progress) : Prop :=
  ∀ outer ∈ done, Export.isDeferred program outer.node = false →
    ∀ part ∈ outer.parts, part.isUnwrapped → state.visited.contains part.node.id

/-- A record belongs to the class around a place, which has a record among some. -/
def Place.BelongsTo (scope : Scope) (findings : List Finding) (docs : List Doc) (place : Place)
    (doc : Doc) : Prop :=
  ∃ outer classDoc classNode name, (outer, classDoc) ∈ findings.zip docs ∧
    outer.decision.category = .moduleClass ∧ outer.decision.node.id = classNode.id ∧
    place.innermostClass? = some classNode ∧ classDoc.name = some name ∧
    doc.memberof = some (scope.filePath ++ "~" ++ name)

/-- The records of some findings, where every member belongs to the record of a class before it. -/
inductive Told (scope : Scope) : List Finding → List Doc → Prop
  | nil : Told scope [] []
  | snoc {findings : List Finding} {docs : List Doc} (told : Told scope findings docs)
      {finding : Finding} {doc : Doc} (draft : Draft) (inScope : draft.scope = scope)
      (node : draft.node = finding.decision.node)
      (built : draft.build finding.decision.category = .ok doc)
      (inside : Place.memberOf? finding.place.node = some finding.decision →
        finding.place.BelongsTo scope findings docs doc) :
      Told scope (findings ++ [finding]) (docs ++ [doc])

/-- A class is noted under the name of its record, which is among the records so far. -/
def Noted (names : Std.TreeMap NodeId String) (findings : List Finding) (docs : List Doc)
    (id : NodeId) : Prop :=
  ∃ finding doc name, (finding, doc) ∈ findings.zip docs ∧
    finding.decision.category = .moduleClass ∧ finding.decision.node.id = id ∧
    names[id]? = some name ∧ doc.name = some name

/-- What has been recorded once the walk has made some findings. -/
structure Reported (scope : Scope) (start : Progress) (findings : List Finding)
    (state : Progress) (docs : List Doc) : Prop where
  stored : state.store.docs = start.store.docs ++ docs
  told : Told scope findings docs
  classes : state.classes = findings.flatMap fun finding => Decision.classes (some finding.decision)
  names : ∀ classNode ∈ state.classes, Noted state.links.names findings docs classNode.id

theorem Told.length_eq {findings : List Finding} {docs : List Doc} (told : Told scope findings docs) :
    findings.length = docs.length := by
  induction told with
  | nil => rfl
  | snoc _ _ _ _ _ _ ih => simp [ih]

/-! ## Tables -/

namespace Tabled

variable {program : Node}

/-- What marks nothing but places without findings keeps the tables in order. -/
theorem marks (tabled : Tabled program start done state) {after : Progress}
    (areWalked : done ⊆ program.places) (marks : Marks program state after)
    (nextNode : state.nextNode ≤ after.nextNode) : Tabled program start done after where
  nextNode := Nat.le_trans tabled.nextNode nextNode
  fits := marks.fits tabled.fits
  knows place isDone kept := marks.knows place (areWalked isDone) (tabled.knows place isDone kept)
  marked place isPlace isVisited := by
    rcases marks.fresh place isPlace isVisited with wasVisited | ⟨nothing, plain, known⟩
    · refine (tabled.marked place isPlace wasVisited).imp_right ?_
      rintro ⟨nothing, unwrapped, known⟩
      exact ⟨nothing, unwrapped, marks.knows place isPlace known⟩
    · refine Or.inr ⟨nothing, fun isExport => ?_, known⟩
      rw [plain] at isExport
      cases isExport

theorem pass (tabled : Tabled program start done state) {place : Place}
    (known : Export.isDeferred program place.node = false → state.links.Knows place) :
    Tabled program start (done ++ [place]) state where
  nextNode := tabled.nextNode
  fits := tabled.fits
  knows other isDone kept := by
    rcases List.mem_append.1 isDone with wasDone | isNew
    · exact tabled.knows other wasDone kept
    · rcases List.mem_singleton.1 isNew with rfl
      exact known kept
  marked other isPlace isVisited :=
    (tabled.marked other isPlace isVisited).imp_left (List.mem_append_left _)

/-- Marking a place as visited, with the node around it as its parent. It may be passed so. -/
theorem mark (tabled : Tabled program start done state) (tree : program.IsTree) {place : Place}
    (isPlace : place ∈ program.places) (inside : place.above ≠ []) {passed : List Place}
    (kept : done ⊆ passed) (known : ∀ other ∈ passed, other ∈ done ∨ other = place)
    (silent : place ∈ passed ∨
      place.finding? program = none ∧ (place.node.shape.isExport → place.isUnwrapped)) :
    Tabled program start passed
      { state with
        visited := state.visited.insert place.node.id
        links := state.links.setParent place.node.id place.above.head? } := by
  have follows : place.Follows place.above.head? := by
    rcases List.exists_cons_of_ne_nil inside with ⟨outer, rest, above⟩
    exact ⟨[], outer, rest, above, by rw [above]; rfl, by simp⟩
  constructor
  · exact tabled.nextNode
  · exact tabled.fits.setParent tree isPlace follows
  · intro other isPassed entered
    rcases known other isPassed with wasDone | rfl
    · exact (tabled.knows other wasDone entered).setParent _ _
    · exact Links.knows_setParent_self _ _
  · intro other isOther isVisited
    rcases (contains_insert_iff _ _ _).1 isVisited with wasVisited | same
    · refine (tabled.marked other isOther wasVisited).imp (fun wasDone => kept wasDone) ?_
      rintro ⟨nothing, unwrapped, known⟩
      exact ⟨nothing, unwrapped, known.setParent _ _⟩
    · rcases tree.place_eq isOther isPlace same with rfl
      refine silent.imp_right ?_
      rintro ⟨nothing, unwrapped⟩
      exact ⟨nothing, unwrapped, Links.knows_setParent_self _ _⟩

end Tabled

namespace Unwraps

variable {program : Node}

theorem mono (unwraps : Unwraps program done state) {after : Progress}
    (visited : ∀ id, state.visited.contains id → after.visited.contains id) :
    Unwraps program done after :=
  fun outer isDone entered part isPart isUnwrapped =>
    visited _ (unwraps outer isDone entered part isPart isUnwrapped)

theorem pass (unwraps : Unwraps program done state) {place : Place}
    (visited : Export.isDeferred program place.node = false → ∀ part ∈ place.parts,
      part.isUnwrapped → state.visited.contains part.node.id) :
    Unwraps program (done ++ [place]) state := by
  intro outer isDone entered part isPart isUnwrapped
  rcases List.mem_append.1 isDone with wasDone | isNew
  · exact unwraps outer wasDone entered part isPart isUnwrapped
  · rcases List.mem_singleton.1 isNew with rfl
    exact visited entered part isPart isUnwrapped

end Unwraps

/-! ## Records -/

namespace Reported

variable {findings : List Finding} {docs : List Doc}

theorem any_classes_iff (findings : List Finding) (id : NodeId) :
    (findings.flatMap fun finding => Decision.classes (some finding.decision)).any
        (fun processed => processed.id == id) ↔
      ∃ finding ∈ findings, finding.decision.category = .moduleClass ∧
        finding.decision.node.id = id := by
  have each (finding : Finding) : (∃ node ∈ Decision.classes (some finding.decision), node.id = id) ↔
      finding.decision.category = .moduleClass ∧ finding.decision.node.id = id := by
    rcases finding with ⟨place, category, node⟩
    cases category <;> simp [Decision.classes]
  simp only [List.any_flatMap, List.any_eq_true, beq_iff_eq, each]

theorem pass (reported : Reported scope start findings state docs) {after : Progress}
    (stored : after.store = state.store) (classes : after.classes = state.classes)
    (names : after.links.names = state.links.names) :
    Reported scope start findings after docs where
  stored := by rw [stored, reported.stored]
  told := reported.told
  classes := by rw [classes, reported.classes]
  names := by
    rw [classes, names]
    exact reported.names

theorem belongsTo (reported : Reported scope start findings state docs) {place : Place}
    {decision : Decision} {doc : Doc} {draft : Draft} (inScope : draft.scope = scope)
    (node : draft.node = decision.node) (built : draft.build decision.category = .ok doc)
    (names : draft.links.names = state.links.names)
    (around : draft.links.findUp? decision.node.id Shape.isClass = place.innermostClass?)
    (member : Place.memberOf? place.node = some decision)
    (inside : ∀ classNode, place.innermostClass? = some classNode →
      ∃ processed ∈ state.classes, processed.id = classNode.id)
    (isInside : place.innermostClass?.isSome) :
    place.BelongsTo scope findings docs doc := by
  rcases Option.isSome_iff_exists.1 isInside with ⟨classNode, innermost⟩
  rcases inside classNode innermost with ⟨processed, isProcessed, sameId⟩
  rcases reported.names processed isProcessed with
    ⟨outer, classDoc, name, isTold, isClass, same, named, docName⟩
  refine ⟨outer, classDoc, classNode, name, isTold, isClass, same.trans sameId, innermost, docName, ?_⟩
  have memberof : draft.classMemberof = scope.filePath ++ "~" ++ name := by
    simp only [Draft.classMemberof, node, around, innermost, inScope, names, ← sameId, named]
    rfl
  rw [← memberof]
  exact (Draft.longname_of_build_member (Place.isMember_of_memberOf? member) built).1

/-- Documenting a place adds its finding, if there is one, with a record. -/
theorem documented (reported : Reported scope start findings state docs) {place : Place}
    {after : Progress} {more : List Doc}
    (inside : ∀ classNode, place.innermostClass? = some classNode →
      place.isInRecordedClass scope.program →
        ∃ processed ∈ state.classes, processed.id = classNode.id)
    (documented : Documented scope place state after more) :
    Reported scope start (findings ++ (place.found? scope.program).toList) after (docs ++ more) := by
  have lengths := reported.told.length_eq
  have tells := documented.tells
  have stored : after.store.docs = start.store.docs ++ (docs ++ more) := by
    rw [documented.stored, reported.stored, List.append_assoc]
  have classes := documented.classes
  unfold Place.found?
  generalize decided : place.decision? scope.program = decision at tells classes
  cases tells with
  | nothing names =>
      simp only [Option.map_none, Option.toList_none, List.append_nil] at stored ⊢
      have sameClasses : after.classes = state.classes := by simpa [Decision.classes] using classes
      refine ⟨stored, reported.told, sameClasses.trans reported.classes, ?_⟩
      rw [sameClasses, names]
      exact reported.names
  | record draft inScope node built names named unnamed around =>
      rename_i decision doc
      simp only [Option.map_some, Option.toList_some]
      refine ⟨stored, ?_, ?_, ?_⟩
      · refine .snoc reported.told draft inScope node built fun member => ?_
        have recorded := Place.isInRecordedClass_of_memberOf? decided member
        have sameNames := unnamed (Place.category_ne_of_memberOf? member)
        exact reported.belongsTo inScope node built (names.trans sameNames) (around member)
          member (fun classNode innermost => inside classNode innermost recorded)
          (Place.isSome_of_isInRecordedClass recorded)
      · rw [classes, reported.classes]
        simp
      · intro processed isProcessed
        rw [classes] at isProcessed
        have old (isOld : processed ∈ state.classes)
            (same : after.links.names[processed.id]? = state.links.names[processed.id]?) :
            Noted after.links.names (findings ++ [⟨place, decision⟩]) (docs ++ [doc])
              processed.id := by
          rcases reported.names processed isOld with
            ⟨finding, other, name, isTold, isClass, sameId, noted, docName⟩
          refine ⟨finding, other, name, ?_, isClass, sameId, same.trans noted, docName⟩
          rw [List.zip_append lengths]
          exact List.mem_append_left _ isTold
        by_cases isClass : decision.category = .moduleClass
        · rcases named isClass with ⟨name, docName, inserted⟩
          by_cases same : decision.node.id = processed.id
          · refine ⟨⟨place, decision⟩, doc, name, ?_, isClass, same, ?_, docName⟩
            · rw [List.zip_append lengths]
              simp
            · rw [inserted, ← same]
              simp
          · rcases List.mem_append.1 isProcessed with isOld | isNew
            · refine old isOld ?_
              rw [inserted, Std.TreeMap.getElem?_insert, if_neg]
              rwa [Nat.compare_eq_eq]
            · rcases decision with ⟨category, node⟩
              cases isClass
              rw [List.mem_singleton.1 isNew] at same
              exact absurd rfl same
        · have noClass : Decision.classes (some decision) = [] := by
            rcases decision with ⟨category, node⟩
            cases category <;> first | rfl | exact absurd rfl isClass
          rw [noClass, List.append_nil] at isProcessed
          exact old isProcessed (by rw [unnamed isClass])

end Reported

end DocHarvest
