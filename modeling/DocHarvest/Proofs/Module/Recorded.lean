import DocHarvest.Proofs.Module.Stages
import Mathlib.Data.List.Forall2

/-!
# One record for every statement

Of the findings of a program those at its statements are about the module, and those below them are
about members of classes. So the records of the module that the walk stores stand one to one, and in
order, for the statements that declare something.
-/

namespace DocHarvest

open Run

/-- A record that was built, in a scope, for what has been decided on. -/
def Decision.IsRecordedAs (scope : Scope) (decision : Decision) (doc : Doc) : Prop :=
  ∃ draft : Draft, draft.scope = scope ∧ draft.node = decision.node ∧
    draft.build decision.category = .ok doc

namespace Decision.IsRecordedAs

variable {scope : Scope} {decision : Decision} {doc : Doc}

theorem category (recorded : decision.IsRecordedAs scope doc) :
    doc.category = decision.category ∨
      decision.category = .classMethod ∧ doc.category = .classMember := by
  rcases recorded with ⟨draft, -, -, built⟩
  exact (Draft.build_heads built).category

theorem isModule (recorded : decision.IsRecordedAs scope doc) :
    doc.category.isModule = decision.category.isModule := by
  rcases recorded.category with same | ⟨isMethod, isMember⟩
  · rw [same]
  · rw [isMethod, isMember]
    rfl

theorem isMember (recorded : decision.IsRecordedAs scope doc) :
    doc.category.isMember = decision.category.isMember := by
  rcases recorded.category with same | ⟨isMethod, isMember⟩
  · rw [same]
  · rw [isMethod, isMember]
    rfl

theorem category_of_isModule (recorded : decision.IsRecordedAs scope doc)
    (isModule : decision.category.isModule) : doc.category = decision.category := by
  rcases recorded.category with same | ⟨isMethod, -⟩
  · exact same
  · rw [isMethod] at isModule
    cases isModule

end Decision.IsRecordedAs

theorem Told.forall₂ {scope : Scope} {findings : List Finding} {docs : List Doc}
    (told : Told scope findings docs) :
    List.Forall₂ (fun finding doc => finding.decision.IsRecordedAs scope doc) findings docs := by
  induction told with
  | nil => exact .nil
  | snoc _ draft inScope node built _ ih =>
      exact List.rel_append ih (.cons ⟨draft, inScope, node, built⟩ .nil)

namespace Node

variable {program : Node}

theorem isModule_of_declared? {node : Node} {decision : Decision}
    (declared : node.declared? = some decision) : decision.category.isModule := by
  have bound {value : Option Decision} {other : Decision}
      (isValue : ∀ found, value = some found → found.category.isModule)
      (isOther : other.category.isModule) : (value.getD other).category.isModule := by
    cases value with
    | none => exact isOther
    | some found => exact isValue found rfl
  unfold declared? at declared
  split at declared
  case h_5 left value operator shape =>
    cases declared
    refine bound (fun found isFound => ?_) rfl
    rcases Option.bind_eq_some_iff.1 isFound with ⟨inner, -, isValue⟩
    exact isModule_of_value? isValue
  case h_6 keyword first others shape =>
    rcases Option.map_eq_some_iff.1 declared with ⟨value, -, rfl⟩
    exact bound (fun found isFound => isModule_of_value? isFound) rfl
  case h_7 => cases declared
  all_goals
    cases declared
    rfl

theorem isModule_of_recorded? {statement : Node} {decision : Decision}
    (recorded : program.recorded? statement = some decision) : decision.category.isModule := by
  unfold recorded? at recorded
  split at recorded
  · cases recorded
  · split at recorded
    · rcases Option.bind_eq_some_iff.1 recorded with ⟨declaration, -, declared⟩
      exact isModule_of_declared? declared
    · exact isModule_of_declared? recorded

/-- Where nothing is taken from below the statements, what is taken is taken from statements. -/
theorem filterMap_walked {α : Type} {take : Place → Option α} (isProgram : program.isProgram)
    (nothing : ∀ place ∈ program.walked, place.above ≠ [program] → take place = none) :
    program.walked.filterMap take =
      program.body.filterMap fun statement => take ⟨statement, [program]⟩ := by
  have entered : (!Export.isDeferred program program) = true := by
    rw [isDeferred_eq_false (isExport_of_isProgram isProgram)]
    rfl
  have below (statement : Node) (isStatement : statement ∈ program.body) :
      ((⟨statement, [program]⟩ : Place).reach fun node =>
        !Export.isDeferred program node).filterMap take =
          (take ⟨statement, [program]⟩).toList := by
    have inside := Place.reach_subset (statement_mem_walked isProgram isStatement)
    cases goesIn : !Export.isDeferred program statement with
    | false =>
        rw [Place.reach_of_not_enters goesIn]
        cases found : take ⟨statement, [program]⟩ <;> simp [found]
    | true =>
        rw [Place.reach_of_enters goesIn] at inside ⊢
        have rest : ((⟨statement, [program]⟩ : Place).parts.flatMap
            (Place.reach fun node => !Export.isDeferred program node)).filterMap take = [] := by
          refine List.filterMap_eq_nil_iff.2 fun place isBelow => ?_
          refine nothing place (inside (List.mem_cons_of_mem _ isBelow)) fun same => ?_
          rcases List.mem_flatMap.1 isBelow with ⟨part, isPart, isReached⟩
          have longer := Place.length_above_le_of_mem_reach isReached
          rw [(Place.mem_parts.1 isPart).2, same] at longer
          simp at longer
        rw [List.filterMap_cons, rest]
        cases found : take ⟨statement, [program]⟩ <;> simp
  have rootNothing : take ⟨program, []⟩ = none :=
    nothing _ (Place.self_mem_reach _) (by simp)
  rw [walked, Place.reach_of_enters entered, List.filterMap_cons, rootNothing,
    List.filterMap_flatMap, Place.parts, children_eq_body isProgram, List.flatMap_map,
    List.filterMap_eq_flatMap_toList]
  exact List.flatMap_congr below

/-- The findings about the module are those at its statements. -/
theorem filter_findings (literal : program.HasLiteralSources) (isProgram : program.isProgram) :
    (program.findings.filter fun finding => finding.decision.category.isModule).map
      Finding.decision = program.body.filterMap program.recorded? := by
  rw [findings, List.filter_filterMap, List.map_filterMap, filterMap_walked isProgram]
  · refine List.filterMap_congr fun statement _ => ?_
    cases found : (⟨statement, [program]⟩ : Place).finding? program with
    | none =>
        rw [← Place.finding?_statement isProgram, found]
        rfl
    | some finding =>
        have recorded : program.recorded? statement = some finding.decision := by
          rw [← Place.finding?_statement isProgram, found]
          rfl
        simp [recorded, isModule_of_recorded? recorded]
  · intro place isWalked inner
    cases found : place.finding? program with
    | none => rfl
    | some finding =>
        have member := Place.memberOf?_of_finding? literal isProgram isWalked inner found
        have notModule : finding.decision.category.isModule = false := by
          have isMember := Place.isMember_of_memberOf? member
          generalize finding.decision.category = category at isMember
          cases category <;> first | rfl | cases isMember
        simp [notModule]

end Node

namespace Told

variable {scope : Scope} {program : Node} {docs : List Doc}

/-- The records about the module stand for the statements. -/
theorem statements (told : Told scope program.findings docs) (literal : program.HasLiteralSources)
    (isProgram : program.isProgram) :
    List.Forall₂ (fun decision doc => decision.IsRecordedAs scope doc ∧
        doc.category = decision.category)
      (program.body.filterMap program.recorded?)
      (docs.filter fun doc => doc.category.isModule) := by
  rw [← Node.filter_findings literal isProgram, List.forall₂_map_left_iff]
  have filtered : List.Forall₂ (fun (finding : Finding) doc =>
      finding.decision.IsRecordedAs scope doc)
      (program.findings.filter fun finding => finding.decision.category.isModule)
      (docs.filter fun doc => doc.category.isModule) :=
    List.rel_filter (fun finding doc recorded => by simp [recorded.isModule]) told.forall₂
  have ofModule : ∀ finding ∈ program.findings.filter fun finding =>
      finding.decision.category.isModule, finding.decision.category.isModule = true :=
    fun finding isKept => (List.mem_filter.1 isKept).2
  refine ((List.forall₂_and_left _ _).2 ⟨ofModule, filtered⟩).imp fun finding doc kept => ?_
  exact ⟨kept.2, kept.2.category_of_isModule kept.1⟩

/-- The records of classes stand for the recorded classes. -/
theorem classes (told : Told scope program.findings docs) (literal : program.HasLiteralSources)
    (isProgram : program.isProgram) :
    List.Forall₂ (fun classNode doc => Decision.IsRecordedAs scope ⟨.moduleClass, classNode⟩ doc)
      program.recordedClasses (docs.filter fun doc => doc.category = .moduleClass) := by
  have kept : docs.filter (fun doc => doc.category = .moduleClass) =
      (docs.filter fun doc => doc.category.isModule).filterMap
        (Option.guard fun doc => doc.category = .moduleClass) := by
    rw [List.filterMap_eq_filter, List.filter_filter]
    refine List.filter_congr fun doc _ => ?_
    by_cases isClass : doc.category = .moduleClass <;> simp [isClass, Category.isModule]
  rw [kept, Node.recordedClasses]
  refine List.rel_filterMap ?_ (told.statements literal isProgram)
  rintro ⟨category, node⟩ doc ⟨recorded, same⟩
  by_cases isClass : category = .moduleClass
  · subst isClass
    simp only at same
    simpa [Option.guard, same] using recorded
  · simp only at same
    simp [Option.guard, same, isClass]

end Told

namespace Module

/--
The walk records a module statement by statement: of the records that it stores, those about the
module stand one to one and in order for the statements that are recorded for something, each built
for the node and in the category that the statement is recorded for.
-/
theorem statements_recorded (scope : Scope) (store : Store) (nextNode : NodeId)
    (plain : scope.program.IsPlain) (below : scope.program.Below nextNode)
    (unfiltered : scope.filter = none) {id : Int} {after : Progress}
    (ended : Ends (generate scope) (Program.start ⟨scope.program, nextNode⟩ store) (.ok id) after)
    (faultless : after.invalid = []) :
    ∃ opened walked added,
      Stages scope id (Program.start ⟨scope.program, nextNode⟩ store) opened walked after ∧
      walked.store.docs = opened.store.docs ++ added ∧
      List.Forall₂ (fun decision doc => decision.IsRecordedAs (within scope id) doc ∧
          doc.category = decision.category)
        (scope.program.body.filterMap scope.program.recorded?)
        (added.filter fun doc => doc.category.isModule) := by
  rcases exists_walked plain below unfiltered ended faultless with
    ⟨opened, walked, added, stages, -, recorded⟩
  exact ⟨opened, walked, added, stages, recorded.reported.stored,
    recorded.reported.told.statements plain.literal plain.isProgram⟩

/-- A class with a method that sets a field. -/
def sampleClass : Node :=
  let field : Node := .mk { id := 7 } (.member (some (.mk { id := 8 } .this))
    (some (.mk { id := 9 } (.identifier "speed"))) false)
  let value : Node := .mk { id := 10 } (.literal (.integer 1) .number)
  let assignment : Node := .mk { id := 6 } (.assignment (some field) (some value) "=")
  let statement : Node := .mk { id := 5 } (.expressionStatement (some assignment))
  let body : Node := .mk { id := 4 } (.block [statement])
  let method : Node := .mk { id := 3 } (.method [] (some (.mk { id := 11 } (.identifier "run"))) []
    (some body) .method false false false false)
  .mk { id := 1 } (.classLike .declaration [] (some (.mk { id := 12 } (.identifier "Engine"))) none
    (.mk { id := 2 } (.classBody [method])))

/-- A constant that is exported where it is declared. -/
def sampleExport : Node :=
  let declarator : Node := .mk { id := 15 } (.declarator
    (some (.mk { id := 16 } (.identifier "limit")))
    (some (.mk { id := 17 } (.literal (.integer 3) .number))))
  .mk { id := 13 } (.exportNamed (some (.mk { id := 14 } (.variables "const" [declarator]))) [] none)

/-- A module with a class and an exported constant. -/
def sampleScope : Scope where
  program := .mk { id := 0 } (.program [sampleClass, sampleExport] [])
  filePath := "engine.js"

/-- What is left when the sample module has been documented into an empty store. -/
def sampleEnd : Progress :=
  ((generate sampleScope).run.run (Program.start ⟨sampleScope.program, 18⟩ {})).2

theorem sampleScope_isPlain : sampleScope.program.IsPlain where
  isProgram := rfl
  tree := by decide +kernel
  literal := by decide +kernel
  inner := by decide +kernel
  comments := by decide +kernel

theorem ends_sampleScope :
    Ends (generate sampleScope) (Program.start ⟨sampleScope.program, 18⟩ {}) (.ok 0) sampleEnd :=
  Prod.ext (by decide +kernel) rfl

theorem sample_statements_recorded : ∃ opened walked added,
    Stages sampleScope 0 (Program.start ⟨sampleScope.program, 18⟩ {}) opened walked sampleEnd ∧
    walked.store.docs = opened.store.docs ++ added ∧
    (added.filter fun doc => doc.category.isModule).map Doc.category =
      [.moduleClass, .moduleVariable] := by
  rcases statements_recorded sampleScope {} 18 sampleScope_isPlain (by decide +kernel) rfl
    ends_sampleScope (by decide +kernel) with ⟨opened, walked, added, stages, stored, recorded⟩
  refine ⟨opened, walked, added, stages, stored, ?_⟩
  have categories : List.Forall₂ Eq
      ((sampleScope.program.body.filterMap sampleScope.program.recorded?).map Decision.category)
      ((added.filter fun doc => doc.category.isModule).map Doc.category) := by
    rw [List.forall₂_map_left_iff, List.forall₂_map_right_iff]
    exact recorded.imp fun decision doc told => told.2.symm
  rw [List.forall₂_eq_eq_eq] at categories
  rw [← categories]
  decide +kernel

end Module

end DocHarvest
