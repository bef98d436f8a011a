import DocHarvest.Command
import DocHarvest.Proofs.Module.Defaults
import DocHarvest.Proofs.Report.Printer
import DocHarvest.Proofs.Tree.Literals

/-!
# What the command prints as JSON

The records that are reported are plain, since the program that they have been made from has been
read from a tree. So what a reliable printer makes of the JSON text of a report reads back as the
records. After it the command prints a line for everything that could not be documented, which is
nothing at all if faults end the work.
-/

namespace DocHarvest

open Run

/-- A scope has the policy that the request names. -/
theorem Module.Request.policy_eq {request : Module.Request} {workspace : Workspace}
    {directory : Path} {scope : Scope} (checked : request.scope workspace directory = .ok scope) :
    Policy.ofName? request.policyName = some scope.policy := by
  unfold Module.Request.scope at checked
  dsimp only at checked
  split at checked
  · cases checked
  · split at checked
    · split at checked
      · cases checked
      · rename_i policy named
        rcases bind_eq_ok.1 checked with ⟨place, -, made⟩
        cases made
        exact named
    · cases checked

namespace IngestRequest

variable {request : IngestRequest} {machine : Machine} {store : Store} {ingested : Ingested}
  {progress : Progress}

/-- Faults end the work on a source: the request says so, or else the environment. -/
def IsStrict (request : IngestRequest) (machine : Machine) : Prop :=
  (given request.policyName).getD (machine.environment.handleError.getD "throw") = "throw"

theorem moduleRequest_facts {program : Module.Program} {filePath : String}
    {asked : Module.Request} (made : request.moduleRequest machine program filePath = .ok asked) :
    asked.program = program ∧ (request.IsStrict machine → asked.policyName = "throw") := by
  unfold moduleRequest at made
  unfold IsStrict
  cases policy : given request.policyName with
  | some name =>
      simp only [policy] at made
      cases made
      exact ⟨rfl, id⟩
  | none =>
      simp only [policy, Environment.policyName] at made
      rcases bind_eq_ok.1 made with ⟨name, isName, same⟩
      cases same
      split at isName
      · cases isName
        exact ⟨rfl, id⟩
      · cases isName

/-- A source is documented by a call, whose program has been read from a tree. -/
theorem exists_call (ran : request.run machine store = (.ok ingested, progress)) :
    ∃ call : Module.Call, call.request.program.root.HasPlainLiterals ∧
      progress.store = call.store store ∧
      (request.IsStrict machine → progress.invalid = []) := by
  unfold run at ran
  dsimp only at ran
  split at ran
  · cases ran
  · split at ran
    · cases ran
    · rename_i source _ _
      split at ran
      · cases ran
      · rename_i asked scope prepared
        rcases bind_eq_ok.1 prepared with ⟨program, isRead, made⟩
        rcases bind_eq_ok.1 made with ⟨_, isAsked, checked⟩
        rcases bind_eq_ok.1 checked with ⟨_, isScope, same⟩
        cases same
        rcases moduleRequest_facts isAsked with ⟨sameProgram, isThrow⟩
        let state : Progress := { asked.program.start store with
          messages := Module.parseWarnings (machine.parse source) }
        let call : Module.Call :=
          ⟨asked, machine.workspace, machine.environment.directory, state⟩
        have accepted : call.scope = .ok scope := isScope
        have performed : (call.perform store).2 = progress := by
          rw [Module.Call.perform, accepted]
          exact congrArg Prod.snd ran
        refine ⟨call, ?_, congrArg Progress.store performed.symm, fun strict => ?_⟩
        · rw [show call.request.program = program from sameProgram]
          exact Module.readProgram_hasPlainLiterals isRead
        · have ended := Module.Call.ends_perform accepted store
          rw [performed] at ended
          refine Module.Request.invalid_of_stop ?_ ended
          have isStop := Module.Request.policy_eq isScope
          rw [isThrow strict] at isStop
          exact (Option.some.inj isStop).symm

end IngestRequest

namespace CommandOptions

variable {options : CommandOptions} {machine : Machine} {printer : Report.Printer}

/-- The command ends well only if the source has been documented and the report has been made. -/
theorem exists_report {result : CommandResult} (isFine : result.exitCode = 0)
    (ran : (options.runWith printer machine).1 = .ok result) : ∃ ingested progress,
      options.request.run machine {} = (.ok ingested, progress) ∧
        options.report printer ingested progress = .ok result.output := by
  have failed {exitCode : Nat} {complaint : String} (isFault : exitCode ≠ 0)
      (ended : failure printer exitCode complaint = .ok result) : False := by
    rcases bind_eq_ok.1 ended with ⟨line, -, same⟩
    cases same
    exact isFault isFine
  unfold runWith at ran
  split at ran
  · exact (failed (by decide) ran).elim
  · split at ran
    · dsimp only at ran
      split at ran
      · exact (failed (by decide) ran).elim
      · cases ran
    · rename_i ingested progress documented
      refine ⟨ingested, progress, documented, ?_⟩
      cases made : options.report printer ingested progress with
      | error fault =>
          rw [made] at ran
          cases ran
      | ok output =>
          rw [made] at ran
          cases ran
          rfl

/-- The records that are reported are records of the store. -/
theorem selected_subset (options : CommandOptions) (store : Store) :
    options.selected store ⊆ store.docs := by
  unfold selected
  split
  · exact List.Subset.refl _
  · exact List.filter_subset_self _

/-- A line is printed for everything that could not be documented, so none only for nothing. -/
theorem join_skipped_eq_empty (reliable : printer.IsReliable) {entries : List InvalidCode}
    {lines : List String} (made : entries.mapM (skippedLine printer) = .ok lines) :
    String.join lines = "" ↔ entries = [] := by
  cases entries with
  | nil =>
      cases made
      simp
  | cons entry rest =>
      rw [List.mapM_cons] at made
      rcases bind_eq_ok.1 made with ⟨line, isLine, later⟩
      rcases bind_eq_ok.1 later with ⟨others, -, same⟩
      cases same
      have isSome := reliable.ne_empty isLine
      simp [String.join_cons, isSome]

/--
What the command prints as JSON by means of a reliable printer: if it ends well, its output is one
JSON text, a newline, and a line for every fault that has been noted on the way. The text is read
back as the dumps of the selected records in their order, which are the records themselves where
JSON has a form for all numbers in them. So the output is the text alone exactly if nothing has been
noted, which holds where faults end the work.
-/
theorem run_json (reliable : printer.IsReliable) {result : CommandResult} (isJson : options.json)
    (isFine : result.exitCode = 0) (ran : (options.runWith printer machine).1 = .ok result) :
    ∃ ingested progress text skipped,
      options.request.run machine {} = (.ok ingested, progress) ∧
        Value.ofJson? text =
          some (.list ((options.selected progress.store).map printer.dump)) ∧
        ((∀ doc ∈ options.selected progress.store, doc.toValue.IsFinite) →
          Value.ofJson? text =
            some (.list ((options.selected progress.store).map Doc.toValue))) ∧
        progress.invalid.mapM (skippedLine printer) = .ok skipped ∧
        result.output = text ++ "\n" ++ String.join skipped ∧
        (result.output = text ++ "\n" ↔ progress.invalid = []) ∧
        (options.request.IsStrict machine → progress.invalid = []) := by
  rcases exists_report isFine ran with ⟨ingested, progress, documented, reported⟩
  rcases IngestRequest.exists_call documented with ⟨call, ofProgram, sameStore, ofStrict⟩
  simp only [report, isJson, if_true] at reported
  rcases bind_eq_ok.1 reported with ⟨body, written, later⟩
  rcases bind_eq_ok.1 later with ⟨skipped, isSkipped, same⟩
  rw [map_eq_pure_bind] at written
  rcases bind_eq_ok.1 written with ⟨text, isText, echoed⟩
  have plain : ∀ doc ∈ options.selected progress.store, doc.IsPlain := by
    intro doc isSelected
    have isStored := selected_subset options progress.store isSelected
    rw [sameStore] at isStored
    have single : ∀ other ∈ [call], other.request.program.root.HasPlainLiterals := by
      simpa using ofProgram
    exact Module.Call.isPlain_of_mem_storeAfter single doc isStored
  obtain ⟨isEchoed, isRead⟩ := reliable.json plain isText
  have output : text ++ "\n" ++ String.join skipped = result.output := by
    rw [← isEchoed, Except.ok.inj echoed]
    exact Except.ok.inj same
  refine ⟨ingested, progress, text, skipped, documented, isRead, ?_, isSkipped, output.symm, ?_,
    ofStrict⟩
  · intro isFinite
    rw [isRead, reliable.payload_eq isFinite]
  · rw [← output, ← join_skipped_eq_empty reliable isSkipped]
    simp

/-- The tree of a comment and two functions, of which the second one has a default. -/
def functionsTree : Tree :=
  let token (kind : String) (start stop : Nat) : Tree := .mk kind false none start stop []
  let name (field : Option String) (start stop : Nat) : Tree :=
    .mk "identifier" true field start stop []
  let block (start stop : Nat) : Tree :=
    .mk "statement_block" true (some "body") start stop
      [token "\x7b" start (start + 1), token "\x7d" (start + 1) stop]
  .mk "program" true none 0 58 [
    .mk "comment" true none 0 18 [],
    .mk "function_declaration" true none 19 35 [
      token "function" 19 27,
      name (some "name") 28 29,
      .mk "formal_parameters" true (some "parameters") 29 32
        [token "(" 29 30, name none 30 31, token ")" 31 32],
      block 33 35],
    .mk "function_declaration" true none 36 58 [
      token "function" 36 44,
      name (some "name") 45 46,
      .mk "formal_parameters" true (some "parameters") 46 55 [
        token "(" 46 47,
        .mk "assignment_pattern" true none 47 54
          [name (some "left") 47 48, token "=" 49 50, .mk "number" true (some "right") 51 54 []],
        token ")" 54 55],
      block 56 58]]

/-- Surroundings without files, and the tree of the source that is documented. -/
def functionsMachine : Machine where
  environment := {}
  workspace := {}
  parse _ := ⟨functionsTree, false⟩

/-- Two functions, and a comment with an empty type for the first one; faults are noted. -/
def emptyType (category : Option String) : CommandOptions where
  request := {
    code := some "/** @param {} x */\nfunction f(x) {}\nfunction g(y = 0.5) {}"
    policyName := some "log" }
  category
  json := true

/-- The plain text of marked-up text, given whether it starts within a tag. -/
def withoutTags : Bool → List Char → List Char
  | _, [] => []
  | inside, character :: rest =>
      if character == '[' then withoutTags true rest
      else if character == ']' then withoutTags false rest
      else if inside then withoutTags inside rest
      else character :: withoutTags inside rest

/-- A printer that leaves tags out and never breaks a line. -/
def plainPrinter : Report.Printer where
  paragraph text := .ok (String.ofList (withoutTags false text.toList) ++ "\n")
  table header rows :=
    .ok (String.join ((header :: rows).map fun cells => Text.joinStrings " " cells ++ "\n"))
  echo text := text ++ "\n"
  dump := Doc.toValue

theorem isReliable_plainPrinter : plainPrinter.IsReliable where
  endsLine made := ⟨_, (Except.ok.inj made).symm⟩
  echoes _ := rfl
  dumpsPlain plain := plain.toValue
  dumpsFields _ := rfl

/-- The records that it still prints are read back from the first part of its output. -/
theorem emptyType_run_json :
    ∃ result, ((emptyType none).runWith plainPrinter functionsMachine).1 = .ok result ∧
      ∃ ingested progress text skipped,
        (emptyType none).request.run functionsMachine {} = (.ok ingested, progress) ∧
          Value.ofJson? text =
            some (.list (((emptyType none).selected progress.store).map plainPrinter.dump)) ∧
          ((∀ doc ∈ (emptyType none).selected progress.store, doc.toValue.IsFinite) →
            Value.ofJson? text =
              some (.list (((emptyType none).selected progress.store).map Doc.toValue))) ∧
          progress.invalid.mapM (skippedLine plainPrinter) = .ok skipped ∧
          result.output = text ++ "\n" ++ String.join skipped ∧
          (result.output = text ++ "\n" ↔ progress.invalid = []) ∧
          ((emptyType none).request.IsStrict functionsMachine → progress.invalid = []) := by
  have ended :
      ((emptyType none).runWith plainPrinter functionsMachine).1.map CommandResult.exitCode =
        .ok 0 := by
    decide +kernel
  cases ran : ((emptyType none).runWith plainPrinter functionsMachine).1 with
  | error fault =>
      rw [ran] at ended
      cases ended
  | ok result =>
      rw [ran] at ended
      exact ⟨result, rfl, run_json isReliable_plainPrinter rfl (Except.ok.inj ended) ran⟩

/-- Without any class to report there is an empty array, but the command prints more than that. -/
theorem emptyType_output_not_json :
    (emptyType (some "ModuleClass")).json = true ∧
      ((emptyType (some "ModuleClass")).runWith plainPrinter functionsMachine).1 = .ok ⟨0,
        "[]\nSkipped FunctionDeclaration at line 2: Empty type found name=x desc=\n"⟩ ∧
      Value.ofJson? "[]\nSkipped FunctionDeclaration at line 2: Empty type found name=x desc=\n" =
        none := by
  refine ⟨rfl, ?_, ?_⟩
  · decide +kernel
  · decide +kernel

end CommandOptions

end DocHarvest
