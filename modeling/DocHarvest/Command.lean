import DocHarvest.Ingest
import DocHarvest.Report.Console

/-!
# The command

Documents a source and reports the records, as a table or as JSON, by means of a printer. The exit
code is two when the options make no sense, one when the source cannot be documented, and zero
otherwise. Faults that no user can mend end the command without a result.
-/

namespace DocHarvest

/-- The options of the command. -/
structure CommandOptions where
  request : IngestRequest := {}
  category : Option String := none
  json : Bool := false

/-- What the command leaves behind: its exit code and what it printed. -/
structure CommandResult where
  exitCode : Nat
  output : String
deriving DecidableEq, Repr

namespace CommandOptions

/-- What is wrong with the options themselves. -/
def complaint? (options : CommandOptions) : Option String :=
  let request := options.request
  if request.path.isNone && request.code.isNone then some "Provide a PATH or --code."
  else
    match request.policyName.filter fun name => (Policy.ofName? name).isNone with
    | some name =>
        some ("Unknown --handle-error '" ++ name ++ "'. Expected 'log' or 'throw'.")
    | none =>
        (options.category.filter fun name => (Category.ofName? name).isNone).map fun name =>
          "Unknown category '" ++ name ++ "'."

/-- The records that the options select. -/
def selected (options : CommandOptions) (store : Store) : List Doc :=
  match options.category.bind Category.ofName? with
  | none => store.docs
  | some category => store.docs.filter fun doc => doc.category == category

section Reports

variable (printer : Report.Printer)

/-- The line about a node that could not be documented. -/
def skippedLine (entry : InvalidCode) : Except Fault String :=
  printer.paragraph (Report.styled "yellow" "Skipped" ++ " " ++ entry.nodeType ++ " at line " ++
    Text.orNone (entry.line.map Value.integerText) ++ ": " ++ entry.fault.message)

/-- The records as a table, with a line before and a line after it. -/
def tableReport (ingested : Ingested) (docs : List Doc) : Except Fault String := do
  let heading ← printer.paragraph (Report.styled "green" "Generated" ++ " docs for " ++
    ingested.filePath ++ " (language: " ++ ingested.language ++ ")")
  let table ← printer.docsTable docs
  let count ← printer.paragraph ("(" ++ Value.integerText docs.length ++ " docs)")
  return heading ++ table ++ count

/-- The report on a source that has been documented. -/
def report (options : CommandOptions) (ingested : Ingested) (progress : Progress) :
    Except Fault String := do
  let docs := options.selected progress.store
  let body ←
    if options.json then printer.echo <$> printer.json docs
    else tableReport printer ingested docs
  let skipped ← progress.invalid.mapM (skippedLine printer)
  return body ++ String.join skipped

/-- The result of printing a complaint and leaving with an exit code. -/
def failure (exitCode : Nat) (complaint : String) : Except Fault CommandResult := do
  return ⟨exitCode, ← printer.paragraph (Report.styled "red" complaint)⟩

/-- Runs the command, with what came of it and all that was said on the way. -/
def runWith (options : CommandOptions) (machine : Machine) :
    Except Fault CommandResult × List Message :=
  match options.complaint? with
  | some text => (failure printer 2 text, [])
  | none =>
      match options.request.run machine {} with
      | (.error fault, progress) =>
          (if fault.isReported then failure printer 1 fault.message else .error fault,
            progress.messages)
      | (.ok ingested, progress) =>
          ((options.report printer ingested progress).map fun output => ⟨0, output⟩,
            progress.messages)

end Reports

/-- Runs the command on a console that never breaks a line. -/
def run (options : CommandOptions) (machine : Machine) :
    Except Fault CommandResult × List Message :=
  options.runWith (Report.console none) machine

end CommandOptions

end DocHarvest
