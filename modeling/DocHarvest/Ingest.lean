import DocHarvest.Language
import DocHarvest.Module.Request
import DocHarvest.Settings

/-!
# From a source to its documentation

A file or a piece of code is read, parsed and documented into a store. The grammar is given as a
function from sources to syntax trees.
-/

namespace DocHarvest

/-- What is to be documented and how; what is left out comes from the environment. -/
structure IngestRequest where
  path : Option String := none
  code : Option String := none
  language : Option String := none
  isTest : Bool := false
  policyName : Option String := none
  root : Option String := none
  /-- The path that is recorded for code without a file. -/
  name : Option String := none

/-- The surroundings of the work: the environment, the files and the grammar. -/
structure Machine where
  environment : Environment
  workspace : Workspace
  parse : Source → Parsed

/-- What came out for a source. -/
structure Ingested where
  moduleId : Int
  language : String
  filePath : String

namespace IngestRequest

/-- A text that is there and not empty. -/
def given (text : Option String) : Option String :=
  text.filter (!·.isEmpty)

/-- The path of the file that is read; code takes its place. -/
def file? (request : IngestRequest) : Option Path :=
  if request.code.isSome then none else (given request.path).map Path.ofText

/-- The path that the language is told from. -/
def hint? (request : IngestRequest) : Option Path :=
  request.file?.or ((given request.name).map Path.ofText)

/-- The language of the source; code without any hint is in the default language. -/
def resolveLanguage (request : IngestRequest) : Except Fault String :=
  let undecided :=
    request.code.isSome && request.language.isNone && request.hint?.isNone
  Language.resolve (if undecided then some Language.javascript else request.language) request.hint?

/-- The source and the path that is recorded for it. -/
def readSource (request : IngestRequest) (machine : Machine) (language : String) :
    Except Fault (Source × String) :=
  let directory := machine.environment.directory
  match request.code, request.file? with
  | some code, _ =>
      let fallback := Language.defaultFileName language Language.defaultStem
      .ok (.ofText code, (given request.name).getD fallback)
  | none, some path => do
      let source ← machine.workspace.source directory path
      return (source, (Path.resolve directory path).toText)
  | none, none => .error .sourceMissing

/-- The request to document the program of a source. -/
def moduleRequest (request : IngestRequest) (machine : Machine) (program : Module.Program)
    (filePath : String) : Except Fault Module.Request := do
  let policyName ← match given request.policyName with
    | some name => pure name
    | none => machine.environment.policyName
  let root := (given request.root).getD machine.environment.rootPath
  return {
    program
    filePath := .text filePath
    root
    policyName
    code := request.code
    isTest := request.isTest }

/-- Reads and documents a source into a store, with what came of it and all that was said. -/
def run (request : IngestRequest) (machine : Machine) (store : Store) :
    Except Fault Ingested × Progress :=
  let idle : Progress := { store }
  match request.resolveLanguage with
  | .error fault => (.error fault, idle)
  | .ok language =>
      match request.readSource machine language with
      | .error fault => (.error fault, idle)
      | .ok (source, filePath) =>
          let parsed := machine.parse source
          let idle := { idle with messages := Module.parseWarnings parsed }
          let prepared : Except Fault (Module.Request × Scope) := do
            let program ← Module.readProgram source parsed
            let moduleRequest ← request.moduleRequest machine program filePath
            let scope ← moduleRequest.scope machine.workspace machine.environment.directory
            return (moduleRequest, scope)
          match prepared with
          | .error fault => (.error fault, idle)
          | .ok (moduleRequest, scope) =>
              let start := { moduleRequest.program.start store with messages := idle.messages }
              let (outcome, progress) := (moduleRequest.run scope).run.run start
              (outcome.map fun moduleId => ⟨moduleId, language, scope.filePath⟩, progress)

end IngestRequest

end DocHarvest
