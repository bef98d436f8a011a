import DocHarvest.Fault
import DocHarvest.Path.Basic

/-!
# Settings from the environment

The fault policy and the root of the project can be set by environment variables.
-/

namespace DocHarvest

/-- The environment: the variables that matter here and the working directory. -/
structure Environment where
  handleError : Option String := none
  root : Option String := none
  directory : Path := ⟨.single, []⟩

namespace Environment

/-- The name of the fault policy that the environment sets. -/
def policyName (environment : Environment) : Except Fault String :=
  let setting := environment.handleError.getD "throw"
  if ["log", "throw"].contains setting then .ok setting
  else .error (.invalidPolicySetting setting)

/-- The root of the project, which is the working directory unless it is set. -/
def rootPath (environment : Environment) : String :=
  environment.root.getD environment.directory.toText

end Environment

end DocHarvest
