import DocHarvest.Comment.Basic
import DocHarvest.Node.Code
import DocHarvest.Param.Basic

/-!
# Documentation records

A record documents one entity of a module: the file itself, a class, a function, a variable, a
member of a class, a type that a comment defines, or a test block.
-/

namespace DocHarvest

/-- What a record documents. -/
inductive Category
  | file
  | memory
  | testFile
  | module
  | moduleClass
  | moduleFunction
  | moduleVariable
  | moduleAssignment
  | classMethod
  | classMember
  | classProperty
  | virtualTypedef
  | virtualExternal
  | test
deriving DecidableEq, Repr, Inhabited

namespace Category

/-- All categories with their names. -/
def table : List (Category × String) := [
  (.file, "File"),
  (.memory, "Memory"),
  (.testFile, "TestFile"),
  (.module, "Module"),
  (.moduleClass, "ModuleClass"),
  (.moduleFunction, "ModuleFunction"),
  (.moduleVariable, "ModuleVariable"),
  (.moduleAssignment, "ModuleAssignment"),
  (.classMethod, "ClassMethod"),
  (.classMember, "ClassMember"),
  (.classProperty, "ClassProperty"),
  (.virtualTypedef, "VirtualTypedef"),
  (.virtualExternal, "VirtualExternal"),
  (.test, "Test")]

/-- The name of a category. -/
def name (category : Category) : String :=
  (table.lookup category).getD ""

/-- The category of a name. -/
def ofName? (name : String) : Option Category :=
  (table.find? fun entry => entry.2 == name).map (·.1)

/-- Every category is found by its name. -/
theorem ofName?_name (category : Category) : ofName? category.name = some category := by
  cases category <;> decide

end Category

/-- A remark that is absent, made without words, or made in words. -/
inductive Notice
  | absent
  | present
  | worded (text : String)
deriving DecidableEq, Repr, Inhabited

/-- A record of the documentation of a module. -/
structure Doc where
  id : Int
  category : Category
  moduleId : Option Int := none
  filePath : String
  name : Option String := none
  memberof : Option String := none
  longname : Option String := none
  description : Option String := none
  line : Option Int := none
  access : Option String := none
  exported : Bool := false
  importStyle : Option String := none
  ignored : Bool := false
  undocumented : Bool := false
  static : Bool := true
  pseudoExport : Bool := false
  params : Option (List Param) := none
  result : Option Param := none
  type : Option Param := none
  properties : Option (List Param) := none
  async : Bool := false
  generator : Bool := false
  accessor : Bool := false
  qualifier : Option String := none
  bases : Option (List String) := none
  basesCode : Option String := none
  interfaces : Option (List String) := none
  isInterface : Bool := false
  isAbstract : Bool := false
  isOverride : Bool := false
  decorators : Option (List Decorator) := none
  throws : Option (List Param) := none
  emits : Option (List Param) := none
  listens : Option (List Param) := none
  examples : Option (List String) := none
  see : Option (List String) := none
  todo : Option (List String) := none
  since : Option String := none
  version : Option String := none
  deprecated : Notice := .absent
  experimental : Notice := .absent
  unknown : Option (List Tag) := none
  content : Option String := none
  externalLink : Option String := none
  testKind : Option String := none
  testDepth : Option Int := none
  testTargets : Option (List String) := none
deriving Inhabited

/-- The full name of an entity: `~` joins it to a module, and `.` or `#` to a class. -/
def longnameOf (memberof : String) (name : Option String) (static : Bool) : String :=
  let joint := if !memberof.toList.contains '~' then "~" else if static then "." else "#"
  memberof ++ joint ++ Text.orNone name

end DocHarvest
