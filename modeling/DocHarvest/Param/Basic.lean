import DocHarvest.Value.Basic

/-!
# Parameters

What is known of a parameter, a result, a property or any other typed thing that a tag or the
shape of the code describes.
-/

namespace DocHarvest

/-- A described parameter. A default without a value is null. -/
structure Param where
  types : List String := []
  name : Option String := none
  optional : Option Bool := none
  nullable : Option Bool := none
  spread : Option Bool := none
  defaultText : Option String := none
  defaultValue : Value := .null
  description : Option String := none
deriving Inhabited

namespace Param

/-- A parameter of which only the type is known. -/
def ofType (type : String) : Param :=
  { types := [type] }

/-- A parameter of any type. -/
def anything : Param :=
  ofType "*"

end Param

end DocHarvest
