import DocHarvest.Tree.Basic
import DocHarvest.Value.Basic

/-!
# Syntax trees from values

A grammar hands its trees over as nested lists: the kind of a node, one for a node of the grammar
and zero for a token, the field, the offsets, and the list of what lies below.
-/

namespace DocHarvest.Tree

/-- The offset that a value is. -/
def offset? : Value → Option Nat
  | .integer number => if number < 0 then none else some number.toNat
  | _ => none

/-- The field that a value names; null is no field. -/
def fieldName? : Value → Option (Option String)
  | .null => some none
  | .text name => some (some name)
  | _ => none

mutual

/-- The tree that a value describes. -/
def ofValue? : Value → Option Tree
  | .list [.text kind, .integer named, field, start, stop, .list children] => do
      let field ← fieldName? field
      let start ← offset? start
      let stop ← offset? stop
      let children ← ofValues? children
      return .mk kind (named != 0) field start stop children
  | _ => none

/-- The trees that values describe. -/
def ofValues? : List Value → Option (List Tree)
  | [] => some []
  | value :: rest => do
      let tree ← ofValue? value
      let trees ← ofValues? rest
      return tree :: trees

end

end DocHarvest.Tree
