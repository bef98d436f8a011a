import DocHarvest.Report.Docs
import DocHarvest.Report.Markup
import DocHarvest.Report.Table

/-!
# Consoles

A console prints plain text. Where its lines hold only a number of cells, it breaks paragraphs and
narrows tables. In records that it dumps, numbers that JSON has no form for become null.
-/

namespace DocHarvest

namespace Value

mutual

/-- A value in which numbers that JSON has no form for are null. -/
def finite : Value → Value
  | .real (.infinite _) => .null
  | .real .nan => .null
  | .list items => .list (finiteItems items)
  | .object members => .object (finiteMembers members)
  | value => value

/-- The items of a list in which numbers that JSON has no form for are null. -/
def finiteItems : List Value → List Value
  | [] => []
  | item :: rest => item.finite :: finiteItems rest

/-- The members of an object in which numbers that JSON has no form for are null. -/
def finiteMembers : List (String × Value) → List (String × Value)
  | [] => []
  | (name, value) :: rest => (name, value.finite) :: finiteMembers rest

end

end Value

namespace Report

/-- A console. Its lines hold a number of cells or else everything that is printed on them. -/
def console (width : Option Nat) : Printer where
  paragraph text := do
    let shown ← plain text.toList
    -- a tab takes more cells than any other character
    let room := width.getD (tabStep * shown.length)
    return String.ofList (Text.unlines (wrap room .fold shown)) ++ "\n"
  table header rows := do
    let header := header.map String.toList
    let cells ← rows.mapM fun row => row.mapM fun cell => plain cell.toList
    let room := width.getD (tableWidth (columnWidths header cells))
    return String.ofList (Text.unlines (drawTable room header cells)) ++ "\n"
  echo text := text ++ "\n"
  dump doc := doc.toValue.finite

end Report

end DocHarvest
