import DocHarvest.Doc.Store
import DocHarvest.Value.Printer

/-!
# Reports on records

Records as a table for reading and as JSON text for other programs. What a report says is settled
here; how it looks on the lines of an output, and what form a record takes as a value, is left to
the printer.
-/

namespace DocHarvest.Report

/-- What reports are printed with. -/
structure Printer where
  /-- Marked-up text as lines of output. -/
  paragraph : String → Except Fault String
  /-- A table, by its header and its rows of marked-up cells, as lines of output. -/
  table : List String → List (List String) → Except Fault String
  /-- A text as it is, as lines of output. -/
  echo : String → String
  /-- A record as a value to be written as JSON text. -/
  dump : Doc → Value

/-- A text between the tags of a style. -/
def styled (style text : String) : String :=
  "[" ++ style ++ "]" ++ text ++ "[/" ++ style ++ "]"

/-- The columns of the table of records. -/
def columns : List String := ["id", "category", "name", "longname", "export", "import_style"]

/-- The row of a record. -/
def row (doc : Doc) : List String :=
  [Value.integerText doc.id, doc.category.name, doc.name.getD "", doc.longname.getD "",
    (Value.boolean doc.exported).display, doc.importStyle.getD ""]

namespace Printer

/-- The table of records. -/
def docsTable (printer : Printer) (docs : List Doc) : Except Fault String :=
  printer.table columns (docs.map row)

/-- Records as an array of values in a report. -/
def payload (printer : Printer) (docs : List Doc) : Value :=
  .list (docs.map printer.dump)

/-- Records as an array in indented JSON text, if all integers in it can be written out. -/
def json (printer : Printer) (docs : List Doc) : Except Fault String :=
  if (printer.payload docs).isWritable then .ok ((printer.payload docs).toIndentedJson 0)
  else .error .integerTooLong

end Printer

end DocHarvest.Report
