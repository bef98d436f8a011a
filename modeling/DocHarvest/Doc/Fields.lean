import DocHarvest.Doc.Basic
import DocHarvest.Number.Loose

/-!
# Fields of records

Records as objects: the fields in their order with the names under which they are written, the
questions that can be asked about a field, and records from objects.
-/

namespace DocHarvest

/-- A value that may be missing. -/
def Value.ofOption {α : Type} (write : α → Value) : Option α → Value
  | none => .null
  | some content => write content

/-- A list of values that may be missing. -/
def Value.ofList? {α : Type} (write : α → Value) : Option (List α) → Value :=
  Value.ofOption fun items => .list (items.map write)

/-- The members of an object that are not null. -/
def Value.present (members : List (String × Value)) : Value :=
  .object (members.filter fun member => !member.2.isNull)

namespace Param

/-- A parameter as an object; fields without a value are left out. -/
def toValue (param : Param) : Value :=
  .present [
    ("types", .list (param.types.map .text)),
    ("name", .ofOption .text param.name),
    ("optional", .ofOption .boolean param.optional),
    ("nullable", .ofOption .boolean param.nullable),
    ("spread", .ofOption .boolean param.spread),
    ("default_value", .ofOption .text param.defaultText),
    ("default_raw", param.defaultValue),
    ("description", .ofOption .text param.description)]

end Param

/-- A decorator as an object. -/
def Decorator.toValue (decorator : Decorator) : Value :=
  .present [("name", .text decorator.name), ("arguments", .ofOption .text decorator.arguments)]

/-- A tag as an object. -/
def Tag.toValue (tag : Tag) : Value :=
  .object [("tag_name", .text tag.name), ("tag_value", .text tag.value)]

/-- A notice as a value: false, true or its words. -/
def Notice.toValue : Notice → Value
  | .absent => .boolean false
  | .present => .boolean true
  | .worded text => .text text

namespace Doc

/-- The fields of a record, in order, under the names by which they are asked for. -/
def fields (doc : Doc) : List (String × Value) := [
  ("doc_id", .integer doc.id),
  ("category", .text doc.category.name),
  ("module_id", .ofOption .integer doc.moduleId),
  ("file_path", .text doc.filePath),
  ("name", .ofOption .text doc.name),
  ("memberof", .ofOption .text doc.memberof),
  ("longname", .ofOption .text doc.longname),
  ("description", .ofOption .text doc.description),
  ("line_number", .ofOption .integer doc.line),
  ("access", .ofOption .text doc.access),
  ("export", .boolean doc.exported),
  ("import_style", .ofOption .text doc.importStyle),
  ("ignore", .boolean doc.ignored),
  ("undocument", .boolean doc.undocumented),
  ("static", .boolean doc.static),
  ("pseudo_export", .boolean doc.pseudoExport),
  ("params", .ofList? Param.toValue doc.params),
  ("return_", .ofOption Param.toValue doc.result),
  ("type", .ofOption Param.toValue doc.type),
  ("properties", .ofList? Param.toValue doc.properties),
  ("async_", .boolean doc.async),
  ("generator", .boolean doc.generator),
  ("accessor", .boolean doc.accessor),
  ("qualifier", .ofOption .text doc.qualifier),
  ("extends", .ofList? .text doc.bases),
  ("expression_extends", .ofOption .text doc.basesCode),
  ("implements", .ofList? .text doc.interfaces),
  ("interface", .boolean doc.isInterface),
  ("abstract", .boolean doc.isAbstract),
  ("override", .boolean doc.isOverride),
  ("decorators", .ofList? Decorator.toValue doc.decorators),
  ("throws", .ofList? Param.toValue doc.throws),
  ("emits", .ofList? Param.toValue doc.emits),
  ("listens", .ofList? Param.toValue doc.listens),
  ("examples", .ofList? .text doc.examples),
  ("see", .ofList? .text doc.see),
  ("todo", .ofList? .text doc.todo),
  ("since", .ofOption .text doc.since),
  ("version", .ofOption .text doc.version),
  ("deprecated", doc.deprecated.toValue),
  ("experimental", doc.experimental.toValue),
  ("unknown", .ofList? Tag.toValue doc.unknown),
  ("content", .ofOption .text doc.content),
  ("external_link", .ofOption .text doc.externalLink),
  ("test_kind", .ofOption .text doc.testKind),
  ("test_depth", .ofOption .integer doc.testDepth),
  ("test_targets", .ofList? .text doc.testTargets)]

/-- The name under which a field is written. -/
def writtenName : String → String
  | "return_" => "return"
  | "async_" => "async"
  | name => name

/-- A record as an object; fields without a value are left out. -/
def toValue (doc : Doc) : Value :=
  .present (doc.fields.map fun (name, value) => (writtenName name, value))

/-- The value of a field, by the name under which it is asked for. -/
def field? (doc : Doc) (name : String) : Except Fault Value :=
  match doc.fields.lookup name with
  | some value => .ok value
  | none => .error (.unknownField name)

/-- Which records are stored; asking about an unknown field is a fault. -/
abbrev Filter := Doc → Except Fault Bool

/-- The filter that keeps the records whose field has one of some values, or that drops them. -/
def fieldFilter (name : String) (values : List Value) (keep : Bool) : Filter := fun doc => do
  return (values.any ((← doc.field? name).same ·)) == keep

/-- Whether a field has an expected value; a list of expected values offers a choice. -/
def fieldMatches (actual : Value) : Value → Bool
  | .list choices => choices.any actual.same
  | expected => actual.same expected

/-- Whether a record fits a query, field by field. -/
def fits (doc : Doc) : List (String × Value) → Except Fault Bool
  | [] => .ok true
  | (name, expected) :: rest => do
      if fieldMatches (← doc.field? name) expected then doc.fits rest else return false

end Doc

/-! ## Records from objects -/

namespace Value

/-- Reads an integer, also from a truth value, an integral number of less than 64 bits or a text. -/
def toInteger? : Value → Option Int
  | .integer number => some number
  | .boolean truth => some (if truth then 1 else 0)
  | .real number => number.toInt?.filter fun whole => whole.natAbs < Nat.pow 2 63
  | .text content => Numeral.looseInteger? content.toList
  | .null | .list _ | .object _ => none

/-- Reads a truth value, also from zero, one and the usual words. -/
def toBoolean? : Value → Option Bool
  | .boolean truth => some truth
  | .integer number => if number == 0 then some false else if number == 1 then some true else none
  | .real number =>
      match number.toInt? with
      | some 0 => some false
      | some 1 => some true
      | _ => none
  | .text content =>
      let word := String.ofList (content.toList.map Char.toLower)
      if ["0", "off", "f", "false", "n", "no"].contains word then some false
      else if ["1", "on", "t", "true", "y", "yes"].contains word then some true
      else none
  | _ => none

/-- Reads a text. -/
def toText? : Value → Option String
  | .text content => some content
  | _ => none

/-- Reads a list, item by item. -/
def toList? {α : Type} (read : Value → Option α) : Value → Option (List α)
  | .list items => items.mapM read
  | _ => none

/-- Reads a value that may be null. -/
def toOption? {α : Type} (read : Value → Option α) : Value → Option (Option α)
  | .null => some none
  | value => (read value).map some

/-- The value of a member, or null when there is none. -/
def member (members : List (String × Value)) (name : String) : Value :=
  (members.lookup name).getD .null

/-- Reads a member; a missing member has a default but a null one has none. -/
def memberOr {α : Type} (members : List (String × Value)) (name : String) (default : α)
    (read : Value → Option α) : Option α :=
  match members.lookup name with
  | none => some default
  | some value => read value

end Value

/-- The parameter that an object describes. -/
def Param.ofValue? : Value → Option Param
  | .object members => do
      let types ← Value.memberOr members "types" [] (Value.toList? Value.toText?)
      let name ← Value.toOption? Value.toText? (Value.member members "name")
      let optional ← Value.toOption? Value.toBoolean? (Value.member members "optional")
      let nullable ← Value.toOption? Value.toBoolean? (Value.member members "nullable")
      let spread ← Value.toOption? Value.toBoolean? (Value.member members "spread")
      let defaultText ← Value.toOption? Value.toText? (Value.member members "default_value")
      let description ← Value.toOption? Value.toText? (Value.member members "description")
      let defaultValue := Value.member members "default_raw"
      return { types, name, optional, nullable, spread, defaultText, defaultValue, description }
  | _ => none

/-- The decorator that an object describes. -/
def Decorator.ofValue? : Value → Option Decorator
  | .object members => do
      let name ← (Value.member members "name").toText?
      let arguments ← Value.toOption? Value.toText? (Value.member members "arguments")
      return { name, arguments }
  | _ => none

/-- The tag that an object describes. -/
def Tag.ofValue? : Value → Option Tag
  | .object members => do
      let name ← (Value.member members "tag_name").toText?
      let value ← (Value.member members "tag_value").toText?
      return { name, value }
  | _ => none

/-- The notice that a value describes. -/
def Notice.ofValue? : Value → Option Notice
  | .text content => some (.worded content)
  | value => (Value.toBoolean? value).map fun truth => if truth then .present else .absent

/-- The record that an object describes; members of other names are ignored. -/
def Doc.ofValue? : Value → Option Doc
  | .object members => do
      let aliased (written asked : String) : List (String × Value) :=
        match members.lookup written with
        | some value => [(asked, value)]
        | none => []
      let members := aliased "return" "return_" ++ aliased "async" "async_" ++ members
      let text (name : String) : Option (Option String) :=
        Value.toOption? Value.toText? (Value.member members name)
      let texts (name : String) : Option (Option (List String)) :=
        Value.toOption? (Value.toList? Value.toText?) (Value.member members name)
      let number (name : String) : Option (Option Int) :=
        Value.toOption? Value.toInteger? (Value.member members name)
      let flag (name : String) (default : Bool) : Option Bool :=
        Value.memberOr members name default Value.toBoolean?
      let param (name : String) : Option (Option Param) :=
        Value.toOption? Param.ofValue? (Value.member members name)
      let params (name : String) : Option (Option (List Param)) :=
        Value.toOption? (Value.toList? Param.ofValue?) (Value.member members name)
      let notice (name : String) : Option Notice :=
        Value.memberOr members name .absent Notice.ofValue?
      let id ← (Value.member members "doc_id").toInteger?
      let category ← (Value.member members "category").toText?.bind Category.ofName?
      let filePath ← (Value.member members "file_path").toText?
      let decorators ←
        Value.toOption? (Value.toList? Decorator.ofValue?) (Value.member members "decorators")
      let unknown ← Value.toOption? (Value.toList? Tag.ofValue?) (Value.member members "unknown")
      return {
        id, category, filePath, decorators, unknown
        moduleId := ← number "module_id"
        name := ← text "name"
        memberof := ← text "memberof"
        longname := ← text "longname"
        description := ← text "description"
        line := ← number "line_number"
        access := ← text "access"
        exported := ← flag "export" false
        importStyle := ← text "import_style"
        ignored := ← flag "ignore" false
        undocumented := ← flag "undocument" false
        static := ← flag "static" true
        pseudoExport := ← flag "pseudo_export" false
        params := ← params "params"
        result := ← param "return_"
        type := ← param "type"
        properties := ← params "properties"
        async := ← flag "async_" false
        generator := ← flag "generator" false
        accessor := ← flag "accessor" false
        qualifier := ← text "qualifier"
        bases := ← texts "extends"
        basesCode := ← text "expression_extends"
        interfaces := ← texts "implements"
        isInterface := ← flag "interface" false
        isAbstract := ← flag "abstract" false
        isOverride := ← flag "override" false
        throws := ← params "throws"
        emits := ← params "emits"
        listens := ← params "listens"
        examples := ← texts "examples"
        see := ← texts "see"
        todo := ← texts "todo"
        since := ← text "since"
        version := ← text "version"
        deprecated := ← notice "deprecated"
        experimental := ← notice "experimental"
        content := ← text "content"
        externalLink := ← text "external_link"
        testKind := ← text "test_kind"
        testDepth := ← number "test_depth"
        testTargets := ← texts "test_targets" }
  | _ => none

end DocHarvest
