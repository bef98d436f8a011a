import DocHarvest.Node.Basic

/-!
# Constructs of the grammar

The kinds of syntax trees that programs are made of, told apart by the names that the grammar gives
them. Everything else is generic.
-/

namespace DocHarvest

/-- A kind of syntax tree. -/
inductive Construct
  | program
  | expressionStatement
  | block
  | returnStatement
  | variables
  | declarator
  | classLike (form : Form)
  | classBody
  | method
  | property
  | decorator
  | function (form : Form) (generator : Bool)
  | arrow
  | assignment
  | member
  | subscript
  | call
  | construct
  | parenthesized
  | this
  | identifier
  | string
  | number
  | boolean (truth : Bool)
  | null
  | regex
  | template
  | array
  | object
  | pair
  | spread
  | assignmentPattern
  | objectAssignmentPattern
  | restPattern
  | objectPattern
  | arrayPattern
  | exportStatement
  | exportSpecifier
  | importStatement
  | generic
deriving DecidableEq, Repr

namespace Construct

/-- The names of the grammar with the constructs that they stand for. -/
def table : List (String × Construct) := [
  ("program", .program),
  ("expression_statement", .expressionStatement),
  ("statement_block", .block),
  ("return_statement", .returnStatement),
  ("lexical_declaration", .variables),
  ("variable_declaration", .variables),
  ("variable_declarator", .declarator),
  ("class_declaration", .classLike .declaration),
  ("class", .classLike .expression),
  ("class_body", .classBody),
  ("method_definition", .method),
  ("field_definition", .property),
  ("public_field_definition", .property),
  ("decorator", .decorator),
  ("function", .function .expression false),
  ("function_expression", .function .expression false),
  ("generator_function", .function .expression true),
  ("function_declaration", .function .declaration false),
  ("generator_function_declaration", .function .declaration true),
  ("arrow_function", .arrow),
  ("assignment_expression", .assignment),
  ("augmented_assignment_expression", .assignment),
  ("member_expression", .member),
  ("subscript_expression", .subscript),
  ("call_expression", .call),
  ("new_expression", .construct),
  ("parenthesized_expression", .parenthesized),
  ("this", .this),
  ("identifier", .identifier),
  ("property_identifier", .identifier),
  ("private_property_identifier", .identifier),
  ("shorthand_property_identifier", .identifier),
  ("shorthand_property_identifier_pattern", .identifier),
  ("statement_identifier", .identifier),
  ("undefined", .identifier),
  ("string", .string),
  ("number", .number),
  ("true", .boolean true),
  ("false", .boolean false),
  ("null", .null),
  ("regex", .regex),
  ("template_string", .template),
  ("array", .array),
  ("object", .object),
  ("pair", .pair),
  ("pair_pattern", .pair),
  ("spread_element", .spread),
  ("assignment_pattern", .assignmentPattern),
  ("object_assignment_pattern", .objectAssignmentPattern),
  ("rest_pattern", .restPattern),
  ("object_pattern", .objectPattern),
  ("array_pattern", .arrayPattern),
  ("export_statement", .exportStatement),
  ("export_specifier", .exportSpecifier),
  ("import_statement", .importStatement)]

/-- The construct that a name of the grammar stands for. -/
def ofKind (kind : String) : Construct :=
  (table.lookup kind).getD .generic

/-- Whether the source text is kept; statements and declarations are shown by their parts. -/
def keepsText : Construct → Bool
  | .program | .block | .classBody | .classLike .declaration | .expressionStatement | .variables
  | .exportStatement | .importStatement | .function .declaration _ => false
  | _ => true

end Construct

end DocHarvest
