import DocHarvest.Comment.Basic
import DocHarvest.Value.Basic

/-!
# Program nodes

The program as the documentation sees it: a tree of nodes over a closed set of constructs, where
everything else is a generic node whose parts are still walked. `Shape` is one layer of the tree
over an arbitrary type of parts and `Node` ties the knot, so `Shape.children` and its lemmas are
stated once for all constructs.

Every node has an identity. Two nodes are the same node exactly when their identities agree, and
a node may be reachable along two ways.
-/

namespace DocHarvest

/-- The identity of a node. -/
abbrev NodeId := Nat

/-- Whether a function or class is declared or is the value of an expression. -/
inductive Form
  | declaration
  | expression
deriving DecidableEq, Repr, Inhabited

/-- The kinds of literals. -/
inductive LiteralKind
  | string
  | number
  | boolean
  | null
  | regex
  | other (name : String)
deriving DecidableEq, Repr, Inhabited

namespace LiteralKind

/-- The name of a kind of literal. -/
def name : LiteralKind → String
  | .string => "string"
  | .number => "number"
  | .boolean => "boolean"
  | .null => "null"
  | .regex => "regex"
  | .other name => name

/-- The kind of literal with a name. -/
def ofName : String → LiteralKind
  | "string" => .string
  | "number" => .number
  | "boolean" => .boolean
  | "null" => .null
  | "regex" => .regex
  | name => .other name

end LiteralKind

/-- The kinds of class methods. -/
inductive MethodKind
  | constructor
  | method
  | getter
  | setter
  | other (name : String)
deriving DecidableEq, Repr, Inhabited

namespace MethodKind

/-- The name of a kind of method. -/
def name : MethodKind → String
  | .constructor => "constructor"
  | .method => "method"
  | .getter => "get"
  | .setter => "set"
  | .other name => name

/-- The kind of method with a name. -/
def ofName : String → MethodKind
  | "constructor" => .constructor
  | "method" => .method
  | "get" => .getter
  | "set" => .setter
  | name => .other name

/-- Whether a method is documented as a member of its class. -/
def isAccessor : MethodKind → Bool
  | .getter | .setter => true
  | .constructor | .method | .other _ => false

end MethodKind

/-- One layer of a program tree over parts of type `α`. -/
inductive Shape (α : Type)
  | program (body : List α) (innerComments : List Comment)
  | virtual
  | generic (kind : String) (body : List α)
  | identifier (name : String)
  | this
  | literal (value : Value) (kind : LiteralKind)
  | template
  | array (elements : List α)
  | objectProperty (key value : Option α) (computed : Bool)
  | objectMethod (key : Option α) (params : List α) (body : Option α)
  | spread (argument : Option α)
  | object (properties : List α)
  | member (target key : Option α) (computed : Bool)
  | call (callee : Option α) (arguments : List α)
  | construct (callee : Option α) (arguments : List α)
  | assignment (left right : Option α) (operator : String)
  | function (form : Form) (id : Option α) (params : List α) (body : Option α)
      (async generator : Bool)
  | arrow (params : List α) (body : Option α) (async generator : Bool)
  | decorator (expression : Option α)
  | classBody (body : List α)
  | classLike (form : Form) (decorators : List α) (id superClass : Option α) (body : α)
  | method (decorators : List α) (key : Option α) (params : List α) (body : Option α)
      (kind : MethodKind) (static computed async generator : Bool)
  | property (decorators : List α) (key value : Option α) (static computed : Bool)
  | expressionStatement (expression : Option α)
  | block (body : List α)
  | returnStatement (argument : Option α)
  | declarator (id init : Option α)
  | variables (keyword : String) (declarators : List α)
  | assignmentPattern (left right : Option α)
  | rest (argument : Option α)
  | objectPattern (properties : List α)
  | arrayPattern (elements : List α)
  | exportSpecifier (source exported : Option α)
  | exportDefault (declaration : Option α)
  | exportNamed (declaration : Option α) (specifiers : List α) (source : Option α)
  | importSpecifier (binding imported : Option α)
  | importDeclaration (specifiers : List α) (source : Option α)
deriving Inhabited

namespace Shape

variable {α : Type}

/-- The parts of a layer, in source order. -/
def children : Shape α → List α
  | .program body _ => body
  | .virtual => []
  | .generic _ body => body
  | .identifier _ => []
  | .this => []
  | .literal _ _ => []
  | .template => []
  | .array elements => elements
  | .objectProperty key value _ => key.toList ++ value.toList
  | .objectMethod key params body => key.toList ++ params ++ body.toList
  | .spread argument => argument.toList
  | .object properties => properties
  | .member target key _ => target.toList ++ key.toList
  | .call callee arguments => callee.toList ++ arguments
  | .construct callee arguments => callee.toList ++ arguments
  | .assignment left right _ => left.toList ++ right.toList
  | .function _ id params body _ _ => id.toList ++ params ++ body.toList
  | .arrow params body _ _ => params ++ body.toList
  | .decorator expression => expression.toList
  | .classBody body => body
  | .classLike _ decorators id superClass body =>
      decorators ++ id.toList ++ superClass.toList ++ [body]
  | .method decorators key params body _ _ _ _ _ =>
      decorators ++ key.toList ++ params ++ body.toList
  | .property decorators key value _ _ => decorators ++ key.toList ++ value.toList
  | .expressionStatement expression => expression.toList
  | .block body => body
  | .returnStatement argument => argument.toList
  | .declarator id init => id.toList ++ init.toList
  | .variables _ declarators => declarators
  | .assignmentPattern left right => left.toList ++ right.toList
  | .rest argument => argument.toList
  | .objectPattern properties => properties
  | .arrayPattern elements => elements
  | .exportSpecifier source exported => source.toList ++ exported.toList
  | .exportDefault declaration => declaration.toList
  | .exportNamed declaration specifiers source =>
      declaration.toList ++ specifiers ++ source.toList
  | .importSpecifier binding imported => binding.toList ++ imported.toList
  | .importDeclaration specifiers source => specifiers ++ source.toList

/-- The name of the construct. -/
def constructName : Shape α → String
  | .program .. => "Program"
  | .virtual => "VirtualNode"
  | .generic .. => "GenericNode"
  | .identifier _ => "Identifier"
  | .this => "ThisExpression"
  | .literal .. => "Literal"
  | .template => "TemplateLiteral"
  | .array _ => "ArrayExpression"
  | .objectProperty .. => "ObjectProperty"
  | .objectMethod .. => "ObjectMethod"
  | .spread _ => "SpreadElement"
  | .object _ => "ObjectExpression"
  | .member .. => "MemberExpression"
  | .call .. => "CallExpression"
  | .construct .. => "NewExpression"
  | .assignment .. => "AssignmentExpression"
  | .function .declaration .. => "FunctionDeclaration"
  | .function .expression .. => "FunctionExpression"
  | .arrow .. => "ArrowFunctionExpression"
  | .decorator _ => "Decorator"
  | .classBody _ => "ClassBody"
  | .classLike .declaration .. => "ClassDeclaration"
  | .classLike .expression .. => "ClassExpression"
  | .method .. => "ClassMethod"
  | .property .. => "ClassProperty"
  | .expressionStatement _ => "ExpressionStatement"
  | .block _ => "BlockStatement"
  | .returnStatement _ => "ReturnStatement"
  | .declarator .. => "VariableDeclarator"
  | .variables .. => "VariableDeclaration"
  | .assignmentPattern .. => "AssignmentPattern"
  | .rest _ => "RestElement"
  | .objectPattern _ => "ObjectPattern"
  | .arrayPattern _ => "ArrayPattern"
  | .exportSpecifier .. => "ExportSpecifier"
  | .exportDefault _ => "ExportDefaultDeclaration"
  | .exportNamed .. => "ExportNamedDeclaration"
  | .importSpecifier .. => "ImportSpecifier"
  | .importDeclaration .. => "ImportDeclaration"

/-- The name by which the layer is shown: a generic layer is named by its kind if it has one. -/
def typeName : Shape α → String
  | .generic kind body => if kind.isEmpty then constructName (.generic kind body) else kind
  | shape => shape.constructName

/-- Whether the layer is a class, declared or as a value. -/
def isClass : Shape α → Bool
  | .classLike .. => true
  | _ => false

/-- Whether the layer is an export declaration. -/
def isExport : Shape α → Bool
  | .exportDefault _ | .exportNamed .. => true
  | _ => false

/-- Whether the layer opens a function body of its own. -/
def isFunctionLike : Shape α → Bool
  | .function .. | .arrow .. | .objectMethod .. | .method .. => true
  | _ => false

/-- The decorators of a class or class member. -/
def decorators : Shape α → List α
  | .classLike _ decorators _ _ _ => decorators
  | .method decorators _ _ _ _ _ _ _ _ => decorators
  | .property decorators _ _ _ _ => decorators
  | _ => []

/-- The list of statements or members that the layer holds as its body. -/
def statements? : Shape α → Option (List α)
  | .program body _ => some body
  | .generic _ body => some body
  | .classBody body => some body
  | .block body => some body
  | _ => none

end Shape

/-- What every node carries besides its shape. -/
structure NodeInfo where
  id : NodeId
  span : Option Span := none
  leading : List Comment := []
  trailing : List Comment := []
  /-- The source text, kept where code is shown as it was written. -/
  raw : Option String := none
deriving Inhabited

/-- A node of a program. -/
inductive Node
  | mk (info : NodeInfo) (shape : Shape Node)

namespace Node

instance : Inhabited Node := ⟨.mk default .virtual⟩

/-- What a node carries besides its shape. -/
def info : Node → NodeInfo
  | .mk info _ => info

/-- The construct that a node is. -/
def shape : Node → Shape Node
  | .mk _ shape => shape

/-- The identity of a node. -/
def id (node : Node) : NodeId := node.info.id

/-- Where a node stands in the source. -/
def span (node : Node) : Option Span := node.info.span

/-- The comments before a node. -/
def leading (node : Node) : List Comment := node.info.leading

/-- The comments after a node. -/
def trailing (node : Node) : List Comment := node.info.trailing

/-- The source text of a node. -/
def raw (node : Node) : Option String := node.info.raw

/-- The parts of a node, in source order. -/
def children (node : Node) : List Node := node.shape.children

/-- The name of the construct that a node is. -/
def typeName (node : Node) : String := node.shape.typeName

/-- A node with another record of what it carries. -/
def withInfo (node : Node) (info : NodeInfo) : Node := .mk info node.shape

/-- The line on which a node starts. -/
def line? (node : Node) : Option Int :=
  node.span.map (·.start.line)

/-- The name of an identifier. -/
def identifier? (node : Node) : Option String :=
  match node.shape with
  | .identifier name => some name
  | _ => none

/-- The value of a literal. -/
def literal? (node : Node) : Option Value :=
  match node.shape with
  | .literal value _ => some value
  | _ => none

/-- The callee of a `new` expression. -/
def constructed? (node : Node) : Option (Option Node) :=
  match node.shape with
  | .construct callee _ => some callee
  | _ => none

/-- What a declarator binds. -/
def bound? (node : Node) : Option Node :=
  match node.shape with
  | .declarator id _ => id
  | _ => none

/-- The initial value of a declarator. -/
def initial? (node : Node) : Option Node :=
  match node.shape with
  | .declarator _ init => init
  | _ => none

/-- The declarators of a variable declaration. -/
def declarators? (node : Node) : Option (List Node) :=
  match node.shape with
  | .variables _ declarators => some declarators
  | _ => none

/-- The declaration that an export wraps. -/
def exported? (node : Node) : Option Node :=
  match node.shape with
  | .exportDefault declaration => declaration
  | .exportNamed declaration _ _ => declaration
  | _ => none

/-- The statements of a program. -/
def body (node : Node) : List Node :=
  match node.shape with
  | .program body _ => body
  | _ => []

/-- The comments of a program that has no statements. -/
def innerComments (node : Node) : List Comment :=
  match node.shape with
  | .program _ innerComments => innerComments
  | _ => []

/-- Whether a node is a program. -/
def isProgram (node : Node) : Bool :=
  match node.shape with
  | .program .. => true
  | _ => false

/-- The sum of some sizes. -/
def total : List Nat → Nat
  | [] => 0
  | size :: rest => size + total rest

theorem total_append (sizes others : List Nat) :
    total (sizes ++ others) = total sizes + total others := by
  induction sizes with
  | nil => simp [total]
  | cons size sizes ih => simp only [List.cons_append, total, ih, Nat.add_assoc]

private theorem total_sizeOf_list_le (parts : List Node) :
    total (parts.map sizeOf) ≤ sizeOf parts := by
  induction parts with
  | nil => simp [total]
  | cons part parts ih =>
      simp only [List.map_cons, total, List.cons.sizeOf_spec]
      omega

private theorem total_sizeOf_toList_le (part? : Option Node) :
    total (part?.toList.map sizeOf) ≤ sizeOf part? := by
  cases part? <;> simp [total]

/-- The parts of a layer together are smaller than the layer. -/
theorem total_sizeOf_shape_lt (shape : Shape Node) :
    total (shape.children.map sizeOf) < sizeOf shape := by
  have lists := total_sizeOf_list_le
  have options := total_sizeOf_toList_le
  cases shape <;>
    simp only [Shape.children, List.map_append, total_append, List.map_cons, List.map_nil, total]
  all_goals simp
  all_goals grind

private theorem sizeOf_le_total_of_mem {part : Node} {parts : List Node} (isPart : part ∈ parts) :
    sizeOf part ≤ total (parts.map sizeOf) := by
  induction parts with
  | nil => exact absurd isPart List.not_mem_nil
  | cons first others ih =>
      rw [List.map_cons, total]
      rcases List.mem_cons.1 isPart with rfl | isOther
      · omega
      · have := ih isOther
        omega

/-- A part of a node is smaller than the node. -/
theorem sizeOf_lt_of_mem_children {part node : Node} (isPart : part ∈ node.children) :
    sizeOf part < sizeOf node := by
  cases node with
  | mk info shape =>
      have bounded : sizeOf part ≤ total (shape.children.map sizeOf) :=
        sizeOf_le_total_of_mem isPart
      have smaller := total_sizeOf_shape_lt shape
      rw [Node.mk.sizeOf_spec]
      omega

end Node

end DocHarvest
