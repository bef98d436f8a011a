import DocHarvest.Fault
import DocHarvest.Number.Literal
import DocHarvest.Tree.Attach
import DocHarvest.Tree.Construct

/-!
# Programs from syntax trees

Every construct of the grammar becomes a node by a rule of its own. A rule sees the parts of its
tree and a function that turns a part into a node; `Tree.node` ties the rules together by recursion
on the size of the tree, and adds the place and the source text to what a rule gives.

A rule that needs an extra node makes one without a place. Two rules put one and the same node in
two places: an import without alias, and a pattern with a default whose left side is no name.
-/

namespace DocHarvest

/-- Building nodes: each new node takes the next identity. -/
abbrev NodeBuilder := StateT NodeId (Except Fault)

namespace NodeBuilder

/-- A new node of a shape, without place, comments and text. -/
def node (shape : Shape Node) : NodeBuilder Node := do
  let id ← get
  set (id + 1)
  return .mk { id } shape

end NodeBuilder

namespace Tree

variable {bound : Nat}

/-- What turns a part of a tree into a node. -/
abbrev Convert (bound : Nat) := Part bound → NodeBuilder Node

namespace Convert

/-- The node of a part that may be missing; a comment is no node. -/
def optional (convert : Convert bound) : Option (Part bound) → NodeBuilder (Option Node)
  | none => pure none
  | some part => if part.1.isComment then pure none else some <$> convert part

/-- The nodes of several parts, without the comments among them. -/
def list (convert : Convert bound) (parts : List (Part bound)) : NodeBuilder (List Node) :=
  (parts.filter fun part => !part.1.isComment).mapM convert

/-- The nodes of the code inside a part that may be missing. -/
def inside (convert : Convert bound) : Option (Part bound) → NodeBuilder (List Node)
  | none => pure []
  | some part => convert.list (part.1.codeParts.map part.within)

end Convert

/-- A text without its first and its last character. -/
def withoutQuotes (text : String) : String :=
  String.ofList ((text.toList.drop 1).take (text.length - 2))

/-- The value of a number literal; text that is no number stands for itself. -/
def numberValue (text : String) : Value :=
  match Numeral.ofLiteral? text with
  | some (.integer value) => .integer value
  | some (.real value) => .real value
  | none => .text text

/-- An identifier without a place. -/
def bareIdentifier (name : String) : NodeBuilder Node :=
  NodeBuilder.node (.identifier name)

/-- Keeps a node if it is an identifier. -/
def onlyIdentifier (node : Option Node) : Option Node :=
  node.filter fun node => node.identifier?.isSome

/-- Keeps a node if it is a literal. -/
def onlyLiteral (node : Option Node) : Option Node :=
  node.filter fun node => node.literal?.isSome

/-- Whether a node is a decorator. -/
def isDecorator (node : Node) : Bool :=
  match node.shape with
  | .decorator _ => true
  | _ => false

/-- Whether a node is a declarator. -/
def isDeclarator (node : Node) : Bool :=
  match node.shape with
  | .declarator .. => true
  | _ => false

/-- Whether a node is an export specifier. -/
def isExportSpecifier (node : Node) : Bool :=
  match node.shape with
  | .exportSpecifier .. => true
  | _ => false

section Rules

variable (source : Source) (tree : Tree) (convert : Convert tree.size)

/-- The node of the first code inside a tree. -/
def firstCode : NodeBuilder (Option Node) :=
  convert.optional tree.codeParts.head?

/-- The node under a field of a tree. -/
def fieldNode (name : String) : NodeBuilder (Option Node) :=
  convert.optional (tree.field? name)

/-- The nodes of the code inside the tree under a field. -/
def insideField (name : String) : NodeBuilder (List Node) :=
  convert.inside (tree.field? name)

/-- The items of a statement list with their comments, and the comments left over. -/
def statements : NodeBuilder (List Node × List Comment) := do
  let (groups, after) := tree.groups source
  let items ← groups.mapM fun group => return (← convert group.item).attachLeading group.comments
  return Node.attachTrailing after items

/-- The decorators of a tree. -/
def decoratorNodes : NodeBuilder (List Node) := do
  return (← convert.list (tree.fields "decorator")).filter isDecorator

/-- The key of a property and whether it is computed. -/
def propertyKey (key : Option (Part tree.size)) : NodeBuilder (Option Node × Bool) := do
  match key with
  | none => return (none, false)
  | some part =>
      if part.1.kind == "computed_property_name" then
        return (← convert.optional (part.1.codeParts.head?.map part.within), true)
      else return (← convert.optional key, false)

/-- The rule for variable declarations. -/
def variablesShape : NodeBuilder (Shape Node) := do
  let keyword := match tree.field? "kind" with
    | some part => source.text part.1
    | none => "var"
  let declarators ← convert.list tree.codeParts
  return .variables keyword (declarators.filter isDeclarator)

/-- The rule for classes. -/
def classShape (form : Form) : NodeBuilder (Shape Node) := do
  let heritage := tree.firstNamed? "class_heritage"
  let superClass ← convert.optional
    (heritage.bind fun part => part.1.codeParts.head?.map part.within)
  let name ← fieldNode tree convert "name"
  let body ← fieldNode tree convert "body"
  let body ← match body.map Node.shape, body with
    | some (.classBody _), some node => pure node
    | _, _ => NodeBuilder.node (.classBody [])
  let decorators ← decoratorNodes tree convert
  return .classLike form decorators (onlyIdentifier name) superClass body

/-- The kind of a method, by its modifiers and its key. -/
def methodKind (key : Option Node) : MethodKind :=
  if tree.hasToken "get" then .getter
  else if tree.hasToken "set" then .setter
  else if key.bind Node.identifier? == some "constructor" && !tree.hasToken "static" then
    .constructor
  else .method

/-- The rule for class methods. -/
def methodShape : NodeBuilder (Shape Node) := do
  let (key, computed) ← propertyKey tree convert (tree.field? "name")
  let decorators ← decoratorNodes tree convert
  let params ← insideField tree convert "parameters"
  let body ← fieldNode tree convert "body"
  return .method decorators key params body (methodKind tree key) (tree.hasToken "static") computed
    (tree.hasToken "async") (tree.hasToken "*")

/-- The rule for class properties. -/
def propertyShape : NodeBuilder (Shape Node) := do
  let (key, computed) ← propertyKey tree convert (tree.field? "property")
  let decorators ← decoratorNodes tree convert
  let value ← fieldNode tree convert "value"
  return .property decorators key value (tree.hasToken "static") computed

/-- The rule for functions. -/
def functionShape (form : Form) (generator : Bool) : NodeBuilder (Shape Node) := do
  let id ← fieldNode tree convert "name"
  let params ← insideField tree convert "parameters"
  let body ← fieldNode tree convert "body"
  return .function form id params body (tree.hasToken "async") (generator || tree.hasToken "*")

/-- The rule for arrow functions, which may have a single bare parameter. -/
def arrowShape : NodeBuilder (Shape Node) := do
  let params ← match tree.field? "parameter" with
    | some part => convert.list [part]
    | none => insideField tree convert "parameters"
  let body ← fieldNode tree convert "body"
  return .arrow params body (tree.hasToken "async") false

/-- The rule for assignments. -/
def assignmentShape : NodeBuilder (Shape Node) := do
  let left ← fieldNode tree convert "left"
  let right ← fieldNode tree convert "right"
  let operator := match tree.field? "operator" with
    | some part => source.text part.1
    | none => "="
  return .assignment left right operator

/-- The arguments of a call; a template after the callee is the only argument. -/
def callArguments : NodeBuilder (List Node) :=
  match tree.field? "arguments" with
  | none => pure []
  | some part =>
      if part.1.kind == "template_string" then convert.list [part]
      else convert.inside (some part)

/-- A method of an object literal. -/
def objectMethod (part : Part tree.size) : NodeBuilder Node := do
  let inner : Convert part.1.size := fun deeper => convert (part.within deeper)
  let (key, _) ← propertyKey part.1 inner (part.1.field? "name")
  let params ← insideField part.1 inner "parameters"
  let body ← fieldNode part.1 inner "body"
  let method ← NodeBuilder.node (.objectMethod key params body)
  return method.withInfo { method.info with span := some (source.span part.1) }

/-- A property that gives its name and its value in one word: two nodes for the same place. -/
def shorthandProperty (part : Part tree.size) : NodeBuilder Node := do
  let key ← convert part
  let value ← convert part
  let property ← NodeBuilder.node (.objectProperty (some key) (some value) false)
  return property.withInfo { property.info with span := some (source.span part.1) }

/-- The rule for object literals. -/
def objectShape : NodeBuilder (Shape Node) := do
  let properties ← tree.codeParts.mapM fun part =>
    if part.1.kind == "method_definition" then objectMethod source tree convert part
    else if part.1.kind == "shorthand_property_identifier" then
      shorthandProperty source tree convert part
    else convert part
  return .object properties

/-- The rule for object patterns. -/
def objectPatternShape : NodeBuilder (Shape Node) := do
  let properties ← tree.codeParts.mapM fun part =>
    if part.1.kind == "shorthand_property_identifier_pattern" then
      shorthandProperty source tree convert part
    else convert part
  return .objectPattern properties

/-- The rule for properties of object literals and patterns. -/
def pairShape : NodeBuilder (Shape Node) := do
  let (key, computed) ← propertyKey tree convert (tree.field? "key")
  let value ← fieldNode tree convert "value"
  return .objectProperty key value computed

/-- The rule for a property of an object pattern that has a default. -/
def defaultedPropertyShape : NodeBuilder (Shape Node) := do
  let left ← fieldNode tree convert "left"
  let right ← fieldNode tree convert "right"
  let pattern ← NodeBuilder.node (.assignmentPattern left right)
  let pattern := pattern.withInfo { pattern.info with span := some (source.span tree) }
  let key ← match left.bind Node.identifier? with
    | some name => some <$> bareIdentifier name
    | none => pure left
  return .objectProperty key (some pattern) false

/-- The value of a default export: classes and functions count as declared. -/
def asDeclaration (value : Node) : Node :=
  let info : NodeInfo := { id := value.id, span := value.span }
  match value.shape with
  | .classLike .expression decorators id superClass body =>
      .mk info (.classLike .declaration decorators id superClass body)
  | .function .expression id params body async generator =>
      .mk info (.function .declaration id params body async generator)
  | _ => value

/-- Puts decorators in front of those of a class. -/
def decorate (decorators : List Node) (declaration : Node) : Node :=
  match declaration.shape with
  | .classLike form own id superClass body =>
      .mk declaration.info (.classLike form (decorators ++ own) id superClass body)
  | _ => declaration

/-- The rule for exports. -/
def exportShape : NodeBuilder (Shape Node) := do
  let origin ← fieldNode tree convert "source"
  let declared ← fieldNode tree convert "declaration"
  let declaration ← match declared with
    | some node => pure (some node)
    | none => Option.map asDeclaration <$> fieldNode tree convert "value"
  let decorators ← decoratorNodes tree convert
  let declaration := declaration.map (decorate decorators)
  if tree.hasToken "default" then
    return .exportDefault declaration
  let specifiers ← convert.inside (tree.firstNamed? "export_clause")
  return .exportNamed declaration (specifiers.filter isExportSpecifier) (onlyLiteral origin)

/-- The rule for names in an export clause. -/
def exportSpecifierShape : NodeBuilder (Shape Node) := do
  let name ← fieldNode tree convert "name"
  let outside ← fieldNode tree convert "alias"
  return .exportSpecifier (onlyIdentifier name) (onlyIdentifier outside)

end Rules

/-- A specifier of a named import; without alias the imported name is the bound one. -/
def namedImport (source : Source) (specifier : Tree) : NodeBuilder Node := do
  let imported ← bareIdentifier (source.textOr (specifier.field? "name"))
  let binding ← match specifier.field? "alias" with
    | some part => bareIdentifier (source.text part.1)
    | none => pure imported
  NodeBuilder.node (.importSpecifier (some binding) (some imported))

/-- The specifiers that a part of an import clause makes. -/
def importSpecifiers (source : Source) (part : Tree) : NodeBuilder (List Node) := do
  if part.kind == "identifier" then
    let binding ← bareIdentifier (source.text part)
    let imported ← bareIdentifier "default"
    return [← NodeBuilder.node (.importSpecifier (some binding) (some imported))]
  else if part.kind == "namespace_import" then
    match part.codeParts.find? fun inner => inner.1.kind == "identifier" with
    | some name =>
        let binding ← bareIdentifier (source.text name.1)
        return [← NodeBuilder.node (.importSpecifier (some binding) none)]
    | none => return []
  else if part.kind == "named_imports" then
    let specifiers := part.codeParts.filter fun inner => inner.1.kind == "import_specifier"
    specifiers.mapM fun specifier => namedImport source specifier.1
  else return []

/-- The rule for imports. -/
def importShape (source : Source) (tree : Tree) (convert : Convert tree.size) :
    NodeBuilder (Shape Node) := do
  let clause := (tree.firstNamed? "import_clause").map fun part => part.1.codeParts.map (·.1)
  let specifiers ← (clause.getD []).mapM (importSpecifiers source)
  let origin ← fieldNode tree convert "source"
  return .importDeclaration specifiers.flatten (onlyLiteral origin)

/-- Gives a node the place and the text of a tree. -/
def located (source : Source) (tree : Tree) (node : Node) : Node :=
  node.withInfo { node.info with
    span := some (source.span tree), raw := some (source.text tree) }

/-- The expression of a decorator: members and calls have kinds of their own there. -/
def decoratorExpression (source : Source) (convert : Convert bound) (part : Part bound) :
    NodeBuilder (Option Node) := do
  let tree := part.1
  if tree.kind == "decorator_member_expression" then
    match tree.field? "object" with
    | none => throw .missingPart
    | some inner =>
        let target ← decoratorExpression source convert (part.within inner)
        let key ← convert.optional ((tree.field? "property").map part.within)
        return some (tree.located source (← NodeBuilder.node (.member target key false)))
  else if tree.kind == "decorator_call_expression" then
    match tree.field? "function" with
    | none => throw .missingPart
    | some inner =>
        let callee ← decoratorExpression source convert (part.within inner)
        let arguments ← convert.inside ((tree.field? "arguments").map part.within)
        return some (tree.located source (← NodeBuilder.node (.call callee arguments)))
  else convert.optional (some part)
termination_by part.1.size
decreasing_by
  all_goals exact inner.2

/-- The rule for decorators. -/
def decoratorShape (source : Source) (tree : Tree) (convert : Convert tree.size) :
    NodeBuilder (Shape Node) := do
  match tree.codeParts.head? with
  | none => return .decorator none
  | some part => return .decorator (← decoratorExpression source convert part)

/-- The layer that a tree makes of its parts; parentheses make none. -/
def layer (source : Source) (tree : Tree) (convert : Convert tree.size) :
    Construct → NodeBuilder (Shape Node)
  | .program => do
      let (body, innerComments) ← statements source tree convert
      return .program body innerComments
  | .expressionStatement => return .expressionStatement (← firstCode tree convert)
  | .block => return .block (← statements source tree convert).1
  | .returnStatement => return .returnStatement (← firstCode tree convert)
  | .variables => variablesShape source tree convert
  | .declarator => do
      return .declarator (← fieldNode tree convert "name") (← fieldNode tree convert "value")
  | .classLike form => classShape tree convert form
  | .classBody => return .classBody (← statements source tree convert).1
  | .method => methodShape tree convert
  | .property => propertyShape tree convert
  | .decorator => decoratorShape source tree convert
  | .function form generator => functionShape tree convert form generator
  | .arrow => arrowShape tree convert
  | .assignment => assignmentShape source tree convert
  | .member => do
      return .member (← fieldNode tree convert "object") (← fieldNode tree convert "property") false
  | .subscript => do
      return .member (← fieldNode tree convert "object") (← fieldNode tree convert "index") true
  | .call => do
      return .call (← fieldNode tree convert "function") (← callArguments tree convert)
  | .construct => do
      return .construct (← fieldNode tree convert "constructor") (← callArguments tree convert)
  | .this => return .this
  | .identifier => return .identifier (source.text tree)
  | .string => return .literal (.text (withoutQuotes (source.text tree))) .string
  | .number => return .literal (numberValue (source.text tree)) .number
  | .boolean truth => return .literal (.boolean truth) .boolean
  | .null => return .literal .null .null
  | .regex => return .literal (.text (source.text tree)) .regex
  | .template => return .template
  | .array => return .array (← convert.list tree.codeParts)
  | .object => objectShape source tree convert
  | .pair => pairShape tree convert
  | .spread => return .spread (← firstCode tree convert)
  | .assignmentPattern => do
      return .assignmentPattern (← fieldNode tree convert "left") (← fieldNode tree convert "right")
  | .objectAssignmentPattern => defaultedPropertyShape source tree convert
  | .restPattern => return .rest (← firstCode tree convert)
  | .objectPattern => objectPatternShape source tree convert
  | .arrayPattern => return .arrayPattern (← convert.list tree.codeParts)
  | .exportStatement => exportShape tree convert
  | .exportSpecifier => exportSpecifierShape tree convert
  | .importStatement => importShape source tree convert
  | .generic | .parenthesized => return .generic tree.kind (← convert.list tree.codeParts)

/-- The node of a tree before it gets a place: parentheses around one part are that part. -/
def unplaced (source : Source) (tree : Tree) (convert : Convert tree.size) : NodeBuilder Node := do
  match Construct.ofKind tree.kind, tree.codeParts with
  | .parenthesized, [only] => convert only
  | found, _ => NodeBuilder.node (← layer source tree convert found)

/-- Gives a node the place of a tree, and the text as well where it is kept. -/
def placed (source : Source) (tree : Tree) (node : Node) : Node :=
  if (Construct.ofKind tree.kind).keepsText then located source tree node
  else node.withInfo { node.info with span := some (source.span tree) }

/-- The node of a tree. -/
def node (source : Source) (tree : Tree) : NodeBuilder Node := do
  return placed source tree (← unplaced source tree fun part => node source part.1)
termination_by tree.size
decreasing_by exact part.2

/-- The program that a tree makes, with the first identity that it does not use. -/
def program (source : Source) (tree : Tree) : Except Fault (Node × NodeId) := do
  if tree.isComment then
    throw (.rootNotProgram tree.kind)
  let (root, next) ← (node source tree).run 0
  if root.isProgram then return (root, next)
  else throw (.rootNotProgram tree.kind)

end Tree

end DocHarvest
