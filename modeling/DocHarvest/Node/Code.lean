import DocHarvest.Fault
import DocHarvest.Node.Basic

/-!
# Code of nodes

Expressions as text: by their source where it is known and otherwise put together from their parts.
-/

namespace DocHarvest.Node

/-- The code of a literal without source text. -/
def literalCode (value : Value) : LiteralKind → String
  | .string => value.shown
  | .boolean => if value.isTruthy then "true" else "false"
  | .null => "null"
  | .number | .regex | .other _ => value.display

mutual

/-- The code of a node. -/
def code : Node → String
  | .mk ⟨_, _, _, _, some raw⟩ _ => raw
  | .mk _ (.identifier name) => name
  | .mk _ .this => "this"
  | .mk _ (.literal value kind) => literalCode value kind
  | .mk _ (.member target key computed) =>
      if computed then codeOr target ++ "[" ++ codeOr key ++ "]"
      else codeOr target ++ "." ++ codeOr key
  | .mk _ (.call callee arguments) =>
      codeOr callee ++ "(" ++ Text.joinStrings ", " (codes arguments) ++ ")"
  | .mk _ (.construct callee arguments) =>
      "new " ++ codeOr callee ++ "(" ++ Text.joinStrings ", " (codes arguments) ++ ")"
  | .mk _ shape => shape.typeName

/-- The code of a part that may be missing. -/
def codeOr : Option Node → String
  | none => ""
  | some node => node.code

/-- The codes of several nodes. -/
def codes : List Node → List String
  | [] => []
  | node :: rest => node.code :: codes rest

end

/-- The name of a part that is an identifier, and the code of any other part. -/
def nameOrCode : Option Node → String
  | none => ""
  | some node => node.identifier?.getD node.code

mutual

/-- The names along a chain of members, from the root on. -/
def chain : Node → List String
  | .mk _ .this => ["this"]
  | .mk _ (.identifier name) => [name]
  | .mk _ (.member target key _) => chainOr target ++ [nameOrCode key]
  | .mk info shape => [code (.mk info shape)]

/-- The names along a chain whose root may be missing. -/
def chainOr : Option Node → List String
  | none => []
  | some node => node.chain

end

/-- A chain of members with points between the names, such as `this.foo.bar`. -/
def chainText (node : Option Node) : String :=
  Text.joinStrings "." (chainOr node)

/-- The class that a `new` callee names: an identifier, or the last name of a chain. -/
def calleeName : Option Node → String
  | none => ""
  | some node =>
      match node.shape with
      | .identifier name => name
      | .member _ (some key) _ => key.identifier?.getD ""
      | _ => ""

end DocHarvest.Node

namespace DocHarvest

/-- A decorator by its name, with its arguments in parentheses if it is called. -/
structure Decorator where
  name : String
  arguments : Option String := none
deriving DecidableEq, Repr, Inhabited

namespace Decorator

/-- The decorator that an expression denotes. -/
def ofExpression (expression : Option Node) : Except Fault Decorator :=
  match expression with
  | none => .error (.unknownDecorator none)
  | some node =>
      match node.shape with
      | .identifier name => .ok ⟨name, none⟩
      | .member .. => .ok ⟨Node.chainText expression, none⟩
      | .call callee arguments =>
          let listed := Text.joinStrings ", " (Node.codes arguments)
          .ok ⟨Node.chainText callee, some ("(" ++ listed ++ ")")⟩
      | _ => .error (.unknownDecorator (some node.typeName))

/-- The decorator that a decorator node denotes. -/
def ofNode (node : Node) : Except Fault Decorator :=
  match node.shape with
  | .decorator expression => ofExpression expression
  | _ => .error (.unknownDecorator (some node.typeName))

/-- The decorators of a node, if it has any. -/
def all (node : Node) : Except Fault (Option (List Decorator)) :=
  match node.shape.decorators with
  | [] => .ok none
  | decorators => (decorators.mapM ofNode).map some

end Decorator

end DocHarvest
