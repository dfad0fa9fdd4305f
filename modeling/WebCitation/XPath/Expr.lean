import WebCitation.XPath.Token

/-! Expressions over the nodes of a page. -/
namespace WebCitation.XPath

/-- A path is a chain of steps, from the root, from the node at hand or from the nodes of any expression. -/
inductive Expr where
  | root
  | here
  | number (value : Double)
  | literal (text : String)
  | reference (name : String)
  | call (name : String) (arguments : List Expr)
  | operation (operator : Operator) (left right : Expr)
  | negation (operand : Expr)
  | filter (base predicate : Expr)
  | step (start : Expr) (axis : Axis) (test : NodeTest) (predicates : List Expr)
deriving Repr, Inhabited

/-- What makes an expression fail. Only `malformed` shows before the expression is evaluated. -/
inductive Fault where
  | malformed
  | unknownFunction (name : String)
  | unknownVariable (name : String)
  | unknownQualifier (qualifier : String)
  | unfitArguments (function : String)
  | nodesExpected
deriving DecidableEq, Repr

end WebCitation.XPath
