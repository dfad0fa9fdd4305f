import WebCitation.XPath.Function
import WebCitation.XPath.Parser

/-! What an expression stands for on a page. -/
namespace WebCitation.XPath

/-- Whether a node is of the kind that names along an axis stand for. -/
def isPrincipal (d : Document) (axis : Axis) : Node → Bool
  | .tree row => axis != .attributes && axis != .namespaces && d.isElement row
  | .attribute .. => axis == .attributes
  | .space _ => axis == .namespaces

/-- Whether a node along an axis passes a test. A qualifier is never known. -/
def passes (d : Document) (axis : Axis) (test : NodeTest) (n : Node) : Except Fault Bool :=
  let content : Option Html.Node :=
    match n with
    | .tree row => d.content? row
    | _ => none
  match test with
  | .any => .ok true
  | .text => .ok (content matches some (.text _))
  | .comment => .ok (content matches some (.comment _))
  | .instruction target =>
    match content with
    | some (.instruction t _) => .ok (target.all (· == t))
    | _ => .ok false
  | .wildcard => .ok (isPrincipal d axis n)
  | .name stem => .ok (isPrincipal d axis n && d.nameOf n == some (.plain stem))
  | .qualified qualifier _ =>
    if isPrincipal d axis n then .error (.unknownQualifier qualifier) else .ok false

/-- A number holds at the position that is its whole part; any other value holds if it is true. -/
def holdsAt (position : Nat) : Value → Bool
  | .number x =>
    match x with
    | .infinite _ => false
    | x => position == ((x.truncate?).getD 0).toNat
  | v => v.asTruth

/-- The nodes at which a condition holds, each in its place among all. -/
def filterFrom (holds : Context → Except Fault Value) (size : Nat) :
    Nat → List Node → Except Fault (List Node)
  | _, [] => .ok []
  | position, n :: ns => do
    let v ← holds ⟨n, position, size⟩
    let rest ← filterFrom holds size (position + 1) ns
    return if holdsAt position v then n :: rest else rest

def filterNodes (holds : Context → Except Fault Value) (ns : List Node) : Except Fault (List Node) :=
  filterFrom holds ns.length 1 ns

def Value.nodes? : Value → Except Fault (List Node)
  | .nodes ns => .ok ns
  | _ => .error .nodesExpected

/-- The nodes that one step reaches from one node, in document order. -/
def stepFrom (d : Document) (axis : Axis) (test : NodeTest)
    (select : List Node → Except Fault (List Node)) (n : Node) : Except Fault (List Node) := do
  let candidates ← (d.along axis n).filterM (passes d axis test)
  let kept ← select candidates
  return if axis.isReverse then kept.reverse else kept

def stepFromAll (d : Document) (axis : Axis) (test : NodeTest)
    (select : List Node → Except Fault (List Node)) (starts : List Node) : Except Fault (List Node) := do
  let reached ← starts.mapM (stepFrom d axis test select)
  return reached.foldr Node.merge []

/-- An operator on evaluated operands. Order compares numbers only. -/
def applyOperator (d : Document) (o : Operator) (v w : Value) : Except Fault Value :=
  let x := v.asNumber d
  let y := w.asNumber d
  match o with
  | .or => .ok (.truth (v.asTruth || w.asTruth))
  | .and => .ok (.truth (v.asTruth && w.asTruth))
  | .equal => .ok (.truth (v.equal d w))
  | .notEqual => .ok (.truth !(v.equal d w))
  | .less => .ok (.truth (Double.lt x y))
  | .lessEqual => .ok (.truth (Double.le x y))
  | .greater => .ok (.truth (Double.lt y x))
  | .greaterEqual => .ok (.truth (Double.le y x))
  | .plus => .ok (.number (Double.add x y))
  | .minus => .ok (.number (Double.sub x y))
  | .times => .ok (.number (Double.mul x y))
  | .divide => .ok (.number (Double.div x y))
  | .remainder => .ok (.number (Double.rem x y))
  | .union => do return .nodes (Node.merge (← v.nodes?) (← w.nodes?))

/-- Whether the left operand of `or` or `and` settles the answer. -/
def settledBy : Operator → Value → Option Value
  | .or, v => if v.asTruth then some (.truth true) else none
  | .and, v => if v.asTruth then none else some (.truth false)
  | _, _ => none

mutual

/-- The value of an expression at a node. The right operand of `or` and `and` is left alone where the left
one settles the answer. -/
def Expr.eval (d : Document) : Expr → Context → Except Fault Value
  | .root, _ => .ok (.nodes [.tree 0])
  | .here, c => .ok (.nodes [c.node])
  | .number x, _ => .ok (.number x)
  | .literal s, _ => .ok (.text s)
  | .reference name, _ => .error (.unknownVariable name)
  | .call function arguments, c => do
    if !functionNames.contains function then .error (.unknownFunction function)
    let vs ← evalAll d arguments c
    applyFunction d c function vs
  | .operation o left right, c => do
    let v ← left.eval d c
    match settledBy o v with
    | some answer => .ok answer
    | none => applyOperator d o v (← right.eval d c)
  | .negation operand, c => do
    let v ← operand.eval d c
    return .number (v.asNumber d).neg
  | .filter base predicate, c => do
    let ns ← (← base.eval d c).nodes?
    return .nodes (← filterNodes (predicate.eval d) ns)
  | .step start axis test predicates, c => do
    let ns ← (← start.eval d c).nodes?
    return .nodes (← stepFromAll d axis test (filterByAll d predicates) ns)

def evalAll (d : Document) : List Expr → Context → Except Fault (List Value)
  | [], _ => .ok []
  | e :: es, c => do
    let v ← e.eval d c
    let vs ← evalAll d es c
    return v :: vs

def filterByAll (d : Document) : List Expr → List Node → Except Fault (List Node)
  | [], ns => .ok ns
  | e :: es, ns => do
    let kept ← filterNodes (e.eval d) ns
    filterByAll d es kept

end

def evaluate (d : Document) (expression : String) : Except Fault Value :=
  match Expr.parse? expression with
  | none => .error .malformed
  | some e => e.eval d ⟨.tree 0, 1, 1⟩

end WebCitation.XPath
