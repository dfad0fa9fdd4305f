import WebCitation.XPath.Expr

/-! Expressions read from tokens, by operators of growing strength. -/
namespace WebCitation.XPath

def Operator.strength : Operator → Nat
  | .or => 0
  | .and => 1
  | .equal | .notEqual => 2
  | .less | .lessEqual | .greater | .greaterEqual => 3
  | .plus | .minus => 4
  | .times | .divide | .remainder => 5
  | .union => 7

/-- The strength of a sign, which binds more loosely than a union alone. -/
def signStrength : Nat := 6

def pathStrength : Nat := 8

/-- What reading an expression gives: nothing if the text is at fault. Otherwise the tokens that are left come
with the expression, if one begins here. An axis that no test follows, or a pair of parentheses with nothing
between them, is passed over even where none does. -/
abbrev Reading := Option (Option Expr × List Token)

def Reading.required : Reading → Option (Expr × List Token)
  | some (some e, ts) => some (e, ts)
  | _ => none

def readAxis : List Token → Axis × List Token
  | .axis a :: ts => (a, ts)
  | ts => (.child, ts)

mutual

/-- An expression whose operators bind at least this strongly. -/
def readExpr : Nat → Nat → List Token → Reading
  | 0, _, _ => none
  | fuel + 1, strength, ts =>
    if strength = signStrength then readSigned fuel ts
    else if pathStrength ≤ strength then readPath fuel ts
    else
      match readExpr fuel (strength + 1) ts with
      | some (some left, ts) => readOperations fuel strength left ts
      | other => other

/-- Further operands of operators of this strength, which associate to the left. -/
def readOperations : Nat → Nat → Expr → List Token → Reading
  | 0, _, _, _ => none
  | fuel + 1, strength, left, .operator o :: ts =>
    if o.strength = strength then do
      let (right, ts) ← (readExpr fuel (strength + 1) ts).required
      readOperations fuel strength (.operation o left right) ts
    else some (some left, .operator o :: ts)
  | _ + 1, _, left, ts => some (some left, ts)

def readSigned : Nat → List Token → Reading
  | 0, _ => none
  | fuel + 1, ts =>
    match readExpr fuel (signStrength + 1) ts with
    | some (none, .operator .minus :: ts) => do
      let (operand, ts) ← (readSigned fuel ts).required
      some (some (.negation operand), ts)
    | other => other

def readPath : Nat → List Token → Reading
  | 0, _ => none
  | fuel + 1, ts =>
    match readSteps fuel .here ts with
    | some (none, .slash :: ts) =>
      match readSteps fuel .root ts with
      | some (none, ts) => some (some .root, ts)
      | other => other
    | some (none, ts) =>
      match readOperand fuel ts with
      | some (some base, ts) => do
        let (base, ts) ← readFilters fuel base ts
        match ts with
        | .slash :: ts => do
          let (path, ts) ← (readSteps fuel base ts).required
          some (some path, ts)
        | ts => some (some base, ts)
      | other => other
    | other => other

def readSteps : Nat → Expr → List Token → Reading
  | 0, _, _ => none
  | fuel + 1, start, ts =>
    match readAxis ts with
    | (axis, .test t :: ts) => do
      let (predicates, ts) ← readPredicates fuel ts
      match ts with
      | .slash :: ts => do
        let (path, ts) ← (readSteps fuel (.step start axis t predicates) ts).required
        some (some path, ts)
      | ts => some (some (.step start axis t predicates), ts)
    | (_, ts) => some (none, ts)

def readPredicates : Nat → List Token → Option (List Expr × List Token)
  | 0, _ => none
  | fuel + 1, .openBracket :: ts => do
    let (predicate, ts) ← (readExpr fuel 0 ts).required
    match ts with
    | .closeBracket :: ts =>
      let (predicates, ts) ← readPredicates fuel ts
      some (predicate :: predicates, ts)
    | _ => none
  | _ + 1, ts => some ([], ts)

def readFilters : Nat → Expr → List Token → Option (Expr × List Token)
  | 0, _, _ => none
  | fuel + 1, base, .openBracket :: ts => do
    let (predicate, ts) ← (readExpr fuel 0 ts).required
    match ts with
    | .closeBracket :: ts => readFilters fuel (.filter base predicate) ts
    | _ => none
  | _ + 1, base, ts => some (base, ts)

/-- An operand that is no path. A number, a text or a call may follow empty parentheses. -/
def readOperand : Nat → List Token → Reading
  | 0, _ => none
  | _ + 1, .reference name :: ts => some (some (.reference name), ts)
  | fuel + 1, .openParen :: ts =>
    match readExpr fuel 0 ts with
    | some (some inner, .closeParen :: ts) => some (some inner, ts)
    | some (none, .closeParen :: ts) => readPlain fuel ts
    | _ => none
  | fuel + 1, ts => readPlain fuel ts

def readPlain : Nat → List Token → Reading
  | 0, _ => none
  | _ + 1, .number n :: ts => some (some (.number n), ts)
  | _ + 1, .literal t :: ts => some (some (.literal t), ts)
  | fuel + 1, .call name :: .openParen :: ts =>
    match readExpr fuel 0 ts with
    | some (none, .closeParen :: ts) => some (some (.call name []), ts)
    | some (some first, ts) => do
      let (arguments, ts) ← readArguments fuel ts
      some (some (.call name (first :: arguments)), ts)
    | _ => none
  | _ + 1, ts => some (none, ts)

def readArguments : Nat → List Token → Option (List Expr × List Token)
  | _ + 1, .closeParen :: ts => some ([], ts)
  | fuel + 1, .comma :: ts => do
    let (argument, ts) ← (readExpr fuel 0 ts).required
    let (arguments, ts) ← readArguments fuel ts
    some (argument :: arguments, ts)
  | _, _ => none

end

/-- Between two tokens that are read at most this many readers are entered. -/
def readersPerToken : Nat := 16

def Expr.ofTokens? (ts : List Token) : Option Expr :=
  match readExpr (readersPerToken * (ts.length + 1)) 0 ts with
  | some (some e, []) => some e
  | _ => none

def Expr.parse? (s : String) : Option Expr := Token.ofText? s.toList >>= Expr.ofTokens?

end WebCitation.XPath
