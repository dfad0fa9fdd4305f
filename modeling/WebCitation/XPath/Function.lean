import WebCitation.Text.Split
import WebCitation.XPath.Expr
import WebCitation.XPath.Value

/-! The functions that expressions may call. -/
namespace WebCitation.XPath

/-- The node at hand, and its place among the nodes that are looked at with it. -/
structure Context where
  node : Node
  position : Nat
  size : Nat
deriving DecidableEq, Repr

/-- The nearest whole number, a half going up; what rounds to zero keeps its sign. -/
def roundHalfUp (x : Double) : Double :=
  let y := x.floor
  if Double.eq x y then x
  else
    let z := (Double.sub (Double.add x x) y).floor
    if x.isNegative = z.isNegative then z else z.neg

/-- The characters whose place, counted from one, lies in a window of the given rounded start and length. -/
def windowFrom (start stop : Double) : Nat → List Char → List Char
  | _, [] => []
  | place, c :: s =>
    let x := Double.ofNat place
    if Double.le start x && Double.lt x stop then c :: windowFrom start stop (place + 1) s
    else windowFrom start stop (place + 1) s

def substring (s : String) (start length : Double) : String :=
  let start := roundHalfUp start
  String.ofList (windowFrom start (Double.add start length) 1 s.toList)

/-- The words of a text, which its own white space separates, with one space between them. -/
def normalizeSpace (s : String) : String :=
  String.ofList (Text.join [' '] ((Text.splitWhere isSpace s.toList).filter (!·.isEmpty)))

/-- What a character becomes: its partner, nothing if it has none, and itself if it is not listed. -/
def translateChar (old new : List Char) (c : Char) : List Char :=
  match old, new with
  | [], _ => [c]
  | o :: old, new => if o = c then new.take 1 else translateChar old (new.drop 1) c

def translate (s old new : String) : String :=
  String.ofList (s.toList.flatMap (translateChar old.toList new.toList))

def substringBefore (s mark : String) : String :=
  String.ofList (((Text.cut? mark.toList s.toList).map Prod.fst).getD [])

def substringAfter (s mark : String) : String :=
  String.ofList (((Text.cut? mark.toList s.toList).map Prod.snd).getD [])

def functionNames : List String :=
  ["last", "position", "count", "local-name", "namespace-uri", "name", "string", "concat",
    "starts-with", "contains", "substring-before", "substring-after", "substring", "string-length",
    "normalize-space", "translate", "boolean", "not", "true", "false", "number", "sum", "floor",
    "ceiling", "round"]

/-- A name with the prefix of its namespace. Only the namespace that every element has comes with one. -/
def writtenName (n : Html.Name) : String :=
  if n.space == some xmlSpace then "xml:" ++ n.stem else n.stem

def answer? (d : Document) (c : Context) (function : String) (arguments : List Value) : Option Value :=
  let name (n : Option Node) : String := ((n.bind d.nameOf).map writtenName).getD ""
  let stem (n : Option Node) : String := ((n.bind d.nameOf).map Html.Name.stem).getD ""
  let space (n : Option Node) : String := ((n.bind d.nameOf).bind Html.Name.space).getD ""
  let hand : Value := .text (d.textOf c.node)
  match function, arguments with
  | "last", [] => some (.number (Double.ofNat c.size))
  | "position", [] => some (.number (Double.ofNat c.position))
  | "count", [.nodes ns] => some (.number (Double.ofNat ns.length))
  | "local-name", [] => some (.text (stem c.node))
  | "local-name", [.nodes ns] => some (.text (stem ns.head?))
  | "name", [] => some (.text (name c.node))
  | "name", [.nodes ns] => some (.text (name ns.head?))
  | "namespace-uri", [] => some (.text (space c.node))
  | "namespace-uri", [.nodes ns] => some (.text (space ns.head?))
  | "string", [] => some hand
  | "string", [v] => some (.text (v.asText d))
  | "concat", v :: w :: vs => some (.text (String.join ((v :: w :: vs).map (·.asText d))))
  | "starts-with", [v, w] =>
    some (.truth (Text.dropPrefix? (w.asText d).toList (v.asText d).toList).isSome)
  | "contains", [v, w] => some (.truth (Text.cut? (w.asText d).toList (v.asText d).toList).isSome)
  | "substring-before", [v, w] => some (.text (substringBefore (v.asText d) (w.asText d)))
  | "substring-after", [v, w] => some (.text (substringAfter (v.asText d) (w.asText d)))
  | "substring", [v, w] => some (.text (substring (v.asText d) (w.asNumber d) (.infinite false)))
  | "substring", [v, w, x] =>
    some (.text (substring (v.asText d) (w.asNumber d) (roundHalfUp (x.asNumber d))))
  | "string-length", [] => some (.number (Double.ofNat (hand.asText d).length))
  | "string-length", [v] => some (.number (Double.ofNat (v.asText d).length))
  | "normalize-space", [] => some (.text (normalizeSpace (hand.asText d)))
  | "normalize-space", [v] => some (.text (normalizeSpace (v.asText d)))
  | "translate", [v, w, x] => some (.text (translate (v.asText d) (w.asText d) (x.asText d)))
  | "boolean", [v] => some (.truth v.asTruth)
  | "not", [v] => some (.truth !v.asTruth)
  | "true", [] => some (.truth true)
  | "false", [] => some (.truth false)
  | "number", [] => some (.number (hand.asNumber d))
  | "number", [v] => some (.number (v.asNumber d))
  | "sum", [.nodes ns] =>
    let numbers := ns.map fun n => Double.ofText (d.textOf n).toList
    some (.number (numbers.foldl Double.add (Double.zero false)))
  | "floor", [v] => some (.number (v.asNumber d).floor)
  | "ceiling", [v] => some (.number (v.asNumber d).ceiling)
  | "round", [v] => some (.number (roundHalfUp (v.asNumber d)))
  | _, _ => none

def applyFunction (d : Document) (c : Context) (function : String) (arguments : List Value) :
    Except Fault Value :=
  if !functionNames.contains function then .error (.unknownFunction function)
  else
    match answer? d c function arguments with
    | some v => .ok v
    | none => .error (.unfitArguments function)

end WebCitation.XPath
