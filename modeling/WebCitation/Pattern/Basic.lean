import WebCitation.Definition.Basic
import WebCitation.Pattern.Glob
import WebCitation.Pattern.Path

/-! Path patterns: globs with a label, matched against normalized paths. -/
namespace WebCitation

structure Pattern where
  glob : Glob
  label : Option String
deriving DecidableEq, Repr

namespace Pattern

def compile (text : String) : Except ConfigError Pattern :=
  match Glob.compile text with
  | .ok glob => .ok ⟨glob, none⟩
  | .error e => .error (.invalidPattern text e)

def ofDefinition (d : Definition.Pattern) : Except ConfigError Pattern :=
  (compile d.pattern).map fun p => { p with label := d.label }

def withLabel (p : Pattern) (label : String) : Pattern := { p with label := some label }

def text (p : Pattern) : String := p.glob.text

def acceptsNormalized (p : Pattern) (path : String) : Bool :=
  Glob.accepts p.glob.tokens path.toList

def matchesPath (p : Pattern) (path : String) : Bool := p.acceptsNormalized (Path.normalize path)

def toDefinition (p : Pattern) : Definition.Pattern := ⟨p.text, p.label⟩

end Pattern
end WebCitation
