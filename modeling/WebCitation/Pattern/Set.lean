import WebCitation.Keyed
import WebCitation.Pattern.Basic

/-! Ordered patterns that sort paths into groups: the first pattern that matches claims a path. -/
namespace WebCitation

abbrev PatternSet := Keyed Pattern.text

namespace PatternSet

def ofDefinitions (ds : List Definition.Pattern) : PatternSet :=
  Keyed.ofList (ds.filterMap fun d => (Pattern.ofDefinition d).toOption)

def matchPath? (s : PatternSet) (path : String) : Option Pattern :=
  let normalized := Path.normalize path
  s.items.find? (·.acceptsNormalized normalized)

/-- Paths under the glob text that claims them. -/
abbrev Groups := List (String × List String)

def Groups.add (text path : String) : Groups → Groups
  | [] => []
  | (glob, paths) :: groups =>
    if glob = text then (glob, paths ++ [path]) :: groups
    else (glob, paths) :: Groups.add text path groups

/-- Sorts paths under their first matching pattern. Every pattern has a group, in the order of the set;
a path that none matches is left out. -/
def sortPaths (s : PatternSet) (paths : List String) : Groups :=
  paths.foldl
    (fun groups path =>
      match s.matchPath? path with
      | some p => Groups.add p.text path groups
      | none => groups)
    (s.items.map fun p => (p.text, []))

def toDefinitions (s : PatternSet) : List Definition.Pattern := s.items.map Pattern.toDefinition

end PatternSet
end WebCitation
