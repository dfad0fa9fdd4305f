import WebCitation.Domain.Basic

/-! Webpages read with the templates of their domain. -/
namespace WebCitation

structure ReadingOptions where
  /-- Only the templates at these paths are tried. -/
  templates : Option (List String)
  /-- All templates are tried, and not only those up to the first that applies. -/
  tryAll : Bool
  onlyApplicable : Bool
deriving DecidableEq, Repr

/-- The templates of the domain, up to the first that applies. -/
def ReadingOptions.standard : ReadingOptions := ⟨none, false, true⟩

/-- A template that may be tried; the fallback has no path. -/
structure Candidate where
  rules : TemplateRules
  path : Option String
deriving DecidableEq, Repr

namespace Candidate

def ofTemplate (t : Template) : Candidate := ⟨t.toTemplateRules, some t.path⟩

def ofFallback (t : FallbackTemplate) : Candidate := ⟨t, none⟩

def reading (c : Candidate) (target : Webpage) : Reading TemplateOutput :=
  c.rules.reading c.path target

end Candidate

namespace Domain

def claim? (d : Domain) (path : String) : Option String := (d.matchPath? path).map Pattern.text

def claimedBy (d : Domain) (glob : String) : List Template :=
  d.templates.items.filter fun t => d.claim? t.path = some glob

/-- The candidates for a path: the templates at the given paths, or else those whose path the same pattern
claims, and the fallback last. -/
def candidates (d : Domain) (path : String) : Option (List String) → List Candidate
  | some paths => paths.filterMap fun path => (d.template? path).map .ofTemplate
  | none =>
    (((d.claim? path).map d.claimedBy).getD []).map .ofTemplate
      ++ (d.fallback.map Candidate.ofFallback).toList

/-- The outputs of candidates: of all of them, or of those up to the first that applies. -/
def readingOf (candidates : List Candidate) (tryAll : Bool) (target : Webpage) :
    Reading (List TemplateOutput) :=
  let readings := candidates.map (·.reading target)
  if tryAll then .all readings else .upTo TemplateOutput.applicable readings

/-- The outputs of the templates that are tried. Pages of other domains are refused. -/
def reading (d : Domain) (target : Webpage) (options : ReadingOptions) :
    Reading (List TemplateOutput) :=
  if target.domain = d.name.text then
    (readingOf (d.candidates target.path options.templates) options.tryAll target).map fun outputs =>
      if options.onlyApplicable then outputs.filter TemplateOutput.applicable else outputs
  else .fail (.crossDomain d.name.text target.domain)

end Domain

/-- The outputs that a domain has for the webpage of a visit, and the visit after it. -/
def Visit.readBy (v : Visit) (d : Domain) (options : ReadingOptions) :
    Except ReadingError (List TemplateOutput) × Visit := v.run (d.reading v.webpage options)

end WebCitation
