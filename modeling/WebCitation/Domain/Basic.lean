import WebCitation.Domain.Name
import WebCitation.Pattern.Set
import WebCitation.Template.Basic
import WebCitation.Template.Fallback

/-! Domains: what is configured for the pages of one host. -/
namespace WebCitation

abbrev TemplateSet := Keyed Template.path

abbrev TestSet := Keyed Definition.Test.path

structure Domain where
  name : DomainName
  /-- The domain's own patterns. -/
  own : PatternSet
  catchAll : Pattern
  templates : TemplateSet
  fallback : Option FallbackTemplate
  tests : TestSet
deriving DecidableEq, Repr

namespace Domain

def anyPath : Pattern :=
  ⟨⟨"/**", [.char '/', .segments], by simp [Glob.parse]; rfl⟩, none⟩

def ofName (name : DomainName) : Domain :=
  ⟨name, Keyed.empty, anyPath, Keyed.empty, none, Keyed.empty⟩

def ofText (name : String) : Except ConfigError Domain := (DomainName.ofText name).map ofName

def withPatterns (d : Domain) (patterns : List Pattern) : Domain :=
  { d with own := Keyed.ofList patterns }

def withCatchAll (d : Domain) (pattern : String) : Except ConfigError Domain :=
  (Pattern.compile pattern).map fun catchAll => { d with catchAll }

/-- Templates of other domains are left out, and of those with the same path the first stays. -/
def withTemplates (d : Domain) (templates : List Template) : Domain :=
  { d with templates := Keyed.ofList (templates.filter fun t => t.domain = d.name.text) }

/-- A fallback of another domain is refused. -/
def withFallback (d : Domain) (fallback : FallbackTemplate) : Except ConfigError Domain :=
  if fallback.domain = d.name.text then .ok { d with fallback := some fallback }
  else .error (.invalidDomain fallback.domain)

def withTests (d : Domain) (tests : List Definition.Test) : Domain :=
  { d with tests := Keyed.ofList tests }

/-- The domain of definitions. Only its name can be refused: what is not accepted is left out. -/
def ofDefinitions (name : String) (ds : Definition.Domain) : Except ConfigError Domain :=
  (ofText name).map fun d =>
    let d := { d with own := PatternSet.ofDefinitions ds.patterns }
    let templates := ds.templates.filterMap fun t => (Template.ofDefinition d.name.text t).toOption
    (d.withTemplates templates).withTests ds.tests

def toDefinitions (d : Domain) : Definition.Domain :=
  ⟨d.own.toDefinitions, d.templates.items.map Template.toDefinition, d.tests.items⟩

/-- The patterns in the order in which they claim paths, the catch-all last. -/
def patterns (d : Domain) : PatternSet := d.own.push d.catchAll

def template? (d : Domain) (path : String) : Option Template := d.templates.get? path

def test? (d : Domain) (path : String) : Option Definition.Test := d.tests.get? path

def matchPath? (d : Domain) (path : String) : Option Pattern := d.patterns.matchPath? path

def sortPaths (d : Domain) (paths : List String) : PatternSet.Groups := d.patterns.sortPaths paths

end Domain
end WebCitation
