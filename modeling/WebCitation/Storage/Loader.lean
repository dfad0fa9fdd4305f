import WebCitation.Definition.Codec
import WebCitation.Domain.Basic
import WebCitation.Json.Parser
import WebCitation.Settings
import WebCitation.Storage.Highlight
import WebCitation.Storage.History

/-! Domains loaded from stored pages, one page for each kind of rules. -/
namespace WebCitation

/-- The kinds of rules that a domain stores. -/
inductive RuleKind where
  | templates
  | patterns
  | tests
deriving DecidableEq, Repr

def RuleKind.fileName : RuleKind → String
  | templates => "templates.json"
  | patterns => "patterns.json"
  | tests => "tests.json"

theorem RuleKind.fileName_inj {kind other : RuleKind} : kind.fileName = other.fileName ↔ kind = other := by
  cases kind <;> cases other <;> decide

/-- Where rules are stored, and the pattern that loaded domains try last. -/
structure RuleStorage where
  root : String
  catchAll : String
deriving DecidableEq, Repr

namespace RuleStorage

open Text

/-- Slashes at the end of the root do not count. -/
def ofSettings (s : Settings) : RuleStorage :=
  ⟨String.ofList (s.storageRoot.toList.reverse.dropWhile (· == '/')).reverse, s.catchAllPattern⟩

/-- The labels of a domain, the last one first, with slashes between them. -/
def domainPath (domain : String) : List Char :=
  join ['/'] (splitWhere (· == '.') domain.asciiLower.toList).reverse

def title (s : RuleStorage) (domain : String) (kind : RuleKind) : String :=
  s.root ++ "/" ++ String.ofList (domainPath domain) ++ "/" ++ kind.fileName

/-- The definitions that the content of a page holds. Elements of another shape are left out. -/
def definitionsOf (decode : Json → Option α) (content : String) : Except StorageError (List α) :=
  match Json.parse? (Highlight.strip content) with
  | some (.array elements) => .ok (elements.filterMap decode)
  | _ => .error .notArray

/-- The definitions of one kind, from the latest revision or the one at `start`. A page that is missing
holds none. -/
def fetch (s : RuleStorage) (source : RevisionSource) (decode : Json → Option α) (domain : String)
    (kind : RuleKind) (start : Option Nat) : Except StorageError (List α) := do
  match ← source (.latest (s.title domain kind) start) with
  | ⟨_, some content⟩ :: _ => definitionsOf decode content
  | _ => return []

def loadDefinitions (s : RuleStorage) (source : RevisionSource) (domain : String) :
    Except StorageError Definition.Domain := do
  let patterns ← s.fetch source Definition.Pattern.decode domain .patterns none
  let templates ← s.fetch source Definition.Template.decode domain .templates none
  let tests ← s.fetch source Definition.Test.decode domain .tests none
  return ⟨patterns, templates, tests⟩

def assemble (s : RuleStorage) (domain : String) (definitions : Definition.Domain)
    (fallback : Option FallbackTemplate) : Except ConfigError Domain := do
  let d ← (← Domain.ofDefinitions domain definitions).withCatchAll s.catchAll
  match fallback with
  | some fallback => d.withFallback fallback
  | none => return d

def load (s : RuleStorage) (source : RevisionSource) (domain : String)
    (fallback : Option FallbackTemplate) : Except StorageError Domain := do
  let definitions ← s.loadDefinitions source domain
  (s.assemble domain definitions fallback).mapError .config

end RuleStorage
end WebCitation
