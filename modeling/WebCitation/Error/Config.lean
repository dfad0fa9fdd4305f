import WebCitation.Text.Quoted

/-! Why a rule is refused. -/
namespace WebCitation

inductive StepFamily where
  | selection
  | transformation
deriving DecidableEq, Repr

def StepFamily.name : StepFamily → String
  | selection => "selection"
  | transformation => "transformation"

inductive GlobError where
  | wildcards
  | recursiveWildcards
  | range
deriving DecidableEq, Repr

def GlobError.reason : GlobError → String
  | wildcards => "wildcards are either regular `*` or recursive `**`"
  | recursiveWildcards => "recursive wildcards must form a single path component"
  | range => "invalid range pattern"

inductive RangeError where
  | noRange
  | malformed (item : String)
  | empty
  | outOfRange (index : String)
deriving DecidableEq, Repr

def RangeError.reason : RangeError → String
  | noRange => "expected at least one range"
  | malformed item => "malformed range " ++ item.quoted
  | empty => "empty range"
  | outOfRange index => "index " ++ index.quoted ++ " out of range"

inductive UrlError where
  | relativeWithoutBase
  | emptyHost
  | invalidPort
  | invalidIpv4
  | invalidIpv6
  | invalidInternationalName
  | invalidDomainCharacter
  | notWeb
deriving DecidableEq, Repr

def UrlError.reason : UrlError → String
  | relativeWithoutBase => "relative URL without a base"
  | emptyHost => "empty host"
  | invalidPort => "invalid port number"
  | invalidIpv4 => "invalid IPv4 address"
  | invalidIpv6 => "invalid IPv6 address"
  | invalidInternationalName => "invalid international domain name"
  | invalidDomainCharacter => "invalid domain character"
  | notWeb => "only http and https URLs can be translated"

inductive ConfigError where
  | notCitoidField (config : String)
  | invalidRange (config : String) (error : RangeError)
  | invalidXPath (expression : String)
  | unsupportedLocale (code : String)
  | unknownStepType (family : StepFamily) (type : String)
  | unknownField (name : String)
  | forceRequired (name : String)
  | invalidPattern (pattern : String) (error : GlobError)
  | invalidPath (path : String)
  | invalidDomain (name : String)
  | invalidUrl (url : String) (error : UrlError)
deriving DecidableEq, Repr

namespace ConfigError

def stepConfig (step config reason : String) : String :=
  "invalid " ++ step ++ " config " ++ config.quoted ++ ": " ++ reason

def message : ConfigError → String
  | notCitoidField config => stepConfig "citoid" config "not a Citoid citation field"
  | invalidRange config error => stepConfig "range" config error.reason
  | invalidXPath expression => stepConfig "xpath" expression "not a valid expression"
  | unsupportedLocale code => "unsupported date locale: " ++ code.quoted
  | unknownStepType family type => "unknown " ++ family.name ++ " type: " ++ type.quoted
  | unknownField name => "unknown field name: " ++ name.quoted
  | forceRequired name => "field " ++ name ++ " is always required"
  | invalidPattern pattern error =>
    "invalid path pattern " ++ pattern.quoted ++ ": " ++ error.reason
  | invalidPath path => "invalid template path: " ++ path.quoted
  | invalidDomain name => "invalid domain name: " ++ name.quoted
  | invalidUrl url error => "invalid webpage URL " ++ url.quoted ++ ": " ++ error.reason

end ConfigError
end WebCitation
