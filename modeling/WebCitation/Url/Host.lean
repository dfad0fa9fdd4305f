import WebCitation.Error.Config
import WebCitation.Url.Idna.Domain
import WebCitation.Url.Ipv4
import WebCitation.Url.Ipv6
import WebCitation.Url.Percent

/-! Hosts of addresses: domain names and numeric addresses. -/
namespace WebCitation.Host

def parseBracketed (s : List Char) : Except UrlError (List Char) :=
  match s.getLast?, Ipv6.read? s.dropLast with
  | some ']', some pieces => .ok ('[' :: Ipv6.text pieces ++ [']'])
  | _, _ => .error .invalidIpv6

def parse (s : List Char) : Except UrlError (List Char) :=
  match s with
  | '[' :: s => parseBracketed s
  | s =>
    match Idna.toAscii? (Text.decodeUtf8 (Percent.decode s)) with
    | none => .error .invalidInternationalName
    | some [] => .error .emptyHost
    | some name =>
      if Ipv4.endsInNumber name then
        match Ipv4.normalize? name with
        | some address => .ok address
        | none => .error .invalidIpv4
      else .ok name

/-- Characters that no host may hold, whatever the scheme. -/
def isForbidden (c : Char) : Bool :=
  c.toNat == 0 || ['\t', '\n', '\r', ' ', '#', '/', ':', '<', '>', '?', '@', '[', '\\', ']', '^', '|'].contains c

def checkOpaque (s : List Char) : Except UrlError Unit :=
  match s with
  | '[' :: s => (parseBracketed s).map fun _ => ()
  | s => if s.any isForbidden then .error .invalidDomainCharacter else .ok ()

end WebCitation.Host
