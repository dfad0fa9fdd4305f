import WebCitation.Client.Status
import WebCitation.Client.Transport
import WebCitation.Date.Instant
import WebCitation.Json.Parser
import WebCitation.Storage.History

/-! Revisions fetched from the API of a wiki. -/
namespace WebCitation

structure DatedRevision extends Revision where
  timestamp : Instant
deriving DecidableEq, Repr

namespace Wiki

open Json

def decodeSlot (j : Json) : Option (Option String) := do
  match ← slots? ["content"] j with
  | [content] => nullable string? content
  | _ => none

def decodeSlots (j : Json) : Option (Option String) := do
  match ← slots? ["main"] j with
  | [main] => required decodeSlot main
  | _ => none

def decodeRevision (j : Json) : Option DatedRevision := do
  match ← slots? ["revid", "timestamp", "slots"] j with
  | [id, timestamp, slots] =>
    let saved ← required string? timestamp
    let content ← nullable decodeSlots slots
    return { id := ← required nat? id, content := content.join, timestamp := ← Instant.parse? saved }
  | _ => none

/-- The revisions of a page, none if it is missing. -/
def decodePage (j : Json) : Option (List DatedRevision) := do
  match ← slots? ["missing", "revisions"] j with
  | [missing, revisions] =>
    let missing ← withDefault false bool? missing
    let found ← withDefault [] (listOf? decodeRevision) revisions
    return if missing then [] else found
  | _ => none

def decodePages (j : Json) : Option (List DatedRevision) := do
  match ← slots? ["pages"] j with
  | [pages] => (withDefault [] (listOf? decodePage) pages).map List.flatten
  | _ => none

def decodeError (j : Json) : Option String := do
  match ← slots? ["code", "info"] j with
  | [code, info] => return (← required string? code) ++ ": " ++ (← required string? info)
  | _ => none

def decodeResponse (j : Json) : Option (Except StorageError (List DatedRevision)) := do
  match ← slots? ["query", "error"] j with
  | [query, error] =>
    let found ← nullable decodePages query
    match ← nullable decodeError error with
    | some reason => return .error (.api reason)
    | none => return .ok (found.getD [])
  | _ => none

def parameters (q : RevisionQuery) : List (String × String) :=
  [("action", "query"), ("format", "json"), ("formatversion", "2"), ("prop", "revisions"),
    ("titles", q.title), ("rvprop", if q.withContent then "ids|timestamp|content" else "ids|timestamp"),
    ("rvslots", "main")]
    ++ (q.start.map fun start => ("rvstartid", toString start)).toList
    ++ (q.limit.map fun limit => ("rvlimit", toString limit)).toList

/-- A value as a form writes it: a space becomes a plus sign. -/
def formValue (s : String) : List Char :=
  (Percent.encode (fun c => c.isAlphanum || ['*', '-', '.', '_', ' '].contains c) s.toList).map fun c =>
    if c = ' ' then '+' else c

def formQuery (pairs : List (String × String)) : List Char :=
  Text.join ['&'] (pairs.map fun (name, value) => formValue name ++ '=' :: formValue value)

def queryUrl (api : Url) (q : RevisionQuery) : Url :=
  let form := formQuery (parameters q)
  let query := (api.query.getD "").toList
  { api with query := some (String.ofList (if query.isEmpty then form else query ++ '&' :: form)) }

/-- The revisions that a query asks for, newest first. -/
def fetchRevisions (c : Client) (transport : Transport) (s : Settings) (q : RevisionQuery) :
    Except StorageError (List DatedRevision) :=
  match Url.parse s.mediawikiApi with
  | .error _ => .error .transport
  | .ok api =>
    match c.follow transport Client.maxRedirects (queryUrl api q) with
    | .error _ => .error .transport
    | .ok (_, r) =>
      if !r.isSuccess then
        .error (.api ("HTTP " ++ Status.text r.status ++ " from " ++ s.mediawikiApi))
      else
        match (Json.parse? r.body).bind decodeResponse with
        | none => .error .notArray
        | some found => found

def source (c : Client) (transport : Transport) (s : Settings) : RevisionSource := fun q =>
  (fetchRevisions c transport s q).map fun found => found.map DatedRevision.toRevision

end Wiki
end WebCitation
