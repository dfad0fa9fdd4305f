import WebCitation.Citation.Basic
import WebCitation.Date.Day
import WebCitation.Json.Record

/-! Citations as JSON, with the day on which the page was read. -/
namespace WebCitation

open Json

namespace Author

def decode (j : Json) : Option Author := do
  match ← slots? ["first", "last"] j with
  | [first, last] => return ⟨← required string? first, ← required string? last⟩
  | _ => none

def encode (a : Author) : Json := .object [("first", .string a.first), ("last", .string a.last)]

end Author

namespace Citation

def fields (c : Citation) : List (String × Json) :=
  [("itemType", ofOption .string c.itemType), ("title", ofOption .string c.title),
    ("authors", .array (c.authors.map Author.encode)), ("date", ofOption .string c.date),
    ("publishedIn", ofOption .string c.publishedIn),
    ("publishedBy", ofOption .string c.publishedBy), ("language", ofOption .string c.language),
    ("url", .string c.url)]

end Citation

structure DatedCitation where
  citation : Citation
  accessDate : Day
deriving DecidableEq, Repr

namespace DatedCitation

def columns : List String :=
  ["itemType", "title", "authors", "date", "publishedIn", "publishedBy", "language", "url", "accessDate"]

def decode (j : Json) : Option DatedCitation := do
  match ← slots? columns j with
  | [itemType, title, authors, date, publishedIn, publishedBy, language, url, accessDate] =>
    let citation : Citation :=
      ⟨← nullable string? itemType, ← nullable string? title,
        ← withDefault [] (listOf? Author.decode) authors, ← nullable string? date,
        ← nullable string? publishedIn, ← nullable string? publishedBy,
        ← nullable string? language, ← required string? url⟩
    let day ← required string? accessDate
    return ⟨citation, ← Day.parse? day⟩
  | _ => none

def encode (c : DatedCitation) : Json :=
  .object (c.citation.fields ++ [("accessDate", .string c.accessDate.text)])

end DatedCitation
end WebCitation
