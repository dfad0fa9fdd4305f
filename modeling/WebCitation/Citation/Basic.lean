import WebCitation.Field.Name

/-! Citations put together from the fields of a template. -/
namespace WebCitation

structure Author where
  first : String
  last : String
deriving DecidableEq, Repr

structure Citation where
  itemType : Option String
  title : Option String
  authors : List Author
  date : Option String
  publishedIn : Option String
  publishedBy : Option String
  language : Option String
  url : String
deriving DecidableEq, Repr

namespace Citation

def ofUrl (url : String) : Citation := ⟨none, none, [], none, none, none, none, url⟩

/-- Authors with one of their names set from a list. Where there are more names than authors, authors with
no other name follow. -/
def nameAuthors (setName : Author → String → Author) : List Author → List String → List Author
  | authors, [] => authors
  | [], name :: names => setName ⟨"", ""⟩ name :: nameAuthors setName [] names
  | author :: authors, name :: names => setName author name :: nameAuthors setName authors names

def setFirst (a : Author) (name : String) : Author := { a with first := name }

def setLast (a : Author) (name : String) : Author := { a with last := name }

/-- The citation with the values of a field. Fields that hold one value take the first. -/
def apply (c : Citation) (name : FieldName) (values : List String) : Citation :=
  match name with
  | .itemType => { c with itemType := values.head? }
  | .title => { c with title := values.head? }
  | .authorFirst => { c with authors := nameAuthors setFirst c.authors values }
  | .authorLast => { c with authors := nameAuthors setLast c.authors values }
  | .date => { c with date := values.head? }
  | .publishedIn => { c with publishedIn := values.head? }
  | .publishedBy => { c with publishedBy := values.head? }
  | .language => { c with language := values.head? }
  | .control => c

end Citation
end WebCitation
