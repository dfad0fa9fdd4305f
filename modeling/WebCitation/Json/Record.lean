import WebCitation.Json.Basic

/-!
Records as JSON. A record is read from an object, where unknown keys are passed over, or from an array of
its values in the order of its columns, where the last ones may be missing.
-/
namespace WebCitation.Json

/-- The values in the columns of a record, each of them if it is there. -/
def slots? (columns : List String) : Json → Option (List (Option Json))
  | object fields => some (columns.map fun column => fields.lookup column)
  | array items =>
    if items.length ≤ columns.length then
      some (items.map some ++ List.replicate (columns.length - items.length) none)
    else none
  | _ => none

def required (read : Json → Option α) : Option Json → Option α
  | some j => read j
  | none => none

def withDefault (value : α) (read : Json → Option α) : Option Json → Option α
  | some j => read j
  | none => some value

def nullable (read : Json → Option α) : Option Json → Option (Option α)
  | some .null | none => some none
  | some j => (read j).map some

def listOf? (read : Json → Option α) : Json → Option (List α)
  | array items => items.mapM read
  | _ => none

/-- One of the given names, as a string or as an object with that name as its only key and no value. -/
def name? : Json → Option String
  | string s => some s
  | object [(key, null)] => some key
  | _ => none

def optionalField (key : String) (write : α → Json) : Option α → List (String × Json)
  | some a => [(key, write a)]
  | none => []

def ofStrings (items : List String) : Json := array (items.map string)

def ofOption (write : α → Json) : Option α → Json
  | some a => write a
  | none => null

end WebCitation.Json
