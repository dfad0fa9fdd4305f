import WebCitation.Date.Reader
import WebCitation.Definition.Basic
import WebCitation.Step.Range

/-! Transformations: pure changes to the values that a procedure carries along. -/
namespace WebCitation

/-- What joins or splits values; never empty. -/
structure Separator where
  text : String
  nonempty : text ≠ ""
deriving DecidableEq, Repr

namespace Separator

def comma : Separator := ⟨",", by decide⟩

/-- An empty config stands for a comma. -/
def ofConfig (config : String) : Separator :=
  if h : config = "" then comma else ⟨config, h⟩

def join (sep : Separator) (values : List String) : String :=
  String.ofList (Text.join sep.text.toList (values.map String.toList))

theorem join_eq_intercalate (sep : Separator) (values : List String) : sep.join values = sep.text.intercalate values := by
  rw [← String.toList_inj, String.toList_intercalate, join, String.toList_ofList]
  rfl

def split (sep : Separator) (value : String) : List String := value.pieces sep.text

end Separator

structure RangeList where
  config : String
  ranges : List Range
  parsed : Range.parseList config = .ok ranges
deriving DecidableEq, Repr

namespace RangeList

def ofConfig (config : String) : Except ConfigError RangeList :=
  match h : Range.parseList config with
  | .ok ranges => .ok ⟨config, ranges, h⟩
  | .error e => .error (.invalidRange config e)

def select (l : RangeList) (values : List String) : List String :=
  l.ranges.flatMap (·.select values)

end RangeList

/-- What a transformation does to values. -/
inductive TransformationRule where
  | join (separator : Separator)
  | split (separator : Separator)
  | date (locale : Locale)
  | range (ranges : RangeList)
deriving DecidableEq, Repr

namespace TransformationRule

def type : TransformationRule → String
  | join _ => "join"
  | split _ => "split"
  | date _ => "date"
  | range _ => "range"

def config : TransformationRule → String
  | join separator | split separator => separator.text
  | date locale => locale.code
  | range ranges => ranges.config

/-- A blank locale is English. -/
def localeOfConfig (config : String) : Except ConfigError Locale :=
  let code := config.trimmed
  if code = "" then .ok .en else Locale.ofCode code

def ofConfig (type config : String) : Except ConfigError TransformationRule :=
  match type with
  | "join" => .ok (join (.ofConfig config))
  | "split" => .ok (split (.ofConfig config))
  | "date" => (localeOfConfig config).map date
  | "range" => (RangeList.ofConfig config).map range
  | _ => .error (.unknownStepType .transformation type)

/-- Whether the rule works on each value apart when its definition does not say. -/
def itemwiseDefault : TransformationRule → Bool
  | join _ | range _ => false
  | split _ | date _ => true

end TransformationRule

structure Transformation where
  rule : TransformationRule
  itemwise : Bool
deriving DecidableEq, Repr

namespace Transformation

def ofDefinition (d : Definition.Transformation) : Except ConfigError Transformation :=
  (TransformationRule.ofConfig d.type d.config).map fun rule =>
    ⟨rule, d.itemwise.getD rule.itemwiseDefault⟩

def toDefinition (t : Transformation) : Definition.Transformation :=
  ⟨t.rule.type, t.rule.config, some t.itemwise⟩

def withConfig (t : Transformation) (config : String) : Except ConfigError Transformation :=
  ofDefinition { t.toDefinition with config }

def withItemwise (t : Transformation) (itemwise : Bool) : Except ConfigError Transformation :=
  ofDefinition { t.toDefinition with itemwise := some itemwise }

/-- The date of a value in ISO form, or the value itself if it reads as no date. -/
def dateOrSelf (locale : Locale) (value : String) : String :=
  (DateReader.parse? locale value).getD value

/-- The values that a rule sees: as they come, or none if there are none, or all of them as one. -/
def gathered (itemwise : Bool) (values : List String) : List String :=
  if itemwise || values.isEmpty then values else [Separator.comma.join values]

def apply (t : Transformation) (values : List String) : List String :=
  match t.rule with
  | .join separator =>
    if t.itemwise then
      values.map fun value => separator.join (value.toList.map fun c => String.ofList [c])
    else [separator.join values]
  | .split separator => (gathered t.itemwise values).flatMap separator.split
  | .date locale => (gathered t.itemwise values).map (dateOrSelf locale)
  | .range ranges =>
    if t.itemwise then values.flatMap fun value => ranges.select [value]
    else ranges.select values

end Transformation
end WebCitation
