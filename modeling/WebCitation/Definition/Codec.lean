import WebCitation.Definition.Basic
import WebCitation.Json.Record

/-! The JSON of stored rules. Each shape has a reader and a writer. -/
namespace WebCitation.Definition

open Json

namespace Selection

def decode (j : Json) : Option Selection := do
  match ← slots? ["type", "config"] j with
  | [type, config] =>
    return ⟨← required string? type, ← withDefault "" string? config⟩
  | _ => none

def encode (d : Selection) : Json :=
  .object [("type", .string d.type), ("config", .string d.config)]

end Selection

namespace Transformation

def decode (j : Json) : Option Transformation := do
  match ← slots? ["type", "config", "itemwise"] j with
  | [type, config, itemwise] =>
    return ⟨← required string? type, ← withDefault "" string? config, ← nullable bool? itemwise⟩
  | _ => none

def encode (d : Transformation) : Json :=
  .object ([("type", .string d.type), ("config", .string d.config)]
    ++ optionalField "itemwise" .bool d.itemwise)

end Transformation

namespace Procedure

def decode (j : Json) : Option Procedure := do
  match ← slots? ["selections", "transformations"] j with
  | [selections, transformations] =>
    return ⟨← withDefault [] (listOf? Selection.decode) selections,
      ← withDefault [] (listOf? Transformation.decode) transformations⟩
  | _ => none

def encode (d : Procedure) : Json :=
  .object [("selections", .array (d.selections.map Selection.encode)),
    ("transformations", .array (d.transformations.map Transformation.encode))]

end Procedure

namespace Field

def decode (j : Json) : Option Field := do
  match ← slots? ["fieldname", "procedures", "required"] j with
  | [fieldname, procedures, required] =>
    return ⟨← Json.required string? fieldname,
      ← withDefault [] (listOf? Procedure.decode) procedures,
      ← withDefault false bool? required⟩
  | _ => none

def encode (d : Field) : Json :=
  .object [("fieldname", .string d.fieldname),
    ("procedures", .array (d.procedures.map Procedure.encode)),
    ("required", .bool d.required)]

end Field

namespace Template

def decode (j : Json) : Option Template := do
  match ← slots? ["path", "label", "fields"] j with
  | [path, label, fields] =>
    return ⟨← required string? path, ← nullable string? label,
      ← withDefault [] (listOf? Field.decode) fields⟩
  | _ => none

def encode (d : Template) : Json :=
  .object ([("path", .string d.path)] ++ optionalField "label" .string d.label
    ++ [("fields", .array (d.fields.map Field.encode))])

end Template

namespace Fallback

def decode (j : Json) : Option Fallback := do
  match ← slots? ["label", "fields"] j with
  | [label, fields] =>
    return ⟨← nullable string? label, ← withDefault [] (listOf? Field.decode) fields⟩
  | _ => none

def encode (d : Fallback) : Json :=
  .object (optionalField "label" .string d.label
    ++ [("fields", .array (d.fields.map Field.encode))])

end Fallback

namespace Pattern

def decode (j : Json) : Option Pattern := do
  match ← slots? ["pattern", "label"] j with
  | [pattern, label] => return ⟨← required string? pattern, ← nullable string? label⟩
  | _ => none

def encode (d : Pattern) : Json :=
  .object ([("pattern", .string d.pattern)] ++ optionalField "label" .string d.label)

end Pattern

namespace Goal

def decode (j : Json) : Option Goal := do
  match ← slots? ["fieldname", "goal"] j with
  | [fieldname, goal] =>
    return ⟨← required string? fieldname, ← withDefault [] (listOf? string?) goal⟩
  | _ => none

def encode (d : Goal) : Json :=
  .object [("fieldname", .string d.fieldname), ("goal", ofStrings d.goal)]

end Goal

namespace Test

def decode (j : Json) : Option Test := do
  match ← slots? ["path", "fields"] j with
  | [path, fields] =>
    return ⟨← required string? path, ← withDefault [] (listOf? Goal.decode) fields⟩
  | _ => none

def encode (d : Test) : Json :=
  .object [("path", .string d.path), ("fields", .array (d.fields.map Goal.encode))]

end Test

namespace Domain

def decode (j : Json) : Option Domain := do
  match ← slots? ["patterns", "templates", "tests"] j with
  | [patterns, templates, tests] =>
    return ⟨← withDefault [] (listOf? Pattern.decode) patterns,
      ← withDefault [] (listOf? Template.decode) templates,
      ← withDefault [] (listOf? Test.decode) tests⟩
  | _ => none

def encode (d : Domain) : Json :=
  .object [("patterns", .array (d.patterns.map Pattern.encode)),
    ("templates", .array (d.templates.map Template.encode)),
    ("tests", .array (d.tests.map Test.encode))]

end Domain

end WebCitation.Definition
