/-! The stored form of rules: selections, transformations, procedures, fields, templates, patterns
and tests, as communities write them. Nothing is checked here but the shape. -/
namespace WebCitation.Definition

structure Selection where
  type : String
  config : String
deriving DecidableEq, Repr, Inhabited

/-- A transformation without `itemwise` takes the default of its type. -/
structure Transformation where
  type : String
  config : String
  itemwise : Option Bool
deriving DecidableEq, Repr, Inhabited

structure Procedure where
  selections : List Selection
  transformations : List Transformation
deriving DecidableEq, Repr, Inhabited

structure Field where
  fieldname : String
  procedures : List Procedure
  required : Bool
deriving DecidableEq, Repr, Inhabited

structure Template where
  path : String
  label : Option String
  fields : List Field
deriving DecidableEq, Repr, Inhabited

structure Fallback where
  label : Option String
  fields : List Field
deriving DecidableEq, Repr, Inhabited

structure Pattern where
  pattern : String
  label : Option String
deriving DecidableEq, Repr, Inhabited

structure Goal where
  fieldname : String
  goal : List String
deriving DecidableEq, Repr, Inhabited

structure Test where
  path : String
  fields : List Goal
deriving DecidableEq, Repr, Inhabited

structure Domain where
  patterns : List Pattern
  templates : List Template
  tests : List Test
deriving DecidableEq, Repr, Inhabited

end WebCitation.Definition
