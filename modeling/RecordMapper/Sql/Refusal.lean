import RecordMapper.Error

/-! # Refusals

Why a statement does not make sense for its model. Every cause has one wording.
-/

namespace RecordMapper.Sql

/-- Why a statement does not make sense for its model. -/
inductive Refusal
  /-- A name that is no attribute of the model. -/
  | unknownAttribute (name model : String)
  /-- Grouping all attributes at once. -/
  | groupingEverything (model first : String)
  /-- A grouped attribute that is not selected. -/
  | groupedNotSelected (name model : String)
  /-- A selected attribute that is not grouped. -/
  | selectedNotGrouped (name model : String)
  /-- A join that leads back to the model itself. -/
  | joinOntoItself (association model : String)
  /-- A raw condition with too few or too many arguments. -/
  | argumentCount (fragment : String) (taken given : Nat)
  /-- A missing value for an attribute that must have one. -/
  | mustNotBeNull (name model : String)
  /-- An update without anything to change. -/
  | nothingToAssign (model : String)
deriving DecidableEq

namespace Refusal

/-- The wording of a refusal. -/
def message : Refusal → String
  | unknownAttribute name model => "unknown attribute `" ++ name ++ "` on model `" ++ model ++ "`"
  | groupingEverything model first =>
    "grouping model `" ++ model ++ "` by `" ++ first ++
      "` requires selecting the grouped attributes"
  | groupedNotSelected name model =>
    "grouped attribute `" ++ name ++ "` of model `" ++ model ++ "` is not selected"
  | selectedNotGrouped name model =>
    "selected attribute `" ++ name ++ "` of model `" ++ model ++ "` is not grouped"
  | joinOntoItself association model =>
    "cannot join association `" ++ association ++ "` of model `" ++ model ++ "` onto its own table"
  | argumentCount fragment taken given =>
    "`" ++ fragment ++ "` has " ++ toString taken ++ " placeholder(s) but " ++ toString given ++
      " argument(s) were given"
  | mustNotBeNull name model =>
    "attribute `" ++ name ++ "` of model `" ++ model ++ "` must not be null"
  | nothingToAssign model => "update of model `" ++ model ++ "` assigns no attributes"

/-- The error that a refusal raises. -/
def error (r : Refusal) : Error := .of (.compilation r.message)

end Refusal

end RecordMapper.Sql
