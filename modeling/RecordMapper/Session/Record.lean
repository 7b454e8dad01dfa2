import RecordMapper.Session.Session

/-! # Records

A record is one instance of a model: its values, whether a row stands behind it, and how the last
operation on it went. Operations never fail outright; they leave their failure in the record.
-/

namespace RecordMapper

open Text

/-- Whether a row stands behind a record. -/
inductive Status
  /-- Not yet. -/
  | new
  /-- Yes. -/
  | persisted
  /-- No longer. -/
  | destroyed
deriving DecidableEq

/-- The word for a status. -/
def Status.name : Status → String
  | new => "new"
  | persisted => "persisted"
  | destroyed => "destroyed"

/-- One instance of a model. -/
structure Record where
  /-- The model, as it was when the record came up. -/
  model : Model
  /-- The values. -/
  values : Values
  /-- Whether a row stands behind it. -/
  status : Status
  /-- Why the last operation failed, if it did. -/
  error? : Option Error
deriving DecidableEq

namespace Record

/-- A record that is not in the database yet. -/
def ofValues (m : Model) (values : Values) : Record := ⟨m, values, .new, none⟩

/-- Casts what a row holds in a column to the type of the attribute, if the column is one. -/
def castColumn (m : Model) (entry : String × Value) : Except Error (String × Value) :=
  match m.attribute? entry.1 with
  | some a => (a.type.cast entry.2).map fun value => (entry.1, value)
  | none => .ok entry

/-- The record that a row stands for. Columns that are no attributes are kept as they are. -/
def ofRow (m : Model) (row : Row) : Except Error Record := do
  let entries ← row.entries.mapM (castColumn m)
  return ⟨m, .ofList entries, .persisted, none⟩

/-- The value of an attribute, if the record carries it. -/
def get? (r : Record) (name : String) : Option Value := r.values.get? name

/-- The record with a value changed. -/
def set (r : Record) (name : String) (value : Value) : Record :=
  { r with values := r.values.insert name value }

/-- The record with all the given values changed. -/
def assign (r : Record) (values : Values) : Record := { r with values := r.values.merge values }

/-- The value of the primary key, if there is one. -/
def key? (r : Record) : Option Value :=
  match r.values.get? r.model.primaryKey with
  | some key => if key.isNull then none else some key
  | none => none

/-- Whether the last operation went well. -/
def isOk (r : Record) : Bool := r.error?.isNone

/-- What to stop with if the last operation failed: the given message and the reason. -/
def complaint? (r : Record) (message : String) : Option String :=
  r.error?.map fun e => message ++ ": " ++ e.message

/-! ## Texts of records -/

/-- The text of a record: its model and its values, those of the catalog first. -/
def display (r : Record) : String :=
  let catalog := r.model.attributes.filterMap fun a =>
    (r.values.get? a.name).map fun value => (a.name, value)
  let extra := r.values.entries.filter fun entry => (r.model.attribute? entry.1).isNone
  let shown := (catalog ++ extra).map fun entry => entry.1 ++ ": " ++ entry.2.display
  "#<" ++ r.model.name ++ (if shown.isEmpty then "" else " " ++ ", ".intercalate shown) ++ ">"

/-- The shape of a record under inspection. -/
def shape (r : Record) : Shape :=
  .fields "Record" [("model", .text r.model.name), ("values", r.values.shape),
    ("status", .word (match r.status with
      | .new => "New"
      | .persisted => "Persisted"
      | .destroyed => "Destroyed")),
    ("error", .option (r.error?.map fun e => .word e.message))]

end Record

end RecordMapper
