import RecordMapper.Query.Query

/-! # Statements

What can be asked of the records of a model. Statements speak of models and attributes; which table
and which columns these are is settled when a statement is lowered.
-/

namespace RecordMapper

/-- A statement about the records of one model, which is named first. -/
inductive Statement
  /-- Asks for records. -/
  | query (q : Query)
  /-- Adds a record. -/
  | insert (model : String) (values : Values)
  /-- Changes the record with the given key. -/
  | update (model : String) (key : Value) (values : Values)
  /-- Removes the record with the given key. -/
  | delete (model : String) (key : Value)
  /-- Creates the table. -/
  | createTable (model : String)

/-- The name of the model that a statement is about. -/
def Statement.model : Statement → String
  | query q => q.model
  | insert model _ => model
  | update model _ _ => model
  | delete model _ => model
  | createTable model => model

end RecordMapper
