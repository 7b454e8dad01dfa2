import RecordMapper.Session.Record

/-! # Relations

A relation is a query together with the model whose records it gives. It can be refined like the
query and is run only when its records are asked for.
-/

namespace RecordMapper

open Text

/-- A query and the model whose records it gives. -/
structure Relation where
  /-- The model. -/
  model : Model
  /-- The query. -/
  query : Query
deriving DecidableEq

namespace Relation

/-- The relation of all records of a model. -/
def all (m : Model) : Relation := ⟨m, .all m.name⟩

/-- The relation after one more step. -/
def refine (r : Relation) (step : Refinement) : Relation := { r with query := r.query.refine step }

/-- The relation after a chain of steps. -/
def refineAll (r : Relation) (chain : List Refinement) : Relation := chain.foldl refine r

/-- The relation of the records of a model with a value. -/
def whereEquals (m : Model) (name : String) (value : Value) : Relation :=
  (all m).refine (.filter (.equals name value))

/-- The text and the parameters of the query. -/
def toSql (s : Session) (r : Relation) : Except Error (String × List Value) :=
  s.toSql (.query r.query)

/-- The records, in the order of the rows; one row that cannot be read spoils all. -/
def toList (s : Session) (cx : Context) (r : Relation) : Dialogue (Except Error (List Record)) := do
  let reply ← s.query cx (.query r.query)
  return reply.bind fun rows => rows.mapM (Record.ofRow r.model)

/-- The first record, if there is one. -/
def first (s : Session) (cx : Context) (r : Relation) :
    Dialogue (Except Error (Option Record)) := do
  let reply ← (r.refine (.limit 1)).toList s cx
  return reply.map List.head?

/-- The record of a model with the given key, if there is one. -/
def find (s : Session) (cx : Context) (m : Model) (key : Value) :
    Dialogue (Except Error (Option Record)) :=
  (whereEquals m m.primaryKey key).first s cx

/-- The text of a relation: that of its query, or why it has none. -/
def display (s : Session) (r : Relation) : String :=
  match r.toSql s with
  | .ok (sql, _) => sql
  | .error e => "#<invalid relation: " ++ e.message ++ ">"

/-- The shape of a relation under inspection. -/
def shape (r : Relation) : Shape :=
  .fields "Relation" [("model", .text r.model.name), ("query", r.query.shape)]

end Relation

end RecordMapper
