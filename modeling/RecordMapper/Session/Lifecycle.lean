import RecordMapper.Session.Record

/-! # The life of a record

A record is inserted once, may then be updated any number of times, and is destroyed at the end.
Each operation runs at most one statement. What a statement stored is written back into the record,
so that the record shows the values as they are in the row.
-/

namespace RecordMapper.Record

/-- The record with the given values written back. -/
def writeBack (r : Record) (entries : List (String × Value)) : Record :=
  { r with values := entries.foldl (fun acc entry => acc.insert entry.1 entry.2) r.values }

/-- The values that a statement stores in a row. -/
def storedValues : Sql.Statement → List (String × Value)
  | .insert i => i.row
  | .update u => u.assignments
  | _ => []

/-- The record with the key that the database gave to its row. Only an integer key that the record
does not have yet is taken over. -/
def takeKey (r : Record) (reported? : Option Value) : Except Error Record :=
  if r.key?.isSome then .ok r
  else match r.model.primaryKeyAttribute?, reported? with
    | some a, some reported =>
      if a.type = .integer then (a.type.cast reported).map (r.set a.name) else .ok r
    | _, _ => .ok r

/-- The error of inserting a record that is not new. -/
def notNew (r : Record) : Error :=
  .of (.compilation ("cannot insert a " ++ r.status.name ++ " `" ++ r.model.name ++ "` record"))

/-- The key of the row behind the record. -/
def persistedKey (r : Record) : Except Error Value :=
  match r.key? with
  | some key =>
    if r.status = .persisted then .ok key else .error (.of (.missingPrimaryKey r.model.name))
  | none => .error (.of (.missingPrimaryKey r.model.name))

/-- Leaves the outcome of an operation in the record. -/
def finish (outcome : Record × Except Error Unit) : Record :=
  match outcome with
  | (r, .ok ()) => { r with error? := none }
  | (r, .error e) => { r with error? := some e }

/-- Inserts the row of a new record. -/
def tryInsert (s : Session) (cx : Context) (r : Record) : Dialogue (Record × Except Error Unit) :=
  if r.status ≠ .new then return (r, .error r.notNew)
  else do
    match ← s.exec cx (.insert r.model.name r.values) with
    | .error e => return (r, .error e)
    | .ok (compiled, response) =>
      let stored := r.writeBack (storedValues compiled.statement)
      match stored.takeKey response.lastInsertKey? with
      | .error e => return (stored, .error e)
      | .ok keyed => return ({ keyed with status := .persisted }, .ok ())

/-- Writes the values of the record to its row. -/
def tryUpdate (s : Session) (cx : Context) (r : Record) : Dialogue (Record × Except Error Unit) :=
  match r.persistedKey with
  | .error e => return (r, .error e)
  | .ok key => do
    match ← s.exec cx (.update r.model.name key r.values) with
    | .error e => return (r, .error e)
    | .ok (compiled, _) => return (r.writeBack (storedValues compiled.statement), .ok ())

/-- Deletes the row of the record. -/
def tryDestroy (s : Session) (cx : Context) (r : Record) : Dialogue (Record × Except Error Unit) :=
  match r.persistedKey with
  | .error e => return (r, .error e)
  | .ok key => do
    match ← s.exec cx (.delete r.model.name key) with
    | .error e => return (r, .error e)
    | .ok _ => return ({ r with status := .destroyed }, .ok ())

/-- Inserts the row of a new record and notes how it went. -/
def insert (s : Session) (cx : Context) (r : Record) : Dialogue Record :=
  return finish (← r.tryInsert s cx)

/-- Writes the values of the record to its row and notes how it went. -/
def update (s : Session) (cx : Context) (r : Record) : Dialogue Record :=
  return finish (← r.tryUpdate s cx)

/-- Deletes the row of the record and notes how it went. -/
def destroy (s : Session) (cx : Context) (r : Record) : Dialogue Record :=
  return finish (← r.tryDestroy s cx)

/-- A new record with the given values, inserted. -/
def create (s : Session) (cx : Context) (m : Model) (values : Values) : Dialogue Record :=
  (ofValues m values).insert s cx

end RecordMapper.Record
