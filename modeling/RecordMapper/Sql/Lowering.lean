import RecordMapper.Query.Statement
import RecordMapper.Schema.Registry
import RecordMapper.Sql.Refusal
import RecordMapper.Sql.Statement

/-! # Lowering statements

A statement about a model is lowered to an SQL statement about its table. Lowering looks every name
up in the catalog of the model, casts every value to the type of its attribute, fills in defaults
and settles the joins. What it gives back no longer depends on the registry, and what it refuses
never reaches a database.
-/

namespace RecordMapper.Sql

/-- The attribute that a name stands for. -/
def known (m : Model) (name : String) : Except Error Attribute :=
  match m.attribute? name with
  | some a => .ok a
  | none => .error (Refusal.unknownAttribute name m.name).error

/-! ## Selecting -/

/-- Where the columns of a select are looked up: a model, and whether columns are written with its
table. -/
structure Scope where
  /-- The model. -/
  model : Model
  /-- Whether other tables are joined. -/
  qualified : Bool

/-- The column of an attribute. -/
def Scope.column (s : Scope) (a : Attribute) : Column :=
  if s.qualified then .qualified s.model.tableName a.name else ⟨none, a.name⟩

/-- The column of the attribute that a name stands for. -/
def Scope.lookup (s : Scope) (name : String) : Except Error Column :=
  (known s.model name).map s.column

/-- Lowers a condition. A value that is cast to nothing asks for its absence. -/
def Scope.condition (s : Scope) : Predicate → Except Error Condition
  | .equals name value => do
    let a ← known s.model name
    let cast ← a.type.cast value
    return if cast.isNull then .isNull (s.column a) else .equals (s.column a) cast
  | .raw fragment args =>
    if Fragment.placeholders fragment = args.length then .ok (.raw fragment args)
    else .error (Refusal.argumentCount fragment (Fragment.placeholders fragment) args.length).error

/-- Lowers an ordering. -/
def Scope.ordering (s : Scope) (o : OrderBy) : Except Error (Column × Direction) :=
  (s.lookup o.name).map fun column => (column, o.direction)

/-- Lowers the join along an association of the model. -/
def lowerJoin (r : Registry) (m : Model) (association : String) : Except Error Join := do
  let resolved ← r.resolve m association
  if resolved.target.name = m.name then throw (Refusal.joinOntoItself association m.name).error
  return {
    table := resolved.target.tableName
    left := .qualified resolved.target.tableName resolved.targetKey
    right := .qualified m.tableName resolved.ownerKey }

/-- Checks that the grouped and the selected names are the same, if there are grouped ones. -/
def checkGrouping (m : Model) (selected grouped : List String) : Except Error Unit :=
  match grouped with
  | [] => .ok ()
  | first :: _ => do
    if selected.isEmpty then throw (Refusal.groupingEverything m.name first).error
    grouped.forM fun name => do
      let _ ← known m name
      unless selected.contains name do throw (Refusal.groupedNotSelected name m.name).error
    selected.forM fun name =>
      unless grouped.contains name do throw (Refusal.selectedNotGrouped name m.name).error

/-- Lowers a query. Without selected names the whole catalog is selected. -/
def lowerQuery (r : Registry) (m : Model) (q : Query) : Except Error Select := do
  let joins ← q.joins.toList.mapM (lowerJoin r m)
  let scope : Scope := ⟨m, !joins.isEmpty⟩
  let columns ←
    if q.select.isEmpty then pure (m.attributes.map scope.column)
    else q.select.toList.mapM scope.lookup
  checkGrouping m q.select.toList q.group.toList
  let groupBy ← q.group.toList.mapM scope.lookup
  let filter ← q.filter.toList.mapM scope.condition
  let orderBy ← q.orderBy.toList.mapM scope.ordering
  return { table := m.tableName, columns, joins, filter, groupBy, orderBy, limit := q.limit }

/-! ## Changing rows -/

/-- Refuses a missing value for an attribute that must have one. -/
def checkPresence (m : Model) (a : Attribute) (value : Value) : Except Error Unit :=
  if value.isNull && !a.nullable then .error (Refusal.mustNotBeNull a.name m.name).error else .ok ()

/-- What an insert stores for an attribute: the given value or else the default, cast to its type. A
missing primary key is left to the database. -/
def storedValue (m : Model) (values : Values) (a : Attribute) :
    Except Error (Option (String × Value)) :=
  match values.get? a.name <|> a.default? with
  | none => .ok none
  | some given => do
    let value ← a.type.cast given
    if value.isNull && a.name == m.primaryKey then return none
    checkPresence m a value
    return some (a.name, value)

/-- Lowers the insertion of a record. Columns come in the order of the catalog. -/
def lowerInsert (m : Model) (values : Values) : Except Error Insert := do
  values.names.forM fun name => discard (known m name)
  let stored ← m.attributes.mapM (storedValue m values)
  let row := stored.filterMap id
  return { table := m.tableName, columns := row.map Prod.fst, values := row.map Prod.snd }

/-- The column and the value of the primary key. -/
def lowerKey (m : Model) (key : Value) : Except Error (String × Value) :=
  match m.primaryKeyAttribute? with
  | none => .error (.of (.missingPrimaryKey m.name))
  | some a =>
    if key.isNull then .error (.of (.missingPrimaryKey m.name))
    else (a.type.cast key).map fun value => (a.name, value)

/-- The column and the new value of an attribute that changes. -/
def assignment (m : Model) (entry : String × Value) : Except Error (String × Value) := do
  let a ← known m entry.1
  let value ← a.type.cast entry.2
  checkPresence m a value
  return (a.name, value)

/-- Lowers a change to the record with the given key. The key itself never changes. -/
def lowerUpdate (m : Model) (key : Value) (values : Values) : Except Error Update := do
  let key ← lowerKey m key
  let assignments ← (values.entries.filter fun entry => entry.1 ≠ m.primaryKey).mapM (assignment m)
  if assignments.isEmpty then throw (Refusal.nothingToAssign m.name).error
  return { table := m.tableName, assignments, key }

/-- Lowers the removal of the record with the given key. -/
def lowerDelete (m : Model) (key : Value) : Except Error Delete :=
  (lowerKey m key).map fun key => { table := m.tableName, key }

/-! ## Creating tables -/

/-- The column of an attribute in a new table. -/
def ColumnDefinition.ofAttribute (m : Model) (a : Attribute) : ColumnDefinition where
  name := a.name
  type := a.type
  notNull := !a.nullable
  primaryKey := a.name == m.primaryKey

/-- Lowers the creation of the table of a model. -/
def lowerCreateTable (m : Model) : CreateTable where
  table := m.tableName
  columns := m.attributes.map (ColumnDefinition.ofAttribute m)
  ifNotExists := true

/-! ## Statements -/

/-- Lowers a statement about a given model. -/
def lowerFor (r : Registry) (m : Model) : RecordMapper.Statement → Except Error Statement
  | .query q => (lowerQuery r m q).map .select
  | .insert _ values => (lowerInsert m values).map .insert
  | .update _ key values => (lowerUpdate m key values).map .update
  | .delete _ key => (lowerDelete m key).map .delete
  | .createTable _ => .ok (.createTable (lowerCreateTable m))

/-- Lowers a statement about the model that it names. -/
def lower (r : Registry) (s : RecordMapper.Statement) : Except Error Statement := do
  lowerFor r (← r.get s.model) s

end RecordMapper.Sql
