import RecordMapper.Schema.Declaration
import RecordMapper.Schema.Registry
import RecordMapper.Session.Dialogue
import RecordMapper.Sql.Compile

/-! # Sessions

A session holds the models that are defined and the connections that are open, and runs statements:
a statement about a model goes to the connection that the model is bound to. Connections are known
by name. A handle on a connection stays with whoever got it; once its connection is replaced or
removed the handle is closed and of no more use.
-/

namespace RecordMapper

open Text

/-- A handle on a connection. -/
structure Connection where
  /-- What tells it from all other handles of the session. -/
  serial : Nat
  /-- The name under which it was opened. -/
  name : String
  /-- The adapter behind it. -/
  adapter : Adapter
deriving DecidableEq

/-- The dialect that the database speaks. -/
def Connection.dialect (c : Connection) : Dialect := c.adapter.capability.dialect

/-- The models that are defined and the connections that are open. -/
structure Session where
  /-- The models. -/
  registry : Registry := .empty
  /-- The open connections by name. -/
  connections : OrderedMap Connection := .empty
  /-- The drivers by kind of adapter. -/
  drivers : OrderedMap Driver
  /-- The number of handles given out. -/
  opened : Nat := 0
  /-- The serial numbers of the handles that are closed. -/
  closed : List Nat := []
deriving DecidableEq

namespace Session

/-- A session with the given drivers besides the one for SQLite, which goes first unless it is
replaced. -/
def withDrivers (drivers : List (String × Driver)) : Session where
  drivers := .ofList (("sqlite", .sqlite) :: drivers)

/-! ## Models -/

/-- Defines the model that a declaration describes. -/
def define (s : Session) (d : Declaration) : Except Error (Model × Session) := do
  let m ← d.build
  let registry ← s.registry.define m
  return (m, { s with registry })

/-- Forgets all models. -/
def reset (s : Session) : Session := { s with registry := .empty }

/-! ## Connections -/

/-- Whether a handle is closed. -/
def isClosed (s : Session) (c : Connection) : Bool := s.closed.contains c.serial

/-- The open connection of a name. -/
def connection (s : Session) (name : String) : Except Error Connection :=
  match s.connections.get? name with
  | some c => .ok c
  | none => .error (.of (.unknownConnection name))

/-- Closes a handle and its adapter. The handle is closed even if the adapter fails to. -/
def close (s : Session) (c : Connection) : Dialogue (Session × Except Error Unit) := do
  let s := { s with closed := c.serial :: s.closed }
  let reply ← Dialogue.request (.close c.adapter)
  return (s, reply)

/-- Opens a connection under a name. One that was open under the name is replaced and closed, and
how its closing goes is nobody's concern. If the new one cannot be opened everything stays as it
was. -/
def establish (s : Session) (name : String) (config : DatabaseConfig) :
    Dialogue (Session × Except Error Connection) :=
  match s.drivers.get? config.adapter with
  | none => return (s, .error (.of (.adapterUnknown config.adapter)))
  | some driver => do
    match ← Dialogue.request (.connect driver config) with
    | .error e => return (s, .error e)
    | .ok adapter =>
      let c : Connection := ⟨s.opened, name, adapter⟩
      let replaced := s.connections.get? name
      let s := { s with connections := s.connections.insert name c, opened := s.opened + 1 }
      match replaced with
      | none => return (s, .ok c)
      | some old =>
        let (s, _) ← s.close old
        return (s, .ok c)

/-- Removes the connection of a name, if there is one, and closes it. -/
def remove (s : Session) (name : String) : Dialogue (Session × Except Error Unit) :=
  match s.connections.get? name with
  | none => return (s, .ok ())
  | some c => { s with connections := s.connections.erase name }.close c

/-- Runs a statement on a handle, unless it is closed. -/
def execOn (s : Session) (c : Connection) (cx : Context) (sql : String) (params : List Value) :
    Dialogue (Except Error ExecResponse) :=
  if s.isClosed c then return .error (.of (.unknownConnection c.name))
  else Dialogue.request (.exec c.adapter cx sql params)

/-- Runs a statement that gives rows on a handle, unless it is closed. -/
def queryOn (s : Session) (c : Connection) (cx : Context) (sql : String) (params : List Value) :
    Dialogue (Except Error (List Row)) :=
  if s.isClosed c then return .error (.of (.unknownConnection c.name))
  else Dialogue.request (.query c.adapter cx sql params)

/-! ## Statements -/

/-- A statement made ready for the connection of its model. -/
structure Compiled where
  /-- The connection. -/
  connection : Connection
  /-- The lowered statement. -/
  statement : Sql.Statement
  /-- Its text in the dialect of the connection. -/
  sql : String
  /-- Its parameters. -/
  params : List Value
deriving DecidableEq

/-- Makes a statement ready: it is lowered first, and only then the connection is looked up. -/
def compile (s : Session) (stmt : Statement) : Except Error Compiled := do
  let lowered ← Sql.lower s.registry stmt
  let m ← s.registry.get stmt.model
  let c ← s.connection m.connection
  let (sql, params) := lowered.serialize c.dialect []
  return ⟨c, lowered, sql, params⟩

/-- The text and the parameters of a statement, in the dialect of SQLite if the connection of its
model is not open. -/
def toSql (s : Session) (stmt : Statement) : Except Error (String × List Value) := do
  let lowered ← Sql.lower s.registry stmt
  let m ← s.registry.get stmt.model
  let dialect := match s.connection m.connection with
    | .ok c => c.dialect
    | .error _ => .sqlite
  return lowered.serialize dialect []

/-- Runs a statement on the connection of its model. -/
def exec (s : Session) (cx : Context) (stmt : Statement) :
    Dialogue (Except Error (Compiled × ExecResponse)) :=
  match s.compile stmt with
  | .error e => return .error e
  | .ok compiled => do
    let reply ← s.execOn compiled.connection cx compiled.sql compiled.params
    return reply.map fun response => (compiled, response)

/-- Runs a statement that gives rows on the connection of its model. -/
def query (s : Session) (cx : Context) (stmt : Statement) : Dialogue (Except Error (List Row)) :=
  match s.compile stmt with
  | .error e => return .error e
  | .ok compiled => s.queryOn compiled.connection cx compiled.sql compiled.params

/-- Creates the tables of the given models, one after the other, up to the first failure. -/
def createTables (s : Session) (cx : Context) : List Model → Dialogue (Except Error Unit)
  | [] => return .ok ()
  | m :: rest => do
    match ← s.exec cx (.createTable m.name) with
    | .error e => return .error e
    | .ok _ => s.createTables cx rest

/-- Creates the tables of all models, in the order of their definition. -/
def pushSchema (s : Session) (cx : Context) : Dialogue (Except Error Unit) :=
  s.createTables cx s.registry.models

/-- The shape of a session under inspection. -/
def shape (s : Session) : Shape :=
  .fields "Db" [("models", .texts (s.registry.models.map Model.name)),
    ("connections", .texts s.connections.names), ("drivers", .texts s.drivers.names)]

end Session

end RecordMapper
