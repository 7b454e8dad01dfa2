import RecordMapper.Config.DatabaseConfig
import RecordMapper.Session.Context
import RecordMapper.Sql.Dialect

/-! # Dialogues with databases

What an operation asks of the outside world it asks openly: an operation is a dialogue, which either
is done or makes a request and goes on with the answer. Nothing is assumed about the answers, so a
statement about a dialogue holds for every database and every failure. `Dialogue.run` lets some
world answer.
-/

namespace RecordMapper

/-- A row of a result. -/
abbrev Row := OrderedMap Value

/-- The rows of a result that have not been taken yet. -/
structure Rows where
  /-- The rows, the next one first. -/
  remaining : List Row

/-- Takes the next row. -/
def Rows.next? (rows : Rows) : Option (Row × Rows) :=
  match rows.remaining with
  | [] => none
  | row :: rest => some (row, ⟨rest⟩)

/-- What a database says about a statement that it has run. -/
structure ExecResponse where
  /-- The number of rows that were changed. -/
  rowsAffected : Nat
  /-- The key that it gave to an inserted row. -/
  lastInsertKey? : Option Value
deriving DecidableEq

/-- An adapter: an open line to one database. -/
structure Adapter where
  /-- What tells it from all other adapters. -/
  id : Nat
  /-- What its database can do. -/
  capability : Capability
deriving DecidableEq

/-- What opens adapters. -/
inductive Driver
  /-- Opens SQLite databases. -/
  | sqlite
  /-- Opens databases of a dialect that answer from a script. -/
  | scripted (dialect : Dialect)
deriving DecidableEq

/-- What an operation can ask of the outside world. -/
inductive Request
  /-- Open a database. -/
  | connect (driver : Driver) (config : DatabaseConfig)
  /-- Run a statement. -/
  | exec (adapter : Adapter) (cx : Context) (sql : String) (params : List Value)
  /-- Run a statement that gives rows. -/
  | query (adapter : Adapter) (cx : Context) (sql : String) (params : List Value)
  /-- Close an adapter. -/
  | close (adapter : Adapter)

/-- What can be answered to a request. -/
abbrev Request.Answer : Request → Type
  | .connect _ _ => Except Error Adapter
  | .exec _ _ _ _ => Except Error ExecResponse
  | .query _ _ _ _ => Except Error (List Row)
  | .close _ => Except Error Unit

/-- An operation that may make requests before it is done. -/
inductive Dialogue (α : Type) : Type
  /-- The operation is done. -/
  | done (result : α)
  /-- It makes a request and goes on with the answer. -/
  | ask (request : Request) (next : request.Answer → Dialogue α)

namespace Dialogue

variable {α β σ : Type}

/-- One dialogue after the other; the second depends on the result of the first. -/
def bind : Dialogue α → (α → Dialogue β) → Dialogue β
  | done result, f => f result
  | ask request next, f => ask request fun answer => (next answer).bind f

instance : Monad Dialogue where
  pure := done
  bind := bind

/-- The dialogue of a single request. -/
def request (r : Request) : Dialogue r.Answer := ask r done

/-- Lets a world answer: its state is handed from request to request. -/
def run (answer : (r : Request) → σ → r.Answer × σ) : Dialogue α → σ → α × σ
  | done result, world => (result, world)
  | ask r next, world =>
    let (reply, world) := answer r world
    (next reply).run answer world

end Dialogue

end RecordMapper
