import RecordMapper.Session.Dialogue

/-! # Scripted databases

A world that answers requests without a database server. Adapters of scripted drivers write every
call into a log and answer from a script, so that a session can be tried out against any sequence of
replies. Adapters of SQLite open and close, but no statement reaches an engine.

A call first looks at its context, then at whether the adapter is closed.
-/

namespace RecordMapper

/-- A reply in a script. -/
inductive Reply
  /-- The call fails. -/
  | fail (error : Error)
  /-- The call succeeds. -/
  | answer (rowsAffected : Nat) (lastInsertKey? : Option Value) (rows : List Row)

/-- The reply when the script has ended: one row is changed and none is given. -/
def Reply.ended : Reply := .answer 1 none []

/-- A call in the log. -/
inductive Call
  /-- A statement. -/
  | exec (database sql : String) (params : List Value)
  /-- A statement that gives rows. -/
  | query (database sql : String) (params : List Value)
  /-- Closing. -/
  | close (database : String)
deriving DecidableEq

/-- An adapter of a scripted world. -/
structure Station where
  /-- What opened it. -/
  driver : Driver
  /-- The database that it was opened for. -/
  database : String
  /-- Whether it is closed. -/
  closed : Bool := false

/-- The state of a scripted world. -/
structure Script where
  /-- The adapters, by their number. -/
  stations : List Station := []
  /-- The contexts' tokens. -/
  cancellations : Cancellations := .empty
  /-- What the clock shows. -/
  now : Instant := 0
  /-- The replies that are left. -/
  replies : List Reply := []
  /-- The calls so far, the latest first. -/
  log : List Call := []

namespace Script

/-- The rest of a text after a marker at its start. -/
def after? (marker text : String) : Option String :=
  let (marker, text) := (marker.toList, text.toList)
  if marker.isPrefixOf text then some (String.ofList (text.drop marker.length)) else none

/-- The failure to connect with a plain message. -/
def unconnected (message : String) : Error := .of (.connectionFailed (.plain message))

/-- Opens an adapter. A scripted database called `refuse:` and a message refuses with that message.
-/
def connect (driver : Driver) (config : DatabaseConfig) (w : Script) :
    Except Error Adapter × Script :=
  let opened (dialect : Dialect) : Except Error Adapter × Script :=
    (.ok ⟨w.stations.length, .of dialect⟩,
      { w with stations := w.stations ++ [⟨driver, config.database, false⟩] })
  match driver with
  | .sqlite =>
    if config.database.isEmpty then
      (.error (.of (.invalidDatabaseConfig "sqlite requires a database path or `:memory:`")), w)
    else opened .sqlite
  | .scripted dialect =>
    match after? "refuse:" config.database with
    | some message => (.error (unconnected message), w)
    | none => opened dialect

/-- The next reply; the call that takes it goes into the log. -/
def take (w : Script) (call : Call) : Reply × Script :=
  let w := { w with log := call :: w.log }
  match w.replies with
  | [] => (.ended, w)
  | reply :: rest => (reply, { w with replies := rest })

/-- Makes a call, unless its context or its adapter has come to an end. -/
def call (w : Script) (adapter : Adapter) (cx : Context) (entry : String → Call) :
    Except Error Reply × Script :=
  match cx.check w.cancellations w.now, w.stations[adapter.id]? with
  | .error e, _ => (.error e, w)
  | .ok _, none => (.error (unconnected "connection closed"), w)
  | .ok _, some station =>
    if station.closed then (.error (unconnected "connection closed"), w)
    else match station.driver with
      | .sqlite => (.error (.of (.executionFailed ⟨"no engine", []⟩)), w)
      | .scripted _ =>
        match w.take (entry station.database) with
        | (.fail e, w) => (.error e, w)
        | (reply, w) => (.ok reply, w)

/-- Closes an adapter. A scripted database called `badclose:` and a message fails with that message
once it is closed. -/
def close (w : Script) (adapter : Adapter) : Except Error Unit × Script :=
  match w.stations[adapter.id]? with
  | none => (.ok (), w)
  | some station =>
    let w := { w with stations := w.stations.set adapter.id { station with closed := true } }
    match station.driver with
    | .sqlite => (.ok (), w)
    | .scripted _ =>
      let w := { w with log := .close station.database :: w.log }
      match after? "badclose:" station.database with
      | some message => (.error (unconnected message), w)
      | none => (.ok (), w)

/-- Answers a request. -/
def answer (r : Request) (w : Script) : r.Answer × Script :=
  match r with
  | .connect driver config => w.connect driver config
  | .exec adapter cx sql params =>
    let (reply, w) := w.call adapter cx fun database => .exec database sql params
    (reply.map fun
      | .answer rowsAffected lastInsertKey? _ => ⟨rowsAffected, lastInsertKey?⟩
      | .fail _ => ⟨0, none⟩, w)
  | .query adapter cx sql params =>
    let (reply, w) := w.call adapter cx fun database => .query database sql params
    (reply.map fun
      | .answer _ _ rows => rows
      | .fail _ => [], w)
  | .close adapter => w.close adapter

end Script

end RecordMapper
