import RecordMapper.Proofs.Outcome
import RecordMapper.Proofs.Session.Exchange
import RecordMapper.Session.Lifecycle
import RecordMapper.Session.Traversal

/-!
# Operations and the statements behind them

Whatever is done with relations, records and tables comes down to statements that the session runs.
`Operation` lists what can be done and `Operation.States` says which statement is behind it, if there is
one; creating tables alone runs several. An operation adds nothing to the run of its statement: it makes
no request of its own and passes errors on (`Operation.States.perform_eq`).
-/

namespace RecordMapper

/-- The adapter that a statement is sent to. -/
def Request.callee? : Request → Option Adapter
  | .exec adapter _ _ _ => some adapter
  | .query adapter _ _ _ => some adapter
  | .connect _ _ => none
  | .close _ => none

/-- How a statement is run: with rows asked for, or without. -/
inductive Mode
  | exec
  | query

namespace Mode

def request (mode : Mode) (adapter : Adapter) (cx : Context) (sql : String) (params : List Value) :
    Request :=
  match mode with
  | exec => .exec adapter cx sql params
  | query => .query adapter cx sql params

/-- What the run of a statement gives. -/
abbrev Reply : Mode → Type
  | exec => Session.Compiled × ExecResponse
  | query => List Row

end Mode

namespace Session

variable {s : Session} {cx : Context} {stmt : Statement} {c : Connection} {log : List Exchange}

/-- Runs a statement in one of the two ways. -/
def perform (s : Session) (cx : Context) (stmt : Statement) :
    (mode : Mode) → Dialogue (Except Error mode.Reply)
  | .exec => s.exec cx stmt
  | .query => s.query cx stmt

theorem connection_eq_ok {name : String} :
    s.connection name = .ok c ↔ s.connections.get? name = some c := by
  unfold connection
  cases s.connections.get? name with
  | none => simp
  | some other => simp

theorem compile_eq_ok {compiled : Compiled} :
    s.compile stmt = .ok compiled ↔
      Sql.lower s.registry stmt = .ok compiled.statement ∧
        (∃ m, s.registry.get stmt.model = .ok m ∧
          s.connections.get? m.connection = some compiled.connection) ∧
        compiled.statement.serialize compiled.connection.dialect [] =
          (compiled.sql, compiled.params) := by
  unfold compile
  simp only [bind_eq_ok, pure_eq_ok, connection_eq_ok]
  constructor
  · rintro ⟨lowered, hlower, m, hm, c, hc, rfl⟩
    exact ⟨hlower, ⟨m, hm, hc⟩, rfl⟩
  · rintro ⟨hlower, ⟨m, hm, hc⟩, htext⟩
    refine ⟨_, hlower, m, hm, _, hc, ?_⟩
    rw [htext]

theorem execOn_runs {sql : String} {params : List Value} {reply : Except Error ExecResponse} :
    (s.execOn c cx sql params).Runs log reply ↔
      (s.isClosed c = true ∧ log = [] ∧ reply = .error (.of (.unknownConnection c.name))) ∨
        (s.isClosed c = false ∧ log = [⟨.exec c.adapter cx sql params, reply⟩]) := by
  unfold execOn
  cases hclosed : s.isClosed c with
  | true => simp [Dialogue.runs_pure, eq_comm]
  | false => simpa using Dialogue.runs_request

theorem queryOn_runs {sql : String} {params : List Value} {reply : Except Error (List Row)} :
    (s.queryOn c cx sql params).Runs log reply ↔
      (s.isClosed c = true ∧ log = [] ∧ reply = .error (.of (.unknownConnection c.name))) ∨
        (s.isClosed c = false ∧ log = [⟨.query c.adapter cx sql params, reply⟩]) := by
  unfold queryOn
  cases hclosed : s.isClosed c with
  | true => simp [Dialogue.runs_pure, eq_comm]
  | false => simpa using Dialogue.runs_request

/-- A statement that is run makes one request, with the text that was compiled, or none and fails. -/
theorem exec_runs {reply : Except Error (Compiled × ExecResponse)}
    (h : (s.exec cx stmt).Runs log reply) :
    (log = [] ∧ ∃ e, reply = .error e) ∨
      ∃ compiled answer, s.compile stmt = .ok compiled ∧ s.isClosed compiled.connection = false ∧
        log = [⟨.exec compiled.connection.adapter cx compiled.sql compiled.params, answer⟩] ∧
        reply = answer.map fun response => (compiled, response) := by
  unfold exec at h
  cases hcompile : s.compile stmt with
  | error e =>
    rw [hcompile] at h
    obtain ⟨rfl, rfl⟩ := Dialogue.runs_pure.mp h
    exact .inl ⟨rfl, e, rfl⟩
  | ok compiled =>
    rw [hcompile] at h
    obtain ⟨answer, hrun, rfl⟩ := Dialogue.runs_map.mp h
    rcases execOn_runs.mp hrun with ⟨_, rfl, rfl⟩ | ⟨hopen, rfl⟩
    · exact .inl ⟨rfl, _, rfl⟩
    · exact .inr ⟨compiled, answer, rfl, hopen, rfl, rfl⟩

/-- A statement that is ready for an open connection makes its request, whatever is answered. -/
theorem exec_runs_iff {compiled : Compiled} {reply : Except Error (Compiled × ExecResponse)}
    (hcompile : s.compile stmt = .ok compiled) (hopen : s.isClosed compiled.connection = false) :
    (s.exec cx stmt).Runs log reply ↔ ∃ answer,
      log = [⟨.exec compiled.connection.adapter cx compiled.sql compiled.params, answer⟩] ∧
        reply = answer.map fun response => (compiled, response) := by
  unfold exec
  rw [hcompile]
  constructor
  · intro h
    obtain ⟨answer, hrun, rfl⟩ := Dialogue.runs_map.mp h
    rcases execOn_runs.mp hrun with ⟨hclosed, _⟩ | ⟨_, rfl⟩
    · rw [hopen] at hclosed
      cases hclosed
    · exact ⟨answer, rfl, rfl⟩
  · rintro ⟨answer, rfl, rfl⟩
    exact Dialogue.runs_map.mpr ⟨answer, execOn_runs.mpr (.inr ⟨hopen, rfl⟩), rfl⟩

theorem exec_runs_of_compile {compiled : Compiled} (hcompile : s.compile stmt = .ok compiled)
    (hopen : s.isClosed compiled.connection = false) (answer : Except Error ExecResponse) :
    (s.exec cx stmt).Runs
      [⟨.exec compiled.connection.adapter cx compiled.sql compiled.params, answer⟩]
      (answer.map fun response => (compiled, response)) :=
  (exec_runs_iff hcompile hopen).mpr ⟨answer, rfl, rfl⟩

/-- A statement for rows makes one request and gives what is answered, or none and fails. -/
theorem query_runs {reply : Except Error (List Row)} (h : (s.query cx stmt).Runs log reply) :
    (log = [] ∧ ∃ e, reply = .error e) ∨
      ∃ compiled, s.compile stmt = .ok compiled ∧ s.isClosed compiled.connection = false ∧
        log = [⟨.query compiled.connection.adapter cx compiled.sql compiled.params, reply⟩] := by
  unfold query at h
  cases hcompile : s.compile stmt with
  | error e =>
    rw [hcompile] at h
    obtain ⟨rfl, rfl⟩ := Dialogue.runs_pure.mp h
    exact .inl ⟨rfl, e, rfl⟩
  | ok compiled =>
    rw [hcompile] at h
    rcases queryOn_runs.mp h with ⟨_, rfl, rfl⟩ | ⟨hopen, rfl⟩
    · exact .inl ⟨rfl, _, rfl⟩
    · exact .inr ⟨compiled, rfl, hopen, rfl⟩

theorem query_runs_of_compile {compiled : Compiled} (hcompile : s.compile stmt = .ok compiled)
    (hopen : s.isClosed compiled.connection = false) (reply : Except Error (List Row)) :
    (s.query cx stmt).Runs
      [⟨.query compiled.connection.adapter cx compiled.sql compiled.params, reply⟩] reply := by
  unfold query
  rw [hcompile]
  exact queryOn_runs.mpr (.inr ⟨hopen, rfl⟩)

/-- The request sends a statement to a connection that is in the table and open. -/
def Reaches (s : Session) (r : Request) : Prop :=
  ∃ name c, s.connections.get? name = some c ∧ s.isClosed c = false ∧ r.callee? = some c.adapter

theorem exec_asks (s : Session) (cx : Context) (stmt : Statement) :
    (s.exec cx stmt).Asks s.Reaches := by
  intro log reply h x hx
  rcases exec_runs h with ⟨rfl, _⟩ | ⟨compiled, answer, hcompile, hopen, rfl, _⟩
  · cases hx
  · obtain ⟨_, ⟨m, _, hc⟩, _⟩ := compile_eq_ok.mp hcompile
    rw [List.mem_singleton.mp hx]
    exact ⟨m.connection, compiled.connection, hc, hopen, rfl⟩

theorem query_asks (s : Session) (cx : Context) (stmt : Statement) :
    (s.query cx stmt).Asks s.Reaches := by
  intro log reply h x hx
  rcases query_runs h with ⟨rfl, _⟩ | ⟨compiled, hcompile, hopen, rfl⟩
  · cases hx
  · obtain ⟨_, ⟨m, _, hc⟩, _⟩ := compile_eq_ok.mp hcompile
    rw [List.mem_singleton.mp hx]
    exact ⟨m.connection, compiled.connection, hc, hopen, rfl⟩

theorem perform_asks (s : Session) (cx : Context) (stmt : Statement) (mode : Mode) :
    (s.perform cx stmt mode).Asks s.Reaches := by
  cases mode with
  | exec => exact exec_asks s cx stmt
  | query => exact query_asks s cx stmt

theorem createTables_asks (s : Session) (cx : Context) (ms : List Model) :
    (s.createTables cx ms).Asks s.Reaches := by
  induction ms with
  | nil => exact Dialogue.asks_pure _
  | cons m rest ih =>
    refine (exec_asks s cx _).bind fun reply => ?_
    cases reply with
    | error e => exact Dialogue.asks_pure _
    | ok reply => exact ih

end Session

/-! ## Records after the answer -/

namespace Record

variable {s : Session} {cx : Context} {r : Record}

/-- How the last operation on a record went. -/
def outcome (r : Record) : Except Error Unit :=
  match r.error? with
  | none => .ok ()
  | some e => .error e

theorem outcome_finish (result : Record × Except Error Unit) :
    (finish result).outcome = result.2 := by
  obtain ⟨r, e | ⟨⟩⟩ := result
  · rfl
  · rfl

theorem outcome_eq_error {e : Error} : r.outcome = .error e ↔ r.error? = some e := by
  unfold outcome
  cases r.error? with
  | none => simp
  | some e' => simp

/-- What becomes of a record when its insertion is answered. -/
def inserted (r : Record) :
    Except Error (Session.Compiled × ExecResponse) → Record × Except Error Unit
  | .error e => (r, .error e)
  | .ok (compiled, response) =>
    let stored := r.writeBack (storedValues compiled.statement)
    match stored.takeKey response.lastInsertKey? with
    | .error e => (stored, .error e)
    | .ok keyed => ({ keyed with status := .persisted }, .ok ())

/-- What becomes of a record when its update is answered. -/
def updated (r : Record) :
    Except Error (Session.Compiled × ExecResponse) → Record × Except Error Unit
  | .error e => (r, .error e)
  | .ok (compiled, _) => (r.writeBack (storedValues compiled.statement), .ok ())

/-- What becomes of a record when its removal is answered. -/
def removed (r : Record) :
    Except Error (Session.Compiled × ExecResponse) → Record × Except Error Unit
  | .error e => (r, .error e)
  | .ok _ => ({ r with status := .destroyed }, .ok ())

theorem tryInsert_of_new (h : r.status = .new) :
    r.tryInsert s cx = r.inserted <$> s.exec cx (.insert r.model.name r.values) := by
  unfold tryInsert
  rw [if_neg (not_not_intro h)]
  refine congrArg (s.exec cx _ >>= ·) (funext fun reply => ?_)
  cases reply with
  | error e => rfl
  | ok reply =>
    simp only [Function.comp_apply, inserted]
    cases (r.writeBack (storedValues reply.1.statement)).takeKey reply.2.lastInsertKey? with
    | error e => rfl
    | ok keyed => rfl

theorem tryInsert_of_not_new (h : r.status ≠ .new) :
    r.tryInsert s cx = pure (r, .error r.notNew) :=
  if_pos h

theorem tryUpdate_of_key {key : Value} (h : r.persistedKey = .ok key) :
    r.tryUpdate s cx = r.updated <$> s.exec cx (.update r.model.name key r.values) := by
  unfold tryUpdate
  rw [h]
  refine congrArg (s.exec cx _ >>= ·) (funext fun reply => ?_)
  cases reply with
  | error e => rfl
  | ok reply => rfl

theorem tryUpdate_of_error {e : Error} (h : r.persistedKey = .error e) :
    r.tryUpdate s cx = pure (r, .error e) := by
  unfold tryUpdate
  rw [h]

theorem tryDestroy_of_key {key : Value} (h : r.persistedKey = .ok key) :
    r.tryDestroy s cx = r.removed <$> s.exec cx (.delete r.model.name key) := by
  unfold tryDestroy
  rw [h]
  refine congrArg (s.exec cx _ >>= ·) (funext fun reply => ?_)
  cases reply with
  | error e => rfl
  | ok reply => rfl

theorem tryDestroy_of_error {e : Error} (h : r.persistedKey = .error e) :
    r.tryDestroy s cx = pure (r, .error e) := by
  unfold tryDestroy
  rw [h]

end Record

/-! ## Operations -/

/-- What can be done with relations, records and tables. -/
inductive Operation
  | toList (r : Relation)
  | first (r : Relation)
  | find (m : Model) (key : Value)
  | association (r : Record) (name : String)
  | insert (r : Record)
  | update (r : Record)
  | destroy (r : Record)
  | pushSchema

namespace Operation

/-- Whether a result came out, whatever it is. -/
def settle {α : Type} (reply : Except Error α) : Except Error Unit := reply.map fun _ => ()

/-- Does the operation and tells how it went. -/
def perform (s : Session) (cx : Context) : Operation → Dialogue (Except Error Unit)
  | toList r => settle <$> r.toList s cx
  | first r => settle <$> r.first s cx
  | find m key => settle <$> Relation.find s cx m key
  | association r name => settle <$> r.association s cx name
  | insert r => Record.outcome <$> r.insert s cx
  | update r => Record.outcome <$> r.update s cx
  | destroy r => Record.outcome <$> r.destroy s cx
  | pushSchema => s.pushSchema cx

/-- The statement behind an operation and how it is run. -/
inductive States (s : Session) : Operation → Mode → Statement → Prop
  | toList (r : Relation) : States s (toList r) .query (.query r.query)
  | first (r : Relation) : States s (first r) .query (.query (r.refine (.limit 1)).query)
  | find (m : Model) (key : Value) : States s (find m key) .query
      (.query ((Relation.whereEquals m m.primaryKey key).refine (.limit 1)).query)
  | association {r : Record} {name : String} {resolved : ResolvedAssociation} {key : Value} :
      s.registry.resolve r.model name = .ok resolved → resolved.kind = .belongsTo →
      r.present? resolved.ownerKey = some key →
      States s (association r name) .query
        (.query ((Relation.whereEquals resolved.target resolved.targetKey key).refine
          (.limit 1)).query)
  | insert {r : Record} : r.status = .new →
      States s (insert r) .exec (.insert r.model.name r.values)
  | update {r : Record} {key : Value} : r.persistedKey = .ok key →
      States s (update r) .exec (.update r.model.name key r.values)
  | destroy {r : Record} {key : Value} : r.persistedKey = .ok key →
      States s (destroy r) .exec (.delete r.model.name key)

variable {s : Session} {cx : Context} {op : Operation} {mode : Mode} {stmt : Statement}

/-- The dialogue is the run of a statement, with its errors passed on. -/
def Passes (d : Dialogue (Except Error Unit)) (s : Session) (cx : Context) (stmt : Statement)
    (mode : Mode) : Prop :=
  ∃ finish : Except Error mode.Reply → Except Error Unit,
    (∀ e, finish (.error e) = .error e) ∧ d = finish <$> s.perform cx stmt mode

/-- How reading the records of a model goes. -/
def settleRows (m : Model) (reply : Except Error (List Row)) : Except Error Unit :=
  settle (reply.bind fun rows => rows.mapM (Record.ofRow m))

theorem settle_toList (s : Session) (cx : Context) (r : Relation) :
    settle <$> r.toList s cx = settleRows r.model <$> s.query cx (.query r.query) := by
  show settle <$> (_ <$> s.query cx (.query r.query)) = _
  rw [Functor.map_map]
  rfl

theorem settle_first (s : Session) (cx : Context) (r : Relation) : settle <$> r.first s cx =
    settleRows r.model <$> s.query cx (.query (r.refine (.limit 1)).query) := by
  have htoList := settle_toList s cx (r.refine (.limit 1))
  rw [show settleRows r.model = settleRows (r.refine (.limit 1)).model from rfl, ← htoList]
  show settle <$> (_ <$> (r.refine (.limit 1)).toList s cx) = _
  rw [Functor.map_map]
  refine congrArg (· <$> _) (funext fun reply => ?_)
  cases reply <;> rfl

theorem settle_association (s : Session) (cx : Context) {r : Record} {name : String}
    {resolved : ResolvedAssociation} {key : Value}
    (hresolve : s.registry.resolve r.model name = .ok resolved)
    (hkind : resolved.kind = .belongsTo) (hkey : r.present? resolved.ownerKey = some key) :
    settle <$> r.association s cx name = settleRows resolved.target <$> s.query cx
      (.query ((Relation.whereEquals resolved.target resolved.targetKey key).refine
        (.limit 1)).query) := by
  unfold Record.association
  simp only [hresolve, hkind, hkey]
  exact settle_first s cx _

theorem passes_rows {d : Dialogue (Except Error Unit)} {m : Model}
    (h : d = settleRows m <$> s.query cx stmt) : Passes d s cx stmt .query :=
  ⟨settleRows m, fun _ => rfl, h⟩

/-- The outcome of an operation on a record is that of its statement or of what is done after it. -/
theorem passes_exec {d : Dialogue (Record × Except Error Unit)}
    {next : Except Error (Session.Compiled × ExecResponse) → Record × Except Error Unit}
    (hnext : ∀ e, (next (.error e)).2 = .error e) (hd : d = next <$> s.exec cx stmt) :
    Passes (Record.outcome <$> Record.finish <$> d) s cx stmt .exec := by
  refine ⟨fun reply => (next reply).2, hnext, ?_⟩
  rw [hd, Functor.map_map, Functor.map_map]
  exact congrArg (· <$> _) (funext fun reply => Record.outcome_finish _)

/-- An operation with a statement behind it is the run of that statement. -/
theorem States.passes (h : op.States s mode stmt) (cx : Context) :
    Passes (op.perform s cx) s cx stmt mode := by
  cases h with
  | toList r => exact passes_rows (settle_toList s cx r)
  | first r => exact passes_rows (settle_first s cx r)
  | find m key => exact passes_rows (settle_first s cx _)
  | association hresolve hkind hkey =>
    exact passes_rows (settle_association s cx hresolve hkind hkey)
  | insert hstatus => exact passes_exec (fun _ => rfl) (Record.tryInsert_of_new hstatus)
  | update hkey => exact passes_exec (fun _ => rfl) (Record.tryUpdate_of_key hkey)
  | destroy hkey => exact passes_exec (fun _ => rfl) (Record.tryDestroy_of_key hkey)

theorem perform_of_try {d : Dialogue (Record × Except Error Unit)} {r : Record} {e : Error}
    (h : d = pure (r, .error e)) :
    Record.outcome <$> Record.finish <$> d = .done (.error e) := by
  rw [h]
  rfl

/-- An operation without a statement behind it is done at once, creating tables apart. -/
theorem exists_states_or_done (s : Session) (op : Operation) (hpush : op ≠ pushSchema) :
    (∃ mode stmt, op.States s mode stmt) ∨ ∃ outcome, ∀ cx, op.perform s cx = .done outcome := by
  cases op with
  | toList r => exact .inl ⟨_, _, .toList r⟩
  | first r => exact .inl ⟨_, _, .first r⟩
  | find m key => exact .inl ⟨_, _, .find m key⟩
  | pushSchema => exact absurd rfl hpush
  | association r name =>
    cases hresolve : s.registry.resolve r.model name with
    | error e =>
      refine .inr ⟨.error e, fun cx => ?_⟩
      simp only [perform, Record.association, hresolve]
      rfl
    | ok resolved =>
      cases hkind : resolved.kind with
      | hasMany =>
        refine .inr ⟨.error (r.notBelongsTo name), fun cx => ?_⟩
        simp only [perform, Record.association, hresolve, hkind, if_true]
        rfl
      | belongsTo =>
        cases hkey : r.present? resolved.ownerKey with
        | some key => exact .inl ⟨_, _, .association hresolve hkind hkey⟩
        | none =>
          refine .inr ⟨.ok (), fun cx => ?_⟩
          simp only [perform, Record.association, hresolve, hkind, hkey]
          rfl
  | insert r =>
    by_cases h : r.status = .new
    · exact .inl ⟨_, _, .insert h⟩
    · exact .inr ⟨.error r.notNew, fun cx => perform_of_try (Record.tryInsert_of_not_new h)⟩
  | update r =>
    cases h : r.persistedKey with
    | ok key => exact .inl ⟨_, _, .update h⟩
    | error e => exact .inr ⟨.error e, fun cx => perform_of_try (Record.tryUpdate_of_error h)⟩
  | destroy r =>
    cases h : r.persistedKey with
    | ok key => exact .inl ⟨_, _, .destroy h⟩
    | error e => exact .inr ⟨.error e, fun cx => perform_of_try (Record.tryDestroy_of_error h)⟩

theorem perform_asks (s : Session) (cx : Context) (op : Operation) :
    (op.perform s cx).Asks s.Reaches := by
  by_cases hpush : op = pushSchema
  · rw [hpush]
    exact s.createTables_asks cx _
  · rcases exists_states_or_done s op hpush with ⟨mode, stmt, h⟩ | ⟨outcome, h⟩
    · obtain ⟨finish, _, heq⟩ := h.passes cx
      rw [heq]
      exact (s.perform_asks cx stmt mode).map
    · rw [h cx]
      exact Dialogue.asks_pure outcome

end Operation

end RecordMapper
