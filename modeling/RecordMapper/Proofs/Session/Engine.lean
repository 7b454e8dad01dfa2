import RecordMapper.Proofs.Session.History
import RecordMapper.Proofs.Sql.Lowering

/-!
# What reaches a database

A statement is lowered first and then the connection of its model is looked up. What comes of this is its
verdict: an error, or the one call that is to be made. In every state that a session can get into the
verdict is carried out, by whatever operation the statement is behind, and the text that is shown without
running anything is the text that would be sent (`reached_conducts`).

That a connection in the table takes calls rests on the invariant of histories: its handle is open.
-/

namespace RecordMapper

/-- What is sent to a database. -/
structure Errand where
  adapter : Adapter
  sql : String
  params : List Value

/-- What is to come of a statement. -/
inductive Session.Verdict (s : Session) (stmt : Statement) : Except Error Errand → Prop
  | refused {e : Error} : Sql.lower s.registry stmt = .error e → Verdict s stmt (.error e)
  | unconnected {lowered : Sql.Statement} {m : Model} :
    Sql.lower s.registry stmt = .ok lowered → s.registry.get stmt.model = .ok m →
    s.connections.get? m.connection = none →
    Verdict s stmt (.error (.of (.unknownConnection m.connection)))
  | sent {m : Model} {c : Connection} {sql : String} {params : List Value} :
    s.registry.get stmt.model = .ok m → s.connections.get? m.connection = some c →
    Sql.compile s.registry stmt c.dialect = .ok (sql, params) →
    Verdict s stmt (.ok ⟨c.adapter, sql, params⟩)

def Mode.send (mode : Mode) (cx : Context) (errand : Errand) : Request :=
  mode.request errand.adapter cx errand.sql errand.params

/-- The dialogue fails without a request, or its only request is the one that the verdict asks for. -/
def Dialogue.Follows {α : Type} (d : Dialogue (Except Error α)) (mode : Mode) (cx : Context) :
    Except Error Errand → Prop
  | .error e => d = .done (.error e)
  | .ok errand => ∃ finish : (mode.send cx errand).Answer → Except Error α,
      d = .ask (mode.send cx errand) fun answer => .done (finish answer)

theorem Dialogue.Follows.map {α β : Type} {d : Dialogue (Except Error α)} {mode : Mode}
    {cx : Context} {verdict : Except Error Errand} (h : d.Follows mode cx verdict)
    {finish : Except Error α → Except Error β} (hfinish : ∀ e, finish (.error e) = .error e) :
    Dialogue.Follows (finish <$> d) mode cx verdict := by
  cases verdict with
  | error e =>
    replace h : d = .done (.error e) := h
    rw [h]
    exact congrArg Dialogue.done (hfinish e)
  | ok errand =>
    obtain ⟨rest, rfl⟩ := h
    exact ⟨fun answer => finish (rest answer), rfl⟩

namespace Session

variable {s : Session} {stmt : Statement} {verdict : Except Error Errand}

theorem exists_verdict (s : Session) (stmt : Statement) : ∃ verdict, s.Verdict stmt verdict := by
  cases hlower : Sql.lower s.registry stmt with
  | error e => exact ⟨_, .refused hlower⟩
  | ok lowered =>
    obtain ⟨m, hm, _⟩ := Sql.lower_eq_ok.mp hlower
    cases hc : s.connections.get? m.connection with
    | none => exact ⟨_, .unconnected hlower hm hc⟩
    | some c =>
      have hcompile : Sql.compile s.registry stmt c.dialect = .ok (lowered.serialize c.dialect []) :=
        map_eq_ok.mpr ⟨lowered, hlower, rfl⟩
      exact ⟨_, .sent hm hc hcompile⟩

/-- What the verdict is shows in how far making the statement ready comes. -/
theorem Verdict.compile (h : s.Verdict stmt verdict) :
    match verdict with
    | .error e => s.compile stmt = .error e
    | .ok errand => ∃ compiled name, s.compile stmt = .ok compiled ∧
        s.connections.get? name = some compiled.connection ∧
        errand = ⟨compiled.connection.adapter, compiled.sql, compiled.params⟩ := by
  cases h with
  | refused hlower =>
    show s.compile stmt = _
    unfold Session.compile
    rw [hlower]
    rfl
  | unconnected hlower hm hc =>
    show s.compile stmt = _
    unfold Session.compile Session.connection
    rw [hlower, hm]
    simp only [bind, Except.bind, hc]
  | @sent m c sql params hm hc hcompile =>
    obtain ⟨lowered, hlower, htext⟩ := map_eq_ok.mp hcompile
    exact ⟨⟨c, lowered, sql, params⟩, m.connection,
      compile_eq_ok.mpr ⟨hlower, ⟨m, hm, hc⟩, htext⟩, hc, rfl⟩

theorem Verdict.unique (h : s.Verdict stmt verdict) {other : Except Error Errand}
    (h' : s.Verdict stmt other) : other = verdict := by
  have hcompile := h.compile
  have hcompile' := h'.compile
  cases verdict with
  | error e =>
    cases other with
    | error e' =>
      rw [show s.compile stmt = .error e from hcompile] at hcompile'
      cases hcompile'
      rfl
    | ok errand =>
      obtain ⟨compiled, _, hready, _⟩ := hcompile'
      rw [show s.compile stmt = .error e from hcompile] at hready
      cases hready
  | ok errand =>
    obtain ⟨compiled, _, hready, _, rfl⟩ := hcompile
    cases other with
    | error e' =>
      rw [show s.compile stmt = .error e' from hcompile'] at hready
      cases hready
    | ok errand' =>
      obtain ⟨compiled', _, hready', _, rfl⟩ := hcompile'
      rw [hready] at hready'
      cases hready'
      rfl

/-- The text shown for a statement is the text sent, and there is one when lowering gives one. -/
theorem Verdict.toSql (h : s.Verdict stmt verdict) :
    (∀ errand, verdict = .ok errand → s.toSql stmt = .ok (errand.sql, errand.params)) ∧
      ∀ e, s.toSql stmt = .error e ↔ Sql.lower s.registry stmt = .error e := by
  unfold Session.toSql Session.connection
  cases h with
  | @refused e hlower =>
    rw [hlower]
    exact ⟨fun errand heq => (nomatch heq), fun e' => by simp [bind, Except.bind]⟩
  | unconnected hlower hm hc =>
    rw [hlower, hm]
    exact ⟨fun errand heq => (nomatch heq), fun e' => by simp [bind, Except.bind, pure, Except.pure]⟩
  | @sent m c sql params hm hc hcompile =>
    obtain ⟨lowered, hlower, htext⟩ := map_eq_ok.mp hcompile
    rw [hlower, hm]
    simp only [bind, Except.bind, hc, htext]
    refine ⟨fun errand heq => ?_, fun e => by simp [pure, Except.pure]⟩
    cases heq
    rfl

variable {cx : Context}

/-- A statement that was made ready is sent, where the connections in the table are open. -/
theorem exec_of_compile (hopen : ∀ name c, s.connections.get? name = some c → s.isClosed c = false)
    {compiled : Compiled} {name : String} (hcompile : s.compile stmt = .ok compiled)
    (hc : s.connections.get? name = some compiled.connection) :
    s.exec cx stmt = .ask (.exec compiled.connection.adapter cx compiled.sql compiled.params)
      fun reply => .done (reply.map fun response => (compiled, response)) := by
  unfold Session.exec Session.execOn
  rw [hcompile]
  simp only [hopen name _ hc, Bool.false_eq_true, if_false]
  rfl

theorem query_of_compile (hopen : ∀ name c, s.connections.get? name = some c → s.isClosed c = false)
    {compiled : Compiled} {name : String} (hcompile : s.compile stmt = .ok compiled)
    (hc : s.connections.get? name = some compiled.connection) :
    s.query cx stmt =
      .ask (.query compiled.connection.adapter cx compiled.sql compiled.params) .done := by
  unfold Session.query Session.queryOn
  rw [hcompile]
  simp only [hopen name _ hc, Bool.false_eq_true, if_false]
  rfl

theorem Verdict.follows (h : s.Verdict stmt verdict)
    (hopen : ∀ name c, s.connections.get? name = some c → s.isClosed c = false) (cx : Context)
    (mode : Mode) : (s.perform cx stmt mode).Follows mode cx verdict := by
  have hcompile := h.compile
  cases verdict with
  | error e =>
    replace hcompile : s.compile stmt = .error e := hcompile
    cases mode with
    | exec =>
      show s.exec cx stmt = _
      unfold Session.exec
      rw [hcompile]
      rfl
    | query =>
      show s.query cx stmt = _
      unfold Session.query
      rw [hcompile]
      rfl
  | ok errand =>
    obtain ⟨compiled, name, hcompile, hc, rfl⟩ := hcompile
    cases mode with
    | exec => exact ⟨_, exec_of_compile hopen hcompile hc⟩
    | query => exact ⟨_, query_of_compile hopen hcompile hc⟩

/-- Creating tables carries out the verdict on the first one and stops if that fails. -/
def PushesFirst (s : Session) (cx : Context) (m : Model) (rest : List Model) :
    Except Error Errand → Prop
  | .error e => s.createTables cx (m :: rest) = .done (.error e)
  | .ok errand => ∃ next, s.createTables cx (m :: rest) =
        .ask (.exec errand.adapter cx errand.sql errand.params) next ∧
      (∀ e, next (.error e) = .done (.error e)) ∧
      ∀ response, next (.ok response) = s.createTables cx rest

theorem Verdict.pushesFirst {m : Model} (h : s.Verdict (.createTable m.name) verdict)
    (hopen : ∀ name c, s.connections.get? name = some c → s.isClosed c = false) (cx : Context)
    (rest : List Model) : s.PushesFirst cx m rest verdict := by
  cases verdict with
  | error e =>
    have hexec : s.exec cx (.createTable m.name) = .done (.error e) := h.follows hopen cx .exec
    show s.createTables cx (m :: rest) = _
    rw [Session.createTables, hexec]
    rfl
  | ok errand =>
    obtain ⟨compiled, name, hcompile, hc, rfl⟩ := h.compile
    unfold PushesFirst
    rw [Session.createTables, exec_of_compile hopen hcompile hc]
    exact ⟨_, rfl, fun e => rfl, fun response => rfl⟩

/-- The verdict on a statement is carried out, however the statement comes to be run. -/
structure Conducts (s : Session) (cx : Context) (stmt : Statement)
    (verdict : Except Error Errand) : Prop where
  decided : s.Verdict stmt verdict
  unique : ∀ other, s.Verdict stmt other → other = verdict
  run : ∀ mode, (s.perform cx stmt mode).Follows mode cx verdict
  operation : ∀ (op : Operation) mode, op.States s mode stmt →
    (op.perform s cx).Follows mode cx verdict
  table : ∀ (m : Model) (rest : List Model), stmt = .createTable m.name →
    s.PushesFirst cx m rest verdict
  text : ∀ errand, verdict = .ok errand → s.toSql stmt = .ok (errand.sql, errand.params)
  /-- The text of a relation, too, is the text that its records are asked for with. -/
  relation : ∀ (r : Relation) errand, stmt = .query r.query → verdict = .ok errand →
    r.toSql s = .ok (errand.sql, errand.params)
  lowered : ∀ e, s.toSql stmt = .error e ↔ Sql.lower s.registry stmt = .error e

theorem Verdict.conducts (h : s.Verdict stmt verdict)
    (hopen : ∀ name c, s.connections.get? name = some c → s.isClosed c = false) (cx : Context) :
    s.Conducts cx stmt verdict where
  decided := h
  unique := fun _ h' => h.unique h'
  run := h.follows hopen cx
  operation := by
    intro op mode hstates
    obtain ⟨finish, hfinish, heq⟩ := hstates.passes cx
    rw [heq]
    exact (h.follows hopen cx mode).map hfinish
  table := by
    rintro m rest rfl
    exact h.pushesFirst hopen cx rest
  text := h.toSql.1
  relation := by
    rintro r errand rfl
    exact h.toSql.1 errand
  lowered := h.toSql.2

end Session

/-- However a session was used, each statement has one verdict and that is carried out; an operation
without a statement asks for nothing. -/
theorem History.reached_conducts {h : History} {drivers : List (String × Driver)}
    (reached : h.Reached drivers) (cx : Context) :
    (∀ stmt, ∃ verdict, h.session.Conducts cx stmt verdict) ∧
      ∀ op : Operation, op ≠ .pushSchema →
        (∃ mode stmt, op.States h.session mode stmt) ∨
          ∃ outcome, op.perform h.session cx = .done outcome := by
  refine ⟨fun stmt => ?_, fun op hpush => ?_⟩
  · obtain ⟨verdict, hverdict⟩ := h.session.exists_verdict stmt
    exact ⟨verdict, hverdict.conducts (fun _ _ => reached.sound.isClosed_of_get?) cx⟩
  · rcases Operation.exists_states_or_done h.session op hpush with hstates | ⟨outcome, hdone⟩
    · exact .inl hstates
    · exact .inr ⟨outcome, hdone cx⟩

namespace Bookshop

/-- Books are removed through the adapter that was opened last. -/
theorem reopened_conducts : reopened.Reached drivers ∧
    reopened.session.Verdict (.delete "book" (.int 7))
      (.ok ⟨adapter 1, "DELETE FROM \"books\" WHERE \"uid\" = $1;", [.int 7]⟩) ∧
    (∀ stmt, ∃ verdict, reopened.session.Conducts background stmt verdict) ∧
    ∀ op : Operation, op ≠ .pushSchema →
      (∃ mode stmt, op.States reopened.session mode stmt) ∨
        ∃ outcome, op.perform reopened.session background = .done outcome := by
  have hverdict : reopened.session.Verdict (.delete "book" (.int 7)) (.ok ⟨adapter 1, _, _⟩) :=
    .sent (m := book) (c := ⟨1, "primary", adapter 1⟩) rfl rfl rfl
  exact ⟨reached_reopened, hverdict, History.reached_conducts reached_reopened background⟩

end Bookshop

end RecordMapper
