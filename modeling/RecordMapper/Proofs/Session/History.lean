import RecordMapper.Proofs.Schema.Catalog
import RecordMapper.Proofs.Session.Operations

/-!
# Histories of sessions

A history is what has become of a session: its state, the handles that were given out and all that was
asked of the world, with the answers. It grows by one action after the other, with whatever answers.

`Step.effect` says once what an action can do to the connections: most actions leave them alone, one
connection is opened, replaced or removed by the others. Every invariant is preserved by these four
effects and nothing else is looked at. The first invariant, `Sound`, ties the table to the handles and
to the numbers of the closed ones.
-/

namespace RecordMapper

/-! ## Openings and closings -/

/-- The adapter that was opened. -/
def Exchange.opened? : Exchange → Option Adapter
  | ⟨.connect _ _, .ok adapter⟩ => some adapter
  | ⟨.connect _ _, .error _⟩ => none
  | ⟨.exec _ _ _ _, _⟩ => none
  | ⟨.query _ _ _ _, _⟩ => none
  | ⟨.close _, _⟩ => none

/-- The adapter that was closed, however that went. -/
def Exchange.closed? : Exchange → Option Adapter
  | ⟨.close adapter, _⟩ => some adapter
  | ⟨.connect _ _, _⟩ => none
  | ⟨.exec _ _ _ _, _⟩ => none
  | ⟨.query _ _ _ _, _⟩ => none

/-- The adapters that were opened, the first one first. -/
def openings (log : List Exchange) : List Adapter := log.filterMap Exchange.opened?

/-- The adapters that were closed, the first one first. -/
def closings (log : List Exchange) : List Adapter := log.filterMap Exchange.closed?

theorem openings_append (log log' : List Exchange) :
    openings (log ++ log') = openings log ++ openings log' :=
  List.filterMap_append

theorem closings_append (log log' : List Exchange) :
    closings (log ++ log') = closings log ++ closings log' :=
  List.filterMap_append

/-! ## Changes of the table -/

namespace Session

variable {s s' : Session} {name : String} {config : DatabaseConfig} {log : List Exchange}

/-- The handle that is given out next. -/
def nextHandle (s : Session) (name : String) (adapter : Adapter) : Connection :=
  ⟨s.opened, name, adapter⟩

def register (s : Session) (name : String) (adapter : Adapter) : Session :=
  { s with
    connections := s.connections.insert name (s.nextHandle name adapter)
    opened := s.opened + 1 }

def unregister (s : Session) (name : String) : Session :=
  { s with connections := s.connections.erase name }

def retire (s : Session) (c : Connection) : Session := { s with closed := c.serial :: s.closed }

theorem isClosed_eq_true {c : Connection} : s.isClosed c = true ↔ c.serial ∈ s.closed :=
  List.contains_iff_mem

theorem isClosed_eq_false {c : Connection} : s.isClosed c = false ↔ c.serial ∉ s.closed := by
  rw [← isClosed_eq_true, Bool.not_eq_true]

theorem establish_runs {result : Except Error Connection}
    (h : (s.establish name config).Runs log (s', result)) :
    (∃ e, s' = s ∧ result = .error e ∧
      ((s.drivers.get? config.adapter = none ∧ e = .of (.adapterUnknown config.adapter) ∧
          log = []) ∨
        ∃ driver, s.drivers.get? config.adapter = some driver ∧
          log = [⟨.connect driver config, .error e⟩])) ∨
      ∃ driver adapter, result = .ok (s.nextHandle name adapter) ∧
        ((s.connections.get? name = none ∧ s' = s.register name adapter ∧
            log = [⟨.connect driver config, .ok adapter⟩]) ∨
          ∃ old reply, s.connections.get? name = some old ∧
            s' = (s.register name adapter).retire old ∧
            log = [⟨.connect driver config, .ok adapter⟩, ⟨.close old.adapter, reply⟩]) := by
  unfold establish at h
  cases hdriver : s.drivers.get? config.adapter with
  | none =>
    rw [hdriver] at h
    obtain ⟨rfl, heq⟩ := Dialogue.runs_pure.mp h
    cases heq
    exact .inl ⟨_, rfl, rfl, .inl ⟨rfl, rfl, rfl⟩⟩
  | some driver =>
    rw [hdriver] at h
    obtain ⟨first, answer, second, rfl, hconnect, hrest⟩ := Dialogue.runs_bind.mp h
    rw [Dialogue.runs_request.mp hconnect]
    cases answer with
    | error e =>
      obtain ⟨rfl, heq⟩ := Dialogue.runs_pure.mp hrest
      cases heq
      exact .inl ⟨e, rfl, rfl, .inr ⟨driver, rfl, rfl⟩⟩
    | ok adapter =>
      refine .inr ⟨driver, adapter, ?_⟩
      cases hold : s.connections.get? name with
      | none =>
        rw [hold] at hrest
        obtain ⟨rfl, heq⟩ := Dialogue.runs_pure.mp hrest
        cases heq
        exact ⟨rfl, .inl ⟨rfl, rfl, rfl⟩⟩
      | some old =>
        rw [hold] at hrest
        obtain ⟨asked, closed, last, rfl, hclose, hlast⟩ := Dialogue.runs_bind.mp hrest
        obtain ⟨rfl, heq⟩ := Dialogue.runs_pure.mp hlast
        cases heq
        obtain ⟨reply, hreply, rfl⟩ := Dialogue.runs_map.mp hclose
        rw [Dialogue.runs_request.mp hreply]
        exact ⟨rfl, .inr ⟨old, reply, rfl, rfl, rfl⟩⟩

theorem remove_runs {result : Except Error Unit} (h : (s.remove name).Runs log (s', result)) :
    (s.connections.get? name = none ∧ s' = s ∧ log = []) ∨
      ∃ old, s.connections.get? name = some old ∧ s' = (s.unregister name).retire old ∧
        log = [⟨.close old.adapter, result⟩] := by
  unfold remove at h
  cases hold : s.connections.get? name with
  | none =>
    rw [hold] at h
    obtain ⟨rfl, heq⟩ := Dialogue.runs_pure.mp h
    cases heq
    exact .inl ⟨rfl, rfl, rfl⟩
  | some old =>
    rw [hold] at h
    obtain ⟨reply, hreply, heq⟩ := Dialogue.runs_map.mp h
    cases heq
    rw [Dialogue.runs_request.mp hreply]
    exact .inr ⟨old, rfl, rfl, rfl⟩

theorem define_connections {d : Declaration} {m : Model} (h : s.define d = .ok (m, s')) :
    s'.connections = s.connections ∧ s'.opened = s.opened ∧ s'.closed = s.closed := by
  unfold define at h
  simp only [bind_eq_ok, pure_eq_ok, Prod.mk.injEq] at h
  obtain ⟨_, _, _, _, _, rfl⟩ := h
  exact ⟨rfl, rfl, rfl⟩

end Session

/-! ## Actions and histories -/

/-- What can be done with a session and the handles that it gave out. -/
inductive Action
  | define (d : Declaration)
  | reset
  | establish (name : String) (config : DatabaseConfig)
  | remove (name : String)
  | lookup (name : String)
  | exec (c : Connection) (cx : Context) (sql : String) (params : List Value)
  | query (c : Connection) (cx : Context) (sql : String) (params : List Value)
  | operate (cx : Context) (op : Operation)

namespace Action

/-- The handle that must have been given out before. -/
def handle? : Action → Option Connection
  | exec c _ _ _ | query c _ _ _ => some c
  | define _ | reset | establish _ _ | remove _ | lookup _ | operate _ _ => none

/-- The name whose connection may change. -/
def name? : Action → Option String
  | establish name _ | remove name => some name
  | define _ | reset | lookup _ | exec _ _ _ _ | query _ _ _ _ | operate _ _ => none

/-- Does the action: the session after it and the handle that it gives out. -/
def perform (s : Session) : Action → Dialogue (Session × Option Connection)
  | define d =>
    match s.define d with
    | .ok (_, s') => pure (s', none)
    | .error _ => pure (s, none)
  | reset => pure (s.reset, none)
  | establish name config =>
    (fun result => (result.1, result.2.toOption)) <$> s.establish name config
  | remove name => (fun result => (result.1, none)) <$> s.remove name
  | lookup name => pure (s, (s.connection name).toOption)
  | exec c cx sql params => (fun _ => (s, none)) <$> s.execOn c cx sql params
  | query c cx sql params => (fun _ => (s, none)) <$> s.queryOn c cx sql params
  | operate cx op => (fun _ => (s, none)) <$> op.perform s cx

end Action

/-- What has become of a session. -/
structure History where
  session : Session
  /-- The handles that were given out. -/
  handles : List Connection
  /-- What was asked and answered. -/
  log : List Exchange

namespace History

/-- Nothing has been done with the session. -/
def start (drivers : List (String × Driver)) : History := ⟨.withDrivers drivers, [], []⟩

/-- One action, with any answers. Only handles that were given out can be used. -/
inductive Step (h : History) (action : Action) : History → Prop
  | intro (log : List Exchange) (s : Session) (given : Option Connection)
    (held : ∀ c, action.handle? = some c → c ∈ h.handles)
    (runs : (action.perform h.session).Runs log (s, given)) :
    Step h action ⟨s, h.handles ++ given.toList, h.log ++ log⟩

/-- What any number of actions can lead to. -/
inductive Reached (drivers : List (String × Driver)) : History → Prop
  | start : Reached drivers (start drivers)
  | step {h h' : History} {action : Action} :
    Reached drivers h → h.Step action h' → Reached drivers h'

/-- The tie between the table, the handles and the numbers of the closed ones. -/
structure Sound (h : History) : Prop where
  serial_lt : ∀ c ∈ h.handles, c.serial < h.session.opened
  serial_inj : ∀ c ∈ h.handles, ∀ c' ∈ h.handles, c.serial = c'.serial → c = c'
  registered : ∀ name c, h.session.connections.get? name = some c → c ∈ h.handles ∧ c.name = name
  closed_lt : ∀ n ∈ h.session.closed, n < h.session.opened
  open_iff : ∀ c ∈ h.handles,
    h.session.isClosed c = false ↔ h.session.connections.get? c.name = some c

/-- The exchange opens and closes nothing, and a statement goes to an open handle. -/
structure Quiet (h : History) (x : Exchange) : Prop where
  opened : x.opened? = none
  closed : x.closed? = none
  callee : ∀ a, x.request.callee? = some a →
    ∃ c ∈ h.handles, h.session.isClosed c = false ∧ c.adapter = a

/-- What an action can do to the connections. -/
inductive Effect (h : History) (action : Action) : History → Prop
  | quiet {s : Session} {given : List Connection} {log : List Exchange} :
    s.connections = h.session.connections → s.opened = h.session.opened →
    s.closed = h.session.closed → (∀ c ∈ given, c ∈ h.handles) → (∀ x ∈ log, h.Quiet x) →
    Effect h action ⟨s, h.handles ++ given, h.log ++ log⟩
  | opened {name : String} {adapter : Adapter} {driver : Driver} {config : DatabaseConfig} :
    action.name? = some name → h.session.connections.get? name = none →
    Effect h action ⟨h.session.register name adapter,
      h.handles ++ [h.session.nextHandle name adapter],
      h.log ++ [⟨.connect driver config, .ok adapter⟩]⟩
  | replaced {name : String} {adapter : Adapter} {driver : Driver} {config : DatabaseConfig}
    {old : Connection} {reply : Except Error Unit} :
    action.name? = some name → h.session.connections.get? name = some old →
    Effect h action ⟨(h.session.register name adapter).retire old,
      h.handles ++ [h.session.nextHandle name adapter],
      h.log ++ [⟨.connect driver config, .ok adapter⟩, ⟨.close old.adapter, reply⟩]⟩
  | removed {name : String} {old : Connection} {reply : Except Error Unit} :
    action.name? = some name → h.session.connections.get? name = some old →
    Effect h action ⟨(h.session.unregister name).retire old, h.handles,
      h.log ++ [⟨.close old.adapter, reply⟩]⟩

variable {h h' : History} {action : Action}

/-! ## What a step does -/

theorem quiet_of_callee {x : Exchange} {c : Connection} (hc : c ∈ h.handles)
    (hopen : h.session.isClosed c = false) (hx : x.request.callee? = some c.adapter) :
    h.Quiet x := by
  have callee : ∀ a, x.request.callee? = some a →
      ∃ c ∈ h.handles, h.session.isClosed c = false ∧ c.adapter = a := by
    intro a ha
    rw [hx] at ha
    exact ⟨c, hc, hopen, Option.some.inj ha⟩
  obtain ⟨request, answer⟩ := x
  cases request with
  | connect driver config => cases hx
  | exec adapter cx sql params => exact ⟨rfl, rfl, callee⟩
  | query adapter cx sql params => exact ⟨rfl, rfl, callee⟩
  | close adapter => cases hx

theorem Sound.isClosed_of_get? (hsound : h.Sound) {name : String} {c : Connection}
    (hc : h.session.connections.get? name = some c) : h.session.isClosed c = false := by
  obtain ⟨hmem, hname⟩ := hsound.registered name c hc
  rw [hsound.open_iff c hmem, hname]
  exact hc

theorem quiet_of_reaches (hsound : h.Sound) {x : Exchange} (hx : h.session.Reaches x.request) :
    h.Quiet x := by
  obtain ⟨name, c, hc, hopen, hcallee⟩ := hx
  exact quiet_of_callee (hsound.registered name c hc).1 hopen hcallee

theorem quiet_refused (driver : Driver) (config : DatabaseConfig) (e : Error) :
    h.Quiet ⟨.connect driver config, .error e⟩ where
  opened := rfl
  closed := rfl
  callee := by
    intro a ha
    cases ha

/-- An action that gives out no handle and whose exchanges are quiet. -/
theorem Effect.of_quiet {log : List Exchange} (hlog : ∀ x ∈ log, h.Quiet x) :
    h.Effect action ⟨h.session, h.handles ++ [], h.log ++ log⟩ :=
  .quiet rfl rfl rfl (List.forall_mem_nil _) hlog

/-- An action that asks for nothing and leaves the connections alone. -/
theorem Effect.of_connections {s : Session} (hconnections : s.connections = h.session.connections)
    (hopened : s.opened = h.session.opened) (hclosed : s.closed = h.session.closed) :
    h.Effect action ⟨s, h.handles ++ [], h.log ++ []⟩ :=
  .quiet hconnections hopened hclosed (List.forall_mem_nil _) (List.forall_mem_nil _)

theorem effect_of_define {d : Declaration} {s : Session} {given : Option Connection}
    {log : List Exchange} (runs : ((Action.define d).perform h.session).Runs log (s, given)) :
    h.Effect (.define d) ⟨s, h.handles ++ given.toList, h.log ++ log⟩ := by
  simp only [Action.perform] at runs
  cases hdefine : h.session.define d with
  | error e =>
    rw [hdefine] at runs
    obtain ⟨rfl, heq⟩ := Dialogue.runs_pure.mp runs
    cases heq
    exact Effect.of_connections rfl rfl rfl
  | ok defined =>
    rw [hdefine] at runs
    obtain ⟨rfl, heq⟩ := Dialogue.runs_pure.mp runs
    cases heq
    obtain ⟨hconnections, hopened, hclosed⟩ := Session.define_connections hdefine
    exact Effect.of_connections hconnections hopened hclosed

theorem effect_of_establish {name : String} {config : DatabaseConfig} {s : Session}
    {given : Option Connection} {log : List Exchange}
    (runs : ((Action.establish name config).perform h.session).Runs log (s, given)) :
    h.Effect (.establish name config) ⟨s, h.handles ++ given.toList, h.log ++ log⟩ := by
  obtain ⟨⟨s', result⟩, hrun, heq⟩ := Dialogue.runs_map.mp runs
  cases heq
  rcases Session.establish_runs hrun with ⟨e, rfl, rfl, hlog⟩ | ⟨driver, adapter, rfl, hlog⟩
  · refine Effect.of_quiet fun x hx => ?_
    rcases hlog with ⟨_, _, rfl⟩ | ⟨driver, _, rfl⟩
    · exact absurd hx List.not_mem_nil
    · rw [List.mem_singleton.mp hx]
      exact quiet_refused driver config e
  · rcases hlog with ⟨hnone, rfl, rfl⟩ | ⟨old, reply, hold, rfl, rfl⟩
    · exact .opened rfl hnone
    · exact .replaced rfl hold

theorem effect_of_remove {name : String} {s : Session} {given : Option Connection}
    {log : List Exchange} (runs : ((Action.remove name).perform h.session).Runs log (s, given)) :
    h.Effect (.remove name) ⟨s, h.handles ++ given.toList, h.log ++ log⟩ := by
  obtain ⟨⟨s', result⟩, hrun, heq⟩ := Dialogue.runs_map.mp runs
  cases heq
  rcases Session.remove_runs hrun with ⟨_, rfl, rfl⟩ | ⟨old, hold, rfl, rfl⟩
  · exact Effect.of_connections rfl rfl rfl
  · rw [Option.toList_none, List.append_nil]
    exact .removed rfl hold

theorem Step.effect (hsound : h.Sound) (step : h.Step action h') : h.Effect action h' := by
  obtain ⟨log, s, given, held, runs⟩ := step
  cases action with
  | define d => exact effect_of_define runs
  | reset =>
    obtain ⟨rfl, heq⟩ := Dialogue.runs_pure.mp runs
    cases heq
    exact Effect.of_connections rfl rfl rfl
  | establish name config => exact effect_of_establish runs
  | remove name => exact effect_of_remove runs
  | lookup name =>
    obtain ⟨rfl, heq⟩ := Dialogue.runs_pure.mp runs
    cases heq
    refine .quiet rfl rfl rfl (fun c hc => ?_) (List.forall_mem_nil _)
    have hfound : h.session.connection name = .ok c := by
      cases hlookup : h.session.connection name with
      | error e =>
        rw [hlookup] at hc
        exact absurd hc List.not_mem_nil
      | ok found =>
        rw [hlookup] at hc
        rw [List.mem_singleton.mp hc]
    exact (hsound.registered name c (Session.connection_eq_ok.mp hfound)).1
  | exec c cx sql params =>
    obtain ⟨reply, hrun, heq⟩ := Dialogue.runs_map.mp runs
    cases heq
    refine Effect.of_quiet fun x hx => ?_
    rcases Session.execOn_runs.mp hrun with ⟨_, rfl, _⟩ | ⟨hopen, rfl⟩
    · exact absurd hx List.not_mem_nil
    · rw [List.mem_singleton.mp hx]
      exact quiet_of_callee (held c rfl) hopen rfl
  | query c cx sql params =>
    obtain ⟨reply, hrun, heq⟩ := Dialogue.runs_map.mp runs
    cases heq
    refine Effect.of_quiet fun x hx => ?_
    rcases Session.queryOn_runs.mp hrun with ⟨_, rfl, _⟩ | ⟨hopen, rfl⟩
    · exact absurd hx List.not_mem_nil
    · rw [List.mem_singleton.mp hx]
      exact quiet_of_callee (held c rfl) hopen rfl
  | operate cx op =>
    obtain ⟨outcome, hrun, heq⟩ := Dialogue.runs_map.mp runs
    cases heq
    exact Effect.of_quiet fun x hx =>
      quiet_of_reaches hsound (op.perform_asks h.session cx log outcome hrun x hx)

/-! ## The table and the handles -/

/-- A history whose session has the same connections, with no other handles. -/
theorem Sound.transfer (hsound : h.Sound) {s : Session} {handles : List Connection}
    {log : List Exchange}
    (htable : ∀ name, s.connections.get? name = h.session.connections.get? name)
    (hopened : s.opened = h.session.opened) (hclosed : s.closed = h.session.closed)
    (hhandles : ∀ c, c ∈ handles ↔ c ∈ h.handles) : Sound ⟨s, handles, log⟩ where
  serial_lt := by
    intro c hc
    rw [hopened]
    exact hsound.serial_lt c ((hhandles c).mp hc)
  serial_inj := by
    intro c hc c' hc'
    exact hsound.serial_inj c ((hhandles c).mp hc) c' ((hhandles c').mp hc')
  registered := by
    intro name c hc
    rw [htable] at hc
    obtain ⟨hmem, hname⟩ := hsound.registered name c hc
    exact ⟨(hhandles c).mpr hmem, hname⟩
  closed_lt := by
    intro n hn
    rw [hopened]
    rw [hclosed] at hn
    exact hsound.closed_lt n hn
  open_iff := by
    intro c hc
    rw [htable, Session.isClosed_eq_false, hclosed, ← Session.isClosed_eq_false]
    exact hsound.open_iff c ((hhandles c).mp hc)

theorem Sound.opened (hsound : h.Sound) {name : String} (adapter : Adapter)
    (hname : h.session.connections.get? name = none) (log : List Exchange) :
    Sound ⟨h.session.register name adapter, h.handles ++ [h.session.nextHandle name adapter],
      log⟩ where
  serial_lt := by
    intro c hc
    show c.serial < h.session.opened + 1
    rcases List.mem_append.mp hc with hc | hc
    · have := hsound.serial_lt c hc
      omega
    · rw [List.mem_singleton.mp hc]
      exact Nat.lt_succ_self _
  serial_inj := by
    intro c hc c' hc' heq
    rcases List.mem_append.mp hc with hc | hc
    · rcases List.mem_append.mp hc' with hc' | hc'
      · exact hsound.serial_inj c hc c' hc' heq
      · rw [List.mem_singleton.mp hc'] at heq
        exact absurd heq (Nat.ne_of_lt (hsound.serial_lt c hc))
    · rw [List.mem_singleton.mp hc] at heq ⊢
      rcases List.mem_append.mp hc' with hc' | hc'
      · exact absurd heq.symm (Nat.ne_of_lt (hsound.serial_lt c' hc'))
      · exact (List.mem_singleton.mp hc').symm
  registered := by
    intro other c hc
    replace hc : (if other = name then some (h.session.nextHandle name adapter)
        else h.session.connections.get? other) = some c := by
      rw [← hc]
      exact (OrderedMap.get?_insert _ _ _ _).symm
    by_cases hother : other = name
    · rw [if_pos hother] at hc
      cases hc
      exact ⟨List.mem_append_right _ (List.mem_singleton_self _), hother.symm⟩
    · rw [if_neg hother] at hc
      obtain ⟨hmem, hcname⟩ := hsound.registered other c hc
      exact ⟨List.mem_append_left _ hmem, hcname⟩
  closed_lt := by
    intro n hn
    exact Nat.lt_succ_of_lt (hsound.closed_lt n hn)
  open_iff := by
    intro c hc
    show h.session.isClosed c = false ↔
      (h.session.connections.insert name (h.session.nextHandle name adapter)).get? c.name = some c
    rw [OrderedMap.get?_insert]
    rcases List.mem_append.mp hc with hc | hc
    · by_cases hcname : c.name = name
      · have hne : h.session.nextHandle name adapter ≠ c := by
          intro heq
          have hlt := hsound.serial_lt c hc
          rw [← heq] at hlt
          exact Nat.lt_irrefl _ hlt
        rw [hsound.open_iff c hc, hcname, if_pos rfl, hname]
        simp [hne]
      · rw [if_neg hcname]
        exact hsound.open_iff c hc
    · rw [List.mem_singleton.mp hc, Session.isClosed_eq_false]
      refine iff_of_true (fun hmem => ?_) (if_pos rfl)
      exact Nat.lt_irrefl _ (hsound.closed_lt _ hmem)

theorem Sound.removed (hsound : h.Sound) {name : String} {old : Connection}
    (hold : h.session.connections.get? name = some old) (log : List Exchange) :
    Sound ⟨(h.session.unregister name).retire old, h.handles, log⟩ where
  serial_lt := hsound.serial_lt
  serial_inj := hsound.serial_inj
  registered := by
    intro other c hc
    replace hc : (if other = name then none else h.session.connections.get? other) = some c := by
      rw [← hc]
      exact (OrderedMap.get?_erase _ _ _).symm
    by_cases hother : other = name
    · rw [if_pos hother] at hc
      cases hc
    · rw [if_neg hother] at hc
      exact hsound.registered other c hc
  closed_lt := by
    intro n hn
    rcases List.mem_cons.mp hn with rfl | hn
    · exact hsound.serial_lt old (hsound.registered name old hold).1
    · exact hsound.closed_lt n hn
  open_iff := by
    intro c hc
    obtain ⟨hmem, holdname⟩ := hsound.registered name old hold
    rw [Session.isClosed_eq_false]
    show c.serial ∉ old.serial :: h.session.closed ↔
      (h.session.connections.erase name).get? c.name = some c
    rw [OrderedMap.get?_erase, List.mem_cons, not_or, ← Session.isClosed_eq_false,
      hsound.open_iff c hc]
    by_cases hcname : c.name = name
    · -- only the removed handle was open under this name
      rw [if_pos hcname, hcname, hold]
      simp only [reduceCtorEq, iff_false, not_and]
      rintro hserial heq
      exact hserial (congrArg Connection.serial (Option.some.inj heq)).symm
    · rw [if_neg hcname]
      refine and_iff_right_of_imp fun _ hserial => hcname ?_
      rw [hsound.serial_inj c hc old hmem hserial, holdname]

/-- Replacing a connection is removing it and then opening another one of the same name. -/
theorem Sound.replaced (hsound : h.Sound) {name : String} (adapter : Adapter) {old : Connection}
    (hold : h.session.connections.get? name = some old) (log : List Exchange) :
    Sound ⟨(h.session.register name adapter).retire old,
      h.handles ++ [h.session.nextHandle name adapter], log⟩ := by
  have hremoved := hsound.removed hold []
  have hnone : ((h.session.unregister name).retire old).connections.get? name = none := by
    show (h.session.connections.erase name).get? name = none
    rw [OrderedMap.get?_erase, if_pos rfl]
  refine (hremoved.opened adapter hnone []).transfer (fun other => ?_) rfl rfl (fun c => Iff.rfl)
  show (h.session.connections.insert name _).get? other =
    ((h.session.connections.erase name).insert name _).get? other
  rw [OrderedMap.get?_insert, OrderedMap.get?_insert, OrderedMap.get?_erase]
  by_cases hother : other = name
  · rw [if_pos hother, if_pos hother]
    rfl
  · rw [if_neg hother, if_neg hother, if_neg hother]

theorem Effect.sound (effect : h.Effect action h') (hsound : h.Sound) : h'.Sound := by
  cases effect with
  | quiet hconnections hopened hclosed hgiven _ =>
    refine hsound.transfer (fun name => by rw [hconnections]) hopened hclosed (fun c => ?_)
    rw [List.mem_append]
    exact or_iff_left_of_imp (hgiven c)
  | opened _ hnone => exact hsound.opened _ hnone _
  | replaced _ hold => exact hsound.replaced _ hold _
  | removed _ hold => exact hsound.removed hold _

theorem sound_start (drivers : List (String × Driver)) : (start drivers).Sound where
  serial_lt := by
    intro c hc
    cases hc
  serial_inj := by
    intro c hc
    cases hc
  registered := by
    intro name c hc
    cases hc
  closed_lt := by
    intro n hn
    cases hn
  open_iff := by
    intro c hc
    cases hc

theorem Reached.sound {drivers : List (String × Driver)} (reached : h.Reached drivers) :
    h.Sound := by
  induction reached with
  | start => exact sound_start drivers
  | step _ step hsound => exact (step.effect hsound).sound hsound

/-- A model can be defined in every history. -/
theorem Reached.define {drivers : List (String × Driver)} (reached : h.Reached drivers) {d : Declaration}
    {m : Model} {s : Session} (hdefine : h.session.define d = .ok (m, s)) :
    Reached drivers ⟨s, h.handles, h.log⟩ := by
  have hstep : h.Step (.define d) ⟨s, h.handles ++ [], h.log ++ []⟩ := by
    refine .intro [] s none (fun c hc => nomatch hc) ?_
    simp only [Action.perform, hdefine]
    exact .done _
  rw [List.append_nil, List.append_nil] at hstep
  exact .step reached hstep

end History

namespace Bookshop

def drivers : List (String × Driver) := [("mock", .scripted .postgresql)]

def config : DatabaseConfig := ⟨"mock", "books"⟩

/-- A context that never ends. -/
def background : Context := ⟨0, [], none⟩

/-- The adapter of the given number. -/
def adapter (id : Nat) : Adapter := ⟨id, .of .postgresql⟩

/-- A session that knows books. -/
def stocked : Session := { Session.withDrivers drivers with registry := ⟨[book]⟩ }

/-- Books are defined, and their connection is opened. -/
def opened : History where
  session := stocked.register "primary" (adapter 0)
  handles := [⟨0, "primary", adapter 0⟩]
  log := [⟨.connect (.scripted .postgresql) config, .ok (adapter 0)⟩]

/-- The connection of books is opened once more, and the first one fails to close. -/
def reopened : History where
  session := (opened.session.register "primary" (adapter 1)).retire ⟨0, "primary", adapter 0⟩
  handles := opened.handles ++ [⟨1, "primary", adapter 1⟩]
  log := opened.log ++ [⟨.connect (.scripted .postgresql) config, .ok (adapter 1)⟩,
    ⟨.close (adapter 0), .error (.of (.canceled false))⟩]

theorem reached_opened : opened.Reached drivers := by
  have hdefine : (Session.withDrivers drivers).define (.ofClauses "Book" bookClauses) =
      .ok (book, stocked) := by
    decide +kernel
  have hstart : History.Reached drivers ⟨stocked, [], []⟩ := History.Reached.start.define hdefine
  have hestablish : History.Step ⟨stocked, [], []⟩ (.establish "primary" config) opened := by
    refine .intro opened.log opened.session (some ⟨0, "primary", adapter 0⟩)
      (fun c hc => nomatch hc) ?_
    show (Dialogue.ask (.connect (.scripted .postgresql) config) _).Runs _ _
    exact .ask _ (.done _)
  exact .step hstart hestablish

theorem reached_reopened : reopened.Reached drivers := by
  have hestablish : opened.Step (.establish "primary" config) reopened := by
    refine .intro (reopened.log.drop 1) reopened.session (some ⟨1, "primary", adapter 1⟩)
      (fun c hc => nomatch hc) ?_
    show (Dialogue.ask (.connect (.scripted .postgresql) config) _).Runs _ _
    refine .ask _ ?_
    show (Dialogue.ask (.close (adapter 0)) _).Runs _ _
    exact .ask _ (.done _)
  exact .step reached_opened hestablish

end Bookshop

end RecordMapper
