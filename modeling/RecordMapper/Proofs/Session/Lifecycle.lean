import RecordMapper.Proofs.Session.History
import RecordMapper.Proofs.Sql.Lowering
import RecordMapper.Proofs.Sql.Reading
import RecordMapper.Proofs.Sql.ValueFree

/-!
# Lives of records

A record lives through any number of changes of its values and of operations on its row, each in a session
of its own state and with any answer of the database. What a single step can do depends on the status of
the record only (`Step.Lawful`); that holds for all steps of a life, and a record that was destroyed asks
nothing of any database for the rest of its life (`life_lawful`).

The three operations on the row are treated as one: a `Deed` is allowed or refused, then makes a call with
a keyword of its own, and the record is settled by what is answered.
-/

namespace RecordMapper

/-! ## Keywords -/

/-- How the text of a statement begins. -/
def Sql.Statement.keyword : Sql.Statement → String
  | select _ => "SELECT "
  | insert _ => "INSERT INTO "
  | update _ => "UPDATE "
  | delete _ => "DELETE FROM "
  | createTable _ => "CREATE TABLE "

/-- How the text of a statement begins once it is lowered. -/
def Statement.keyword : Statement → String
  | query _ => "SELECT "
  | insert _ _ => "INSERT INTO "
  | update _ _ _ => "UPDATE "
  | delete _ _ => "DELETE FROM "
  | createTable _ => "CREATE TABLE "

namespace Sql

theorem keyword_prefix (d : Dialect) (bound : List Value) (t : Sql.Statement) :
    t.keyword.toList <+: (t.serialize d bound).1.toList := by
  unfold Statement.keyword Statement.serialize Statement.wording
  cases t with
  | select s => simp [Select.wording, Template.render, String.toList_append]
  | insert i =>
    obtain ⟨table, columns, values⟩ := i
    cases columns with
    | nil => simp [Insert.wording, Template.render, String.toList_append]
    | cons column columns => simp [Insert.wording, Template.render, String.toList_append]
  | update u => simp [Update.wording, Template.render, String.toList_append]
  | delete x => simp [Delete.wording, Template.render, String.toList_append]
  | createTable c => simp [CreateTable.wording, Template.render, String.toList_append]

theorem lower_keyword {r : Registry} {stmt : RecordMapper.Statement} {t : Sql.Statement}
    (h : lower r stmt = .ok t) : t.keyword = stmt.keyword := by
  obtain ⟨m, _, hlower⟩ := lower_eq_ok.mp h
  cases stmt with
  | query q =>
    obtain ⟨_, _, rfl⟩ := map_eq_ok.mp hlower
    rfl
  | insert model values =>
    obtain ⟨_, _, rfl⟩ := map_eq_ok.mp hlower
    rfl
  | update model key values =>
    obtain ⟨_, _, rfl⟩ := map_eq_ok.mp hlower
    rfl
  | delete model key =>
    obtain ⟨_, _, rfl⟩ := map_eq_ok.mp hlower
    rfl
  | createTable model =>
    cases hlower
    rfl

end Sql

/-! ## Calls -/

/-- The request runs a statement whose text begins with the keyword. -/
def Request.Sends (keyword : String) : Request → Prop
  | .exec _ _ sql _ => keyword.toList <+: sql.toList
  | .query _ _ sql _ => keyword.toList <+: sql.toList
  | .connect _ _ => False
  | .close _ => False

/-- No text begins with both keywords. -/
theorem Request.Sends.not_sends {r : Request} {keyword other : String} (h : r.Sends keyword)
    (hapart : Sql.Apart [keyword] other) : ¬r.Sends other := by
  cases r with
  | exec adapter cx sql params =>
    exact Sql.Leads.not_prefix ⟨keyword, List.mem_singleton_self _, h⟩ hapart
  | query adapter cx sql params =>
    exact Sql.Leads.not_prefix ⟨keyword, List.mem_singleton_self _, h⟩ hapart
  | connect driver config => exact id
  | close adapter => exact id

/-- A statement was run and the database said that it is done. -/
def Exchange.Accepted (x : Exchange) : Prop :=
  ∃ adapter cx sql params response, x = ⟨.exec adapter cx sql params, .ok response⟩

/-- How the run of a statement can go: nothing is sent, or one text that is refused or accepted. -/
inductive Calls {α : Type} (keyword : String) : List Exchange → Except Error α → Prop
  | unsent (e : Error) : Calls keyword [] (.error e)
  | refused {x : Exchange} (e : Error) : x.request.Sends keyword → ¬x.Accepted →
    Calls keyword [x] (.error e)
  | accepted {x : Exchange} (a : α) : x.request.Sends keyword → x.Accepted →
    Calls keyword [x] (.ok a)

theorem Session.exec_calls {s : Session} {cx : Context} {stmt : Statement} {log : List Exchange}
    {reply : Except Error (Session.Compiled × ExecResponse)}
    (h : (s.exec cx stmt).Runs log reply) : Calls stmt.keyword log reply := by
  rcases exec_runs h with ⟨rfl, e, rfl⟩ | ⟨compiled, answer, hcompile, _, rfl, rfl⟩
  · exact .unsent e
  · obtain ⟨hlower, _, htext⟩ := compile_eq_ok.mp hcompile
    have hsends : stmt.keyword.toList <+: compiled.sql.toList := by
      have hprefix := Sql.keyword_prefix compiled.connection.dialect [] compiled.statement
      rwa [Sql.lower_keyword hlower, htext] at hprefix
    cases answer with
    | error e =>
      refine .refused e hsends ?_
      rintro ⟨_, _, _, _, _, heq⟩
      cases heq
    | ok response => exact .accepted _ hsends ⟨_, _, _, _, _, rfl⟩

namespace Record

variable {s : Session} {cx : Context} {r r' : Record} {log : List Exchange}

/-! ## Deeds -/

/-- There is a row behind the record, and it has the key of the row. -/
def HasRow (r : Record) : Prop :=
  r.status = .persisted ∧ ∃ key, r.get? r.model.primaryKey = some key ∧ key.isNull = false

theorem persistedKey_cases (r : Record) :
    (r.HasRow ∧ ∃ key, r.persistedKey = .ok key) ∨
      (¬r.HasRow ∧ r.persistedKey = .error (.of (.missingPrimaryKey r.model.name))) := by
  unfold HasRow persistedKey key? get?
  cases hvalue : r.values.get? r.model.primaryKey with
  | none => exact .inr ⟨by simp, rfl⟩
  | some key =>
    cases hnull : key.isNull with
    | true => exact .inr ⟨by simp [hnull], by simp [hnull]⟩
    | false =>
      by_cases hstatus : r.status = .persisted
      · exact .inl ⟨⟨hstatus, key, rfl, hnull⟩, key, by simp [hnull, hstatus]⟩
      · exact .inr ⟨fun h => hstatus h.1, by simp [hnull, hstatus]⟩

/-- What is done with the row of a record. -/
inductive Deed
  | insert
  | update
  | destroy
deriving DecidableEq

namespace Deed

def perform (s : Session) (cx : Context) (r : Record) : Deed → Dialogue Record
  | insert => r.insert s cx
  | update => r.update s cx
  | destroy => r.destroy s cx

def Allowed (r : Record) : Deed → Prop
  | insert => r.status = .new
  | update => r.HasRow
  | destroy => r.HasRow

def keyword : Deed → String
  | insert => "INSERT INTO "
  | update => "UPDATE "
  | destroy => "DELETE FROM "

/-- The error of doing what is not allowed. -/
def refusal (r : Record) : Deed → Error
  | insert => r.notNew
  | update => .of (.missingPrimaryKey r.model.name)
  | destroy => .of (.missingPrimaryKey r.model.name)

/-- What becomes of the record when the call is answered. -/
def settled (r : Record) : Deed →
    Except Error (Session.Compiled × ExecResponse) → Record × Except Error Unit
  | insert => r.inserted
  | update => r.updated
  | destroy => r.removed

/-- The status of the record when all has gone well. -/
def goal (r : Record) : Deed → Status
  | insert => .persisted
  | update => r.status
  | destroy => .destroyed

theorem runs_finish_exec {d : Dialogue (Record × Except Error Unit)}
    {next : Except Error (Session.Compiled × ExecResponse) → Record × Except Error Unit}
    {stmt : Statement} (hd : d = next <$> s.exec cx stmt) (h : (finish <$> d).Runs log r') :
    ∃ reply, Calls stmt.keyword log reply ∧ r' = finish (next reply) := by
  rw [hd] at h
  obtain ⟨outcome, hrun, rfl⟩ := Dialogue.runs_map.mp h
  obtain ⟨reply, hexec, rfl⟩ := Dialogue.runs_map.mp hrun
  exact ⟨reply, Session.exec_calls hexec, rfl⟩

theorem runs_finish_refused {d : Dialogue (Record × Except Error Unit)} {e : Error}
    (hd : d = pure (r, .error e)) (h : (finish <$> d).Runs log r') :
    log = [] ∧ r' = finish (r, .error e) := by
  rw [hd] at h
  obtain ⟨outcome, hrun, rfl⟩ := Dialogue.runs_map.mp h
  obtain ⟨rfl, rfl⟩ := Dialogue.runs_pure.mp hrun
  exact ⟨rfl, rfl⟩

theorem perform_runs (deed : Deed) (h : (deed.perform s cx r).Runs log r') :
    (¬deed.Allowed r ∧ log = [] ∧ r' = finish (r, .error (deed.refusal r))) ∨
      (deed.Allowed r ∧ ∃ reply, Calls deed.keyword log reply ∧
        r' = finish (deed.settled r reply)) := by
  cases deed with
  | insert =>
    by_cases hnew : r.status = .new
    · exact .inr ⟨hnew, runs_finish_exec (tryInsert_of_new hnew) h⟩
    · exact .inl ⟨hnew, runs_finish_refused (tryInsert_of_not_new hnew) h⟩
  | update =>
    rcases r.persistedKey_cases with ⟨hrow, key, hkey⟩ | ⟨hrow, hkey⟩
    · exact .inr ⟨hrow, runs_finish_exec (tryUpdate_of_key hkey) h⟩
    · exact .inl ⟨hrow, runs_finish_refused (tryUpdate_of_error hkey) h⟩
  | destroy =>
    rcases r.persistedKey_cases with ⟨hrow, key, hkey⟩ | ⟨hrow, hkey⟩
    · exact .inr ⟨hrow, runs_finish_exec (tryDestroy_of_key hkey) h⟩
    · exact .inl ⟨hrow, runs_finish_refused (tryDestroy_of_error hkey) h⟩

theorem eq_of_sends {request : Request} {deed other : Deed} (h : request.Sends deed.keyword)
    (h' : request.Sends other.keyword) : deed = other := by
  by_contra hne
  have hapart : Sql.Apart [deed.keyword] other.keyword := by
    cases deed <;> cases other <;> first | exact absurd rfl hne | decide
  exact h.not_sends hapart h'

theorem settled_error (deed : Deed) (e : Error) : deed.settled r (.error e) = (r, .error e) := by
  cases deed <;> rfl

/-- Once the call is accepted an update and a removal are done; of an insertion the key may still be
refused. -/
theorem settled_ok (deed : Deed) (reply : Session.Compiled × ExecResponse) :
    ((deed.settled r (.ok reply)).2 = .ok () ∧
        (deed.settled r (.ok reply)).1.status = deed.goal r) ∨
      (deed = insert ∧ ∃ e, (deed.settled r (.ok reply)).2 = .error e ∧
        (deed.settled r (.ok reply)).1.status = r.status) := by
  cases deed with
  | insert =>
    obtain ⟨compiled, response⟩ := reply
    unfold settled inserted
    dsimp only
    cases (r.writeBack (storedValues compiled.statement)).takeKey response.lastInsertKey? with
    | error e => exact .inr ⟨rfl, e, rfl, rfl⟩
    | ok keyed => exact .inl ⟨rfl, rfl⟩
  | update => exact .inl ⟨rfl, rfl⟩
  | destroy => exact .inl ⟨rfl, rfl⟩

end Deed

theorem finish_of_ok {p : Record × Except Error Unit} (h : p.2 = .ok ()) :
    (finish p).isOk = true ∧ (finish p).status = p.1.status := by
  obtain ⟨r, outcome⟩ := p
  cases h
  exact ⟨rfl, rfl⟩

theorem finish_of_error {p : Record × Except Error Unit} {e : Error} (h : p.2 = .error e) :
    (finish p).isOk = false ∧ (finish p).status = p.1.status := by
  obtain ⟨r, outcome⟩ := p
  cases h
  exact ⟨rfl, rfl⟩

/-! ## Steps -/

/-- What can be done with a record. -/
inductive Action
  | set (name : String) (value : Value)
  | assign (values : Values)
  | run (deed : Deed) (s : Session) (cx : Context)

def Action.perform (r : Record) : Action → Dialogue Record
  | set name value => pure (r.set name value)
  | assign values => pure (r.assign values)
  | run deed s cx => deed.perform s cx r

/-- A step in the life of a record. -/
structure Step where
  before : Record
  action : Action
  log : List Exchange
  after : Record

namespace Step

/-- The one call of the step was accepted. -/
def Accepted (x : Step) : Prop := ∃ e, x.log = [e] ∧ e.Accepted

/-- The deed is done: the row is there, is changed or is gone. -/
def Succeeded (x : Step) : Deed → Prop
  | .insert => x.before.status = .new ∧ x.after.status = .persisted
  | .update => x.Accepted
  | .destroy => x.before.status = .persisted ∧ x.after.status = .destroyed

/-- What a step can do. -/
structure Lawful (x : Step) : Prop where
  one_call : x.log.length ≤ 1
  calls : ∀ e ∈ x.log, ∃ deed s cx, x.action = .run deed s cx ∧ e.request.Sends deed.keyword
  insert_call : ∀ e ∈ x.log, e.request.Sends "INSERT INTO " → x.before.status = .new
  update_call : ∀ e ∈ x.log, e.request.Sends "UPDATE " → x.before.HasRow
  delete_call : ∀ e ∈ x.log, e.request.Sends "DELETE FROM " → x.before.HasRow
  status : x.after.status = x.before.status ∨
    (∃ s cx, x.action = .run .insert s cx) ∧ x.Accepted ∧ x.before.status = .new ∧
      x.after.status = .persisted ∨
    (∃ s cx, x.action = .run .destroy s cx) ∧ x.Accepted ∧ x.before.status = .persisted ∧
      x.after.status = .destroyed
  refused_insert : ∀ s cx, x.action = .run .insert s cx → x.before.status ≠ .new →
    x.log = [] ∧ ∃ message, x.after.error? = some (.of (.compilation message))
  refused_change : ∀ s cx, x.action = .run .update s cx ∨ x.action = .run .destroy s cx →
    ¬x.before.HasRow →
    x.log = [] ∧ x.after.error? = some (.of (.missingPrimaryKey x.before.model.name))
  outcome : ∀ deed s cx, x.action = .run deed s cx → (x.after.isOk = true ↔ x.Succeeded deed)
  kept : (∀ deed s cx, x.action ≠ .run deed s cx) →
    x.log = [] ∧ x.after.status = x.before.status ∧ x.after.error? = x.before.error?

/-- The two changes of status are those of an insertion and of a removal. -/
theorem lawful_run {deed : Deed} {s : Session} {cx : Context}
    (one_call : log.length ≤ 1)
    (calls : ∀ e ∈ log, e.request.Sends deed.keyword ∧ deed.Allowed r)
    (status : r'.status = r.status ∨
      (⟨r, .run deed s cx, log, r'⟩ : Step).Accepted ∧ r'.status = deed.goal r)
    (refused : ¬deed.Allowed r → log = [] ∧ r'.error? = some (deed.refusal r))
    (outcome : r'.isOk = true ↔ (⟨r, .run deed s cx, log, r'⟩ : Step).Succeeded deed) :
    (⟨r, .run deed s cx, log, r'⟩ : Step).Lawful where
  one_call := one_call
  calls := fun e he => ⟨deed, s, cx, rfl, (calls e he).1⟩
  insert_call := by
    intro e he hsends
    obtain ⟨hdeed, hallowed⟩ := calls e he
    obtain rfl : deed = .insert := Deed.eq_of_sends hdeed hsends
    exact hallowed
  update_call := by
    intro e he hsends
    obtain ⟨hdeed, hallowed⟩ := calls e he
    obtain rfl : deed = .update := Deed.eq_of_sends hdeed hsends
    exact hallowed
  delete_call := by
    intro e he hsends
    obtain ⟨hdeed, hallowed⟩ := calls e he
    obtain rfl : deed = .destroy := Deed.eq_of_sends hdeed hsends
    exact hallowed
  status := by
    rcases status with hsame | ⟨haccepted, hgoal⟩
    · exact .inl hsame
    · obtain ⟨e, rfl, _⟩ := id haccepted
      have hallowed := (calls e (List.mem_singleton_self e)).2
      cases deed with
      | insert => exact .inr (.inl ⟨⟨s, cx, rfl⟩, haccepted, hallowed, hgoal⟩)
      | update => exact .inl hgoal
      | destroy => exact .inr (.inr ⟨⟨s, cx, rfl⟩, haccepted, hallowed.1, hgoal⟩)
  refused_insert := by
    intro _ _ haction hstatus
    cases haction
    obtain ⟨hlog, herror⟩ := refused hstatus
    exact ⟨hlog, _, herror⟩
  refused_change := by
    intro _ _ haction hrow
    rcases haction with haction | haction
    · cases haction
      exact refused hrow
    · cases haction
      exact refused hrow
  outcome := by
    intro _ _ _ haction
    cases haction
    exact outcome
  kept := by
    intro hquiet
    exact absurd rfl (hquiet deed s cx)

/-- A deed that changes no status and, being an update, is not accepted has not succeeded. -/
theorem not_succeeded {x : Step} {deed : Deed} (hstatus : x.after.status = x.before.status)
    (hupdate : deed = .update → ¬x.Accepted) : ¬x.Succeeded deed := by
  cases deed with
  | insert =>
    rintro ⟨hnew, hpersisted⟩
    rw [hstatus, hnew] at hpersisted
    cases hpersisted
  | update => exact hupdate rfl
  | destroy =>
    rintro ⟨hpersisted, hdestroyed⟩
    rw [hstatus, hpersisted] at hdestroyed
    cases hdestroyed

/-- Nothing was sent or what was sent was refused: the record is as before, but for its error. -/
theorem lawful_failed {deed : Deed} {e : Error} (one_call : log.length ≤ 1)
    (calls : ∀ x ∈ log, x.request.Sends deed.keyword ∧ deed.Allowed r)
    (not_accepted : ∀ x ∈ log, ¬x.Accepted)
    (refused : ¬deed.Allowed r → log = [] ∧ e = deed.refusal r) :
    (⟨r, .run deed s cx, log, finish (r, .error e)⟩ : Step).Lawful := by
  have hfailed : ¬(⟨r, .run deed s cx, log, finish (r, .error e)⟩ : Step).Succeeded deed := by
    refine not_succeeded rfl fun _ => ?_
    rintro ⟨x, rfl, haccepted⟩
    exact not_accepted x (List.mem_singleton_self x) haccepted
  refine lawful_run one_call calls (.inl rfl) (fun hnot => ?_)
    (iff_of_false Bool.false_ne_true hfailed)
  obtain ⟨hlog, heq⟩ := refused hnot
  exact ⟨hlog, congrArg some heq⟩

theorem lawful_accepted {deed : Deed} {x : Exchange} (hallowed : deed.Allowed r)
    (hsends : x.request.Sends deed.keyword) (haccepted : x.Accepted)
    (reply : Session.Compiled × ExecResponse) :
    (⟨r, .run deed s cx, [x], finish (deed.settled r (.ok reply))⟩ : Step).Lawful := by
  have hstep : ∀ after, (⟨r, .run deed s cx, [x], after⟩ : Step).Accepted :=
    fun _ => ⟨x, rfl, haccepted⟩
  have hcalls : ∀ e ∈ [x], e.request.Sends deed.keyword ∧ deed.Allowed r :=
    List.forall_mem_singleton.mpr ⟨hsends, hallowed⟩
  rcases deed.settled_ok reply with ⟨hok, hgoal⟩ | ⟨hinsert, e, herror, hsame⟩
  · obtain ⟨hisOk, hstatus⟩ := finish_of_ok hok
    rw [hgoal] at hstatus
    refine lawful_run (Nat.le_refl 1) hcalls (.inr ⟨hstep _, hstatus⟩)
      (fun hnot => absurd hallowed hnot) (iff_of_true hisOk ?_)
    cases deed with
    | insert => exact ⟨hallowed, hstatus⟩
    | update => exact hstep _
    | destroy => exact ⟨hallowed.1, hstatus⟩
  · -- the row is there, but the key that was reported for it cannot be taken over
    obtain ⟨hisOk, hstatus⟩ := finish_of_error herror
    rw [hsame] at hstatus
    refine lawful_run (Nat.le_refl 1) hcalls (.inl hstatus) (fun hnot => absurd hallowed hnot)
      (iff_of_false (Bool.not_eq_true _ ▸ hisOk) (not_succeeded hstatus fun hupdate => ?_))
    rw [hinsert] at hupdate
    cases hupdate

theorem lawful_deed {deed : Deed} (h : (deed.perform s cx r).Runs log r') :
    (⟨r, .run deed s cx, log, r'⟩ : Step).Lawful := by
  rcases deed.perform_runs h with ⟨_, rfl, rfl⟩ | ⟨hallowed, reply, hcalls, rfl⟩
  · exact lawful_failed (Nat.zero_le 1) (List.forall_mem_nil _) (List.forall_mem_nil _)
      fun _ => ⟨rfl, rfl⟩
  · cases hcalls with
    | unsent e =>
      rw [deed.settled_error e]
      exact lawful_failed (Nat.zero_le 1) (List.forall_mem_nil _) (List.forall_mem_nil _)
        fun hnot => absurd hallowed hnot
    | @refused x e hsends hnot =>
      rw [deed.settled_error e]
      exact lawful_failed (Nat.le_refl 1) (List.forall_mem_singleton.mpr ⟨hsends, hallowed⟩)
        (List.forall_mem_singleton.mpr hnot) fun hnot => absurd hallowed hnot
    | accepted reply hsends haccepted => exact lawful_accepted hallowed hsends haccepted reply

theorem lawful_quiet {action : Action} (hquiet : ∀ deed s cx, action ≠ .run deed s cx)
    (hstatus : r'.status = r.status) (herror : r'.error? = r.error?) :
    (⟨r, action, [], r'⟩ : Step).Lawful where
  one_call := Nat.zero_le 1
  calls := List.forall_mem_nil _
  insert_call := List.forall_mem_nil _
  update_call := List.forall_mem_nil _
  delete_call := List.forall_mem_nil _
  status := .inl hstatus
  refused_insert := fun s cx haction => absurd haction (hquiet .insert s cx)
  refused_change := by
    rintro s cx (haction | haction)
    · exact absurd haction (hquiet .update s cx)
    · exact absurd haction (hquiet .destroy s cx)
  outcome := fun deed s cx haction => absurd haction (hquiet deed s cx)
  kept := fun _ => ⟨rfl, hstatus, herror⟩

theorem lawful {action : Action} (h : (action.perform r).Runs log r') :
    (⟨r, action, log, r'⟩ : Step).Lawful := by
  cases action with
  | set name value =>
    obtain ⟨rfl, rfl⟩ := Dialogue.runs_pure.mp h
    exact lawful_quiet (fun _ _ _ heq => nomatch heq) rfl rfl
  | assign values =>
    obtain ⟨rfl, rfl⟩ := Dialogue.runs_pure.mp h
    exact lawful_quiet (fun _ _ _ heq => nomatch heq) rfl rfl
  | run deed s cx => exact lawful_deed h

/-- A record that was destroyed asks nothing and stays destroyed. -/
theorem Lawful.destroyed {x : Step} (h : x.Lawful) (hbefore : x.before.status = .destroyed) :
    x.log = [] ∧ x.after.status = .destroyed := by
  have hlog : x.log = [] := by
    refine List.eq_nil_iff_forall_not_mem.mpr fun e he => ?_
    obtain ⟨deed, _, _, _, hsends⟩ := h.calls e he
    cases deed with
    | insert =>
      have hnew := h.insert_call e he hsends
      rw [hbefore] at hnew
      cases hnew
    | update =>
      have hrow := (h.update_call e he hsends).1
      rw [hbefore] at hrow
      cases hrow
    | destroy =>
      have hrow := (h.delete_call e he hsends).1
      rw [hbefore] at hrow
      cases hrow
  refine ⟨hlog, ?_⟩
  rcases h.status with hsame | ⟨_, _, hnew, _⟩ | ⟨_, _, hpersisted, _⟩
  · rw [hsame, hbefore]
  · rw [hbefore] at hnew
    cases hnew
  · rw [hbefore] at hpersisted
    cases hpersisted

end Step

/-! ## Lives -/

/-- The steps that a record can go through and what it has become after them. -/
inductive Life (r : Record) : List Step → Record → Prop
  | begin : Life r [] r
  | step {steps : List Step} {before after : Record} {action : Action} {log : List Exchange} :
    Life r steps before → (action.perform before).Runs log after →
    Life r (steps ++ [⟨before, action, log, after⟩]) after

/-- Once a record was destroyed no later step asks anything, and it stays destroyed. -/
def RestsOnceDestroyed (steps : List Step) : Prop :=
  steps.Pairwise fun x y =>
    x.after.status = .destroyed → y.log = [] ∧ y.after.status = .destroyed

theorem Life.stays_destroyed {steps : List Step} (life : Life r steps r') :
    RestsOnceDestroyed steps ∧ ∀ x ∈ steps, x.after.status = .destroyed → r'.status = .destroyed := by
  induction life with
  | begin => exact ⟨.nil, List.forall_mem_nil _⟩
  | @step steps before after action log _ hrun ih =>
    obtain ⟨hrests, hdestroyed⟩ := ih
    have hlawful := Step.lawful hrun
    constructor
    · refine List.pairwise_append.mpr ⟨hrests, List.pairwise_singleton _ _, ?_⟩
      intro x hx y hy hgone
      rw [List.mem_singleton.mp hy]
      exact hlawful.destroyed (hdestroyed x hx hgone)
    · intro x hx hgone
      rcases List.mem_append.mp hx with hx | hx
      · exact (hlawful.destroyed (hdestroyed x hx hgone)).2
      · rw [List.mem_singleton.mp hx] at hgone
        exact hgone

/-- Every step in the life of any record is lawful, and a destroyed record rests. -/
theorem life_lawful {steps : List Step} (life : Life r steps r') :
    (∀ x ∈ steps, x.Lawful) ∧ RestsOnceDestroyed steps := by
  refine ⟨?_, life.stays_destroyed.1⟩
  induction life with
  | begin => exact List.forall_mem_nil _
  | step _ hrun ih =>
    intro x hx
    rcases List.mem_append.mp hx with hx | hx
    · exact ih x hx
    · rw [List.mem_singleton.mp hx]
      exact Step.lawful hrun

end Record

namespace Bookshop

def emma : Record := .ofValues book newBook

/-- The record once its row has the key 7. -/
def storedEmma : Record where
  model := book
  values := ⟨newBook.entries ++ [("rating", .float (Binary64.ofInt64 3)), ("uid", .int 7)],
    by decide⟩
  status := .persisted
  error? := none

def goneEmma : Record := { storedEmma with status := .destroyed }

/-- Inserted, destroyed and then updated in vain. -/
def emmaSteps : List Record.Step :=
  [⟨emma, .run .insert opened.session background,
    [⟨.exec (adapter 0) background
      "INSERT INTO \"books\" (\"title\", \"year\", \"rating\") VALUES ($1, $2, $3);"
      [.text "Emma", .int 1815, .float (Binary64.ofInt64 3)], .ok ⟨1, some (.int 7)⟩⟩], storedEmma⟩,
    ⟨storedEmma, .run .destroy opened.session background,
      [⟨.exec (adapter 0) background "DELETE FROM \"books\" WHERE \"uid\" = $1;" [.int 7],
        .ok ⟨1, none⟩⟩], goneEmma⟩,
    ⟨goneEmma, .run .update opened.session background, [],
      { goneEmma with error? := some (.of (.missingPrimaryKey "book")) }⟩]

theorem emma_life :
    emma.Life emmaSteps { goneEmma with error? := some (.of (.missingPrimaryKey "book")) } := by
  show emma.Life ([] ++ [_] ++ [_] ++ [_]) _
  refine .step (.step (.step .begin ?_) ?_) (.done _)
  · show (Dialogue.ask (.exec (adapter 0) background _ _) _).Runs _ _
    exact .ask _ (.done _)
  · show (Dialogue.ask (.exec (adapter 0) background _ _) _).Runs _ _
    exact .ask _ (.done _)

theorem emma_lawful :
    emma.Life emmaSteps { goneEmma with error? := some (.of (.missingPrimaryKey "book")) } ∧
      (∀ x ∈ emmaSteps, x.Lawful) ∧ Record.RestsOnceDestroyed emmaSteps :=
  ⟨emma_life, Record.life_lawful emma_life⟩

end Bookshop

end RecordMapper
