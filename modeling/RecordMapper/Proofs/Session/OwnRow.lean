import RecordMapper.Proofs.Data.Merging
import RecordMapper.Proofs.Session.Deeds
import RecordMapper.Proofs.Sql.Parameters

/-!
# The row that a record writes to

A record does not remember which row it came from: an update or a removal is sent to the row whose key
the record shows at that time (`Deed.runs_addressed`). As an update leaves the key alone, that is the
last key that was set or assigned, and the row is the one of the first key only if both keys are cast to
the same value (`life_addresses`).
-/

namespace RecordMapper

/-! ## Addresses -/

/-- A row of a table, told by the value in a column. -/
structure Address where
  table : String
  column : String
  value : Value
deriving DecidableEq

/-- The row that a statement changes or removes. -/
def Sql.Statement.address? : Sql.Statement → Option Address
  | update u => some ⟨u.table, u.key.1, u.key.2⟩
  | delete x => some ⟨x.table, x.key.1, x.key.2⟩
  | _ => none

/-- The request runs a statement that changes or removes the row. -/
def Request.Addresses (address : Address) (request : Request) : Prop :=
  ∃ adapter cx d, ∃ t : Sql.Statement, t.address? = some address ∧
    request = .exec adapter cx (t.serialize d []).1 (t.serialize d []).2

/-- The row of a key: it is in the table of the model, under the key cast to the type of the primary
key. -/
def Session.address? (s : Session) (model : String) (key : Value) : Option Address := do
  let m ← s.registry.find? model
  let a ← m.primaryKeyAttribute?
  let value ← a.type.cast? key
  return ⟨m.tableName, a.name, value⟩

variable {s : Session} {cx : Context} {model : String} {key : Value} {address other : Address}

theorem Session.address?_eq_some : s.address? model key = some address ↔
    ∃ m a value, s.registry.find? model = some m ∧ m.primaryKeyAttribute? = some a ∧
      a.type.cast? key = some value ∧ ⟨m.tableName, a.name, value⟩ = address := by
  unfold address?
  simp only [Option.bind_eq_bind, Option.bind_eq_some_iff, Option.pure_def, Option.some.injEq,
    exists_and_left]

/-- The key is the last parameter of a change and the only one of a removal. -/
theorem Request.Addresses.last_param {request : Request} (h : request.Addresses address) :
    ∃ adapter cx sql params, request = .exec adapter cx sql params ∧
      params.getLast? = some address.value := by
  obtain ⟨adapter, cx, d, t, ht, rfl⟩ := h
  refine ⟨adapter, cx, _, _, rfl, ?_⟩
  cases t with
  | update u =>
    cases ht
    have hparams := Sql.Statement.params_wording d (s := .update u) trivial
    show ([] ++ Sql.Template.params ((Sql.Statement.update u).wording d)).getLast? = _
    rw [List.nil_append, hparams]
    exact List.getLast?_concat
  | delete x =>
    cases ht
    rfl
  | select _ => cases ht
  | insert _ => cases ht
  | createTable _ => cases ht

/-- A request goes to one row of a model's table. -/
theorem Request.Addresses.unique {request : Request} {k : Value} (h : request.Addresses address)
    (h' : request.Addresses other) (haddress : s.address? model key = some address)
    (hother : s.address? model k = some other) : address = other := by
  obtain ⟨m, a, value, hm, ha, _, rfl⟩ := Session.address?_eq_some.mp haddress
  obtain ⟨m', a', value', hm', ha', _, rfl⟩ := Session.address?_eq_some.mp hother
  obtain rfl : m = m' := Option.some.inj (hm.symm.trans hm')
  obtain rfl : a = a' := Option.some.inj (ha.symm.trans ha')
  obtain ⟨_, _, _, params, rfl, hlast⟩ := h.last_param
  obtain ⟨_, _, _, params', heq, hlast'⟩ := h'.last_param
  cases heq
  have hvalue : value = value' := Option.some.inj (hlast.symm.trans hlast')
  rw [hvalue]

namespace Record

variable {r r' : Record} {log : List Exchange}

theorem get?_of_key? (h : r.key? = some key) : r.get? r.model.primaryKey = some key := by
  unfold key? at h
  unfold get?
  cases hget : r.values.get? r.model.primaryKey with
  | none =>
    rw [hget] at h
    cases h
  | some key' =>
    rw [hget] at h
    cases hnull : key'.isNull with
    | true => simp [hnull] at h
    | false => simpa [hnull] using h

/-! ## Deeds -/

namespace Deed

variable {deed : Deed} {stmt : Statement} {t : Sql.Statement}

theorem lowered_key {m : Model} {entry : String × Value} (hm : s.registry.get model = .ok m)
    (hentry : Sql.lowerKey m key = .ok entry) :
    s.address? model key = some ⟨m.tableName, entry.1, entry.2⟩ := by
  obtain ⟨a, value, ha, _, hvalue, rfl⟩ := Sql.lowerKey_eq_ok.mp hentry
  exact Session.address?_eq_some.mpr
    ⟨m, a, value, Registry.get_eq_ok.mp hm, ha, hvalue, rfl⟩

/-- Unless the record is new, the statement behind a deed is about the row of its key. -/
theorem statement_addressed (hnew : r.status ≠ .new) (hstmt : deed.statement r = .ok stmt)
    (hlower : Sql.lower s.registry stmt = .ok t) :
    ∃ key, r.key? = some key ∧
      ∃ address, s.address? r.model.name key = some address ∧ t.address? = some address := by
  obtain ⟨m, hm, hfor⟩ := Sql.lower_eq_ok.mp hlower
  cases deed with
  | insert => exact absurd (statement_insert.mp hstmt).1 hnew
  | update =>
    obtain ⟨key, hkey, rfl⟩ := map_eq_ok.mp hstmt
    obtain ⟨u, hu, rfl⟩ := map_eq_ok.mp hfor
    obtain ⟨entry, _, hentry, _, _, rfl⟩ := Sql.lowerUpdate_eq_ok.mp hu
    exact ⟨key, (persistedKey_eq_ok.mp hkey).2, _, lowered_key hm hentry, rfl⟩
  | destroy =>
    obtain ⟨key, hkey, rfl⟩ := map_eq_ok.mp hstmt
    obtain ⟨x, hx, rfl⟩ := map_eq_ok.mp hfor
    obtain ⟨entry, hentry, rfl⟩ := Sql.lowerDelete_eq_ok.mp hx
    exact ⟨key, (persistedKey_eq_ok.mp hkey).2, _, lowered_key hm hentry, rfl⟩

/-- What a record sends once it was inserted goes to the row of the key that it shows. -/
theorem runs_addressed (hnew : r.status ≠ .new) (h : (deed.perform s cx r).Runs log r') :
    ∀ e ∈ log, ∃ key, r.key? = some key ∧
      ∃ address, s.address? r.model.name key = some address ∧ e.request.Addresses address := by
  rcases runs_iff.mp h with ⟨_, _, rfl, _⟩ | ⟨stmt, reply, hstmt, hexec, _⟩
  · exact List.forall_mem_nil _
  · rcases Session.exec_runs hexec with ⟨rfl, _⟩ | ⟨compiled, answer, hcompile, _, rfl, _⟩
    · exact List.forall_mem_nil _
    · obtain ⟨hlower, _, htext⟩ := Session.compile_eq_ok.mp hcompile
      obtain ⟨key, hkey, address, haddress, ht⟩ := statement_addressed hnew hstmt hlower
      refine List.forall_mem_singleton.mpr ⟨key, hkey, address, haddress, ?_⟩
      exact ⟨_, _, compiled.connection.dialect, compiled.statement, ht, by rw [htext]⟩

/-- An update writes values back, but not under the name of the primary key. -/
theorem stored_of_update {compiled : Session.Compiled} {m : Model}
    (hcompile : s.compile (.update model key r.values) = .ok compiled)
    (hm : s.registry.find? model = some m) :
    m.primaryKey ∉ (storedValues compiled.statement).map Prod.fst := by
  obtain ⟨hlower, _, _⟩ := Session.compile_eq_ok.mp hcompile
  obtain ⟨m', hm', hfor⟩ := Sql.lower_eq_ok.mp hlower
  obtain rfl : m = m' := Option.some.inj (hm.symm.trans (Registry.get_eq_ok.mp hm'))
  obtain ⟨u, hu, heq⟩ := map_eq_ok.mp hfor
  obtain ⟨_, assignments, _, hassign, _, rfl⟩ := Sql.lowerUpdate_eq_ok.mp hu
  rw [← heq]
  show m.primaryKey ∉ assignments.map Prod.fst
  intro hmem
  obtain ⟨row, hrow, hname⟩ := List.mem_map.mp hmem
  obtain ⟨entry, hentry, hassigned⟩ := exists_of_mem_mapM hassign hrow
  obtain ⟨a, _, ha, _, _, rfl⟩ := Sql.assignment_eq_ok.mp hassigned
  have hne : entry.1 ≠ m.primaryKey := by simpa using (List.mem_filter.mp hentry).2
  exact hne ((Model.mem_of_attribute? ha).2.symm.trans hname)

end Deed

/-! ## Steps -/

/-- What the action puts under the name, be it the primary key or not. -/
def Action.given? (name : String) : Action → Option Value
  | set other value => if name = other then some value else none
  | assign values => values.get? name
  | run _ _ _ => none

namespace Step

/-- The row of a key, as the session of the step has it. -/
def address? (x : Step) (key : Value) : Option Address :=
  match x.action with
  | .run _ s _ => s.address? x.before.model.name key
  | _ => none

/-- The request goes to the row of the key. -/
def SentTo (x : Step) (key : Value) (request : Request) : Prop :=
  ∃ address, x.address? key = some address ∧ request.Addresses address

/-- If the step is an update, then under a definition of the model that has the primary key which the
record knows. -/
def KnowsKey (x : Step) : Prop :=
  ∀ s cx m, x.action = .run .update s cx → s.registry.find? x.before.model.name = some m →
    m.primaryKey = x.before.model.primaryKey

variable {x : Step}

theorem sentTo_key (hnew : x.before.status ≠ .new)
    (hrun : (x.action.perform x.before).Runs x.log x.after) :
    ∀ e ∈ x.log, ∃ key, x.before.key? = some key ∧ x.SentTo key e.request ∧
      ∀ k, x.SentTo k e.request ↔ x.address? k = x.address? key := by
  obtain ⟨before, action, log, after⟩ := x
  cases action with
  | set name value =>
    obtain ⟨rfl, _⟩ := Dialogue.runs_pure.mp hrun
    exact List.forall_mem_nil _
  | assign values =>
    obtain ⟨rfl, _⟩ := Dialogue.runs_pure.mp hrun
    exact List.forall_mem_nil _
  | run deed s cx =>
    intro e he
    obtain ⟨key, hkey, address, haddress, hsent⟩ := Deed.runs_addressed hnew hrun e he
    refine ⟨key, hkey, ⟨address, haddress, hsent⟩, fun k => ⟨?_, fun hsame => ?_⟩⟩
    · rintro ⟨other, hother, hsent'⟩
      obtain rfl := hsent.unique hsent' haddress hother
      exact hother.trans haddress.symm
    · exact ⟨address, hsame.trans haddress, hsent⟩

/-- A deed leaves the key of a record alone that was inserted before. -/
theorem get?_run {deed : Deed} (hnew : r.status ≠ .new)
    (hrun : (deed.perform s cx r).Runs log r')
    (hknows : (⟨r, .run deed s cx, log, r'⟩ : Step).KnowsKey) :
    r'.model = r.model ∧ r'.get? r.model.primaryKey = r.get? r.model.primaryKey := by
  rcases Deed.runs_iff.mp hrun with ⟨e, _, _, rfl⟩ | ⟨stmt, reply, hstmt, hexec, rfl⟩
  · exact ⟨rfl, rfl⟩
  · rcases Session.exec_runs hexec with ⟨_, e, rfl⟩ | ⟨compiled, answer, hcompile, _, _, rfl⟩
    · rw [Deed.settled_error]
      exact ⟨rfl, rfl⟩
    · cases answer with
      | error e =>
        show (finish (deed.settled r (.error e))).model = r.model ∧
          (finish (deed.settled r (.error e))).get? _ = _
        rw [Deed.settled_error]
        exact ⟨rfl, rfl⟩
      | ok response =>
        cases deed with
        | insert => exact absurd (Deed.statement_insert.mp hstmt).1 hnew
        | destroy => exact ⟨rfl, rfl⟩
        | update =>
          -- only what was assigned is written back, and the key never is
          obtain ⟨key, hkey, rfl⟩ := map_eq_ok.mp hstmt
          obtain ⟨_, ⟨m, hm, _⟩, _⟩ := Session.compile_eq_ok.mp hcompile
          have hfind := Registry.get_eq_ok.mp hm
          have hnot := Deed.stored_of_update hcompile hfind
          rw [hknows s cx m rfl hfind] at hnot
          exact ⟨rfl, OrderedMap.get?_insertAll_of_notMem hnot⟩

/-- A step gives the key that is set or assigned and leaves it otherwise. -/
theorem get?_perform {action : Action} (hnew : r.status ≠ .new)
    (hrun : (action.perform r).Runs log r') (hknows : (⟨r, action, log, r'⟩ : Step).KnowsKey) :
    r'.model = r.model ∧ r'.get? r.model.primaryKey =
      (action.given? r.model.primaryKey).or (r.get? r.model.primaryKey) := by
  cases action with
  | set name value =>
    obtain ⟨_, rfl⟩ := Dialogue.runs_pure.mp hrun
    refine ⟨rfl, ?_⟩
    show (r.values.insert name value).get? _ = _
    rw [OrderedMap.get?_insert]
    by_cases hname : r.model.primaryKey = name
    · simp [Action.given?, hname]
    · simp [Action.given?, hname, get?]
  | assign values =>
    obtain ⟨_, rfl⟩ := Dialogue.runs_pure.mp hrun
    exact ⟨rfl, OrderedMap.get?_merge _ _ _⟩
  | run deed s cx => exact get?_run hnew hrun hknows

end Step

/-! ## Lives -/

/-- The value that was put last under the name, or else the one that was there. -/
def lastGiven (name : String) (value : Value) (actions : List Action) : Value :=
  (actions.filterMap (Action.given? name)).getLast?.getD value

variable {pre post steps : List Step} {x : Step} {k : Value}

theorem lastGiven_concat (name : String) (value : Value) (actions : List Action) (action : Action) :
    lastGiven name value (actions ++ [action]) =
      (action.given? name).getD (lastGiven name value actions) := by
  unfold lastGiven
  rw [List.filterMap_append]
  cases hgiven : action.given? name with
  | none => simp [hgiven]
  | some given => simp [hgiven]

theorem lastGiven_of_none {name : String} {actions : List Action}
    (h : ∀ action ∈ actions, action.given? name = none) : lastGiven name key actions = key := by
  unfold lastGiven
  rw [List.filterMap_eq_nil_iff.mpr h]
  rfl

/-- A life up to one of its steps, and the run of that step. -/
theorem Life.split (life : r.Life (pre ++ x :: post) r') :
    r.Life pre x.before ∧ (x.action.perform x.before).Runs x.log x.after := by
  generalize hsteps : pre ++ x :: post = steps at life
  induction life generalizing post with
  | begin => simp at hsteps
  | @step steps before after action log life hrun ih =>
    -- the last step of the life is `x` itself or one of those after it
    rcases List.eq_nil_or_concat post with rfl | ⟨rest, y, rfl⟩
    · obtain ⟨rfl, hlast⟩ := List.append_inj' hsteps rfl
      cases hlast
      exact ⟨life, hrun⟩
    · have hinit : (pre ++ x :: rest) ++ [y] = steps ++ [⟨before, action, log, after⟩] := by
        simpa using hsteps
      exact ih (List.append_inj' hinit rfl).1

theorem Life.not_new (life : r.Life steps r') (hnew : r.status ≠ .new) : r'.status ≠ .new := by
  induction life with
  | begin => exact hnew
  | step _ hrun ih =>
    rcases (Step.lawful hrun).status with hsame | ⟨_, _, hbefore, _⟩ | ⟨_, _, _, hafter⟩
    · rw [hsame]
      exact ih
    · exact absurd hbefore ih
    · rw [hafter]
      exact fun h => nomatch h

/-- After any steps the key is the last one that was set or assigned. -/
theorem Life.get?_key (life : r.Life steps r') (hnew : r.status ≠ .new)
    (hknows : ∀ y ∈ steps, y.KnowsKey) (hkey : r.get? r.model.primaryKey = some k) :
    r'.model = r.model ∧ r'.get? r.model.primaryKey =
      some (lastGiven r.model.primaryKey k (steps.map Step.action)) := by
  induction life with
  | begin => exact ⟨rfl, hkey⟩
  | @step steps before after action log life hrun ih =>
    obtain ⟨hmodel, hbefore⟩ := ih fun y hy => hknows y (List.mem_append_left _ hy)
    have hknown : (⟨before, action, log, after⟩ : Step).KnowsKey :=
      hknows _ (List.mem_append_right _ (List.mem_singleton_self _))
    obtain ⟨hmodel', hafter⟩ := Step.get?_perform (life.not_new hnew) hrun hknown
    rw [hmodel, hbefore] at hafter
    refine ⟨hmodel'.trans hmodel, ?_⟩
    rw [hafter, List.map_append, List.map_singleton, lastGiven_concat]
    cases action.given? r.model.primaryKey with
    | none => rfl
    | some given => rfl

/-- What a persisted record sends in its life goes to the row of the key that it shows at the time, and
to the row of its first key just if that key is cast alike. The key that it shows is the last one that
was set or assigned; without such a step all goes to the row of the first key. -/
theorem life_addresses (hpersisted : r.status = .persisted) (hkey : r.key? = some k)
    (life : r.Life (pre ++ x :: post) r') :
    (∀ e ∈ x.log, ∃ key, x.before.key? = some key ∧ x.SentTo key e.request ∧
        (x.SentTo k e.request ↔ x.address? k = x.address? key)) ∧
      ((∀ y ∈ pre, y.KnowsKey) → x.before.get? r.model.primaryKey =
        some (lastGiven r.model.primaryKey k (pre.map Step.action))) ∧
      ((∀ y ∈ pre, y.KnowsKey ∧ y.action.given? r.model.primaryKey = none) →
        ∀ e ∈ x.log, x.SentTo k e.request) := by
  have hnew : r.status ≠ .new := by
    rw [hpersisted]
    exact fun h => nomatch h
  obtain ⟨before, hrun⟩ := life.split
  have hsent := Step.sentTo_key (before.not_new hnew) hrun
  have hget := fun hknows => before.get?_key hnew hknows (get?_of_key? hkey)
  refine ⟨fun e he => ?_, fun hknows => (hget hknows).2, fun hquiet e he => ?_⟩
  · obtain ⟨key, hshown, hkeyed, hiff⟩ := hsent e he
    exact ⟨key, hshown, hkeyed, hiff k⟩
  · obtain ⟨key, hshown, hkeyed, _⟩ := hsent e he
    obtain ⟨hmodel, hlast⟩ := hget fun y hy => (hquiet y hy).1
    have hnone : ∀ action ∈ pre.map Step.action, action.given? r.model.primaryKey = none := by
      intro action haction
      obtain ⟨y, hy, rfl⟩ := List.mem_map.mp haction
      exact (hquiet y hy).2
    rw [lastGiven_of_none hnone, ← hmodel, get?_of_key? hshown] at hlast
    obtain rfl : key = k := Option.some.inj hlast
    exact hkeyed

end Record

namespace Bookshop

def rekeyedEmma : Record := storedEmma.set "uid" (.int 8)

def rating : Value := .float (Binary64.ofInt64 3)

/-- The update of a record that was given the key 8. -/
def rekeyedUpdate : Session.Compiled where
  connection := ⟨0, "primary", adapter 0⟩
  statement := .update
    ⟨"books", [("title", .text "Emma"), ("year", .int 1815), ("rating", rating)], ("uid", .int 8)⟩
  sql := "UPDATE \"books\" SET \"title\" = $1, \"year\" = $2, \"rating\" = $3 WHERE \"uid\" = $4;"
  params := [.text "Emma", .int 1815, rating, .int 8]

def rekeying : Record.Step := ⟨storedEmma, .set "uid" (.int 8), [], rekeyedEmma⟩

def rekeyed : Record.Step where
  before := rekeyedEmma
  action := .run .update opened.session background
  log := [⟨.exec (adapter 0) background rekeyedUpdate.sql rekeyedUpdate.params, .ok ⟨1, none⟩⟩]
  after := rekeyedEmma

theorem compile_rekeyed :
    opened.session.compile (.update "book" (.int 8) rekeyedEmma.values) = .ok rekeyedUpdate := by
  decide +kernel

theorem rekeyed_life : storedEmma.Life ([rekeying] ++ [rekeyed]) rekeyedEmma := by
  refine .step (.step .begin (.done _)) ?_
  show (Record.Deed.update.perform opened.session background rekeyedEmma).Runs _ _
  refine Record.Deed.runs_iff.mpr (.inr ⟨_, _, rfl,
    Session.exec_runs_of_compile compile_rekeyed rfl (.ok ⟨1, none⟩), ?_⟩)
  decide +kernel

/-- Emma is inserted into the row 7 and is given the key 8, and her update changes the row 8. -/
theorem rekeyed_not_sentTo :
    (Record.Deed.insert.perform opened.session background emma).Runs
        [⟨.exec (adapter 0) background emmaInsert.sql emmaInsert.params, .ok ⟨1, some (.int 7)⟩⟩]
        storedEmma ∧
      storedEmma.status = .persisted ∧ storedEmma.key? = some (.int 7) ∧
      storedEmma.Life ([rekeying] ++ [rekeyed]) rekeyedEmma ∧
      ∃ e ∈ rekeyed.log, ¬rekeyed.SentTo (.int 7) e.request := by
  refine ⟨runs_emmaInsert (.ok ⟨1, some (.int 7)⟩), rfl, rfl, rekeyed_life, _,
    List.mem_singleton_self _, ?_⟩
  rintro ⟨address, haddress, hsent⟩
  obtain ⟨_, _, _, _, heq, hlast⟩ := hsent.last_param
  cases heq
  have hseven : rekeyed.address? (.int 7) = some ⟨"books", "uid", .int 7⟩ := by decide +kernel
  rw [hseven] at haddress
  cases haddress
  cases hlast

theorem rekeyed_sentTo : storedEmma.status = .persisted ∧ storedEmma.key? = some (.int 7) ∧
    storedEmma.Life ([rekeying] ++ [rekeyed]) rekeyedEmma ∧
    (∀ e ∈ rekeyed.log, ∃ key, rekeyed.before.key? = some key ∧ rekeyed.SentTo key e.request ∧
      (rekeyed.SentTo (.int 7) e.request ↔ rekeyed.address? (.int 7) = rekeyed.address? key)) ∧
    ((∀ y ∈ [rekeying], y.KnowsKey) → rekeyed.before.get? "uid" =
      some (Record.lastGiven "uid" (.int 7) [.set "uid" (.int 8)])) ∧
    ((∀ y ∈ [rekeying], y.KnowsKey ∧ y.action.given? "uid" = none) →
      ∀ e ∈ rekeyed.log, rekeyed.SentTo (.int 7) e.request) :=
  ⟨rfl, rfl, rekeyed_life, Record.life_addresses rfl rfl rekeyed_life⟩

end Bookshop

end RecordMapper
