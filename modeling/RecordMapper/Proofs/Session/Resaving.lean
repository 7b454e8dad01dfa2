import RecordMapper.Proofs.Session.OwnRow
import RecordMapper.Proofs.Session.Stored

/-!
# Records that are saved again

What an update has stored is written back as it was cast, under the names and in the places that it had,
and a cast value is cast to itself. So from then on the record is saved by the same statement, and once
more nothing changes but what is noted about the outcome (`Record.update_again`). The key is not written
back: it stays as it was given, and is cast anew each time.
-/

namespace RecordMapper

theorem ValueType.cast?_cast? {t : ValueType} {v w : Value} (h : t.cast? v = some w) :
    t.cast? w = some w := by
  rcases type?_of_cast? h with rfl | htype
  · exact cast?_null t
  · exact cast?_of_type? htype

/-! ## Statements that are lowered again -/

namespace Sql

variable {m : Model} {key : Value} {values : Values} {entry row : String × Value} {u : Update}

theorem assignment_again (h : assignment m entry = .ok row) : assignment m row = .ok row := by
  obtain ⟨a, w, ha, hcast, hpresent, rfl⟩ := assignment_eq_ok.mp h
  have hname : a.name = entry.1 := (Model.mem_of_attribute? ha).2
  have ha' : m.attribute? a.name = some a := by
    rw [hname]
    exact ha
  exact assignment_eq_ok.mpr ⟨a, w, ha', ValueType.cast?_cast? hcast, hpresent, rfl⟩

/-- What an update assigns is what the same update of the values with that written back assigns. -/
theorem lowerUpdate_again (h : lowerUpdate m key values = .ok u) :
    lowerUpdate m key (values.insertAll u.assignments) = .ok u := by
  obtain ⟨row, assignments, hkey, hassign, hne, rfl⟩ := lowerUpdate_eq_ok.mp h
  have hnames : assignments.map Prod.fst = (values.erase m.primaryKey).names :=
    map_eq_of_mapM hassign fun _ _ => assignment_name
  have hbeside : (values.insertAll assignments).entries.filter (fun entry => entry.1 ≠ m.primaryKey) =
      assignments := OrderedMap.entries_erase_insertAll hnames
  have hagain : assignments.mapM (assignment m) = .ok assignments := by
    rw [mapM_eq_ok, List.forall₂_same]
    intro row hrow
    obtain ⟨entry, _, hentry⟩ := exists_of_mem_mapM hassign hrow
    exact assignment_again hentry
  refine lowerUpdate_eq_ok.mpr ⟨row, assignments, hkey, ?_, hne, rfl⟩
  rw [hbeside]
  exact hagain

end Sql

/-! ## Sessions that agree about a model -/

/-- The model and the connection that it is bound to are the same in both sessions. -/
structure Session.Unchanged (s s' : Session) (m : Model) : Prop where
  model : s'.registry.get m.name = s.registry.get m.name
  connection : s'.connections.get? m.connection = s.connections.get? m.connection
  closed : ∀ c, s.connections.get? m.connection = some c → s'.isClosed c = s.isClosed c

/-- In sessions that can come up, a connection that is found is open in both. -/
theorem History.unchanged_of_reached {h h' : History} {drivers drivers' : List (String × Driver)}
    {m : Model} (reached : h.Reached drivers) (reached' : h'.Reached drivers')
    (hmodel : h'.session.registry.get m.name = h.session.registry.get m.name)
    (hconnection : h'.session.connections.get? m.connection = h.session.connections.get? m.connection) :
    h.session.Unchanged h'.session m where
  model := hmodel
  connection := hconnection
  closed c hc := by
    have hc' : h'.session.connections.get? m.connection = some c := hconnection.trans hc
    rw [reached.sound.isClosed_of_get? hc, reached'.sound.isClosed_of_get? hc']

namespace Record

variable {s s' : Session} {cx : Context} {r r' : Record} {log : List Exchange} {key : Value}
  {compiled : Session.Compiled}

/-! ## Updates that go well -/

theorem update_runs_iff (hkey : r.persistedKey = .ok key)
    (hcompile : s.compile (.update r.model.name key r.values) = .ok compiled)
    (hopen : s.isClosed compiled.connection = false) :
    (r.update s cx).Runs log r' ↔ ∃ answer,
      log = [⟨.exec compiled.connection.adapter cx compiled.sql compiled.params, answer⟩] ∧
        r' = finish (r.updated (answer.map fun response => (compiled, response))) := by
  have hstmt : Deed.update.statement r = .ok (.update r.model.name key r.values) :=
    map_eq_ok.mpr ⟨key, hkey, rfl⟩
  constructor
  · intro h
    have hdeed : (Deed.update.perform s cx r).Runs log r' := h
    rcases Deed.runs_iff.mp hdeed with ⟨e, hrefused, _⟩ | ⟨stmt, reply, hstmt', hexec, rfl⟩
    · rw [hstmt] at hrefused
      cases hrefused
    · cases hstmt.symm.trans hstmt'
      obtain ⟨answer, rfl, rfl⟩ := (Session.exec_runs_iff hcompile hopen).mp hexec
      exact ⟨answer, rfl, rfl⟩
  · rintro ⟨answer, rfl, rfl⟩
    exact Deed.runs_iff.mpr
      (.inr ⟨_, _, hstmt, Session.exec_runs_of_compile hcompile hopen answer, rfl⟩)

theorem update_accepted (h : (r.update s cx).Runs log r') (hok : r'.isOk = true) :
    ∃ key compiled response, r.persistedKey = .ok key ∧
      s.compile (.update r.model.name key r.values) = .ok compiled ∧
      s.isClosed compiled.connection = false ∧
      log = [⟨.exec compiled.connection.adapter cx compiled.sql compiled.params, .ok response⟩] ∧
      r' = { r.writeBack (storedValues compiled.statement) with error? := none } := by
  have hdeed : (Deed.update.perform s cx r).Runs log r' := h
  rcases Deed.runs_iff.mp hdeed with ⟨e, _, _, rfl⟩ | ⟨stmt, reply, hstmt, hexec, rfl⟩
  · cases hok
  · obtain ⟨key, hkey, rfl⟩ := map_eq_ok.mp hstmt
    rcases Session.exec_runs hexec with ⟨_, e, rfl⟩ | ⟨compiled, answer, hcompile, hopen, rfl, rfl⟩
    · cases hok
    · cases answer with
      | error e => cases hok
      | ok response => exact ⟨key, compiled, response, hkey, hcompile, hopen, rfl, rfl⟩

theorem key?_congr (hmodel : r'.model = r.model)
    (hget : r'.get? r.model.primaryKey = r.get? r.model.primaryKey) : r'.key? = r.key? := by
  unfold get? at hget
  unfold key?
  rw [hmodel, hget]

theorem persistedKey_writeBack {entries : List (String × Value)} (error? : Option Error)
    (hnot : r.model.primaryKey ∉ entries.map Prod.fst) :
    ({ r.writeBack entries with error? := error? } : Record).persistedKey = r.persistedKey := by
  have hkey : ({ r.writeBack entries with error? := error? } : Record).key? = r.key? :=
    key?_congr rfl (OrderedMap.get?_insertAll_of_notMem hnot)
  unfold persistedKey
  rw [hkey]
  rfl

/-- Where nothing has changed about the model, the update of the record with the stored values written
back is made ready as before. -/
theorem compile_again (hregistered : s.registry.get r.model.name = .ok r.model)
    (hsame : s.Unchanged s' r.model)
    (hcompile : s.compile (.update r.model.name key r.values) = .ok compiled) :
    s'.compile (.update r.model.name key (r.writeBack (storedValues compiled.statement)).values) =
      .ok compiled := by
  obtain ⟨hlower, ⟨m, hm, hconnection⟩, htext⟩ := Session.compile_eq_ok.mp hcompile
  obtain rfl : r.model = m := Except.ok.inj (hregistered.symm.trans hm)
  obtain ⟨m', hm', hfor⟩ := Sql.lower_eq_ok.mp hlower
  obtain rfl : r.model = m' := Except.ok.inj (hregistered.symm.trans hm')
  obtain ⟨u, hu, hstatement⟩ := map_eq_ok.mp hfor
  have hregistered' : s'.registry.get r.model.name = .ok r.model := hsame.model.trans hregistered
  have hagain : Sql.lowerUpdate r.model key
      (r.writeBack (storedValues compiled.statement)).values = .ok u := by
    rw [← hstatement]
    exact Sql.lowerUpdate_again hu
  refine Session.compile_eq_ok.mpr ⟨?_, ⟨r.model, hregistered', hsame.connection.trans hconnection⟩, htext⟩
  exact Sql.lower_eq_ok.mpr ⟨r.model, hregistered', map_eq_ok.mpr ⟨u, hagain, hstatement⟩⟩

/-- A record that shows what is stored is left as it is, but for the outcome. -/
theorem finish_updated (hshown : r.writeBack (storedValues compiled.statement) = r)
    (answer : Except Error ExecResponse) :
    finish (r.updated (answer.map fun response => (compiled, response))) =
      { r with error? := failure? answer } := by
  cases answer with
  | error e => rfl
  | ok response =>
    show { r.writeBack (storedValues compiled.statement) with error? := none } = _
    rw [hshown]
    rfl

theorem update_of_shown (hkey : r.persistedKey = .ok key)
    (hcompile : s.compile (.update r.model.name key r.values) = .ok compiled)
    (hopen : s.isClosed compiled.connection = false)
    (hshown : r.writeBack (storedValues compiled.statement) = r) :
    (r.update s cx).Runs log r' ↔ ∃ answer,
      log = [⟨.exec compiled.connection.adapter cx compiled.sql compiled.params, answer⟩] ∧
        r' = { r with error? := failure? answer } := by
  rw [update_runs_iff hkey hcompile hopen]
  simp only [finish_updated hshown]

/-- After an update that went well the record is updated by the same text with the same parameters, as
long as its model and the connection are the same, whatever has failed since; and that changes nothing
about the record but the noted outcome. -/
theorem update_again (hregistered : s.registry.get r.model.name = .ok r.model)
    (h : (r.update s cx).Runs log r') (hok : r'.isOk = true) :
    ∃ adapter sql params response, log = [⟨.exec adapter cx sql params, .ok response⟩] ∧
      ∀ s' cx' error? log' r'', s.Unchanged s' r.model →
        ((({ r' with error? := error? } : Record).update s' cx').Runs log' r'' ↔
          ∃ answer, log' = [⟨.exec adapter cx' sql params, answer⟩] ∧
            r'' = { r' with error? := failure? answer }) := by
  obtain ⟨key, compiled, response, hkey, hcompile, hopen, rfl, rfl⟩ := update_accepted h hok
  refine ⟨_, _, _, response, rfl, ?_⟩
  intro s' cx' error? log' r'' hsame
  have hnot : r.model.primaryKey ∉ (storedValues compiled.statement).map Prod.fst :=
    Deed.stored_of_update hcompile (Registry.get_eq_ok.mp hregistered)
  have hopen' : s'.isClosed compiled.connection = false := by
    obtain ⟨_, ⟨m, hm, hconnection⟩, _⟩ := Session.compile_eq_ok.mp hcompile
    obtain rfl : r.model = m := Except.ok.inj (hregistered.symm.trans hm)
    exact (hsame.closed _ hconnection).trans hopen
  have hcompile' := compile_again hregistered hsame hcompile
  have hshown : { r.writeBack (storedValues compiled.statement) with error? := error? }.writeBack
      (storedValues compiled.statement) =
        { r.writeBack (storedValues compiled.statement) with error? := error? } :=
    congrArg (fun values => { r with values := values, error? := error? })
      (OrderedMap.insertAll_insertAll r.values _)
  have hkey' := (persistedKey_writeBack error? hnot).trans hkey
  exact update_of_shown hkey' hcompile' hopen' hshown

end Record

namespace Bookshop

/-- A book whose key and year are not whole numbers by type, and whose rating is one. -/
def looseEmma : Record where
  model := book
  values := ⟨[("uid", .float (Binary64.ofInt64 7)), ("title", .text "Emma"),
    ("year", .float (Binary64.ofInt64 1815)), ("rating", .int 3)], by decide⟩
  status := .persisted
  error? := none

/-- The book after an update. -/
def strictEmma : Record where
  model := book
  values := ⟨[("uid", .float (Binary64.ofInt64 7)), ("title", .text "Emma"), ("year", .int 1815),
    ("rating", rating)], by decide⟩
  status := .persisted
  error? := none

def emmaUpdate : Session.Compiled where
  connection := ⟨0, "primary", adapter 0⟩
  statement := .update
    ⟨"books", [("title", .text "Emma"), ("year", .int 1815), ("rating", rating)], ("uid", .int 7)⟩
  sql := "UPDATE \"books\" SET \"title\" = $1, \"year\" = $2, \"rating\" = $3 WHERE \"uid\" = $4;"
  params := [.text "Emma", .int 1815, rating, .int 7]

/-- Loans are defined as well. -/
def lending : History :=
  { opened with session := { opened.session with registry := ⟨[book, loan]⟩ } }

theorem reached_lending : lending.Reached drivers := by
  have hdefine : opened.session.define (.ofClauses "Loan" loanClauses) = .ok (loan, lending.session) := by
    decide +kernel
  exact reached_opened.define hdefine

theorem runs_emmaUpdate : (looseEmma.update opened.session background).Runs
    [⟨.exec (adapter 0) background emmaUpdate.sql emmaUpdate.params, .ok ⟨1, none⟩⟩] strictEmma := by
  have hcompile : opened.session.compile
      (.update "book" (.float (Binary64.ofInt64 7)) looseEmma.values) = .ok emmaUpdate := by
    decide +kernel
  refine (Record.update_runs_iff rfl hcompile rfl).mpr ⟨.ok ⟨1, none⟩, rfl, ?_⟩
  decide +kernel

/-- The second update has another context and comes after another model was defined. -/
theorem strictEmma_updated : opened.session.registry.get "book" = .ok book ∧
    (looseEmma.update opened.session background).Runs
      [⟨.exec (adapter 0) background emmaUpdate.sql emmaUpdate.params, .ok ⟨1, none⟩⟩] strictEmma ∧
    strictEmma.isOk = true ∧ opened.session.Unchanged lending.session book ∧
    ∀ log r, (strictEmma.update lending.session ⟨1, [0], some 9⟩).Runs log r ↔
      ∃ answer, log = [⟨.exec (adapter 0) ⟨1, [0], some 9⟩ emmaUpdate.sql emmaUpdate.params, answer⟩] ∧
        r = { strictEmma with error? := failure? answer } := by
  have hregistered : opened.session.registry.get "book" = .ok book := by decide +kernel
  have hregistered' : lending.session.registry.get "book" = .ok book := by decide +kernel
  have hsame : opened.session.Unchanged lending.session book :=
    History.unchanged_of_reached reached_opened reached_lending
      (hregistered'.trans hregistered.symm) rfl
  obtain ⟨_, _, _, _, hlog, hagain⟩ := Record.update_again hregistered runs_emmaUpdate rfl
  cases hlog
  exact ⟨hregistered, runs_emmaUpdate, rfl, hsame,
    fun log r => hagain lending.session ⟨1, [0], some 9⟩ none log r hsame⟩

end Bookshop

end RecordMapper
