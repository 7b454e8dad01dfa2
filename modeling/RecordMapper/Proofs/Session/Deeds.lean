import RecordMapper.Proofs.Session.Lifecycle

/-!
# What a failed deed leaves behind

A deed is refused before anything is asked, or it is the run of its statement, whose answer settles the
record (`Deed.runs_iff`). A deed that failed has changed nothing but the noted error, with one exception:
an insertion that the database accepted, but that was given a key for the row which the record cannot
take over (`KeyRefused`). Then the row is there and its values are written back, while the record stays
new (`Deed.failed_eq_iff`).
-/

namespace RecordMapper

namespace Record

variable {s : Session} {cx : Context} {r r' : Record} {log : List Exchange} {e : Error}

/-! ## The statement behind a deed -/

theorem persistedKey_eq_ok {key : Value} :
    r.persistedKey = .ok key ↔ r.status = .persisted ∧ r.key? = some key := by
  unfold persistedKey
  cases r.key? with
  | none => simp
  | some key' =>
    by_cases hstatus : r.status = .persisted
    · simp [hstatus]
    · simp [hstatus]

namespace Deed

variable {deed : Deed} {stmt : Statement}

/-- The statement behind a deed, or why the deed is refused. -/
def statement (r : Record) : Deed → Except Error Statement
  | insert => if r.status = .new then .ok (.insert r.model.name r.values) else .error r.notNew
  | update => r.persistedKey.map fun key => .update r.model.name key r.values
  | destroy => r.persistedKey.map fun key => .delete r.model.name key

theorem statement_insert :
    insert.statement r = .ok stmt ↔ r.status = .new ∧ .insert r.model.name r.values = stmt := by
  unfold statement
  by_cases hnew : r.status = .new
  · simp [hnew]
  · simp [hnew]

theorem perform_of_refused (h : deed.statement r = .error e) :
    deed.perform s cx r = pure (finish (r, .error e)) := by
  cases deed with
  | insert =>
    by_cases hnew : r.status = .new
    · rw [statement, if_pos hnew] at h
      cases h
    · rw [statement, if_neg hnew] at h
      cases h
      show finish <$> r.tryInsert s cx = _
      rw [tryInsert_of_not_new hnew]
      rfl
  | update =>
    have hkey : r.persistedKey = .error e := map_eq_error.mp h
    show finish <$> r.tryUpdate s cx = _
    rw [tryUpdate_of_error hkey]
    rfl
  | destroy =>
    have hkey : r.persistedKey = .error e := map_eq_error.mp h
    show finish <$> r.tryDestroy s cx = _
    rw [tryDestroy_of_error hkey]
    rfl

theorem perform_of_statement (h : deed.statement r = .ok stmt) :
    deed.perform s cx r = (fun reply => finish (deed.settled r reply)) <$> s.exec cx stmt := by
  cases deed with
  | insert =>
    obtain ⟨hnew, rfl⟩ := statement_insert.mp h
    show finish <$> r.tryInsert s cx = _
    rw [tryInsert_of_new hnew, Functor.map_map]
    rfl
  | update =>
    obtain ⟨key, hkey, rfl⟩ := map_eq_ok.mp h
    show finish <$> r.tryUpdate s cx = _
    rw [tryUpdate_of_key hkey, Functor.map_map]
    rfl
  | destroy =>
    obtain ⟨key, hkey, rfl⟩ := map_eq_ok.mp h
    show finish <$> r.tryDestroy s cx = _
    rw [tryDestroy_of_key hkey, Functor.map_map]
    rfl

/-- A new record can be inserted and nothing else. -/
theorem statement_of_new (hnew : r.status = .new) (h : deed.statement r = .ok stmt) :
    deed = insert ∧ .insert r.model.name r.values = stmt := by
  have unkeyed : ∀ key, r.persistedKey ≠ .ok key := by
    intro key hkey
    have hpersisted := (persistedKey_eq_ok.mp hkey).1
    rw [hnew] at hpersisted
    cases hpersisted
  cases deed with
  | insert => exact ⟨rfl, (statement_insert.mp h).2⟩
  | update =>
    obtain ⟨key, hkey, _⟩ := map_eq_ok.mp h
    exact absurd hkey (unkeyed key)
  | destroy =>
    obtain ⟨key, hkey, _⟩ := map_eq_ok.mp h
    exact absurd hkey (unkeyed key)

/-- A deed is refused, or its statement is run and the answer settles the record. -/
theorem runs_iff : (deed.perform s cx r).Runs log r' ↔
    (∃ e, deed.statement r = .error e ∧ log = [] ∧ finish (r, .error e) = r') ∨
      ∃ stmt reply, deed.statement r = .ok stmt ∧ (s.exec cx stmt).Runs log reply ∧
        finish (deed.settled r reply) = r' := by
  cases hstmt : deed.statement r with
  | error e =>
    rw [perform_of_refused hstmt, Dialogue.runs_pure]
    simp
  | ok stmt =>
    rw [perform_of_statement hstmt, Dialogue.runs_map]
    simp

end Deed

/-! ## Keys that cannot be taken over -/

theorem takeKey_eq_error {reported? : Option Value} : r.takeKey reported? = .error e ↔
    r.key? = none ∧ ∃ a reported, r.model.primaryKeyAttribute? = some a ∧ a.type = .integer ∧
      reported? = some reported ∧ ValueType.integer.cast? reported = none ∧
      .of (.typeConversion reported .integer) = e := by
  unfold takeKey
  cases hkey : r.key? with
  | some key => simp
  | none =>
    cases ha : r.model.primaryKeyAttribute? with
    | none => simp
    | some a =>
      cases reported? with
      | none => simp
      | some reported =>
        by_cases htype : a.type = .integer
        · simp only [Option.isSome_none, Bool.false_eq_true, if_false, if_pos htype]
          rw [htype]
          cases hcast : ValueType.integer.cast reported with
          | ok w =>
            have := ValueType.cast_eq_ok.mp hcast
            simp [Except.map, this]
          | error e' =>
            obtain ⟨hnone, rfl⟩ := ValueType.cast_eq_error.mp hcast
            simp [Except.map, hnone, htype]
        · simp [htype]

/-- The database accepted the insertion of a record, which thereby got the values of the row, and
reported a key for it that is no integer, while neither the record nor the row has a key. -/
structure KeyRefused (s : Session) (r : Record) (log : List Exchange) (row : List (String × Value))
    (reported : Value) : Prop where
  new : r.status = .new
  stored : ∃ i, Sql.lower s.registry (.insert r.model.name r.values) = .ok (.insert i) ∧ i.row = row
  accepted : ∃ adapter cx sql params changed,
    log = [⟨.exec adapter cx sql params, .ok ⟨changed, some reported⟩⟩]
  unkeyed : (r.writeBack row).key? = none
  integer : ∃ a, r.model.primaryKeyAttribute? = some a ∧ a.type = .integer
  misfit : ValueType.integer.cast? reported = none

namespace Deed

variable {deed : Deed} {row : List (String × Value)} {reported : Value}

/-- Of the accepted calls only an insertion can still fail: the key is not taken over. -/
theorem settled_ok_of_error {compiled : Session.Compiled} {response : ExecResponse}
    (h : (deed.settled r (.ok (compiled, response))).2 = .error e) :
    deed = insert ∧
      (r.writeBack (storedValues compiled.statement)).takeKey response.lastInsertKey? = .error e ∧
      deed.settled r (.ok (compiled, response)) =
        (r.writeBack (storedValues compiled.statement), .error e) := by
  cases deed with
  | update => cases h
  | destroy => cases h
  | insert =>
    refine ⟨rfl, ?_⟩
    simp only [settled, inserted] at h ⊢
    cases htake : (r.writeBack (storedValues compiled.statement)).takeKey
        response.lastInsertKey? with
    | ok keyed =>
      rw [htake] at h
      cases h
    | error e' =>
      rw [htake] at h
      cases h
      exact ⟨rfl, rfl⟩

/-- What was stored for a new record is the row of its lowered insertion. -/
theorem stored_of_compile {compiled : Session.Compiled}
    (h : s.compile (.insert r.model.name r.values) = .ok compiled) :
    ∃ i, Sql.lower s.registry (.insert r.model.name r.values) = .ok (.insert i) ∧
      compiled.statement = .insert i := by
  obtain ⟨hlower, _, _⟩ := Session.compile_eq_ok.mp h
  obtain ⟨m, _, hfor⟩ := Sql.lower_eq_ok.mp hlower
  obtain ⟨i, _, hi⟩ := map_eq_ok.mp hfor
  exact ⟨i, by rw [hlower, ← hi], hi.symm⟩

/-- A deed that failed has changed nothing and was refused by the database if that was asked, or the
key of the inserted row was refused. -/
theorem failed_cases (h : (deed.perform s cx r).Runs log r') (hfailed : r'.isOk = false) :
    (∃ e, finish (r, .error e) = r' ∧ ∀ x ∈ log, x.failure? = some e) ∨
      deed = insert ∧ ∃ row reported, KeyRefused s r log row reported ∧
        finish (r.writeBack row, .error (.of (.typeConversion reported .integer))) = r' := by
  rcases runs_iff.mp h with ⟨e, _, rfl, rfl⟩ | ⟨stmt, reply, hstmt, hexec, rfl⟩
  · exact .inl ⟨e, rfl, List.forall_mem_nil _⟩
  · rcases Session.exec_runs hexec with ⟨rfl, e, rfl⟩ | ⟨compiled, answer, hcompile, _, rfl, rfl⟩
    · rw [settled_error]
      exact .inl ⟨e, rfl, List.forall_mem_nil _⟩
    · cases answer with
      | error e =>
        left
        refine ⟨e, ?_, List.forall_mem_singleton.mpr rfl⟩
        show _ = finish (deed.settled r (.error e))
        rw [settled_error]
      | ok response =>
        cases houtcome : (deed.settled r (.ok (compiled, response))).2 with
        | ok u =>
          replace hfailed : (finish (deed.settled r (.ok (compiled, response)))).isOk = false := hfailed
          rw [(finish_of_ok houtcome).1] at hfailed
          cases hfailed
        | error e =>
          -- the call was accepted, so it was the reported key that did not fit
          obtain ⟨rfl, htake, hset⟩ := settled_ok_of_error houtcome
          obtain ⟨hnew, rfl⟩ := statement_insert.mp hstmt
          obtain ⟨i, hlower, hi⟩ := stored_of_compile hcompile
          obtain ⟨hkey, a, reported, ha, htype, hreported, hmisfit, rfl⟩ := takeKey_eq_error.mp htake
          refine .inr ⟨rfl, ?_⟩
          show ∃ row reported, _ ∧ _ = finish (insert.settled r (.ok (compiled, response)))
          rw [hset]
          rw [hi] at hkey ⊢
          refine ⟨i.row, reported, ⟨hnew, ⟨i, hlower, rfl⟩, ?_, hkey, ⟨a, ha, htype⟩, hmisfit⟩, rfl⟩
          obtain ⟨changed, lastInsertKey?⟩ := response
          rw [show lastInsertKey? = some reported from hreported]
          exact ⟨_, _, _, _, changed, rfl⟩

/-- Where the key of the row was refused, the record shows the row. -/
theorem runs_of_keyRefused (deed : Deed) (h : (deed.perform s cx r).Runs log r')
    (hrefused : KeyRefused s r log row reported) :
    finish (r.writeBack row, .error (.of (.typeConversion reported .integer))) = r' := by
  obtain ⟨hnew, ⟨i, hlower, rfl⟩, ⟨_, _, _, _, changed, rfl⟩, hkey, ⟨a, ha, htype⟩, hmisfit⟩ :=
    hrefused
  rcases runs_iff.mp h with ⟨_, _, hlog, _⟩ | ⟨stmt, reply, hstmt, hexec, rfl⟩
  · cases hlog
  · rcases Session.exec_runs hexec with ⟨hlog, _⟩ | ⟨compiled, answer, hcompile, _, hlog, rfl⟩
    · cases hlog
    · cases hlog
      obtain ⟨rfl, rfl⟩ := statement_of_new hnew hstmt
      obtain ⟨i', hlower', hi⟩ := stored_of_compile hcompile
      obtain rfl : i = i' := by
        rw [hlower] at hlower'
        cases hlower'
        rfl
      have htake : (r.writeBack (storedValues compiled.statement)).takeKey (some reported) =
          .error (.of (.typeConversion reported .integer)) := by
        rw [hi]
        exact takeKey_eq_error.mpr ⟨hkey, a, reported, ha, htype, rfl, hmisfit, rfl⟩
      show finish _ = finish (r.inserted (.ok (compiled, ⟨changed, some reported⟩)))
      simp only [inserted, htake]
      rw [hi]
      rfl

/-- A deed that failed leaves the status, and it leaves everything but the noted error unless the key
of an inserted row was refused and the row shows something new. In that case the values of the row
stay in the record. -/
theorem failed_eq_iff (h : (deed.perform s cx r).Runs log r') (hfailed : r'.isOk = false) :
    r'.status = r.status ∧
      (r' = { r with error? := r'.error? } ↔
        ∀ row reported, KeyRefused s r log row reported → r.writeBack row = r) ∧
      ∀ row reported, KeyRefused s r log row reported →
        r' = { r.writeBack row with error? := some (.of (.typeConversion reported .integer)) } := by
  have hrefused : ∀ row reported, KeyRefused s r log row reported →
      r' = { r.writeBack row with error? := some (.of (.typeConversion reported .integer)) } :=
    fun row reported hkey => (runs_of_keyRefused deed h hkey).symm
  refine ⟨?_, ⟨fun hsame row reported hkey => ?_, fun hall => ?_⟩, hrefused⟩
  · rcases failed_cases h hfailed with ⟨e, rfl, _⟩ | ⟨_, row, reported, _, rfl⟩
    · rfl
    · rfl
  · rw [hrefused row reported hkey] at hsame
    have hvalues : (r.writeBack row).values = r.values := by injection hsame
    show ({ r with values := (r.writeBack row).values } : Record) = r
    rw [hvalues]
  · rcases failed_cases h hfailed with ⟨e, rfl, _⟩ | ⟨_, row, reported, hkey, rfl⟩
    · rfl
    · rw [hall row reported hkey]
      rfl

end Deed

end Record

namespace Bookshop

/-- Emma made ready for insertion. -/
def emmaInsert : Session.Compiled where
  connection := ⟨0, "primary", adapter 0⟩
  statement := bookInsert (.text "Emma") (.int 1815)
  sql := "INSERT INTO \"books\" (\"title\", \"year\", \"rating\") VALUES ($1, $2, $3);"
  params := [.text "Emma", .int 1815, .float (Binary64.ofInt64 3)]

/-- Emma is inserted, and a text is reported as the key of the row. -/
def misreported : List Exchange :=
  [⟨.exec (adapter 0) background emmaInsert.sql emmaInsert.params, .ok ⟨1, some (.text "seven")⟩⟩]

/-- The record after that: it is new, but shows the rating that the row got by default. -/
def unkeyedEmma : Record where
  model := book
  values := ⟨newBook.entries ++ [("rating", .float (Binary64.ofInt64 3))], by decide⟩
  status := .new
  error? := some (.of (.typeConversion (.text "seven") .integer))

theorem compile_emma : opened.session.compile (.insert "book" newBook) = .ok emmaInsert := by
  decide +kernel

theorem runs_emmaInsert (answer : Except Error ExecResponse) :
    (Record.Deed.insert.perform opened.session background emma).Runs
      [⟨.exec (adapter 0) background emmaInsert.sql emmaInsert.params, answer⟩]
      (Record.finish (Record.Deed.insert.settled emma (answer.map fun response => (emmaInsert, response)))) :=
  Record.Deed.runs_iff.mpr (.inr ⟨_, _, rfl, Session.exec_runs_of_compile compile_emma rfl answer, rfl⟩)

theorem runs_misreported :
    (Record.Deed.insert.perform opened.session background emma).Runs misreported unkeyedEmma :=
  runs_emmaInsert (.ok ⟨1, some (.text "seven")⟩)

/-- The insertion failed, and yet the values of the record have changed. -/
theorem unkeyedEmma_values_ne :
    (Record.Deed.insert.perform opened.session background emma).Runs misreported unkeyedEmma ∧
      unkeyedEmma.isOk = false ∧ unkeyedEmma.values ≠ emma.values :=
  ⟨runs_misreported, rfl, by decide⟩

theorem unkeyedEmma_left :
    (Record.Deed.insert.perform opened.session background emma).Runs misreported unkeyedEmma ∧
      unkeyedEmma.isOk = false ∧ unkeyedEmma.status = emma.status ∧
      (unkeyedEmma = { emma with error? := unkeyedEmma.error? } ↔
        ∀ row reported, Record.KeyRefused opened.session emma misreported row reported →
          emma.writeBack row = emma) ∧
      ∀ row reported, Record.KeyRefused opened.session emma misreported row reported →
        unkeyedEmma = { emma.writeBack row with
          error? := some (.of (.typeConversion reported .integer)) } :=
  ⟨runs_misreported, rfl, Record.Deed.failed_eq_iff runs_misreported rfl⟩

end Bookshop

end RecordMapper
