import RecordMapper.Proofs.Session.Deeds

/-!
# Errors from before a database is asked

Whether an error arose before a database was asked is told by its kind (`Error.isCompilationTime`). The
theorem below says how far that goes. An error that comes after a request is the one that was answered,
or a value of an accepted answer does not fit: a value in a row, or the key that was reported for an
inserted row (`Operation.Misfits`). Such a value is refused in the words of a statement that does not
make sense. Where adapters report failures of their own, these misfits are the only errors that look as
if nothing had been asked (`Operation.compilationTime_iff`).
-/

namespace RecordMapper

/-! ## Failures of adapters -/

/-- The kind is one that an adapter reports: its statement failed, its connection did, the operation was
canceled, or it says something of its own. -/
def ErrorKind.isOutside : ErrorKind → Bool
  | executionFailed _ | connectionFailed _ | canceled _ | adhoc _ => true
  | _ => false

/-- If the answer is an error, it and its causes are of kinds that an adapter reports. -/
def Exchange.FailsOutside (x : Exchange) : Prop :=
  ∀ e, x.failure? = some e → ∀ kind ∈ e.chain, kind.isOutside = true

theorem ErrorKind.isCompilationTime_of_isOutside {kind : ErrorKind} (h : kind.isOutside = true) :
    kind.isCompilationTime = false := by
  cases kind <;> first | rfl | cases h

theorem Exchange.FailsOutside.isCompilationTime {x : Exchange} {e : Error} (h : x.FailsOutside)
    (he : x.failure? = some e) : e.isCompilationTime = false := by
  unfold Error.isCompilationTime
  rw [List.any_eq_false]
  intro kind hkind
  rw [ErrorKind.isCompilationTime_of_isOutside (h e he kind hkind)]
  exact Bool.false_ne_true

/-! ## Rows that cannot be read -/

namespace Record

variable {m : Model} {row : Row} {entry : String × Value} {e : Error}

/-- A value of the row cannot be cast to the type of the attribute that its column is. -/
def Unreadable (m : Model) (row : Row) : Prop :=
  ∃ entry ∈ row.entries, ∃ a, m.attribute? entry.1 = some a ∧ a.type.cast? entry.2 = none

theorem castColumn_eq_error : castColumn m entry = .error e ↔
    ∃ a, m.attribute? entry.1 = some a ∧ a.type.cast? entry.2 = none ∧
      .of (.typeConversion entry.2 a.type) = e := by
  unfold castColumn
  cases m.attribute? entry.1 with
  | none => simp
  | some a => simp [map_eq_error, ValueType.cast_eq_error]

theorem ofRow_eq_error : ofRow m row = .error e ↔ row.entries.mapM (castColumn m) = .error e := by
  unfold ofRow
  cases row.entries.mapM (castColumn m) with
  | error e' => simp [bind, Except.bind]
  | ok entries => simp [bind, Except.bind, pure, Except.pure]

/-- One unreadable row spoils all of them, and nothing else does. -/
theorem mapM_ofRow_eq_error {rows : List Row} :
    (∃ e, rows.mapM (ofRow m) = .error e) ↔ ∃ row ∈ rows, Unreadable m row := by
  constructor
  · rintro ⟨e, h⟩
    obtain ⟨row, hrow, hof⟩ := exists_of_mapM_eq_error h
    obtain ⟨entry, hentry, hcast⟩ := exists_of_mapM_eq_error (ofRow_eq_error.mp hof)
    obtain ⟨a, ha, hnone, _⟩ := castColumn_eq_error.mp hcast
    exact ⟨row, hrow, entry, hentry, a, ha, hnone⟩
  · rintro ⟨row, hrow, entry, hentry, a, ha, hnone⟩
    have hcast := castColumn_eq_error.mpr ⟨a, ha, hnone, rfl⟩
    obtain ⟨e, he⟩ := exists_mapM_eq_error hentry hcast
    exact exists_mapM_eq_error hrow (ofRow_eq_error.mpr he)

/-- The error of rows that cannot be read is that of a cast. -/
theorem exists_typeConversion_of_mapM {rows : List Row} (h : rows.mapM (ofRow m) = .error e) :
    ∃ value type, .of (.typeConversion value type) = e := by
  obtain ⟨row, _, hof⟩ := exists_of_mapM_eq_error h
  obtain ⟨entry, _, hcast⟩ := exists_of_mapM_eq_error (ofRow_eq_error.mp hof)
  obtain ⟨a, _, _, he⟩ := castColumn_eq_error.mp hcast
  exact ⟨entry.2, a.type, he⟩

end Record

/-! ## Operations -/

namespace Operation

variable {s : Session} {cx : Context} {op : Operation} {m : Model} {log : List Exchange}

/-- The model whose records an operation reads. -/
def reads? (s : Session) : Operation → Option Model
  | toList r => some r.model
  | first r => some r.model
  | find m _ => some m
  | association r name => (s.registry.resolve r.model name).toOption.map ResolvedAssociation.target
  | insert _ | update _ | destroy _ | pushSchema => none

/-- The answer was accepted, but a value in it does not fit. -/
inductive Misfits (s : Session) (log : List Exchange) (op : Operation) : Prop
  | row {m : Model} {adapter : Adapter} {cx : Context} {sql : String} {params : List Value}
    {rows : List Row} : op.reads? s = some m → log = [⟨.query adapter cx sql params, .ok rows⟩] →
    (∃ row ∈ rows, Record.Unreadable m row) → Misfits s log op
  | key {r : Record} {row : List (String × Value)} {reported : Value} : op = .insert r →
    Record.KeyRefused s r log row reported → Misfits s log op

/-- An operation that asks for rows reads them as records of its model. -/
theorem States.reads {stmt : Statement} (h : op.States s .query stmt) (cx : Context) :
    ∃ m, op.reads? s = some m ∧ op.perform s cx = settleRows m <$> s.query cx stmt := by
  cases h with
  | toList r => exact ⟨r.model, rfl, settle_toList s cx r⟩
  | first r => exact ⟨r.model, rfl, settle_first s cx r⟩
  | find m key => exact ⟨m, rfl, settle_first s cx _⟩
  | association hresolve hkind hkey =>
    refine ⟨_, ?_, settle_association s cx hresolve hkind hkey⟩
    simp only [reads?, hresolve]
    rfl

theorem settleRows_eq_error {reply : Except Error (List Row)} {e : Error} :
    settleRows m reply = .error e ↔
      reply = .error e ∨ ∃ rows, reply = .ok rows ∧ rows.mapM (Record.ofRow m) = .error e := by
  unfold settleRows settle
  rw [map_eq_error]
  cases reply with
  | error e' => simp [Except.bind]
  | ok rows => simp [Except.bind]

/-- An operation that asks for rows asks nothing or is settled by the rows that come back. -/
theorem States.query_cases {stmt : Statement} {outcome : Except Error Unit}
    (hstates : op.States s .query stmt) (h : (op.perform s cx).Runs log outcome) :
    ∃ m, op.reads? s = some m ∧ (log = [] ∨ ∃ adapter sql params reply,
      log = [⟨.query adapter cx sql params, reply⟩] ∧ settleRows m reply = outcome) := by
  obtain ⟨m, hreads, heq⟩ := hstates.reads cx
  rw [heq] at h
  obtain ⟨reply, hquery, hsettle⟩ := Dialogue.runs_map.mp h
  refine ⟨m, hreads, ?_⟩
  rcases Session.query_runs hquery with ⟨hlog, _⟩ | ⟨compiled, _, _, hlog⟩
  · exact .inl hlog
  · exact .inr ⟨_, _, _, reply, hlog, hsettle⟩

/-! ## Where an error comes from -/

theorem exists_error_of_deed {r : Record} (deed : Record.Deed) {e : Error}
    (h : (Record.outcome <$> deed.perform s cx r).Runs log (.error e)) :
    (∀ x ∈ log, x.failure? = some e) ∨ deed = .insert ∧
      ∃ row reported, Record.KeyRefused s r log row reported := by
  obtain ⟨r', hrun, houtcome⟩ := Dialogue.runs_map.mp h
  have herror : r'.error? = some e := Record.outcome_eq_error.mp houtcome
  have hfailed : r'.isOk = false := by
    unfold Record.isOk
    rw [herror]
    rfl
  rcases deed.failed_cases hrun hfailed with ⟨e', rfl, hlog⟩ | ⟨hdeed, row, reported, hkey, _⟩
  · left
    cases herror
    exact hlog
  · exact .inr ⟨hdeed, row, reported, hkey⟩

/-- The error of an operation is the one that was answered, or a value of the answer does not fit. -/
theorem error_cases (hop : op ≠ pushSchema) {e : Error}
    (h : (op.perform s cx).Runs log (.error e)) :
    (∀ x ∈ log, x.failure? = some e) ∨ op.Misfits s log := by
  rcases exists_states_or_done s op hop with ⟨mode, stmt, hstates⟩ | ⟨outcome, hdone⟩
  · cases mode with
    | query =>
      obtain ⟨m, hreads, rfl | ⟨_, _, _, reply, rfl, hsettle⟩⟩ := hstates.query_cases h
      · exact .inl (List.forall_mem_nil _)
      · rcases settleRows_eq_error.mp hsettle with rfl | ⟨rows, rfl, hrows⟩
        · exact .inl (List.forall_mem_singleton.mpr rfl)
        · exact .inr (.row hreads rfl (Record.mapM_ofRow_eq_error.mp ⟨e, hrows⟩))
    | exec =>
      cases hstates with
      | insert hnew =>
        rcases exists_error_of_deed .insert h with hlog | ⟨_, row, reported, hkey⟩
        · exact .inl hlog
        · exact .inr (.key rfl hkey)
      | update hkey =>
        rcases exists_error_of_deed .update h with hlog | ⟨hdeed, _⟩
        · exact .inl hlog
        · cases hdeed
      | destroy hkey =>
        rcases exists_error_of_deed .destroy h with hlog | ⟨hdeed, _⟩
        · exact .inl hlog
        · cases hdeed
  · rw [hdone cx] at h
    obtain ⟨rfl, _⟩ := Dialogue.runs_pure.mp h
    exact .inl (List.forall_mem_nil _)

/-- A value that does not fit comes after a request and is told as a failed cast. -/
theorem Misfits.outcome (hmisfits : op.Misfits s log) (hop : op ≠ pushSchema)
    {outcome : Except Error Unit} (h : (op.perform s cx).Runs log outcome) :
    log ≠ [] ∧ ∃ value type, outcome = .error (.of (.typeConversion value type)) := by
  cases hmisfits with
  | @row m adapter _ sql params rows hreads hlog hrows =>
    refine ⟨by rw [hlog]; exact List.cons_ne_nil _ _, ?_⟩
    rcases exists_states_or_done s op hop with ⟨mode, stmt, hstates⟩ | ⟨done, hdone⟩
    · cases mode with
      | query =>
        obtain ⟨m', hreads', hcases⟩ := hstates.query_cases h
        obtain rfl : m = m' := Option.some.inj (hreads.symm.trans hreads')
        rw [hlog] at hcases
        rcases hcases with hnil | ⟨_, _, _, reply, hcall, rfl⟩
        · cases hnil
        · cases hcall
          obtain ⟨e, he⟩ := Record.mapM_ofRow_eq_error.mpr hrows
          obtain ⟨value, type, rfl⟩ := Record.exists_typeConversion_of_mapM he
          exact ⟨value, type, settleRows_eq_error.mpr (.inr ⟨rows, rfl, he⟩)⟩
      | exec => cases hstates <;> cases hreads
    · rw [hdone cx] at h
      obtain ⟨hnil, _⟩ := Dialogue.runs_pure.mp h
      rw [hlog] at hnil
      cases hnil
  | @key r row reported hinsert hkey =>
    obtain ⟨_, _, _, _, _, hlog⟩ := hkey.accepted
    refine ⟨by rw [hlog]; exact List.cons_ne_nil _ _, reported, .integer, ?_⟩
    rw [hinsert] at h
    obtain ⟨r', hrun, rfl⟩ := Dialogue.runs_map.mp h
    rw [← Record.Deed.runs_of_keyRefused .insert hrun hkey]
    rfl

/-- Where adapters report failures of their own, an error from before a database is asked tells truly
that nothing was asked, unless a value of the answer did not fit; such a value gives an error of that
sort after a request. -/
theorem compilationTime_iff (hop : op ≠ pushSchema) {outcome : Except Error Unit}
    (h : (op.perform s cx).Runs log outcome) (outside : ∀ x ∈ log, x.FailsOutside) :
    ((∀ e, outcome = .error e → e.isCompilationTime = true → log = []) ↔ ¬op.Misfits s log) ∧
      (op.Misfits s log → ∃ value type, outcome = .error (.of (.typeConversion value type))) := by
  refine ⟨⟨fun htrue hmisfits => ?_, fun hfits e he hearly => ?_⟩, fun hmisfits => ?_⟩
  · obtain ⟨hasked, value, type, he⟩ := hmisfits.outcome hop h
    exact hasked (htrue _ he rfl)
  · rw [he] at h
    rcases error_cases hop h with hanswered | hmisfits
    · by_contra hasked
      obtain ⟨x, hx⟩ := List.exists_mem_of_ne_nil log hasked
      rw [(outside x hx).isCompilationTime (hanswered x hx)] at hearly
      cases hearly
    · exact absurd hmisfits hfits
  · exact (hmisfits.outcome hop h).2

end Operation

namespace Bookshop

/-- All books. -/
def allBooks : Relation := .all book

/-- The query for all books made ready. -/
def booksQuery : Session.Compiled where
  connection := ⟨0, "primary", adapter 0⟩
  statement := .select ⟨book.tableName, [⟨none, "uid"⟩, ⟨none, "title"⟩, ⟨none, "year"⟩,
    ⟨none, "rating"⟩, ⟨none, "author_id"⟩], [], [], [], [], none⟩
  sql := "SELECT \"uid\", \"title\", \"year\", \"rating\", \"author_id\" FROM \"books\";"
  params := []

/-- A row of books with a text for a key. -/
def misreadRow : Row := ⟨[("uid", .text "one"), ("title", .text "Emma")], by decide⟩

/-- All books are asked for, and the row that comes back cannot be read. -/
def misread : List Exchange :=
  [⟨.query (adapter 0) background booksQuery.sql booksQuery.params, .ok [misreadRow]⟩]

theorem compile_allBooks : opened.session.compile (.query allBooks.query) = .ok booksQuery := by
  decide +kernel

theorem runs_misread : ((Operation.toList allBooks).perform opened.session background).Runs misread
    (.error (.of (.typeConversion (.text "one") .integer))) := by
  show (Operation.settle <$> allBooks.toList opened.session background).Runs _ _
  rw [Operation.settle_toList]
  exact Dialogue.runs_map.mpr
    ⟨.ok [misreadRow], Session.query_runs_of_compile compile_allBooks rfl (.ok [misreadRow]), rfl⟩

/-- The database was asked, and the error says that it was not. -/
theorem misread_isCompilationTime :
    ((Operation.toList allBooks).perform opened.session background).Runs misread
        (.error (.of (.typeConversion (.text "one") .integer))) ∧
      (Error.of (.typeConversion (.text "one") .integer)).isCompilationTime = true ∧
      misread ≠ [] ∧ ∀ x ∈ misread, x.FailsOutside := by
  refine ⟨runs_misread, rfl, List.cons_ne_nil _ _, ?_⟩
  refine List.forall_mem_singleton.mpr fun e he => ?_
  cases he

theorem misread_misfits :
    Operation.toList allBooks ≠ .pushSchema ∧
      ((Operation.toList allBooks).perform opened.session background).Runs misread
        (.error (.of (.typeConversion (.text "one") .integer))) ∧
      (∀ x ∈ misread, x.FailsOutside) ∧
      ((∀ e, Except.error (.of (.typeConversion (.text "one") .integer)) =
          (.error e : Except Error Unit) → e.isCompilationTime = true → misread = []) ↔
        ¬(Operation.toList allBooks).Misfits opened.session misread) ∧
      ((Operation.toList allBooks).Misfits opened.session misread → ∃ value type,
        Except.error (.of (.typeConversion (.text "one") .integer)) =
          (.error (.of (.typeConversion value type)) : Except Error Unit)) := by
  have outside : ∀ x ∈ misread, x.FailsOutside :=
    List.forall_mem_singleton.mpr fun e he => by cases he
  have hop : Operation.toList allBooks ≠ .pushSchema := fun h => by cases h
  exact ⟨hop, runs_misread, outside, Operation.compilationTime_iff hop runs_misread outside⟩

end Bookshop

end RecordMapper
