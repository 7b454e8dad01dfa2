import RecordMapper.Proofs.Session.Deeds
import RecordMapper.Proofs.Session.Loading
import RecordMapper.Proofs.Sql.Parameters
import RecordMapper.Proofs.Sql.WellFormed

/-!
# What an inserted record shows

An insertion that went well has sent one statement, and the record shows what it bound: the values as
they were cast, defaults included. Everything else in the record is as it was, but for a key that the
record lacked and the database chose (`Record.ShowsRow`). A row with the bound values in it can be read
as a record that shows the same, also if the database gives back numbers for truth values
(`Record.insert_stores`).
-/

namespace RecordMapper

namespace ValueType

variable {t : ValueType} {v : Value}

/-- A value of the type is cast to itself. -/
theorem cast?_of_type? (h : v.type? = some t) : t.cast? v = some v := by
  cases v with
  | null => cases h
  | bool b =>
    cases h
    rfl
  | int n =>
    cases h
    rfl
  | float x =>
    cases h
    rfl
  | text s =>
    cases h
    rfl

/-- Truth values are told from the numbers that stand for them. -/
theorem cast?_bit (b : Bool) : boolean.cast? (.int (if b then 1 else 0)) = some (.bool b) := by
  cases b with
  | false => rfl
  | true => rfl

end ValueType

/-- What a database may give back for a bound value: the value itself, or a number for a truth value. -/
inductive Value.GivenBackAs : Value → Value → Prop
  | same (v : Value) : GivenBackAs v v
  | bit (b : Bool) : GivenBackAs (.bool b) (.int (if b then 1 else 0))

theorem Attribute.Admits.cast? {a : Attribute} {v found : Value} (h : a.Admits v)
    (hfound : v.GivenBackAs found) : a.type.cast? found = some v := by
  rcases h with htype | ⟨rfl, _⟩
  · cases hfound with
    | same => exact ValueType.cast?_of_type? htype
    | bit b =>
      have hboolean : a.type = .boolean := (Option.some.inj htype).symm
      rw [hboolean]
      exact ValueType.cast?_bit b
  · cases hfound
    exact ValueType.cast?_null _

namespace Record

variable {s : Session} {cx : Context} {r r' keyed : Record} {log : List Exchange} {i : Sql.Insert}
  {reported? : Option Value}

/-! ## Keys taken over -/

theorem key?_eq_none : r.key? = none ↔ ∀ key, r.get? r.model.primaryKey = some key → key = .null := by
  unfold key? get?
  cases r.values.get? r.model.primaryKey with
  | none => simp
  | some key => cases key <;> simp [Value.isNull]

/-- A key is taken over where one is lacking and one that fits is reported; otherwise nothing is. -/
theorem takeKey_eq_ok (h : r.takeKey reported? = .ok keyed) :
    (r.key? = none ∧ (∃ a, r.model.primaryKeyAttribute? = some a ∧ a.type = .integer) ∧
        ∃ reported key, reported? = some reported ∧ ValueType.integer.cast? reported = some key ∧
          keyed = r.set r.model.primaryKey key) ∨
      keyed = r ∧ (r.key? = none → (∃ a, r.model.primaryKeyAttribute? = some a ∧ a.type = .integer) →
        reported? = none) := by
  unfold takeKey at h
  cases hkey : r.key? with
  | some key =>
    simp only [hkey, Option.isSome_some, if_true] at h
    cases h
    exact .inr ⟨rfl, fun hnone => by cases hnone⟩
  | none =>
    simp only [hkey, Option.isSome_none, Bool.false_eq_true, if_false] at h
    cases ha : r.model.primaryKeyAttribute? with
    | none =>
      rw [ha] at h
      cases h
      refine .inr ⟨rfl, ?_⟩
      rintro _ ⟨a, hnone, _⟩
      cases hnone
    | some a =>
      cases hreported : reported? with
      | none =>
        rw [ha, hreported] at h
        cases h
        exact .inr ⟨rfl, fun _ _ => rfl⟩
      | some reported =>
        rw [ha, hreported] at h
        by_cases htype : a.type = .integer
        · simp only [if_pos htype, map_eq_ok, ValueType.cast_eq_ok] at h
          obtain ⟨key, hcast, rfl⟩ := h
          rw [htype] at hcast
          refine .inl ⟨rfl, ⟨a, rfl, htype⟩, reported, key, rfl, hcast, ?_⟩
          rw [(Model.mem_of_attribute? ha).2]
        · simp only [if_neg htype] at h
          cases h
          refine .inr ⟨rfl, ?_⟩
          rintro _ ⟨a', ha', htype'⟩
          cases ha'
          exact absurd htype' htype

/-! ## What is shown -/

/-- What the record shows under a name once the row is written back. -/
def shown (r : Record) (i : Sql.Insert) (name : String) : Option Value :=
  (i.row.lookup name).or (r.get? name)

/-- The record lacks a key, the row does too, and it is an integer, so that one may be reported. -/
structure AwaitsKey (r : Record) (i : Sql.Insert) : Prop where
  missing : ∀ key, r.shown i r.model.primaryKey = some key → key = .null
  integer : ∃ a, r.model.primaryKeyAttribute? = some a ∧ a.type = .integer

/-- The second record is the first one after its row was stored. -/
structure ShowsRow (r : Record) (i : Sql.Insert) (reported? : Option Value) (r' : Record) : Prop where
  model : r'.model = r.model
  status : r'.status = .persisted
  /-- It shows the values of the row. -/
  stored : ∀ entry ∈ i.row, r'.get? entry.1 = some entry.2
  /-- It shows everything else as before, the key aside. -/
  kept : ∀ name, name ∉ i.columns → name ≠ r.model.primaryKey → r'.get? name = r.get? name
  /-- Names that it had are where they were. -/
  places : r.values.names <+: r'.values.names
  /-- A key that it awaits is the reported one. -/
  taken : r.AwaitsKey i → ∀ reported, reported? = some reported → ∃ key,
    ValueType.integer.cast? reported = some key ∧ r'.get? r.model.primaryKey = some key
  /-- Any other key is the one of the row, or the one that it had. -/
  untaken : (r.AwaitsKey i → reported? = none) →
    r'.get? r.model.primaryKey = r.shown i r.model.primaryKey
  /-- A key that was given, or else is the default, stays. -/
  given : ∀ a key, r.model.primaryKeyAttribute? = some a → Sql.givenValue r.values a = some key →
    key ≠ .null → ∃ value, a.type.cast? key = some value ∧ r'.get? r.model.primaryKey = some value

/-- A row that holds the stored values, as they may be given back, and nothing that cannot be read. -/
structure Reloads (m : Model) (i : Sql.Insert) (row : Row) : Prop where
  stored : ∀ entry ∈ i.row, ∃ found, row.get? entry.1 = some found ∧ entry.2.GivenBackAs found
  others : ∀ column ∈ row.entries, column.1 ∉ i.columns → Fits m column

theorem names_row {m : Model} (hwell : i.WellFormed m) : i.row.map Prod.fst = i.columns :=
  List.map_fst_zip (Nat.le_of_eq hwell.length_eq.symm)

theorem nodup_row {m : Model} (hwell : i.WellFormed m) : (i.row.map Prod.fst).Nodup := by
  rw [names_row hwell]
  exact hwell.nodup

theorem get?_writeBack {m : Model} (hwell : i.WellFormed m) (name : String) :
    (r.writeBack i.row).get? name = r.shown i name := by
  show (r.values.insertAll i.row).get? name = _
  rw [OrderedMap.get?_insertAll, OrderedMap.lookup_reverse (nodup_row hwell)]
  rfl

theorem shown_of_mem {m : Model} (hwell : i.WellFormed m) {entry : String × Value}
    (h : entry ∈ i.row) : r.shown i entry.1 = some entry.2 := by
  unfold shown
  rw [OrderedMap.lookup_of_mem (nodup_row hwell) h]
  rfl

theorem shown_of_notMem {m : Model} (hwell : i.WellFormed m) {name : String}
    (h : name ∉ i.columns) : r.shown i name = r.get? name := by
  unfold shown
  rw [OrderedMap.lookup_eq_none_iff_notMem.mpr (by rw [names_row hwell]; exact h)]
  rfl

/-- A key that is given is stored. -/
theorem mem_row_of_given {m : Model} {values : Values} (hi : Sql.lowerInsert m values = .ok i)
    {a : Attribute} {key : Value} (ha : m.primaryKeyAttribute? = some a)
    (hgiven : Sql.givenValue values a = some key) (hkey : key ≠ .null) :
    ∃ value, a.type.cast? key = some value ∧ (m.primaryKey, value) ∈ i.row := by
  obtain ⟨-, stored, hstored, hrow⟩ := Sql.lowerInsert_eq_ok.mp hi
  obtain ⟨hmem, hname⟩ := Model.mem_of_attribute? ha
  obtain ⟨item, hitem, hvalue⟩ := exists_of_mem_of_mapM hstored hmem
  rcases Sql.storedValue_eq_ok.mp hvalue with ⟨hnone, _⟩ | ⟨given, value, hgiven', hcast, hcases⟩
  · rw [hgiven] at hnone
    cases hnone
  · rw [hgiven] at hgiven'
    cases hgiven'
    have hpresent : value.isNull = false := by
      rw [ValueType.isNull_of_cast? hcast]
      cases key with
      | null => exact absurd rfl hkey
      | _ => rfl
    rcases hcases with ⟨⟨hnull, _⟩, _⟩ | ⟨_, _, rfl⟩
    · rw [hpresent] at hnull
      cases hnull
    · refine ⟨value, hcast, ?_⟩
      rw [Sql.row_of_stored hrow, ← hname]
      exact List.mem_filterMap.mpr ⟨_, hitem, rfl⟩

/-! ## Accepted insertions -/

/-- An insertion that went well has sent its statement, and a key that was reported could be taken. -/
theorem insert_accepted (h : (r.insert s cx).Runs log r') (hok : r'.isOk = true) :
    ∃ compiled response keyed, s.compile (.insert r.model.name r.values) = .ok compiled ∧
      log = [⟨.exec compiled.connection.adapter cx compiled.sql compiled.params, .ok response⟩] ∧
      (r.writeBack (storedValues compiled.statement)).takeKey response.lastInsertKey? = .ok keyed ∧
      r' = { keyed with status := .persisted, error? := none } := by
  have hdeed : (Deed.insert.perform s cx r).Runs log r' := h
  rcases Deed.runs_iff.mp hdeed with ⟨e, _, _, rfl⟩ | ⟨stmt, reply, hstmt, hexec, rfl⟩
  · cases hok
  · obtain ⟨_, rfl⟩ := Deed.statement_insert.mp hstmt
    rcases Session.exec_runs hexec with ⟨_, e, rfl⟩ | ⟨compiled, answer, hcompile, _, rfl, rfl⟩
    · cases hok
    · cases answer with
      | error e => cases hok
      | ok response =>
        replace hok : (finish (r.inserted (.ok (compiled, response)))).isOk = true := hok
        show ∃ compiled' response' keyed, _ ∧ _ ∧ _ ∧
          finish (r.inserted (.ok (compiled, response))) = _
        unfold inserted at hok ⊢
        dsimp only at hok ⊢
        cases htake : (r.writeBack (storedValues compiled.statement)).takeKey
            response.lastInsertKey? with
        | error e =>
          rw [htake] at hok
          cases hok
        | ok keyed => exact ⟨compiled, response, keyed, hcompile, rfl, htake, rfl⟩

/-- A key in the row is there. -/
theorem not_awaitsKey_of_mem (hwell : i.WellFormed r.model) {entry : String × Value}
    (hentry : entry ∈ i.row) (hname : entry.1 = r.model.primaryKey) : ¬r.AwaitsKey i := by
  intro hawaits
  obtain ⟨_, _, _, _, hnull⟩ := hwell.row entry hentry
  have hshown := shown_of_mem (r := r) hwell hentry
  rw [hname] at hshown
  exact hnull (hawaits.missing _ hshown) hname

theorem showsRow_of_takeKey (hwell : i.WellFormed r.model)
    (hi : Sql.lowerInsert r.model r.values = .ok i)
    (htake : (r.writeBack i.row).takeKey reported? = .ok keyed) :
    r.ShowsRow i reported? { keyed with status := .persisted, error? := none } := by
  have hplaces : r.values.names <+: (r.writeBack i.row).values.names :=
    OrderedMap.prefix_names_insertAll _ _
  have hlacks : (r.writeBack i.row).key? = none ↔
      ∀ key, r.shown i r.model.primaryKey = some key → key = .null := by
    rw [key?_eq_none, get?_writeBack hwell]
    rfl
  rcases takeKey_eq_ok htake with ⟨hnone, hinteger, reported, key, rfl, hcast, rfl⟩ | ⟨rfl, huntaken⟩
  · have hawaits : r.AwaitsKey i := ⟨hlacks.mp hnone, hinteger⟩
    have hget : ∀ name, ((r.writeBack i.row).set r.model.primaryKey key).get? name =
        if name = r.model.primaryKey then some key else r.shown i name := by
      intro name
      rw [← get?_writeBack hwell]
      exact OrderedMap.get?_insert _ _ _ _
    refine
      { model := rfl
        status := rfl
        stored := fun entry hentry => ?_
        kept := fun name hnot hname => ?_
        places := hplaces.trans (OrderedMap.prefix_names_insertAll _ [(r.model.primaryKey, key)])
        taken := fun _ reported' hreported => ?_
        untaken := fun hnever => ?_
        given := fun a given ha hgiven hpresent => ?_ }
    · have hname : entry.1 ≠ r.model.primaryKey := fun hname =>
        not_awaitsKey_of_mem hwell hentry hname hawaits
      refine (hget entry.1).trans ?_
      rw [if_neg hname, shown_of_mem hwell hentry]
    · refine (hget name).trans ?_
      rw [if_neg hname, shown_of_notMem hwell hnot]
    · cases hreported
      exact ⟨key, hcast, (hget _).trans (if_pos rfl)⟩
    · cases hnever hawaits
    · obtain ⟨value, _, hmem⟩ := mem_row_of_given hi ha hgiven hpresent
      exact absurd hawaits (not_awaitsKey_of_mem hwell hmem rfl)
  · refine
      { model := rfl
        status := rfl
        stored := fun entry hentry => ?_
        kept := fun name hnot _ => ?_
        places := hplaces
        taken := fun hawaits reported hreported => ?_
        untaken := fun _ => get?_writeBack hwell _
        given := fun a given ha hgiven hpresent => ?_ }
    · exact (get?_writeBack hwell _).trans (shown_of_mem hwell hentry)
    · exact (get?_writeBack hwell _).trans (shown_of_notMem hwell hnot)
    · rw [huntaken (hlacks.mpr hawaits.missing) hawaits.integer] at hreported
      cases hreported
    · obtain ⟨value, hcast, hmem⟩ := mem_row_of_given hi ha hgiven hpresent
      exact ⟨value, hcast, (get?_writeBack hwell _).trans (shown_of_mem hwell hmem)⟩

/-! ## Loading the row again -/

/-- The column of a stored value is an attribute that takes what is given back for the value. -/
theorem attribute?_of_mem_row {m : Model} (hcatalogued : m.Catalogued) (hwell : i.WellFormed m)
    {entry : String × Value} (hentry : entry ∈ i.row) :
    ∃ a, m.attribute? entry.1 = some a ∧
      ∀ found, entry.2.GivenBackAs found → a.type.cast? found = some entry.2 := by
  obtain ⟨a, ha, hname, hadmits, _⟩ := hwell.row entry hentry
  exact ⟨a, hcatalogued.attribute?_eq_some.mpr ⟨ha, hname⟩, fun _ hback => hadmits.cast? hback⟩

/-- A row with the stored values in it is read as a record that shows them. -/
theorem exists_ofRow_of_reloads {m : Model} (hcatalogued : m.Catalogued) (hwell : i.WellFormed m)
    {row : Row} (h : Reloads m i row) :
    ∃ loaded, ofRow m row = .ok loaded ∧ ∀ entry ∈ i.row, loaded.get? entry.1 = some entry.2 := by
  have hfits : ∀ column ∈ row.entries, Fits m column := by
    intro column hcolumn a ha
    by_cases hmem : column.1 ∈ i.columns
    · rw [← names_row hwell] at hmem
      obtain ⟨entry, hentry, hname⟩ := List.mem_map.mp hmem
      obtain ⟨found, hfound, hback⟩ := h.stored entry hentry
      obtain ⟨a', ha', hcast⟩ := attribute?_of_mem_row hcatalogued hwell hentry
      have hcolumn' : row.get? column.1 = some column.2 := OrderedMap.lookup_of_mem row.nodup hcolumn
      rw [hname] at hfound ha'
      obtain rfl : column.2 = found := Option.some.inj (hcolumn'.symm.trans hfound)
      obtain rfl : a = a' := Option.some.inj (ha.symm.trans ha')
      exact ⟨entry.2, hcast _ hback⟩
    · exact h.others column hcolumn hmem a ha
  obtain ⟨loaded, hloaded⟩ := exists_ofRow_eq_ok.mpr hfits
  refine ⟨loaded, hloaded, fun entry hentry => ?_⟩
  obtain ⟨found, hfound, hback⟩ := h.stored entry hentry
  obtain ⟨value, hvalue, hread⟩ := (ofRow_eq_ok.mp hloaded).get? hfound
  obtain ⟨a, ha, hcast⟩ := attribute?_of_mem_row hcatalogued hwell hentry
  obtain ⟨value', hvalue', hsame⟩ := (readAs_of_attribute ha).mp hread
  rw [hcast found hback] at hvalue'
  cases hvalue'
  cases hsame
  exact hvalue

/-- An insertion that went well has bound the values of its row, and the record shows them, whatever was
answered. A row that holds them is read as a record that shows them too. -/
theorem insert_stores (hdeclared : r.model.Declared)
    (hregistered : s.registry.get r.model.name = .ok r.model) (h : (r.insert s cx).Runs log r')
    (hok : r'.isOk = true) :
    ∃ compiled i response, s.compile (.insert r.model.name r.values) = .ok compiled ∧
      compiled.statement = .insert i ∧ compiled.params = i.values ∧
      log = [⟨.exec compiled.connection.adapter cx compiled.sql compiled.params, .ok response⟩] ∧
      r.ShowsRow i response.lastInsertKey? r' ∧
      ∀ row, Reloads r.model i row → ∃ loaded, ofRow r.model row = .ok loaded ∧
        ∀ name ∈ i.columns, loaded.get? name = r'.get? name := by
  obtain ⟨compiled, response, keyed, hcompile, hlog, htake, rfl⟩ := insert_accepted h hok
  obtain ⟨hlower, _, hserialize⟩ := Session.compile_eq_ok.mp hcompile
  obtain ⟨m, hget, hfor⟩ := Sql.lower_eq_ok.mp hlower
  obtain ⟨i, hi, hstatement⟩ := map_eq_ok.mp hfor
  obtain rfl : r.model = m := Except.ok.inj (hregistered.symm.trans hget)
  have hwell := Sql.insert_wellFormed hdeclared.catalogued hi
  rw [← hstatement] at htake
  have hshows := showsRow_of_takeKey hwell hi htake
  refine ⟨compiled, i, response, hcompile, hstatement.symm, ?_, hlog, hshows, fun row hrow => ?_⟩
  · rw [← hstatement] at hserialize
    have hparams := Sql.Statement.params_wording compiled.connection.dialect
      (Sql.balanced_of_lower hlower)
    rw [← hstatement] at hparams
    exact (congrArg Prod.snd hserialize).symm.trans hparams
  · obtain ⟨loaded, hloaded, hvalues⟩ := exists_ofRow_of_reloads hdeclared.catalogued hwell hrow
    refine ⟨loaded, hloaded, fun name hname => ?_⟩
    rw [← names_row hwell] at hname
    obtain ⟨entry, hentry, rfl⟩ := List.mem_map.mp hname
    rw [hvalues entry hentry, hshows.stored entry hentry]

end Record

namespace Bookshop

/-- What is said about loans: the book, and whether it is back, which it is not at first. -/
def loanClauses : List Clause :=
  [.attr { name := "book", type := .string, nullable := false },
    .attr { name := "returned", type := .boolean, default? := some (.int 0) }]

/-- The model of loans. -/
def loan : Model where
  name := "loan"
  attributes := [{ name := "id", type := .integer, nullable := false },
    { name := "book", type := .string, nullable := false },
    { name := "returned", type := .boolean, default? := some (.int 0) }]
  primaryKey := "id"
  associations := []
  connection := "primary"

/-- A session that knows loans. -/
def library : Session :=
  { Session.withDrivers drivers with registry := ⟨[loan]⟩ }.register "primary" (adapter 0)

/-- A loan that is not in the database yet. -/
def newLoan : Record := .ofValues loan ⟨[("id", .null), ("book", .text "Emma")], by decide⟩

def loanInsert : Sql.Insert := ⟨"loans", ["book", "returned"], [.text "Emma", .bool false]⟩

/-- The loan made ready for insertion. -/
def loanCompiled : Session.Compiled where
  connection := ⟨0, "primary", adapter 0⟩
  statement := .insert loanInsert
  sql := "INSERT INTO \"loans\" (\"book\", \"returned\") VALUES ($1, $2);"
  params := [.text "Emma", .bool false]

/-- The loan is inserted, and its row has the key 7. -/
def loanLog : List Exchange :=
  [⟨.exec (adapter 0) background loanCompiled.sql loanCompiled.params, .ok ⟨1, some (.int 7)⟩⟩]

/-- The loan once it is in the database. -/
def storedLoan : Record where
  model := loan
  values := ⟨[("id", .int 7), ("book", .text "Emma"), ("returned", .bool false)], by decide⟩
  status := .persisted
  error? := none

theorem loan_declared : loan.Declared :=
  ⟨"loan", loanClauses, Declaration.build_eq_ok.mpr (by decide +kernel)⟩

theorem compile_loan : library.compile (.insert newLoan.model.name newLoan.values) = .ok loanCompiled := by
  decide +kernel

theorem runs_loan : (newLoan.insert library background).Runs loanLog storedLoan := by
  show (Record.Deed.insert.perform library background newLoan).Runs _ _
  exact Record.Deed.runs_iff.mpr (.inr ⟨_, _, rfl,
    Session.exec_runs_of_compile compile_loan rfl (.ok ⟨1, some (.int 7)⟩), rfl⟩)

/-- The row of the loan as a database without truth values gives it. -/
def loanRow : Row := ⟨[("returned", .int 0), ("id", .int 7), ("book", .text "Emma")], by decide⟩

theorem reloads_loanRow : Record.Reloads loan loanInsert loanRow := by
  constructor
  · intro entry hentry
    rcases List.mem_cons.mp hentry with rfl | hentry
    · exact ⟨_, rfl, .same _⟩
    · cases List.mem_singleton.mp hentry
      exact ⟨_, rfl, .bit false⟩
  · intro column hcolumn hnot
    have hcolumn : column ∈ [("returned", Value.int 0), ("id", .int 7), ("book", .text "Emma")] := hcolumn
    simp only [List.mem_cons, List.not_mem_nil, or_false] at hcolumn
    rcases hcolumn with rfl | rfl | rfl
    · exact absurd (List.mem_cons_of_mem _ List.mem_cons_self) hnot
    · intro a ha
      cases ha
      exact ⟨_, rfl⟩
    · exact absurd List.mem_cons_self hnot

theorem loan_stored :
    loan.Declared ∧ library.registry.get loan.name = .ok loan ∧
      (newLoan.insert library background).Runs loanLog storedLoan ∧ storedLoan.isOk = true ∧
      newLoan.ShowsRow loanInsert (some (.int 7)) storedLoan ∧
      ∃ loaded, Record.ofRow loan loanRow = .ok loaded ∧
        ∀ name ∈ ["book", "returned"], loaded.get? name = storedLoan.get? name := by
  have hregistered : library.registry.get loan.name = .ok loan := by decide +kernel
  obtain ⟨compiled, i, response, hcompile, hstatement, _, hlog, hshows, hreloads⟩ :=
    Record.insert_stores loan_declared hregistered runs_loan rfl
  obtain rfl : loanCompiled = compiled := Except.ok.inj (compile_loan.symm.trans hcompile)
  cases hstatement
  cases hlog
  exact ⟨loan_declared, hregistered, runs_loan, rfl, hshows, hreloads loanRow reloads_loanRow⟩

end Bookshop

end RecordMapper
