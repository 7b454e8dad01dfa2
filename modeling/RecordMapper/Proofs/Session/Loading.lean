import RecordMapper.Proofs.Data.Merging
import RecordMapper.Proofs.Session.CompilationTime

/-!
# Records made from rows

The rows of an answer become records one by one, and within a row the columns become values one by
one. `Record.Materializes` says what a record has to be for it to stand for a row, without saying how it
is made: it has the columns of the row in their order, those of the catalog cast to their types and
the others as they are. `Record.FirstMisfit` says which value is to blame when there are no records.
Between them the two tell the outcome of every list of rows (`Relation.toList_of_rows`).
-/

namespace RecordMapper

namespace Record

variable {m : Model} {row : Row} {r : Record} {e : Error} {column entry : String × Value}

/-- What a column of a row is read as: a column of the catalog is cast, any other is kept. -/
inductive ReadAs (m : Model) : String × Value → String × Value → Prop
  | cast {name : String} {found value : Value} {a : Attribute} : m.attribute? name = some a →
    a.type.cast? found = some value → ReadAs m (name, found) (name, value)
  | verbatim {name : String} {found : Value} : m.attribute? name = none →
    ReadAs m (name, found) (name, found)

/-- If the column is one of the catalog, then its value can be cast to the type declared for it. -/
def Fits (m : Model) (column : String × Value) : Prop :=
  ∀ a, m.attribute? column.1 = some a → ∃ value, a.type.cast? column.2 = some value

/-- The record stands for the row. -/
structure Materializes (m : Model) (row : Row) (r : Record) : Prop where
  model : r.model = m
  status : r.status = .persisted
  error : r.error? = none
  columns : List.Forall₂ (ReadAs m) row.entries r.values.entries

/-- The error is about the first of the columns whose value does not fit. -/
def FirstMisfit (m : Model) (columns : List (String × Value)) (e : Error) : Prop :=
  ∃ before column after a, columns = before ++ column :: after ∧ (∀ earlier ∈ before, Fits m earlier) ∧
    m.attribute? column.1 = some a ∧ a.type.cast? column.2 = none ∧
      e = .of (.typeConversion column.2 a.type)

/-! ## Columns -/

section Columns

variable {name : String} {found : Value} {a : Attribute}

theorem readAs_of_attribute (ha : m.attribute? name = some a) :
    ReadAs m (name, found) entry ↔ ∃ value, a.type.cast? found = some value ∧ (name, value) = entry := by
  constructor
  · intro h
    cases h with
    | cast ha' hcast =>
      obtain rfl : a = _ := Option.some.inj (ha.symm.trans ha')
      exact ⟨_, hcast, rfl⟩
    | verbatim hnone =>
      rw [ha] at hnone
      cases hnone
  · rintro ⟨value, hcast, rfl⟩
    exact .cast ha hcast

theorem readAs_of_none (hnone : m.attribute? name = none) :
    ReadAs m (name, found) entry ↔ (name, found) = entry := by
  constructor
  · intro h
    cases h with
    | cast ha _ =>
      rw [hnone] at ha
      cases ha
    | verbatim _ => rfl
  · rintro rfl
    exact .verbatim hnone

theorem castColumn_eq_ok : castColumn m column = .ok entry ↔ ReadAs m column entry := by
  obtain ⟨name, found⟩ := column
  unfold castColumn
  cases ha : m.attribute? name with
  | none =>
    rw [readAs_of_none ha]
    simp
  | some a =>
    rw [readAs_of_attribute ha]
    simp only [map_eq_ok, ValueType.cast_eq_ok]

theorem exists_castColumn_eq_ok : (∃ entry, castColumn m column = .ok entry) ↔ Fits m column := by
  obtain ⟨name, found⟩ := column
  unfold Fits
  cases ha : m.attribute? name with
  | none => simp [castColumn_eq_ok, readAs_of_none ha]
  | some a => simp [castColumn_eq_ok, readAs_of_attribute ha]

theorem mapM_castColumn_eq_error {columns : List (String × Value)} :
    columns.mapM (castColumn m) = .error e ↔ FirstMisfit m columns e := by
  rw [mapM_eq_error]
  simp only [exists_castColumn_eq_ok, castColumn_eq_error]
  constructor
  · rintro ⟨before, column, after, hsplit, hbefore, a, ha, hcast, rfl⟩
    exact ⟨before, column, after, a, hsplit, hbefore, ha, hcast, rfl⟩
  · rintro ⟨before, column, after, a, hsplit, hbefore, ha, hcast, rfl⟩
    exact ⟨before, column, after, hsplit, hbefore, a, ha, hcast, rfl⟩

theorem ReadAs.name_eq (h : ReadAs m column entry) : entry.1 = column.1 := by
  cases h <;> rfl

end Columns

/-! ## Rows -/

theorem ofRow_eq_ok : ofRow m row = .ok r ↔ Materializes m row r := by
  have hread : ∀ entries, row.entries.mapM (castColumn m) = .ok entries ↔
      List.Forall₂ (ReadAs m) row.entries entries := by
    intro entries
    simp only [mapM_eq_ok, castColumn_eq_ok]
  unfold ofRow
  rw [bind_eq_ok]
  constructor
  · rintro ⟨entries, hentries, hr⟩
    obtain rfl := pure_eq_ok.mp hr
    have hnames : entries.map Prod.fst = row.entries.map Prod.fst :=
      map_eq_of_mapM hentries fun _ _ h => (castColumn_eq_ok.mp h).name_eq
    have hkept : (OrderedMap.ofList entries).entries = entries := by
      apply OrderedMap.entries_ofList
      rw [hnames]
      exact row.nodup
    refine ⟨rfl, rfl, rfl, ?_⟩
    rw [hkept]
    exact (hread entries).mp hentries
  · intro h
    refine ⟨r.values.entries, (hread _).mpr h.columns, ?_⟩
    obtain ⟨_, values, _, _⟩ := r
    obtain ⟨rfl, rfl, rfl, _⟩ := h
    have hkept : OrderedMap.ofList values.entries = values :=
      OrderedMap.ext (OrderedMap.entries_ofList values.nodup)
    rw [hkept]
    rfl

/-- A whole number becomes a rating, and a column that books do not have is kept. -/
example : ofRow Bookshop.book ⟨[("shelf", .text "A3"), ("rating", .int 4)], by decide⟩ =
    .ok ⟨Bookshop.book, ⟨[("shelf", .text "A3"), ("rating", .float (Binary64.ofInt64 4))], by decide⟩,
      .persisted, none⟩ := by
  rfl

theorem lookup_of_readAs {columns entries : List (String × Value)}
    (h : List.Forall₂ (ReadAs m) columns entries) {name : String} {found : Value}
    (hfound : columns.lookup name = some found) :
    ∃ value, entries.lookup name = some value ∧ ReadAs m (name, found) (name, value) := by
  induction h with
  | nil => cases hfound
  | @cons column entry _ _ hread _ ih =>
    obtain ⟨known, first⟩ := column
    obtain ⟨known', value⟩ := entry
    obtain rfl : known' = known := hread.name_eq
    rw [OrderedMap.lookup_cons_eq_ite] at hfound ⊢
    by_cases hname : name = known'
    · rw [if_pos hname] at hfound ⊢
      cases hfound
      rw [hname]
      exact ⟨value, rfl, hread⟩
    · rw [if_neg hname] at hfound ⊢
      exact ih hfound

/-- What a record shows of a column is what the column was read as. -/
theorem Materializes.get? (h : Materializes m row r) {name : String} {found : Value}
    (hfound : row.get? name = some found) :
    ∃ value, r.get? name = some value ∧ ReadAs m (name, found) (name, value) :=
  lookup_of_readAs h.columns hfound

theorem exists_ofRow_eq_ok : (∃ r, ofRow m row = .ok r) ↔ ∀ column ∈ row.entries, Fits m column := by
  have hread : (∃ r, ofRow m row = .ok r) ↔
      ∃ entries, row.entries.mapM (castColumn m) = .ok entries := by
    unfold ofRow
    simp only [bind_eq_ok, pure_eq_ok]
    constructor
    · rintro ⟨_, entries, hentries, _⟩
      exact ⟨entries, hentries⟩
    · rintro ⟨entries, hentries⟩
      exact ⟨_, entries, hentries, rfl⟩
  rw [hread, exists_mapM_eq_ok]
  simp only [exists_castColumn_eq_ok]

/-- The columns of all rows are looked at in one pass, row after row. -/
theorem mapM_ofRow_eq_error_iff {rows : List Row} :
    rows.mapM (ofRow m) = .error e ↔ FirstMisfit m (rows.flatMap OrderedMap.entries) e := by
  rw [← mapM_castColumn_eq_error]
  induction rows with
  | nil =>
    constructor
    · intro h
      cases h
    · intro h
      cases h
  | cons row rows ih =>
    rw [List.flatMap_cons, mapM_cons_eq_error, mapM_append_eq_error, ofRow_eq_error, ih,
      exists_ofRow_eq_ok]
    simp only [exists_castColumn_eq_ok]

end Record

/-! ## Relations -/

namespace Relation

variable {s : Session} {cx : Context} {r : Relation} {log : List Exchange}

/-- The records come from the one answer that the query got. -/
theorem toList_runs {outcome : Except Error (List Record)} (h : (r.toList s cx).Runs log outcome) :
    ∃ reply, (s.query cx (.query r.query)).Runs log reply ∧
      reply.bind (fun rows => rows.mapM (Record.ofRow r.model)) = outcome :=
  Dialogue.runs_map.mp h

/-- All rows become records or none does: they do when every value in a column of the catalog fits,
and the first one that does not gives the error. -/
theorem toList_of_rows {outcome : Except Error (List Record)} {adapter : Adapter} {sql : String}
    {params : List Value} {rows : List Row} (h : (r.toList s cx).Runs log outcome)
    (hrows : ⟨.query adapter cx sql params, .ok rows⟩ ∈ log) :
    ((∃ records, outcome = .ok records) ↔
        ∀ row ∈ rows, ∀ column ∈ row.entries, Record.Fits r.model column) ∧
      (∀ records, outcome = .ok records ↔
        List.Forall₂ (Record.Materializes r.model) rows records) ∧
      (∀ e, outcome = .error e ↔ Record.FirstMisfit r.model (rows.flatMap OrderedMap.entries) e) := by
  obtain ⟨reply, hquery, rfl⟩ := toList_runs h
  obtain rfl : .ok rows = reply := by
    rcases Session.query_runs hquery with ⟨rfl, _⟩ | ⟨compiled, _, _, rfl⟩
    · cases hrows
    · cases List.mem_singleton.mp hrows
      rfl
  show ((∃ records, rows.mapM (Record.ofRow r.model) = .ok records) ↔ _) ∧
    (∀ records, rows.mapM (Record.ofRow r.model) = .ok records ↔ _) ∧
      ∀ e, rows.mapM (Record.ofRow r.model) = .error e ↔ _
  refine ⟨?_, fun records => ?_, fun e => Record.mapM_ofRow_eq_error_iff⟩
  · rw [exists_mapM_eq_ok]
    simp only [Record.exists_ofRow_eq_ok]
  · simp only [mapM_eq_ok, Record.ofRow_eq_ok]

end Relation

namespace Bookshop

/-- A row of books with a whole number for a rating and a column that books do not have. -/
def ratedRow : Row :=
  ⟨[("title", .text "Emma"), ("shelf", .text "A3"), ("rating", .int 4), ("uid", .int 1)], by decide⟩

/-- All books are asked for, and two rows come back: one that can be read and one that cannot. -/
def halfMisread : List Exchange :=
  [⟨.query (adapter 0) background booksQuery.sql booksQuery.params, .ok [ratedRow, misreadRow]⟩]

theorem runs_halfMisread : (allBooks.toList opened.session background).Runs halfMisread
    (.error (.of (.typeConversion (.text "one") .integer))) :=
  Dialogue.runs_map.mpr ⟨.ok [ratedRow, misreadRow],
    Session.query_runs_of_compile compile_allBooks rfl (.ok [ratedRow, misreadRow]), rfl⟩

theorem halfMisread_of_rows :
    (allBooks.toList opened.session background).Runs halfMisread
        (.error (.of (.typeConversion (.text "one") .integer))) ∧
      ⟨.query (adapter 0) background booksQuery.sql booksQuery.params, .ok [ratedRow, misreadRow]⟩ ∈
        halfMisread ∧
      Record.FirstMisfit book (ratedRow.entries ++ misreadRow.entries)
        (.of (.typeConversion (.text "one") .integer)) := by
  have hmem : ⟨.query (adapter 0) background booksQuery.sql booksQuery.params,
      .ok [ratedRow, misreadRow]⟩ ∈ halfMisread := List.mem_singleton.mpr rfl
  obtain ⟨_, _, hmisfit⟩ := Relation.toList_of_rows runs_halfMisread hmem
  exact ⟨runs_halfMisread, hmem, (hmisfit _).mp rfl⟩

end Bookshop

end RecordMapper
