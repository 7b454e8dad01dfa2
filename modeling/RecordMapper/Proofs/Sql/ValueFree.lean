import RecordMapper.Proofs.Sql.Parameters
import RecordMapper.Sql.Compile

/-!
# Values stay out of the text

Two statements that differ in values only are compiled to the same text. Which values may differ is
said by `Statement.SameButValues`: all of them, except that lowering asks of the value of a condition
and of the primary key of a new record whether it is missing.

The proof goes through the shape of the lowered statement (`Sql.Statement.blank`), on which alone the
text depends. A cast gives nothing for nothing only, so the shape is settled by what is given and what
is missing before any cast.
-/

namespace RecordMapper

/-! ## Statements that differ in values only -/

/-- Conditions on the same attribute that ask alike for a value or for none, or raw conditions with
the same fragment. -/
def Predicate.SameButValues : Predicate → Predicate → Prop
  | equals name value, equals name' value' => name = name' ∧ value.isNull = value'.isNull
  | raw fragment _, raw fragment' _ => fragment = fragment'
  | _, _ => False

/-- Queries that agree in everything but the values of their conditions. -/
structure Query.SameButValues (q q' : Query) : Prop where
  /-- They are about the same model. -/
  model : q.model = q'.model
  /-- Their conditions agree, position by position. -/
  filter : List.Forall₂ Predicate.SameButValues q.filter.toList q'.filter.toList
  /-- They select the same. -/
  select : q.select = q'.select
  /-- They group by the same. -/
  group : q.group = q'.group
  /-- They join the same. -/
  joins : q.joins = q'.joins
  /-- They order alike. -/
  orderBy : q.orderBy = q'.orderBy
  /-- They ask for the same number of rows. -/
  limit : q.limit = q'.limit

/-- Records with the same names in whatever order, of which both or none leave the primary key of the
model to the database. -/
structure Values.SameButValues (m : Model) (values values' : Values) : Prop where
  /-- They have the same names. -/
  names : ∀ name, name ∈ values.names ↔ name ∈ values'.names
  /-- They agree on whether the primary key is missing. -/
  key : (values.get? m.primaryKey).map Value.isNull = (values'.get? m.primaryKey).map Value.isNull

/-- Statements that differ in values only. -/
def Statement.SameButValues (r : Registry) : Statement → Statement → Prop
  | query q, query q' => q.SameButValues q'
  | insert model values, insert model' values' =>
    model = model' ∧ ∀ m, r.get model = .ok m → values.SameButValues m values'
  | update model _ values, update model' _ values' => model = model' ∧ values.names = values'.names
  | delete model _, delete model' _ => model = model'
  | createTable model, createTable model' => model = model'
  | _, _ => False

namespace Sql

variable {r : Registry} {m : Model} {values values' : Values}

/-! ## Queries -/

theorem blank_eq_of_condition {scope : Scope} {p p' : Predicate} {c c' : Condition}
    (hsame : p.SameButValues p') (h : scope.condition p = .ok c) (h' : scope.condition p' = .ok c') :
    c.blank = c'.blank := by
  cases p with
  | raw fragment args =>
    cases p' with
    | equals name' value' => exact hsame.elim
    | raw fragment' args' =>
      cases hsame
      obtain ⟨hcount, rfl⟩ := Scope.condition_raw_eq_ok.mp h
      obtain ⟨hcount', rfl⟩ := Scope.condition_raw_eq_ok.mp h'
      simp only [Condition.blank, List.map_const', ← hcount, ← hcount']
  | equals name value =>
    cases p' with
    | raw fragment' args' => exact hsame.elim
    | equals name' value' =>
      obtain ⟨rfl, hnull⟩ := hsame
      obtain ⟨a, w, ha, hcast, rfl⟩ := Scope.condition_equals_eq_ok.mp h
      obtain ⟨a', w', ha', hcast', rfl⟩ := Scope.condition_equals_eq_ok.mp h'
      cases ha.symm.trans ha'
      rw [ValueType.isNull_of_cast? hcast, ValueType.isNull_of_cast? hcast', hnull]
      split_ifs
      · rfl
      · rfl

theorem blank_eq_of_lowerQuery {q q' : Query} {s s' : Select} (hsame : q.SameButValues q')
    (h : lowerQuery r m q = .ok s) (h' : lowerQuery r m q' = .ok s') :
    (Statement.select s).blank = (Statement.select s').blank := by
  obtain ⟨joins, columns, groupBy, filter, orderBy, hjoins, hcolumns, -, hgroup, hfilter, horder, rfl⟩ :=
    lowerQuery_eq_ok.mp h
  obtain ⟨joins', columns', groupBy', filter', orderBy', hjoins', hcolumns', -, hgroup', hfilter',
    horder', rfl⟩ := lowerQuery_eq_ok.mp h'
  rw [← hsame.joins, hjoins] at hjoins'
  cases hjoins'
  rw [← hsame.select, hcolumns] at hcolumns'
  cases hcolumns'
  rw [← hsame.group, hgroup] at hgroup'
  cases hgroup'
  rw [← hsame.orderBy, horder] at horder'
  cases horder'
  have hblank : filter.map Condition.blank = filter'.map Condition.blank :=
    map_eq_map_of_mapM (fun _ _ _ _ hp => blank_eq_of_condition hp) hsame.filter hfilter hfilter'
  simp only [Statement.blank, hblank, hsame.limit]

/-! ## Inserts -/

/-- The column that an insert fills for an attribute, if any. It depends on what is given and on
whether the key is missing. -/
def storedColumn (m : Model) (values : Values) (a : Attribute) : Option String :=
  (givenValue values a).bind fun given =>
    if given.isNull = true ∧ a.name = m.primaryKey then none else some a.name

theorem storedColumn_of_storedValue {a : Attribute} {stored : Option (String × Value)}
    (h : storedValue m values a = .ok stored) : stored.map Prod.fst = storedColumn m values a := by
  unfold storedColumn
  rcases storedValue_eq_ok.mp h with
    ⟨hgiven, rfl⟩ | ⟨given, w, hgiven, hcast, ⟨hskip, rfl⟩ | ⟨hskip, -, rfl⟩⟩
  · rw [hgiven]
    rfl
  · rw [ValueType.isNull_of_cast? hcast] at hskip
    rw [hgiven, Option.bind_some, if_pos hskip]
    rfl
  · rw [ValueType.isNull_of_cast? hcast] at hskip
    rw [hgiven, Option.bind_some, if_neg hskip]
    rfl

theorem isSome_get?_iff (values : Values) (name : String) :
    (values.get? name).isSome ↔ name ∈ values.names := by
  simp only [OrderedMap.get?, OrderedMap.names, List.lookup_isSome_iff, List.mem_map, beq_iff_eq]
  exact exists_congr fun entry => and_congr_right fun _ => eq_comm

theorem storedColumn_congr (hsame : values.SameButValues m values') (a : Attribute) :
    storedColumn m values a = storedColumn m values' a := by
  have hgiven : (values.get? a.name).isSome = (values'.get? a.name).isSome := by
    rw [Bool.eq_iff_iff, isSome_get?_iff, isSome_get?_iff]
    exact hsame.names a.name
  have hkey := hsame.key
  unfold storedColumn givenValue
  cases hv : values.get? a.name with
  | none =>
    cases hv' : values'.get? a.name with
    | none => rfl
    | some value' =>
      rw [hv, hv'] at hgiven
      cases hgiven
  | some value =>
    cases hv' : values'.get? a.name with
    | none =>
      rw [hv, hv'] at hgiven
      cases hgiven
    | some value' =>
      by_cases hname : a.name = m.primaryKey
      · rw [← hname, hv, hv', Option.map_some, Option.map_some, Option.some.injEq] at hkey
        simp [hkey]
      · simp [hname]

/-- An accepted insert fills the columns that what is given settles, each with one value. -/
theorem columns_of_lowerInsert {i : Insert} (h : lowerInsert m values = .ok i) :
    i.table = m.tableName ∧ i.columns = (m.attributes.map (storedColumn m values)).filterMap id ∧
      i.values.length = i.columns.length := by
  obtain ⟨-, stored, hstored, rfl⟩ := lowerInsert_eq_ok.mp h
  refine ⟨rfl, ?_, by rw [List.length_map, List.length_map]⟩
  rw [← map_eq_of_mapM hstored fun _ _ => storedColumn_of_storedValue]
  simp only [List.map_filterMap, List.filterMap_map]
  rfl

theorem blank_eq_of_lowerInsert {i i' : Insert} (hsame : values.SameButValues m values')
    (h : lowerInsert m values = .ok i) (h' : lowerInsert m values' = .ok i') :
    (Statement.insert i).blank = (Statement.insert i').blank := by
  obtain ⟨htable, hcolumns, hlength⟩ := columns_of_lowerInsert h
  obtain ⟨htable', hcolumns', hlength'⟩ := columns_of_lowerInsert h'
  have heq : i.columns = i'.columns := by
    rw [hcolumns, hcolumns']
    exact congrArg (List.filterMap id) (List.map_congr_left fun a _ => storedColumn_congr hsame a)
  simp only [Statement.blank, List.map_const', htable, htable', hlength, hlength', heq]

/-! ## Updates and deletes -/

theorem blank_eq_of_lowerKey {key key' : Value} {row row' : String × Value}
    (h : lowerKey m key = .ok row) (h' : lowerKey m key' = .ok row') : blankEntry row = blankEntry row' := by
  obtain ⟨a, w, ha, -, -, rfl⟩ := lowerKey_eq_ok.mp h
  obtain ⟨a', w', ha', -, -, rfl⟩ := lowerKey_eq_ok.mp h'
  cases ha.symm.trans ha'
  rfl

theorem blank_assignments {entries assignments : List (String × Value)}
    (h : entries.mapM (assignment m) = .ok assignments) :
    assignments.map blankEntry = (entries.map Prod.fst).map fun name => (name, .null) := by
  rw [← map_eq_of_mapM h fun _ _ => assignment_name, List.map_map]
  rfl

theorem blank_eq_of_lowerUpdate {key key' : Value} {u u' : Update} (hsame : values.names = values'.names)
    (h : lowerUpdate m key values = .ok u) (h' : lowerUpdate m key' values' = .ok u') :
    (Statement.update u).blank = (Statement.update u').blank := by
  obtain ⟨row, assignments, hkey, hassign, -, rfl⟩ := lowerUpdate_eq_ok.mp h
  obtain ⟨row', assignments', hkey', hassign', -, rfl⟩ := lowerUpdate_eq_ok.mp h'
  have hnames : ∀ values : Values,
      (values.entries.filter fun entry => entry.1 ≠ m.primaryKey).map Prod.fst =
        values.names.filter (· ≠ m.primaryKey) := by
    intro values
    rw [OrderedMap.names, List.filter_map]
    rfl
  simp only [Statement.blank, blank_eq_of_lowerKey hkey hkey', blank_assignments hassign,
    blank_assignments hassign', hnames, hsame]

theorem blank_eq_of_lowerDelete {key key' : Value} {x x' : Delete} (h : lowerDelete m key = .ok x)
    (h' : lowerDelete m key' = .ok x') : (Statement.delete x).blank = (Statement.delete x').blank := by
  obtain ⟨row, hkey, rfl⟩ := lowerDelete_eq_ok.mp h
  obtain ⟨row', hkey', rfl⟩ := lowerDelete_eq_ok.mp h'
  simp only [Statement.blank, blank_eq_of_lowerKey hkey hkey']

/-! ## Statements -/

theorem model_eq_of_sameButValues {s s' : RecordMapper.Statement} (h : s.SameButValues r s') :
    s.model = s'.model := by
  cases s <;> cases s' <;> try exact h.elim
  case query.query => exact h.model
  case insert.insert => exact h.1
  case update.update => exact h.1
  case delete.delete => exact h
  case createTable.createTable => exact h

/-- Statements that differ in values only are lowered to statements of the same shape. -/
theorem blank_eq_of_lower {s s' : RecordMapper.Statement} {t t' : Statement}
    (hsame : s.SameButValues r s') (h : lower r s = .ok t) (h' : lower r s' = .ok t') : t.blank = t'.blank := by
  obtain ⟨m, hget, hlower⟩ := lower_eq_ok.mp h
  obtain ⟨m', hget', hlower'⟩ := lower_eq_ok.mp h'
  rw [← model_eq_of_sameButValues hsame] at hget'
  cases hget.symm.trans hget'
  cases s <;> cases s' <;> try exact hsame.elim
  case query.query q q' =>
    obtain ⟨s, hs, rfl⟩ := map_eq_ok.mp hlower
    obtain ⟨s', hs', rfl⟩ := map_eq_ok.mp hlower'
    exact blank_eq_of_lowerQuery hsame hs hs'
  case insert.insert model values model' values' =>
    obtain ⟨i, hi, rfl⟩ := map_eq_ok.mp hlower
    obtain ⟨i', hi', rfl⟩ := map_eq_ok.mp hlower'
    exact blank_eq_of_lowerInsert (hsame.2 m hget) hi hi'
  case update.update model key values model' key' values' =>
    obtain ⟨u, hu, rfl⟩ := map_eq_ok.mp hlower
    obtain ⟨u', hu', rfl⟩ := map_eq_ok.mp hlower'
    exact blank_eq_of_lowerUpdate hsame.2 hu hu'
  case delete.delete model key model' key' =>
    obtain ⟨x, hx, rfl⟩ := map_eq_ok.mp hlower
    obtain ⟨x', hx', rfl⟩ := map_eq_ok.mp hlower'
    exact blank_eq_of_lowerDelete hx hx'
  case createTable.createTable model model' => rw [Except.ok.inj (hlower.symm.trans hlower')]

/-- Statements that differ in values only, and that both compile, compile to the same text. -/
theorem compile_text_eq {s s' : RecordMapper.Statement} {d : Dialect} {text text' : String}
    {params params' : List Value} (hsame : s.SameButValues r s') (h : compile r s d = .ok (text, params))
    (h' : compile r s' d = .ok (text', params')) : text = text' := by
  obtain ⟨t, ht, hserial⟩ := map_eq_ok.mp h
  obtain ⟨t', ht', hserial'⟩ := map_eq_ok.mp h'
  calc text = (t.serialize d []).1 := by rw [hserial]
    _ = d.fill 0 (t.blank.stretches d) := t.serialize_fst d []
    _ = d.fill 0 (t'.blank.stretches d) := by rw [blank_eq_of_lower hsame ht ht']
    _ = (t'.serialize d []).1 := (t'.serialize_fst d []).symm
    _ = text' := by rw [hserial']

end Sql

namespace Bookshop

/-- A new book. -/
def newBook : Values := ⟨[("title", .text "Emma"), ("year", .int 1815)], by decide⟩

/-- A new book with a title that tries to end the statement. -/
def hostileBook : Values :=
  ⟨[("year", .null), ("title", .text "Emma'); DROP TABLE \"books\"; -- ?")], by decide⟩

/-- The insert of a book with the default rating. -/
def bookInsert (title year : Value) : Sql.Statement :=
  .insert ⟨book.tableName, ["title", "year", "rating"], [title, year, .float (Binary64.ofInt64 3)]⟩

theorem compile_newBook (d : Dialect) : Sql.compile registry (.insert "book" newBook) d =
    .ok ((bookInsert (.text "Emma") (.int 1815)).serialize d []) := rfl

theorem compile_hostileBook (d : Dialect) : Sql.compile registry (.insert "book" hostileBook) d =
    .ok ((bookInsert (.text "Emma'); DROP TABLE \"books\"; -- ?") .null).serialize d []) := rfl

theorem hostileBook_sameButValues :
    (Statement.insert "book" newBook).SameButValues registry (.insert "book" hostileBook) := by
  refine ⟨rfl, fun m hm => ?_⟩
  cases hm
  refine ⟨fun name => ?_, rfl⟩
  simp [newBook, hostileBook, OrderedMap.names, or_comm]

theorem hostileBook_text :
    (Statement.insert "book" newBook).SameButValues registry (.insert "book" hostileBook) ∧
      ((bookInsert (.text "Emma") (.int 1815)).serialize .sqlite []).1 =
        ((bookInsert (.text "Emma'); DROP TABLE \"books\"; -- ?") .null).serialize .sqlite []).1 :=
  ⟨hostileBook_sameButValues, Sql.compile_text_eq hostileBook_sameButValues (compile_newBook .sqlite)
    (compile_hostileBook .sqlite)⟩

end Bookshop

end RecordMapper
