import RecordMapper.Proofs.Sql.Lowering

/-!
# Lowered statements are well formed

What makes an SQL statement fit the catalog of a model is said here once, statement by statement,
without reference to lowering: which columns it may name and how they are written, which values it
may bind, and which shape it has. The main theorem says that whatever lowering gives is well formed.
It rests on three things: the catalog of a declared model (`Model.Catalogued`), the typing of casts
and what a resolved association guarantees.
-/

namespace RecordMapper

/-! ## Well-formed statements -/

/-- The value is one of the attribute: of its type, or missing where it may be missing. -/
def Attribute.Admits (a : Attribute) (value : Value) : Prop :=
  value.type? = some a.type ∨ value = .null ∧ a.nullable = true

namespace Sql

/-- The column is one of the model, written with its table exactly if other tables are joined. -/
def Column.WellFormed (m : Model) (joins : List Join) (c : Column) : Prop :=
  c.name ∈ m.attributes.map Attribute.name ∧
    c.table? = if joins = [] then none else some m.tableName

/-- A condition names a column of the model. A value that it compares with is of the type of the
column, hence not missing; a raw condition has one argument for each of its marks. -/
def Condition.WellFormed (m : Model) (joins : List Join) : Condition → Prop
  | equals c value =>
    c.WellFormed m joins ∧ ∃ a ∈ m.attributes, a.name = c.name ∧ value.type? = some a.type
  | isNull c => c.WellFormed m joins
  | raw fragment args => (Fragment.pieces fragment).length = args.length + 1

/-- A join follows an association of the model: it compares an attribute of the target, on the
joined table, with an attribute of the model, on its own table. -/
def Join.WellFormed (r : Registry) (m : Model) (j : Join) : Prop :=
  ∃ a ∈ m.associations, ∃ target, r.get a.target = .ok target ∧ j.table = target.tableName ∧
    (∃ name ∈ target.attributes.map Attribute.name, j.left = .qualified j.table name) ∧
    ∃ name ∈ m.attributes.map Attribute.name, j.right = .qualified m.tableName name

/-- A select from the table of the model. -/
structure Select.WellFormed (r : Registry) (m : Model) (s : Select) : Prop where
  /-- It reads the table of the model. -/
  table : s.table = m.tableName
  /-- It asks for something. -/
  columns_ne_nil : s.columns ≠ []
  /-- It asks for columns of the model. -/
  columns : ∀ c ∈ s.columns, c.WellFormed m s.joins
  /-- It joins along associations of the model. -/
  joins : ∀ j ∈ s.joins, j.WellFormed r m
  /-- Its conditions fit the model. -/
  filter : ∀ c ∈ s.filter, c.WellFormed m s.joins
  /-- It groups by columns of the model. -/
  groupBy : ∀ c ∈ s.groupBy, c.WellFormed m s.joins
  /-- It orders by columns of the model. -/
  orderBy : ∀ o ∈ s.orderBy, o.1.WellFormed m s.joins
  /-- If it groups, then by the columns that it asks for. -/
  grouped : s.groupBy ≠ [] → ∀ c, c ∈ s.groupBy ↔ c ∈ s.columns

/-- An insert into the table of the model. -/
structure Insert.WellFormed (m : Model) (i : Insert) : Prop where
  /-- It writes the table of the model. -/
  table : i.table = m.tableName
  /-- Its columns come in the order of the catalog. -/
  sublist : i.columns.Sublist (m.attributes.map Attribute.name)
  /-- No column comes twice. -/
  nodup : i.columns.Nodup
  /-- Every column has a value. -/
  length_eq : i.values.length = i.columns.length
  /-- The values are those that the attributes admit, and the key is not given as missing. -/
  row : ∀ entry ∈ i.row, ∃ a ∈ m.attributes, a.name = entry.1 ∧ a.Admits entry.2 ∧
    (entry.2 = .null → entry.1 ≠ m.primaryKey)

/-- The column of the primary key with a value of its type. -/
def IsKey (m : Model) (entry : String × Value) : Prop :=
  entry.1 = m.primaryKey ∧ ∃ a ∈ m.attributes, a.name = entry.1 ∧ entry.2.type? = some a.type

/-- An update of one row of the table of the model. -/
structure Update.WellFormed (m : Model) (u : Update) : Prop where
  /-- It writes the table of the model. -/
  table : u.table = m.tableName
  /-- It changes something. -/
  assignments_ne_nil : u.assignments ≠ []
  /-- It changes no column twice. -/
  nodup : (u.assignments.map Prod.fst).Nodup
  /-- It changes attributes other than the key, to values that they admit. -/
  assignments : ∀ entry ∈ u.assignments, entry.1 ≠ m.primaryKey ∧
    ∃ a ∈ m.attributes, a.name = entry.1 ∧ a.Admits entry.2
  /-- It finds the row by its key. -/
  key : IsKey m u.key

/-- The removal of one row of the table of the model. -/
structure Delete.WellFormed (m : Model) (d : Delete) : Prop where
  /-- It writes the table of the model. -/
  table : d.table = m.tableName
  /-- It finds the row by its key. -/
  key : IsKey m d.key

/-- The creation of the table of the model. -/
structure CreateTable.WellFormed (m : Model) (c : CreateTable) : Prop where
  /-- It creates the table of the model. -/
  table : c.table = m.tableName
  /-- It leaves a table that exists alone. -/
  ifNotExists : c.ifNotExists = true
  /-- It has a column for every attribute, in the order of the catalog. -/
  columns : List.Forall₂ (fun (a : Attribute) (column : ColumnDefinition) =>
    column.name = a.name ∧ column.type = a.type ∧ column.notNull = !a.nullable ∧
      (column.primaryKey = true ↔ a.name = m.primaryKey)) m.attributes c.columns
  /-- No column comes twice. -/
  nodup : (c.columns.map ColumnDefinition.name).Nodup
  /-- One column is the primary key. -/
  key : (c.columns.filter ColumnDefinition.primaryKey).map ColumnDefinition.name = [m.primaryKey]

/-- The SQL statement is of the kind of the statement and fits the catalog of its model. -/
def Fits (r : Registry) (m : Model) : RecordMapper.Statement → Statement → Prop
  | .query _, .select s => s.WellFormed r m
  | .insert _ _, .insert i => i.WellFormed m
  | .update _ _ _, .update u => u.WellFormed m
  | .delete _ _, .delete d => d.WellFormed m
  | .createTable _, .createTable c => c.WellFormed m
  | _, _ => False

/-! ## Selecting -/

variable {r : Registry} {m : Model} {joins : List Join} {name : String}

theorem column_wellFormed {a : Attribute} (ha : a ∈ m.attributes) (joins : List Join) :
    (Scope.column ⟨m, !joins.isEmpty⟩ a).WellFormed m joins := by
  cases joins with
  | nil => exact ⟨List.mem_map_of_mem ha, rfl⟩
  | cons j joins => exact ⟨List.mem_map_of_mem ha, rfl⟩

theorem lookup_wellFormed {c : Column} (h : Scope.lookup ⟨m, !joins.isEmpty⟩ name = .ok c) :
    c.WellFormed m joins := by
  obtain ⟨a, ha, rfl⟩ := Scope.lookup_eq_ok.mp h
  exact column_wellFormed (Model.mem_of_attribute? ha).1 joins

theorem column_name (scope : Scope) (a : Attribute) : (scope.column a).name = a.name := by
  unfold Scope.column
  split <;> rfl

theorem condition_wellFormed {p : Predicate} {c : Condition}
    (h : Scope.condition ⟨m, !joins.isEmpty⟩ p = .ok c) : c.WellFormed m joins := by
  cases p with
  | raw fragment args =>
    obtain ⟨hcount, rfl⟩ := Scope.condition_raw_eq_ok.mp h
    show (Fragment.pieces fragment).length = args.length + 1
    rw [Fragment.length_pieces, hcount]
  | equals name value =>
    obtain ⟨a, w, ha, hcast, rfl⟩ := Scope.condition_equals_eq_ok.mp h
    have hmem := (Model.mem_of_attribute? ha).1
    cases hw : w.isNull with
    | true => exact column_wellFormed hmem joins
    | false =>
      refine ⟨column_wellFormed hmem joins, a, hmem, (column_name _ a).symm, ?_⟩
      exact ValueType.type?_eq_of_cast? hcast hw

theorem join_wellFormed {association : String} {j : Join} (h : lowerJoin r m association = .ok j) :
    j.WellFormed r m := by
  obtain ⟨resolved, hres, -, rfl⟩ := lowerJoin_eq_ok.mp h
  have htarget := ResolvedAssociation.targetKey_mem hres
  have howner := ResolvedAssociation.ownerKey_mem hres
  obtain ⟨declared, target, hdecl, hget, rfl, -⟩ := Registry.resolve_eq_ok.mp hres
  exact ⟨declared, Model.mem_of_association? hdecl, target, hget, rfl, ⟨_, htarget, rfl⟩, _, howner, rfl⟩

/-- Names looked up from lists with the same members give columns with the same members. -/
theorem mem_lookups_iff {scope : Scope} {names others : List String} {columns others' : List Column}
    (h : names.mapM scope.lookup = .ok columns) (h' : others.mapM scope.lookup = .ok others')
    (hsame : ∀ name, name ∈ names ↔ name ∈ others) (c : Column) : c ∈ columns ↔ c ∈ others' := by
  have mem_iff : ∀ {names : List String} {columns : List Column},
      names.mapM scope.lookup = .ok columns →
        (c ∈ columns ↔ ∃ name ∈ names, scope.lookup name = .ok c) := by
    intro names columns h
    constructor
    · exact exists_of_mem_mapM h
    · rintro ⟨name, hname, hlookup⟩
      obtain ⟨c', hc', hlookup'⟩ := exists_of_mem_of_mapM h hname
      cases hlookup.symm.trans hlookup'
      exact hc'
  rw [mem_iff h, mem_iff h']
  exact exists_congr fun name => and_congr_left fun _ => hsame name

theorem select_wellFormed (hm : m.Catalogued) {q : Query} {s : Select} (h : lowerQuery r m q = .ok s) :
    s.WellFormed r m := by
  obtain ⟨joins, columns, groupBy, filter, orderBy, hjoins, hcolumns, hgrouping, hgroup, hfilter,
    horder, rfl⟩ := lowerQuery_eq_ok.mp h
  have hlookups : ∀ {names : List String} {columns : List Column},
      names.mapM (Scope.lookup ⟨m, !joins.isEmpty⟩) = .ok columns →
        ∀ c ∈ columns, c.WellFormed m joins := by
    intro names columns h c hc
    obtain ⟨name, -, hname⟩ := exists_of_mem_mapM h hc
    exact lookup_wellFormed hname
  refine
    { table := rfl
      columns_ne_nil := ?_
      columns := ?_
      joins := ?_
      filter := ?_
      groupBy := hlookups hgroup
      orderBy := ?_
      grouped := ?_ }
  · -- without selected names there is the primary key at least
    split_ifs at hcolumns with hempty
    · cases hcolumns
      simpa using hm.attributes_ne_nil
    · intro hnil
      rw [show columns = [] from hnil, mapM_eq_ok, List.forall₂_nil_right_iff] at hcolumns
      exact hempty ((Trail.isEmpty_iff _).mpr hcolumns)
  · intro c hc
    split_ifs at hcolumns with hempty
    · cases hcolumns
      obtain ⟨a, ha, rfl⟩ := List.mem_map.mp hc
      exact column_wellFormed ha joins
    · exact hlookups hcolumns c hc
  · intro j hj
    obtain ⟨association, -, hassoc⟩ := exists_of_mem_mapM hjoins hj
    exact join_wellFormed hassoc
  · intro c hc
    obtain ⟨p, -, hp⟩ := exists_of_mem_mapM hfilter hc
    exact condition_wellFormed hp
  · intro o ho
    obtain ⟨order, -, horder⟩ := exists_of_mem_mapM horder ho
    obtain ⟨a, ha, rfl⟩ := Scope.ordering_eq_ok.mp horder
    exact column_wellFormed (Model.mem_of_attribute? ha).1 joins
  · intro hne
    rcases checkGrouping_eq_ok.mp hgrouping with hnil | ⟨hselected, hgrouped, hback⟩
    · rw [hnil, List.mapM_nil, pure_eq_ok] at hgroup
      exact absurd hgroup.symm hne
    · rw [if_neg (fun hempty => hselected ((Trail.isEmpty_iff _).mp hempty))] at hcolumns
      exact mem_lookups_iff hgroup hcolumns fun name => ⟨fun hn => (hgrouped name hn).2, hback name⟩

/-! ## Changing rows -/

/-- What was cast to the type of an attribute and found present enough is admitted by it. -/
theorem admits_of_cast? {a : Attribute} {v w : Value} (h : a.type.cast? v = some w)
    (hpresent : w.isNull = true → a.nullable = true) : a.Admits w := by
  rcases ValueType.type?_of_cast? h with rfl | htype
  · exact Or.inr ⟨rfl, hpresent rfl⟩
  · exact Or.inl htype

theorem storedValue_name {values : Values} {a : Attribute} {entry : String × Value}
    (h : storedValue m values a = .ok (some entry)) : entry.1 = a.name := by
  rcases storedValue_eq_ok.mp h with ⟨-, hnone⟩ | ⟨_, w, -, -, ⟨-, hnone⟩ | ⟨-, -, hsome⟩⟩
  · cases hnone
  · cases hnone
  · cases hsome
    rfl

theorem storedValue_admitted {values : Values} {a : Attribute} {entry : String × Value}
    (h : storedValue m values a = .ok (some entry)) :
    a.Admits entry.2 ∧ (entry.2 = .null → a.name ≠ m.primaryKey) := by
  rcases storedValue_eq_ok.mp h with ⟨-, hnone⟩ | ⟨_, w, -, hcast, ⟨-, hnone⟩ | ⟨hkey, hpresent, hsome⟩⟩
  · cases hnone
  · cases hnone
  · cases hsome
    refine ⟨admits_of_cast? hcast hpresent, fun hnull hname => hkey ⟨?_, hname⟩⟩
    rw [show w = .null from hnull]
    rfl

/-- What is stored follows the order of the attributes, with some of them left out. -/
theorem stored_sublist {values : Values} {attributes : List Attribute}
    {stored : List (Option (String × Value))}
    (h : attributes.mapM (storedValue m values) = .ok stored) :
    ((stored.filterMap id).map Prod.fst).Sublist (attributes.map Attribute.name) := by
  rw [mapM_eq_ok] at h
  induction h with
  | nil => exact List.Sublist.slnil
  | @cons a item _ _ hitem _ ih =>
    cases item with
    | none => exact ih.trans (List.sublist_cons_self _ _)
    | some entry =>
      rw [List.map_cons, ← storedValue_name hitem]
      exact ih.cons_cons entry.1

/-- The row of an insert is what is stored for the attributes. -/
theorem row_of_stored {stored : List (Option (String × Value))} {i : Insert}
    (h : ⟨m.tableName, (stored.filterMap id).map Prod.fst, (stored.filterMap id).map Prod.snd⟩ = i) :
    i.row = stored.filterMap id := by
  rw [← h]
  exact (List.zip_of_prod rfl rfl).symm

theorem insert_wellFormed (hm : m.Catalogued) {values : Values} {i : Insert}
    (h : lowerInsert m values = .ok i) : i.WellFormed m := by
  obtain ⟨-, stored, hstored, rfl⟩ := lowerInsert_eq_ok.mp h
  refine
    { table := rfl
      sublist := stored_sublist hstored
      nodup := hm.nodup.sublist (stored_sublist hstored)
      length_eq := by simp only [List.length_map]
      row := ?_ }
  intro entry hentry
  rw [row_of_stored rfl, List.mem_filterMap] at hentry
  obtain ⟨item, hitem, rfl⟩ := hentry
  obtain ⟨a, ha, hvalue⟩ := exists_of_mem_mapM hstored hitem
  obtain ⟨hadmits, hnull⟩ := storedValue_admitted hvalue
  rw [storedValue_name hvalue]
  exact ⟨a, ha, rfl, hadmits, hnull⟩

theorem isKey_of_lowerKey {key : Value} {row : String × Value} (h : lowerKey m key = .ok row) :
    IsKey m row := by
  obtain ⟨a, w, ha, hnull, hcast, rfl⟩ := lowerKey_eq_ok.mp h
  obtain ⟨hmem, hname⟩ := Model.mem_of_attribute? ha
  refine ⟨hname, a, hmem, rfl, ValueType.type?_eq_of_cast? hcast ?_⟩
  rw [ValueType.isNull_of_cast? hcast, hnull]

theorem assignment_name {entry row : String × Value} (h : assignment m entry = .ok row) :
    row.1 = entry.1 := by
  obtain ⟨a, w, ha, -, -, rfl⟩ := assignment_eq_ok.mp h
  exact (Model.mem_of_attribute? ha).2

theorem update_wellFormed {key : Value} {values : Values} {u : Update}
    (h : lowerUpdate m key values = .ok u) : u.WellFormed m := by
  obtain ⟨row, assignments, hkey, hassign, hne, rfl⟩ := lowerUpdate_eq_ok.mp h
  have hnames := map_eq_of_mapM hassign (g := Prod.fst) (k := Prod.fst) fun _ _ => assignment_name
  refine
    { table := rfl
      assignments_ne_nil := hne
      nodup := ?_
      assignments := ?_
      key := isKey_of_lowerKey hkey }
  · rw [hnames]
    exact values.nodup.sublist (List.filter_sublist.map _)
  · intro entry hentry
    obtain ⟨given, hgiven, hrow⟩ := exists_of_mem_mapM hassign hentry
    obtain ⟨a, w, ha, hcast, hpresent, rfl⟩ := assignment_eq_ok.mp hrow
    obtain ⟨hmem, hname⟩ := Model.mem_of_attribute? ha
    refine ⟨?_, a, hmem, rfl, admits_of_cast? hcast hpresent⟩
    rw [show (a.name, w).1 = given.1 from hname]
    simpa using (List.mem_filter.mp hgiven).2

theorem delete_wellFormed {key : Value} {d : Delete} (h : lowerDelete m key = .ok d) :
    d.WellFormed m := by
  obtain ⟨row, hkey, rfl⟩ := lowerDelete_eq_ok.mp h
  exact ⟨rfl, isKey_of_lowerKey hkey⟩

/-! ## Creating tables -/

theorem createTable_wellFormed (hm : m.Catalogued) : (lowerCreateTable m).WellFormed m := by
  have hnames : (lowerCreateTable m).columns.map ColumnDefinition.name =
      m.attributes.map Attribute.name := by
    simp only [lowerCreateTable, List.map_map]
    rfl
  refine
    { table := rfl
      ifNotExists := rfl
      columns := ?_
      nodup := hnames ▸ hm.nodup
      key := ?_ }
  · simp only [lowerCreateTable, List.forall₂_map_right_iff, List.forall₂_same]
    intro a _
    exact ⟨rfl, rfl, rfl, by simp [ColumnDefinition.ofAttribute]⟩
  · -- the catalog has the name of the key in it just once
    have hfilter : ((lowerCreateTable m).columns.filter ColumnDefinition.primaryKey).map
        ColumnDefinition.name = (m.attributes.map Attribute.name).filter (· == m.primaryKey) := by
      simp only [lowerCreateTable, List.filter_map, List.map_map]
      rfl
    rw [hfilter, List.filter_beq, List.count_eq_one_of_mem hm.nodup hm.key_mem]
    rfl

/-! ## Statements -/

/-- Whatever lowering gives is of the kind of the statement and fits the catalog of its model. -/
theorem lower_wellFormed (hr : r.Declared) {s : RecordMapper.Statement} {t : Statement}
    (h : lower r s = .ok t) : ∃ m ∈ r.models, r.get s.model = .ok m ∧ Fits r m s t := by
  obtain ⟨m, hget, hlower⟩ := lower_eq_ok.mp h
  have hmem := Registry.mem_of_get hget
  have hm := (hr m hmem).catalogued
  refine ⟨m, hmem, hget, ?_⟩
  cases s with
  | query q =>
    obtain ⟨s, hs, rfl⟩ := map_eq_ok.mp hlower
    exact select_wellFormed hm hs
  | insert model values =>
    obtain ⟨i, hi, rfl⟩ := map_eq_ok.mp hlower
    exact insert_wellFormed hm hi
  | update model key values =>
    obtain ⟨u, hu, rfl⟩ := map_eq_ok.mp hlower
    exact update_wellFormed hu
  | delete model key =>
    obtain ⟨d, hd, rfl⟩ := map_eq_ok.mp hlower
    exact delete_wellFormed hd
  | createTable model =>
    cases hlower
    exact createTable_wellFormed hm

end Sql

namespace Bookshop

/-- Books with their authors, grouped. -/
def groupedQuery : Query :=
  (Query.all "book").refineAll [.join "author", .select ["title", "year"], .group ["year", "title"],
    .filter (.equals "rating" (.int 4)), .filter (.equals "author_id" .null),
    .filter (.raw "year > ? OR title = '?'" [.int 1900]), .orderBy ⟨"year", .descending⟩, .limit 10]

/-- The select for `groupedQuery`. -/
def groupedSelect : Sql.Select where
  table := book.tableName
  columns := [.qualified book.tableName "title", .qualified book.tableName "year"]
  joins := [⟨author.tableName, .qualified author.tableName "id", .qualified book.tableName "author_id"⟩]
  filter := [.equals (.qualified book.tableName "rating") (.float (Binary64.ofInt64 4)),
    .isNull (.qualified book.tableName "author_id"), .raw "year > ? OR title = '?'" [.int 1900]]
  groupBy := [.qualified book.tableName "year", .qualified book.tableName "title"]
  orderBy := [(.qualified book.tableName "year", .descending)]
  limit := some 10

theorem lower_groupedQuery : Sql.lower registry (.query groupedQuery) = .ok (.select groupedSelect) := rfl

theorem groupedSelect_wellFormed : registry.Declared ∧
    Sql.lower registry (.query groupedQuery) = .ok (.select groupedSelect) ∧
    ∃ m ∈ registry.models, registry.get "book" = .ok m ∧
      Sql.Fits registry m (.query groupedQuery) (.select groupedSelect) :=
  ⟨declared, lower_groupedQuery, Sql.lower_wellFormed declared lower_groupedQuery⟩

end Bookshop

end RecordMapper
