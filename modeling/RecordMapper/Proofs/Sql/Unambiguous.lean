import RecordMapper.Proofs.Sql.Parts

/-!
# The text of a statement is unambiguous

Two statements without raw conditions that are serialized alike are the same, whatever names are in
them: a name cannot change the structure of the text around it. Two things are never written, the
values of an insert without columns and the presence asked of a primary key, which is there anyway.

The statements are read in step, clause by clause; what tells one clause from the next is that none of
the keywords begins with another one.
-/

namespace RecordMapper.Sql

open Template (render params separated render_append params_append render_separated_texts
  params_separated_texts)

variable {d : Dialect}

/-! ## Inserts -/

/-- What stands after the last part of a statement. -/
def Finished (x : List Char) : Prop := x = [';']

/-- How an insert without columns goes on after the table. -/
def defaultValues (d : Dialect) : String := if d = .mysql then " () VALUES ()" else " DEFAULT VALUES"

/-- The columns of an insert. -/
def columnsWording (d : Dialect) (columns : List String) : Template :=
  separated ", " (columns.map fun name => [.text (d.quoted name)])

/-- The values of an insert up to its end. -/
def valuesWording (values : List Value) : Template :=
  separated ", " (values.map fun value => [.hole value]) ++ [.text ")"]

/-- How an insert goes on after the table. -/
def insertedWording (d : Dialect) (i : Insert) : Template :=
  if i.columns = [] then [.text (defaultValues d)]
  else .text " (" :: (columnsWording d i.columns ++ .text ") VALUES (" :: valuesWording i.values)

theorem alike_insert (i : Insert) : Alike d (i.wording d)
    (.text "INSERT INTO " :: ([.text (d.quoted i.table)] ++ insertedWording d i)) := by
  obtain ⟨table, columns, values⟩ := i
  cases columns with
  | nil =>
    refine ⟨fun bound => ?_, rfl⟩
    simp [render, Insert.wording, insertedWording, defaultValues, String.append_assoc]
  | cons column columns =>
    constructor
    · intro bound
      simp only [Insert.wording, List.isEmpty_cons, Bool.false_eq_true, if_false, insertedWording, reduceCtorEq,
        columnsWording, valuesWording, render, render_append, render_separated_texts, params_separated_texts,
        List.length_nil, Nat.add_zero, String.append_assoc, List.cons_append, List.nil_append]
    · simp only [Insert.wording, List.isEmpty_cons, Bool.false_eq_true, if_false, insertedWording, reduceCtorEq,
        columnsWording, valuesWording, params, params_append, params_separated_texts, List.cons_append,
        List.nil_append]

theorem precedes_inserted (i : Insert) : Precedes d (insertedWording d i) Finished QuoteEnds := by
  unfold insertedWording
  split_ifs
  · exact Precedes.text fun x => by cases d <;> simp [defaultValues, QuoteEnds]
  · exact Precedes.text fun x => by simp [QuoteEnds]

/-- A placeholder is not taken for the end of a list. -/
theorem placeholder_not_leads (position : Nat) (x : List Char) :
    ¬Leads [")"] ((d.placeholder position).toList ++ x) := by
  rintro ⟨start, hstart, hprefix⟩
  rcases List.mem_singleton.mp hstart with rfl
  cases d <;> simp at hprefix

theorem reads_values (values values' : List Value) :
    Reads d Finished (valuesWording values) (valuesWording values') (values = values') := by
  have hend : Reads d Finished [] [] True := Reads.nil
  have hstart : ∀ (value : Value) bound x, ¬Leads [")"] ((render d bound [.hole value]).toList ++ x) := by
    intro value bound x
    rw [render, render, String.append_empty]
    exact placeholder_not_leads (bound + 1) x
  have hlist : Reads d (Leads [")"]) (separated ", " (values.map fun value => [.hole value]))
      (separated ", " (values'.map fun value => [.hole value])) (values = values') :=
    Reads.separated (separates_anything (by decide)) (fun v _ w _ => Reads.hole v w) hstart
  exact (hlist.before_text (s := ")") (leads_append (by simp)) hend).imp And.left

theorem reads_insertColumns (columns columns' : List String) :
    Reads d (Leads [") VALUES ("]) (columnsWording d columns) (columnsWording d columns')
      (columns = columns') :=
  Reads.separated (separates_names (by decide) (by decide) (by decide)) (fun a _ b _ => reads_name a b)
    fun name => (beginsQuoted_text "" String.append_empty.symm []).not_leads (by decide)

/-- An insert without columns is not taken for one with columns. -/
theorem reads_defaultValues (column : String) (columns : List String) (t : Template) :
    Reads d Finished [.text (defaultValues d)]
      (.text " (" :: (columnsWording d (column :: columns) ++ t)) False := by
  by_cases hd : d = .mysql
  · subst hd
    have hcolumns : Reads .mysql Finished [.text ") VALUES ()"]
        (columnsWording .mysql (column :: columns) ++ t) False := by
      rw [columnsWording, separated_map_cons]
      exact Reads.differ fun x y => by simp [Dialect.toList_quoted, Dialect.quoteMark]
    have halike : Alike .mysql [.text (defaultValues .mysql)] [.text " (", .text ") VALUES ()"] :=
      ⟨fun bound => by simp [render, defaultValues], rfl⟩
    exact Reads.alike halike ⟨fun _ => rfl, rfl⟩ (hcolumns.keyword " (")
  · rw [defaultValues, if_neg hd]
    exact Reads.differ fun x y => by simp

theorem reads_inserted {i i' : Insert} (h : i.columns = [] → i.values = [])
    (h' : i'.columns = [] → i'.values = []) :
    Reads d Finished (insertedWording d i) (insertedWording d i')
      (i.columns = i'.columns ∧ i.values = i'.values) := by
  obtain ⟨table, columns, values⟩ := i
  obtain ⟨table', columns', values'⟩ := i'
  cases columns with
  | nil =>
    cases columns' with
    | nil =>
      cases h rfl
      cases h' rfl
      exact ((Reads.text (defaultValues d)).mono fun _ _ => trivial).imp fun _ => ⟨rfl, rfl⟩
    | cons column' columns' => exact (reads_defaultValues column' columns' _).imp False.elim
  | cons column columns =>
    cases columns' with
    | nil => exact (reads_defaultValues column columns _).symm.imp False.elim
    | cons column' columns' =>
      have hlists := (reads_insertColumns (column :: columns) (column' :: columns')).before_text
        (s := ") VALUES (") (leads_append (by simp)) (reads_values (d := d) values values')
      exact hlists.keyword " ("

theorem reads_insert {i i' : Insert} (h : i.columns = [] → i.values = [])
    (h' : i'.columns = [] → i'.values = []) : Reads d Finished (i.wording d) (i'.wording d) (i = i') := by
  have htable := (reads_quoted i.table i'.table).append (fun _ => reads_inserted (d := d) h h')
    (precedes_inserted i) (precedes_inserted i')
  refine Reads.alike (alike_insert i) (alike_insert i') ((htable.keyword "INSERT INTO ").imp ?_)
  obtain ⟨table, columns, values⟩ := i
  obtain ⟨table', columns', values'⟩ := i'
  rintro ⟨rfl, rfl, rfl⟩
  rfl

/-! ## Updates and deletes -/

/-- What changes is read up to the key. -/
theorem reads_assignments (entries entries' : List (String × Value)) :
    Reads d (Leads [" WHERE "]) (separated ", " (entries.map (assignmentWording d)))
      (separated ", " (entries'.map (assignmentWording d))) (entries = entries') :=
  Reads.separated (separates_anything (by decide)) (fun a _ b _ => reads_assignment a b)
    fun entry => (beginsQuoted_text " = " rfl _).not_leads (by decide)

/-- The key stands at the end. -/
theorem reads_key (key key' : String × Value) :
    Reads d Finished (assignmentWording d key) (assignmentWording d key') (key = key') :=
  (reads_assignment key key').mono fun _ _ => trivial

theorem alike_update (u : Update) : Alike d (u.wording d)
    (.text "UPDATE " :: ([.text (d.quoted u.table)] ++ .text " SET " ::
      (separated ", " (u.assignments.map (assignmentWording d)) ++
        .text " WHERE " :: assignmentWording d u.key))) := by
  refine ⟨fun bound => ?_, rfl⟩
  simp only [Update.wording, render, render_append, String.append_assoc, List.cons_append, List.nil_append]

theorem reads_update (u u' : Update) : Reads d Finished (u.wording d) (u'.wording d) (u = u') := by
  have hset := (reads_assignments u.assignments u'.assignments).before_text (s := " WHERE ")
    (leads_append (by simp)) (reads_key (d := d) u.key u'.key)
  have htable := (reads_quoted u.table u'.table).before_text (s := " SET ") (by simp [QuoteEnds]) hset
  refine Reads.alike (alike_update u) (alike_update u') ((htable.keyword "UPDATE ").imp ?_)
  obtain ⟨table, assignments, key⟩ := u
  obtain ⟨table', assignments', key'⟩ := u'
  rintro ⟨rfl, rfl, rfl⟩
  rfl

theorem alike_delete (x : Delete) : Alike d (x.wording d) (.text "DELETE FROM " ::
    ([.text (d.quoted x.table)] ++ .text " WHERE " :: assignmentWording d x.key)) :=
  ⟨fun bound => by simp [render, Delete.wording, String.append_assoc], rfl⟩

theorem reads_delete (x x' : Delete) : Reads d Finished (x.wording d) (x'.wording d) (x = x') := by
  have htable := (reads_quoted x.table x'.table).before_text (s := " WHERE ") (by simp [QuoteEnds])
    (reads_key (d := d) x.key x'.key)
  refine Reads.alike (alike_delete x) (alike_delete x') ((htable.keyword "DELETE FROM ").imp ?_)
  obtain ⟨table, key⟩ := x
  obtain ⟨table', key'⟩ := x'
  rintro ⟨rfl, rfl⟩
  rfl

/-! ## Creating tables -/

/-- What asks to leave a table that exists alone. -/
def existsWording (ifNotExists : Bool) : String := if ifNotExists then "IF NOT EXISTS " else ""

/-- What is read of the creation of a table after its first two words. -/
def createdWording (d : Dialect) (c : CreateTable) : Template :=
  [.text (d.quoted c.table)] ++ .text " (" ::
    (separated ", " (c.columns.map fun column => [.text (column.wording d)]) ++ [.text ")"])

theorem alike_createTable (c : CreateTable) : Alike d (c.wording d)
    (.text "CREATE TABLE " :: .text (existsWording c.ifNotExists) :: createdWording d c) := by
  constructor
  · intro bound
    simp only [CreateTable.wording, createdWording, existsWording, render, render_append,
      render_separated_texts, String.append_assoc, String.append_empty, List.cons_append,
      List.nil_append]
  · simp only [CreateTable.wording, createdWording, params, params_append, params_separated_texts,
      List.cons_append, List.nil_append]

theorem reads_columnDefinitions {columns columns' : List ColumnDefinition}
    (h : ∀ c ∈ columns, c.written = c) (h' : ∀ c ∈ columns', c.written = c) :
    Reads d (Leads [")"]) (separated ", " (columns.map fun column => [.text (column.wording d)]))
      (separated ", " (columns'.map fun column => [.text (column.wording d)]))
      (columns = columns') := by
  have hsep : Separates ", " DefinitionEnds (Leads [")"]) :=
    ⟨leads_append (by simp),
      fun _ ⟨start, hstart, hprefix⟩ => ⟨start, List.mem_cons_of_mem _ hstart, hprefix⟩,
      fun _ h => h.not_prefix (by decide)⟩
  refine Reads.separated hsep (fun a ha b hb => reads_columnDefinition (h a ha) (h' b hb)) ?_
  exact fun column =>
    (beginsQuoted_text _ (columnDefinition_wording column) _).not_leads (by decide)

theorem reads_createdWording {c c' : CreateTable} (h : ∀ column ∈ c.columns, column.written = column)
    (h' : ∀ column ∈ c'.columns, column.written = column) :
    Reads d Finished (createdWording d c) (createdWording d c')
      (c.table = c'.table ∧ c.columns = c'.columns) := by
  have hend : Reads d Finished [] [] True := Reads.nil
  have hcolumns := (reads_columnDefinitions h h').before_text (s := ")") (leads_append (by simp)) hend
  have htable := (reads_quoted c.table c'.table).before_text (s := " (")
    (by simp [QuoteEnds]) hcolumns
  exact htable.imp fun h => ⟨h.1, h.2.1⟩

/-- The table is quoted, so it is not taken for what asks to leave it alone. -/
theorem reads_existsWording (t : Template) (c : CreateTable) : Reads d Finished
    (.text (existsWording true) :: t) (.text (existsWording false) :: createdWording d c) False := by
  have halike : Alike d (.text (existsWording false) :: createdWording d c) (createdWording d c) :=
    ⟨fun bound => String.empty_append, rfl⟩
  refine Reads.alike ⟨fun _ => rfl, rfl⟩ halike (Reads.differ fun x y => ?_)
  cases d <;> simp [existsWording, Dialect.toList_quoted, Dialect.quoteMark]

theorem reads_createTable {c c' : CreateTable} (h : ∀ column ∈ c.columns, column.written = column)
    (h' : ∀ column ∈ c'.columns, column.written = column) :
    Reads d Finished (c.wording d) (c'.wording d) (c = c') := by
  have hcreated := reads_createdWording (d := d) h h'
  refine Reads.alike (alike_createTable c) (alike_createTable c') (Reads.keyword "CREATE TABLE " ?_)
  obtain ⟨table, columns, ifNotExists⟩ := c
  obtain ⟨table', columns', ifNotExists'⟩ := c'
  cases ifNotExists with
  | true =>
    cases ifNotExists' with
    | true =>
      refine (hcreated.keyword _).imp ?_
      rintro ⟨rfl, rfl⟩
      rfl
    | false => exact (reads_existsWording _ _).imp False.elim
  | false =>
    cases ifNotExists' with
    | true => exact (reads_existsWording _ _).symm.imp False.elim
    | false =>
      refine (hcreated.keyword _).imp ?_
      rintro ⟨rfl, rfl⟩
      rfl

/-! ## Selects -/

/-- The wording of a limit. -/
def limitWording : Option Nat → Template
  | some rows => [.text (" LIMIT " ++ toString rows)]
  | none => []

/-- A select from its orderings on. -/
def orderedWording (d : Dialect) (s : Select) : Template :=
  clause " ORDER BY " ", " (s.orderBy.map fun o => [.text (orderingWording d o)]) ++
    limitWording s.limit

/-- A select from its grouping on. -/
def groupedWording (d : Dialect) (s : Select) : Template :=
  clause " GROUP BY " ", " (s.groupBy.map fun c => [.text (c.wording d)]) ++ orderedWording d s

/-- A select from its conditions on. -/
def filteredWording (d : Dialect) (s : Select) : Template :=
  clause " WHERE " " AND " (s.filter.map (Condition.wording d)) ++ groupedWording d s

/-- A select from its joins on. -/
def joinedWording (d : Dialect) (s : Select) : Template :=
  led " INNER JOIN " (joinWording d) s.joins ++ filteredWording d s

theorem alike_joins (joins : List Join) : Alike d (joins.map fun j => .text (" " ++ j.wording d))
    (led " INNER JOIN " (joinWording d) joins) := by
  induction joins with
  | nil => exact ⟨fun _ => rfl, rfl⟩
  | cons j joins ih =>
    have hkeyword : " INNER JOIN " = " " ++ "INNER JOIN " := rfl
    have hwording : j.wording d = "INNER JOIN " ++ d.quoted j.table ++ " ON " ++ j.left.wording d ++
      " = " ++ j.right.wording d := rfl
    have hj : Alike d [.text (" " ++ j.wording d)] (.text " INNER JOIN " :: joinWording d j) := by
      refine ⟨fun bound => ?_, rfl⟩
      rw [hkeyword, hwording]
      simp only [render, joinWording, String.append_assoc, String.append_empty]
    exact hj.append ih

theorem alike_select (s : Select) : Alike d (s.wording d) (.text "SELECT " ::
    (separated ", " (s.columns.map fun c => [.text (c.wording d)]) ++
      .text " FROM " :: ([.text (d.quoted s.table)] ++ joinedWording d s))) := by
  have hcolumns : Alike d [.text (", ".intercalate (s.columns.map (Column.wording d)))]
      (separated ", " (s.columns.map fun c => [.text (c.wording d)])) :=
    ⟨fun bound => by simp [render, render_separated_texts], by simp [params, params_separated_texts]⟩
  have htable : Alike d [.text (" FROM " ++ d.quoted s.table)]
      [.text " FROM ", .text (d.quoted s.table)] :=
    ⟨fun bound => by simp [render], rfl⟩
  have hrefl : ∀ t, Alike d t t := fun t => ⟨fun _ => rfl, rfl⟩
  have hselect := (hrefl [.text "SELECT "]).append (hcolumns.append (htable.append
    ((alike_joins s.joins).append (hrefl (filteredWording d s)))))
  obtain ⟨table, columns, joins, filter, groupBy, orderBy, limit⟩ := s
  have hsame : Select.wording d ⟨table, columns, joins, filter, groupBy, orderBy, limit⟩ =
      [.text "SELECT "] ++ ([.text (", ".intercalate (columns.map (Column.wording d)))] ++
        ([.text (" FROM " ++ d.quoted table)] ++ (joins.map (fun j => .text (" " ++ j.wording d)) ++
          filteredWording d ⟨table, columns, joins, filter, groupBy, orderBy, limit⟩))) := by
    cases limit <;>
      simp only [Select.wording, filteredWording, groupedWording, orderedWording, limitWording,
        List.append_assoc, List.cons_append, List.nil_append]
  rw [hsame]
  simpa [joinedWording] using hselect

theorem reads_limit (limit limit' : Option Nat) :
    Reads d Finished (limitWording limit) (limitWording limit') (limit = limit') := by
  have hnothing : ∀ rows bound x,
      ¬Finished ((render d bound (limitWording (some rows))).toList ++ x) := by
    intro rows bound x h
    simp [Finished, limitWording, render] at h
  cases limit with
  | none =>
    cases limit' with
    | none => exact Reads.nil.imp fun _ => rfl
    | some rows' => exact Reads.nothing (hnothing rows')
  | some rows =>
    cases limit' with
    | none => exact (Reads.nothing (hnothing rows)).symm
    | some rows' =>
      intro bound x y p q hx hy htext hparams
      have hend : x = y := hx.trans hy.symm
      rw [hend] at htext
      have hdigits : Nat.toDigits 10 rows = Nat.toDigits 10 rows' := by
        simpa [limitWording, render] using List.append_cancel_right htext
      have hrows : rows = rows' := by
        simpa using congrArg (Nat.ofDigitChars 10 · 0) hdigits
      exact ⟨congrArg some hrows, hend, hparams⟩

theorem precedes_limit {starts : List String} (limit : Option Nat)
    (h : ∀ start ∈ [" LIMIT ", ";"], start ∈ starts) :
    Precedes d (limitWording limit) Finished (Leads starts) := by
  cases limit with
  | none =>
    rintro bound x rfl
    exact leads_append (h ";" (by simp)) []
  | some rows =>
    intro bound x _
    refine ⟨" LIMIT ", h _ (by simp), ?_⟩
    simp only [limitWording, render, String.toList_append, List.append_assoc]
    exact List.prefix_append _ _

theorem reads_orderBy (orderBy orderBy' : List (Column × Direction)) :
    Reads d (Leads [" LIMIT ", ";"])
      (clause " ORDER BY " ", " (orderBy.map fun o => [.text (orderingWording d o)]))
      (clause " ORDER BY " ", " (orderBy'.map fun o => [.text (orderingWording d o)]))
      (orderBy = orderBy') :=
  Reads.clause (separates_anything (by decide)) (fun _ h => h.not_prefix (by decide))
    fun a _ b _ => reads_ordering a b

theorem reads_groupBy (groupBy groupBy' : List Column) :
    Reads d (Leads [" ORDER BY ", " LIMIT ", ";"])
      (clause " GROUP BY " ", " (groupBy.map fun c => [.text (c.wording d)]))
      (clause " GROUP BY " ", " (groupBy'.map fun c => [.text (c.wording d)]))
      (groupBy = groupBy') :=
  Reads.clause (separates_names (by decide) (by decide) (by decide))
    (fun _ h => h.not_prefix (by decide)) fun a _ b _ => reads_column a b

theorem reads_filter {filter filter' : List Condition} (h : ∀ c ∈ filter, c.Plain)
    (h' : ∀ c ∈ filter', c.Plain) :
    Reads d (Leads [" GROUP BY ", " ORDER BY ", " LIMIT ", ";"])
      (clause " WHERE " " AND " (filter.map (Condition.wording d)))
      (clause " WHERE " " AND " (filter'.map (Condition.wording d))) (filter = filter') :=
  Reads.clause (separates_anything (by decide)) (fun _ h => h.not_prefix (by decide))
    fun a ha b hb => reads_condition (h a ha) (h' b hb)

theorem reads_joins (joins joins' : List Join) :
    Reads d (Leads [" WHERE ", " GROUP BY ", " ORDER BY ", " LIMIT ", ";"])
      (led " INNER JOIN " (joinWording d) joins) (led " INNER JOIN " (joinWording d) joins')
      (joins = joins') :=
  Reads.led (separates_names (by decide) (by decide) (by decide)) fun a _ b _ => reads_join a b

theorem reads_columns (columns columns' : List Column) : Reads d (Leads [" FROM "])
    (separated ", " (columns.map fun c => [.text (c.wording d)]))
    (separated ", " (columns'.map fun c => [.text (c.wording d)])) (columns = columns') :=
  Reads.separated (separates_names (by decide) (by decide) (by decide))
    (fun a _ b _ => reads_column a b) fun c => (beginsQuoted_column c []).not_leads (by decide)

theorem precedes_ordered {starts : List String} (s : Select)
    (h : ∀ start ∈ [" ORDER BY ", " LIMIT ", ";"], start ∈ starts) :
    Precedes d (orderedWording d s) Finished (Leads starts) :=
  Precedes.clause (fun x => leads_append (h _ (by simp)) x)
    (precedes_limit s.limit fun start hstart => h start (List.mem_cons_of_mem _ hstart))

theorem precedes_grouped {starts : List String} (s : Select)
    (h : ∀ start ∈ [" GROUP BY ", " ORDER BY ", " LIMIT ", ";"], start ∈ starts) :
    Precedes d (groupedWording d s) Finished (Leads starts) :=
  Precedes.clause (fun x => leads_append (h _ (by simp)) x)
    (precedes_ordered s fun start hstart => h start (List.mem_cons_of_mem _ hstart))

theorem precedes_filtered (s : Select) : Precedes d (filteredWording d s) Finished
    (Leads [" WHERE ", " GROUP BY ", " ORDER BY ", " LIMIT ", ";"]) :=
  Precedes.clause (fun x => leads_append (by simp) x) (precedes_grouped s (by simp))

theorem precedes_joined (s : Select) : Precedes d (joinedWording d s) Finished NameEnds :=
  Precedes.append (Separates.precedes (separates_names (by decide) (by decide) (by decide)) s.joins)
    (precedes_filtered s)

/-- A select is read from its table on. -/
theorem reads_joined {s s' : Select} (h : ∀ c ∈ s.filter, c.Plain) (h' : ∀ c ∈ s'.filter, c.Plain) :
    Reads d Finished (joinedWording d s) (joinedWording d s')
      (s.joins = s'.joins ∧ s.filter = s'.filter ∧ s.groupBy = s'.groupBy ∧ s.orderBy = s'.orderBy ∧
        s.limit = s'.limit) := by
  have hordered : Reads d Finished (orderedWording d s) (orderedWording d s') _ :=
    (reads_orderBy s.orderBy s'.orderBy).append (fun _ => reads_limit s.limit s'.limit)
      (precedes_limit _ (by simp)) (precedes_limit _ (by simp))
  have hgrouped : Reads d Finished (groupedWording d s) (groupedWording d s') _ :=
    (reads_groupBy s.groupBy s'.groupBy).append (fun _ => hordered)
      (precedes_ordered s (by simp)) (precedes_ordered s' (by simp))
  have hfiltered : Reads d Finished (filteredWording d s) (filteredWording d s') _ :=
    (reads_filter h h').append (fun _ => hgrouped)
      (precedes_grouped s (by simp)) (precedes_grouped s' (by simp))
  exact (reads_joins s.joins s'.joins).append (fun _ => hfiltered)
    (precedes_filtered s) (precedes_filtered s')

theorem reads_select {s s' : Select} (h : ∀ c ∈ s.filter, c.Plain) (h' : ∀ c ∈ s'.filter, c.Plain) :
    Reads d Finished (s.wording d) (s'.wording d) (s = s') := by
  have htable := (reads_name s.table s'.table).append (fun _ => reads_joined (d := d) h h')
    (precedes_joined s) (precedes_joined s')
  have hcolumns := (reads_columns s.columns s'.columns).before_text (s := " FROM ")
    (leads_append (by simp)) htable
  refine Reads.alike (alike_select s) (alike_select s') ((hcolumns.keyword "SELECT ").imp ?_)
  obtain ⟨table, columns, joins, filter, groupBy, orderBy, limit⟩ := s
  obtain ⟨table', columns', joins', filter', groupBy', orderBy', limit'⟩ := s'
  rintro ⟨rfl, rfl, rfl, rfl, rfl, rfl, rfl⟩
  rfl

/-! ## Statements -/

/-- The statement has no raw condition. -/
def Statement.Plain : Statement → Prop
  | select s => ∀ c ∈ s.filter, c.Plain
  | _ => True

/-- What is written of an insert: without columns there are no values. -/
def Insert.written (i : Insert) : Insert :=
  { i with values := if i.columns = [] then [] else i.values }

/-- What is written of a statement. -/
def Statement.written : Statement → Statement
  | insert i => insert i.written
  | createTable c => createTable { c with columns := c.columns.map ColumnDefinition.written }
  | s => s

theorem ColumnDefinition.wording_written (d : Dialect) (c : ColumnDefinition) :
    c.written.wording d = c.wording d := by
  obtain ⟨name, type, notNull, primaryKey⟩ := c
  cases primaryKey <;> cases notNull <;> rfl

theorem Statement.wording_written (d : Dialect) (s : Statement) :
    s.written.wording d = s.wording d := by
  cases s with
  | insert i =>
    obtain ⟨table, columns, values⟩ := i
    cases columns with
    | nil => rfl
    | cons column columns => rfl
  | createTable c =>
    simp [written, wording, CreateTable.wording, Function.comp_def, ColumnDefinition.wording_written]
  | select s => rfl
  | update u => rfl
  | delete x => rfl

/-- The letter that a statement begins with. -/
def Statement.initial : Statement → Char
  | select _ => 'S'
  | insert _ => 'I'
  | update _ => 'U'
  | delete _ => 'D'
  | createTable _ => 'C'

theorem head?_wording (bound : Nat) (s : Statement) (x : List Char) :
    ((render d bound (s.wording d)).toList ++ x).head? = some s.initial := by
  cases s with
  | select s => simp [Statement.wording, Select.wording, render, Statement.initial]
  | insert i =>
    obtain ⟨table, columns, values⟩ := i
    cases columns with
    | nil => simp [Statement.wording, Insert.wording, render, Statement.initial]
    | cons column columns => simp [Statement.wording, Insert.wording, render, Statement.initial]
  | update u => simp [Statement.wording, Update.wording, render, Statement.initial]
  | delete x => simp [Statement.wording, Delete.wording, render, Statement.initial]
  | createTable c => simp [Statement.wording, CreateTable.wording, render, Statement.initial]

/-- Statements of different kinds begin with different letters. -/
theorem reads_of_initial_ne {s t : Statement} (h : s.initial ≠ t.initial) {same : Prop} :
    Reads d Finished (s.wording d) (t.wording d) same := by
  intro bound x y p q _ _ htext _
  have hhead := congrArg List.head? htext
  rw [head?_wording, head?_wording, Option.some.injEq] at hhead
  exact absurd hhead h

/-- What is written of a statement is read back from its wording. -/
theorem reads_wording {s t : Statement} (hs : s.Plain) (ht : t.Plain) :
    Reads d Finished (s.wording d) (t.wording d) (s.written = t.written) := by
  by_cases hinitial : s.initial = t.initial
  · rw [← s.wording_written, ← t.wording_written]
    cases s <;> cases t <;> simp only [Statement.initial, Char.reduceEq] at hinitial
    case select.select s s' => exact (reads_select hs ht).imp (congrArg _)
    case insert.insert i i' =>
      have hvalues : ∀ i : Insert, i.written.columns = [] → i.written.values = [] :=
        fun i h => if_pos h
      exact (reads_insert (hvalues i) (hvalues i')).imp (congrArg _)
    case update.update u u' => exact (reads_update u u').imp (congrArg _)
    case delete.delete x x' => exact (reads_delete x x').imp (congrArg _)
    case createTable.createTable c c' =>
      have hcolumns : ∀ (columns : List ColumnDefinition),
          ∀ column ∈ columns.map ColumnDefinition.written, column.written = column := by
        intro columns column hcolumn
        obtain ⟨given, -, rfl⟩ := List.mem_map.mp hcolumn
        simp [ColumnDefinition.written]
      exact (reads_createTable (hcolumns _) (hcolumns _)).imp (congrArg _)
  · exact reads_of_initial_ne hinitial

/-- Statements without raw conditions are serialized alike exactly if the same is written of them. -/
theorem serialize_eq_iff {s t : Statement} (hs : s.Plain) (ht : t.Plain) (d : Dialect) :
    s.serialize d [] = t.serialize d [] ↔ s.written = t.written := by
  constructor
  · intro h
    obtain ⟨htext, hparams⟩ := Prod.ext_iff.mp h
    have hchars := congrArg String.toList htext
    simp only [Statement.serialize, String.toList_append] at hchars hparams
    rw [List.nil_append, List.nil_append, ← List.append_nil (params (s.wording d)),
      ← List.append_nil (params (t.wording d))] at hparams
    exact (reads_wording hs ht 0 _ _ _ _ rfl rfl hchars hparams).1
  · intro h
    rw [Statement.serialize, Statement.serialize, ← s.wording_written, ← t.wording_written, h]

/-- Asks for the books in which a column has a value. -/
def booksWith (c : Column) : Statement :=
  .select ⟨"books", [c], [], [.equals c (.int 1)], [], [], none⟩

/-- A name with quote marks and a dot in it is not taken for a column of a table. -/
theorem serialize_booksWith_ne :
    (booksWith ⟨some "a", "b"⟩).Plain ∧ (booksWith ⟨none, "a\".\"b"⟩).Plain ∧
      (booksWith ⟨some "a", "b"⟩).serialize .sqlite [] ≠
        (booksWith ⟨none, "a\".\"b"⟩).serialize .sqlite [] := by
  have hplain : ∀ c, (booksWith c).Plain := fun c c' hc' => by
    rw [List.mem_singleton.mp hc']
    trivial
  refine ⟨hplain _, hplain _, (serialize_eq_iff (hplain _) (hplain _) .sqlite).not.mpr ?_⟩
  decide

end RecordMapper.Sql
