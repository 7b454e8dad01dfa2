import Mathlib.Data.List.Nodup
import RecordMapper.Proofs.Sql.Reading

/-!
# Reading the parts of statements

Every part of a statement, raw conditions apart, can be read back from its text and parameters, given
what may stand after it. A quoted name ends at the first quote mark that is not followed by another one,
so it is read wherever no quote mark stands after it, whatever characters it has in it; a column must
not have a dot after it either; conditions, orderings and assignments show their own end.
-/

namespace RecordMapper

/-! ## Names -/

namespace Dialect

/-- The characters with every quote mark doubled. -/
def doubled (mark : Char) (cs : List Char) : List Char :=
  cs.flatMap fun c => if c = mark then [c, c] else [c]

theorem doubled_cons_mark (mark : Char) (cs : List Char) :
    doubled mark (mark :: cs) = mark :: mark :: doubled mark cs := by
  simp [doubled]

theorem doubled_cons_of_ne {mark c : Char} (h : c ≠ mark) (cs : List Char) :
    doubled mark (c :: cs) = c :: doubled mark cs := by
  simp [doubled, h]

theorem toList_quoted (d : Dialect) (name : String) :
    (d.quoted name).toList = d.quoteMark :: doubled d.quoteMark name.toList ++ [d.quoteMark] :=
  String.toList_ofList

/-- A text with doubled quote marks does not end before the first single one. -/
theorem ne_doubled_cons {mark : Char} {x : List Char} (hx : x.head? ≠ some mark) (c : Char)
    (cs y : List Char) : mark :: x ≠ doubled mark (c :: cs) ++ y := by
  intro h
  by_cases hc : c = mark
  · rw [hc, doubled_cons_mark] at h
    exact hx (congrArg List.head? (List.tail_eq_of_cons_eq h))
  · rw [doubled_cons_of_ne hc] at h
    exact hc (List.head_eq_of_cons_eq h).symm

theorem doubled_append_cancel {mark : Char} {cs cs' x y : List Char} (hx : x.head? ≠ some mark)
    (hy : y.head? ≠ some mark) (h : doubled mark cs ++ mark :: x = doubled mark cs' ++ mark :: y) :
    cs = cs' ∧ x = y := by
  induction cs generalizing cs' with
  | nil =>
    cases cs' with
    | nil => exact ⟨rfl, List.tail_eq_of_cons_eq h⟩
    | cons c' cs' => exact absurd h (ne_doubled_cons hx c' cs' _)
  | cons c cs ih =>
    cases cs' with
    | nil => exact absurd h.symm (ne_doubled_cons hy c cs _)
    | cons c' cs' =>
      have hhead : c = c' := by
        by_cases hc : c = mark <;> by_cases hc' : c' = mark
        · rw [hc, hc']
        · rw [hc, doubled_cons_mark, doubled_cons_of_ne hc'] at h
          exact absurd (List.head_eq_of_cons_eq h).symm hc'
        · rw [hc', doubled_cons_mark, doubled_cons_of_ne hc] at h
          exact absurd (List.head_eq_of_cons_eq h) hc
        · rw [doubled_cons_of_ne hc, doubled_cons_of_ne hc'] at h
          exact List.head_eq_of_cons_eq h
      rw [← hhead] at h ⊢
      have htail : doubled mark cs ++ mark :: x = doubled mark cs' ++ mark :: y := by
        by_cases hc : c = mark
        · rw [hc, doubled_cons_mark, doubled_cons_mark] at h
          exact List.tail_eq_of_cons_eq (List.tail_eq_of_cons_eq h)
        · rw [doubled_cons_of_ne hc, doubled_cons_of_ne hc] at h
          exact List.tail_eq_of_cons_eq h
      obtain ⟨rfl, hxy⟩ := ih htail
      exact ⟨rfl, hxy⟩

/-- A quoted name is read wherever no further quote mark stands after it. -/
theorem quoted_append_cancel {d : Dialect} {name name' : String} {x y : List Char}
    (hx : x.head? ≠ some d.quoteMark) (hy : y.head? ≠ some d.quoteMark)
    (h : (d.quoted name).toList ++ x = (d.quoted name').toList ++ y) : name = name' ∧ x = y := by
  rw [toList_quoted, toList_quoted, List.append_assoc, List.append_assoc] at h
  obtain ⟨hname, hxy⟩ := doubled_append_cancel hx hy (List.tail_eq_of_cons_eq h)
  exact ⟨String.toList_inj.mp hname, hxy⟩

end Dialect

namespace Sql

open Template (render params separated)

variable {d : Dialect}

/-- What may stand after a quoted name: no quote mark, which would go on with the name. -/
def QuoteEnds (x : List Char) : Prop := x.head? ∉ [some '"', some '\x60']

/-- What may stand after a column: no dot either, which would make it the name of a table. -/
def NameEnds (x : List Char) : Prop := x.head? ∉ [some '"', some '\x60', some '.']

instance (x : List Char) : Decidable (QuoteEnds x) := inferInstanceAs (Decidable (_ ∉ _))

instance (x : List Char) : Decidable (NameEnds x) := inferInstanceAs (Decidable (_ ∉ _))

theorem QuoteEnds.head?_ne (d : Dialect) {x : List Char} (h : QuoteEnds x) :
    x.head? ≠ some d.quoteMark := by
  intro hx
  cases d <;> simp [QuoteEnds, hx, Dialect.quoteMark] at h

theorem NameEnds.quoteEnds {x : List Char} (h : NameEnds x) : QuoteEnds x := by
  simp only [NameEnds, QuoteEnds, List.mem_cons, not_or] at h ⊢
  exact ⟨h.1, h.2.1, h.2.2.2⟩

/-- The text may stand after a name, whatever comes after it. -/
def EndsNames (s : String) : Prop := NameEnds s.toList ∧ s.toList ≠ []

instance (s : String) : Decidable (EndsNames s) := inferInstanceAs (Decidable (_ ∧ _))

/-- Only the first character matters. -/
theorem EndsNames.append {s : String} (h : EndsNames s) (x : List Char) : NameEnds (s.toList ++ x) := by
  obtain ⟨hends, hne⟩ := h
  cases hs : s.toList with
  | nil => exact absurd hs hne
  | cons c cs =>
    rw [hs] at hends
    exact hends

theorem Leads.nameEnds {starts : List String} (hstarts : ∀ start ∈ starts, EndsNames start)
    {x : List Char} (h : Leads starts x) : NameEnds x := by
  obtain ⟨start, hstart, rest, rfl⟩ := h
  exact (hstarts start hstart).append rest

theorem reads_quoted (name name' : String) :
    Reads d QuoteEnds [.text (d.quoted name)] [.text (d.quoted name')] (name = name') := by
  intro bound x y p q hx hy htext hparams
  have hname := Dialect.quoted_append_cancel (hx.head?_ne d) (hy.head?_ne d)
    (by simpa [render] using htext)
  exact ⟨hname.1, hname.2, hparams⟩

theorem alike_qualified (table name : String) : Alike d [.text (Column.wording d ⟨some table, name⟩)]
    ([.text (d.quoted table)] ++ .text "." :: [.text (d.quoted name)]) :=
  ⟨fun bound => by simp [render, Column.wording, String.append_assoc], rfl⟩

/-- A name alone is not taken for that of a table, as no dot stands after it. -/
theorem reads_name_qualified (name table name' : String) : Reads d NameEnds
    [.text (Column.wording d ⟨none, name⟩)] [.text (Column.wording d ⟨some table, name'⟩)] False := by
  intro bound x y p q hx hy htext _
  rw [(alike_qualified table name').render] at htext
  have hname : (d.quoted name).toList ++ x =
      (d.quoted table).toList ++ '.' :: ((d.quoted name').toList ++ y) := by
    simpa [render, Column.wording] using htext
  have hdot := (Dialect.quoted_append_cancel (hx.quoteEnds.head?_ne d)
    (QuoteEnds.head?_ne d (by simp [QuoteEnds])) hname).2
  rw [hdot] at hx
  exact absurd hx (by simp [NameEnds])

theorem reads_column (c c' : Column) :
    Reads d NameEnds [.text (c.wording d)] [.text (c'.wording d)] (c = c') := by
  obtain ⟨table?, name⟩ := c
  obtain ⟨table'?, name'⟩ := c'
  have hname := (reads_quoted (d := d) name name').mono fun _ => NameEnds.quoteEnds
  cases table? with
  | none =>
    cases table'? with
    | none => exact hname.imp fun h => h ▸ rfl
    | some table' => exact (reads_name_qualified name table' name').imp False.elim
  | some table =>
    cases table'? with
    | none => exact (reads_name_qualified name' table name).symm.imp False.elim
    | some table' =>
      have hcolumn := (reads_quoted table table').before_text (s := ".") (by simp [QuoteEnds]) hname
      refine Reads.alike (alike_qualified table name) (alike_qualified table' name') (hcolumn.imp ?_)
      rintro ⟨rfl, rfl⟩
      rfl

/-! ## Conditions, assignments, orderings and joins -/

/-- The condition is put together from its column and value, not given as a text. -/
def Condition.Plain : Condition → Prop
  | raw _ _ => False
  | _ => True

theorem alike_equals (c : Column) (value : Value) : Alike d (Condition.wording d (.equals c value))
    ([.text (c.wording d)] ++ .text " = " :: [.hole value]) :=
  ⟨fun bound => by simp [render, Condition.wording, String.append_assoc], rfl⟩

theorem alike_isNull (c : Column) : Alike d (Condition.wording d (.isNull c))
    ([.text (c.wording d)] ++ [.text " IS NULL"]) :=
  ⟨fun bound => by simp [render, Condition.wording], rfl⟩

/-- A comparison is not taken for the absence of a value. -/
theorem reads_equals_isNull (c c' : Column) (value : Value) :
    Reads d Anything (Condition.wording d (.equals c value)) (Condition.wording d (.isNull c'))
      False := by
  have hrest : Reads d Anything (.text " = " :: [.hole value]) [.text " IS NULL"] False :=
    Reads.differ fun x y => by simp
  have hcolumn := (reads_column c c').append (fun _ => hrest)
    (Precedes.text fun _ => by simp [NameEnds]) (Precedes.text fun _ => by simp [NameEnds])
  exact Reads.alike (alike_equals c value) (alike_isNull c') (hcolumn.imp And.right)

theorem reads_condition {c c' : Condition} (hc : c.Plain) (hc' : c'.Plain) :
    Reads d Anything (c.wording d) (c'.wording d) (c = c') := by
  cases c with
  | raw fragment args => exact hc.elim
  | equals column value =>
    cases c' with
    | raw fragment' args' => exact hc'.elim
    | isNull column' => exact (reads_equals_isNull column column' value).imp False.elim
    | equals column' value' =>
      have hcolumn := (reads_column (d := d) column column').before_text (s := " = ")
        (by simp [NameEnds]) (Reads.hole value value')
      refine Reads.alike (alike_equals column value) (alike_equals column' value') (hcolumn.imp ?_)
      rintro ⟨rfl, rfl⟩
      rfl
  | isNull column =>
    cases c' with
    | raw fragment' args' => exact hc'.elim
    | equals column' value' => exact (reads_equals_isNull column' column value').symm.imp False.elim
    | isNull column' =>
      have hnil : Reads d Anything [] [] True := Reads.nil
      have hcolumn := (reads_column column column').before_text (s := " IS NULL")
        (by simp [NameEnds]) hnil
      exact Reads.alike (alike_isNull column) (alike_isNull column') (hcolumn.imp fun h => h.1 ▸ rfl)

theorem reads_assignment (entry entry' : String × Value) :
    Reads d Anything (assignmentWording d entry) (assignmentWording d entry') (entry = entry') := by
  have halike : ∀ entry, Alike d (assignmentWording d entry)
      ([.text (d.quoted entry.1)] ++ .text " = " :: [.hole entry.2]) :=
    fun entry => ⟨fun bound => by simp [render, assignmentWording, String.append_assoc], rfl⟩
  have h := (reads_quoted entry.1 entry'.1).before_text (s := " = ") (by simp [QuoteEnds])
    (Reads.hole (d := d) entry.2 entry'.2)
  exact Reads.alike (halike entry) (halike entry') (h.imp fun h => Prod.ext h.1 h.2)

/-- The word for a direction. -/
def directionWord : Direction → String
  | .ascending => " ASC"
  | .descending => " DESC"

theorem alike_ordering (entry : Column × Direction) : Alike d [.text (orderingWording d entry)]
    ([.text (entry.1.wording d)] ++ [.text (directionWord entry.2)]) := by
  obtain ⟨c, direction⟩ := entry
  cases direction <;> exact ⟨fun bound => by simp [render, orderingWording, directionWord], rfl⟩

theorem reads_directionWord (o o' : Direction) :
    Reads d Anything [.text (directionWord o)] [.text (directionWord o')] (o = o') := by
  cases o <;> cases o'
  · exact (Reads.text _).imp fun _ => rfl
  · exact Reads.differ fun x y => by simp [directionWord]
  · exact Reads.differ fun x y => by simp [directionWord]
  · exact (Reads.text _).imp fun _ => rfl

theorem reads_ordering (o o' : Column × Direction) :
    Reads d Anything [.text (orderingWording d o)] [.text (orderingWording d o')] (o = o') := by
  have hprecedes : ∀ direction, Precedes d [.text (directionWord direction)] Anything NameEnds := by
    intro direction
    cases direction <;> exact Precedes.text fun _ => by simp [NameEnds, directionWord]
  have h := (reads_column o.1 o'.1).append (fun _ => reads_directionWord o.2 o'.2)
    (hprecedes o.2) (hprecedes o'.2)
  exact Reads.alike (alike_ordering o) (alike_ordering o') (h.imp fun h => Prod.ext h.1 h.2)

/-- What stands after the keyword of a join. -/
def joinWording (d : Dialect) (j : Join) : Template :=
  [.text (d.quoted j.table), .text " ON ", .text (j.left.wording d), .text " = ",
    .text (j.right.wording d)]

theorem reads_join (j j' : Join) : Reads d NameEnds (joinWording d j) (joinWording d j') (j = j') := by
  have hcolumns := (reads_column j.left j'.left).before_text (s := " = ") (by simp [NameEnds])
    (reads_column (d := d) j.right j'.right)
  have htable := (reads_quoted j.table j'.table).before_text (s := " ON ")
    (by simp [QuoteEnds]) hcolumns
  refine htable.imp ?_
  obtain ⟨table, left, right⟩ := j
  obtain ⟨table', left', right'⟩ := j'
  rintro ⟨rfl, rfl, rfl⟩
  rfl

/-! ## Column definitions -/

/-- What is written of a column definition: a primary key is not said to have a value. -/
def ColumnDefinition.written (c : ColumnDefinition) : ColumnDefinition :=
  { c with notNull := c.notNull && !c.primaryKey }

/-- The type of a column, whether it is the primary key and whether it must have a value. -/
abbrev ColumnKind := ValueType × Bool × Bool

/-- All kinds of columns, as far as they are written. -/
def ColumnKind.all : List ColumnKind :=
  [.integer, .float, .string, .boolean].flatMap fun type =>
    [(type, true, false), (type, false, true), (type, false, false)]

/-- What stands after the name of a new column. -/
def ColumnKind.word (d : Dialect) (kind : ColumnKind) : String :=
  d.typeName kind.1 ++
    if kind.2.1 then d.keyOption kind.1 ++ " PRIMARY KEY" else if kind.2.2 then " NOT NULL" else ""

/-- The kind of a written column definition. -/
def ColumnDefinition.kind (c : ColumnDefinition) : ColumnKind := (c.type, c.primaryKey, c.notNull)

theorem ColumnKind.word_nodup (d : Dialect) : (all.map (word d)).Nodup := by
  cases d <;> decide +kernel

/-- Whether a character does not end a column definition. -/
def inDefinition (c : Char) : Bool := c != ',' && c != ')'

theorem ColumnKind.all_inDefinition (d : Dialect) :
    ∀ kind ∈ all, (word d kind).toList.all inDefinition = true := by
  cases d <;> decide +kernel

theorem kind_mem_all {c : ColumnDefinition} (h : c.written = c) : c.kind ∈ ColumnKind.all := by
  obtain ⟨name, type, notNull, primaryKey⟩ := c
  have hnotNull : (notNull && !primaryKey) = notNull := congrArg ColumnDefinition.notNull h
  cases type <;> cases primaryKey <;> cases notNull <;> simp_all [ColumnDefinition.kind, ColumnKind.all]

theorem columnDefinition_wording (c : ColumnDefinition) :
    c.wording d = d.quoted c.name ++ (" " ++ c.kind.word d) := by
  rw [ColumnDefinition.wording, String.append_assoc, String.append_assoc]
  rfl

theorem alike_columnDefinition (c : ColumnDefinition) : Alike d [.text (c.wording d)]
    ([.text (d.quoted c.name)] ++ .text " " :: [.text (c.kind.word d)]) :=
  ⟨fun bound => by simp [render, columnDefinition_wording], rfl⟩

/-- What may stand after a column definition: one more or the end of the list. -/
def DefinitionEnds : List Char → Prop := Leads [", ", ")"]

/-- The word of a kind is what stands before the next comma or parenthesis. -/
theorem takeWhile_word {kind : ColumnKind} (h : kind ∈ ColumnKind.all) {x : List Char}
    (hx : DefinitionEnds x) :
    ((kind.word d).toList ++ x).takeWhile inDefinition = (kind.word d).toList := by
  rw [List.takeWhile_append_of_pos (List.all_eq_true.mp (ColumnKind.all_inDefinition d kind h))]
  obtain ⟨start, hstart, rest, rfl⟩ := hx
  rcases List.mem_cons.mp hstart with rfl | hstart
  · exact List.append_nil _
  · rcases List.mem_singleton.mp hstart with rfl
    exact List.append_nil _

theorem reads_kind {kind kind' : ColumnKind} (h : kind ∈ ColumnKind.all) (h' : kind' ∈ ColumnKind.all) :
    Reads d DefinitionEnds [.text (kind.word d)] [.text (kind'.word d)] (kind = kind') := by
  intro bound x y p q hx hy htext hparams
  have happend : (kind.word d).toList ++ x = (kind'.word d).toList ++ y := by
    simpa [render] using htext
  have hword : (kind.word d).toList = (kind'.word d).toList := by
    rw [← takeWhile_word h hx, ← takeWhile_word h' hy, happend]
  refine ⟨?_, List.append_cancel_left (hword ▸ happend), hparams⟩
  exact List.inj_on_of_nodup_map (ColumnKind.word_nodup d) h h' (String.toList_inj.mp hword)

theorem reads_columnDefinition {c c' : ColumnDefinition} (h : c.written = c) (h' : c'.written = c') :
    Reads d DefinitionEnds [.text (c.wording d)] [.text (c'.wording d)] (c = c') := by
  have hcolumn := (reads_quoted c.name c'.name).before_text (s := " ") (by simp [QuoteEnds])
    (reads_kind (d := d) (kind_mem_all h) (kind_mem_all h'))
  refine Reads.alike (alike_columnDefinition c) (alike_columnDefinition c') (hcolumn.imp ?_)
  obtain ⟨name, type, notNull, primaryKey⟩ := c
  obtain ⟨name', type', notNull', primaryKey'⟩ := c'
  rintro ⟨rfl, hkind⟩
  cases hkind
  rfl

/-! ## Lists of names -/

theorem reads_name (name name' : String) :
    Reads d NameEnds [.text (d.quoted name)] [.text (d.quoted name')] (name = name') :=
  (reads_quoted name name').mono fun _ => NameEnds.quoteEnds

/-- The template begins with a quoted name. -/
def BeginsQuoted (d : Dialect) (t : Template) : Prop :=
  ∀ bound, ∃ rest, (render d bound t).toList = d.quoteMark :: rest

theorem beginsQuoted_text {s name : String} (rest : String) (h : s = d.quoted name ++ rest)
    (t : Template) : BeginsQuoted d (.text s :: t) := by
  intro bound
  rw [render, h, String.toList_append, String.toList_append, Dialect.toList_quoted]
  exact ⟨_, rfl⟩

theorem beginsQuoted_column (c : Column) (t : Template) :
    BeginsQuoted d (.text (c.wording d) :: t) := by
  obtain ⟨table?, name⟩ := c
  cases table? with
  | none => exact beginsQuoted_text "" (String.append_empty).symm t
  | some table => exact beginsQuoted_text _ String.append_assoc t

/-- What may stand after names does not begin with one. -/
theorem BeginsQuoted.not_leads {starts : List String} {t : Template} (h : BeginsQuoted d t)
    (hstarts : ∀ start ∈ starts, EndsNames start) (bound : Nat) (x : List Char) :
    ¬Leads starts ((render d bound t).toList ++ x) := by
  intro hleads
  obtain ⟨rest, hrest⟩ := h bound
  refine (Leads.nameEnds hstarts hleads).quoteEnds.head?_ne d ?_
  rw [hrest]
  rfl

/-- A separator of names and columns. -/
theorem separates_names {sep : String} {starts : List String} (hsep : EndsNames sep)
    (hstarts : ∀ start ∈ starts, EndsNames start) (hapart : Apart starts sep) :
    Separates sep NameEnds (Leads starts) :=
  ⟨hsep.append, fun _ => Leads.nameEnds hstarts, fun _ h => h.not_prefix hapart⟩

/-- A separator of parts that show their own end. -/
theorem separates_anything {sep : String} {starts : List String} (hapart : Apart starts sep) :
    Separates sep Anything (Leads starts) :=
  ⟨fun _ => trivial, fun _ _ => trivial, fun _ h => h.not_prefix hapart⟩

end Sql

end RecordMapper
