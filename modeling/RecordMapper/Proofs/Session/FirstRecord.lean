import RecordMapper.Proofs.Session.Loading
import RecordMapper.Proofs.Sql.Joins
import RecordMapper.Proofs.Sql.Unambiguous

/-!
# The first record of a relation

The first record is asked for with a query of its own, whose limit is one whatever limit the relation
has. Where a database gives a fixed list of rows, cut off at the limit of the query
(`Relation.AnsweredBy`), that query gives the first of the records that the relation has. A limit of
zero is the exception: the relation has no records then, and the first one is there all the same
(`Relation.first_eq_head_iff`).
-/

namespace RecordMapper

/-! ## Queries that differ in their limit -/

theorem Sql.lowerQuery_limit {reg : Registry} {m : Model} {q : Query} {sel : Sql.Select}
    (h : lowerQuery reg m q = .ok sel) (limit : Option Nat) :
    lowerQuery reg m { q with limit } = .ok { sel with limit } := by
  obtain ⟨joins, columns, groupBy, filter, orderBy, hjoins, hcolumns, hgrouping, hgroup, hfilter, horder,
    rfl⟩ := lowerQuery_eq_ok.mp h
  exact lowerQuery_eq_ok.mpr ⟨joins, columns, groupBy, filter, orderBy, hjoins, hcolumns, hgrouping,
    hgroup, hfilter, horder, rfl⟩

/-- A query that can be run can be run with any limit, on the same connection. -/
theorem Session.compile_limit {s : Session} {q : Query} {compiled : Session.Compiled}
    (h : s.compile (.query q) = .ok compiled) (limit : Option Nat) :
    ∃ limited sel, s.compile (.query { q with limit }) = .ok limited ∧
      limited.connection = compiled.connection ∧ compiled.statement = .select sel ∧
      limited.statement = .select { sel with limit } := by
  obtain ⟨hlower, hconnection, _⟩ := compile_eq_ok.mp h
  obtain ⟨m, hm, hfor⟩ := Sql.lower_eq_ok.mp hlower
  obtain ⟨sel, hsel, hstatement⟩ := map_eq_ok.mp hfor
  have hlimited : Sql.lower s.registry (.query { q with limit }) = .ok (.select { sel with limit }) :=
    Sql.lower_query_eq_ok.mpr ⟨m, hm, Sql.lowerQuery_limit hsel limit⟩
  obtain ⟨text, htext⟩ : ∃ text,
      (Sql.Statement.select { sel with limit }).serialize compiled.connection.dialect [] = text :=
    ⟨_, rfl⟩
  exact ⟨⟨compiled.connection, .select { sel with limit }, text.1, text.2⟩, sel,
    compile_eq_ok.mpr ⟨hlimited, hconnection, htext⟩, rfl, hstatement.symm, rfl⟩

open Sql.Template in
/-- The text of a select without raw conditions tells its limit. -/
theorem Sql.limit_eq_of_text {d : Dialect} {sel : Sql.Select} (h : ∀ c ∈ sel.filter, c.Plain)
    {limit limit' : Option Nat}
    (htext : ((Sql.Statement.select { sel with limit := limit }).serialize d []).1 =
      ((Sql.Statement.select { sel with limit := limit' }).serialize d []).1) : limit = limit' := by
  have hbalanced : ∀ c ∈ sel.filter, c.Balanced := by
    intro c hc
    have hplain := h c hc
    cases c with
    | raw text args => cases hplain
    | _ => trivial
  have hparams : params ((Statement.select { sel with limit := limit }).wording d) ++ [] =
      params ((Statement.select { sel with limit := limit' }).wording d) ++ [] := by
    simp only [Statement.wording]
    rw [Select.params_wording, Select.params_wording]
    · exact hbalanced
    · exact hbalanced
  have hchars := congrArg String.toList htext
  simp only [Statement.serialize, String.toList_append] at hchars
  have hread := (reads_wording (s := .select { sel with limit := limit })
    (t := .select { sel with limit := limit' }) h h 0 _ _ _ _ rfl rfl hchars hparams).1
  simpa [Statement.written] using hread

/-! ## Relations in a world -/

namespace Relation

variable {σ : Type} {answer : (request : Request) → σ → request.Answer × σ} {s : Session}
  {r : Relation} {rows : List Row} {records : List Record} {cx cx' : Context} {world world' : σ}

/-- The rows up to a limit, if there is one. -/
def upTo : Option Nat → List Row → List Row
  | none, rows => rows
  | some n, rows => rows.take n

/-- The query of the relation is answered by the rows, and with a limit by the first of them. -/
def AnsweredBy (answer : (request : Request) → σ → request.Answer × σ) (s : Session) (r : Relation)
    (rows : List Row) : Prop :=
  ∀ limit compiled, s.compile (.query { r.query with limit }) = .ok compiled →
    ∀ cx world, (answer (.query compiled.connection.adapter cx compiled.sql compiled.params) world).1 =
      .ok (upTo limit rows)

/-- The query of the relation makes sense, and its connection is open. -/
def Runnable (s : Session) (r : Relation) : Prop :=
  ∃ compiled, s.compile (.query r.query) = .ok compiled ∧ s.isClosed compiled.connection = false

theorem Runnable.limit (h : r.Runnable s) (n : Nat) : (r.refine (.limit n)).Runnable s := by
  obtain ⟨compiled, hcompile, hopen⟩ := h
  obtain ⟨limited, _, hlimited, hconnection, _⟩ := Session.compile_limit hcompile (some n)
  refine ⟨limited, hlimited, ?_⟩
  rw [hconnection]
  exact hopen

theorem AnsweredBy.limit (h : r.AnsweredBy answer s rows) (n : Nat) :
    (r.refine (.limit n)).AnsweredBy answer s rows := h

/-- What a relation gives in a world: the records of the rows that it is answered by. -/
theorem run_toList (h : r.AnsweredBy answer s rows) (hrun : r.Runnable s) (cx : Context) (world : σ) :
    ((r.toList s cx).run answer world).1 = (upTo r.query.limit rows).mapM (Record.ofRow r.model) := by
  obtain ⟨compiled, hcompile, hopen⟩ := hrun
  have hquery : ((s.query cx (.query r.query)).run answer world).1 = .ok (upTo r.query.limit rows) := by
    rw [← h r.query.limit compiled hcompile cx world]
    unfold Session.query Session.queryOn
    rw [hcompile]
    simp only [hopen]
    rfl
  have hread : r.toList s cx = (fun reply => reply.bind fun rows => rows.mapM (Record.ofRow r.model)) <$>
      s.query cx (.query r.query) := rfl
  rw [hread, Dialogue.run_map, hquery]
  rfl

/-- A relation that gives records has a query that could be run. -/
theorem runnable_of_run (h : ((r.toList s cx).run answer world).1 = .ok records) : r.Runnable s := by
  obtain ⟨log, hlog⟩ := Dialogue.runs_run answer (r.toList s cx) world
  obtain ⟨reply, hquery, hreply⟩ := toList_runs hlog
  rcases Session.query_runs hquery with ⟨_, e, rfl⟩ | ⟨compiled, hcompile, hopen, _⟩
  · rw [h] at hreply
    cases hreply
  · exact ⟨compiled, hcompile, hopen⟩

/-- What is found first in a world is the record of the first row, whatever the limit. -/
theorem run_first (h : r.AnsweredBy answer s rows) (hrun : r.Runnable s) (cx : Context) (world : σ) :
    ((r.first s cx).run answer world).1 =
      ((rows.take 1).mapM (Record.ofRow r.model)).map List.head? := by
  have hlimited : ((r.refine (.limit 1)).toList s cx |>.run answer world).1 =
      (rows.take 1).mapM (Record.ofRow r.model) :=
    run_toList (h.limit 1) (hrun.limit 1) cx world
  have hhead : r.first s cx =
      (fun reply => reply.map List.head?) <$> (r.refine (.limit 1)).toList s cx := rfl
  rw [hhead, Dialogue.run_map, hlimited]

theorem take_upTo {limit : Option Nat} (h : limit ≠ some 0) (rows : List Row) :
    (upTo limit rows).take 1 = rows.take 1 := by
  cases limit with
  | none => rfl
  | some n =>
    have hpos : 1 ≤ n := Nat.one_le_iff_ne_zero.mpr fun hzero => h (congrArg some hzero)
    show (rows.take n).take 1 = _
    rw [List.take_take, Nat.min_eq_left hpos]

/-- The first record is the first of all records, unless the relation has a limit of zero: it has no
records then, and what stands for the first row is given all the same. -/
theorem first_eq_head_iff (h : r.AnsweredBy answer s rows)
    (hall : ((r.toList s cx).run answer world).1 = .ok records) :
    (((r.first s cx').run answer world').1 = .ok records.head? ↔
        (r.query.limit = some 0 → rows = [])) ∧
      (r.query.limit = some 0 → records = [] ∧ ((r.first s cx').run answer world').1 =
        ((rows.take 1).mapM (Record.ofRow r.model)).map List.head?) := by
  have hrun := runnable_of_run hall
  have hread : (upTo r.query.limit rows).mapM (Record.ofRow r.model) = .ok records :=
    (run_toList h hrun cx world).symm.trans hall
  have hfirst := run_first h hrun cx' world'
  rw [hfirst]
  by_cases hlimit : r.query.limit = some 0
  · have hnone : records = [] := by
      rw [hlimit] at hread
      exact (Except.ok.inj hread).symm
    refine ⟨⟨fun hsame _ => ?_, fun hempty => ?_⟩, fun _ => ⟨hnone, rfl⟩⟩
    · rw [hnone] at hsame
      obtain ⟨found, hfound, hhead⟩ := map_eq_ok.mp hsame
      -- a list without a first record was read from no rows
      rw [List.head?_eq_none_iff.mp hhead, mapM_eq_ok, List.forall₂_nil_right_iff] at hfound
      exact (List.take_eq_nil_iff.mp hfound).resolve_left Nat.one_ne_zero
    · rw [hnone, hempty hlimit]
      rfl
  · refine ⟨⟨fun _ hzero => absurd hzero hlimit, fun _ => ?_⟩, fun hzero => absurd hzero hlimit⟩
    have hshort : ((upTo r.query.limit rows).take 1).mapM (Record.ofRow r.model) =
        .ok (records.take 1) :=
      mapM_eq_ok.mpr (List.forall₂_take 1 (mapM_eq_ok.mp hread))
    rw [take_upTo hlimit] at hshort
    rw [hshort]
    cases records <;> rfl

end Relation

namespace Bookshop

/-- None of the books. -/
def noBooks : Relation := allBooks.refine (.limit 0)

def noBooksText : String :=
  "SELECT \"uid\", \"title\", \"year\", \"rating\", \"author_id\" FROM \"books\" LIMIT 0;"

/-- A database with a single row, which it gives to every query but the one for none of the books. -/
def oneRow : (request : Request) → Unit → request.Answer × Unit
  | .connect _ _, world => (.error (.of (.adhoc "no more connections")), world)
  | .exec _ _ _ _, world => (.error (.of (.adhoc "read only")), world)
  | .query _ _ sql _, world => (.ok (if sql = noBooksText then [] else [ratedRow]), world)
  | .close _, world => (.ok (), world)

/-- The record of the single row. -/
def ratedEmma : Record := ⟨book, ⟨[("title", .text "Emma"), ("shelf", .text "A3"),
    ("rating", .float (Binary64.ofInt64 4)), ("uid", .int 1)], by decide⟩, .persisted, none⟩

theorem answeredBy_oneRow : allBooks.AnsweredBy oneRow opened.session [ratedRow] := by
  intro limit compiled hcompiled cx world
  obtain ⟨limited, sel, hlimited, hconnection, hsel, hstatement⟩ :=
    Session.compile_limit compile_allBooks limit
  obtain rfl : limited = compiled := Except.ok.inj (hlimited.symm.trans hcompiled)
  obtain ⟨_, _, htext⟩ := Session.compile_eq_ok.mp hlimited
  rw [hconnection, hstatement] at htext
  have hfilter : ∀ c ∈ sel.filter, c.Plain := by
    cases hsel
    exact List.forall_mem_nil _
  have hzero : ((Sql.Statement.select { sel with limit := some 0 }).serialize .postgresql []).1 =
      noBooksText := by
    cases hsel
    decide +kernel
  have hsql : limited.sql = ((Sql.Statement.select { sel with limit }).serialize .postgresql []).1 :=
    (congrArg Prod.fst htext).symm
  have hlimit : limited.sql = noBooksText ↔ limit = some 0 := by
    rw [hsql, ← hzero]
    constructor
    · exact Sql.limit_eq_of_text hfilter
    · rintro rfl
      rfl
  show Except.ok (if limited.sql = noBooksText then [] else [ratedRow]) = _
  rcases limit with _ | _ | n
  · rw [if_neg (by simp [hlimit])]
    rfl
  · rw [if_pos (hlimit.mpr rfl)]
    rfl
  · rw [if_neg (by simp [hlimit]), Relation.upTo, List.take_succ_cons, List.take_nil]

theorem runnable_allBooks : allBooks.Runnable opened.session := ⟨booksQuery, compile_allBooks, rfl⟩

/-- The relation has no records, and it has a first one. -/
theorem noBooks_first :
    noBooks.AnsweredBy oneRow opened.session [ratedRow] ∧
      ((noBooks.toList opened.session background).run oneRow ()).1 = .ok [] ∧
      ((noBooks.first opened.session background).run oneRow ()).1 = .ok (some ratedEmma) :=
  ⟨answeredBy_oneRow.limit 0,
    Relation.run_toList (answeredBy_oneRow.limit 0) (runnable_allBooks.limit 0) background (),
    Relation.run_first (answeredBy_oneRow.limit 0) (runnable_allBooks.limit 0) background ()⟩

theorem allBooks_first :
    allBooks.AnsweredBy oneRow opened.session [ratedRow] ∧
      ((allBooks.toList opened.session background).run oneRow ()).1 = .ok [ratedEmma] ∧
      allBooks.query.limit ≠ some 0 ∧
      ((allBooks.first opened.session background).run oneRow ()).1 = .ok (some ratedEmma) := by
  have hall : ((allBooks.toList opened.session background).run oneRow ()).1 = .ok [ratedEmma] :=
    Relation.run_toList answeredBy_oneRow runnable_allBooks background ()
  have hlimit : allBooks.query.limit ≠ some 0 := by decide
  have hfirst : ((allBooks.first opened.session background).run oneRow ()).1 =
      .ok [ratedEmma].head? ↔ (allBooks.query.limit = some 0 → [ratedRow] = []) :=
    (Relation.first_eq_head_iff answeredBy_oneRow hall).1
  exact ⟨answeredBy_oneRow, hall, hlimit, hfirst.mpr fun hzero => absurd hzero hlimit⟩

end Bookshop

end RecordMapper
