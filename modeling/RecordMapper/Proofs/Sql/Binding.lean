import RecordMapper.Proofs.Sql.Tokens
import RecordMapper.Proofs.Sql.Unambiguous

/-!
# Parameters are bound in order

A query binds its parameters in order if a database that reads its text finds the placeholders of the
statement in it and no others (`Statement.BindsInOrder`). All parts of a select but its raw conditions
are told from placeholders, so this depends on the fragments of the query alone. A fragment that leaves
a quote open takes the text behind it along. Among the queries whose fragments close their quotes, those
bind in order in which no digit follows the place of an argument and, for PostgreSQL, no dollar sign
stands outside quotes (`bindsInOrder_iff`). Lowering asks for neither: `Bookshop.numberedQuery` is
accepted, and its only parameter is read as the fifteenth.
-/

namespace RecordMapper

open Fragment (openQuote)
open Sql (tokens)

/-- The fragments of the raw conditions of the query. -/
def Predicate.fragment? : Predicate → Option String
  | raw fragment _ => some fragment
  | equals _ _ => none

def Query.fragments (q : Query) : List String := q.filter.toList.filterMap Predicate.fragment?

namespace Fragment

/-- The fragment closes all quotes that it opens. -/
def Closed (fragment : String) : Prop := fragment.toList.foldl openQuote none = none

/-- No digit stands right after the place of an argument. -/
def Spaced (fragment : String) : Prop :=
  ∀ piece ∈ (pieces fragment).tail, ∀ c ∈ piece.toList.head?, c.isDigit = false

/-- No piece of the fragment has a mark of the dialect outside quotes. -/
def Unmarked (d : Dialect) (fragment : String) : Prop :=
  ∀ piece ∈ pieces fragment, tokens d.mark none piece.toList = []

instance (fragment : String) : Decidable (Closed fragment) := inferInstanceAs (Decidable (_ = _))

/-- Only the first character of each piece is looked at. -/
instance (fragment : String) : Decidable (Spaced fragment) :=
  decidable_of_iff
    ((pieces fragment).tail.all fun piece => piece.toList.head?.all fun c => !c.isDigit)
    (by simp [Spaced, List.all_eq_true, Option.all_eq_true])

/-- The characters, read after an open quote, are cut into a first piece and more pieces. -/
inductive Cuts : Option Char → List Char → List Char → List (List Char) → Prop
  | nil (quote : Option Char) : Cuts quote [] [] []
  | place {cs piece : List Char} {pieces : List (List Char)} :
    Cuts none cs piece pieces → Cuts none ('?' :: cs) [] (piece :: pieces)
  | char {quote : Option Char} {c : Char} {cs piece : List Char} {pieces : List (List Char)} :
    ¬(quote = none ∧ c = '?') → Cuts (openQuote quote c) cs piece pieces →
      Cuts quote (c :: cs) (c :: piece) pieces

theorem exists_cuts (quote : Option Char) (cs : List Char) :
    ∃ piece pieces, split quote cs = piece :: pieces ∧ Cuts quote cs piece pieces := by
  induction cs generalizing quote with
  | nil => exact ⟨[], [], rfl, .nil quote⟩
  | cons c cs ih =>
    rw [split]
    split_ifs with hplace
    · obtain ⟨rfl, rfl⟩ := hplace
      obtain ⟨piece, pieces, heq, hcuts⟩ := ih none
      exact ⟨[], piece :: pieces, by rw [heq], .place hcuts⟩
    · obtain ⟨piece, pieces, heq, hcuts⟩ := ih (openQuote quote c)
      exact ⟨c :: piece, pieces, by rw [heq, glue], .char hplace hcuts⟩

variable {quote : Option Char} {cs piece : List Char} {pieces : List (List Char)}

/-- Quotes do not reach over the place of an argument. -/
theorem Cuts.closed (h : Cuts quote cs piece pieces) (hclosed : cs.foldl openQuote quote = none) :
    piece.foldl openQuote quote = none ∧ ∀ x ∈ pieces, x.foldl openQuote none = none := by
  induction h with
  | nil quote => exact ⟨hclosed, fun _ hmem => absurd hmem List.not_mem_nil⟩
  | place _ ih =>
    obtain ⟨hpiece, hpieces⟩ := ih hclosed
    exact ⟨rfl, List.forall_mem_cons.mpr ⟨hpiece, hpieces⟩⟩
  | char _ _ ih => exact ih hclosed

/-- A question mark outside quotes is the place of an argument, so no piece has one. -/
theorem Cuts.unmarked (h : Cuts quote cs piece pieces) :
    tokens '?' quote piece = [] ∧ ∀ x ∈ pieces, tokens '?' none x = [] := by
  induction h with
  | nil quote => exact ⟨rfl, fun _ hmem => absurd hmem List.not_mem_nil⟩
  | place _ ih => exact ⟨rfl, List.forall_mem_cons.mpr ih⟩
  | char hplace _ ih =>
    refine ⟨?_, ih.2⟩
    rw [tokens, if_neg hplace]
    exact ih.1

/-- The pieces have a dollar sign outside quotes if and only if the fragment does. -/
theorem Cuts.unmarked_iff (h : Cuts quote cs piece pieces) : tokens '$' quote cs = [] ↔
    tokens '$' quote piece = [] ∧ ∀ x ∈ pieces, tokens '$' none x = [] := by
  induction h with
  | nil quote => simp [tokens]
  | place _ ih =>
    rw [List.forall_mem_cons, ← ih]
    simp [tokens, openQuote]
  | @char quote c cs piece pieces _ _ ih =>
    rw [tokens, tokens]
    split_ifs with hmark
    · simp
    · exact ih

theorem forall_pieces_iff {p : List Char → Prop} (fragment : String) :
    (∀ piece ∈ Fragment.pieces fragment, p piece.toList) ↔
      ∀ piece ∈ split none fragment.toList, p piece := by
  simp [Fragment.pieces]

theorem closed_of_mem_pieces {fragment : String} (h : Closed fragment) :
    ∀ piece ∈ Fragment.pieces fragment, piece.toList.foldl openQuote none = none := by
  obtain ⟨piece, pieces, heq, hcuts⟩ := exists_cuts none fragment.toList
  rw [forall_pieces_iff (p := fun cs => cs.foldl openQuote none = none), heq, List.forall_mem_cons]
  exact hcuts.closed h

theorem unmarked_sqlite (fragment : String) : Unmarked .sqlite fragment := by
  obtain ⟨piece, pieces, heq, hcuts⟩ := exists_cuts none fragment.toList
  rw [Unmarked, forall_pieces_iff (p := fun cs => tokens _ none cs = []), heq, List.forall_mem_cons]
  exact hcuts.unmarked

theorem unmarked_postgresql_iff (fragment : String) :
    Unmarked .postgresql fragment ↔ tokens '$' none fragment.toList = [] := by
  obtain ⟨piece, pieces, heq, hcuts⟩ := exists_cuts none fragment.toList
  rw [Unmarked, forall_pieces_iff (p := fun cs => tokens _ none cs = []), heq, List.forall_mem_cons]
  exact hcuts.unmarked_iff.symm

end Fragment

namespace Sql

open Template (render params separated)

/-- What is read in the text are the placeholders of all parameters, in order. -/
def Statement.BindsInOrder (d : Dialect) (t : Statement) : Prop :=
  tokens d.mark none (t.serialize d []).1.toList =
    (List.range' 1 (t.serialize d []).2.length).map d.placeholder

def Condition.fragment? : Condition → Option String
  | raw fragment _ => some fragment
  | _ => none

variable {d : Dialect}

/-! ## Conditions -/

section Weaving

variable {piece : String} {pieces : List String} {args : List Value}

theorem leadsWithDigit_weave (h : (piece :: pieces).length = args.length + 1) :
    LeadsWithDigit (weave (piece :: pieces) args ++ [.text ")"]) ↔
      ¬∀ c ∈ piece.toList.head?, c.isDigit = false := by
  cases pieces with
  | nil =>
    show LeadsWithDigit [.text piece, .text ")"] ↔ _
    rw [LeadsWithDigit]
    cases piece.toList with
    | nil => simp [LeadsWithDigit]
    | cons c cs => simp
  | cons next pieces =>
    cases args with
    | nil => exact absurd h (by simp)
    | cons value values =>
      show LeadsWithDigit (.text piece :: .hole value :: _) ↔ _
      rw [LeadsWithDigit]
      cases piece.toList with
      | nil => simp [LeadsWithDigit]
      | cons c cs => simp

/-- A raw condition is legible if its pieces have no marks and none but the first one begins with a
digit. -/
theorem legible_weave (h : (piece :: pieces).length = args.length + 1) :
    Legible d (weave (piece :: pieces) args ++ [.text ")"]) ↔
      (∀ x ∈ piece :: pieces, tokens d.mark none x.toList = []) ∧
        ∀ x ∈ pieces, ∀ c ∈ x.toList.head?, c.isDigit = false := by
  induction pieces generalizing piece args with
  | nil =>
    have hclose : tokens d.mark none [')'] = [] := by cases d <;> decide
    show Legible d [.text piece, .text ")"] ↔ _
    simp [Legible, hclose]
  | cons next pieces ih =>
    cases args with
    | nil => exact absurd h (by simp)
    | cons value values =>
      have hrest := Nat.succ.inj h
      show Legible d (.text piece :: .hole value :: (weave (next :: pieces) values ++ [.text ")"])) ↔ _
      rw [Legible, Legible, leadsWithDigit_weave hrest, ih hrest, not_not]
      simp only [List.forall_mem_cons]
      tauto

theorem mem_of_text_mem_weave {s : String} (h : Segment.text s ∈ weave pieces args) : s ∈ pieces := by
  induction pieces generalizing args with
  | nil => exact absurd h List.not_mem_nil
  | cons piece pieces ih =>
    cases pieces with
    | nil =>
      cases List.mem_singleton.mp h
      exact List.mem_cons_self
    | cons next pieces =>
      cases args with
      | nil =>
        rcases List.mem_cons.mp h with heq | hmem
        · cases heq
          exact List.mem_cons_self
        · exact List.mem_cons_of_mem _ (ih hmem)
      | cons value values =>
        rcases List.mem_cons.mp h with heq | hmem
        · cases heq
          exact List.mem_cons_self
        · rcases List.mem_cons.mp hmem with heq | hmem
          · cases heq
          · exact List.mem_cons_of_mem _ (ih hmem)

end Weaving

theorem silent_head {c : Column} (hd : d ≠ .mysql) {s : String} (hs : Silent d s) :
    Silent d (c.wording d ++ s) :=
  (silent_column hd c).append hs

theorem legible_condition (hd : d ≠ .mysql) {c : Condition} (h : c.Balanced) :
    Legible d (c.wording d) ↔
      ∀ fragment ∈ c.fragment?, Fragment.Unmarked d fragment ∧ Fragment.Spaced fragment := by
  cases c with
  | equals column value =>
    have hequals : Silent d " = " := by cases d <;> decide
    have hsilent := silent_head (c := column) hd hequals
    exact iff_of_true ⟨hsilent.unmarked, id, trivial⟩ (by simp [Condition.fragment?])
  | isNull column =>
    have hnull : Silent d " IS NULL" := by cases d <;> decide
    have hsilent := silent_head (c := column) hd hnull
    exact iff_of_true ⟨hsilent.unmarked, trivial⟩ (by simp [Condition.fragment?])
  | raw fragment args =>
    have hopen : tokens d.mark none "(".toList = [] := by cases d <;> decide
    show Legible d (.text "(" :: (weave (Fragment.pieces fragment) args ++ [.text ")"])) ↔ _
    have hlength : (Fragment.pieces fragment).length = args.length + 1 := h
    have hthis : (∀ f ∈ Condition.fragment? (.raw fragment args),
          Fragment.Unmarked d f ∧ Fragment.Spaced f) ↔
        Fragment.Unmarked d fragment ∧ Fragment.Spaced fragment := by
      simp [Condition.fragment?]
    rw [Legible, and_iff_right hopen, hthis, Fragment.Unmarked, Fragment.Spaced]
    cases hpieces : Fragment.pieces fragment with
    | nil => simp [hpieces] at hlength
    | cons piece pieces => exact legible_weave (hpieces ▸ hlength)

theorem closed_condition (hd : d ≠ .mysql) {c : Condition}
    (h : ∀ fragment ∈ c.fragment?, Fragment.Closed fragment) : Closed (c.wording d) := by
  intro s hs
  cases c with
  | equals column value =>
    have hequals : Silent d " = " := by cases d <;> decide
    simp only [Condition.wording, List.mem_cons, Segment.text.injEq, reduceCtorEq, List.not_mem_nil,
      or_false] at hs
    rw [hs]
    exact (silent_head hd hequals).closed
  | isNull column =>
    have hnull : Silent d " IS NULL" := by cases d <;> decide
    simp only [Condition.wording, List.mem_cons, Segment.text.injEq, List.not_mem_nil, or_false] at hs
    rw [hs]
    exact (silent_head hd hnull).closed
  | raw fragment args =>
    rcases List.mem_append.mp hs with hs | hs
    · rcases List.mem_cons.mp hs with heq | hmem
      · cases heq
        rfl
      · exact Fragment.closed_of_mem_pieces (h fragment rfl) s (mem_of_text_mem_weave hmem)
    · cases List.mem_singleton.mp hs
      rfl

/-! ## Selects -/

/-- A keyword, a separator or the end of a statement. -/
theorem divides_keyword (d : Dialect) : ∀ s ∈ [" WHERE ", " AND ", " GROUP BY ", " ORDER BY ", ", ", ";"],
    Divides d s := by
  have hsilent : ∀ s ∈ [" WHERE ", " AND ", " GROUP BY ", " ORDER BY ", ", ", ";"], Silent d s := by
    cases d <;> decide
  intro s hs
  refine ⟨hsilent s hs, fun t => ?_⟩
  simp only [List.mem_cons, List.not_mem_nil, or_false] at hs
  rcases hs with rfl | rfl | rfl | rfl | rfl | rfl <;> simp [LeadsWithDigit]

/-- What stands before the conditions of a select. -/
def headWording (d : Dialect) (s : Select) : Template :=
  .text "SELECT " :: .text (", ".intercalate (s.columns.map (Column.wording d))) ::
  .text (" FROM " ++ d.quoted s.table) :: s.joins.map (fun j => .text (" " ++ j.wording d))

theorem wording_eq (s : Select) : s.wording d ++ [.text ";"] = headWording d s ++
    (clause " WHERE " " AND " (s.filter.map (Condition.wording d)) ++
      (groupedWording d s ++ [.text ";"])) := by
  obtain ⟨table, columns, joins, filter, groupBy, orderBy, limit⟩ := s
  cases limit <;>
    simp only [Select.wording, headWording, groupedWording, orderedWording, limitWording, List.append_assoc]

theorem allSilent_head (hd : d ≠ .mysql) (s : Select) : AllSilent d (headWording d s) := by
  have hselect : Silent d "SELECT " := by cases d <;> decide
  have hfrom : Silent d " FROM " := by cases d <;> decide
  have hcomma := (divides_keyword d ", " (by simp)).silent
  have hcolumns : Silent d (", ".intercalate (s.columns.map (Column.wording d))) := by
    refine hcomma.intercalate fun text htext => ?_
    obtain ⟨c, -, rfl⟩ := List.mem_map.mp htext
    exact silent_column hd c
  intro segment hsegment
  rcases List.mem_cons.mp hsegment with rfl | hsegment
  · exact ⟨_, rfl, hselect⟩
  rcases List.mem_cons.mp hsegment with rfl | hsegment
  · exact ⟨_, rfl, hcolumns⟩
  rcases List.mem_cons.mp hsegment with rfl | hsegment
  · exact ⟨_, rfl, hfrom.append (silent_quoted hd s.table)⟩
  · exact allSilent_texts (silent_join hd) s.joins segment hsegment

theorem allSilent_grouped (hd : d ≠ .mysql) (s : Select) :
    AllSilent d (groupedWording d s ++ [.text ";"]) := by
  have hcomma := (divides_keyword d ", " (by simp)).silent
  have hgroup := (divides_keyword d " GROUP BY " (by simp)).silent
  have horder := (divides_keyword d " ORDER BY " (by simp)).silent
  have hend := (divides_keyword d ";" (by simp)).silent
  have hlimit : AllSilent d (limitWording s.limit) := by
    cases s.limit with
    | none => exact fun _ hmem => absurd hmem List.not_mem_nil
    | some rows => exact fun segment hmem => ⟨_, List.mem_singleton.mp hmem, silent_limit d rows⟩
  have hordered := (allSilent_clause horder hcomma (silent_ordering hd) s.orderBy).append hlimit
  have hgrouped := (allSilent_clause hgroup hcomma (silent_column hd) s.groupBy).append hordered
  exact hgrouped.append fun segment hmem => ⟨_, List.mem_singleton.mp hmem, hend⟩

theorem not_leadsWithDigit_grouped (s : Select) :
    ¬LeadsWithDigit (groupedWording d s ++ [.text ";"]) := by
  have hend : ¬LeadsWithDigit [.text ";"] := (divides_keyword d ";" (by simp)).initial []
  have hlimit : ¬LeadsWithDigit (limitWording s.limit) := by
    cases s.limit with
    | none => exact id
    | some rows => simp [limitWording, LeadsWithDigit]
  have hordered : ¬LeadsWithDigit (orderedWording d s) := by
    rw [orderedWording, leadsWithDigit_append hlimit]
    exact not_leadsWithDigit_clause (divides_keyword d " ORDER BY " (by simp))
  rw [leadsWithDigit_append hend, groupedWording, leadsWithDigit_append hordered]
  exact not_leadsWithDigit_clause (divides_keyword d " GROUP BY " (by simp))

/-- A select is told from its placeholders if its conditions are. -/
theorem legible_select (hd : d ≠ .mysql) {s : Select} (h : ∀ c ∈ s.filter, c.Balanced) :
    Legible d (s.wording d ++ [.text ";"]) ↔ ∀ fragment ∈ s.filter.filterMap Condition.fragment?,
      Fragment.Unmarked d fragment ∧ Fragment.Spaced fragment := by
  have hwhere := divides_keyword d " WHERE " (by simp)
  have hand := divides_keyword d " AND " (by simp)
  have htail := not_leadsWithDigit_grouped (d := d) s
  have hfiltered : ¬LeadsWithDigit (clause " WHERE " " AND " (s.filter.map (Condition.wording d)) ++
      (groupedWording d s ++ [.text ";"])) := by
    rw [leadsWithDigit_append htail]
    exact not_leadsWithDigit_clause hwhere
  rw [wording_eq, legible_append hfiltered, legible_append htail, legible_clause hwhere.silent hand,
    and_iff_right (allSilent_head hd s).legible, and_iff_left (allSilent_grouped hd s).legible,
    List.forall_mem_map]
  simp only [List.mem_filterMap]
  constructor
  · rintro hlegible fragment ⟨c, hc, hfragment⟩
    exact (legible_condition hd (h c hc)).mp (hlegible c hc) fragment hfragment
  · intro hfragments c hc
    exact (legible_condition hd (h c hc)).mpr fun fragment hfragment =>
      hfragments fragment ⟨c, hc, hfragment⟩

theorem closed_select (hd : d ≠ .mysql) {s : Select}
    (h : ∀ fragment ∈ s.filter.filterMap Condition.fragment?, Fragment.Closed fragment) :
    Closed (s.wording d ++ [.text ";"]) := by
  have hwhere := (divides_keyword d " WHERE " (by simp)).silent
  have hand := (divides_keyword d " AND " (by simp)).silent
  have hconditions : ∀ c ∈ s.filter, Closed (c.wording d) := fun c hc =>
    closed_condition hd fun fragment hfragment => h fragment (List.mem_filterMap.mpr ⟨c, hc, hfragment⟩)
  rw [wording_eq, closed_append, closed_append]
  exact ⟨(allSilent_head hd s).closed, closed_clause hwhere hand (List.forall_mem_map.mpr hconditions),
    (allSilent_grouped hd s).closed⟩

/-- A select whose fragments close their quotes binds its parameters in order exactly if its fragments
are told from the placeholders. -/
theorem bindsInOrder_select_iff (hd : d ≠ .mysql) {s : Select} (hbalanced : ∀ c ∈ s.filter, c.Balanced)
    (hclosed : ∀ fragment ∈ s.filter.filterMap Condition.fragment?, Fragment.Closed fragment) :
    (Statement.select s).BindsInOrder d ↔ ∀ fragment ∈ s.filter.filterMap Condition.fragment?,
      Fragment.Unmarked d fragment ∧ Fragment.Spaced fragment := by
  rw [← legible_select hd hbalanced, ← tokens_render_iff hd (closed_select hd hclosed) 0,
    Template.render_append, Template.params_append, Statement.BindsInOrder, Statement.serialize]
  simp [render, params, Statement.wording]

/-! ## Lowered queries -/

variable {r : Registry} {q : Query} {t : Statement}

theorem fragment?_of_condition {scope : Scope} {p : Predicate} {c : Condition}
    (h : scope.condition p = .ok c) : c.fragment? = p.fragment? := by
  cases p with
  | raw fragment args =>
    obtain ⟨-, rfl⟩ := Scope.condition_raw_eq_ok.mp h
    rfl
  | equals name value =>
    obtain ⟨a, w, -, -, rfl⟩ := Scope.condition_equals_eq_ok.mp h
    split_ifs
    · rfl
    · rfl

/-- Lowering takes over the fragments as they are. -/
theorem exists_select_of_lower (h : lower r (.query q) = .ok t) :
    ∃ s, t = .select s ∧ s.filter.filterMap Condition.fragment? = q.fragments := by
  obtain ⟨m, -, hlower⟩ := lower_eq_ok.mp h
  obtain ⟨s, hquery, rfl⟩ := map_eq_ok.mp hlower
  obtain ⟨_, _, _, filter, _, -, -, -, -, hfilter, -, rfl⟩ := lowerQuery_eq_ok.mp hquery
  have hfragments := map_eq_of_mapM hfilter (g := Predicate.fragment?) (k := Condition.fragment?)
    fun _ _ => fragment?_of_condition
  refine ⟨_, rfl, ?_⟩
  calc filter.filterMap Condition.fragment?
      = (filter.map Condition.fragment?).filterMap id := by rw [List.filterMap_map, Function.id_comp]
    _ = (q.filter.toList.map Predicate.fragment?).filterMap id := by rw [hfragments]
    _ = q.fragments := by rw [List.filterMap_map, Function.id_comp, Query.fragments]

/-- Among the accepted queries whose fragments close their quotes, those bind their parameters in order
in which no digit follows the place of an argument and, for PostgreSQL, no dollar sign stands outside
quotes. -/
theorem bindsInOrder_iff (h : lower r (.query q) = .ok t)
    (hclosed : ∀ fragment ∈ q.fragments, Fragment.Closed fragment) :
    (t.BindsInOrder .sqlite ↔ ∀ fragment ∈ q.fragments, Fragment.Spaced fragment) ∧
      (t.BindsInOrder .postgresql ↔
        ∀ fragment ∈ q.fragments, Fragment.Spaced fragment ∧ tokens '$' none fragment.toList = []) := by
  obtain ⟨s, rfl, hfragments⟩ := exists_select_of_lower h
  have hbalanced : ∀ c ∈ s.filter, c.Balanced := balanced_of_lower h
  rw [← hfragments] at hclosed ⊢
  constructor
  · rw [bindsInOrder_select_iff (by decide) hbalanced hclosed]
    exact forall₂_congr fun fragment _ => and_iff_right (Fragment.unmarked_sqlite fragment)
  · rw [bindsInOrder_select_iff (by decide) hbalanced hclosed]
    refine forall₂_congr fun fragment _ => ?_
    rw [Fragment.unmarked_postgresql_iff, and_comm]

end Sql

namespace Bookshop

theorem bindsInOrder_groupedSelect :
    Sql.lower registry (.query groupedQuery) = .ok (.select groupedSelect) ∧
      (∀ fragment ∈ groupedQuery.fragments, Fragment.Closed fragment) ∧
      (Sql.Statement.select groupedSelect).BindsInOrder .sqlite ∧
      (Sql.Statement.select groupedSelect).BindsInOrder .postgresql := by
  have hclosed : ∀ fragment ∈ groupedQuery.fragments, Fragment.Closed fragment := by
    decide +kernel
  have hspaced : ∀ fragment ∈ groupedQuery.fragments, Fragment.Spaced fragment := by
    decide +kernel
  have hnoDollar : ∀ fragment ∈ groupedQuery.fragments, tokens '$' none fragment.toList = [] := by
    decide +kernel
  obtain ⟨hsqlite, hpostgresql⟩ := Sql.bindsInOrder_iff lower_groupedQuery hclosed
  exact ⟨lower_groupedQuery, hclosed, hsqlite.mpr hspaced,
    hpostgresql.mpr fun fragment hmem => ⟨hspaced fragment hmem, hnoDollar fragment hmem⟩⟩

/-- A digit stands right after the place of the argument. -/
def numberedQuery : Query :=
  (Query.all "book").refineAll [.select ["title"], .filter (.raw "year > ?5" [.int 1850])]

def numberedSelect : Sql.Statement :=
  .select ⟨book.tableName, [⟨none, "title"⟩], [], [.raw "year > ?5" [.int 1850]], [], [], none⟩

/-- The only parameter of the query is read as the fifteenth one. -/
theorem tokens_numberedSelect : Sql.lower registry (.query numberedQuery) = .ok numberedSelect ∧
    (numberedSelect.serialize .sqlite []).2 = [.int 1850] ∧
    tokens '?' none (numberedSelect.serialize .sqlite []).1.toList = ["?15"] ∧
    tokens '$' none (numberedSelect.serialize .postgresql []).1.toList = ["$15"] ∧
    ¬numberedSelect.BindsInOrder .sqlite ∧ ¬numberedSelect.BindsInOrder .postgresql := by
  refine ⟨rfl, rfl, ?_, ?_, ?_, ?_⟩
  · decide +kernel
  · decide +kernel
  · rw [Sql.Statement.BindsInOrder]
    decide +kernel
  · rw [Sql.Statement.BindsInOrder]
    decide +kernel

end Bookshop

end RecordMapper
