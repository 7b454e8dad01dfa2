import RecordMapper.Proofs.Sql.Binding
import RecordMapper.Proofs.Sql.Joins

/-!
# The conditions of a select

Refining a query only adds to its conditions and joins (`Query.Refines`), so the lowered conditions of
a query stand in front of those of every query that it is refined to. What may change is how their
columns are written: with the first join all columns get the table of the model in front.

In the text the conditions stand one after the other with `AND` between them, and a raw one stands in
parentheses (`Condition.text`). The fragment itself is not read, so a fragment that closes the
parenthesis by itself is on its own.
-/

namespace RecordMapper

/-! ## Refining a query -/

/-- The second query asks for records of the same model and under all conditions and joins of the
first. -/
structure Query.Refines (q q' : Query) : Prop where
  model : q'.model = q.model
  filter : q.filter.toList <+: q'.filter.toList
  joins : q.joins.toList <+: q'.joins.toList

theorem Query.Refines.refl (q : Query) : q.Refines q := ⟨rfl, List.prefix_rfl, List.prefix_rfl⟩

theorem Query.Refines.trans {q q' q'' : Query} (h : q.Refines q') (h' : q'.Refines q'') :
    q.Refines q'' :=
  ⟨h'.model.trans h.model, h.filter.trans h'.filter, h.joins.trans h'.joins⟩

theorem Query.refines_refine (q : Query) (step : Refinement) : q.Refines (q.refine step) := by
  cases step with
  | filter predicate =>
    refine ⟨rfl, ?_, List.prefix_rfl⟩
    show q.filter.toList <+: (q.filter.push predicate).toList
    rw [Trail.toList_push]
    exact List.prefix_append _ _
  | join name =>
    by_cases h : name ∈ q.joins.toList
    · rw [Sql.refine_join_of_mem h]
      exact Refines.refl q
    · refine ⟨rfl, List.prefix_rfl, ?_⟩
      rw [Sql.toList_refine_join h]
      exact List.prefix_append _ _
  | select names => exact ⟨rfl, List.prefix_rfl, List.prefix_rfl⟩
  | group names => exact ⟨rfl, List.prefix_rfl, List.prefix_rfl⟩
  | orderBy order => exact ⟨rfl, List.prefix_rfl, List.prefix_rfl⟩
  | limit rows => exact ⟨rfl, List.prefix_rfl, List.prefix_rfl⟩

theorem Query.refines_refineAll (q : Query) (chain : List Refinement) : q.Refines (q.refineAll chain) := by
  induction chain generalizing q with
  | nil => exact Refines.refl q
  | cons step chain ih => exact (q.refines_refine step).trans (ih (q.refine step))

namespace Sql

/-! ## Lowered conditions -/

/-- The condition on the columns of the given table. -/
def Condition.qualify (table : String) : Condition → Condition
  | equals column value => equals (.qualified table column.name) value
  | isNull column => isNull (.qualified table column.name)
  | raw fragment args => raw fragment args

variable {r : Registry} {m : Model} {q q' : Query} {p : Predicate} {c : Condition} {s s' : Select}

/-- With other tables joined a condition is the same one on columns with their table. -/
theorem Scope.condition_qualified (h : Scope.condition ⟨m, false⟩ p = .ok c) :
    Scope.condition ⟨m, true⟩ p = .ok (c.qualify m.tableName) := by
  cases p with
  | raw fragment args =>
    obtain ⟨hcount, rfl⟩ := Scope.condition_raw_eq_ok.mp h
    exact Scope.condition_raw_eq_ok.mpr ⟨hcount, rfl⟩
  | equals name value =>
    obtain ⟨a, w, ha, hw, rfl⟩ := Scope.condition_equals_eq_ok.mp h
    refine Scope.condition_equals_eq_ok.mpr ⟨a, w, ha, hw, ?_⟩
    split_ifs
    · rfl
    · rfl

/-- The conditions of a query come first in whatever it is refined to. -/
theorem filter_prefix_of_lower (hq : q.Refines q') (h : lower r (.query q) = .ok (.select s))
    (h' : lower r (.query q') = .ok (.select s')) :
    (if s.joins = [] ∧ s'.joins ≠ [] then s.filter.map (Condition.qualify s.table) else s.filter) <+:
      s'.filter := by
  obtain ⟨m, hm, hlower⟩ := lower_query_eq_ok.mp h
  obtain ⟨m', hm', hlower'⟩ := lower_query_eq_ok.mp h'
  rw [hq.model, hm] at hm'
  cases hm'
  obtain ⟨joins, _, _, filter, _, hjoins, -, -, -, hfilter, -, rfl⟩ := lowerQuery_eq_ok.mp hlower
  obtain ⟨joins', _, _, filter', _, hjoins', -, -, -, hfilter', -, rfl⟩ := lowerQuery_eq_ok.mp hlower'
  obtain ⟨added, hadded⟩ := hq.filter
  rw [← hadded, List.mapM_append, bind_eq_ok] at hfilter'
  obtain ⟨first, hfirst, hrest⟩ := hfilter'
  simp only [bind_eq_ok, pure_eq_ok] at hrest
  obtain ⟨more, -, rfl⟩ := hrest
  -- Both queries read the same conditions; only the joins decide how their columns are written.
  have hkept : joins ≠ [] → joins' ≠ [] := by
    rintro hne rfl
    have hnone' : q'.joins.toList = [] := by
      rw [mapM_eq_ok] at hjoins'
      exact List.forall₂_nil_right_iff.mp hjoins'
    have hnone : q.joins.toList = [] := List.prefix_nil.mp (hnone' ▸ hq.joins)
    rw [hnone] at hjoins
    cases hjoins
    exact hne rfl
  refine ⟨more, congrArg (· ++ more) ?_⟩
  show (if joins = [] ∧ joins' ≠ [] then filter.map (Condition.qualify m.tableName) else filter) = first
  split_ifs with hfresh
  · obtain ⟨rfl, hne⟩ := hfresh
    have hqualified : (!joins'.isEmpty) = true := by simpa using hne
    rw [hqualified] at hfirst
    have hsame : q.filter.toList.mapM (Scope.condition ⟨m, true⟩) =
        .ok (filter.map (Condition.qualify m.tableName)) := by
      rw [mapM_eq_ok] at hfilter ⊢
      exact List.forall₂_map_right_iff.mpr (hfilter.imp fun _ _ hc => Scope.condition_qualified hc)
    exact Except.ok.inj (hsame.symm.trans hfirst)
  · have hsame : joins.isEmpty = joins'.isEmpty := by
      by_cases hnil : joins = []
      · have hnil' : joins' = [] := by
          by_contra hne
          exact hfresh ⟨hnil, hne⟩
        rw [hnil, hnil']
      · rw [List.isEmpty_eq_false_iff.mpr hnil, List.isEmpty_eq_false_iff.mpr (hkept hnil)]
    rw [hsame] at hfilter
    exact Except.ok.inj (hfilter.symm.trans hfirst)

/-! ## The text of conditions -/

open Template (render params separated)

variable {d : Dialect}

/-- The text of a condition after `bound` parameters. -/
def Condition.text (d : Dialect) (bound : Nat) : Condition → String
  | equals column _ => column.wording d ++ " = " ++ d.placeholder (bound + 1)
  | isNull column => column.wording d ++ " IS NULL"
  | raw fragment _ => "(" ++ d.fill bound (Fragment.pieces fragment) ++ ")"

/-- The texts of conditions that follow each other. -/
def conditionTexts (d : Dialect) : Nat → List Condition → List String
  | _, [] => []
  | bound, c :: cs => c.text d bound :: conditionTexts d (bound + c.boundValues.length) cs

theorem render_weave {pieces : List String} {args : List Value} (bound : Nat)
    (h : pieces.length = args.length + 1) : render d bound (weave pieces args) = d.fill bound pieces := by
  induction pieces generalizing args bound with
  | nil => exact absurd h (Nat.succ_ne_zero _).symm
  | cons piece pieces ih =>
    cases args with
    | nil =>
      rw [List.eq_nil_of_length_eq_zero (Nat.succ.inj h)]
      simp [weave, render, Dialect.fill]
    | cons value values =>
      cases pieces with
      | nil => exact absurd (Nat.succ.inj h) (Nat.succ_ne_zero _).symm
      | cons next pieces =>
        rw [weave, render, render, ih (bound + 1) (Nat.succ.inj h)]
        · simp only [Dialect.fill, String.append_assoc]
        · exact List.cons_ne_nil _ _

theorem render_condition (bound : Nat) (h : c.Balanced) :
    render d bound (c.wording d) = c.text d bound := by
  cases c with
  | equals column value => simp [Condition.wording, render, Condition.text]
  | isNull column => simp [Condition.wording, render, Condition.text]
  | raw fragment args =>
    rw [Condition.wording, Template.render_append, render, render_weave bound h, Condition.text]
    simp [render]

/-- Conditions are joined by `AND`, and each counts on from the parameters of those before it. -/
theorem render_conditions (bound : Nat) {cs : List Condition} (h : ∀ c ∈ cs, c.Balanced) :
    render d bound (separated " AND " (cs.map (Condition.wording d))) =
      " AND ".intercalate (conditionTexts d bound cs) := by
  induction cs generalizing bound with
  | nil => rfl
  | cons c cs ih =>
    rw [List.forall_mem_cons] at h
    cases cs with
    | nil => simp [conditionTexts, render_condition bound h.1]
    | cons c' cs =>
      have hcons : separated " AND " ((c :: c' :: cs).map (Condition.wording d)) =
          c.wording d ++ .text " AND " :: separated " AND " ((c' :: cs).map (Condition.wording d)) :=
        Template.separated_cons_cons _ _ _ _
      have htexts : " AND ".intercalate (conditionTexts d bound (c :: c' :: cs)) =
          c.text d bound ++ " AND " ++
            " AND ".intercalate (conditionTexts d (bound + c.boundValues.length) (c' :: cs)) :=
        String.intercalate_cons_cons
      rw [hcons, htexts, Template.render_append, render_condition bound h.1,
        Condition.params_wording d h.1, render, ih _ h.2, String.append_assoc]

/-- A template without holes reads the same wherever it stands. -/
theorem render_of_params_eq_nil {t : Template} (h : params t = []) (bound : Nat) :
    render d bound t = render d 0 t := by
  induction t with
  | nil => rfl
  | cons segment t ih =>
    cases segment with
    | text s => exact congrArg (s ++ ·) (ih h)
    | hole value => cases h

theorem params_head (s : Select) : params (headWording d s) = [] := by
  simp [headWording, params, Template.params_texts]

theorem params_grouped (s : Select) : params (groupedWording d s) = [] := by
  obtain ⟨table, columns, joins, filter, groupBy, orderBy, limit⟩ := s
  cases limit <;> simp [groupedWording, orderedWording, limitWording, Template.params_append,
    params_clause, Template.params_separated_texts, params]

/-- The texts of the conditions with their keyword in front. -/
def conditionClause (d : Dialect) (cs : List Condition) : String :=
  if cs = [] then "" else " WHERE " ++ " AND ".intercalate (conditionTexts d 0 cs)

theorem render_conditionClause {cs : List Condition} (h : ∀ c ∈ cs, c.Balanced) :
    render d 0 (clause " WHERE " " AND " (cs.map (Condition.wording d))) = conditionClause d cs := by
  by_cases hnone : cs = []
  · rw [hnone]
    rfl
  · rw [clause, if_neg (by simpa using hnone), render, render_conditions 0 h, conditionClause,
      if_neg hnone]

/-- A select is written with its conditions between what is selected and how it is grouped, ordered and
cut off. -/
theorem serialize_select_fst (h : ∀ c ∈ s.filter, c.Balanced) :
    ((Statement.select s).serialize d []).1 = render d 0 (headWording d s) ++
      conditionClause d s.filter ++ (render d 0 (groupedWording d s) ++ ";") := by
  have htext : ((Statement.select s).serialize d []).1 = render d 0 (s.wording d ++ [.text ";"]) := by
    simp [Statement.serialize, Statement.wording, Template.render_append, render]
  rw [htext, wording_eq, Template.render_append, params_head, Template.render_append,
    List.length_nil, Nat.add_zero, render_conditionClause h, Template.render_append,
    render_of_params_eq_nil (params_grouped s)]
  simp [render, String.append_assoc]

theorem serialize_select (h : ∀ c ∈ s.filter, c.Balanced) (hne : s.filter ≠ []) :
    ((Statement.select s).serialize d []).1 = render d 0 (headWording d s) ++ " WHERE " ++
      " AND ".intercalate (conditionTexts d 0 s.filter) ++ render d 0 (groupedWording d s) ++ ";" := by
  rw [serialize_select_fst h, conditionClause, if_neg hne]
  simp only [String.append_assoc]

end Sql

end RecordMapper
