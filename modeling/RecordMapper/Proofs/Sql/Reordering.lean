import Mathlib.Data.List.Perm.Basic
import RecordMapper.Proofs.Sql.Conditions

/-!
# The order of conditions

The conditions of a query are lowered one by one and each on its own, so taking them in another order
takes the lowered conditions in that order and changes nothing else of the select. What does change is
the number of every placeholder: a condition counts on from the values of all conditions before it. The
parameters move along with their conditions, so that each placeholder still stands for a value of its
own condition (`Select.Denotes`).
-/

namespace RecordMapper

/-! ## Taking a list in another order -/

section Rearranging

variable {α β : Type}

/-- The items at the given positions, one after the other. -/
def rearrange (order : List Nat) (xs : List α) : List α := order.filterMap fun i => xs[i]?

theorem map_rearrange (f : α → β) (order : List Nat) (xs : List α) :
    (rearrange order xs).map f = rearrange order (xs.map f) := by
  simp [rearrange, List.map_filterMap]

theorem rearrange_range (xs : List α) : rearrange (List.range xs.length) xs = xs := by
  induction xs with
  | nil => rfl
  | cons x xs ih =>
    rw [rearrange, List.length_cons, List.range_succ_eq_map,
      List.filterMap_cons_some List.getElem?_cons_zero, List.filterMap_map]
    exact congrArg (x :: ·) ih

/-- With every position taken once no item is lost and none comes twice. -/
theorem perm_rearrange {order : List Nat} {xs : List α} (h : order.Perm (List.range xs.length)) :
    (rearrange order xs).Perm xs := by
  have hperm := h.filterMap fun i => xs[i]?
  exact hperm.trans (List.Perm.of_eq (rearrange_range xs))

theorem getElem?_rearrange {order : List Nat} {xs : List α} (h : ∀ i ∈ order, i < xs.length)
    (place : Nat) : (rearrange order xs)[place]? = order[place]?.bind fun i => xs[i]? := by
  induction order generalizing place with
  | nil => rfl
  | cons i order ih =>
    obtain ⟨hi, horder⟩ := List.forall_mem_cons.mp h
    rw [rearrange, List.filterMap_cons_some (List.getElem?_eq_getElem hi)]
    cases place with
    | zero => exact (List.getElem?_eq_getElem hi).symm
    | succ place => exact ih horder place

/-- Items that are related to one another stay so in any order. -/
theorem forall₂_rearrange {related : α → β → Prop} {xs : List α} {ys : List β}
    (h : List.Forall₂ related xs ys) (order : List Nat) :
    List.Forall₂ related (rearrange order xs) (rearrange order ys) := by
  obtain ⟨hlength, hrelated⟩ := List.forall₂_iff_get.mp h
  induction order with
  | nil => exact .nil
  | cons i order ih =>
    by_cases hi : i < xs.length
    · have hi' : i < ys.length := hlength ▸ hi
      rw [rearrange, rearrange, List.filterMap_cons_some (List.getElem?_eq_getElem hi),
        List.filterMap_cons_some (List.getElem?_eq_getElem hi')]
      exact .cons (hrelated i hi hi') ih
    · have hi' : ¬i < ys.length := hlength ▸ hi
      rw [rearrange, rearrange, List.filterMap_cons_none (List.getElem?_eq_none (Nat.not_lt.mp hi)),
        List.filterMap_cons_none (List.getElem?_eq_none (Nat.not_lt.mp hi'))]
      exact ih

/-- A pass over a list in another order has its results in that order. -/
theorem mapM_rearrange {ε : Type} {f : α → Except ε β} {xs : List α} {ys : List β}
    (h : xs.mapM f = .ok ys) (order : List Nat) :
    (rearrange order xs).mapM f = .ok (rearrange order ys) := by
  rw [mapM_eq_ok] at h ⊢
  exact forall₂_rearrange h order

end Rearranging

/-- The query with its conditions in another order. -/
def Query.rearranged (order : List Nat) (q : Query) : Query :=
  { q with filter := .ofList (rearrange order q.filter.toList) }

theorem Query.toList_rearranged (order : List Nat) (q : Query) :
    (q.rearranged order).filter.toList = rearrange order q.filter.toList := Trail.toList_ofList _

namespace Sql

/-- The select with its conditions in another order. -/
def Select.rearranged (order : List Nat) (s : Select) : Select :=
  { s with filter := rearrange order s.filter }

variable {r : Registry} {m : Model} {q : Query} {s : Select} {order : List Nat} {d : Dialect}

/-! ## Lowering -/

theorem lowerQuery_rearranged (h : lowerQuery r m q = .ok s) (order : List Nat) :
    lowerQuery r m (q.rearranged order) = .ok (s.rearranged order) := by
  obtain ⟨joins, columns, groupBy, filter, orderBy, hjoins, hcolumns, hgrouping, hgroup, hfilter,
    horder, rfl⟩ := lowerQuery_eq_ok.mp h
  have hrearranged := mapM_rearrange hfilter order
  rw [← Query.toList_rearranged] at hrearranged
  exact lowerQuery_eq_ok.mpr ⟨joins, columns, groupBy, rearrange order filter, orderBy, hjoins,
    hcolumns, hgrouping, hgroup, hrearranged, horder, rfl⟩

/-- An accepted query is accepted with any conditions out of its own. -/
theorem exists_lowerQuery_of_subset {filter : Trail Predicate}
    (hfilter : filter.toList ⊆ q.filter.toList) (h : lowerQuery r m q = .ok s) :
    ∃ s', lowerQuery r m { q with filter := filter } = .ok s' := by
  obtain ⟨joins, columns, groupBy, conditions, orderBy, hjoins, hcolumns, hgrouping, hgroup,
    hconditions, horder, rfl⟩ := lowerQuery_eq_ok.mp h
  have haccepted := exists_mapM_eq_ok.mp ⟨conditions, hconditions⟩
  obtain ⟨kept, hkept⟩ := exists_mapM_eq_ok.mpr fun p hp => haccepted p (hfilter hp)
  exact ⟨_, lowerQuery_eq_ok.mpr ⟨joins, columns, groupBy, kept, orderBy, hjoins, hcolumns, hgrouping,
    hgroup, hkept, horder, rfl⟩⟩

theorem lower_rearranged (h : lower r (.query q) = .ok (.select s)) (order : List Nat) :
    lower r (.query (q.rearranged order)) = .ok (.select (s.rearranged order)) := by
  obtain ⟨m, hm, hlower⟩ := lower_query_eq_ok.mp h
  exact lower_query_eq_ok.mpr ⟨m, hm, lowerQuery_rearranged hlower order⟩

theorem exists_lower_of_rearranged (horder : order.Perm (List.range q.filter.toList.length))
    {t : Statement} (h : lower r (.query (q.rearranged order)) = .ok t) :
    ∃ t', lower r (.query q) = .ok t' := by
  obtain ⟨s, rfl, -⟩ := exists_select_of_lower h
  obtain ⟨m, hm, hlower⟩ := lower_query_eq_ok.mp h
  have hsubset : q.filter.toList ⊆ (q.rearranged order).filter.toList := by
    rw [Query.toList_rearranged]
    exact (perm_rearrange horder).symm.subset
  obtain ⟨s', hs'⟩ := exists_lowerQuery_of_subset hsubset hlower
  exact ⟨.select s', lower_query_eq_ok.mpr ⟨m, hm, hs'⟩⟩

/-! ## Placeholders -/

/-- The values that are bound before those of the condition at the place. -/
def Select.boundBefore (s : Select) (place : Nat) : List Value :=
  (s.filter.take place).flatMap Condition.boundValues

/-- In the row of conditions of the select `c` stands at the place, with one placeholder for each of its
values, and each placeholder has the number under which that value is bound. -/
structure Select.Denotes (d : Dialect) (s : Select) (place : Nat) (c : Condition) : Prop where
  text : (conditionTexts d 0 s.filter)[place]? = some (c.text d (s.boundBefore place).length)
  balanced : c.Balanced
  values : ∀ i < c.boundValues.length,
    ((Statement.select s).serialize d []).2[(s.boundBefore place).length + i]? = c.boundValues[i]?

theorem getElem?_conditionTexts (d : Dialect) (bound : Nat) (cs : List Condition) (place : Nat) :
    (conditionTexts d bound cs)[place]? = cs[place]?.map fun c =>
      c.text d (bound + ((cs.take place).flatMap Condition.boundValues).length) := by
  induction cs generalizing bound place with
  | nil => rfl
  | cons c cs ih =>
    cases place with
    | zero => rfl
    | succ place =>
      rw [conditionTexts, List.getElem?_cons_succ, List.getElem?_cons_succ, ih, List.take_succ_cons,
        List.flatMap_cons, List.length_append, Nat.add_assoc]

theorem serialize_select_snd (h : ∀ c ∈ s.filter, c.Balanced) :
    ((Statement.select s).serialize d []).2 = s.filter.flatMap Condition.boundValues := by
  have hparams := s.params_wording d h
  show [] ++ Template.params (s.wording d) = _
  rw [hparams, List.nil_append]

/-- A condition finds its values right after those of the conditions before it. -/
theorem denotes_of_getElem? (h : ∀ c ∈ s.filter, c.Balanced) {place : Nat} {c : Condition}
    (hc : s.filter[place]? = some c) : s.Denotes d place c := by
  obtain ⟨hplace, rfl⟩ := List.getElem?_eq_some_iff.mp hc
  refine ⟨?_, h _ (List.getElem_mem hplace), fun i hi => ?_⟩
  · rw [getElem?_conditionTexts, hc, Nat.zero_add]
    rfl
  · have hsplit : s.filter.flatMap Condition.boundValues = s.boundBefore place ++
        (s.filter[place].boundValues ++ (s.filter.drop (place + 1)).flatMap Condition.boundValues) := by
      rw [Select.boundBefore, ← List.flatMap_cons, ← List.drop_eq_getElem_cons hplace,
        ← List.flatMap_append, List.take_append_drop]
    rw [serialize_select_snd h, hsplit, List.getElem?_append_right (Nat.le_add_right _ _),
      Nat.add_sub_cancel_left, List.getElem?_append_left hi]

/-! ## Conditions in another order -/

/-- The two selects have the same conditions, the second one in the given order, and are written alike
apart from that. Every condition takes its values along, and where all fragments close their quotes, the
placeholders are read in order from both texts or from none of them. -/
structure Select.Rearranged (d : Dialect) (order : List Nat) (s s' : Select) : Prop where
  text : ∃ front back,
    ((Statement.select s).serialize d []).1 = front ++ conditionClause d s.filter ++ back ∧
    ((Statement.select s').serialize d []).1 = front ++ conditionClause d s'.filter ++ back
  values : ((Statement.select s).serialize d []).2 = (s.filter.map Condition.boundValues).flatten
  rearranged : ((Statement.select s').serialize d []).2 =
    (rearrange order (s.filter.map Condition.boundValues)).flatten
  denotes : ∀ place i c, order[place]? = some i → s.filter[i]? = some c →
    s.Denotes d i c ∧ s'.Denotes d place c
  bindsInOrder : d ≠ .mysql →
    (∀ fragment ∈ s.filter.filterMap Condition.fragment?, Fragment.Closed fragment) →
    ((Statement.select s).BindsInOrder d ↔ (Statement.select s').BindsInOrder d)

theorem rearranged_of_balanced (horder : order.Perm (List.range s.filter.length))
    (h : ∀ c ∈ s.filter, c.Balanced) (d : Dialect) : s.Rearranged d order (s.rearranged order) := by
  have hperm : (s.rearranged order).filter.Perm s.filter := perm_rearrange horder
  have hbalanced : ∀ c ∈ (s.rearranged order).filter, c.Balanced := fun c hc => h c (hperm.subset hc)
  have hbounds : ∀ i ∈ order, i < s.filter.length := fun i hi =>
    List.mem_range.mp (horder.subset hi)
  refine ⟨⟨_, _, serialize_select_fst h, serialize_select_fst hbalanced⟩, ?_, ?_, ?_, ?_⟩
  · rw [serialize_select_snd h, List.flatMap_def]
  · rw [serialize_select_snd hbalanced, List.flatMap_def, ← map_rearrange]
    rfl
  · intro place i c hplace hc
    have hmoved : (s.rearranged order).filter[place]? = some c := by
      rw [Select.rearranged, getElem?_rearrange hbounds, hplace]
      exact hc
    exact ⟨denotes_of_getElem? h hc, denotes_of_getElem? hbalanced hmoved⟩
  · intro hd hclosed
    -- only which fragments there are decides whether the placeholders are read in order
    have hfragments := hperm.filterMap Condition.fragment?
    have hclosed' := fun fragment hmem => hclosed fragment (hfragments.subset hmem)
    rw [bindsInOrder_select_iff hd h hclosed, bindsInOrder_select_iff hd hbalanced hclosed']
    exact forall_congr' fun fragment => imp_congr_left hfragments.mem_iff.symm

/-- A query with its conditions in another order is accepted just if the query is, and it lowers to the
same select with the conditions in that order. In every dialect the groups of values that the conditions
bind come in that order too, and each placeholder stands for the same value of its condition. -/
theorem lower_rearranged_iff (r : Registry) {q : Query} {order : List Nat}
    (horder : order.Perm (List.range q.filter.toList.length)) :
    ((∃ t, lower r (.query (q.rearranged order)) = .ok t) ↔ ∃ t, lower r (.query q) = .ok t) ∧
      ∀ t, lower r (.query q) = .ok t → ∃ s, t = .select s ∧
        lower r (.query (q.rearranged order)) = .ok (.select (s.rearranged order)) ∧
        ∀ d, s.Rearranged d order (s.rearranged order) := by
  have haccepted : ∀ t, lower r (.query q) = .ok t → ∃ s, t = .select s ∧
      lower r (.query (q.rearranged order)) = .ok (.select (s.rearranged order)) ∧
      ∀ d, s.Rearranged d order (s.rearranged order) := by
    intro t h
    obtain ⟨s, rfl, -⟩ := exists_select_of_lower h
    obtain ⟨m, -, hlower⟩ := lower_query_eq_ok.mp h
    obtain ⟨_, _, _, filter, _, -, -, -, -, hfilter, -, hs⟩ := lowerQuery_eq_ok.mp hlower
    have hlength : q.filter.toList.length = s.filter.length := by
      rw [← hs]
      exact (mapM_eq_ok.mp hfilter).length_eq
    rw [hlength] at horder
    exact ⟨s, rfl, lower_rearranged h order, rearranged_of_balanced horder (balanced_of_lower h)⟩
  refine ⟨⟨?_, ?_⟩, haccepted⟩
  · rintro ⟨t, h⟩
    exact exists_lower_of_rearranged horder h
  · rintro ⟨t, h⟩
    obtain ⟨s, -, hlower, -⟩ := haccepted t h
    exact ⟨_, hlower⟩

end Sql

namespace Bookshop

/-- Conditions with two, no and one values. -/
def centuryQuery : Query :=
  (Query.all "book").refineAll [.select ["title"],
    .filter (.raw "year >= ? AND year < ?" [.int 1800, .int 1900]),
    .filter (.equals "author_id" .null), .filter (.equals "rating" (.int 4))]

/-- The select for `centuryQuery`. -/
def centurySelect : Sql.Select where
  table := book.tableName
  columns := [⟨none, "title"⟩]
  joins := []
  filter := [.raw "year >= ? AND year < ?" [.int 1800, .int 1900], .isNull ⟨none, "author_id"⟩,
    .equals ⟨none, "rating"⟩ (.float (Binary64.ofInt64 4))]
  groupBy := []
  orderBy := []
  limit := none

theorem rearranged_centuryQuery : [2, 0, 1].Perm (List.range centuryQuery.filter.toList.length) ∧
    Sql.lower registry (.query (centuryQuery.rearranged [2, 0, 1])) =
      .ok (.select (centurySelect.rearranged [2, 0, 1])) ∧
    (Sql.Statement.select (centurySelect.rearranged [2, 0, 1])).serialize .postgresql [] =
      ("SELECT \"title\" FROM \"books\" WHERE \"rating\" = $1 AND " ++
          "(year >= $2 AND year < $3) AND \"author_id\" IS NULL;",
        [.float (Binary64.ofInt64 4), .int 1800, .int 1900]) := by
  have horder : [2, 0, 1].Perm (List.range centuryQuery.filter.toList.length) := by decide
  obtain ⟨-, haccepted⟩ := Sql.lower_rearranged_iff registry horder
  obtain ⟨s, hs, hlower, hrearranged⟩ := haccepted (.select centurySelect) rfl
  cases hs
  refine ⟨horder, hlower, Prod.ext ?_ ?_⟩
  · decide +kernel
  · exact (hrearranged .postgresql).rearranged

end Bookshop

end RecordMapper
