import RecordMapper.Proofs.Sql.Lowering

/-!
# The tables of a select

A select reads from the table of its model and from those of the targets of its joins. Joins are told
apart by the spelling of the association and tables by their names, so these tables are pairwise
different only if every join leads to a model of its own and all of these models have tables of their own
(`tables_nodup_iff`). A second join of an association is dropped under the same spelling and not under
another one.
-/

namespace RecordMapper

/-- The association that the name stands for leads to the target. -/
def Registry.LeadsTo (r : Registry) (owner : Model) (name : String) (target : Model) : Prop :=
  ∃ declared, owner.association? name = some declared ∧ r.get declared.target = .ok target

namespace Sql

variable {r : Registry} {m : Model} {q : Query} {s : Select} {name other : String} {j : Join}

theorem lower_query_eq_ok : lower r (.query q) = .ok (.select s) ↔
    ∃ m, r.get q.model = .ok m ∧ lowerQuery r m q = .ok s := by
  rw [lower_eq_ok]
  refine exists_congr fun m => and_congr_right fun _ => ?_
  simp [lowerFor, map_eq_ok]

/-! ## Joins and their targets -/

theorem target_of_lowerJoin (h : lowerJoin r m name = .ok j) :
    ∃ target, r.LeadsTo m name target ∧ target.name ≠ m.name ∧ target.tableName = j.table := by
  obtain ⟨resolved, hresolve, hother, rfl⟩ := lowerJoin_eq_ok.mp h
  obtain ⟨declared, target, hdeclared, htarget, rfl, _, _⟩ := Registry.resolve_eq_ok.mp hresolve
  exact ⟨target, ⟨declared, hdeclared, htarget⟩, hother, rfl⟩

theorem targets_of_lowerJoin {names : List String} {joins : List Join}
    (h : List.Forall₂ (fun name j => lowerJoin r m name = .ok j) names joins) :
    ∃ targets, List.Forall₂ (r.LeadsTo m) names targets ∧ (∀ t ∈ targets, t.name ≠ m.name) ∧
      targets.map Model.tableName = joins.map Join.table := by
  induction h with
  | nil => exact ⟨[], .nil, List.forall_mem_nil _, rfl⟩
  | @cons name j names joins hjoin _ ih =>
    obtain ⟨target, hleads, hother, htable⟩ := target_of_lowerJoin hjoin
    obtain ⟨targets, hall, hothers, htables⟩ := ih
    refine ⟨target :: targets, .cons hleads hall, List.forall_mem_cons.mpr ⟨hother, hothers⟩, ?_⟩
    rw [List.map_cons, List.map_cons, htable, htables]

/-- Two spellings of an association make the same join. -/
theorem lowerJoin_of_association? (h : lowerJoin r m name = .ok j)
    (hsame : m.association? other = m.association? name) : lowerJoin r m other = .ok j := by
  obtain ⟨resolved, hresolve, hother, rfl⟩ := lowerJoin_eq_ok.mp h
  have hagain : r.resolve m other = .ok resolved := by
    rw [Registry.resolve_eq_ok, hsame]
    exact Registry.resolve_eq_ok.mp hresolve
  exact lowerJoin_eq_ok.mpr ⟨resolved, hagain, hother, rfl⟩

/-! ## Tables -/

/-- The tables that a select reads from, its own first. -/
def Select.tables (s : Select) : List String := s.table :: s.joins.map Join.table

/-- The select is about a model and joins the targets of the query's associations to it, all of which
are other models. -/
structure Joins (r : Registry) (q : Query) (s : Select) (m : Model) (targets : List Model) : Prop where
  model : r.get q.model = .ok m
  leads : List.Forall₂ (r.LeadsTo m) q.joins.toList targets
  others : ∀ t ∈ targets, t.name ≠ m.name
  tables : s.tables = (m :: targets).map Model.tableName

theorem exists_joins (h : lower r (.query q) = .ok (.select s)) :
    ∃ m targets, Joins r q s m targets ∧ lowerQuery r m q = .ok s := by
  obtain ⟨m, hm, hquery⟩ := lower_query_eq_ok.mp h
  obtain ⟨joins, _, _, _, _, hjoins, _, _, _, _, _, hs⟩ := lowerQuery_eq_ok.mp hquery
  obtain ⟨targets, hleads, hothers, htables⟩ := targets_of_lowerJoin (mapM_eq_ok.mp hjoins)
  refine ⟨m, targets, ⟨hm, hleads, hothers, ?_⟩, hquery⟩
  rw [← hs, List.map_cons, htables]
  rfl

variable {targets : List Model}

theorem Joins.nodup_iff (h : Joins r q s m targets) : s.tables.Nodup ↔ targets.Nodup ∧
    ∀ a ∈ m :: targets, ∀ b ∈ m :: targets, a.tableName = b.tableName → a = b := by
  rw [h.tables]
  constructor
  · intro hnodup
    exact ⟨(List.nodup_cons.mp hnodup.of_map).2, List.inj_on_of_nodup_map hnodup⟩
  · rintro ⟨hnodup, hinj⟩
    have hnot : m ∉ targets := fun hm => h.others m hm rfl
    exact (List.nodup_map_iff_inj_on (List.nodup_cons.mpr ⟨hnot, hnodup⟩)).mpr hinj

theorem refine_join_of_mem (h : name ∈ q.joins.toList) : q.refine (.join name) = q := by
  show { q with joins := q.joins.pushNew name } = q
  rw [Trail.pushNew_of_mem h]

theorem toList_refine_join (h : name ∉ q.joins.toList) :
    (q.refine (.join name)).joins.toList = q.joins.toList ++ [name] := by
  show (q.joins.pushNew name).toList = _
  rw [Trail.pushNew_of_notMem h, Trail.toList_push]

theorem lowerJoin_of_mem (h : lowerQuery r m q = .ok s) (hname : name ∈ q.joins.toList) :
    ∃ j ∈ s.joins, lowerJoin r m name = .ok j := by
  obtain ⟨joins, _, _, _, _, hjoins, _, _, _, _, _, rfl⟩ := lowerQuery_eq_ok.mp h
  exact exists_of_mem_of_mapM hjoins hname

/-- Under another spelling an association is joined once more. -/
theorem lowerQuery_join (h : lowerQuery r m q = .ok s) (hname : name ∈ q.joins.toList)
    (hother : other ∉ q.joins.toList) (hsame : m.association? other = m.association? name)
    (hj : lowerJoin r m name = .ok j) :
    lowerQuery r m (q.refine (.join other)) = .ok { s with joins := s.joins ++ [j] } := by
  obtain ⟨joins, columns, groupBy, filter, orderBy, hjoins, hcolumns, hgrouping, hgroup, hfilter,
    horder, rfl⟩ := lowerQuery_eq_ok.mp h
  have hmore : (q.refine (.join other)).joins.toList.mapM (lowerJoin r m) = .ok (joins ++ [j]) := by
    rw [toList_refine_join hother, List.mapM_append, hjoins, List.mapM_cons, List.mapM_nil,
      lowerJoin_of_association? hj hsame]
    rfl
  -- the association was joined before, so all columns were written with their tables already
  have hqualified : (joins ++ [j]).isEmpty = joins.isEmpty := by
    obtain ⟨j', hj', _⟩ := exists_of_mem_of_mapM hjoins hname
    rw [List.isEmpty_eq_false_iff.mpr (List.ne_nil_of_mem hj')]
    simp
  refine lowerQuery_eq_ok.mpr ⟨joins ++ [j], columns, groupBy, filter, orderBy, hmore, ?_⟩
  rw [hqualified]
  exact ⟨hcolumns, hgrouping, hgroup, hfilter, horder, rfl⟩

/-- The tables of a select are pairwise different just if its joins lead to different models and all
models of the select have tables of their own. Joining an association once more changes nothing under
the same spelling, and under another one it is accepted and reads a table twice. -/
theorem tables_nodup_iff (h : lower r (.query q) = .ok (.select s)) :
    ∃ m targets, Joins r q s m targets ∧
      (s.tables.Nodup ↔ targets.Nodup ∧
        ∀ a ∈ m :: targets, ∀ b ∈ m :: targets, a.tableName = b.tableName → a = b) ∧
      ∀ name ∈ q.joins.toList, q.refine (.join name) = q ∧
        ∀ other ∉ q.joins.toList, m.association? other = m.association? name →
          ∃ s', lower r (.query (q.refine (.join other))) = .ok (.select s') ∧ ¬s'.tables.Nodup := by
  obtain ⟨m, targets, hjoins, hquery⟩ := exists_joins h
  refine ⟨m, targets, hjoins, hjoins.nodup_iff, fun name hname => ⟨refine_join_of_mem hname, ?_⟩⟩
  intro other hother hsame
  obtain ⟨j, hj, hlower⟩ := lowerJoin_of_mem hquery hname
  have hmore := lowerQuery_join hquery hname hother hsame hlower
  refine ⟨_, lower_query_eq_ok.mpr ⟨m, hjoins.model, hmore⟩, ?_⟩
  intro hnodup
  have htables : (s.joins.map Join.table ++ [j.table]).Nodup := by
    have htail := (List.nodup_cons.mp hnodup).2
    rwa [List.map_append] at htail
  have happart := (List.nodup_append.mp htables).2.2
  exact happart _ (List.mem_map_of_mem hj) _ (List.mem_singleton_self _) rfl

end Sql

namespace Bookshop

/-- The titles of all books that have an author. -/
def authoredBooks : Query := (Query.all "book").refineAll [.select ["title"], .join "author"]

/-- The join from books to their authors. -/
def authorJoin : Sql.Join where
  table := author.tableName
  left := .qualified author.tableName "id"
  right := .qualified book.tableName "author_id"

/-- The select for `authoredBooks`, with so many joins. -/
def authoredSelect (joins : List Sql.Join) : Sql.Select where
  table := book.tableName
  columns := [.qualified book.tableName "title"]
  joins := joins
  filter := []
  groupBy := []
  orderBy := []
  limit := none

theorem lowerQuery_authoredBooks :
    Sql.lowerQuery registry book authoredBooks = .ok (authoredSelect [authorJoin]) := rfl

theorem lower_authoredBooks :
    Sql.lower registry (.query authoredBooks) = .ok (.select (authoredSelect [authorJoin])) := rfl

theorem association?_authors : book.association? "authors" = book.association? "author" := by
  decide +kernel

/-- An author is joined, and joined again under the plural of the name. -/
theorem authors_joined_twice : registry.Declared ∧
    Sql.lower registry (.query (authoredBooks.refine (.join "authors"))) =
      .ok (.select (authoredSelect [authorJoin, authorJoin])) ∧
    ¬(authoredSelect [authorJoin, authorJoin]).tables.Nodup := by
  refine ⟨declared, ?_, fun hnodup => ?_⟩
  · have hmore := Sql.lowerQuery_join lowerQuery_authoredBooks (List.mem_singleton_self "author")
      (by decide) association?_authors rfl
    exact Sql.lower_query_eq_ok.mpr ⟨book, rfl, hmore⟩
  · have happart := (List.nodup_cons.mp (List.nodup_cons.mp hnodup).2).1
    exact happart (List.mem_singleton_self _)

theorem authoredSelect_tables :
    Sql.lower registry (.query authoredBooks) = .ok (.select (authoredSelect [authorJoin])) ∧
    ∃ m targets, Sql.Joins registry authoredBooks (authoredSelect [authorJoin]) m targets ∧
      ((authoredSelect [authorJoin]).tables.Nodup ↔ targets.Nodup ∧
        ∀ a ∈ m :: targets, ∀ b ∈ m :: targets, a.tableName = b.tableName → a = b) ∧
      ∀ name ∈ authoredBooks.joins.toList, authoredBooks.refine (.join name) = authoredBooks ∧
        ∀ other ∉ authoredBooks.joins.toList, m.association? other = m.association? name →
          ∃ s', Sql.lower registry (.query (authoredBooks.refine (.join other))) =
            .ok (.select s') ∧ ¬s'.tables.Nodup :=
  ⟨lower_authoredBooks, Sql.tables_nodup_iff lower_authoredBooks⟩

end Bookshop

end RecordMapper
