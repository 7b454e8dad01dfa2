import RecordMapper.Proofs.Session.Traversal
import RecordMapper.Proofs.Sql.Conditions

/-!
# The scope of a relation

A relation can be refined at will, but never out of its scope: the conditions that it started with stay
in front of all others. For the records that belong to another one this is the condition on the foreign
key, which every chain of refinements leaves in the first place, with the key bound to the first
placeholder.
-/

namespace RecordMapper

variable {s : Session}

theorem Relation.refineAll_eq (rel : Relation) (chain : List Refinement) :
    rel.refineAll chain = ⟨rel.model, rel.query.refineAll chain⟩ := by
  induction chain generalizing rel with
  | nil => rfl
  | cons step chain ih => exact ih (rel.refine step)

theorem Record.collection_of_key {record : Record} {name : String} {resolved : ResolvedAssociation}
    {key : Value} (hkey : record.key? = some key)
    (hresolve : s.registry.resolve record.model name = .ok resolved)
    (hkind : resolved.kind = .hasMany) : record.collection s name =
      .ok (Relation.whereEquals resolved.target resolved.foreignKey key) := by
  have hpresent : record.present? resolved.ownerKey = some key := by
    rw [ResolvedAssociation.ownerKey, hkind, ResolvedAssociation.owner_eq hresolve]
    exact hkey
  refine Record.collection_eq_ok.mpr ⟨resolved, key, hresolve, hkind, hpresent, ?_⟩
  rw [ResolvedAssociation.targetKey, hkind]

namespace Sql

variable {r : Registry} {m : Model} {q : Query} {t : Select} {name : String} {key : Value}

/-- A query that asks for a value first is lowered to a select that asks for it first, cast to the
type of its attribute. -/
theorem filter_of_lower_equals (hm : r.get q.model = .ok m) (hkey : key.isNull = false)
    (hfirst : [.equals name key] <+: q.filter.toList) (h : lower r (.query q) = .ok (.select t)) :
    ∃ a w rest, m.attribute? name = some a ∧ a.type.cast key = .ok w ∧ w.isNull = false ∧
      t.filter = .equals (if t.joins = [] then ⟨none, name⟩ else .qualified m.tableName name) w :: rest := by
  obtain ⟨m', hm', hlower⟩ := lower_query_eq_ok.mp h
  rw [hm] at hm'
  cases hm'
  obtain ⟨joins, _, _, filter, _, -, -, -, -, hfilter, -, rfl⟩ := lowerQuery_eq_ok.mp hlower
  obtain ⟨others, hothers⟩ := hfirst
  rw [← hothers, mapM_eq_ok] at hfilter
  cases hfilter with
  | @cons _ c _ rest hc _ =>
    obtain ⟨a, w, ha, hw, rfl⟩ := Scope.condition_equals_eq_ok.mp hc
    have hnull : w.isNull = false := (ValueType.isNull_of_cast? hw).trans hkey
    refine ⟨a, w, rest, ha, ValueType.cast_eq_ok.mpr hw, hnull, ?_⟩
    rw [if_neg (by rw [hnull]; exact Bool.false_ne_true), ← (Model.mem_of_attribute? ha).2]
    cases joins with
    | nil => rfl
    | cons join joins => rfl

end Sql

/-- Whatever a relation is refined to, the conditions that it had are the first ones, written with the
table of its model if the first join came in between. Records that belong to another one are so always
asked for by its key first, and all other conditions come after an `AND`, a raw one in parentheses. The
fragment in them is not read, so one with unbalanced parentheses is not kept apart by those written
around it. -/
theorem refineAll_keeps_scope (hr : s.registry.Consistent) :
    (∀ (rel : Relation) (chain : List Refinement) (t t' : Sql.Select),
      Sql.lower s.registry (.query rel.query) = .ok (.select t) →
      Sql.lower s.registry (.query (rel.refineAll chain).query) = .ok (.select t') →
      (if t.joins = [] ∧ t'.joins ≠ [] then t.filter.map (Sql.Condition.qualify t.table)
        else t.filter) <+: t'.filter) ∧
    ∀ (record : Record) (name : String) (resolved : ResolvedAssociation) (key : Value),
      record.key? = some key → s.registry.resolve record.model name = .ok resolved →
      resolved.kind = .hasMany →
      ∃ rel, record.collection s name = .ok rel ∧
        ∀ (chain : List Refinement) (d : Dialect) (text : String) (params : List Value),
          Sql.compile s.registry (.query (rel.refineAll chain).query) d = .ok (text, params) →
          ∃ t a w rest,
            Sql.lower s.registry (.query (rel.refineAll chain).query) = .ok (.select t) ∧
            resolved.target.attribute? resolved.foreignKey = some a ∧ a.type.cast key = .ok w ∧
            w.isNull = false ∧
            t.filter = .equals (if t.joins = [] then ⟨none, resolved.foreignKey⟩
              else .qualified resolved.target.tableName resolved.foreignKey) w :: rest ∧
            params = w :: rest.flatMap Sql.Condition.boundValues ∧
            text = Sql.Template.render d 0 (Sql.headWording d t) ++ " WHERE " ++
              " AND ".intercalate (Sql.conditionTexts d 0 t.filter) ++
              Sql.Template.render d 0 (Sql.groupedWording d t) ++ ";" := by
  constructor
  · intro rel chain t t' ht ht'
    rw [Relation.refineAll_eq] at ht'
    exact Sql.filter_prefix_of_lower (rel.query.refines_refineAll chain) ht ht'
  · intro record name resolved key hkey hresolve hkind
    refine ⟨_, Record.collection_of_key hkey hresolve hkind, ?_⟩
    intro chain d text params hcompile
    have hrefines := (Relation.whereEquals resolved.target resolved.foreignKey key).query.refines_refineAll
      chain
    rw [Relation.refineAll_eq] at hcompile ⊢
    obtain ⟨lowered, hlower, hout⟩ := map_eq_ok.mp hcompile
    obtain ⟨t, rfl, -⟩ := Sql.exists_select_of_lower hlower
    have htarget : s.registry.get resolved.target.name = .ok resolved.target :=
      Registry.get_name hr.nodup (ResolvedAssociation.target_mem hresolve)
    have hpresent : record.present? record.model.primaryKey = some key := hkey
    have hnull : key.isNull = false := (Record.present?_eq_some.mp hpresent).2
    obtain ⟨a, w, rest, ha, hw, hwnull, hfilter⟩ := Sql.filter_of_lower_equals
      (by rw [hrefines.model]; exact htarget) hnull hrefines.filter hlower
    refine ⟨t, a, w, rest, hlower, ha, hw, hwnull, hfilter, ?_, ?_⟩
    · have hparams : params = t.filter.flatMap Sql.Condition.boundValues := by
        rw [(Sql.serialize_of_lower hlower d []).1] at hout
        exact (Prod.ext_iff.mp hout).2.symm
      rw [hparams, hfilter]
      rfl
    · have hne : t.filter ≠ [] := by
        rw [hfilter]
        exact List.cons_ne_nil _ _
      rw [← Sql.serialize_select (Sql.balanced_of_lower hlower) hne, hout]

namespace Bookshop

/-- A session with authors and books. -/
def session : Session := { Session.withDrivers [] with registry }

/-- An author in the database. -/
def novelist : Record := ⟨author, .ofList [("id", .int 7), ("name", .text "Emma")], .persisted, none⟩

/-- The early and the late ones. -/
def earlyOrLate : List Refinement := [.filter (.raw "year < ? OR year > ?" [.int 1814, .int 1816])]

/-- The books of an author stay hers under a condition with an `OR` in it. -/
theorem earlyOrLate_keeps_scope : session.registry.Consistent ∧
    ∃ rel, novelist.collection session "books" = .ok rel ∧
      Sql.compile session.registry (.query (rel.refineAll earlyOrLate).query) .sqlite =
        .ok ("SELECT \"uid\", \"title\", \"year\", \"rating\", \"author_id\" FROM \"books\"" ++
          " WHERE \"author_id\" = ?1 AND (year < ?2 OR year > ?3);", [.int 7, .int 1814, .int 1816]) ∧
      ∃ t w rest, Sql.lower session.registry (.query (rel.refineAll earlyOrLate).query) =
          .ok (.select t) ∧
        t.filter = .equals (if t.joins = [] then ⟨none, "author_id"⟩
          else .qualified book.tableName "author_id") w :: rest := by
  have hkey : novelist.key? = some (.int 7) := by decide
  have hresolve : session.registry.resolve novelist.model "books" =
      .ok ⟨.hasMany, "books", author, book, "author_id"⟩ := by decide +kernel
  obtain ⟨rel, hrel, hscope⟩ :=
    (refineAll_keeps_scope consistent).2 novelist "books" _ (.int 7) hkey hresolve rfl
  have hbooks : rel = Relation.whereEquals book "author_id" (.int 7) :=
    Except.ok.inj (hrel.symm.trans (Record.collection_of_key hkey hresolve rfl))
  have hcompile : Sql.compile session.registry (.query (rel.refineAll earlyOrLate).query) .sqlite =
      .ok ("SELECT \"uid\", \"title\", \"year\", \"rating\", \"author_id\" FROM \"books\"" ++
        " WHERE \"author_id\" = ?1 AND (year < ?2 OR year > ?3);", [.int 7, .int 1814, .int 1816]) := by
    rw [hbooks]
    decide +kernel
  obtain ⟨t, _, w, rest, hlower, -, -, -, hfilter, -⟩ := hscope earlyOrLate .sqlite _ _ hcompile
  exact ⟨consistent, rel, hrel, hcompile, t, w, rest, hlower, hfilter⟩

end Bookshop

end RecordMapper
