import RecordMapper.Proofs.Schema.Definitions
import RecordMapper.Proofs.Sql.Lowering
import RecordMapper.Sql.Compile

/-!
# Statements as models are defined

Lowering asks the registry only for models by name. Two registries that find the same models
therefore compile every statement alike, errors included, and what one registry compiles, every
registry that extends it compiles to the same text and parameters.

The order of definitions thus never matters. A later definition keeps the meaning of earlier
statements if the new name was no spelling of an earlier model. That needs a condition past ASCII:
the small form of `İzmir` spells `i_zmir` as long as there is no model of exactly this name.
-/

namespace RecordMapper

namespace Sql

variable {r r' : Registry}

/-! ## Registries that find the same models -/

theorem resolve_eq_of_get (h : r.get = r'.get) : r.resolve = r'.resolve := by
  funext owner association
  unfold Registry.resolve
  rw [h]

theorem lower_eq_of_get (h : r.get = r'.get) : lower r = lower r' := by
  have hjoin : lowerJoin r = lowerJoin r' := by
    funext m association
    unfold lowerJoin
    rw [resolve_eq_of_get h]
  have hquery : lowerQuery r = lowerQuery r' := by
    funext m q
    unfold lowerQuery
    rw [hjoin]
  funext s
  unfold lower
  rw [h]
  refine congrArg _ (funext fun m => ?_)
  cases s with
  | query q => rw [lowerFor, lowerFor, hquery]
  | insert model values => rfl
  | update model key values => rfl
  | delete model key => rfl
  | createTable model => rfl

theorem compile_eq_of_get (h : r.get = r'.get) : compile r = compile r' := by
  funext s d
  rw [compile, compile, lower_eq_of_get h]

/-! ## Registries that extend another one -/

theorem lowerJoin_of_extendedBy (hr : r.ExtendedBy r') {m : Model} {association : String} {j : Join}
    (h : lowerJoin r m association = .ok j) : lowerJoin r' m association = .ok j := by
  obtain ⟨resolved, hres, hrest⟩ := lowerJoin_eq_ok.mp h
  exact lowerJoin_eq_ok.mpr ⟨resolved, hr.resolve hres, hrest⟩

theorem lowerQuery_of_extendedBy (hr : r.ExtendedBy r') {m : Model} {q : Query} {t : Select}
    (h : lowerQuery r m q = .ok t) : lowerQuery r' m q = .ok t := by
  obtain ⟨joins, columns, groupBy, filter, orderBy, hjoins, hrest⟩ := lowerQuery_eq_ok.mp h
  have hjoins' : q.joins.toList.mapM (lowerJoin r' m) = .ok joins := by
    rw [mapM_eq_ok] at hjoins ⊢
    exact hjoins.imp fun _ _ hj => lowerJoin_of_extendedBy hr hj
  exact lowerQuery_eq_ok.mpr ⟨joins, columns, groupBy, filter, orderBy, hjoins', hrest⟩

theorem lower_of_extendedBy (hr : r.ExtendedBy r') {s : RecordMapper.Statement} {t : Statement}
    (h : lower r s = .ok t) : lower r' s = .ok t := by
  obtain ⟨m, hm, hfor⟩ := lower_eq_ok.mp h
  refine lower_eq_ok.mpr ⟨m, hr _ _ hm, ?_⟩
  cases s with
  | query q =>
    obtain ⟨select, hselect, rfl⟩ := map_eq_ok.mp hfor
    exact map_eq_ok.mpr ⟨select, lowerQuery_of_extendedBy hr hselect, rfl⟩
  | insert model values => exact hfor
  | update model key values => exact hfor
  | delete model key => exact hfor
  | createTable model => exact hfor

theorem compile_of_extendedBy (hr : r.ExtendedBy r') {s : RecordMapper.Statement} {d : Dialect}
    {out : String × List Value} (h : compile r s d = .ok out) : compile r' s d = .ok out := by
  obtain ⟨t, ht, hout⟩ := map_eq_ok.mp h
  exact map_eq_ok.mpr ⟨t, lower_of_extendedBy hr ht, hout⟩

/-! ## Orders of definition and later definitions -/

/-- Models of different names can be defined in any order, with the same meaning of every statement
and association; and a further definition, under a name in ASCII or under one that spelled no model
so far, leaves the meaning of every statement that had one. -/
theorem compile_defineAll {ms : List Model} (hnodup : (ms.map Model.name).Nodup) :
    (∀ ms', ms.Perm ms' → ∃ r r', Registry.empty.defineAll ms = .ok r ∧
      Registry.empty.defineAll ms' = .ok r' ∧ (∀ s d, compile r s d = compile r' s d) ∧
      (∀ name, r.get name = r'.get name) ∧
      ∀ owner association, r.resolve owner association = r'.resolve owner association) ∧
    ∀ r, Registry.empty.defineAll ms = .ok r → ∀ m r', r.define m = .ok r' →
      m.DeclaredInAscii ∨ r.contains m.name = false →
        ∀ s d out, compile r s d = .ok out → compile r' s d = .ok out := by
  constructor
  · intro ms' hperm
    have hnodup' : (ms'.map Model.name).Nodup := (hperm.map _).nodup_iff.mp hnodup
    have hget : Registry.get ⟨ms⟩ = Registry.get ⟨ms'⟩ := Registry.get_eq_of_perm hnodup hperm
    refine ⟨⟨ms⟩, ⟨ms'⟩, Registry.defineAll_of_nodup hnodup, Registry.defineAll_of_nodup hnodup', ?_, ?_, ?_⟩
    · intro s d
      rw [compile_eq_of_get hget]
    · intro name
      rw [hget]
    · intro owner association
      rw [resolve_eq_of_get hget]
  · intro r _ m r' hdefine hname s d out hout
    have hnew : r.contains m.name = false :=
      hname.elim (fun hascii => Registry.contains_of_define hascii hdefine) id
    exact compile_of_extendedBy (Registry.extendedBy_of_define hnew hdefine) hout

end Sql

namespace Bookshop

open Sql

/-- Authors and books mean the same in both orders, and what was said about authors alone means the
same when books are there. -/
theorem compile_registry :
    (∀ s d, compile ⟨[author, book]⟩ s d = compile ⟨[book, author]⟩ s d) ∧
      ∀ s d out, compile ⟨[author]⟩ s d = .ok out → compile ⟨[author, book]⟩ s d = .ok out := by
  have hboth : ([author, book].map Model.name).Nodup := by decide
  have hauthor : ([author].map Model.name).Nodup := by decide
  constructor
  · obtain ⟨r, r', hr, hr', hcompile, -⟩ :=
      (compile_defineAll hboth).1 [book, author] (List.Perm.swap book author [])
    cases hr
    cases hr'
    exact hcompile
  · exact (compile_defineAll hauthor).2 ⟨[author]⟩ rfl book ⟨[author, book]⟩ rfl
      (.inl (declaredInAscii book (by simp [registry])))

end Bookshop

/-! ## A name past ASCII -/

namespace Cities

open Sql

/-- A model whose name is in ASCII. -/
def plain : Model where
  name := "i_zmir"
  attributes := [{ name := "id", type := .integer, nullable := false },
    { name := "title", type := .string }]
  primaryKey := "id"
  associations := []
  connection := "primary"

/-- A model whose name, small `i` with a dot set above it and `zmir`, spells the other one. -/
def dotted : Model where
  name := "i\u0307zmir"
  attributes := [{ name := "id", type := .integer, nullable := false },
    { name := "name", type := .string }]
  primaryKey := "id"
  associations := []
  connection := "primary"

theorem declaredInAscii_plain : plain.DeclaredInAscii :=
  ⟨"IZmir", [.attr { name := "title", type := .string }], by decide +kernel,
    Declaration.build_eq_ok.mpr (by decide +kernel)⟩

theorem declared_dotted : dotted.Declared :=
  ⟨"\u0130zmir", [.attr { name := "name", type := .string }],
    Declaration.build_eq_ok.mpr (by decide +kernel)⟩

/-- Under any name that can be defined, a further model may take over a statement about an earlier
one: the name that spelled the plain model is the exact name of the dotted one. -/
theorem not_compile_of_define :
    ¬∀ ms : List Model, (∀ m ∈ ms, m.DeclaredInAscii) → (ms.map Model.name).Nodup →
      ∀ r, Registry.empty.defineAll ms = .ok r → ∀ m r', m.Declared → r.define m = .ok r' →
        ∀ s d out, compile r s d = .ok out → compile r' s d = .ok out := by
  intro h
  have hbefore : compile ⟨[plain]⟩ (.query (.all dotted.name)) .sqlite =
      .ok ("SELECT \"id\", \"title\" FROM \"i_zmirs\";", []) := by decide +kernel
  have hafter := h [plain] (List.forall_mem_singleton.mpr declaredInAscii_plain)
    (List.nodup_singleton _) ⟨[plain]⟩ rfl dotted ⟨[plain, dotted]⟩ declared_dotted rfl _ _ _ hbefore
  exact absurd hafter (by decide +kernel)

end Cities

end RecordMapper
