import RecordMapper.Proofs.Schema.Definitions
import RecordMapper.Proofs.Session.History

/-!
# The models of a session

The registry of a session changes only where a model is defined or all of them are forgotten
(`History.Step.registry`). So its models have different names and good catalogs, whatever was done to the
session (`History.Reached.wellKept`).

A declaration is put together clause by clause, from its name on (`Declaration.ofClauses`). If all
declarations of a session were, its registry is consistent (`History.ReachedByClauses.consistent`). A
declaration made in another way can have a name that no text is turned into; such a model still is well
kept.
-/

namespace RecordMapper

/-- If the action defines a model, it declares it clause by clause. -/
def Action.ByClauses : Action → Prop
  | define d => ∃ name clauses, d = .ofClauses name clauses
  | reset | establish _ _ | remove _ | lookup _ | exec _ _ _ _ | query _ _ _ _ | operate _ _ => True

/-- No two models share a name, and each has a catalog with its primary key in it. -/
structure Registry.WellKept (r : Registry) : Prop where
  nodup : (r.models.map Model.name).Nodup
  catalogued : ∀ m ∈ r.models, m.Catalogued

namespace Registry.WellKept

variable {r r' : Registry} {m : Model}

theorem empty : Registry.empty.WellKept := ⟨List.nodup_nil, List.forall_mem_nil _⟩

theorem define (hr : r.WellKept) (hm : m.Catalogued) (h : r.define m = .ok r') : r'.WellKept :=
  ⟨nodup_define hr.nodup h, forall_models_define hr.catalogued hm h⟩

/-- The models are there because they were defined in the order that they are in. -/
theorem defineAll (hr : r.WellKept) : Registry.empty.defineAll r.models = .ok r :=
  defineAll_of_nodup hr.nodup

end Registry.WellKept

namespace History

variable {h h' : History} {action : Action} {drivers : List (String × Driver)}

/-- The models change only by a definition and by forgetting them all. -/
theorem Step.registry (step : h.Step action h') :
    h'.session.registry = h.session.registry ∨ h'.session.registry = .empty ∨
      ∃ (d : Declaration) (m : Model), action = .define d ∧ d.build = .ok m ∧
        h.session.registry.define m = .ok h'.session.registry := by
  obtain ⟨log, s, given, held, runs⟩ := step
  cases action with
  | define d =>
    simp only [Action.perform] at runs
    cases hdefine : h.session.define d with
    | error e =>
      rw [hdefine] at runs
      cases (Dialogue.runs_pure.mp runs).2
      exact .inl rfl
    | ok defined =>
      rw [hdefine] at runs
      cases (Dialogue.runs_pure.mp runs).2
      unfold Session.define at hdefine
      simp only [bind_eq_ok, pure_eq_ok] at hdefine
      obtain ⟨m, hbuild, registry, hregistry, rfl⟩ := hdefine
      exact .inr (.inr ⟨d, m, rfl, hbuild, hregistry⟩)
  | reset =>
    cases (Dialogue.runs_pure.mp runs).2
    exact .inr (.inl rfl)
  | establish name config =>
    obtain ⟨⟨s', result⟩, hrun, heq⟩ := Dialogue.runs_map.mp runs
    cases heq
    rcases Session.establish_runs hrun with
      ⟨_, rfl, _⟩ | ⟨_, _, _, ⟨_, rfl, _⟩ | ⟨_, _, _, rfl, _⟩⟩ <;> exact .inl rfl
  | remove name =>
    obtain ⟨⟨s', result⟩, hrun, heq⟩ := Dialogue.runs_map.mp runs
    cases heq
    rcases Session.remove_runs hrun with ⟨_, rfl, _⟩ | ⟨_, _, rfl, _⟩ <;> exact .inl rfl
  | lookup name =>
    cases (Dialogue.runs_pure.mp runs).2
    exact .inl rfl
  | exec c cx sql params =>
    obtain ⟨_, _, heq⟩ := Dialogue.runs_map.mp runs
    cases heq
    exact .inl rfl
  | query c cx sql params =>
    obtain ⟨_, _, heq⟩ := Dialogue.runs_map.mp runs
    cases heq
    exact .inl rfl
  | operate cx op =>
    obtain ⟨_, _, heq⟩ := Dialogue.runs_map.mp runs
    cases heq
    exact .inl rfl

theorem Step.wellKept (step : h.Step action h') (hkept : h.session.registry.WellKept) :
    h'.session.registry.WellKept := by
  rcases step.registry with hsame | hempty | ⟨d, m, -, hbuild, hdefine⟩
  · rw [hsame]
    exact hkept
  · rw [hempty]
    exact .empty
  · exact hkept.define (Declaration.catalogued_of_build hbuild) hdefine

theorem Reached.wellKept (reached : h.Reached drivers) : h.session.registry.WellKept := by
  induction reached with
  | start => exact .empty
  | step _ step hkept => exact step.wellKept hkept

/-! ## Models that are declared clause by clause -/

/-- What any number of actions can lead to if all models are declared clause by clause. -/
inductive ReachedByClauses (drivers : List (String × Driver)) : History → Prop
  | start : ReachedByClauses drivers (start drivers)
  | step {h h' : History} {action : Action} :
    ReachedByClauses drivers h → action.ByClauses → h.Step action h' → ReachedByClauses drivers h'

theorem Step.consistent (step : h.Step action h') (hclauses : action.ByClauses)
    (hr : h.session.registry.Consistent) : h'.session.registry.Consistent := by
  rcases step.registry with hsame | hempty | ⟨d, m, rfl, hbuild, hdefine⟩
  · rw [hsame]
    exact hr
  · rw [hempty]
    exact Registry.consistent_empty
  · obtain ⟨name, clauses, rfl⟩ := hclauses
    exact hr.define ⟨name, clauses, hbuild⟩ hdefine

/-- Such a history is reached as any other one is, and the registry of its session is consistent: whatever
holds of consistent registries holds of it. -/
theorem ReachedByClauses.consistent (reached : h.ReachedByClauses drivers) :
    h.Reached drivers ∧ h.session.registry.Consistent := by
  induction reached with
  | start => exact ⟨.start, Registry.consistent_empty⟩
  | step _ hclauses step ih => exact ⟨.step ih.1 step, step.consistent hclauses ih.2⟩

end History

end RecordMapper
