import Mathlib.Data.List.Nodup
import RecordMapper.Proofs.Schema.Declarations
import RecordMapper.Proofs.Schema.Name

/-!
# Registries as models are defined

A registry that is built up by definitions holds declared models and no two of one name
(`Registry.Consistent`). A name is then looked up by membership alone, so the order of the
definitions does not change what is found.

A later definition keeps what was found (`Registry.ExtendedBy`), unless its name was a spelling of an
earlier model before: a model of exactly the given name is preferred to one that the name spells.
The names of models that are declared in ASCII spell nothing but themselves, so this never happens
to them.
-/

namespace RecordMapper

/-! ## Names of declared models -/

/-- The model was declared under a name in ASCII. -/
def Model.DeclaredInAscii (m : Model) : Prop :=
  ∃ name clauses, Text.InAscii name ∧ (Declaration.ofClauses name clauses).build = .ok m

namespace Model.DeclaredInAscii

variable {m : Model}

theorem declared (h : m.DeclaredInAscii) : m.Declared := by
  obtain ⟨name, clauses, -, hbuild⟩ := h
  exact ⟨name, clauses, hbuild⟩

theorem exists_name (h : m.DeclaredInAscii) :
    ∃ s, Text.InAscii s ∧ m.name = (Name.ofText s).snakeCase := by
  obtain ⟨name, clauses, hascii, hbuild⟩ := h
  exact ⟨name, hascii, (Declaration.describes_of_build hbuild).name⟩

/-- The name spells itself. -/
theorem snakeCase_name (h : m.DeclaredInAscii) : (Name.ofText m.name).snakeCase = m.name := by
  obtain ⟨s, hascii, hname⟩ := h.exists_name
  rw [hname, Name.ofText_snakeCase hascii]

end Model.DeclaredInAscii

namespace Registry

/-! ## Definitions -/

variable {r r' : Registry} {m m' : Model} {name : String}

/-- The registry holds declared models, no two of which share a name. -/
structure Consistent (r : Registry) : Prop where
  declared : r.Declared
  nodup : (r.models.map Model.name).Nodup

theorem verbatim?_eq_none : r.verbatim? name = none ↔ name ∉ r.models.map Model.name := by
  simp [verbatim?]

theorem define_eq_ok :
    r.define m = .ok r' ↔ m.name ∉ r.models.map Model.name ∧ ⟨r.models ++ [m]⟩ = r' := by
  rw [← verbatim?_eq_none]
  unfold define
  cases r.verbatim? m.name with
  | none => simp
  | some other => simp

theorem define_eq_error {e : Error} :
    r.define m = .error e ↔ m.name ∈ r.models.map Model.name ∧ e = .of (.duplicateModel m.name) := by
  have hmem : m.name ∈ r.models.map Model.name ↔ r.verbatim? m.name ≠ none := by
    rw [ne_eq, verbatim?_eq_none, not_not]
  rw [hmem]
  unfold define
  cases r.verbatim? m.name with
  | none => simp
  | some other => simp [eq_comm]

theorem consistent_empty : empty.Consistent := ⟨List.forall_mem_nil _, List.nodup_nil⟩

theorem nodup_define (hnodup : (r.models.map Model.name).Nodup) (h : r.define m = .ok r') :
    (r'.models.map Model.name).Nodup := by
  obtain ⟨hnew, rfl⟩ := define_eq_ok.mp h
  rw [List.map_append, List.map_singleton, List.nodup_append]
  refine ⟨hnodup, List.nodup_singleton _, fun a ha b hb hab => hnew ?_⟩
  rwa [← List.mem_singleton.mp hb, ← hab]

/-- What holds of the models of a registry and of a new one holds of all models after its definition. -/
theorem forall_models_define {p : Model → Prop} (hr : ∀ m ∈ r.models, p m) (hm : p m)
    (h : r.define m = .ok r') : ∀ m ∈ r'.models, p m := by
  obtain ⟨-, rfl⟩ := define_eq_ok.mp h
  intro other hother
  rcases List.mem_append.mp hother with hother | hother
  · exact hr other hother
  · rw [List.mem_singleton.mp hother]
    exact hm

theorem Consistent.define (hr : r.Consistent) (hm : m.Declared) (h : r.define m = .ok r') :
    r'.Consistent :=
  ⟨forall_models_define hr.declared hm h, nodup_define hr.nodup h⟩

/-- The registry after several definitions. -/
def defineAll (r : Registry) (ms : List Model) : Except Error Registry := ms.foldlM define r

/-- Models of different names can all be defined. -/
theorem defineAll_of_nodup {ms : List Model} (h : ((r.models ++ ms).map Model.name).Nodup) :
    r.defineAll ms = .ok ⟨r.models ++ ms⟩ := by
  induction ms generalizing r with
  | nil => rw [List.append_nil]; rfl
  | cons m ms ih =>
    have hnew : m.name ∉ r.models.map Model.name := by
      rw [List.map_append, List.nodup_append] at h
      exact fun hmem => h.2.2 _ hmem _ List.mem_cons_self rfl
    have happend : r.models ++ m :: ms = (r.models ++ [m]) ++ ms := List.append_cons _ _ _
    rw [happend] at h ⊢
    show (r.define m >>= fun r => r.defineAll ms) = _
    rw [define_eq_ok.mpr ⟨hnew, rfl⟩]
    exact ih h

/-- Definitions that were accepted give a registry of models with different names. -/
theorem models_of_defineAll {ms : List Model} (h : r.defineAll ms = .ok r')
    (hnodup : (r.models.map Model.name).Nodup) :
    r'.models = r.models ++ ms ∧ (r'.models.map Model.name).Nodup := by
  induction ms generalizing r with
  | nil =>
    cases h
    exact ⟨(List.append_nil _).symm, hnodup⟩
  | cons m ms ih =>
    obtain ⟨mid, hmid, hrest⟩ := bind_eq_ok.mp h
    obtain ⟨hmodels, hall⟩ := ih hrest (nodup_define hnodup hmid)
    obtain ⟨-, rfl⟩ := define_eq_ok.mp hmid
    refine ⟨?_, hall⟩
    rw [hmodels, List.append_assoc]
    rfl

/-! ## Looking models up -/

theorem verbatim?_eq_some (hnodup : (r.models.map Model.name).Nodup) :
    r.verbatim? name = some m ↔ m ∈ r.models ∧ m.name = name :=
  find?_name_eq_some hnodup

theorem Consistent.eq_of_name (hr : r.Consistent) (hm : m ∈ r.models) (hm' : m' ∈ r.models)
    (h : m.name = m'.name) : m = m' :=
  List.inj_on_of_nodup_map hr.nodup hm hm' h

theorem find?_eq_none :
    r.find? name = none ↔ r.verbatim? name = none ∧ r.verbatim? (Name.ofText name).snakeCase = none := by
  simp only [find?, Option.orElse_eq_orElse, Option.orElse_eq_or, Option.or_eq_none_iff]

/-- Two registries of the same models find the same ones. -/
theorem get_eq_of_perm (hnodup : (r.models.map Model.name).Nodup) (hperm : r.models.Perm r'.models) :
    r.get = r'.get := by
  have hnodup' : (r'.models.map Model.name).Nodup := (hperm.map _).nodup_iff.mp hnodup
  have hverbatim : ∀ name, r.verbatim? name = r'.verbatim? name := by
    intro name
    cases h : r.verbatim? name with
    | none =>
      rw [verbatim?_eq_none, (hperm.map _).mem_iff, ← verbatim?_eq_none] at h
      exact h.symm
    | some m =>
      obtain ⟨hm, hname⟩ := (verbatim?_eq_some hnodup).mp h
      exact ((verbatim?_eq_some hnodup').mpr ⟨hperm.mem_iff.mp hm, hname⟩).symm
  funext name
  rw [get, get, find?, find?, hverbatim, hverbatim]

theorem get_name (hnodup : (r.models.map Model.name).Nodup) (hm : m ∈ r.models) :
    r.get m.name = .ok m := by
  rw [get_eq_ok, find?, (verbatim?_eq_some hnodup).mpr ⟨hm, rfl⟩]
  rfl

/-- A name under which a model in ASCII is found spells the name of the model. -/
theorem ofText_eq_of_get (hm : m.DeclaredInAscii) (h : r.get name = .ok m) :
    Name.ofText name = Name.ofText m.name := by
  have name_of_verbatim? : ∀ {text}, r.verbatim? text = some m → m.name = text :=
    fun hfound => by simpa using List.find?_some hfound
  rw [get_eq_ok, find?, Option.orElse_eq_orElse, Option.orElse_eq_or, Option.or_eq_some_iff] at h
  rcases h with h | ⟨-, h⟩
  · rw [name_of_verbatim? h]
  · obtain ⟨s, hascii, hname⟩ := hm.exists_name
    have hspelled : Name.ofText name = Name.ofText s :=
      Name.snakeCase_inj.mp ((name_of_verbatim? h).symm.trans hname)
    rw [hname, Name.ofText_snakeCase hascii, hspelled]

/-- What a registry finds, the other one finds under the same name. -/
def ExtendedBy (r r' : Registry) : Prop := ∀ name m, r.get name = .ok m → r'.get name = .ok m

/-- A definition extends the registry if nothing was found under the new name. -/
theorem extendedBy_of_define (hnew : r.contains m.name = false) (h : r.define m = .ok r') :
    r.ExtendedBy r' := by
  obtain ⟨-, rfl⟩ := define_eq_ok.mp h
  have verbatim?_append : ∀ name, verbatim? ⟨r.models ++ [m]⟩ name =
      (r.verbatim? name).or (if m.name = name then some m else none) := by
    intro name
    simp only [verbatim?, List.find?_append, List.find?_singleton, beq_iff_eq]
  intro name found hfound
  rw [get_eq_ok] at hfound ⊢
  -- Only a model of exactly this name comes before what was found, and then `m` would have been it.
  have hne : m.name ≠ name := by
    rintro rfl
    rw [contains, hfound] at hnew
    cases hnew
  simp only [find?, Option.orElse_eq_orElse, Option.orElse_eq_or, verbatim?_append, if_neg hne,
    Option.or_none] at hfound ⊢
  rw [Option.or_eq_some_iff] at hfound ⊢
  rcases hfound with hfound | ⟨hnone, hfound⟩
  · exact .inl hfound
  · exact .inr ⟨hnone, by rw [hfound]; rfl⟩

/-- The name of a model in ASCII that can be defined was no spelling of another model. -/
theorem contains_of_define (hm : m.DeclaredInAscii) (h : r.define m = .ok r') :
    r.contains m.name = false := by
  have hnone : r.verbatim? m.name = none := verbatim?_eq_none.mpr (define_eq_ok.mp h).1
  rw [contains, find?_eq_none.mpr ⟨hnone, by rwa [hm.snakeCase_name]⟩]
  rfl

/-- Whatever an association was resolved to, it still is in an extended registry. -/
theorem ExtendedBy.resolve {owner : Model} {association : String} {resolved : ResolvedAssociation}
    (hr : r.ExtendedBy r') (h : r.resolve owner association = .ok resolved) :
    r'.resolve owner association = .ok resolved := by
  obtain ⟨declared, target, hd, ht, hrest⟩ := resolve_eq_ok.mp h
  exact resolve_eq_ok.mpr ⟨declared, target, hd, hr _ _ ht, hrest⟩

end Registry

namespace Bookshop

theorem consistent : registry.Consistent := ⟨declared, by decide⟩

theorem declaredInAscii : ∀ m ∈ registry.models, m.DeclaredInAscii :=
  List.forall_mem_cons.mpr ⟨⟨_, _, by decide +kernel, build_author⟩,
    List.forall_mem_singleton.mpr ⟨_, _, by decide +kernel, build_book⟩⟩

end Bookshop

end RecordMapper
