import RecordMapper.Proofs.Schema.Definitions

/-!
# Registries as they change

A registry changes by definitions, which may be refused, and by forgetting all models. As long as the
models are declared under names in ASCII, every name in it spells itself (`Registry.Plain`), whatever the
order of the changes is. The lookup then comes down to one question, whether there is a model of the name
that is spelled (`Registry.Plain.get_eq_ok`), and this is the question that a definition asks too.
-/

namespace RecordMapper

namespace Registry

/-- What can be done to a registry. -/
inductive Change
  | define (m : Model)
  | clear

/-- The change defines a model that was declared under a name in ASCII, if any. -/
def Change.InAscii : Change → Prop
  | define m => m.DeclaredInAscii
  | clear => True

/-- The registry after a change. A definition that is refused leaves it as it was. -/
def after (r : Registry) : Change → Registry
  | .define m =>
    match r.define m with
    | .ok r' => r'
    | .error _ => r
  | .clear => empty

def afterAll (r : Registry) (changes : List Change) : Registry := changes.foldl after r

/-- The models were declared under names in ASCII, no two under one name. -/
structure Plain (r : Registry) : Prop where
  declaredInAscii : ∀ m ∈ r.models, m.DeclaredInAscii
  nodup : (r.models.map Model.name).Nodup

variable {r r' : Registry} {m : Model} {s : String}

/-! ## Changes -/

theorem plain_empty : empty.Plain := ⟨List.forall_mem_nil _, List.nodup_nil⟩

theorem Plain.define (hr : r.Plain) (hm : m.DeclaredInAscii) (h : r.define m = .ok r') : r'.Plain :=
  ⟨forall_models_define hr.declaredInAscii hm h, nodup_define hr.nodup h⟩

theorem Plain.after (hr : r.Plain) {change : Change} (hchange : change.InAscii) :
    (r.after change).Plain := by
  cases change with
  | clear => exact plain_empty
  | define m =>
    cases h : r.define m with
    | error e => simpa only [Registry.after, h] using hr
    | ok r' => simpa only [Registry.after, h] using hr.define hchange h

theorem Plain.afterAll {changes : List Change} (hr : r.Plain)
    (hchanges : ∀ change ∈ changes, change.InAscii) : (r.afterAll changes).Plain := by
  induction changes generalizing r with
  | nil => exact hr
  | cons change changes ih =>
    obtain ⟨hchange, hchanges⟩ := List.forall_mem_cons.mp hchanges
    exact ih (hr.after hchange) hchanges

/-! ## Lookups and definitions -/

/-- A text finds the model whose name it spells. -/
theorem Plain.get_eq_ok (hr : r.Plain) :
    r.get s = .ok m ↔ m ∈ r.models ∧ m.name = (Name.ofText s).snakeCase := by
  rw [Registry.get_eq_ok, find?, Option.orElse_eq_orElse, Option.orElse_eq_or, Option.or_eq_some_iff,
    verbatim?_eq_some hr.nodup, verbatim?_eq_some hr.nodup]
  -- A model of exactly the given name is the one that the name spells, because its name spells itself.
  have hspelled : ∀ other ∈ r.models, other.name = s → other.name = (Name.ofText s).snakeCase := by
    intro other hother hname
    have hself := (hr.declaredInAscii other hother).snakeCase_name
    rw [hname] at hself ⊢
    exact hself.symm
  constructor
  · rintro (⟨hm, hname⟩ | ⟨-, hm, hname⟩)
    · exact ⟨hm, hspelled m hm hname⟩
    · exact ⟨hm, hname⟩
  · rintro ⟨hm, hname⟩
    by_cases hexact : m.name = s
    · exact .inl ⟨hm, hexact⟩
    · refine .inr ⟨?_, hm, hname⟩
      rw [verbatim?_eq_none]
      intro hmem
      obtain ⟨other, hother, hothers⟩ := List.mem_map.mp hmem
      have hsame : other.name = m.name := (hspelled other hother hothers).trans hname.symm
      exact hexact (hsame.symm.trans hothers)

/-- A name that finds a model cannot be given to another one. -/
theorem Plain.define_of_get (hr : r.Plain) (hname : m.name = (Name.ofText s).snakeCase) {found : Model}
    (h : r.get s = .ok found) : r.define m = .error (.of (.duplicateModel m.name)) := by
  obtain ⟨hfound, hspelled⟩ := hr.get_eq_ok.mp h
  have hmem : m.name ∈ r.models.map Model.name :=
    List.mem_map.mpr ⟨found, hfound, hspelled.trans hname.symm⟩
  exact define_eq_error.mpr ⟨hmem, rfl⟩

/-- A name that finds nothing is free. -/
theorem Plain.define_of_get_error (hr : r.Plain) (hname : m.name = (Name.ofText s).snakeCase) {e : Error}
    (h : r.get s = .error e) : r.define m = .ok ⟨r.models ++ [m]⟩ := by
  have hnew : m.name ∉ r.models.map Model.name := by
    intro hmem
    obtain ⟨other, hother, hothers⟩ := List.mem_map.mp hmem
    have hfound := hr.get_eq_ok.mpr ⟨hother, hothers.trans hname⟩
    rw [h] at hfound
    cases hfound
  exact define_eq_ok.mpr ⟨hnew, rfl⟩

/-- Whatever has been done to a registry of models in ASCII, a text finds the model whose name it spells,
and a model that is declared under the text can be defined exactly if the text finds nothing. -/
theorem get_define_agree {changes : List Change} (hchanges : ∀ change ∈ changes, change.InAscii)
    (hr : empty.afterAll changes = r) :
    (∀ s m, r.get s = .ok m ↔ m ∈ r.models ∧ m.name = (Name.ofText s).snakeCase) ∧
      ∀ s clauses m, Text.InAscii s → (Declaration.ofClauses s clauses).build = .ok m →
        (∀ found, r.get s = .ok found →
          r.define m = .error (.of (.duplicateModel m.name)) ∧ r.after (.define m) = r) ∧
        ∀ e, r.get s = .error e → ∃ r', r.define m = .ok r' ∧ r.after (.define m) = r' ∧
          r'.models = r.models ++ [m] ∧ r'.get s = .ok m ∧
          ∀ name earlier, r.get name = .ok earlier → r'.get name = .ok earlier := by
  have hplain : r.Plain := hr ▸ plain_empty.afterAll hchanges
  refine ⟨fun s m => hplain.get_eq_ok, ?_⟩
  intro s clauses m hascii hbuild
  have hname := (Declaration.describes_of_build hbuild).name
  constructor
  · intro found hfound
    have hrefused := hplain.define_of_get hname hfound
    exact ⟨hrefused, by simp only [after, hrefused]⟩
  · intro e he
    have hdefine := hplain.define_of_get_error hname he
    have hm : m.DeclaredInAscii := ⟨s, clauses, hascii, hbuild⟩
    have hmem : m ∈ r.models ++ [m] := List.mem_append_right _ (List.mem_singleton_self m)
    refine ⟨_, hdefine, by simp only [after, hdefine], rfl, ?_, ?_⟩
    · exact (hplain.define hm hdefine).get_eq_ok.mpr ⟨hmem, hname⟩
    · exact extendedBy_of_define (contains_of_define hm hdefine) hdefine

end Registry

namespace Bookshop

open Registry (Change)

/-- Authors are forgotten, books are defined, and then authors can be defined again but not books. -/
theorem redefined_authors :
    Registry.empty.afterAll [.define author, .clear, .define book] = ⟨[book]⟩ ∧
      Registry.get ⟨[book]⟩ "Book" = .ok book ∧
      Registry.define ⟨[book]⟩ book = .error (.of (.duplicateModel "book")) ∧
      Registry.get ⟨[book]⟩ "Author" = .error (.of (.unknownModel "Author")) ∧
      ∃ r', Registry.define ⟨[book]⟩ author = .ok r' ∧ r'.models = [book, author] ∧
        r'.get "Author" = .ok author ∧ r'.get "Book" = .ok book := by
  have hchanges : ∀ change ∈ [.define author, .clear, .define book], Change.InAscii change := by
    refine List.forall_mem_cons.mpr ⟨declaredInAscii author (by simp [registry]), ?_⟩
    refine List.forall_mem_cons.mpr ⟨trivial, List.forall_mem_singleton.mpr ?_⟩
    exact declaredInAscii book (by simp [registry])
  have hreached : Registry.empty.afterAll [.define author, .clear, .define book] = ⟨[book]⟩ := rfl
  obtain ⟨hget, hdefine⟩ := Registry.get_define_agree hchanges hreached
  have hbook : Registry.get ⟨[book]⟩ "Book" = .ok book := (hget _ _).mpr (by decide +kernel)
  have hauthor : Registry.get ⟨[book]⟩ "Author" = .error (.of (.unknownModel "Author")) := by
    decide +kernel
  have hrefused := ((hdefine "Book" bookClauses book (by decide +kernel) build_book).1 book hbook).1
  obtain ⟨r', hr', -, hmodels, hnew, hearlier⟩ :=
    (hdefine "Author" authorClauses author (by decide +kernel) build_author).2 _ hauthor
  exact ⟨hreached, hbook, hrefused, hauthor, r', hr', hmodels, hnew, hearlier _ _ hbook⟩

end Bookshop

end RecordMapper
