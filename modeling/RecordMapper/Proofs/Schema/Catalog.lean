import Mathlib.Data.List.Nodup
import RecordMapper.Proofs.Outcome
import RecordMapper.Schema.Declaration
import RecordMapper.Schema.Registry

/-!
# Catalogs of declared models

A declaration that is accepted gives a model in whose catalog every name stands for one attribute
and the primary key is one of them. Everything that later looks a name up relies on these two facts,
which are collected in `Model.Catalogued`; that a model was declared is only used to get them.

The second half reads off what a resolved association guarantees: the two attributes that take part
in it are attributes of the models that they belong to.
-/

namespace RecordMapper

namespace Declaration

/-! ## Accepted declarations -/

/-- No name is found twice exactly if none occurs twice and none has been seen before. -/
theorem firstRepeated_eq_none {seen names : List String} :
    firstRepeated seen names = none ↔ names.Nodup ∧ ∀ name ∈ names, name ∉ seen := by
  induction names generalizing seen with
  | nil => simp [firstRepeated]
  | cons name names ih =>
    unfold firstRepeated
    rw [List.nodup_cons, List.forall_mem_cons]
    by_cases hs : name ∈ seen
    · simp [hs]
    · rw [if_neg (by simpa using hs), ih]
      constructor
      · rintro ⟨hnd, hns⟩
        refine ⟨⟨fun hin => hns name hin List.mem_cons_self, hnd⟩, hs, fun other ho => ?_⟩
        exact fun hin => hns other ho (List.mem_cons_of_mem _ hin)
      · rintro ⟨⟨hnot, hnd⟩, -, hns⟩
        refine ⟨hnd, fun other ho hin => ?_⟩
        rcases List.mem_cons.mp hin with rfl | hin
        · exact hnot ho
        · exact hns other ho hin

theorem firstRepeated_nil_eq_none {names : List String} :
    firstRepeated [] names = none ↔ names.Nodup := by
  rw [firstRepeated_eq_none]
  simp

/-- A declaration is accepted if it has a name and repeats neither an attribute nor an association,
and then it gives the model that it describes. -/
theorem build_eq_ok {d : Declaration} {m : Model} :
    d.build = .ok m ↔ d.name.isEmpty = false ∧ (d.attributes.map Attribute.name).Nodup ∧
      (d.associations.map Association.name).Nodup ∧
      m = ⟨d.name, d.catalog, d.primaryKey, d.associations, d.connection?.getD defaultConnection⟩ := by
  unfold build
  rw [← firstRepeated_nil_eq_none, ← firstRepeated_nil_eq_none]
  cases hname : d.name.isEmpty with
  | true => simp
  | false =>
    cases firstRepeated [] (d.attributes.map Attribute.name) with
    | some name => simp
    | none =>
      cases firstRepeated [] (d.associations.map Association.name) with
      | some name => simp
      | none => simp [eq_comm]

end Declaration

/-! ## Models and registries of declared models -/

/-- The model was declared clause by clause and accepted. -/
def Model.Declared (m : Model) : Prop :=
  ∃ name clauses, (Declaration.ofClauses name clauses).build = .ok m

/-- All models of the registry were declared. -/
def Registry.Declared (r : Registry) : Prop := ∀ m ∈ r.models, m.Declared

/-- Every name of the catalog stands for one attribute, and the primary key is among them. -/
structure Model.Catalogued (m : Model) : Prop where
  /-- No two attributes share a name. -/
  nodup : (m.attributes.map Attribute.name).Nodup
  /-- The primary key is the name of an attribute. -/
  key_mem : m.primaryKey ∈ m.attributes.map Attribute.name

namespace Declaration

variable {d : Declaration}

theorem catalog_of_mem (h : d.primaryKey ∈ d.attributes.map Attribute.name) :
    d.catalog = d.attributes := by
  unfold catalog
  exact if_pos (by simpa using h)

theorem catalog_of_notMem (h : d.primaryKey ∉ d.attributes.map Attribute.name) :
    d.catalog = { name := d.primaryKey, type := .integer, nullable := false } :: d.attributes := by
  unfold catalog
  exact if_neg (by simpa using h)

/-- The catalog of an accepted declaration has the primary key in it, added in front if need be. -/
theorem catalogued_of_build {m : Model} (h : d.build = .ok m) : m.Catalogued := by
  obtain ⟨-, hnd, -, rfl⟩ := build_eq_ok.mp h
  by_cases hkey : d.primaryKey ∈ d.attributes.map Attribute.name
  · have hcat := catalog_of_mem hkey
    exact ⟨by simpa only [hcat] using hnd, by simpa only [hcat] using hkey⟩
  · have hcat := catalog_of_notMem hkey
    refine ⟨?_, ?_⟩
    · simpa only [hcat, List.map_cons, List.nodup_cons] using ⟨hkey, hnd⟩
    · simp only [hcat, List.map_cons, List.mem_cons, true_or]

end Declaration

theorem Model.Declared.catalogued {m : Model} (h : m.Declared) : m.Catalogued := by
  obtain ⟨name, clauses, hb⟩ := h
  exact Declaration.catalogued_of_build hb

/-! ## Looking names up -/

/-- Where no two items share a name, an item is the one that is found under its name. -/
theorem find?_name_eq_some {α : Type} {name : α → String} {xs : List α} (hnodup : (xs.map name).Nodup)
    {key : String} {x : α} : xs.find? (fun y => name y == key) = some x ↔ x ∈ xs ∧ name x = key := by
  constructor
  · intro h
    exact ⟨List.mem_of_find?_eq_some h, by simpa using List.find?_some h⟩
  · rintro ⟨hx, rfl⟩
    cases hfind : xs.find? fun y => name y == name x with
    | none => exact absurd (by simp) (List.find?_eq_none.mp hfind x hx)
    | some y =>
      have hname : name y = name x := by simpa using List.find?_some hfind
      rw [List.inj_on_of_nodup_map hnodup (List.mem_of_find?_eq_some hfind) hx hname]

namespace Model

variable {m : Model} {name : String} {a : Attribute}

theorem mem_of_attribute? (h : m.attribute? name = some a) : a ∈ m.attributes ∧ a.name = name :=
  ⟨List.mem_of_find?_eq_some h, by simpa using List.find?_some h⟩

theorem attribute?_isSome : (m.attribute? name).isSome ↔ name ∈ m.attributes.map Attribute.name := by
  simp [attribute?, List.find?_isSome]

/-- In a catalog a name stands for the one attribute of that name. -/
theorem Catalogued.attribute?_eq_some (h : m.Catalogued) :
    m.attribute? name = some a ↔ a ∈ m.attributes ∧ a.name = name :=
  find?_name_eq_some h.nodup

theorem Catalogued.attributes_ne_nil (h : m.Catalogued) : m.attributes ≠ [] := by
  intro hnil
  have := h.key_mem
  simp [hnil] at this

theorem mem_of_association? {name : String} {a : Association} (h : m.association? name = some a) :
    a ∈ m.associations := by
  simp only [association?, Option.orElse_eq_orElse, Option.orElse_eq_or, Option.or_eq_some_iff] at h
  rcases h with h | ⟨-, h⟩
  · exact List.mem_of_find?_eq_some h
  · exact List.mem_of_find?_eq_some h

end Model

namespace Registry

variable {r : Registry} {name : String} {m : Model}

theorem get_eq_ok : r.get name = .ok m ↔ r.find? name = some m := by
  unfold get
  cases r.find? name with
  | none => simp
  | some m' => simp

theorem mem_of_get (h : r.get name = .ok m) : m ∈ r.models := by
  rw [get_eq_ok] at h
  simp only [find?, Option.orElse_eq_orElse, Option.orElse_eq_or, Option.or_eq_some_iff] at h
  rcases h with h | ⟨-, h⟩
  · exact List.mem_of_find?_eq_some h
  · exact List.mem_of_find?_eq_some h

/-- An association is resolved exactly if it is declared, its target is defined, the model that
stores the key has the attribute for it and the other one has a primary key. -/
theorem resolve_eq_ok {owner : Model} {association : String} {resolved : ResolvedAssociation} :
    r.resolve owner association = .ok resolved ↔ ∃ declared target,
      owner.association? association = some declared ∧ r.get declared.target = .ok target ∧
      resolved = ⟨declared.kind, declared.name, owner, target, declared.foreignKeyFor owner.name⟩ ∧
      (resolved.foreignKeyModel.attribute? resolved.foreignKey).isSome ∧
      resolved.keyedModel.primaryKeyAttribute?.isSome := by
  unfold resolve
  cases hd : owner.association? association with
  | none => simp
  | some declared =>
    simp only [bind_eq_ok, Option.some.injEq, exists_and_left, exists_eq_left']
    refine exists_congr fun target => and_congr_right fun _ => ?_
    split
    · rename_i hstored
      refine ⟨fun h => (nomatch h), ?_⟩
      rintro ⟨rfl, hsome, -⟩
      rw [Option.isSome_iff_ne_none, ne_eq, ← Option.isNone_iff_eq_none] at hsome
      exact absurd hstored hsome
    · rename_i hstored
      split
      · rename_i hkeyed
        refine ⟨fun h => (nomatch h), ?_⟩
        rintro ⟨rfl, -, hsome⟩
        rw [Option.isSome_iff_ne_none, ne_eq, ← Option.isNone_iff_eq_none] at hsome
        exact absurd hkeyed hsome
      · rename_i hkeyed
        constructor
        · intro h
          cases h
          refine ⟨rfl, ?_, ?_⟩
          · rwa [Option.isSome_iff_ne_none, ne_eq, ← Option.isNone_iff_eq_none]
          · rwa [Option.isSome_iff_ne_none, ne_eq, ← Option.isNone_iff_eq_none]
        · rintro ⟨rfl, -, -⟩
          rfl

end Registry

/-! ## The attributes that take part in an association -/

namespace ResolvedAssociation

variable {r : Registry} {owner : Model} {association : String} {resolved : ResolvedAssociation}

theorem owner_eq (h : r.resolve owner association = .ok resolved) : resolved.owner = owner := by
  obtain ⟨_, _, -, -, rfl, -⟩ := Registry.resolve_eq_ok.mp h
  rfl

theorem target_mem (h : r.resolve owner association = .ok resolved) : resolved.target ∈ r.models := by
  obtain ⟨_, _, -, htarget, rfl, -⟩ := Registry.resolve_eq_ok.mp h
  exact Registry.mem_of_get htarget

theorem ownerKey_mem (h : r.resolve owner association = .ok resolved) :
    resolved.ownerKey ∈ owner.attributes.map Attribute.name := by
  obtain ⟨declared, target, -, -, rfl, hstored, hkeyed⟩ := Registry.resolve_eq_ok.mp h
  cases hkind : declared.kind with
  | belongsTo => simpa [ownerKey, foreignKeyModel, hkind, Model.attribute?_isSome] using hstored
  | hasMany =>
    simpa [ownerKey, keyedModel, hkind, Model.primaryKeyAttribute?, Model.attribute?_isSome] using hkeyed

theorem targetKey_mem (h : r.resolve owner association = .ok resolved) :
    resolved.targetKey ∈ resolved.target.attributes.map Attribute.name := by
  obtain ⟨declared, target, -, -, rfl, hstored, hkeyed⟩ := Registry.resolve_eq_ok.mp h
  cases hkind : declared.kind with
  | belongsTo =>
    simpa [targetKey, keyedModel, hkind, Model.primaryKeyAttribute?, Model.attribute?_isSome] using hkeyed
  | hasMany => simpa [targetKey, foreignKeyModel, hkind, Model.attribute?_isSome] using hstored

end ResolvedAssociation

/-! ## A bookshop

The models that the theorems about registries are tried on: books belong to authors, and authors
have a primary key that their declaration leaves to the default.
-/

namespace Bookshop

/-- What is said about authors. -/
def authorClauses : List Clause :=
  [.attr { name := "name", type := .string, nullable := false },
    .association ⟨.hasMany, "books", "book", some "author_id"⟩]

/-- What is said about books. -/
def bookClauses : List Clause :=
  [.primaryKey "uid", .attr { name := "uid", type := .integer },
    .attr { name := "title", type := .string, nullable := false },
    .attr { name := "year", type := .integer },
    .attr { name := "rating", type := .float, default? := some (.int 3) },
    .attr { name := "author_id", type := .integer },
    .association ⟨.belongsTo, "author", "author", some "author_id"⟩]

/-- The model of authors. -/
def author : Model where
  name := "author"
  attributes := [{ name := "id", type := .integer, nullable := false },
    { name := "name", type := .string, nullable := false }]
  primaryKey := "id"
  associations := [⟨.hasMany, "books", "book", some "author_id"⟩]
  connection := "primary"

/-- The model of books. -/
def book : Model where
  name := "book"
  attributes := [{ name := "uid", type := .integer },
    { name := "title", type := .string, nullable := false }, { name := "year", type := .integer },
    { name := "rating", type := .float, default? := some (.int 3) },
    { name := "author_id", type := .integer }]
  primaryKey := "uid"
  associations := [⟨.belongsTo, "author", "author", some "author_id"⟩]
  connection := "primary"

/-- Authors and books. -/
def registry : Registry := ⟨[author, book]⟩

theorem build_author : (Declaration.ofClauses "Author" authorClauses).build = .ok author :=
  Declaration.build_eq_ok.mpr (by decide +kernel)

theorem build_book : (Declaration.ofClauses "Book" bookClauses).build = .ok book :=
  Declaration.build_eq_ok.mpr (by decide +kernel)

theorem declared : registry.Declared := by
  intro m hm
  rcases List.mem_cons.mp hm with rfl | hm
  · exact ⟨_, _, build_author⟩
  · rcases List.mem_singleton.mp hm with rfl
    exact ⟨_, _, build_book⟩

end Bookshop

end RecordMapper
