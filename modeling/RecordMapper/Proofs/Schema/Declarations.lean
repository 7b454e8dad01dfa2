import Mathlib.Data.List.Induction
import Mathlib.Tactic.Tauto
import RecordMapper.Proofs.Schema.Catalog

/-!
# What a declaration describes

A declaration is put together clause by clause. Its attributes and associations are those of its clauses,
in their order, and of several primary keys or connections the last one counts
(`Declaration.ofClauses_eq`).

It is accepted exactly if it has a name and repeats neither an attribute nor an association; otherwise the
error says what is wrong first (`Declaration.Refused`). In the model of an accepted declaration every name
stands for one attribute and one association at most, and the name of the primary key for just one attribute
(`Model.Unambiguous`).
-/

namespace RecordMapper

/-! ## Clauses -/

namespace Clause

/-- The attribute that the clause declares. -/
def attribute? : Clause → Option Attribute
  | attr a => some a
  | primaryKey _ | association _ | connection _ => none

/-- The association that the clause declares. -/
def association? : Clause → Option Association
  | association a => some a
  | attr _ | primaryKey _ | connection _ => none

def primaryKey? : Clause → Option String
  | primaryKey name => some name
  | attr _ | association _ | connection _ => none

def connection? : Clause → Option String
  | connection name => some name
  | attr _ | primaryKey _ | association _ => none

end Clause

namespace Declaration

variable {d : Declaration} {name : String} {clauses : List Clause}

theorem say_eq (d : Declaration) (clause : Clause) : d.say clause =
    { name := d.name
      attributes := d.attributes ++ clause.attribute?.toList
      primaryKey? := clause.primaryKey?.or d.primaryKey?
      associations := d.associations ++ clause.association?.toList
      connection? := clause.connection?.or d.connection? } := by
  cases clause <;> simp [say, Clause.attribute?, Clause.association?, Clause.primaryKey?, Clause.connection?]

theorem foldl_say (d : Declaration) (clauses : List Clause) : clauses.foldl say d =
    { name := d.name
      attributes := d.attributes ++ clauses.filterMap Clause.attribute?
      primaryKey? := (clauses.filterMap Clause.primaryKey?).getLast?.or d.primaryKey?
      associations := d.associations ++ clauses.filterMap Clause.association?
      connection? := (clauses.filterMap Clause.connection?).getLast?.or d.connection? } := by
  have hsingle : ∀ {β : Type} (f : Clause → Option β) (clause : Clause),
      [clause].filterMap f = (f clause).toList := by
    intro β f clause
    cases h : f clause <;> simp [h]
  have hlast : ∀ {β : Type} (x : Option β), x.toList.getLast? = x := by
    intro β x
    cases x <;> rfl
  induction clauses using List.reverseRecOn with
  | nil => simp
  | append_singleton clauses clause ih =>
    rw [List.foldl_append, ih, List.foldl_cons, List.foldl_nil, say_eq]
    simp only [List.filterMap_append, List.getLast?_append, hsingle, hlast, List.append_assoc,
      Option.or_assoc]

theorem ofClauses_eq (name : String) (clauses : List Clause) : ofClauses name clauses =
    { name := (Name.ofText name).snakeCase
      attributes := clauses.filterMap Clause.attribute?
      primaryKey? := (clauses.filterMap Clause.primaryKey?).getLast?
      associations := clauses.filterMap Clause.association?
      connection? := (clauses.filterMap Clause.connection?).getLast? } := by
  rw [ofClauses, foldl_say]
  simp [named]

/-! ## Refused declarations -/

/-- The name is the first one that has occurred before. -/
def RepeatedFirst (names : List String) (name : String) : Prop :=
  ∃ before after, names = before ++ name :: after ∧ before.Nodup ∧ name ∈ before

section

variable {seen names : List String} {other : String}

theorem firstRepeated_cons_of_mem (h : other ∈ seen) :
    firstRepeated seen (other :: names) = some other := by
  unfold firstRepeated
  exact if_pos (by simpa using h)

theorem firstRepeated_cons_of_notMem (h : other ∉ seen) :
    firstRepeated seen (other :: names) = firstRepeated (other :: seen) names := by
  conv_lhs => unfold firstRepeated
  exact if_neg (by simpa using h)

/-- The name that is found is in the list or among the seen ones before, and no name in front of it is. -/
theorem firstRepeated_eq_some : firstRepeated seen names = some name ↔
    ∃ before after, names = before ++ name :: after ∧ firstRepeated seen before = none ∧
      (name ∈ before ∨ name ∈ seen) := by
  induction names generalizing seen with
  | nil => simp [firstRepeated]
  | cons other names ih =>
    by_cases hseen : other ∈ seen
    · rw [firstRepeated_cons_of_mem hseen]
      constructor
      · intro h
        cases h
        exact ⟨[], names, rfl, rfl, .inr hseen⟩
      · rintro ⟨before, after, hsplit, hbefore, -⟩
        rcases List.cons_eq_append_iff.mp hsplit with ⟨rfl, hcons⟩ | ⟨before, rfl, -⟩
        · cases hcons
          rfl
        · rw [firstRepeated_cons_of_mem hseen] at hbefore
          cases hbefore
    · rw [firstRepeated_cons_of_notMem hseen, ih]
      have hseen_or : ∀ before : List String, name ∈ before ∨ name ∈ other :: seen ↔
          name ∈ other :: before ∨ name ∈ seen := by
        intro before
        simp only [List.mem_cons]
        tauto
      constructor
      · rintro ⟨before, after, rfl, hbefore, hname⟩
        refine ⟨other :: before, after, rfl, ?_, (hseen_or before).mp hname⟩
        rwa [firstRepeated_cons_of_notMem hseen]
      · rintro ⟨before, after, hsplit, hbefore, hname⟩
        rcases List.cons_eq_append_iff.mp hsplit with ⟨rfl, hcons⟩ | ⟨before, rfl, rfl⟩
        · cases hcons
          rcases hname with hname | hname
          · cases hname
          · exact absurd hname hseen
        · rw [firstRepeated_cons_of_notMem hseen] at hbefore
          exact ⟨before, after, rfl, hbefore, (hseen_or before).mpr hname⟩

end

theorem firstRepeated_nil_eq_some {names : List String} :
    firstRepeated [] names = some name ↔ RepeatedFirst names name := by
  rw [firstRepeated_eq_some, RepeatedFirst]
  simp only [firstRepeated_nil_eq_none, List.not_mem_nil, or_false]

/-- Why a declaration is refused: its name is looked at first, then its attributes and last its
associations. -/
inductive Refused (d : Declaration) : String → Prop
  | unnamed : d.name = "" → Refused d "model name must not be empty"
  | repeatedAttribute {name : String} : d.name ≠ "" →
    RepeatedFirst (d.attributes.map Attribute.name) name →
    Refused d ("attribute `" ++ name ++ "` is declared twice on model `" ++ d.name ++ "`")
  | repeatedAssociation {name : String} : d.name ≠ "" → (d.attributes.map Attribute.name).Nodup →
    RepeatedFirst (d.associations.map Association.name) name →
    Refused d ("association `" ++ name ++ "` is declared twice on model `" ++ d.name ++ "`")

theorem Refused.build {reason : String} (h : d.Refused reason) :
    d.build = .error (.of (.invalidSchema reason)) := by
  unfold Declaration.build
  cases h with
  | unnamed hname => rw [if_pos (by simpa using hname)]
  | repeatedAttribute hname hrepeated =>
    rw [if_neg (by simpa using hname), firstRepeated_nil_eq_some.mpr hrepeated]
  | repeatedAssociation hname hnodup hrepeated =>
    rw [if_neg (by simpa using hname), firstRepeated_nil_eq_none.mpr hnodup,
      firstRepeated_nil_eq_some.mpr hrepeated]

/-- What is not refused has a name and repeats nothing. -/
theorem valid_or_refused (d : Declaration) :
    (d.name ≠ "" ∧ (d.attributes.map Attribute.name).Nodup ∧
      (d.associations.map Association.name).Nodup) ∨ ∃ reason, d.Refused reason := by
  by_cases hname : d.name = ""
  · exact .inr ⟨_, .unnamed hname⟩
  cases hattributes : firstRepeated [] (d.attributes.map Attribute.name) with
  | some name => exact .inr ⟨_, .repeatedAttribute hname (firstRepeated_nil_eq_some.mp hattributes)⟩
  | none =>
    have hnodup := firstRepeated_nil_eq_none.mp hattributes
    cases hassociations : firstRepeated [] (d.associations.map Association.name) with
    | some name =>
      have hrepeated := firstRepeated_nil_eq_some.mp hassociations
      exact .inr ⟨_, .repeatedAssociation hname hnodup hrepeated⟩
    | none => exact .inl ⟨hname, hnodup, firstRepeated_nil_eq_none.mp hassociations⟩

theorem build_eq_error {e : Error} :
    d.build = .error e ↔ ∃ reason, d.Refused reason ∧ e = .of (.invalidSchema reason) := by
  constructor
  · intro h
    rcases d.valid_or_refused with ⟨hname, hattributes, hassociations⟩ | ⟨reason, hreason⟩
    · have hok := build_eq_ok.mpr ⟨by simpa using hname, hattributes, hassociations, rfl⟩
      rw [hok] at h
      cases h
    · rw [hreason.build] at h
      cases h
      exact ⟨reason, hreason, rfl⟩
  · rintro ⟨reason, hreason, rfl⟩
    exact hreason.build

end Declaration

/-! ## Accepted declarations -/

/-- The model is what the clauses say under the name. -/
structure Model.Describes (m : Model) (name : String) (clauses : List Clause) : Prop where
  name : m.name = (Name.ofText name).snakeCase
  primaryKey : m.primaryKey = (clauses.filterMap Clause.primaryKey?).getLast?.getD "id"
  connection : m.connection = (clauses.filterMap Clause.connection?).getLast?.getD "primary"
  associations : m.associations = clauses.filterMap Clause.association?
  /-- A declared primary key keeps its place in the catalog. -/
  declared : m.primaryKey ∈ (clauses.filterMap Clause.attribute?).map Attribute.name →
    m.attributes = clauses.filterMap Clause.attribute?
  /-- Any other one is put in front, as an integer that is never missing. -/
  added : m.primaryKey ∉ (clauses.filterMap Clause.attribute?).map Attribute.name →
    m.attributes = ⟨m.primaryKey, .integer, false, none⟩ :: clauses.filterMap Clause.attribute?

/-- Every name stands for one thing. -/
structure Model.Unambiguous (m : Model) : Prop where
  nodup : (m.attributes.map Attribute.name).Nodup
  /-- The primary key is an attribute of the catalog, the only one of its name. -/
  key : ∃ a ∈ m.attributes, m.primaryKeyAttribute? = some a ∧
    ∀ b ∈ m.attributes, b.name = m.primaryKey ↔ b = a
  attribute?_eq : ∀ a ∈ m.attributes, m.attribute? a.name = some a
  association?_eq : ∀ a ∈ m.associations, m.association? a.name = some a

namespace Declaration

variable {d : Declaration} {m : Model}

theorem describes_of_build {name : String} {clauses : List Clause}
    (h : (ofClauses name clauses).build = .ok m) : m.Describes name clauses := by
  obtain ⟨-, -, -, rfl⟩ := build_eq_ok.mp h
  rw [ofClauses_eq]
  exact ⟨rfl, rfl, rfl, rfl, fun hkey => catalog_of_mem hkey, fun hkey => catalog_of_notMem hkey⟩

theorem unambiguous_of_build (h : d.build = .ok m) : m.Unambiguous := by
  have hm := catalogued_of_build h
  obtain ⟨-, -, hassociations, rfl⟩ := build_eq_ok.mp h
  refine ⟨hm.nodup, ?_, fun a ha => hm.attribute?_eq_some.mpr ⟨ha, rfl⟩, fun a ha => ?_⟩
  · obtain ⟨a, ha, hname⟩ := List.mem_map.mp hm.key_mem
    refine ⟨a, ha, hm.attribute?_eq_some.mpr ⟨ha, hname⟩, fun b hb => ⟨fun hkey => ?_, fun hba => ?_⟩⟩
    · exact List.inj_on_of_nodup_map hm.nodup hb ha (hkey.trans hname.symm)
    · rw [hba, hname]
  · unfold Model.association?
    rw [(find?_name_eq_some hassociations).mpr ⟨ha, rfl⟩]
    rfl

/-- Exactly the declarations with a name and without repetitions are accepted, the others are refused
for the first thing that is wrong with them. The model is the one that is described, with one attribute
and one association for each of their names. -/
theorem build_ofClauses_iff (name : String) (clauses : List Clause) :
    ((∃ m, (ofClauses name clauses).build = .ok m) ↔ (Name.ofText name).snakeCase ≠ "" ∧
        ((clauses.filterMap Clause.attribute?).map Attribute.name).Nodup ∧
        ((clauses.filterMap Clause.association?).map Association.name).Nodup) ∧
      (∀ e, (ofClauses name clauses).build = .error e ↔
        ∃ reason, (ofClauses name clauses).Refused reason ∧ e = .of (.invalidSchema reason)) ∧
      ∀ m, (ofClauses name clauses).build = .ok m → m.Describes name clauses ∧ m.Unambiguous := by
  refine ⟨?_, fun e => build_eq_error, fun m h => ⟨describes_of_build h, unambiguous_of_build h⟩⟩
  rw [ofClauses_eq]
  constructor
  · rintro ⟨m, h⟩
    obtain ⟨hname, hattributes, hassociations, -⟩ := build_eq_ok.mp h
    exact ⟨by simpa using hname, hattributes, hassociations⟩
  · rintro ⟨hname, hattributes, hassociations⟩
    exact ⟨_, build_eq_ok.mpr ⟨by simpa using hname, hattributes, hassociations, rfl⟩⟩

end Declaration

namespace Bookshop

/-- Authors are declared without a primary key, books with one. -/
theorem described :
    (Declaration.ofClauses "Author" authorClauses).build = .ok author ∧
      author.Describes "Author" authorClauses ∧ author.Unambiguous ∧
      (Declaration.ofClauses "Book" bookClauses).build = .ok book ∧
      book.Describes "Book" bookClauses ∧ book.Unambiguous := by
  have hauthor := (Declaration.build_ofClauses_iff "Author" authorClauses).2.2 author build_author
  have hbook := (Declaration.build_ofClauses_iff "Book" bookClauses).2.2 book build_book
  exact ⟨build_author, hauthor.1, hauthor.2, build_book, hbook.1, hbook.2⟩

end Bookshop

end RecordMapper
