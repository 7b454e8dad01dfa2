import RecordMapper.Proofs.Schema.Definitions
import RecordMapper.Proofs.Sql.WellFormed

/-!
# The accepted statements

Which statements make sense for a model is said here clause by clause, without reference to lowering:
which names a statement may use, which values it may give, and what must be there. The main theorem says
that lowering accepts these statements and no others (`exists_lower_iff`), so that no clause is checked
too little and none too much.
-/

namespace RecordMapper

/-! ## Valid statements -/

/-- The value can be cast to the type of the attribute. Only where it is `optional` may nothing come out.
-/
def Attribute.Takes (a : Attribute) (optional : Prop) (value : Value) : Prop :=
  ∃ w, a.type.cast? value = some w ∧ (w = .null → optional)

/-- The condition is about an attribute of the model and a value that can be cast to its type, or it has
as many arguments as marks. -/
def Predicate.Valid (m : Model) : Predicate → Prop
  | equals name value => ∃ a ∈ m.attributes, a.name = name ∧ (a.type.cast? value).isSome
  | raw fragment args => Fragment.placeholders fragment = args.length

/-- The query uses names of the model and its associations. -/
structure Query.Valid (r : Registry) (m : Model) (q : Query) : Prop where
  /-- The joined associations can be resolved and lead to other models. -/
  joins : ∀ name ∈ q.joins.toList,
    ∃ resolved, r.resolve m name = .ok resolved ∧ resolved.target ≠ m
  /-- The selected names are attributes. -/
  select : ∀ name ∈ q.select.toList, name ∈ m.attributes.map Attribute.name
  /-- The grouped names are attributes. -/
  group : ∀ name ∈ q.group.toList, name ∈ m.attributes.map Attribute.name
  /-- The names to order by are attributes. -/
  orderBy : ∀ o ∈ q.orderBy.toList, o.name ∈ m.attributes.map Attribute.name
  /-- The conditions are valid. -/
  filter : ∀ p ∈ q.filter.toList, p.Valid m
  /-- If anything is grouped, then just what is selected. -/
  grouping : q.group.toList = [] ∨
    q.select.toList ≠ [] ∧ ∀ name, name ∈ q.group.toList ↔ name ∈ q.select.toList

/-- The values make a row of the table of the model. -/
structure Values.Insertable (m : Model) (values : Values) : Prop where
  /-- The names are attributes. -/
  names : ∀ name ∈ values.names, name ∈ m.attributes.map Attribute.name
  /-- The given values can be stored; the database gives a missing key. -/
  given : ∀ a ∈ m.attributes, ∀ value, values.get? a.name = some value →
    a.Takes (a.nullable = true ∨ a.name = m.primaryKey) value
  /-- So can the defaults of the attributes that are not given. -/
  default : ∀ a ∈ m.attributes, values.get? a.name = none → ∀ value, a.default? = some value →
    a.Takes (a.nullable = true ∨ a.name = m.primaryKey) value

/-- The values change a row of the table of the model. -/
structure Values.Assignable (m : Model) (values : Values) : Prop where
  /-- Something is given beside the key. -/
  nonempty : ∃ name ∈ values.names, name ≠ m.primaryKey
  /-- What is given beside the key are values for attributes. -/
  given : ∀ entry ∈ values.entries, entry.1 ≠ m.primaryKey →
    ∃ a ∈ m.attributes, a.name = entry.1 ∧ a.Takes (a.nullable = true) entry.2

/-- The value can be the key of a record of the model. -/
def Model.TakesKey (m : Model) (key : Value) : Prop :=
  key ≠ .null ∧ ∃ a ∈ m.attributes, a.name = m.primaryKey ∧ (a.type.cast? key).isSome

/-- The statement makes sense for the model. -/
def Statement.Valid (r : Registry) (m : Model) : Statement → Prop
  | query q => q.Valid r m
  | insert _ values => values.Insertable m
  | update _ key values => m.TakesKey key ∧ values.Assignable m
  | delete _ key => m.TakesKey key
  | createTable _ => True

theorem Value.isNull_eq_true {v : Value} : v.isNull = true ↔ v = .null := by
  cases v <;> simp [isNull]

namespace Sql

variable {r : Registry} {m : Model} {name : String}

/-! ## Queries -/

theorem exists_lowerJoin_iff (hr : r.Consistent) (hm : m ∈ r.models) :
    (∃ j, lowerJoin r m name = .ok j) ↔
      ∃ resolved, r.resolve m name = .ok resolved ∧ resolved.target ≠ m := by
  simp only [lowerJoin_eq_ok]
  constructor
  · rintro ⟨_, resolved, hresolve, hother, _⟩
    exact ⟨resolved, hresolve, fun heq => hother (congrArg Model.name heq)⟩
  · rintro ⟨resolved, hresolve, hother⟩
    have hname : resolved.target.name ≠ m.name := fun heq =>
      hother (hr.eq_of_name (ResolvedAssociation.target_mem hresolve) hm heq)
    exact ⟨_, _, hresolve, hname, rfl⟩

theorem exists_lookup_iff (scope : Scope) :
    (∃ c, scope.lookup name = .ok c) ↔ name ∈ scope.model.attributes.map Attribute.name := by
  rw [← Model.attribute?_isSome, Option.isSome_iff_exists]
  simp only [Scope.lookup_eq_ok, ↓existsAndEq, and_true]

theorem exists_ordering_iff (scope : Scope) {o : OrderBy} :
    (∃ entry, scope.ordering o = .ok entry) ↔
      o.name ∈ scope.model.attributes.map Attribute.name := by
  rw [← Model.attribute?_isSome, Option.isSome_iff_exists]
  simp only [Scope.ordering_eq_ok, ↓existsAndEq, and_true]

theorem exists_condition_iff (scope : Scope) (hm : scope.model.Catalogued) {p : Predicate} :
    (∃ c, scope.condition p = .ok c) ↔ p.Valid scope.model := by
  cases p with
  | raw fragment args => simp only [Scope.condition_raw_eq_ok, exists_and_left, exists_eq', and_true]; rfl
  | equals name value =>
    simp only [Scope.condition_equals_eq_ok, Predicate.Valid, hm.attribute?_eq_some, Option.isSome_iff_exists]
    constructor
    · rintro ⟨_, a, w, ⟨ha, hname⟩, hcast, _⟩
      exact ⟨a, ha, hname, w, hcast⟩
    · rintro ⟨a, ha, hname, w, hcast⟩
      exact ⟨_, a, w, ⟨ha, hname⟩, hcast, rfl⟩

theorem checkGrouping_iff {selected grouped : List String}
    (hgrouped : ∀ name ∈ grouped, name ∈ m.attributes.map Attribute.name) :
    checkGrouping m selected grouped = .ok () ↔
      grouped = [] ∨ selected ≠ [] ∧ ∀ name, name ∈ grouped ↔ name ∈ selected := by
  rw [checkGrouping_eq_ok]
  refine or_congr_right (and_congr_right fun _ => ?_)
  constructor
  · rintro ⟨hforth, hback⟩ name
    exact ⟨fun hname => (hforth name hname).2, hback name⟩
  · intro hsame
    refine ⟨fun name hname => ⟨?_, (hsame name).mp hname⟩, fun name => (hsame name).mpr⟩
    exact Model.attribute?_isSome.mpr (hgrouped name hname)

theorem exists_lowerQuery_iff (hr : r.Consistent) (hm : m ∈ r.models) {q : Query} :
    (∃ s, lowerQuery r m q = .ok s) ↔ q.Valid r m := by
  have hcatalogued := (hr.declared m hm).catalogued
  constructor
  · rintro ⟨s, hs⟩
    obtain ⟨joins, columns, groupBy, filter, orderBy, hjoins, hcolumns, hgrouping, hgroup, hfilter,
      horder, _⟩ := lowerQuery_eq_ok.mp hs
    have group : ∀ name ∈ q.group.toList, name ∈ m.attributes.map Attribute.name := fun name hname =>
      (exists_lookup_iff _).mp (exists_mapM_eq_ok.mp ⟨_, hgroup⟩ name hname)
    refine
      { joins := fun name hname =>
          (exists_lowerJoin_iff hr hm).mp (exists_mapM_eq_ok.mp ⟨_, hjoins⟩ name hname)
        select := ?_
        group := group
        orderBy := fun o ho => (exists_ordering_iff _).mp (exists_mapM_eq_ok.mp ⟨_, horder⟩ o ho)
        filter := fun p hp =>
          (exists_condition_iff _ hcatalogued).mp (exists_mapM_eq_ok.mp ⟨_, hfilter⟩ p hp)
        grouping := (checkGrouping_iff group).mp hgrouping }
    intro name hname
    have hselected : ¬q.select.isEmpty = true := fun hempty =>
      List.ne_nil_of_mem hname ((Trail.isEmpty_iff _).mp hempty)
    rw [if_neg hselected] at hcolumns
    exact (exists_lookup_iff _).mp (exists_mapM_eq_ok.mp ⟨_, hcolumns⟩ name hname)
  · intro hq
    obtain ⟨joins, hjoins⟩ := exists_mapM_eq_ok.mpr fun name hname =>
      (exists_lowerJoin_iff hr hm).mpr (hq.joins name hname)
    have hlookups : ∀ names : List String, (∀ name ∈ names, name ∈ m.attributes.map Attribute.name) →
        ∃ columns, names.mapM (Scope.lookup ⟨m, !joins.isEmpty⟩) = .ok columns := fun names hnames =>
      exists_mapM_eq_ok.mpr fun name hname => (exists_lookup_iff _).mpr (hnames name hname)
    obtain ⟨selected, hselected⟩ := hlookups _ hq.select
    obtain ⟨groupBy, hgroup⟩ := hlookups _ hq.group
    obtain ⟨filter, hfilter⟩ := exists_mapM_eq_ok.mpr fun p hp =>
      (exists_condition_iff ⟨m, !joins.isEmpty⟩ hcatalogued).mpr (hq.filter p hp)
    obtain ⟨orderBy, horder⟩ := exists_mapM_eq_ok.mpr fun o ho =>
      (exists_ordering_iff ⟨m, !joins.isEmpty⟩).mpr (hq.orderBy o ho)
    obtain ⟨columns, hcolumns⟩ : ∃ columns,
        (if q.select.isEmpty then .ok (m.attributes.map (Scope.column ⟨m, !joins.isEmpty⟩))
          else q.select.toList.mapM (Scope.lookup ⟨m, !joins.isEmpty⟩)) = Except.ok columns := by
      split_ifs
      · exact ⟨_, rfl⟩
      · exact ⟨selected, hselected⟩
    exact ⟨_, lowerQuery_eq_ok.mpr ⟨joins, columns, groupBy, filter, orderBy, hjoins, hcolumns,
      (checkGrouping_iff hq.group).mpr hq.grouping, hgroup, hfilter, horder, rfl⟩⟩

/-! ## Changing rows -/

variable {values : Values} {key : Value} {a : Attribute}

/-- An insert has something to store for an attribute, or nothing, unless what is given cannot be stored.
-/
theorem exists_storedValue_iff : (∃ stored, storedValue m values a = .ok stored) ↔
    ∀ value, givenValue values a = some value →
      a.Takes (a.nullable = true ∨ a.name = m.primaryKey) value := by
  simp only [storedValue_eq_ok]
  constructor
  · rintro ⟨stored, ⟨hnone, _⟩ | ⟨given, w, hgiven, hcast, hstored⟩⟩ value hvalue
    · rw [hnone] at hvalue
      cases hvalue
    · rw [hgiven] at hvalue
      cases hvalue
      refine ⟨w, hcast, fun hnull => ?_⟩
      rcases hstored with ⟨⟨_, hkey⟩, _⟩ | ⟨_, hpresent, _⟩
      · exact .inr hkey
      · exact .inl (hpresent (Value.isNull_eq_true.mpr hnull))
  · intro htakes
    cases hgiven : givenValue values a with
    | none => exact ⟨none, .inl ⟨rfl, rfl⟩⟩
    | some given =>
      obtain ⟨w, hcast, hoptional⟩ := htakes given hgiven
      by_cases hkey : w.isNull = true ∧ a.name = m.primaryKey
      · exact ⟨none, .inr ⟨given, w, rfl, hcast, .inl ⟨hkey, rfl⟩⟩⟩
      · refine ⟨some (a.name, w), .inr ⟨given, w, rfl, hcast, .inr ⟨hkey, fun hnull => ?_, rfl⟩⟩⟩
        rcases hoptional (Value.isNull_eq_true.mp hnull) with hnullable | hname
        · exact hnullable
        · exact absurd ⟨hnull, hname⟩ hkey

theorem exists_lowerInsert_iff : (∃ i, lowerInsert m values = .ok i) ↔ values.Insertable m := by
  have hstored : (∃ stored, m.attributes.mapM (storedValue m values) = .ok stored) ↔
      ∀ a ∈ m.attributes, ∀ value, givenValue values a = some value →
        a.Takes (a.nullable = true ∨ a.name = m.primaryKey) value := by
    rw [exists_mapM_eq_ok]
    exact forall₂_congr fun a _ => exists_storedValue_iff
  simp only [lowerInsert_eq_ok, exists_and_left, ↓existsAndEq, and_true, hstored, Model.attribute?_isSome]
  constructor
  · rintro ⟨hnames, htakes⟩
    refine ⟨hnames, fun a ha value hvalue => htakes a ha value ?_, fun a ha hnone value hvalue =>
      htakes a ha value ?_⟩
    · simp [givenValue, hvalue]
    · simp [givenValue, hnone, hvalue]
  · rintro ⟨hnames, hgiven, hdefault⟩
    refine ⟨hnames, fun a ha value hvalue => ?_⟩
    cases hget : values.get? a.name with
    | some given =>
      rw [givenValue, hget] at hvalue
      cases hvalue
      exact hgiven a ha _ hget
    | none =>
      rw [givenValue, hget] at hvalue
      exact hdefault a ha hget value hvalue

theorem exists_lowerKey_iff (hm : m.Catalogued) : (∃ row, lowerKey m key = .ok row) ↔ m.TakesKey key := by
  simp only [lowerKey_eq_ok, Model.TakesKey, Model.primaryKeyAttribute?, hm.attribute?_eq_some,
    Option.isSome_iff_exists]
  have hnull : key.isNull = false ↔ key ≠ .null := by
    rw [← Bool.not_eq_true, Value.isNull_eq_true]
  constructor
  · rintro ⟨_, a, w, ⟨ha, hname⟩, hpresent, hcast, _⟩
    exact ⟨hnull.mp hpresent, a, ha, hname, w, hcast⟩
  · rintro ⟨hpresent, a, ha, hname, w, hcast⟩
    exact ⟨_, a, w, ⟨ha, hname⟩, hnull.mpr hpresent, hcast, rfl⟩

theorem exists_assignment_iff (hm : m.Catalogued) {entry : String × Value} :
    (∃ row, assignment m entry = .ok row) ↔
      ∃ a ∈ m.attributes, a.name = entry.1 ∧ a.Takes (a.nullable = true) entry.2 := by
  simp only [assignment_eq_ok, hm.attribute?_eq_some, Attribute.Takes, Value.isNull_eq_true]
  constructor
  · rintro ⟨_, a, w, ⟨ha, hname⟩, hcast, hpresent, _⟩
    exact ⟨a, ha, hname, w, hcast, hpresent⟩
  · rintro ⟨a, ha, hname, w, hcast, hpresent⟩
    exact ⟨_, a, w, ⟨ha, hname⟩, hcast, hpresent, rfl⟩

theorem exists_lowerUpdate_iff (hm : m.Catalogued) :
    (∃ u, lowerUpdate m key values = .ok u) ↔ m.TakesKey key ∧ values.Assignable m := by
  have hmem : ∀ entry : String × Value,
      entry ∈ values.entries.filter (fun entry => entry.1 ≠ m.primaryKey) ↔
        entry ∈ values.entries ∧ entry.1 ≠ m.primaryKey := by
    intro entry
    simp [List.mem_filter]
  rw [← exists_lowerKey_iff hm]
  constructor
  · rintro ⟨u, hu⟩
    obtain ⟨row, assignments, hkey, hassign, hne, _⟩ := lowerUpdate_eq_ok.mp hu
    refine ⟨⟨row, hkey⟩, ?_, fun entry hentry hname => ?_⟩
    · obtain ⟨assigned, hassigned⟩ := List.exists_mem_of_ne_nil _ hne
      obtain ⟨entry, hentry, _⟩ := exists_of_mem_mapM hassign hassigned
      obtain ⟨hentry, hname⟩ := (hmem entry).mp hentry
      exact ⟨entry.1, List.mem_map_of_mem hentry, hname⟩
    · exact (exists_assignment_iff hm).mp
        (exists_mapM_eq_ok.mp ⟨_, hassign⟩ entry ((hmem entry).mpr ⟨hentry, hname⟩))
  · rintro ⟨⟨row, hkey⟩, hvalues⟩
    obtain ⟨assignments, hassign⟩ := exists_mapM_eq_ok.mpr fun entry hentry =>
      (exists_assignment_iff hm).mpr
        (hvalues.given entry ((hmem entry).mp hentry).1 ((hmem entry).mp hentry).2)
    refine ⟨_, lowerUpdate_eq_ok.mpr ⟨row, assignments, hkey, hassign, ?_, rfl⟩⟩
    obtain ⟨name, hname, hother⟩ := hvalues.nonempty
    obtain ⟨entry, hentry, rfl⟩ := List.mem_map.mp hname
    obtain ⟨assigned, hassigned, _⟩ := exists_of_mem_of_mapM hassign ((hmem entry).mpr ⟨hentry, hother⟩)
    exact List.ne_nil_of_mem hassigned

theorem exists_lowerDelete_iff (hm : m.Catalogued) :
    (∃ d, lowerDelete m key = .ok d) ↔ m.TakesKey key := by
  rw [← exists_lowerKey_iff hm]
  simp only [lowerDelete_eq_ok, ↓existsAndEq, and_true]

/-! ## Statements -/

/-- Lowering accepts the statements whose model is found and that make sense for it, and no others. -/
theorem exists_lower_iff (hr : r.Consistent) {s : RecordMapper.Statement} :
    (∃ t, lower r s = .ok t) ↔ ∃ m, r.get s.model = .ok m ∧ s.Valid r m := by
  have hfor : ∀ m, r.get s.model = .ok m → ((∃ t, lowerFor r m s = .ok t) ↔ s.Valid r m) := by
    intro m hget
    have hmem := Registry.mem_of_get hget
    have hm := (hr.declared m hmem).catalogued
    cases s with
    | query q =>
      simp only [lowerFor, map_eq_ok, ↓existsAndEq, and_true]
      exact exists_lowerQuery_iff hr hmem
    | insert model values =>
      simp only [lowerFor, map_eq_ok, ↓existsAndEq, and_true]
      exact exists_lowerInsert_iff
    | update model key values =>
      simp only [lowerFor, map_eq_ok, ↓existsAndEq, and_true]
      exact exists_lowerUpdate_iff hm
    | delete model key =>
      simp only [lowerFor, map_eq_ok, ↓existsAndEq, and_true]
      exact exists_lowerDelete_iff hm
    | createTable model => exact iff_of_true ⟨_, rfl⟩ trivial
  simp only [lower_eq_ok]
  rw [exists_comm]
  refine exists_congr fun m => ?_
  rw [exists_and_left]
  exact and_congr_right (hfor m)

end Sql

namespace Bookshop

theorem groupedQuery_valid : registry.Consistent ∧
    ∃ m, registry.get "book" = .ok m ∧ (Statement.query groupedQuery).Valid registry m :=
  ⟨consistent, (Sql.exists_lower_iff consistent).mp ⟨_, lower_groupedQuery⟩⟩

end Bookshop

end RecordMapper
