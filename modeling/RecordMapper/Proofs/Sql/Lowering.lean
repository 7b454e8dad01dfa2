import RecordMapper.Proofs.Schema.Catalog
import RecordMapper.Sql.Lowering

/-!
# What lowering accepts and gives

Each part of lowering is described by one equivalence: when it is accepted, and what it gives then.
The theorems about lowered statements are read off these equivalences, so that a change to one part
of lowering asks for a new proof of one lemma here.
-/

namespace RecordMapper

/-! ## Casts -/

namespace ValueType

variable {t : ValueType} {v w : Value}

theorem cast_eq_ok : t.cast v = .ok w ↔ t.cast? v = some w := by
  unfold cast
  cases t.cast? v with
  | none => simp
  | some w' => simp

theorem cast_eq_error {e : Error} :
    t.cast v = .error e ↔ t.cast? v = none ∧ .of (.typeConversion v t) = e := by
  unfold cast
  cases t.cast? v with
  | none => simp
  | some w => simp

/-- A cast gives nothing for nothing only. -/
theorem isNull_of_cast? (h : t.cast? v = some w) : w.isNull = v.isNull := by
  cases v with
  | null =>
    rw [cast?_null, Option.some.injEq] at h
    rw [← h]
  | bool b =>
    cases t <;> simp only [cast?, Option.some.injEq, reduceCtorEq] at h
    rw [← h]
  | text s =>
    cases t <;> simp only [cast?, Option.some.injEq, reduceCtorEq] at h
    rw [← h]
  | float x =>
    cases t with
    | integer =>
      simp only [cast?, Option.map_eq_some_iff] at h
      obtain ⟨n, -, rfl⟩ := h
      rfl
    | float =>
      simp only [cast?, Option.some.injEq] at h
      rw [← h]
    | string => simp only [cast?, reduceCtorEq] at h
    | boolean => simp only [cast?, reduceCtorEq] at h
  | int n =>
    cases t with
    | integer =>
      simp only [cast?, Option.some.injEq] at h
      rw [← h]
    | float =>
      simp only [cast?, Option.some.injEq] at h
      rw [← h]
      rfl
    | string => simp only [cast?, reduceCtorEq] at h
    | boolean =>
      simp only [cast?] at h
      split_ifs at h <;> simp only [Option.some.injEq] at h <;> rw [← h] <;> rfl

/-- A cast of something gives a value of the type. -/
theorem type?_eq_of_cast? (h : t.cast? v = some w) (hw : w.isNull = false) : w.type? = some t := by
  rcases type?_of_cast? h with rfl | ht
  · cases hw
  · exact ht

end ValueType

namespace Sql

variable {r : Registry} {m : Model} {scope : Scope} {name : String} {a : Attribute}

theorem known_eq_ok : known m name = .ok a ↔ m.attribute? name = some a := by
  unfold known
  cases m.attribute? name with
  | none => simp
  | some a' => simp

/-! ## Parts of a select -/

theorem Scope.lookup_eq_ok {c : Column} :
    scope.lookup name = .ok c ↔ ∃ a, scope.model.attribute? name = some a ∧ scope.column a = c := by
  simp only [lookup, map_eq_ok, known_eq_ok]

theorem Scope.ordering_eq_ok {o : OrderBy} {entry : Column × Direction} :
    scope.ordering o = .ok entry ↔
      ∃ a, scope.model.attribute? o.name = some a ∧ (scope.column a, o.direction) = entry := by
  simp only [ordering, map_eq_ok, lookup_eq_ok]
  constructor
  · rintro ⟨_, ⟨a, ha, rfl⟩, hentry⟩
    exact ⟨a, ha, hentry⟩
  · rintro ⟨a, ha, hentry⟩
    exact ⟨_, ⟨a, ha, rfl⟩, hentry⟩

theorem Scope.condition_equals_eq_ok {value : Value} {c : Condition} :
    scope.condition (.equals name value) = .ok c ↔
      ∃ a w, scope.model.attribute? name = some a ∧ a.type.cast? value = some w ∧
        (if w.isNull then .isNull (scope.column a) else .equals (scope.column a) w) = c := by
  simp only [condition, bind_eq_ok, pure_eq_ok, known_eq_ok, ValueType.cast_eq_ok, exists_and_left]

theorem Scope.condition_raw_eq_ok {fragment : String} {args : List Value} {c : Condition} :
    scope.condition (.raw fragment args) = .ok c ↔
      Fragment.placeholders fragment = args.length ∧ .raw fragment args = c := by
  simp only [condition]
  split_ifs with h
  · simp [h]
  · simp [h]

/-- The join along an association puts the keys of both sides next to each other. -/
def ResolvedAssociation.join (m : Model) (resolved : ResolvedAssociation) : Join where
  table := resolved.target.tableName
  left := .qualified resolved.target.tableName resolved.targetKey
  right := .qualified m.tableName resolved.ownerKey

theorem lowerJoin_eq_ok {association : String} {j : Join} :
    lowerJoin r m association = .ok j ↔ ∃ resolved, r.resolve m association = .ok resolved ∧
      resolved.target.name ≠ m.name ∧ ResolvedAssociation.join m resolved = j := by
  simp only [lowerJoin, bind_eq_ok, ite_throw_bind_eq_ok, pure_eq_ok]
  rfl

/-- Grouping asks for grouped and selected names that are attributes and the same ones. -/
theorem checkGrouping_eq_ok {selected grouped : List String} :
    checkGrouping m selected grouped = .ok () ↔ grouped = [] ∨ selected ≠ [] ∧
      (∀ name ∈ grouped, (m.attribute? name).isSome ∧ name ∈ selected) ∧
      ∀ name ∈ selected, name ∈ grouped := by
  cases grouped with
  | nil => simp [checkGrouping]
  | cons first others =>
    simp only [checkGrouping, ite_throw_bind_eq_ok, bind_eq_ok, forM_eq_ok, ite_else_throw_eq_ok, known_eq_ok,
      List.isEmpty_iff, List.contains_iff_mem, Option.isSome_iff_exists, pure_eq_ok, reduceCtorEq,
      false_or, and_true, exists_const, ne_eq, exists_and_right]

/-- A query is lowered part by part; nothing but the joins decides how its columns are written. -/
theorem lowerQuery_eq_ok {q : Query} {s : Select} :
    lowerQuery r m q = .ok s ↔ ∃ joins columns groupBy filter orderBy,
      q.joins.toList.mapM (lowerJoin r m) = .ok joins ∧
      (if q.select.isEmpty then .ok (m.attributes.map (Scope.column ⟨m, !joins.isEmpty⟩))
        else q.select.toList.mapM (Scope.lookup ⟨m, !joins.isEmpty⟩)) = .ok columns ∧
      checkGrouping m q.select.toList q.group.toList = .ok () ∧
      q.group.toList.mapM (Scope.lookup ⟨m, !joins.isEmpty⟩) = .ok groupBy ∧
      q.filter.toList.mapM (Scope.condition ⟨m, !joins.isEmpty⟩) = .ok filter ∧
      q.orderBy.toList.mapM (Scope.ordering ⟨m, !joins.isEmpty⟩) = .ok orderBy ∧
      ⟨m.tableName, columns, joins, filter, groupBy, orderBy, q.limit⟩ = s := by
  unfold lowerQuery
  simp only [bind_eq_ok]
  cases q.select.isEmpty with
  | true =>
    simp only [if_true, bind_eq_ok, pure_eq_ok, exists_unit_eq_ok, exists_and_left, Except.ok.injEq]
  | false =>
    simp only [Bool.false_eq_true, if_false, bind_eq_ok, pure_eq_ok, exists_unit_eq_ok, exists_and_left]

/-! ## Rows -/

variable {values : Values} {value key : Value} {entry row : String × Value}

theorem checkPresence_eq_ok {u : Unit} :
    checkPresence m a value = .ok u ↔ (value.isNull = true → a.nullable = true) := by
  unfold checkPresence
  cases value.isNull <;> cases a.nullable <;> simp

/-- What a record gives for an attribute: its own value or else the default. -/
def givenValue (values : Values) (a : Attribute) : Option Value := values.get? a.name <|> a.default?

/-- An insert stores the cast of the given value, unless the database is to choose a key. -/
theorem storedValue_eq_ok {stored : Option (String × Value)} :
    storedValue m values a = .ok stored ↔
      givenValue values a = none ∧ none = stored ∨
      ∃ given w, givenValue values a = some given ∧ a.type.cast? given = some w ∧
        ((w.isNull = true ∧ a.name = m.primaryKey) ∧ none = stored ∨
          ¬(w.isNull = true ∧ a.name = m.primaryKey) ∧ (w.isNull = true → a.nullable = true) ∧
            some (a.name, w) = stored) := by
  unfold storedValue
  rw [show (values.get? a.name <|> a.default?) = givenValue values a from rfl]
  cases givenValue values a with
  | none => simp
  | some given =>
    simp only [bind_eq_ok, ValueType.cast_eq_ok, reduceCtorEq, false_and, false_or, Option.some.injEq,
      exists_and_left, exists_eq_left']
    refine exists_congr fun w => and_congr_right fun _ => ?_
    simp only [Bool.and_eq_true, beq_iff_eq]
    split_ifs with hskip
    · simp [hskip, pure_eq_ok]
    · simp only [hskip, not_false_eq_true, false_and, false_or, true_and, bind_eq_ok, checkPresence_eq_ok,
        pure_eq_ok, exists_const]

/-- An insert is accepted if every given name is an attribute and every attribute's value can be
stored. -/
theorem lowerInsert_eq_ok {i : Insert} :
    lowerInsert m values = .ok i ↔ (∀ name ∈ values.names, (m.attribute? name).isSome) ∧
      ∃ stored, m.attributes.mapM (storedValue m values) = .ok stored ∧
        ⟨m.tableName, (stored.filterMap id).map Prod.fst, (stored.filterMap id).map Prod.snd⟩ = i := by
  unfold lowerInsert
  simp only [bind_eq_ok, forM_eq_ok, discard_eq_ok, known_eq_ok, pure_eq_ok, exists_const,
    Option.isSome_iff_exists]

theorem lowerKey_eq_ok : lowerKey m key = .ok entry ↔
    ∃ a w, m.primaryKeyAttribute? = some a ∧ key.isNull = false ∧ a.type.cast? key = some w ∧
      (a.name, w) = entry := by
  unfold lowerKey
  cases m.primaryKeyAttribute? with
  | none => simp
  | some a =>
    cases key.isNull with
    | true => simp
    | false => simp [map_eq_ok, ValueType.cast_eq_ok]

theorem assignment_eq_ok : assignment m entry = .ok row ↔
    ∃ a w, m.attribute? entry.1 = some a ∧ a.type.cast? entry.2 = some w ∧
      (w.isNull = true → a.nullable = true) ∧ (a.name, w) = row := by
  unfold assignment
  simp only [bind_eq_ok, known_eq_ok, ValueType.cast_eq_ok, checkPresence_eq_ok, pure_eq_ok, exists_const,
    exists_and_left]

/-- An update is accepted if its key is and if something is left to assign beside the key. -/
theorem lowerUpdate_eq_ok {u : Update} :
    lowerUpdate m key values = .ok u ↔ ∃ row assignments, lowerKey m key = .ok row ∧
      (values.entries.filter fun entry => entry.1 ≠ m.primaryKey).mapM (assignment m) = .ok assignments ∧
      assignments ≠ [] ∧ ⟨m.tableName, assignments, row⟩ = u := by
  unfold lowerUpdate
  simp only [bind_eq_ok, ite_throw_bind_eq_ok, pure_eq_ok, List.isEmpty_iff, ne_eq, exists_and_left]

theorem lowerDelete_eq_ok {d : Delete} :
    lowerDelete m key = .ok d ↔ ∃ row, lowerKey m key = .ok row ∧ ⟨m.tableName, row⟩ = d := by
  unfold lowerDelete
  exact map_eq_ok

/-! ## Statements -/

theorem lower_eq_ok {s : RecordMapper.Statement} {t : Statement} :
    lower r s = .ok t ↔ ∃ m, r.get s.model = .ok m ∧ lowerFor r m s = .ok t := by
  unfold lower
  exact bind_eq_ok

end Sql

end RecordMapper
