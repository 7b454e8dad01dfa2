import Mathlib.Data.List.Nodup
import RecordMapper.Proofs.Data.Merging

/-!
# Maps as they change

Insertions, removals and merges tell what becomes of the names and of the value under each name apart from
one another: the names do not depend on values (`Change.onNames`), and the value under a name does not
depend on the order of names (`Change.onValue`). A map is told by its names in order and the value under
each of them, so every law about changed maps splits into one about names and one about values.
-/

namespace RecordMapper.OrderedMap

variable {β : Type}

/-- What can be done to a map. -/
inductive Change (β : Type)
  | insert (name : String) (value : β)
  | erase (name : String)
  | merge (other : OrderedMap β)

/-- The map after a change. -/
def after (m : OrderedMap β) : Change β → OrderedMap β
  | .insert name value => m.insert name value
  | .erase name => m.erase name
  | .merge other => m.merge other

def afterAll (m : OrderedMap β) (changes : List (Change β)) : OrderedMap β := changes.foldl after m

namespace Change

/-- What becomes of the names: those that stay keep their order, and new ones go to the end. -/
def onNames (names : List String) : Change β → List String
  | insert name _ => if name ∈ names then names else names ++ [name]
  | erase name => names.filter (· ≠ name)
  | merge other => names ++ other.names.filter (· ∉ names)

/-- What becomes of the value under a name. -/
def onValue (key : String) (value? : Option β) : Change β → Option β
  | insert name value => if key = name then some value else value?
  | erase name => if key = name then none else value?
  | merge other => (other.get? key).or value?

/-- No name comes to stand in two places. -/
theorem nodup_onNames {names : List String} (h : names.Nodup) (change : Change β) :
    (change.onNames names).Nodup := by
  cases change with
  | insert name value =>
    by_cases hknown : name ∈ names
    · rw [onNames, if_pos hknown]
      exact h
    · rw [onNames, if_neg hknown]
      refine List.nodup_append.mpr ⟨h, List.nodup_singleton name, ?_⟩
      rintro known hmem _ hname rfl
      rw [List.mem_singleton] at hname
      exact hknown (hname ▸ hmem)
  | erase name => exact h.filter _
  | merge other =>
    refine List.nodup_append.mpr ⟨h, other.nodup.filter _, ?_⟩
    rintro known hmem _ hnew rfl
    have hnot := (List.mem_filter.mp hnew).2
    exact of_decide_eq_true hnot hmem

theorem nodup_foldl_onNames {names : List String} (h : names.Nodup) (changes : List (Change β)) :
    (changes.foldl onNames names).Nodup := by
  induction changes generalizing names with
  | nil => exact h
  | cons change changes ih => exact ih (nodup_onNames h change)

end Change

/-! ## Names and values after changes -/

/-- New names go to the end, in the order in which they are inserted. -/
theorem names_insertAll {entries : List (String × β)} (h : (entries.map Prod.fst).Nodup) (m : OrderedMap β) :
    (m.insertAll entries).names = m.names ++ (entries.map Prod.fst).filter (· ∉ m.names) := by
  induction entries generalizing m with
  | nil => exact (List.append_nil _).symm
  | cons entry entries ih =>
    obtain ⟨known, value⟩ := entry
    obtain ⟨hnot, hrest⟩ := List.nodup_cons.mp h
    have hcons : m.insertAll ((known, value) :: entries) = (m.insert known value).insertAll entries := rfl
    rw [hcons, ih hrest, names_insert, List.map_cons]
    by_cases hknown : known ∈ m.names
    · rw [if_pos hknown, List.filter_cons_of_neg (by simpa using hknown)]
    · have hothers : (entries.map Prod.fst).filter (· ∉ m.names ++ [known]) =
          (entries.map Prod.fst).filter (· ∉ m.names) := by
        refine List.filter_congr fun name hname => ?_
        have hne : name ≠ known := fun heq => hnot (heq ▸ hname)
        simp [hne]
      rw [if_neg hknown, hothers, List.filter_cons_of_pos (by simpa using hknown), List.append_assoc,
        List.singleton_append]

theorem names_merge (m n : OrderedMap β) :
    (m.merge n).names = m.names ++ n.names.filter (· ∉ m.names) :=
  names_insertAll n.nodup m

theorem names_after (m : OrderedMap β) (change : Change β) :
    (m.after change).names = change.onNames m.names := by
  cases change with
  | insert name value => exact names_insert m name value
  | erase name => exact names_erase m name
  | merge other => exact names_merge m other

theorem get?_after (m : OrderedMap β) (change : Change β) (key : String) :
    (m.after change).get? key = change.onValue key (m.get? key) := by
  cases change with
  | insert name value => exact get?_insert m name key value
  | erase name => exact get?_erase m name key
  | merge other => exact get?_merge m other key

theorem names_afterAll (m : OrderedMap β) (changes : List (Change β)) :
    (m.afterAll changes).names = changes.foldl Change.onNames m.names := by
  induction changes generalizing m with
  | nil => rfl
  | cons change changes ih =>
    rw [List.foldl_cons, ← names_after]
    exact ih (m.after change)

theorem get?_afterAll (m : OrderedMap β) (changes : List (Change β)) (key : String) :
    (m.afterAll changes).get? key = changes.foldl (Change.onValue key) (m.get? key) := by
  induction changes generalizing m with
  | nil => rfl
  | cons change changes ih =>
    rw [List.foldl_cons, ← get?_after]
    exact ih (m.after change)

/-! ## Merges -/

theorem merge_assoc (l m n : OrderedMap β) : (l.merge m).merge n = l.merge (m.merge n) := by
  apply ext_get?
  · -- a name is new to the merged map just if it is new to both
    have hnew : ∀ name, name ∉ l.names ++ m.names.filter (· ∉ l.names) ↔
        name ∉ l.names ∧ name ∉ m.names := by
      intro name
      by_cases hname : name ∈ l.names <;> simp [hname]
    simp only [names_merge, List.filter_append, List.filter_filter, List.append_assoc, hnew, Bool.decide_and]
  · intro name
    simp only [get?_merge, Option.or_assoc]

/-- What was merged last is there already. -/
theorem merge_merge_self (m n : OrderedMap β) : (m.merge n).merge n = m.merge n :=
  insertAll_insertAll m n.entries

theorem merge_self (m : OrderedMap β) : m.merge m = m := by
  apply ext_get?
  · exact names_insertAll_of_subset (List.Subset.refl _)
  · intro name
    rw [get?_merge, Option.or_self]

/-- Under any changes no name comes to stand twice, and names and values are what the changes make of them.
A merge takes the values of the second map where it has any, keeps the names of the first map in front and
adds the new ones behind them in their order; it is associative, and merging the same map again or a map
into itself changes nothing. A removal keeps the other names in order, with their values. -/
theorem merge_right_biased :
    (∀ (m : OrderedMap β) (changes : List (Change β)), (m.afterAll changes).names.Nodup ∧
      (m.afterAll changes).names = changes.foldl Change.onNames m.names ∧
      ∀ name, (m.afterAll changes).get? name = changes.foldl (Change.onValue name) (m.get? name)) ∧
    (∀ (a b : OrderedMap β) (name : String), (a.merge b).get? name = (b.get? name).or (a.get? name)) ∧
    (∀ a b : OrderedMap β, (a.merge b).names = a.names ++ b.names.filter (· ∉ a.names)) ∧
    (∀ a b c : OrderedMap β, (a.merge b).merge c = a.merge (b.merge c)) ∧
    (∀ a b : OrderedMap β, (a.merge b).merge b = a.merge b ∧ a.merge a = a) ∧
    (∀ (a : OrderedMap β) (name : String), (a.erase name).names = a.names.filter (· ≠ name) ∧
      ∀ other, other ≠ name → (a.erase name).get? other = a.get? other) := by
  refine ⟨fun m changes => ⟨?_, names_afterAll m changes, get?_afterAll m changes⟩, get?_merge, names_merge,
    merge_assoc, fun a b => ⟨merge_merge_self a b, merge_self a⟩, fun a name => ⟨names_erase a name, ?_⟩⟩
  · rw [names_afterAll]
    exact Change.nodup_foldl_onNames m.nodup changes
  · intro other hother
    rw [get?_erase, if_neg hother]

end RecordMapper.OrderedMap
