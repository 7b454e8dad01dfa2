/-! # Ordered maps

A finite map from names to values that remembers the order in which its names first came in. Giving
a known name a new value keeps the name's place; a new name goes to the end; removing a name leaves
the others in order. Rows of a result, the values of a record and the table of open connections are
all of this kind.

No name occurs twice. That is part of the type, so every operation below carries its proof.
-/

namespace RecordMapper

/-- A finite map from names to values, in the order in which the names first came in. -/
structure OrderedMap (β : Type) where
  /-- The entries, the oldest name first. -/
  entries : List (String × β)
  /-- No name occurs twice. -/
  nodup : (entries.map Prod.fst).Nodup
deriving DecidableEq

namespace OrderedMap

variable {β : Type}

@[ext] theorem ext {m n : OrderedMap β} (h : m.entries = n.entries) : m = n := by
  cases m; cases n; cases h; rfl

/-- The map without entries. -/
def empty : OrderedMap β := ⟨[], .nil⟩

instance : Inhabited (OrderedMap β) := ⟨empty⟩

/-- The names, the oldest first. -/
def names (m : OrderedMap β) : List String := m.entries.map Prod.fst

/-- The number of entries. -/
def size (m : OrderedMap β) : Nat := m.entries.length

/-- Whether there are no entries. -/
def isEmpty (m : OrderedMap β) : Bool := m.entries.isEmpty

/-- The value under a name. -/
def get? (m : OrderedMap β) (name : String) : Option β := m.entries.lookup name

/-- Whether a name is present. -/
def contains (m : OrderedMap β) (name : String) : Bool := m.names.contains name

/-! ## Changing a map -/

/-- The entries with the value under `name` replaced. -/
def replaceEntry (name : String) (value : β) (entries : List (String × β)) : List (String × β) :=
  entries.map fun entry => if entry.1 = name then (name, value) else entry

/-- Replacing a value keeps the names and their order. -/
theorem names_replaceEntry (name : String) (value : β) (entries : List (String × β)) :
    (replaceEntry name value entries).map Prod.fst = entries.map Prod.fst := by
  unfold replaceEntry
  rw [List.map_map]
  refine List.map_congr_left fun entry _ => ?_
  by_cases h : entry.1 = name <;> simp [h]

/-- Gives `name` the value: in its place if the name is present, else at the end. -/
def insert (m : OrderedMap β) (name : String) (value : β) : OrderedMap β :=
  if h : name ∈ m.names then
    ⟨replaceEntry name value m.entries, by rw [names_replaceEntry]; exact m.nodup⟩
  else
    ⟨m.entries ++ [(name, value)], by
      rw [List.map_append, List.nodup_append]
      refine ⟨m.nodup, by simp, ?_⟩
      intro a ha b hb hab
      simp only [List.map_cons, List.map_nil, List.mem_singleton] at hb
      exact h (by rw [← hb, ← hab]; exact ha)⟩

/-- Removes a name; the others keep their order. -/
def erase (m : OrderedMap β) (name : String) : OrderedMap β :=
  ⟨m.entries.filter fun entry => entry.1 ≠ name, m.nodup.sublist (List.filter_sublist.map _)⟩

/-- Inserts every entry of `n` into `m`, in the order of `n`. -/
def merge (m n : OrderedMap β) : OrderedMap β :=
  n.entries.foldl (fun acc entry => acc.insert entry.1 entry.2) m

/-- Inserts the entries from left to right: the last value of a name wins, its first place stays. -/
def ofList (entries : List (String × β)) : OrderedMap β :=
  entries.foldl (fun acc entry => acc.insert entry.1 entry.2) empty

/-- Whether two maps have the same names with values that `same` relates, in whatever order. -/
def agrees (same : β → β → Bool) (m n : OrderedMap β) : Bool :=
  m.size == n.size && m.entries.all fun entry =>
    match n.get? entry.1 with
    | some value => same entry.2 value
    | none => false

/-! ## Names after a change -/

/-- A known name keeps its place, a new one goes to the end. -/
theorem names_insert (m : OrderedMap β) (name : String) (value : β) :
    (m.insert name value).names = if name ∈ m.names then m.names else m.names ++ [name] := by
  unfold insert
  split
  · exact names_replaceEntry name value m.entries
  · simp [names]

/-- Removing a name keeps the other names in order. -/
theorem names_erase (m : OrderedMap β) (name : String) :
    (m.erase name).names = m.names.filter (· ≠ name) := by
  simp [names, erase, List.filter_map, Function.comp_def]

/-! ## Values after a change -/

theorem lookup_cons_eq_ite (other name : String) (value : β) (entries : List (String × β)) :
    ((name, value) :: entries).lookup other =
      if other = name then some value else entries.lookup other := by
  by_cases h : other = name
  · simp [h]
  · rw [List.lookup_cons, beq_false_of_ne h, if_neg h]

theorem lookup_replaceEntry (name other : String) (value : β) (entries : List (String × β)) :
    (replaceEntry name value entries).lookup other =
      if other = name ∧ name ∈ entries.map Prod.fst then some value else entries.lookup other := by
  unfold replaceEntry
  induction entries with
  | nil => simp
  | cons entry entries ih =>
    obtain ⟨known, old⟩ := entry
    by_cases hk : known = name
    · by_cases ho : other = name <;> simp_all [lookup_cons_eq_ite]
    · have absent :
          name ∈ ((known, old) :: entries).map Prod.fst ↔ name ∈ entries.map Prod.fst := by
        simp [Ne.symm hk]
      rw [List.map_cons, if_neg hk, lookup_cons_eq_ite, lookup_cons_eq_ite, ih]
      simp only [absent]
      by_cases ho : other = known
      · simp [ho, hk]
      · simp [ho]

theorem lookup_append_entry (name other : String) (value : β) (entries : List (String × β))
    (h : name ∉ entries.map Prod.fst) :
    (entries ++ [(name, value)]).lookup other =
      if other = name then some value else entries.lookup other := by
  induction entries with
  | nil => simp [lookup_cons_eq_ite]
  | cons entry entries ih =>
    obtain ⟨known, old⟩ := entry
    simp only [List.map_cons, List.mem_cons, not_or] at h
    by_cases ho : other = known
    · simp [ho, Ne.symm h.1]
    · simp [lookup_cons_eq_ite, ho, ih h.2]

theorem lookup_filter_ne (name other : String) (entries : List (String × β)) :
    (entries.filter fun entry => entry.1 ≠ name).lookup other =
      if other = name then none else entries.lookup other := by
  induction entries with
  | nil => simp
  | cons entry entries ih =>
    obtain ⟨known, old⟩ := entry
    by_cases hk : known = name
    · rw [List.filter_cons_of_neg (by simp [hk]), ih, lookup_cons_eq_ite, hk]
      by_cases ho : other = name <;> simp [ho]
    · rw [List.filter_cons_of_pos (by simp [hk]), lookup_cons_eq_ite, lookup_cons_eq_ite, ih]
      by_cases ho : other = known
      · simp [ho, hk]
      · simp [ho]

/-- A name that is given a value has it, and every other name keeps its own. -/
theorem get?_insert (m : OrderedMap β) (name other : String) (value : β) :
    (m.insert name value).get? other = if other = name then some value else m.get? other := by
  unfold insert get?
  split
  · rename_i h
    have present : name ∈ m.entries.map Prod.fst := h
    simp [lookup_replaceEntry, present]
  · rename_i h
    exact lookup_append_entry name other value m.entries h

/-- A removed name has no value, and every other name keeps its own. -/
theorem get?_erase (m : OrderedMap β) (name other : String) :
    (m.erase name).get? other = if other = name then none else m.get? other :=
  lookup_filter_ne name other m.entries

end OrderedMap

end RecordMapper
