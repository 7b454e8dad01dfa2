import RecordMapper.Data.OrderedMap

/-!
# Entries inserted one after the other

Maps are merged, built and written back by inserting entries one after the other. Under each name that
leaves the last value that was inserted, and a name that was not among them keeps its value.
-/

namespace RecordMapper.OrderedMap

variable {β : Type} {entries : List (String × β)} {name : String}

theorem lookup_eq_none_iff_notMem : entries.lookup name = none ↔ name ∉ entries.map Prod.fst := by
  rw [List.lookup_eq_none_iff]
  constructor
  · intro h hmem
    obtain ⟨entry, hentry, heq⟩ := List.mem_map.mp hmem
    have hne := h entry hentry
    rw [heq] at hne
    exact absurd hne (by simp)
  · intro h entry hentry
    rw [bne_iff_ne]
    intro heq
    exact h (List.mem_map.mpr ⟨entry, hentry, heq.symm⟩)

/-- Where no name occurs twice, the last value of a name is the first one. -/
theorem lookup_reverse (h : (entries.map Prod.fst).Nodup) (name : String) :
    entries.reverse.lookup name = entries.lookup name := by
  induction entries with
  | nil => rfl
  | cons entry entries ih =>
    obtain ⟨known, value⟩ := entry
    obtain ⟨hnot, hnodup⟩ := List.nodup_cons.mp h
    rw [List.reverse_cons, List.lookup_append, ih hnodup, lookup_cons_eq_ite, lookup_cons_eq_ite]
    by_cases hname : name = known
    · rw [← hname] at hnot
      rw [lookup_eq_none_iff_notMem.mpr hnot]
      simp [hname]
    · simp [hname]

theorem lookup_of_mem (h : (entries.map Prod.fst).Nodup) {value : β} (hmem : (name, value) ∈ entries) :
    entries.lookup name = some value := by
  induction entries with
  | nil => cases hmem
  | cons entry entries ih =>
    obtain ⟨known, first⟩ := entry
    obtain ⟨hnot, hnodup⟩ := List.nodup_cons.mp h
    rw [lookup_cons_eq_ite]
    rcases List.mem_cons.mp hmem with heq | hrest
    · cases heq
      rw [if_pos rfl]
    · have hne : name ≠ known := by
        rintro rfl
        exact hnot (List.mem_map.mpr ⟨_, hrest, rfl⟩)
      rw [if_neg hne, ih hnodup hrest]

/-- Where no name occurs twice, the entries are told by their names, in order, and what is under each. -/
theorem eq_of_lookup {others : List (String × β)} (hnodup : (entries.map Prod.fst).Nodup)
    (hnames : entries.map Prod.fst = others.map Prod.fst)
    (hlookup : ∀ name, entries.lookup name = others.lookup name) : entries = others := by
  induction entries generalizing others with
  | nil =>
    rw [List.map_nil] at hnames
    exact (List.map_eq_nil_iff.mp hnames.symm).symm
  | cons entry entries ih =>
    obtain ⟨known, value⟩ := entry
    cases others with
    | nil => cases hnames
    | cons other others =>
      obtain ⟨known', value'⟩ := other
      obtain ⟨rfl, hrest⟩ := List.cons.inj hnames
      have hvalue : value = value' := by simpa using hlookup known
      obtain ⟨hnot, hnodup'⟩ := List.nodup_cons.mp hnodup
      have hnot' : known ∉ others.map Prod.fst := by
        rw [← hrest]
        exact hnot
      have hothers : entries = others := by
        refine ih hnodup' hrest fun name => ?_
        by_cases hname : name = known
        · rw [hname, lookup_eq_none_iff_notMem.mpr hnot, lookup_eq_none_iff_notMem.mpr hnot']
        · have hboth := hlookup name
          rw [lookup_cons_eq_ite, lookup_cons_eq_ite, if_neg hname, if_neg hname] at hboth
          exact hboth
      rw [hvalue, hothers]

theorem ext_get? {m n : OrderedMap β} (hnames : m.names = n.names)
    (hget : ∀ name, m.get? name = n.get? name) : m = n :=
  ext (eq_of_lookup m.nodup hnames hget)

/-- The map with all entries inserted, from left to right. -/
def insertAll (m : OrderedMap β) (entries : List (String × β)) : OrderedMap β :=
  entries.foldl (fun acc entry => acc.insert entry.1 entry.2) m

theorem get?_insertAll (m : OrderedMap β) (entries : List (String × β)) (name : String) :
    (m.insertAll entries).get? name = (entries.reverse.lookup name).or (m.get? name) := by
  induction entries generalizing m with
  | nil => rfl
  | cons entry entries ih =>
    obtain ⟨known, value⟩ := entry
    have hcons : m.insertAll ((known, value) :: entries) = (m.insert known value).insertAll entries := rfl
    rw [hcons, ih, get?_insert, List.reverse_cons, List.lookup_append, lookup_cons_eq_ite]
    by_cases h : name = known
    · simp [h]
    · simp [h]

theorem get?_insertAll_of_notMem {m : OrderedMap β} (h : name ∉ entries.map Prod.fst) :
    (m.insertAll entries).get? name = m.get? name := by
  have hnone : entries.reverse.lookup name = none := by
    rw [lookup_eq_none_iff_notMem, List.map_reverse, List.mem_reverse]
    exact h
  rw [get?_insertAll, hnone, Option.none_or]

/-- Names that are there already keep their places. -/
theorem prefix_names_insertAll (m : OrderedMap β) (entries : List (String × β)) :
    m.names <+: (m.insertAll entries).names := by
  induction entries generalizing m with
  | nil => exact List.prefix_rfl
  | cons entry entries ih =>
    have hinsert : m.names <+: (m.insert entry.1 entry.2).names := by
      rw [names_insert]
      split
      · exact List.prefix_rfl
      · exact List.prefix_append _ _
    exact hinsert.trans (ih _)

/-- Names that are all there already stay as they are. -/
theorem names_insertAll_of_subset {m : OrderedMap β} (h : entries.map Prod.fst ⊆ m.names) :
    (m.insertAll entries).names = m.names := by
  induction entries generalizing m with
  | nil => rfl
  | cons entry entries ih =>
    obtain ⟨hknown, hrest⟩ := List.cons_subset.mp h
    have hnames : (m.insert entry.1 entry.2).names = m.names := by
      rw [names_insert, if_pos hknown]
    have hsame : ((m.insert entry.1 entry.2).insertAll entries).names =
        (m.insert entry.1 entry.2).names := by
      apply ih
      rw [hnames]
      exact hrest
    exact hsame.trans hnames

/-- Inserting the same entries once more changes nothing. -/
theorem insertAll_insertAll (m : OrderedMap β) (entries : List (String × β)) :
    (m.insertAll entries).insertAll entries = m.insertAll entries := by
  have hsubset : entries.map Prod.fst ⊆ (m.insertAll entries).names := by
    intro name hname
    refine Decidable.byContradiction fun hnot => ?_
    have hnone : (m.insertAll entries).get? name = none := lookup_eq_none_iff_notMem.mpr hnot
    rw [get?_insertAll, Option.or_eq_none_iff, lookup_eq_none_iff_notMem, List.map_reverse,
      List.mem_reverse] at hnone
    exact hnone.1 hname
  refine ext_get? (names_insertAll_of_subset hsubset) fun name => ?_
  rw [get?_insertAll, get?_insertAll]
  cases entries.reverse.lookup name with
  | none => rfl
  | some value => rfl

/-- New values for all names but one are what is found beside that name once they are inserted. -/
theorem entries_erase_insertAll {m : OrderedMap β} {except : String}
    (h : entries.map Prod.fst = (m.erase except).names) :
    ((m.insertAll entries).erase except).entries = entries := by
  have hnodup : (entries.map Prod.fst).Nodup := by
    rw [h]
    exact (m.erase except).nodup
  have hsubset : entries.map Prod.fst ⊆ m.names := by
    rw [h, names_erase]
    exact List.filter_sublist.subset
  have hnames : ((m.insertAll entries).erase except).names = entries.map Prod.fst := by
    rw [names_erase, names_insertAll_of_subset hsubset, h, names_erase]
  refine eq_of_lookup ((m.insertAll entries).erase except).nodup hnames fun name => ?_
  have hget : ((m.insertAll entries).erase except).get? name =
      if name = except then none else (entries.lookup name).or (m.get? name) := by
    rw [get?_erase, get?_insertAll, lookup_reverse hnodup]
  refine hget.trans ?_
  cases hlookup : entries.lookup name with
  | some value =>
    have hne : name ≠ except := by
      rintro rfl
      have hnot : name ∉ entries.map Prod.fst := by
        rw [h, names_erase]
        simp
      rw [lookup_eq_none_iff_notMem.mpr hnot] at hlookup
      cases hlookup
    rw [if_neg hne]
    rfl
  | none =>
    have hnot : name ∉ (m.erase except).names := by
      rw [← h]
      exact lookup_eq_none_iff_notMem.mp hlookup
    have hnone : (m.erase except).get? name = none := lookup_eq_none_iff_notMem.mpr hnot
    rw [get?_erase] at hnone
    exact hnone

/-- Names that are all new go to the end, in their order. -/
theorem entries_insertAll {m : OrderedMap β} (h : (m.names ++ entries.map Prod.fst).Nodup) :
    (m.insertAll entries).entries = m.entries ++ entries := by
  induction entries generalizing m with
  | nil => exact (List.append_nil _).symm
  | cons entry entries ih =>
    obtain ⟨known, value⟩ := entry
    have hnew : known ∉ m.names := by
      intro hmem
      exact (List.nodup_append.mp h).2.2 known hmem known List.mem_cons_self rfl
    have hinsert : (m.insert known value).entries = m.entries ++ [(known, value)] := by
      unfold insert
      rw [dif_neg hnew]
    have hnames : (m.insert known value).names = m.names ++ [known] := by
      rw [names_insert, if_neg hnew]
    have hrest : ((m.insert known value).insertAll entries).entries =
        (m.insert known value).entries ++ entries := by
      apply ih
      rw [hnames, List.append_assoc]
      exact h
    show ((m.insert known value).insertAll entries).entries = _
    rw [hrest, hinsert, List.append_assoc]
    rfl

/-- A list in which no name occurs twice is kept as it is. -/
theorem entries_ofList (h : (entries.map Prod.fst).Nodup) : (ofList entries).entries = entries :=
  entries_insertAll h

/-- The values of the second map win. -/
theorem get?_merge (m n : OrderedMap β) (name : String) :
    (m.merge n).get? name = (n.get? name).or (m.get? name) := by
  show (m.insertAll n.entries).get? name = _
  rw [get?_insertAll, lookup_reverse n.nodup]
  rfl

end RecordMapper.OrderedMap
