/-! # Trails

A trail is a list that grows at its end and shares what came before: adding to a trail leaves the
trail itself as it was, and two trails grown from one base share that base. It keeps its newest item
in front, so that growing costs one cell; `Trail.toList` is the view in the order of growth.
-/

namespace RecordMapper

/-- A list that grows at its end. -/
structure Trail (α : Type) where
  /-- The items, the newest first. -/
  newestFirst : List α
deriving DecidableEq

namespace Trail

variable {α : Type}

/-- The trail without items. -/
def empty : Trail α := ⟨[]⟩

instance : Inhabited (Trail α) := ⟨empty⟩

/-- The trail with one more item at its end. -/
def push (t : Trail α) (item : α) : Trail α := ⟨item :: t.newestFirst⟩

/-- The items in the order in which they were added. -/
def toList (t : Trail α) : List α := t.newestFirst.reverse

/-- The trail that grows through the items of a list. -/
def ofList (items : List α) : Trail α := items.foldl push empty

/-- The number of items. -/
def length (t : Trail α) : Nat := t.newestFirst.length

/-- Whether there are no items. -/
def isEmpty (t : Trail α) : Bool := t.newestFirst.isEmpty

/-- The item added last. -/
def last? (t : Trail α) : Option α := t.newestFirst.head?

/-- Whether an item is on the trail. -/
def contains [BEq α] (t : Trail α) (item : α) : Bool := t.newestFirst.contains item

/-- Adds the item unless it is there already. -/
def pushNew [BEq α] (t : Trail α) (item : α) : Trail α :=
  if t.contains item then t else t.push item

/-! ## The view as a list -/

@[simp] theorem toList_empty : (empty : Trail α).toList = [] := rfl

@[simp] theorem toList_push (t : Trail α) (item : α) :
    (t.push item).toList = t.toList ++ [item] := by
  simp [toList, push]

theorem toList_foldl_push (items : List α) (t : Trail α) :
    (items.foldl push t).toList = t.toList ++ items := by
  induction items generalizing t with
  | nil => simp
  | cons item items ih => simp [ih]

@[simp] theorem toList_ofList (items : List α) : (ofList items).toList = items := by
  simp [ofList, toList_foldl_push]

theorem length_eq (t : Trail α) : t.length = t.toList.length := by simp [length, toList]

theorem isEmpty_iff (t : Trail α) : t.isEmpty = true ↔ t.toList = [] := by simp [isEmpty, toList]

theorem last?_eq (t : Trail α) : t.last? = t.toList.getLast? := by simp [last?, toList]

theorem contains_eq [BEq α] (t : Trail α) (item : α) :
    t.contains item = t.toList.contains item := by
  simp [contains, toList]

theorem toList_inj {t u : Trail α} : t.toList = u.toList ↔ t = u := by
  obtain ⟨items⟩ := t
  obtain ⟨others⟩ := u
  simp [toList]

/-! ## Items that are kept once -/

section

variable [BEq α] [LawfulBEq α] {t : Trail α} {item : α}

theorem pushNew_of_mem (h : item ∈ t.toList) : t.pushNew item = t := by
  have hcontains : t.contains item = true := by rwa [contains_eq, List.contains_iff_mem]
  rw [pushNew, if_pos hcontains]

theorem pushNew_of_notMem (h : item ∉ t.toList) : t.pushNew item = t.push item := by
  have hcontains : ¬t.contains item = true := by rwa [contains_eq, List.contains_iff_mem]
  rw [pushNew, if_neg hcontains]

end

end Trail

end RecordMapper
