import Mathlib.Data.List.Forall2

/-!
# Accepted outcomes

Lowering, defining and resolving either give a result or refuse with an error. The lemmas below say
when a computation put together from such steps is accepted, so that a proof takes an accepted
outcome apart step by step and never looks at a refusal.
-/

namespace RecordMapper

variable {ε α β γ : Type}

section Steps

variable {x : Except ε α} {e : ε} {a : α} {b : β}

theorem bind_eq_ok {f : α → Except ε β} : (x >>= f) = .ok b ↔ ∃ a, x = .ok a ∧ f a = .ok b := by
  cases x with
  | error e => simp [bind, Except.bind]
  | ok a => simp [bind, Except.bind]

theorem bind_eq_error {f : α → Except ε β} :
    (x >>= f) = .error e ↔ x = .error e ∨ ∃ a, x = .ok a ∧ f a = .error e := by
  cases x with
  | error e' => simp [bind, Except.bind]
  | ok a => simp [bind, Except.bind]

theorem map_eq_ok {f : α → β} : x.map f = .ok b ↔ ∃ a, x = .ok a ∧ f a = b := by
  cases x with
  | error e => simp [Except.map]
  | ok a => simp [Except.map]

theorem map_eq_error {f : α → β} : x.map f = .error e ↔ x = .error e := by
  cases x with
  | error e => simp [Except.map]
  | ok a => simp [Except.map]

theorem pure_eq_ok {a' : α} : (pure a : Except ε α) = .ok a' ↔ a = a' := by
  simp [pure, Except.pure]

theorem throw_ne_ok : (throw e : Except ε α) ≠ .ok a := by
  intro h
  cases h

theorem discard_eq_ok {u : Unit} : (discard x : Except ε Unit) = .ok u ↔ ∃ a, x = .ok a := by
  show x.map (fun _ => ()) = .ok u ↔ _
  simp [map_eq_ok]

/-- There is one way to accept without a result. -/
theorem exists_unit_eq_ok {x : Except ε Unit} {p : Prop} : (∃ u, x = .ok u ∧ p) ↔ x = .ok () ∧ p :=
  ⟨fun ⟨(), h⟩ => h, fun h => ⟨(), h⟩⟩

/-- What follows a guard that refuses is reached only where the guard does not apply. -/
theorem ite_throw_bind_eq_ok {p : Prop} [Decidable p] {f : α → Except ε β} {y : Except ε β} :
    (if p then throw e >>= f else y) = .ok b ↔ ¬p ∧ y = .ok b := by
  by_cases hp : p
  · simp [hp, bind_eq_ok, throw_ne_ok]
  · simp [hp]

/-- A step that refuses unless its condition holds. -/
theorem ite_else_throw_eq_ok {p : Prop} [Decidable p] {y : Except ε β} :
    (if p then y else throw e) = .ok b ↔ p ∧ y = .ok b := by
  by_cases hp : p
  · simp [hp]
  · simp [hp, throw_ne_ok]

end Steps

/-! ## Passes over a list -/

/-- An accepted pass over a list relates the items to the results, one by one. -/
theorem mapM_eq_ok {f : α → Except ε β} {xs : List α} {ys : List β} :
    xs.mapM f = .ok ys ↔ List.Forall₂ (fun x y => f x = .ok y) xs ys := by
  induction xs generalizing ys with
  | nil => rw [List.mapM_nil, pure_eq_ok, List.forall₂_nil_left_iff, eq_comm]
  | cons x xs ih =>
    rw [List.mapM_cons, List.forall₂_cons_left_iff]
    simp only [bind_eq_ok, pure_eq_ok, ih]
    constructor
    · rintro ⟨y, hy, ys', hys, rfl⟩
      exact ⟨y, ys', hy, hys, rfl⟩
    · rintro ⟨y, ys', hy, hys, rfl⟩
      exact ⟨y, hy, ys', hys, rfl⟩

/-- A pass without results is accepted when every item is. -/
theorem forM_eq_ok {f : α → Except ε Unit} {xs : List α} {u : Unit} :
    xs.forM f = .ok u ↔ ∀ x ∈ xs, f x = .ok () := by
  induction xs with
  | nil => simp [List.forM_nil, pure_eq_ok]
  | cons x xs ih =>
    show (f x >>= fun _ => xs.forM f) = .ok u ↔ _
    rw [bind_eq_ok, List.forall_mem_cons]
    simp only [ih]
    constructor
    · rintro ⟨⟨⟩, hx, hxs⟩
      exact ⟨hx, hxs⟩
    · rintro ⟨hx, hxs⟩
      exact ⟨(), hx, hxs⟩

/-- Every result of an accepted pass belongs to an item. -/
theorem exists_of_mem_mapM {f : α → Except ε β} {xs : List α} {ys : List β}
    (h : xs.mapM f = .ok ys) {y : β} (hy : y ∈ ys) : ∃ x ∈ xs, f x = .ok y := by
  rw [mapM_eq_ok] at h
  induction h with
  | nil => cases hy
  | cons hx _ ih =>
    rcases List.mem_cons.mp hy with rfl | hy
    · exact ⟨_, List.mem_cons_self, hx⟩
    · obtain ⟨x, hmem, hfx⟩ := ih hy
      exact ⟨x, List.mem_cons_of_mem _ hmem, hfx⟩

/-- Every item of an accepted pass has a result. -/
theorem exists_of_mem_of_mapM {f : α → Except ε β} {xs : List α} {ys : List β}
    (h : xs.mapM f = .ok ys) {x : α} (hx : x ∈ xs) : ∃ y ∈ ys, f x = .ok y := by
  rw [mapM_eq_ok] at h
  induction h with
  | nil => cases hx
  | cons hy _ ih =>
    rcases List.mem_cons.mp hx with rfl | hx
    · exact ⟨_, List.mem_cons_self, hy⟩
    · obtain ⟨y, hmem, hfy⟩ := ih hx
      exact ⟨y, List.mem_cons_of_mem _ hmem, hfy⟩

theorem mapM_cons_eq_error {f : α → Except ε β} {x : α} {xs : List α} {e : ε} :
    (x :: xs).mapM f = .error e ↔ f x = .error e ∨ (∃ y, f x = .ok y) ∧ xs.mapM f = .error e := by
  rw [List.mapM_cons, bind_eq_error]
  simp only [bind_eq_error, pure, Except.pure, reduceCtorEq, and_false, exists_false, or_false,
    exists_and_right]

/-- A refused pass accepts the items up to the first one that is refused, and has its error. -/
theorem mapM_eq_error {f : α → Except ε β} {xs : List α} {e : ε} :
    xs.mapM f = .error e ↔ ∃ before x after, xs = before ++ x :: after ∧
      (∀ earlier ∈ before, ∃ y, f earlier = .ok y) ∧ f x = .error e := by
  induction xs with
  | nil =>
    constructor
    · intro h
      cases h
    · rintro ⟨before, x, after, h, _⟩
      cases before <;> cases h
  | cons x xs ih =>
    rw [mapM_cons_eq_error, ih]
    constructor
    · rintro (hx | ⟨hx, before, x', after, rfl, hbefore, hx'⟩)
      · exact ⟨[], x, xs, rfl, List.forall_mem_nil _, hx⟩
      · exact ⟨x :: before, x', after, rfl, List.forall_mem_cons.mpr ⟨hx, hbefore⟩, hx'⟩
    · rintro ⟨before, x', after, hsplit, hbefore, hx'⟩
      rcases List.cons_eq_append_iff.mp hsplit with ⟨rfl, hcons⟩ | ⟨before', rfl, rfl⟩
      · cases hcons
        exact .inl hx'
      · obtain ⟨hx, hbefore'⟩ := List.forall_mem_cons.mp hbefore
        exact .inr ⟨hx, before', x', after, rfl, hbefore', hx'⟩

/-- The error of a refused pass is that of one of its items. -/
theorem exists_of_mapM_eq_error {f : α → Except ε β} {xs : List α} {e : ε}
    (h : xs.mapM f = .error e) : ∃ x ∈ xs, f x = .error e := by
  obtain ⟨before, x, after, rfl, _, hx⟩ := mapM_eq_error.mp h
  exact ⟨x, by simp, hx⟩

/-- A pass is refused when one of its items is. -/
theorem exists_mapM_eq_error {f : α → Except ε β} {xs : List α} {x : α} {e : ε} (hx : x ∈ xs)
    (h : f x = .error e) : ∃ e', xs.mapM f = .error e' := by
  cases hxs : xs.mapM f with
  | error e' => exact ⟨e', rfl⟩
  | ok ys =>
    obtain ⟨y, _, hy⟩ := exists_of_mem_of_mapM hxs hx
    rw [h] at hy
    cases hy

/-- A pass is accepted when all its items are. -/
theorem exists_mapM_eq_ok {f : α → Except ε β} {xs : List α} :
    (∃ ys, xs.mapM f = .ok ys) ↔ ∀ x ∈ xs, ∃ y, f x = .ok y := by
  constructor
  · rintro ⟨ys, hys⟩ x hx
    obtain ⟨y, _, hy⟩ := exists_of_mem_of_mapM hys hx
    exact ⟨y, hy⟩
  · intro h
    cases hxs : xs.mapM f with
    | ok ys => exact ⟨ys, rfl⟩
    | error e =>
      obtain ⟨x, hx, hfx⟩ := exists_of_mapM_eq_error hxs
      obtain ⟨y, hy⟩ := h x hx
      rw [hfx] at hy
      cases hy

/-- Of two lists passed over one after the other, the second counts only if the first is accepted. -/
theorem mapM_append_eq_error {f : α → Except ε β} {xs ys : List α} {e : ε} :
    (xs ++ ys).mapM f = .error e ↔
      xs.mapM f = .error e ∨ (∀ x ∈ xs, ∃ y, f x = .ok y) ∧ ys.mapM f = .error e := by
  rw [List.mapM_append, bind_eq_error, ← exists_mapM_eq_ok]
  simp only [bind_eq_error, pure, Except.pure, reduceCtorEq, and_false, exists_false, or_false,
    exists_and_right]

/-- What a pass computes from its items alone can be read off its results. -/
theorem map_eq_of_mapM {f : α → Except ε β} {g : α → γ} {k : β → γ} {xs : List α} {ys : List β}
    (h : xs.mapM f = .ok ys) (hf : ∀ x y, f x = .ok y → k y = g x) : ys.map k = xs.map g := by
  rw [mapM_eq_ok] at h
  induction h with
  | nil => rfl
  | cons hx _ ih => rw [List.map_cons, List.map_cons, hf _ _ hx, ih]

/-- Two passes over related items agree in whatever related items agree in. -/
theorem map_eq_map_of_mapM {f : α → Except ε β} {k : β → γ} {related : α → α → Prop}
    (hf : ∀ x x' y y', related x x' → f x = .ok y → f x' = .ok y' → k y = k y') {xs xs' : List α}
    {ys ys' : List β} (hxs : List.Forall₂ related xs xs') (h : xs.mapM f = .ok ys)
    (h' : xs'.mapM f = .ok ys') : ys.map k = ys'.map k := by
  rw [mapM_eq_ok] at h h'
  induction hxs generalizing ys ys' with
  | nil =>
    cases h
    cases h'
    rfl
  | cons hx _ ih =>
    cases h with
    | cons hy hys =>
      cases h' with
      | cons hy' hys' => rw [List.map_cons, List.map_cons, hf _ _ _ _ hx hy hy', ih hys hys']

end RecordMapper
