import Mathlib.Data.List.Induction
import Mathlib.Logic.Relation
import Mathlib.Order.Bounds.Basic
import RecordMapper.Session.Context

/-!
# Families of contexts

Contexts that are derived from one another form a family. Its members are known by the order in which they
came, and its calls say who was derived from whom, who is a clone of whom, which deadlines were given and
who was canceled. That alone decides about every member (`run_obeys`): a cancellation passes from parents
to children and between clones, and so it does not matter whether a member was derived before or after
it; and of the deadlines on its way from a background context a member has the earliest.

A member learns of a cancellation by its tokens. That a token leads back to the members that it was given
to, and to no others, is kept along every sequence of calls (`Grown`).
-/

namespace RecordMapper

namespace Context

variable {cx : Context} {tokens : Cancellations} {now : Instant}

/-- The tokens by which a context learns that it is canceled. -/
def line (cx : Context) : List Nat := cx.token :: cx.ancestors

theorem isCanceled_iff : cx.isCanceled tokens = true ↔ ∃ t ∈ cx.line, t ∈ tokens.canceled := by
  simp [isCanceled, line]

theorem isExpired_iff : cx.isExpired now = true ↔ ∃ d, cx.deadline? = some d ∧ d ≤ now := by
  unfold isExpired
  cases cx.deadline? <;> simp

theorem check_eq_canceled : cx.check tokens now = .error (.of (.canceled false)) ↔
    cx.isCanceled tokens = true := by
  unfold check
  by_cases hcanceled : cx.isCanceled tokens = true
  · simp [hcanceled]
  · by_cases hexpired : cx.isExpired now = true <;> simp [hcanceled, hexpired, Error.of]

theorem check_eq_expired : cx.check tokens now = .error (.of (.canceled true)) ↔
    cx.isCanceled tokens ≠ true ∧ cx.isExpired now = true := by
  unfold check
  by_cases hcanceled : cx.isCanceled tokens = true
  · simp [hcanceled, Error.of]
  · by_cases hexpired : cx.isExpired now = true <;> simp [hcanceled, hexpired]

theorem check_eq_ok : cx.check tokens now = .ok () ↔
    cx.isCanceled tokens ≠ true ∧ cx.isExpired now ≠ true := by
  unfold check
  by_cases hcanceled : cx.isCanceled tokens = true
  · simp [hcanceled]
  · by_cases hexpired : cx.isExpired now = true <;> simp [hcanceled, hexpired]

end Context

/-- How a context comes into a family. -/
inductive Birth
  | background
  | child (parent : Nat)
  | withDeadline (parent : Nat) (deadline : Instant)
  | clone (original : Nat)

namespace Birth

/-- The member that the new one comes from. -/
def source? : Birth → Option Nat
  | background => none
  | child parent => some parent
  | withDeadline parent _ => some parent
  | clone original => some original

/-- The deadline that is given. -/
def deadline? : Birth → Option Instant
  | withDeadline _ deadline => some deadline
  | _ => none

end Birth

/-- Contexts in the order in which they came, and what has become of their tokens. -/
structure Family where
  members : List Context
  tokens : Cancellations

namespace Family

/-- A call on a family. -/
inductive Call
  | birth (b : Birth)
  | cancel (member : Nat)

/-- The member that a call is made on. -/
def Call.callee? : Call → Option Nat
  | birth b => b.source?
  | cancel member => some member

def Call.birth? : Call → Option Birth
  | birth b => some b
  | cancel _ => none

def empty : Family := ⟨[], .empty⟩

/-- The new member, and the tokens with its own. -/
def born? (f : Family) : Birth → Option (Context × Cancellations)
  | .background => some f.tokens.background
  | .child parent => f.members[parent]?.map f.tokens.child
  | .withDeadline parent deadline => f.members[parent]?.map (f.tokens.withDeadline · deadline)
  | .clone original => f.members[original]?.map (·, f.tokens)

/-- The family after a call, if the call is made on one of its members. -/
def step (f : Family) : Call → Option Family
  | .birth b => (f.born? b).map fun (cx, tokens) => ⟨f.members ++ [cx], tokens⟩
  | .cancel member => f.members[member]?.map fun cx => { f with tokens := f.tokens.cancel cx }

/-- The family after a sequence of calls. -/
def run (calls : List Call) : Option Family := calls.foldlM step empty

/-! ## What the calls say -/

/-- How the members came, one after the other. -/
def births (calls : List Call) : List Birth := calls.filterMap Call.birth?

/-- Canceling the first member also cancels the second: that comes from it, or is what it is a clone of. -/
inductive Passes (births : List Birth) (i j : Nat) : Prop
  | source {b : Birth} : births[j]? = some b → b.source? = some i → Passes births i j
  | original : births[i]? = some (.clone j) → Passes births i j

/-- A member was canceled: it, a clone of it, or an ancestor or a clone of that. -/
def Canceled (calls : List Call) (j : Nat) : Prop :=
  ∃ i, .cancel i ∈ calls ∧ Relation.ReflTransGen (Passes (births calls)) i j

/-- The deadline was given on the way to the member. -/
inductive Given (births : List Birth) : Nat → Instant → Prop
  | here {j : Nat} {b : Birth} {t : Instant} :
    births[j]? = some b → b.deadline? = some t → Given births j t
  | above {i j : Nat} {b : Birth} {t : Instant} :
    births[j]? = some b → b.source? = some i → Given births i t → Given births j t

/-- What the calls say about a member is what the member does. -/
structure Obeys (calls : List Call) (f : Family) (j : Nat) (cx : Context) : Prop where
  canceled : cx.isCanceled f.tokens = true ↔ Canceled calls j
  deadline : ∀ d, cx.deadline? = some d ↔ IsLeast {t | Given (births calls) j t} d
  unlimited : cx.deadline? = none ↔ ∀ t, ¬Given (births calls) j t
  /-- Its deadline is not later than that of the member that it comes from. -/
  inherited : ∀ b i source d, (births calls)[j]? = some b → b.source? = some i →
    f.members[i]? = some source → source.deadline? = some d → ∃ d' ≤ d, cx.deadline? = some d'
  check_canceled : ∀ now, cx.check f.tokens now = .error (.of (.canceled false)) ↔ Canceled calls j
  check_expired : ∀ now, cx.check f.tokens now = .error (.of (.canceled true)) ↔
    ¬Canceled calls j ∧ ∃ d, IsLeast {t | Given (births calls) j t} d ∧ d ≤ now
  check_ok : ∀ now, cx.check f.tokens now = .ok () ↔
    ¬Canceled calls j ∧ ∀ d, IsLeast {t | Given (births calls) j t} d → now < d

variable {f f' : Family} {calls : List Call} {b : Birth} {cx : Context} {tokens : Cancellations}
  {i j : Nat}

/-! ## What a call does -/

/-- The earlier one of two deadlines. -/
def earlier : Option Instant → Option Instant → Option Instant
  | none, inherited => inherited
  | some given, none => some given
  | some given, some inherited => some (min inherited given)

/-- What a member has from the one that it comes from. -/
structure ComesFrom (b : Birth) (source cx : Context) : Prop where
  line : source.line ⊆ cx.line
  deadline : cx.deadline? = earlier b.deadline? source.deadline?
  clone : ∀ original, b = .clone original → cx = source

/-- A new member gets a token that nobody has, or it is a clone and shares one. -/
inductive Born (f : Family) : Birth → Context → Cancellations → Prop
  | background : Born f .background ⟨f.tokens.issued, [], none⟩
      { f.tokens with issued := f.tokens.issued + 1 }
  | derived {b : Birth} {i : Nat} {source : Context} : b.source? = some i →
      f.members[i]? = some source → (∀ original, b ≠ .clone original) →
      Born f b ⟨f.tokens.issued, source.line, earlier b.deadline? source.deadline?⟩
        { f.tokens with issued := f.tokens.issued + 1 }
  | clone {i : Nat} {source : Context} : f.members[i]? = some source →
      Born f (.clone i) source f.tokens

theorem born_of_born? (h : f.born? b = some (cx, tokens)) : f.Born b cx tokens := by
  cases b with
  | background =>
    cases h
    exact .background
  | child parent =>
    obtain ⟨source, hsource, heq⟩ := Option.map_eq_some_iff.mp h
    cases heq
    exact .derived rfl hsource fun _ h => nomatch h
  | withDeadline parent deadline =>
    obtain ⟨source, hsource, heq⟩ := Option.map_eq_some_iff.mp h
    have hborn : f.Born (.withDeadline parent deadline) _ _ :=
      .derived rfl hsource fun _ h => nomatch h
    cases hdeadline : source.deadline? with
    | none =>
      rw [hdeadline] at hborn
      simp only [Cancellations.withDeadline, Cancellations.child, hdeadline] at heq
      cases heq
      exact hborn
    | some inherited =>
      rw [hdeadline] at hborn
      simp only [Cancellations.withDeadline, Cancellations.child, hdeadline] at heq
      cases heq
      exact hborn
  | clone original =>
    obtain ⟨source, hsource, heq⟩ := Option.map_eq_some_iff.mp h
    cases heq
    exact .clone hsource

theorem births_birth (calls : List Call) (b : Birth) :
    births (calls ++ [.birth b]) = births calls ++ [b] := by
  simp [births, Call.birth?]

theorem births_cancel (calls : List Call) (i : Nat) :
    births (calls ++ [.cancel i]) = births calls := by
  simp [births, Call.birth?]

theorem run_concat (calls : List Call) (call : Call) :
    run (calls ++ [call]) = (run calls).bind (step · call) := by
  unfold run
  rw [List.foldlM_append]
  simp

/-- What is found in a list with one more element was there before, or it is that element. -/
theorem getElem?_concat {α : Type} {l : List α} {x y : α} (h : (l ++ [x])[i]? = some y) :
    l[i]? = some y ∨ i = l.length ∧ y = x := by
  rcases Nat.lt_trichotomy i l.length with hlt | heq | hgt
  · rw [List.getElem?_append_left hlt] at h
    exact .inl h
  · subst heq
    rw [List.getElem?_concat_length] at h
    exact .inr ⟨rfl, (Option.some.inj h).symm⟩
  · rw [List.getElem?_eq_none (by simp; omega)] at h
    cases h

theorem getElem?_append_of_some {α : Type} {l l' : List α} {x : α} (h : l[i]? = some x) :
    (l ++ l')[i]? = some x := by
  obtain ⟨hlt, _⟩ := List.getElem?_eq_some_iff.mp h
  rw [List.getElem?_append_left hlt, h]

theorem Passes.append {births : List Birth} (h : Passes births i j) (later : List Birth) :
    Passes (births ++ later) i j := by
  cases h with
  | source hb hsource => exact .source (getElem?_append_of_some hb) hsource
  | original hb => exact .original (getElem?_append_of_some hb)

/-! ## What all calls together do -/

/-- What is kept along the calls. -/
structure Grown (calls : List Call) (f : Family) : Prop where
  length_eq : f.members.length = (births calls).length
  issued : ∀ (i : Nat) (cx : Context), f.members[i]? = some cx → ∀ t ∈ cx.line, t < f.tokens.issued
  origin : ∀ (j : Nat) (b : Birth) (cx : Context), (births calls)[j]? = some b → f.members[j]? = some cx →
    (b = .background ∧ cx.deadline? = none) ∨
      ∃ i source, i < j ∧ b.source? = some i ∧ f.members[i]? = some source ∧ ComesFrom b source cx
  reaches : ∀ (i j : Nat) (cx other : Context), f.members[i]? = some cx → f.members[j]? = some other →
    cx.token ∈ other.line → Relation.ReflTransGen (Passes (births calls)) i j
  callee : ∀ i, .cancel i ∈ calls → ∃ cx, f.members[i]? = some cx
  canceled : ∀ t, t ∈ f.tokens.canceled ↔
    ∃ i cx, .cancel i ∈ calls ∧ f.members[i]? = some cx ∧ cx.token = t

theorem grown_empty : Grown [] empty where
  length_eq := rfl
  issued _ _ h := nomatch h
  origin _ _ _ h := nomatch h
  reaches _ _ _ _ h := nomatch h
  callee _ h := nomatch h
  canceled t := by simp [empty, Cancellations.empty]

theorem Born.canceled_eq (h : f.Born b cx tokens) : tokens.canceled = f.tokens.canceled := by
  cases h <;> rfl

theorem Born.issued_le (h : f.Born b cx tokens) : f.tokens.issued ≤ tokens.issued := by
  cases h <;> simp

theorem Born.origin (h : f.Born b cx tokens) : (b = .background ∧ cx.deadline? = none) ∨
    ∃ i source, b.source? = some i ∧ f.members[i]? = some source ∧ ComesFrom b source cx := by
  cases h with
  | background => exact .inl ⟨rfl, rfl⟩
  | derived hb hsource hclone =>
    refine .inr ⟨_, _, hb, hsource, ?_, rfl, ?_⟩
    · exact List.subset_cons_self _ _
    · intro original heq
      exact absurd heq (hclone original)
  | clone hsource =>
    refine .inr ⟨_, _, rfl, hsource, List.Subset.refl _, ?_, fun _ _ => rfl⟩
    rfl

/-- A token of a new member is one that nobody had before, or one of the member that it comes from. -/
theorem Born.mem_line (h : f.Born b cx tokens) {t : Nat} (ht : t ∈ cx.line) :
    (t = f.tokens.issued ∧ t < tokens.issued) ∨
      ∃ i source, b.source? = some i ∧ f.members[i]? = some source ∧ t ∈ source.line := by
  cases h with
  | background =>
    rw [List.mem_singleton.mp ht]
    exact .inl ⟨rfl, Nat.lt_succ_self _⟩
  | derived hb hsource =>
    rcases List.mem_cons.mp ht with rfl | ht
    · exact .inl ⟨rfl, Nat.lt_succ_self _⟩
    · exact .inr ⟨_, _, hb, hsource, ht⟩
  | clone hsource => exact .inr ⟨_, _, rfl, hsource, ht⟩

theorem Born.token (h : f.Born b cx tokens) :
    cx.token = f.tokens.issued ∨ ∃ original, b = .clone original ∧ f.members[original]? = some cx := by
  cases h with
  | background => exact .inl rfl
  | derived => exact .inl rfl
  | clone hsource => exact .inr ⟨_, rfl, hsource⟩

theorem Grown.birth (hf : Grown calls f) (h : f.Born b cx tokens) :
    Grown (calls ++ [.birth b]) ⟨f.members ++ [cx], tokens⟩ := by
  have hnew : (births calls ++ [b])[f.members.length]? = some b := by
    rw [hf.length_eq, List.getElem?_concat_length]
  have hcalled : ∀ i, .cancel i ∈ calls ++ [.birth b] ↔ .cancel i ∈ calls := by simp
  constructor
  case length_eq => simp [births_birth, hf.length_eq]
  case issued =>
    intro i other hi t ht
    rcases getElem?_concat hi with hi | ⟨_, rfl⟩
    · exact Nat.lt_of_lt_of_le (hf.issued i other hi t ht) h.issued_le
    · rcases h.mem_line ht with ⟨_, hlt⟩ | ⟨k, source, _, hsource, ht⟩
      · exact hlt
      · exact Nat.lt_of_lt_of_le (hf.issued k source hsource t ht) h.issued_le
  case origin =>
    intro j b' other hb hj
    rw [births_birth] at hb
    rcases getElem?_concat hj with hj | ⟨rfl, rfl⟩
    · have hlt : j < (births calls).length := by
        rw [← hf.length_eq]
        exact (List.getElem?_eq_some_iff.mp hj).1
      rw [List.getElem?_append_left hlt] at hb
      rcases hf.origin j b' other hb hj with hbackground | ⟨i, source, hij, hb, hsource, hfrom⟩
      · exact .inl hbackground
      · exact .inr ⟨i, source, hij, hb, getElem?_append_of_some hsource, hfrom⟩
    · cases hb.symm.trans hnew
      rcases h.origin with hbackground | ⟨i, source, hb, hsource, hfrom⟩
      · exact .inl hbackground
      · exact .inr ⟨i, source, (List.getElem?_eq_some_iff.mp hsource).1, hb,
          getElem?_append_of_some hsource, hfrom⟩
  case reaches =>
    rw [births_birth]
    have hold : ∀ {i j first second}, f.members[i]? = some first → f.members[j]? = some second →
        first.token ∈ second.line → Relation.ReflTransGen (Passes (births calls ++ [b])) i j :=
      fun hi hj ht => (hf.reaches _ _ _ _ hi hj ht).lift id fun _ _ hpasses => hpasses.append [b]
    intro i j first second hfirst hsecond ht
    rcases getElem?_concat hfirst with hi | ⟨rfl, rfl⟩
    · rcases getElem?_concat hsecond with hj | ⟨rfl, rfl⟩
      · exact hold hi hj ht
      -- A token that was there before is one of the source's.
      · rcases h.mem_line ht with ⟨heq, _⟩ | ⟨k, source, hb, hsource, ht⟩
        · have hlt := hf.issued i first hi first.token List.mem_cons_self
          omega
        · exact (hold hi hsource ht).tail (.source hnew hb)
    · rcases getElem?_concat hsecond with hj | ⟨rfl, rfl⟩
      -- An old member can only have the token of a new one if that is a clone.
      · rcases h.token with heq | ⟨original, rfl, horiginal⟩
        · have hlt := hf.issued j second hj first.token ht
          omega
        · exact (hold horiginal hj ht).head (.original hnew)
      · exact .refl
  case callee =>
    intro i hi
    obtain ⟨other, hother⟩ := hf.callee i ((hcalled i).mp hi)
    exact ⟨other, getElem?_append_of_some hother⟩
  case canceled =>
    intro t
    rw [h.canceled_eq, hf.canceled t]
    constructor
    · rintro ⟨i, other, hi, hother, ht⟩
      exact ⟨i, other, (hcalled i).mpr hi, getElem?_append_of_some hother, ht⟩
    · rintro ⟨i, other, hi, hother, ht⟩
      obtain ⟨callee, hcallee⟩ := hf.callee i ((hcalled i).mp hi)
      have heq := hother.symm.trans (getElem?_append_of_some hcallee)
      cases heq
      exact ⟨i, other, (hcalled i).mp hi, hcallee, ht⟩

theorem Grown.cancel (hf : Grown calls f) (h : f.members[i]? = some cx) :
    Grown (calls ++ [.cancel i]) ⟨f.members, f.tokens.cancel cx⟩ := by
  have hbirths := births_cancel calls i
  constructor
  case length_eq => rw [hbirths, hf.length_eq]
  case issued => exact hf.issued
  case origin => rw [hbirths]; exact hf.origin
  case reaches => rw [hbirths]; exact hf.reaches
  case callee =>
    intro k hk
    rcases List.mem_append.mp hk with hk | hk
    · exact hf.callee k hk
    · cases List.mem_singleton.mp hk
      exact ⟨cx, h⟩
  case canceled =>
    intro t
    have hcons : t ∈ (f.tokens.cancel cx).canceled ↔ t = cx.token ∨ t ∈ f.tokens.canceled :=
      List.mem_cons
    rw [hcons, hf.canceled t]
    constructor
    · rintro (rfl | ⟨k, other, hk, hother, ht⟩)
      · exact ⟨i, cx, by simp, h, rfl⟩
      · exact ⟨k, other, List.mem_append_left _ hk, hother, ht⟩
    · rintro ⟨k, other, hk, hother, ht⟩
      rcases List.mem_append.mp hk with hk | hk
      · exact .inr ⟨k, other, hk, hother, ht⟩
      · cases List.mem_singleton.mp hk
        cases hother.symm.trans h
        exact .inl ht.symm

theorem Grown.step {call : Call} (hf : Grown calls f) (h : f.step call = some f') :
    Grown (calls ++ [call]) f' := by
  cases call with
  | birth b =>
    obtain ⟨⟨cx, tokens⟩, hborn, rfl⟩ := Option.map_eq_some_iff.mp h
    exact hf.birth (born_of_born? hborn)
  | cancel i =>
    obtain ⟨cx, hcx, rfl⟩ := Option.map_eq_some_iff.mp h
    exact hf.cancel hcx

theorem grown_of_run (h : run calls = some f) : Grown calls f := by
  induction calls using List.reverseRecOn generalizing f with
  | nil =>
    cases h
    exact grown_empty
  | append_singleton calls call ih =>
    rw [run_concat] at h
    obtain ⟨before, hbefore, hstep⟩ := Option.bind_eq_some_iff.mp h
    exact (ih hbefore).step hstep

/-- A call can be made as long as it is on a member. -/
theorem step_isSome {call : Call} :
    (f.step call).isSome = true ↔ ∀ i, call.callee? = some i → i < f.members.length := by
  rcases call with (_ | parent | ⟨parent, deadline⟩ | original) | member <;>
    simp [step, born?, Call.callee?, Birth.source?]

/-! ## What a member has from the others -/

theorem Grown.passes (hf : Grown calls f) (h : Passes (births calls) i j)
    (hi : f.members[i]? = some cx) : ∃ other, f.members[j]? = some other ∧ cx.line ⊆ other.line := by
  cases h with
  | @source b hb hsource =>
    have hlt : j < f.members.length := by
      rw [hf.length_eq]
      exact (List.getElem?_eq_some_iff.mp hb).1
    have hj : f.members[j]? = some f.members[j] := List.getElem?_eq_getElem hlt
    rcases hf.origin j b _ hb hj with ⟨rfl, _⟩ | ⟨k, source, _, hk, hsourcek, hfrom⟩
    · cases hsource
    · cases hsource.symm.trans hk
      cases hi.symm.trans hsourcek
      exact ⟨_, hj, hfrom.line⟩
  | original hb =>
    rcases hf.origin i _ cx hb hi with ⟨heq, _⟩ | ⟨k, source, _, hk, hsourcek, hfrom⟩
    · cases heq
    · cases hk
      rw [← hfrom.clone j rfl] at hsourcek
      exact ⟨cx, hsourcek, List.Subset.refl _⟩

theorem Grown.line_subset (hf : Grown calls f)
    (h : Relation.ReflTransGen (Passes (births calls)) i j) (hi : f.members[i]? = some cx) :
    ∃ other, f.members[j]? = some other ∧ cx.line ⊆ other.line := by
  induction h with
  | refl => exact ⟨cx, hi, List.Subset.refl _⟩
  | tail _ hpasses ih =>
    obtain ⟨between, hbetween, hsubset⟩ := ih
    obtain ⟨other, hother, hline⟩ := hf.passes hpasses hbetween
    exact ⟨other, hother, List.Subset.trans hsubset hline⟩

theorem Grown.isCanceled_iff (hf : Grown calls f) (hj : f.members[j]? = some cx) :
    cx.isCanceled f.tokens = true ↔ Canceled calls j := by
  rw [Context.isCanceled_iff]
  constructor
  · rintro ⟨t, ht, hcanceled⟩
    obtain ⟨i, other, hi, hother, rfl⟩ := (hf.canceled t).mp hcanceled
    exact ⟨i, hi, hf.reaches i j other cx hother hj ht⟩
  · rintro ⟨i, hi, hreaches⟩
    obtain ⟨other, hother⟩ := hf.callee i hi
    obtain ⟨cx', hcx', hsubset⟩ := hf.line_subset hreaches hother
    cases hj.symm.trans hcx'
    exact ⟨other.token, hsubset List.mem_cons_self,
      (hf.canceled _).mpr ⟨i, other, hi, hother, rfl⟩⟩

/-! ## The earliest deadline -/

/-- The earliest instant of a set, or none if the set is empty. -/
def Earliest (given : Set Instant) : Option Instant → Prop
  | none => given = ∅
  | some d => IsLeast given d

theorem earliest_earlier {inherited : Set Instant} {given? inherited? : Option Instant}
    (h : Earliest inherited inherited?) :
    Earliest ({t | given? = some t} ∪ inherited) (earlier given? inherited?) := by
  cases given? with
  | none =>
    have hnone : {t : Instant | none = some t} = ∅ := by simp
    rw [hnone, Set.empty_union]
    exact h
  | some given =>
    cases inherited? with
    | none =>
      have hempty : inherited = ∅ := h
      rw [hempty, Set.union_empty]
      refine ⟨rfl, ?_⟩
      intro t ht
      exact le_of_eq (Option.some.inj ht)
    | some least =>
      obtain ⟨hmem, hleast⟩ := h
      constructor
      · rcases Int.le_total least given with hle | hle
        · rw [Int.min_eq_left hle]
          exact .inr hmem
        · rw [Int.min_eq_right hle]
          exact .inl rfl
      · rintro t (ht | ht)
        · cases ht
          exact Int.min_le_right _ _
        · exact Int.le_trans (Int.min_le_left _ _) (hleast ht)

theorem earlier_le {given? : Option Instant} {d : Instant} :
    ∃ d' ≤ d, earlier given? (some d) = some d' := by
  cases given? with
  | none => exact ⟨d, Int.le_refl d, rfl⟩
  | some given => exact ⟨min d given, Int.min_le_left _ _, rfl⟩

theorem given_iff {births : List Birth} {t : Instant} (hb : births[j]? = some b) :
    Given births j t ↔ b.deadline? = some t ∨ ∃ i, b.source? = some i ∧ Given births i t := by
  constructor
  · intro h
    cases h with
    | here hb' hgiven =>
      cases hb.symm.trans hb'
      exact .inl hgiven
    | above hb' hsource hgiven =>
      cases hb.symm.trans hb'
      exact .inr ⟨_, hsource, hgiven⟩
  · rintro (hgiven | ⟨i, hsource, hgiven⟩)
    · exact .here hb hgiven
    · exact .above hb hsource hgiven

theorem Grown.earliest (hf : Grown calls f) (hj : f.members[j]? = some cx) :
    Earliest {t | Given (births calls) j t} cx.deadline? := by
  -- The member that another one comes from was there before it.
  induction j using Nat.strongRecOn generalizing cx with
  | ind j ih =>
    have hlt : j < (births calls).length := by
      rw [← hf.length_eq]
      exact (List.getElem?_eq_some_iff.mp hj).1
    have hb : (births calls)[j]? = some (births calls)[j] := List.getElem?_eq_getElem hlt
    rcases hf.origin j _ cx hb hj with ⟨heq, hnone⟩ | ⟨i, source, hij, hsource, hi, hfrom⟩
    · rw [heq] at hb
      have hempty : {t | Given (births calls) j t} = ∅ := by
        ext t
        simp [given_iff hb, Birth.deadline?, Birth.source?]
      rw [hnone, hempty]
      rfl
    · have hunion : {t | Given (births calls) j t} =
          {t | (births calls)[j].deadline? = some t} ∪ {t | Given (births calls) i t} := by
        ext t
        simp [given_iff hb, hsource]
      rw [hfrom.deadline, hunion]
      exact earliest_earlier (ih i hij hi)

theorem Earliest.eq_some_iff {given : Set Instant} {least? : Option Instant}
    (h : Earliest given least?) (d : Instant) : least? = some d ↔ IsLeast given d := by
  cases least? with
  | none =>
    have hempty : given = ∅ := h
    simp [hempty, IsLeast]
  | some least =>
    constructor
    · rintro ⟨⟩
      exact h
    · intro hd
      rw [h.unique hd]

theorem Earliest.eq_none_iff {given : Set Instant} {least? : Option Instant}
    (h : Earliest given least?) : least? = none ↔ ∀ t, t ∉ given := by
  cases least? with
  | none =>
    have hempty : given = ∅ := h
    simp [hempty]
  | some least =>
    constructor
    · rintro ⟨⟩
    · intro hnone
      exact absurd h.1 (hnone least)

theorem Grown.obeys (hf : Grown calls f) (hj : f.members[j]? = some cx) : Obeys calls f j cx := by
  have hcanceled := hf.isCanceled_iff hj
  have hdeadline := (hf.earliest hj).eq_some_iff
  constructor
  case canceled => exact hcanceled
  case deadline => exact hdeadline
  case unlimited => exact (hf.earliest hj).eq_none_iff
  case inherited =>
    intro b i source d hb hsource hi hd
    rcases hf.origin j b cx hb hj with ⟨rfl, _⟩ | ⟨k, source', _, hk, hsource', hfrom⟩
    · cases hsource
    · cases hsource.symm.trans hk
      cases hi.symm.trans hsource'
      rw [hfrom.deadline, hd]
      exact earlier_le
  case check_canceled =>
    intro now
    rw [Context.check_eq_canceled, hcanceled]
  case check_expired =>
    intro now
    rw [Context.check_eq_expired, Ne, hcanceled, Context.isExpired_iff]
    simp only [hdeadline]
  case check_ok =>
    intro now
    rw [Context.check_eq_ok, Ne, hcanceled, Ne, Context.isExpired_iff]
    simp only [hdeadline]
    simp

/-- After any calls, every member is canceled just if the calls say so, whatever their order; it has the
earliest deadline that was given on the way to it, which is not later than that of the member it comes
from; and it is refused for the first of these reasons that there is, or else let through. Any call on a
member can be made next. -/
theorem run_obeys (h : run calls = some f) :
    f.members.length = (births calls).length ∧
      (∀ j cx, f.members[j]? = some cx → Obeys calls f j cx) ∧
      ∀ call, (∀ i, call.callee? = some i → i < f.members.length) →
        ∃ f', run (calls ++ [call]) = some f' := by
  have hf := grown_of_run h
  refine ⟨hf.length_eq, fun j cx hj => hf.obeys hj, fun call hcallee => ?_⟩
  rw [run_concat, h]
  exact Option.isSome_iff_exists.mp (step_isSome.mpr hcallee)

/-- A context with a deadline has a clone, which is canceled before more contexts are derived. -/
def latecomers : List Call :=
  [.birth .background, .birth (.withDeadline 0 10), .birth (.clone 1), .cancel 2, .birth (.child 1),
    .birth (.withDeadline 3 20), .birth (.child 0), .birth (.withDeadline 0 7)]

/-- The cancellation reaches who was derived later from the clone's original, but not the others. -/
theorem latecomers_canceled : ∃ f, run latecomers = some f ∧
    f.members[4]? = some ⟨3, [2, 1, 0], some 10⟩ ∧ Obeys latecomers f 4 ⟨3, [2, 1, 0], some 10⟩ ∧
      Canceled latecomers 4 ∧
    f.members[6]? = some ⟨5, [0], some 7⟩ ∧ Obeys latecomers f 6 ⟨5, [0], some 7⟩ ∧
      ¬Canceled latecomers 6 ∧
    ∃ f', run (latecomers ++ [.cancel 6]) = some f' := by
  have hrun : run latecomers = some ⟨[⟨0, [], none⟩, ⟨1, [0], some 10⟩, ⟨1, [0], some 10⟩,
      ⟨2, [1, 0], some 10⟩, ⟨3, [2, 1, 0], some 10⟩, ⟨4, [0], none⟩, ⟨5, [0], some 7⟩], ⟨6, [1]⟩⟩ := rfl
  obtain ⟨_, hobeys, hnext⟩ := run_obeys hrun
  have hlate := hobeys 4 _ rfl
  have hother := hobeys 6 _ rfl
  refine ⟨_, hrun, rfl, hlate, hlate.canceled.mp rfl, rfl, hother, ?_, hnext (.cancel 6) ?_⟩
  · rw [← hother.canceled]
    decide
  · rintro _ ⟨⟩
    decide

end Family

end RecordMapper
