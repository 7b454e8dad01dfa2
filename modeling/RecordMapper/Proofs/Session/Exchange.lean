import RecordMapper.Session.Dialogue

/-!
# Runs of dialogues

What a dialogue can lead to depends on the answers that it gets. `Dialogue.Runs` relates a dialogue to
the exchanges that it can go through and the result that it then ends with, for answers of any kind and
in any order: nothing is assumed about the world that gives them. Whatever a world answers is one of
these runs (`Dialogue.runs_run`).

A run is taken apart along the dialogue by one equivalence for each way of building dialogues.
-/

namespace RecordMapper

/-- A request with the answer that it got. -/
structure Exchange where
  request : Request
  answer : request.Answer

/-- The error of an answer, if it is one. -/
def failure? {α : Type} : Except Error α → Option Error
  | .ok _ => none
  | .error e => some e

/-- The error that was answered, if one was. -/
def Exchange.failure? : Exchange → Option Error
  | ⟨.connect _ _, answer⟩ => RecordMapper.failure? answer
  | ⟨.exec _ _ _ _, answer⟩ => RecordMapper.failure? answer
  | ⟨.query _ _ _ _, answer⟩ => RecordMapper.failure? answer
  | ⟨.close _, answer⟩ => RecordMapper.failure? answer

namespace Dialogue

variable {α β σ : Type} {d : Dialogue α} {f : α → Dialogue β} {log : List Exchange}

/-- The dialogue can go through the exchanges and then end with the result. -/
inductive Runs : Dialogue α → List Exchange → α → Prop
  | done (result : α) : Runs (.done result) [] result
  | ask {request : Request} {next : request.Answer → Dialogue α} {log : List Exchange} {result : α}
    (answer : request.Answer) :
    Runs (next answer) log result → Runs (.ask request next) (⟨request, answer⟩ :: log) result

theorem runs_pure {a b : α} : (pure a : Dialogue α).Runs log b ↔ log = [] ∧ a = b := by
  constructor
  · intro h
    cases h
    exact ⟨rfl, rfl⟩
  · rintro ⟨rfl, rfl⟩
    exact .done a

theorem runs_ask {request : Request} {next : request.Answer → Dialogue α} {a : α} :
    (ask request next).Runs log a ↔
      ∃ answer rest, log = ⟨request, answer⟩ :: rest ∧ (next answer).Runs rest a := by
  constructor
  · intro h
    cases h with
    | ask answer hrest => exact ⟨answer, _, rfl, hrest⟩
  · rintro ⟨answer, rest, rfl, hrest⟩
    exact .ask answer hrest

theorem runs_request {r : Request} {a : r.Answer} : (request r).Runs log a ↔ log = [⟨r, a⟩] := by
  constructor
  · intro h
    obtain ⟨answer, rest, rfl, hrest⟩ := runs_ask.mp h
    obtain ⟨rfl, rfl⟩ := runs_pure.mp hrest
    rfl
  · rintro rfl
    exact .ask a (.done a)

theorem bind_done (d : Dialogue α) : d.bind done = d := by
  induction d with
  | done result => rfl
  | ask request next ih => exact congrArg (ask request) (funext ih)

theorem bind_bind {γ : Type} (d : Dialogue α) (f : α → Dialogue β) (g : β → Dialogue γ) :
    (d.bind f).bind g = d.bind fun a => (f a).bind g := by
  induction d with
  | done result => rfl
  | ask request next ih => exact congrArg (ask request) (funext ih)

instance : LawfulMonad Dialogue :=
  LawfulMonad.mk' Dialogue bind_done (fun _ _ => rfl) bind_bind

/-- The exchanges of one dialogue after the other are those of the first and then those of the
second. -/
theorem runs_bind {b : β} : (d >>= f).Runs log b ↔
    ∃ first a second, log = first ++ second ∧ d.Runs first a ∧ (f a).Runs second b := by
  induction d generalizing log with
  | done result =>
    constructor
    · intro h
      exact ⟨[], result, log, rfl, .done result, h⟩
    · rintro ⟨first, a, second, rfl, hfirst, hsecond⟩
      cases hfirst
      exact hsecond
  | ask request next ih =>
    constructor
    · intro h
      obtain ⟨answer, rest, rfl, hrest⟩ := runs_ask.mp h
      obtain ⟨first, a, second, rfl, hfirst, hsecond⟩ := (ih answer).mp hrest
      exact ⟨_ :: first, a, second, rfl, .ask answer hfirst, hsecond⟩
    · rintro ⟨first, a, second, rfl, hfirst, hsecond⟩
      obtain ⟨answer, rest, rfl, hrest⟩ := runs_ask.mp hfirst
      exact .ask answer ((ih answer).mpr ⟨rest, a, second, rfl, hrest, hsecond⟩)

theorem runs_map {g : α → β} {b : β} :
    (g <$> d).Runs log b ↔ ∃ a, d.Runs log a ∧ g a = b := by
  show (d >>= fun a => pure (g a)).Runs log b ↔ _
  rw [runs_bind]
  constructor
  · rintro ⟨first, a, second, rfl, hfirst, hsecond⟩
    obtain ⟨rfl, rfl⟩ := runs_pure.mp hsecond
    exact ⟨a, by rwa [List.append_nil], rfl⟩
  · rintro ⟨a, ha, rfl⟩
    exact ⟨log, a, [], (List.append_nil log).symm, ha, runs_pure.mpr ⟨rfl, rfl⟩⟩

/-- What a world answers is a run, whatever the world is. -/
theorem runs_run (answer : (r : Request) → σ → r.Answer × σ) (d : Dialogue α) (world : σ) :
    ∃ log, d.Runs log (d.run answer world).1 := by
  induction d generalizing world with
  | done result => exact ⟨[], .done result⟩
  | ask request next ih =>
    obtain ⟨log, hlog⟩ := ih (answer request world).1 (answer request world).2
    exact ⟨_, .ask _ hlog⟩

theorem run_map (answer : (r : Request) → σ → r.Answer × σ) (d : Dialogue α) (g : α → β) (world : σ) :
    ((g <$> d).run answer world).1 = g (d.run answer world).1 := by
  induction d generalizing world with
  | done result => rfl
  | ask request next ih => exact ih (answer request world).1 (answer request world).2

/-! ## What is asked -/

/-- All requests that the dialogue can make have a property. -/
def Asks (p : Request → Prop) (d : Dialogue α) : Prop :=
  ∀ log result, d.Runs log result → ∀ x ∈ log, p x.request

variable {p : Request → Prop}

theorem asks_pure (a : α) : (pure a : Dialogue α).Asks p := by
  intro log result h x hx
  rw [(runs_pure.mp h).1] at hx
  exact absurd hx List.not_mem_nil

theorem Asks.bind (h : d.Asks p) (h' : ∀ a, (f a).Asks p) : (d >>= f).Asks p := by
  intro log result hruns x hx
  obtain ⟨first, a, second, rfl, hfirst, hsecond⟩ := runs_bind.mp hruns
  rcases List.mem_append.mp hx with hx | hx
  · exact h first a hfirst x hx
  · exact h' a second result hsecond x hx

theorem Asks.map {g : α → β} (h : d.Asks p) : (g <$> d).Asks p :=
  h.bind fun _ => asks_pure _

end Dialogue

end RecordMapper
