import Mathlib.Data.List.Basic
import RecordMapper.Error

/-!
# Errors with context

Context is added to an error by putting another one on top of it, whose kind then comes first in the
chain. What an error shows is read off its chain: the messages from the top down, the traits at the top,
the root at the bottom, and anywhere whether it is an error of compilation time. So errors that are
made on the spot and added one after the other show all that was said (`addAll_of`).

An error that somebody else holds as well is not put on top itself: what is added is a copy of its words.
Whoever asks for its traits sees the difference (`seen_context_iff`).
-/

namespace RecordMapper.Error

variable {e c top : Error} {shared : Bool}

/-! ## Chains -/

theorem message_of (kind : ErrorKind) : (of kind).message = kind.message := by
  simp [message, chain, of]

theorem message_on_top (kind : ErrorKind) (e : Error) :
    (⟨kind, e.chain⟩ : Error).message = kind.message ++ ": " ++ e.message := by
  simp [message, chain]

theorem getLast?_chain (e : Error) : e.chain.getLast?.map of = some e.root := by
  simp [root, chain, List.getLast?_cons]

theorem isCompilationTime_iff :
    e.isCompilationTime = true ↔ ∃ kind ∈ e.chain, kind.isCompilationTime = true :=
  List.any_eq_true

/-! ## Adding context -/

/-- What comes on top of an error is the other one, if it has no causes, or else a copy of its words. -/
theorem context_eq_ok : e.context c shared = .ok top ↔
    (shared = true ∧ top = ⟨.adhoc c.kind.message, e.chain⟩) ∨
      (shared = false ∧ c.causes = [] ∧ top = ⟨c.kind, e.chain⟩) := by
  unfold context
  cases shared with
  | true => simp [eq_comm]
  | false =>
    by_cases hcauses : c.causes = []
    · simp [hcauses, eq_comm]
    · simp [hcauses]

/-- What is put on top of an error on the spot. -/
inductive Addition
  /-- Words of one's own. -/
  | words (text : String)
  /-- An error that was just made. -/
  | fresh (kind : ErrorKind)

/-- The error that is put on top. -/
def Addition.error : Addition → Error
  | words text => of (.adhoc text)
  | fresh kind => of kind

/-- Puts all that is added on top of an error, one after the other. -/
def addAll (e : Error) (added : List Addition) : Except ContextFault Error :=
  added.foldlM (fun e a => e.context a.error false) e

theorem Addition.context (a : Addition) (e : Error) :
    e.context a.error false = .ok ⟨a.error.kind, e.chain⟩ := by
  have hcauses : a.error.causes = [] := by cases a <;> rfl
  exact context_eq_ok.mpr (.inr ⟨rfl, hcauses, rfl⟩)

/-- The chain grows at its head with everything that is added. -/
theorem chain_of_addAll (e : Error) (added : List Addition) :
    ∃ top, e.addAll added = .ok top ∧
      top.chain = (added.map fun a => a.error.kind).reverse ++ e.chain := by
  induction added generalizing e with
  | nil => exact ⟨e, rfl, rfl⟩
  | cons a added ih =>
    obtain ⟨top, htop, hchain⟩ := ih ⟨a.error.kind, e.chain⟩
    have hcons : e.addAll (a :: added) = addAll ⟨a.error.kind, e.chain⟩ added := by
      unfold addAll
      rw [List.foldlM_cons, a.context]
      rfl
    refine ⟨top, hcons.trans htop, ?_⟩
    rw [hchain, List.map_cons, List.reverse_cons, List.append_assoc]
    rfl

/-- Whatever is added to an error that was just made, the result shows all messages with the last one
first, has the traits of what was added last, has the first error as its root, and is of compilation time
just if one of them is. -/
theorem addAll_of (kind : ErrorKind) (added : List Addition) :
    ∃ top, (of kind).addAll added = .ok top ∧
      top.message = ": ".intercalate
        ((added.map fun a => a.error.message).reverse ++ [(of kind).message]) ∧
      top.root = of kind ∧
      (∀ t, top.has t = ((added.getLast?.map Addition.error).getD (of kind)).has t) ∧
      (top.isCompilationTime = true ↔ kind.isCompilationTime = true ∨
        ∃ a ∈ added, a.error.kind.isCompilationTime = true) := by
  obtain ⟨top, htop, hchain⟩ := chain_of_addAll (of kind) added
  have hmessages : top.chain.map ErrorKind.message =
      (added.map fun a => a.error.message).reverse ++ [(of kind).message] := by
    have hadded : (added.map fun a => a.error.kind).map ErrorKind.message =
        added.map fun a => a.error.message := by
      rw [List.map_map]
      refine List.map_congr_left fun a _ => ?_
      cases a <;> exact (message_of _).symm
    rw [hchain, message_of, List.map_append, List.map_reverse, hadded]
    rfl
  have hroot : some top.root = some (of kind) := by
    rw [← getLast?_chain, hchain]
    simp [chain, of]
  have hkind : top.kind = ((added.getLast?.map Addition.error).getD (of kind)).kind := by
    have hhead : top.chain.head? = some top.kind := rfl
    rw [hchain] at hhead
    cases hlast : added.getLast? with
    | none => simp_all [chain, of]
    | some a => simp_all [chain, of]
  refine ⟨top, htop, congrArg (String.intercalate ": ") hmessages, Option.some.inj hroot, fun t => ?_, ?_⟩
  · unfold has
    rw [hkind]
  · rw [isCompilationTime_iff, hchain]
    simp only [List.mem_append, List.mem_reverse, List.mem_map]
    constructor
    · rintro ⟨k, ⟨a, ha, rfl⟩ | hk, htime⟩
      · exact .inr ⟨a, ha, htime⟩
      · rw [List.mem_singleton.mp hk] at htime
        exact .inl htime
    · rintro (htime | ⟨a, ha, htime⟩)
      · exact ⟨kind, .inr (List.mem_singleton_self _), htime⟩
      · exact ⟨a.error.kind, .inl ⟨a, ha, rfl⟩, htime⟩

/-! ## Errors that others hold -/

/-- What callers see of an error. -/
structure Appearance where
  message : String
  has : ErrorKind.Trait → Bool
  isCompilationTime : Bool

/-- What callers see when context was added, if that did not fail. -/
def seen (outcome : Except ContextFault Error) : Except ContextFault Appearance :=
  outcome.map fun top => ⟨top.message, top.has, top.isCompilationTime⟩

theorem has_eq_false_iff : (∀ t, c.has t = false) ↔ c.kind.traits = [] := by
  simp [has, List.eq_nil_iff_forall_not_mem]

/-- A kind of compilation time has a trait by which it is known. -/
theorem traits_ne_nil {kind : ErrorKind} (h : kind.isCompilationTime = true) : kind.traits ≠ [] := by
  cases kind <;> first | exact List.cons_ne_nil _ _ | cases h

theorem seen_context (e c : Error) (shared : Bool) : seen (e.context c shared) =
    if shared = false ∧ c.causes ≠ [] then .error .hasCause
    else .ok ⟨c.kind.message ++ ": " ++ e.message, fun t => !shared && c.has t,
      (!shared && c.kind.isCompilationTime) || e.isCompilationTime⟩ := by
  cases shared with
  | true =>
    have hcopy : e.context c true = .ok ⟨.adhoc c.kind.message, e.chain⟩ :=
      context_eq_ok.mpr (.inl ⟨rfl, rfl⟩)
    rw [hcopy, if_neg fun h => Bool.noConfusion h.1]
    show Except.ok (⟨message ⟨.adhoc c.kind.message, e.chain⟩, _, _⟩ : Appearance) = _
    rw [message_on_top]
    rfl
  | false =>
    by_cases hcauses : c.causes = []
    · have htop : e.context c false = .ok ⟨c.kind, e.chain⟩ :=
        context_eq_ok.mpr (.inr ⟨rfl, hcauses, rfl⟩)
      rw [htop, if_neg fun h => h.2 hcauses]
      show Except.ok (⟨message ⟨c.kind, e.chain⟩, _, _⟩ : Appearance) = _
      rw [message_on_top]
      rfl
    · have hfault : e.context c false = .error .hasCause := by
        unfold context
        simp [hcauses]
      rw [hfault, if_pos ⟨rfl, hcauses⟩]
      rfl

/-- Whether another one holds what is added makes no difference just if that has no causes and no traits.
If nobody else holds it and it has causes, nothing can be added at all. Otherwise its own words come
first; its traits, and whether it is of compilation time, are lost if somebody else holds it. -/
theorem seen_context_iff (e c : Error) :
    (seen (e.context c true) = seen (e.context c false) ↔ c.causes = [] ∧ ∀ t, c.has t = false) ∧
      ∀ shared, seen (e.context c shared) =
        if shared = false ∧ c.causes ≠ [] then .error .hasCause
        else .ok ⟨c.kind.message ++ ": " ++ e.message, fun t => !shared && c.has t,
          (!shared && c.kind.isCompilationTime) || e.isCompilationTime⟩ := by
  refine ⟨?_, seen_context e c⟩
  rw [seen_context, seen_context, if_neg fun h => Bool.noConfusion h.1]
  by_cases hcauses : c.causes = []
  · rw [if_neg fun h => h.2 hcauses]
    constructor
    · intro hseen
      have hhas := congrArg Appearance.has (Except.ok.inj hseen)
      exact ⟨hcauses, fun t => (congrFun hhas t).symm⟩
    · rintro ⟨_, hnone⟩
      have hhas : (fun t => !false && c.has t) = fun _ => false := funext hnone
      have htime : c.kind.isCompilationTime = false := by
        cases htime : c.kind.isCompilationTime with
        | false => rfl
        | true => exact absurd (has_eq_false_iff.mp hnone) (traits_ne_nil htime)
      rw [hhas, htime]
      rfl
  · rw [if_pos ⟨rfl, hcauses⟩]
    constructor
    · intro hseen
      cases hseen
    · rintro ⟨hnone, _⟩
      exact absurd hnone hcauses

/-- That a model is unknown can be asked after it was added to a cancellation, but not if somebody else
holds it; and an error that has a cause can be added only if somebody else holds it. -/
theorem seen_held_ne :
    seen ((of (.canceled false)).context (of (.unknownModel "author")) true) ≠
        seen ((of (.canceled false)).context (of (.unknownModel "author")) false) ∧
      (of (.canceled false)).context ⟨.adhoc "reading", [.unknownModel "author"]⟩ false =
        .error .hasCause := by
  refine ⟨fun hseen => ?_, rfl⟩
  have hhas := congrArg Appearance.has (Except.ok.inj hseen)
  exact Bool.noConfusion (congrFun hhas .unknownModel)

end RecordMapper.Error
