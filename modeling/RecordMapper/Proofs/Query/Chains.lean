import Mathlib.Data.List.Induction
import RecordMapper.Sql.Compile

/-!
# Chains of refinements

Every step of a chain adds to one part of the query, so each part can be read off the chain by itself
(`Query.ofChain`, and `Query.Collects` for the lists in the parts): conditions and orderings are those of
the steps in their order, of names each one is kept where it comes first, and the last limit counts. How
the steps on different parts are interleaved does not show in the query, let alone in what it compiles to.
-/

namespace RecordMapper

/-! ## Names that are kept once -/

namespace Trail

variable {α : Type}

/-- Of several equal items the first one is kept. -/
theorem toList_foldl_pushNew [BEq α] [LawfulBEq α] (items : List α) :
    (items.foldl pushNew empty).toList = items.eraseDups := by
  induction items using List.reverseRecOn with
  | nil => rfl
  | append_singleton items item ih =>
    rw [List.foldl_append, List.foldl_cons, List.foldl_nil, List.eraseDups_append, ← ih]
    have hkept : item ∈ (items.foldl pushNew empty).toList ↔ item ∈ items := by
      rw [ih, List.mem_eraseDups]
    by_cases hitem : item ∈ items
    · have hnone : [item].removeAll items = [] := by simp [List.removeAll, hitem]
      rw [pushNew_of_mem (hkept.mpr hitem), hnone]
      simp
    · have hone : [item].removeAll items = [item] := by simp [List.removeAll, hitem]
      rw [pushNew_of_notMem (mt hkept.mp hitem), toList_push, hone]
      rfl

end Trail

/-! ## The parts of a query -/

/-- The parts of a query that can be refined. -/
inductive Query.Part
  | filter
  | select
  | group
  | joins
  | orderBy
  | limit
deriving DecidableEq

namespace Refinement

/-- The part that the step adds to. -/
def part : Refinement → Query.Part
  | filter _ => .filter
  | select _ => .select
  | group _ => .group
  | join _ => .joins
  | orderBy _ => .orderBy
  | limit _ => .limit

def conditions : Refinement → List Predicate
  | filter predicate => [predicate]
  | _ => []

def selected : Refinement → List String
  | select names => names
  | _ => []

def grouped : Refinement → List String
  | group names => names
  | _ => []

def joined : Refinement → List String
  | join name => [name]
  | _ => []

def orderings : Refinement → List OrderBy
  | orderBy order => [order]
  | _ => []

def limits : Refinement → List Nat
  | limit rows => [rows]
  | _ => []

/-- A step says nothing about the parts that it does not add to. -/
theorem silent_elsewhere (step : Refinement) :
    (step.part ≠ .filter → step.conditions = []) ∧ (step.part ≠ .select → step.selected = []) ∧
      (step.part ≠ .group → step.grouped = []) ∧ (step.part ≠ .joins → step.joined = []) ∧
      (step.part ≠ .orderBy → step.orderings = []) ∧ (step.part ≠ .limit → step.limits = []) := by
  cases step <;> simp [part, conditions, selected, grouped, joined, orderings, limits]

end Refinement

/-- The steps of a chain that add to a part. -/
def stepsOn (part : Query.Part) (chain : List Refinement) : List Refinement :=
  chain.filter fun step => step.part = part

namespace Query

open Refinement

/-- Each part of the query, as a list in the order of growth, is what the chain says about it. -/
structure Collects (q : Query) (model : String) (chain : List Refinement) : Prop where
  model : q.model = model
  filter : q.filter.toList = chain.flatMap conditions
  select : q.select.toList = (chain.flatMap selected).eraseDups
  group : q.group.toList = (chain.flatMap grouped).eraseDups
  joins : q.joins.toList = (chain.flatMap joined).eraseDups
  orderBy : q.orderBy.toList = chain.flatMap orderings
  limit : q.limit = (chain.flatMap limits).getLast?

/-- The query that a chain describes, each part read off by itself. -/
def ofChain (model : String) (chain : List Refinement) : Query where
  model := model
  filter := .ofList (chain.flatMap conditions)
  select := .ofList (chain.flatMap selected).eraseDups
  group := .ofList (chain.flatMap grouped).eraseDups
  joins := .ofList (chain.flatMap joined).eraseDups
  orderBy := .ofList (chain.flatMap orderings)
  limit := (chain.flatMap limits).getLast?

theorem collects_ofChain (model : String) (chain : List Refinement) :
    (ofChain model chain).Collects model chain where
  model := rfl
  filter := Trail.toList_ofList _
  select := Trail.toList_ofList _
  group := Trail.toList_ofList _
  joins := Trail.toList_ofList _
  orderBy := Trail.toList_ofList _
  limit := rfl

theorem refine_eq (q : Query) (step : Refinement) : q.refine step =
    { model := q.model
      filter := step.conditions.foldl Trail.push q.filter
      select := step.selected.foldl Trail.pushNew q.select
      group := step.grouped.foldl Trail.pushNew q.group
      joins := step.joined.foldl Trail.pushNew q.joins
      orderBy := step.orderings.foldl Trail.push q.orderBy
      limit := step.limits.getLast?.or q.limit } := by
  cases step <;> rfl

/-- A chain works on each part as if the other parts were not there. -/
theorem refineAll_eq (q : Query) (chain : List Refinement) : q.refineAll chain =
    { model := q.model
      filter := (chain.flatMap conditions).foldl Trail.push q.filter
      select := (chain.flatMap selected).foldl Trail.pushNew q.select
      group := (chain.flatMap grouped).foldl Trail.pushNew q.group
      joins := (chain.flatMap joined).foldl Trail.pushNew q.joins
      orderBy := (chain.flatMap orderings).foldl Trail.push q.orderBy
      limit := (chain.flatMap limits).getLast?.or q.limit } := by
  induction chain generalizing q with
  | nil => rfl
  | cons step chain ih =>
    show (q.refine step).refineAll chain = _
    rw [ih, refine_eq]
    simp only [List.flatMap_cons, List.foldl_append, List.getLast?_append, Option.or_assoc]

theorem refineAll_all_eq (model : String) (chain : List Refinement) :
    (all model).refineAll chain = ofChain model chain := by
  have hnames : ∀ names : List String, names.foldl Trail.pushNew .empty = .ofList names.eraseDups := by
    intro names
    rw [← Trail.toList_inj, Trail.toList_foldl_pushNew, Trail.toList_ofList]
  rw [refineAll_eq, ofChain]
  simp only [all, hnames, Option.or_none]
  rfl

/-! ## Interleavings -/

variable {chain chain' : List Refinement}

/-- What only the steps on a part say can be read off these. -/
theorem flatMap_stepsOn {α : Type} {f : Refinement → List α} {part : Part}
    (h : ∀ step, step.part ≠ part → f step = []) (chain : List Refinement) :
    (stepsOn part chain).flatMap f = chain.flatMap f := by
  induction chain with
  | nil => rfl
  | cons step chain ih =>
    unfold stepsOn at ih ⊢
    by_cases hpart : step.part = part
    · rw [List.filter_cons_of_pos (by simpa using hpart), List.flatMap_cons, List.flatMap_cons, ih]
    · rw [List.filter_cons_of_neg (by simpa using hpart), List.flatMap_cons, ih, h step hpart]
      rfl

/-- Chains that agree on every part describe one query. -/
theorem ofChain_congr (model : String) (h : ∀ part, stepsOn part chain = stepsOn part chain') :
    ofChain model chain = ofChain model chain' := by
  have hagree : ∀ {α : Type} {f : Refinement → List α} {part : Part},
      (∀ step, step.part ≠ part → f step = []) → chain.flatMap f = chain'.flatMap f := by
    intro α f part hf
    rw [← flatMap_stepsOn hf chain, h part, flatMap_stepsOn hf chain']
  have hconditions := hagree fun step => step.silent_elsewhere.1
  have hselected := hagree fun step => step.silent_elsewhere.2.1
  have hgrouped := hagree fun step => step.silent_elsewhere.2.2.1
  have hjoined := hagree fun step => step.silent_elsewhere.2.2.2.1
  have horderings := hagree fun step => step.silent_elsewhere.2.2.2.2.1
  have hlimits := hagree fun step => step.silent_elsewhere.2.2.2.2.2
  rw [ofChain, ofChain, hconditions, hselected, hgrouped, hjoined, horderings, hlimits]

/-- A chain gives the query that it describes part by part, with the lists that the chain says in its
parts. Chains that agree on the steps on each part, however these are interleaved with steps on other
parts, give one query, and it compiles to one outcome. -/
theorem refineAll_all (model : String) (chain : List Refinement) :
    (all model).refineAll chain = ofChain model chain ∧
      ((all model).refineAll chain).Collects model chain ∧
      ∀ chain', (∀ part, stepsOn part chain = stepsOn part chain') →
        (all model).refineAll chain = (all model).refineAll chain' ∧
        ∀ r d, Sql.compile r (.query ((all model).refineAll chain)) d =
          Sql.compile r (.query ((all model).refineAll chain')) d := by
  have hchain := refineAll_all_eq model chain
  have hcollects : ((all model).refineAll chain).Collects model chain := by
    rw [hchain]
    exact collects_ofChain model chain
  refine ⟨hchain, hcollects, fun chain' h => ?_⟩
  have hsame : (all model).refineAll chain = (all model).refineAll chain' := by
    rw [hchain, refineAll_all_eq, ofChain_congr model h]
  exact ⟨hsame, fun r d => by rw [hsame]⟩

end Query

namespace Bookshop

/-- Names first, then conditions, then the rest. -/
def sortedChain : List Refinement :=
  [.select ["title", "year"], .select ["year", "rating", "title"], .filter (.equals "year" (.int 1850)),
    .filter (.raw "rating > ?" [.int 3]), .join "author", .join "author", .limit 10, .limit 5]

/-- The same steps on each part, mixed. -/
def mixedChain : List Refinement :=
  [.limit 10, .join "author", .filter (.equals "year" (.int 1850)), .select ["title", "year"], .limit 5,
    .filter (.raw "rating > ?" [.int 3]), .select ["year", "rating", "title"], .join "author"]

theorem mixedChain_agrees : (∀ part, stepsOn part sortedChain = stepsOn part mixedChain) ∧
    (Query.all "book").refineAll mixedChain =
      { model := "book"
        filter := .ofList [.equals "year" (.int 1850), .raw "rating > ?" [.int 3]]
        select := .ofList ["title", "year", "rating"]
        joins := .ofList ["author"]
        limit := some 5 } ∧
    ∀ r d, Sql.compile r (.query ((Query.all "book").refineAll sortedChain)) d =
      Sql.compile r (.query ((Query.all "book").refineAll mixedChain)) d := by
  have hagree : ∀ part, stepsOn part sortedChain = stepsOn part mixedChain := by
    intro part
    cases part <;> rfl
  obtain ⟨hsorted, -, hmixed⟩ := Query.refineAll_all "book" sortedChain
  obtain ⟨hsame, hcompile⟩ := hmixed mixedChain hagree
  refine ⟨hagree, ?_, hcompile⟩
  rw [← hsame, hsorted]
  decide

end Bookshop

end RecordMapper
