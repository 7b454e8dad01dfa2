import Mathlib.Data.List.Basic
import RecordMapper.Text.Pattern

/-!
# What patterns read

A pattern reads on from a place in a text: what it has read and what it leaves make up the text that
was ahead, and its groups hold nothing but characters from there (`Cursor.LeadsTo`). So a match cuts the
text in three (`Match.Cuts`).
-/

namespace RecordMapper.Text.Pattern

variable {p : Pattern} {k k' k'' done : Cursor} {found : Match} {before after read text : List Char}

/-! ## Places -/

/-- Reading leads from one place to the other. -/
structure Cursor.LeadsTo (k k' : Cursor) : Prop where
  stretch : ∃ read, k'.before = read.reverse ++ k.before ∧ k.after = read ++ k'.after
  groups : ∀ group ∈ k'.groups, group ∈ k.groups ∨ group ⊆ k.after

theorem Cursor.LeadsTo.refl (k : Cursor) : k.LeadsTo k :=
  ⟨⟨[], rfl, rfl⟩, fun _ hgroup => .inl hgroup⟩

theorem Cursor.LeadsTo.trans (h : k.LeadsTo k') (h' : k'.LeadsTo k'') : k.LeadsTo k'' := by
  obtain ⟨⟨read, hbefore, hafter⟩, hgroups⟩ := h
  obtain ⟨⟨read', hbefore', hafter'⟩, hgroups'⟩ := h'
  refine ⟨⟨read ++ read', ?_, ?_⟩, fun group hgroup => ?_⟩
  · rw [hbefore', hbefore, List.reverse_append, List.append_assoc]
  · rw [hafter, hafter', List.append_assoc]
  · rcases hgroups' group hgroup with hold | hnew
    · exact hgroups group hold
    · right
      rw [hafter]
      exact List.Subset.trans hnew (List.subset_append_right _ _)

/-- The text between two places is what was read from one to the other. -/
theorem stretch_eq (h : done.before = read.reverse ++ before) :
    (done.before.take (done.before.length - before.length)).reverse = read := by
  rw [h, List.length_append, Nat.add_sub_cancel, List.take_left', List.reverse_reverse]
  rfl

theorem leadsTo_of_mem_read (h : k' ∈ p.read k) : k.LeadsTo k' := by
  induction p generalizing k k' with
  | empty =>
    cases List.mem_singleton.mp h
    exact .refl k
  | one q =>
    obtain ⟨before, after, groups⟩ := k
    cases after with
    | nil => cases h
    | cons c cs =>
      by_cases hc : q c = true
      · simp only [Pattern.read, if_pos hc, List.mem_singleton] at h
        rw [h]
        exact ⟨⟨[c], rfl, rfl⟩, fun _ hgroup => .inl hgroup⟩
      · simp only [Pattern.read, if_neg hc] at h
        cases h
  | seq first second ihFirst ihSecond =>
    obtain ⟨mid, hmid, hk'⟩ := List.mem_flatMap.mp h
    exact (ihFirst hmid).trans (ihSecond hk')
  | alt first second ihFirst ihSecond =>
    rcases List.mem_append.mp h with h | h
    · exact ihFirst h
    · exact ihSecond h
  | optional part ih =>
    rcases List.mem_append.mp h with h | h
    · exact ih h
    · cases List.mem_singleton.mp h
      exact .refl k
  | group part ih =>
    obtain ⟨done, hdone, rfl⟩ := List.mem_map.mp h
    obtain ⟨⟨read, hbefore, hafter⟩, hgroups⟩ := ih hdone
    refine ⟨⟨read, hbefore, hafter⟩, fun group hgroup => ?_⟩
    rcases List.mem_append.mp hgroup with hold | hgroup
    · exact .inl hold
    · rcases List.mem_cons.mp hgroup with rfl | hinner
      · right
        rw [stretch_eq hbefore, hafter]
        exact List.subset_append_left _ _
      · exact hgroups group (List.mem_of_mem_drop hinner)
  | textStart | textEnd | wordEdge =>
    simp only [Pattern.read] at h
    split_ifs at h
    · cases List.mem_singleton.mp h
      exact .refl k
    · cases h

/-! ## Matches -/

/-- A match comes from reading on at some place of the text. -/
theorem searchFrom_eq_some (h : p.searchFrom before text = some found) :
    ∃ before' after done, before'.reverse ++ after = before.reverse ++ text ∧
      done ∈ p.read ⟨before', after, []⟩ ∧ found.before = before'.reverse ∧
      found.groups = (done.before.take (done.before.length - before'.length)).reverse :: done.groups ∧
      found.after = done.after := by
  have of_attempt : ∀ {before after}, searchFrom.attempt p before after = some found →
      ∃ done, done ∈ p.read ⟨before, after, []⟩ ∧ found.before = before.reverse ∧
        found.groups = (done.before.take (done.before.length - before.length)).reverse :: done.groups ∧
        found.after = done.after := by
    intro before after hattempt
    obtain ⟨done, hdone, rfl⟩ := Option.map_eq_some_iff.mp hattempt
    exact ⟨done, List.mem_of_mem_head? hdone, rfl, rfl, rfl⟩
  induction text generalizing before with
  | nil =>
    obtain ⟨done, hdone⟩ := of_attempt h
    exact ⟨before, [], done, rfl, hdone⟩
  | cons c cs ih =>
    unfold searchFrom at h
    cases hattempt : searchFrom.attempt p before (c :: cs) with
    | some found' =>
      rw [hattempt] at h
      cases h
      obtain ⟨done, hdone⟩ := of_attempt hattempt
      exact ⟨before, c :: cs, done, rfl, hdone⟩
    | none =>
      rw [hattempt] at h
      obtain ⟨before', after, done, htext, hdone⟩ := ih h
      refine ⟨before', after, done, ?_, hdone⟩
      rw [htext, List.reverse_cons, List.append_assoc]
      rfl

/-- The match cuts the text in three, the stretch that was read being its first group. -/
structure Match.Cuts (found : Match) (text : List Char) : Prop where
  whole : found.before ++ found.groups.getD 0 [] ++ found.after = text
  groups : ∀ group ∈ found.groups, group ⊆ text

theorem cuts_of_search (h : p.search text = some found) : found.Cuts text := by
  obtain ⟨before, after, done, htext, hdone, hbefore, hgroups, hafter⟩ := searchFrom_eq_some h
  obtain ⟨⟨read, hread, hrest⟩, hinner⟩ := leadsTo_of_mem_read hdone
  rw [stretch_eq hread] at hgroups
  have hsplit : found.before ++ read ++ found.after = text := by
    rw [hbefore, hafter, List.append_assoc, ← hrest]
    exact htext
  refine ⟨?_, fun group hgroup => ?_⟩
  · rw [hgroups]
    exact hsplit
  · rw [hgroups] at hgroup
    rcases List.mem_cons.mp hgroup with rfl | hgroup
    · rw [← hsplit, List.append_assoc]
      exact List.Subset.trans (List.subset_append_left _ _) (List.subset_append_right _ _)
    · rcases hinner group hgroup with hnone | hsub
      · cases hnone
      · have hahead : after ⊆ text := by
          rw [← show before.reverse ++ after = text from htext]
          exact List.subset_append_right _ _
        exact List.Subset.trans hsub hahead

/-- Where the whole pattern up to the end of the text is a group, that group is the whole match. -/
theorem group_of_search (h : (Pattern.seq (.group p) .textEnd).search text = some found) :
    found.groups.getD 1 [] = found.groups.getD 0 [] := by
  obtain ⟨before, after, done, _, hdone, _, hgroups, _⟩ := searchFrom_eq_some h
  obtain ⟨mid, hmid, hend⟩ := List.mem_flatMap.mp hdone
  obtain ⟨inner, hinner, rfl⟩ := List.mem_map.mp hmid
  simp only [Pattern.read] at hend
  split_ifs at hend
  · cases List.mem_singleton.mp hend
    rw [hgroups]
    rfl
  · cases hend

end RecordMapper.Text.Pattern
