import Mathlib.Data.List.Basic
import RecordMapper.Query.Fragment

/-!
# The pieces of a fragment

Literals are told from left to right. One opens at a quote that stands in no other literal and runs to
the next quote of its kind, or to the end. A text in which all literals that open are closed is *whole*,
and a question mark is the place of an argument exactly if the text in front of it is whole.

The scan of a fragment carries the quote that is open. What that quote says about the text scanned so far
(`EndsIn`) is kept by every character, and from it follows where a fragment is cut (`cutBetween_iff`).
A fragment that is whole is cut as if the text behind it were not there, and the other way round
(`split_append`).
-/

namespace RecordMapper.Fragment

/-- A literal opens at the character if none is open. -/
def IsQuote (c : Char) : Prop := c = '\'' ∨ c = '"'

instance (c : Char) : Decidable (IsQuote c) := inferInstanceAs (Decidable (_ ∨ _))

/-- Every literal that opens in the text is closed in it. -/
inductive Whole : List Char → Prop
  | nil : Whole []
  | plain {c : Char} {cs : List Char} : ¬IsQuote c → Whole cs → Whole (c :: cs)
  | literal {quote : Char} {body cs : List Char} : IsQuote quote → quote ∉ body → Whole cs →
      Whole (quote :: body ++ quote :: cs)

/-- A literal opens in the text at the quote and is still open at the end. -/
def Unclosed (quote : Char) (cs : List Char) : Prop :=
  ∃ before body, cs = before ++ quote :: body ∧ Whole before ∧ IsQuote quote ∧ quote ∉ body

/-- Where the end of the text stands: outside literals, or in one that opened at the given quote. -/
def EndsIn (quote : Option Char) (cs : List Char) : Prop :=
  match quote with
  | none => Whole cs
  | some quote => Unclosed quote cs

/-- The fragment is cut between two texts: some of its pieces, joined by question marks, are the first
one, and the pieces behind them are the second one. -/
def CutBetween (fragment before after : String) : Prop :=
  ∃ ps qs, ps ≠ [] ∧ qs ≠ [] ∧ pieces fragment = ps ++ qs ∧
    "?".intercalate ps = before ∧ "?".intercalate qs = after

variable {quote : Option Char} {c q : Char} {cs xs ys body : List Char}

/-! ## Whole texts -/

theorem Whole.append (hxs : Whole xs) (hys : Whole ys) : Whole (xs ++ ys) := by
  induction hxs with
  | nil => exact hys
  | plain hc _ ih => exact .plain hc ih
  | @literal q body cs hq hbody _ ih =>
    rw [List.append_assoc]
    exact .literal hq hbody ih

theorem openQuote_of_isQuote (h : IsQuote q) : openQuote none q = some q := if_pos h

theorem openQuote_of_not_isQuote (h : ¬IsQuote c) : openQuote none c = none := if_neg h

theorem foldl_openQuote_of_notMem (h : q ∉ body) : body.foldl openQuote (some q) = some q := by
  induction body with
  | nil => rfl
  | cons c body ih =>
    obtain ⟨hne, hbody⟩ := not_or.mp (List.mem_cons.not.mp h)
    have hstep : openQuote (some q) c = some q := if_neg (Ne.symm hne)
    rw [List.foldl_cons, hstep, ih hbody]

/-- The scan of a whole text ends outside literals. -/
theorem Whole.foldl_openQuote (h : Whole cs) : cs.foldl openQuote none = none := by
  induction h with
  | nil => rfl
  | plain hc _ ih => rw [List.foldl_cons, openQuote_of_not_isQuote hc, ih]
  | @literal q body cs hq hbody _ ih =>
    have hclose : openQuote (some q) q = none := if_pos rfl
    rw [List.cons_append, List.foldl_cons, List.foldl_append, openQuote_of_isQuote hq,
      foldl_openQuote_of_notMem hbody, List.foldl_cons, hclose, ih]

theorem Unclosed.foldl_openQuote (h : Unclosed q cs) : cs.foldl openQuote none = some q := by
  obtain ⟨before, body, rfl, hbefore, hq, hbody⟩ := h
  rw [List.foldl_append, hbefore.foldl_openQuote, List.foldl_cons, openQuote_of_isQuote hq,
    foldl_openQuote_of_notMem hbody]

/-- One more character moves the end of the text as it moves the scan. -/
theorem EndsIn.step (h : EndsIn quote cs) (c : Char) : EndsIn (openQuote quote c) (cs ++ [c]) := by
  cases quote with
  | none =>
    have hwhole : Whole cs := h
    by_cases hc : IsQuote c
    · rw [openQuote_of_isQuote hc]
      exact ⟨cs, [], rfl, hwhole, hc, List.not_mem_nil⟩
    · rw [openQuote_of_not_isQuote hc]
      exact hwhole.append (.plain hc .nil)
  | some q =>
    obtain ⟨before, body, rfl, hbefore, hq, hbody⟩ := h
    by_cases hc : c = q
    · have hclose : openQuote (some q) c = none := if_pos hc
      rw [hclose, hc, List.append_assoc]
      exact hbefore.append (.literal hq hbody .nil)
    · have hstay : openQuote (some q) c = some q := if_neg hc
      rw [hstay]
      refine ⟨before, body ++ [c], by rw [List.append_assoc, List.cons_append], hbefore, hq, ?_⟩
      rw [List.mem_append, List.mem_singleton, not_or]
      exact ⟨hbody, Ne.symm hc⟩

theorem endsIn_foldl (h : EndsIn quote xs) (cs : List Char) :
    EndsIn (cs.foldl openQuote quote) (xs ++ cs) := by
  induction cs generalizing quote xs with
  | nil => rwa [List.append_nil]
  | cons c cs ih =>
    rw [List.append_cons]
    exact ih (h.step c)

theorem endsIn_scan (cs : List Char) : EndsIn (cs.foldl openQuote none) cs := by
  have hstart : EndsIn none [] := Whole.nil
  exact endsIn_foldl hstart cs

/-- The scan ends outside literals exactly if the text is whole. -/
theorem foldl_openQuote_eq_none : cs.foldl openQuote none = none ↔ Whole cs := by
  refine ⟨fun h => ?_, Whole.foldl_openQuote⟩
  have hends := endsIn_scan cs
  rwa [h] at hends

/-- A text is whole or leaves a literal open, and not both. -/
theorem whole_iff_not_unclosed : Whole cs ↔ ¬∃ q, Unclosed q cs := by
  constructor
  · rintro h ⟨q, hq⟩
    cases h.foldl_openQuote.symm.trans hq.foldl_openQuote
  · intro h
    have hends := endsIn_scan cs
    cases hscan : cs.foldl openQuote none with
    | none => exact foldl_openQuote_eq_none.mp hscan
    | some q =>
      rw [hscan] at hends
      exact absurd ⟨q, hends⟩ h

/-! ## Joining pieces -/

theorem intercalate_glue {pieces : List (List Char)} (h : pieces ≠ []) (c : Char) :
    ['?'].intercalate (glue c pieces) = c :: ['?'].intercalate pieces := by
  obtain ⟨piece, rest, rfl⟩ := List.exists_cons_of_ne_nil h
  rw [glue]
  cases rest with
  | nil => rw [List.intercalate_singleton, List.intercalate_singleton]
  | cons next rest =>
    rw [List.intercalate_cons_cons, List.intercalate_cons_cons]
    rfl

/-- The pieces give the text back. -/
theorem intercalate_split (quote : Option Char) (cs : List Char) :
    ['?'].intercalate (split quote cs) = cs := by
  induction cs generalizing quote with
  | nil => rfl
  | cons c cs ih =>
    rw [split]
    split_ifs with hplace
    · rw [List.intercalate_cons_of_ne_nil (split_ne_nil none cs), ih, hplace.2]
      rfl
    · rw [intercalate_glue (split_ne_nil _ cs), ih]

/-! ## Where a fragment is cut -/

/-- The pieces of two texts in a row: the last one of the first text goes on with the first one of the
second text, which is scanned with the quote that the first text leaves open. -/
theorem split_append (quote : Option Char) (xs ys : List Char) :
    ∃ ps last first qs, split quote xs = ps ++ [last] ∧
      split (xs.foldl openQuote quote) ys = first :: qs ∧
      split quote (xs ++ ys) = ps ++ (last ++ first) :: qs := by
  induction xs generalizing quote with
  | nil =>
    obtain ⟨first, qs, hys⟩ := List.exists_cons_of_ne_nil (split_ne_nil quote ys)
    exact ⟨[], [], first, qs, rfl, hys, hys⟩
  | cons c xs ih =>
    obtain ⟨ps, last, first, qs, hxs, hys, happend⟩ := ih (openQuote quote c)
    by_cases hplace : quote = none ∧ c = '?'
    · have hnone : openQuote quote c = none := by
        rw [hplace.1, hplace.2]
        rfl
      rw [hnone] at hxs happend
      refine ⟨[] :: ps, last, first, qs, ?_, hys, ?_⟩
      · rw [split, if_pos hplace, hxs]
        rfl
      · rw [List.cons_append, split, if_pos hplace, happend]
        rfl
    · rw [List.cons_append, split, split, if_neg hplace, if_neg hplace, hxs, happend]
      -- the character goes to the first piece, which may be the last one as well
      cases ps with
      | nil => exact ⟨[], c :: last, first, qs, rfl, hys, rfl⟩
      | cons p ps => exact ⟨(c :: p) :: ps, last, first, qs, rfl, hys, rfl⟩

/-- Behind a whole text a question mark cuts. -/
theorem split_of_whole (h : Whole xs) (ys : List Char) :
    split none (xs ++ '?' :: ys) = split none xs ++ split none ys := by
  obtain ⟨ps, last, first, qs, hxs, hys, happend⟩ := split_append none xs ('?' :: ys)
  rw [h.foldl_openQuote, split, if_pos ⟨rfl, rfl⟩] at hys
  obtain ⟨rfl, rfl⟩ := List.cons.inj hys
  rw [happend, hxs, List.append_nil, List.append_assoc]
  rfl

/-- In front of a cut no literal is open. -/
theorem foldl_openQuote_of_split {ps qs : List (List Char)} (h : split quote cs = ps ++ qs) (hps : ps ≠ [])
    (hqs : qs ≠ []) : (['?'].intercalate ps).foldl openQuote quote = none := by
  induction cs generalizing quote ps with
  | nil =>
    have hlength := congrArg List.length h
    have hps' := List.length_pos_iff.mpr hps
    have hqs' := List.length_pos_iff.mpr hqs
    rw [split, List.length_append, List.length_singleton] at hlength
    omega
  | cons c cs ih =>
    obtain ⟨p, ps, rfl⟩ := List.exists_cons_of_ne_nil hps
    rw [split] at h
    split_ifs at h with hplace
    · obtain ⟨rfl, hrest⟩ := List.cons.inj h
      cases ps with
      | nil => exact hplace.1
      | cons next ps =>
        rw [List.intercalate_cons_cons, hplace.1]
        exact ih hrest (List.cons_ne_nil next ps)
    · obtain ⟨first, rest, hsplit⟩ := List.exists_cons_of_ne_nil (split_ne_nil (openQuote quote c) cs)
      rw [hsplit, glue] at h
      obtain ⟨rfl, hrest⟩ := List.cons.inj h
      have hglue : ['?'].intercalate ((c :: first) :: ps) = c :: ['?'].intercalate (first :: ps) :=
        intercalate_glue (List.cons_ne_nil first ps) c
      rw [hglue, List.foldl_cons]
      refine ih ?_ (List.cons_ne_nil first ps)
      rw [hsplit, hrest]
      rfl

/-! ## Fragments -/

theorem pieces_ne_nil (fragment : String) : pieces fragment ≠ [] := by
  intro h
  exact split_ne_nil none fragment.toList (List.map_eq_nil_iff.mp h)

theorem map_toList_pieces (fragment : String) :
    (pieces fragment).map String.toList = split none fragment.toList := by
  simp [pieces, Function.comp_def]

theorem intercalate_pieces (fragment : String) : "?".intercalate (pieces fragment) = fragment := by
  rw [← String.toList_inj, String.toList_intercalate, map_toList_pieces]
  exact intercalate_split none fragment.toList

/-- A fragment is cut between two texts exactly if it is them with a question mark between them and the
first one is whole. -/
theorem cutBetween_iff {fragment before after : String} :
    CutBetween fragment before after ↔ fragment = before ++ "?" ++ after ∧ Whole before.toList := by
  constructor
  · rintro ⟨ps, qs, hps, hqs, hpieces, rfl, rfl⟩
    have hsplit : split none fragment.toList = ps.map String.toList ++ qs.map String.toList := by
      rw [← map_toList_pieces, hpieces, List.map_append]
    constructor
    · rw [← intercalate_pieces fragment, hpieces, String.intercalate_append_of_ne_nil hps hqs]
    · have hscan := foldl_openQuote_of_split hsplit (List.map_eq_nil_iff.not.mpr hps)
        (List.map_eq_nil_iff.not.mpr hqs)
      rw [String.toList_intercalate]
      exact foldl_openQuote_eq_none.mp hscan
  · rintro ⟨rfl, hwhole⟩
    refine ⟨pieces before, pieces after, pieces_ne_nil before, pieces_ne_nil after, ?_,
      intercalate_pieces before, intercalate_pieces after⟩
    have hlist : (before ++ "?" ++ after).toList = before.toList ++ '?' :: after.toList := by simp
    unfold pieces
    rw [hlist, split_of_whole hwhole, List.map_append]

/-- The pieces of a fragment, joined by question marks, are the fragment, and it is cut exactly at the
question marks that stand in no literal. If no literal is open at the end of a fragment, a text behind it
is cut as on its own, and only the two pieces where they meet become one. -/
theorem pieces_cut_exactly (f : String) :
    "?".intercalate (pieces f) = f ∧
    (∀ s t, CutBetween f s t ↔ f = s ++ "?" ++ t ∧ ¬∃ q, Unclosed q s.toList) ∧
    ((¬∃ q, Unclosed q f.toList) → ∀ g, ∃ ps last first qs, pieces f = ps ++ [last] ∧
      pieces g = first :: qs ∧ pieces (f ++ g) = ps ++ (last ++ first) :: qs) := by
  refine ⟨intercalate_pieces f, fun s t => ?_, fun hf g => ?_⟩
  · rw [cutBetween_iff, whole_iff_not_unclosed]
  · obtain ⟨ps, last, first, qs, hxs, hys, happend⟩ := split_append none f.toList g.toList
    rw [(whole_iff_not_unclosed.mpr hf).foldl_openQuote] at hys
    refine ⟨ps.map String.ofList, String.ofList last, String.ofList first, qs.map String.ofList, ?_, ?_, ?_⟩
    · rw [pieces, hxs, List.map_append]
      rfl
    · rw [pieces, hys, List.map_cons]
    · rw [pieces, String.toList_append, happend, List.map_append, List.map_cons, String.ofList_append]

/-- A condition with quotes in a literal: one of the other kind, and a doubled one, which closes a literal
and opens the next one. -/
def titled : String := "title = 'Émile''s \"?' AND year > ? OR "

/-- A condition that leaves a literal open. -/
def noted : String := "note = \"it's ?\" OR year < ? OR note = '?"

theorem pieces_titled_noted :
    (¬∃ q, Unclosed q titled.toList) ∧
      pieces (titled ++ noted) =
        ["title = 'Émile''s \"?' AND year > ", " OR note = \"it's ?\" OR year < ", " OR note = '?"] ∧
      ∃ ps last first qs, pieces titled = ps ++ [last] ∧ pieces noted = first :: qs ∧
        pieces (titled ++ noted) = ps ++ (last ++ first) :: qs := by
  have hwhole : Whole titled.toList := foldl_openQuote_eq_none.mp (by decide)
  have hclosed := whole_iff_not_unclosed.mp hwhole
  exact ⟨hclosed, by decide +kernel, (pieces_cut_exactly titled).2.2 hclosed noted⟩

end RecordMapper.Fragment
