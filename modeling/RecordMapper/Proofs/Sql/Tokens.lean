import RecordMapper.Proofs.Sql.Parts

/-!
# Reading placeholders

A database reads the text of a statement from left to right, skips what stands in quotes and takes
every mark outside them, together with all digits right after it, for a parameter (`tokens`).

A template that closes all quotes that it opens is read as its placeholders, one after the other,
exactly if two things hold: none of its texts has a mark outside quotes, and no text that stands after a
placeholder begins with a digit, which would go on with the number (`tokens_render_iff`).
-/

namespace RecordMapper

open Fragment (openQuote)

/-- The mark that placeholders begin with. -/
def Dialect.mark : Dialect → Char
  | postgresql => '$'
  | _ => '?'

namespace Sql

open Template (render params separated)

/-- The parameters that a database reads in a text: every mark outside quotes with the digits after
it. The quote is the one that is open before the text. -/
def tokens (mark : Char) : Option Char → List Char → List String
  | _, [] => []
  | quote, c :: cs =>
    if quote = none ∧ c = mark then
      -- the digits need not be skipped: none of them is a mark or a quote
      String.ofList (mark :: cs.takeWhile Char.isDigit) :: tokens mark none cs
    else tokens mark (openQuote quote c) cs

variable {d : Dialect} {quote : Option Char} {xs ys : List Char}

/-! ## Reading one text after another -/

theorem tokens_append (h : tokens d.mark quote xs = []) :
    tokens d.mark quote (xs ++ ys) = tokens d.mark (xs.foldl openQuote quote) ys := by
  induction xs generalizing quote with
  | nil => rfl
  | cons c xs ih =>
    rw [tokens] at h
    split_ifs at h with hmark
    rw [List.cons_append, tokens, if_neg hmark, ih h]
    rfl

theorem openQuote_mark (d : Dialect) : openQuote none d.mark = none := by
  cases d <;> rfl

/-- A mark at the end of the first text may take digits from the second one, but stays one mark. -/
theorem length_tokens_append (d : Dialect) (quote : Option Char) (xs ys : List Char) :
    (tokens d.mark quote (xs ++ ys)).length =
      (tokens d.mark quote xs).length + (tokens d.mark (xs.foldl openQuote quote) ys).length := by
  induction xs generalizing quote with
  | nil => simp [tokens]
  | cons c xs ih =>
    rw [List.cons_append, tokens, tokens]
    split_ifs with hmark
    · obtain ⟨rfl, rfl⟩ := hmark
      rw [List.length_cons, List.length_cons, ih, List.foldl_cons, openQuote_mark]
      omega
    · exact ih (openQuote quote c)

theorem openQuote_of_isDigit {c : Char} (h : c.isDigit = true) : openQuote none c = none := by
  have hquote : ¬(c = '\'' ∨ c = '"') := by
    rintro (rfl | rfl)
    · exact absurd h (by decide)
    · exact absurd h (by decide)
  rw [openQuote, if_neg hquote]

theorem openQuote_digits {ds : List Char} (h : ∀ c ∈ ds, c.isDigit = true) :
    ds.foldl openQuote none = none := by
  induction ds with
  | nil => rfl
  | cons c ds ih =>
    rw [List.foldl_cons, openQuote_of_isDigit (h c List.mem_cons_self)]
    exact ih fun x hx => h x (List.mem_cons_of_mem _ hx)

theorem tokens_digits {ds : List Char} (h : ∀ c ∈ ds, c.isDigit = true) :
    tokens d.mark none ds = [] := by
  induction ds with
  | nil => rfl
  | cons c ds ih =>
    have hdigit := h c List.mem_cons_self
    have hmark : c ≠ d.mark := by
      rintro rfl
      cases d <;> exact absurd hdigit (by decide)
    rw [tokens, if_neg fun hc => hmark hc.2, openQuote_of_isDigit hdigit]
    exact ih fun x hx => h x (List.mem_cons_of_mem _ hx)

theorem toList_placeholder (hd : d ≠ .mysql) (position : Nat) :
    (d.placeholder position).toList = d.mark :: (toString position).toList := by
  cases d with
  | mysql => exact absurd rfl hd
  | sqlite => rw [Dialect.placeholder_sqlite, String.toList_append]; rfl
  | postgresql => rw [Dialect.placeholder_postgresql, String.toList_append]; rfl

theorem isDigit_of_mem_toString {position : Nat} {c : Char} (h : c ∈ (toString position).toList) :
    c.isDigit = true := by
  have hdigits : (toString position).toList = Nat.toDigits 10 position := by simp
  rw [hdigits] at h
  exact Nat.isDigit_of_mem_toDigits (by decide) (by decide) h

/-- A placeholder is read with the digits that stand right after it. -/
theorem tokens_placeholder_append (hd : d ≠ .mysql) (position : Nat) (ys : List Char) :
    tokens d.mark none ((d.placeholder position).toList ++ ys) =
      String.ofList ((d.placeholder position).toList ++ ys.takeWhile Char.isDigit) ::
        tokens d.mark none ys := by
  have hdigits : ∀ c ∈ (toString position).toList, c.isDigit = true :=
    fun c hc => isDigit_of_mem_toString hc
  rw [toList_placeholder hd, List.cons_append, tokens, if_pos ⟨rfl, rfl⟩,
    List.takeWhile_append_of_pos hdigits, tokens_append (tokens_digits hdigits), openQuote_digits hdigits]
  rfl

/-! ## Texts without placeholders -/

/-- The text closes the quotes that it opens, and nothing in it is read as a parameter. -/
structure Silent (d : Dialect) (s : String) : Prop where
  closed : s.toList.foldl openQuote none = none
  unmarked : tokens d.mark none s.toList = []

instance (d : Dialect) (s : String) : Decidable (Silent d s) :=
  decidable_of_iff (s.toList.foldl openQuote none = none ∧ tokens d.mark none s.toList = [])
    ⟨fun h => ⟨h.1, h.2⟩, fun h => ⟨h.closed, h.unmarked⟩⟩

theorem Silent.append {s s' : String} (h : Silent d s) (h' : Silent d s') : Silent d (s ++ s') := by
  constructor
  · rw [String.toList_append, List.foldl_append, h.closed, h'.closed]
  · rw [String.toList_append, tokens_append h.unmarked, h.closed, h'.unmarked]

theorem Silent.intercalate {sep : String} {parts : List String} (hsep : Silent d sep)
    (h : ∀ s ∈ parts, Silent d s) : Silent d (sep.intercalate parts) := by
  induction parts with
  | nil => exact ⟨rfl, rfl⟩
  | cons s parts ih =>
    have hs := h s List.mem_cons_self
    have hparts := ih fun x hx => h x (List.mem_cons_of_mem _ hx)
    cases parts with
    | nil => simpa using hs
    | cons s' parts =>
      rw [String.intercalate_cons_cons]
      exact (hs.append hsep).append hparts

/-- Doubled quote marks close the quotes of a name and open them again at once. -/
theorem tokens_doubled_append (d : Dialect) (cs ys : List Char) :
    tokens d.mark (some '"') (Dialect.doubled '"' cs ++ ys) = tokens d.mark (some '"') ys := by
  have hmark : '"' ≠ d.mark := by cases d <;> decide
  induction cs with
  | nil => rfl
  | cons c cs ih =>
    by_cases hc : c = '"'
    · have hpair : ∀ zs, tokens d.mark (some '"') ('"' :: '"' :: zs) = tokens d.mark (some '"') zs :=
        fun zs => by simp [tokens, openQuote, hmark]
      rw [hc, Dialect.doubled_cons_mark, List.cons_append, List.cons_append, hpair, ih]
    · rw [Dialect.doubled_cons_of_ne hc, List.cons_append, tokens]
      simpa [openQuote, hc] using ih

theorem openQuote_doubled (cs : List Char) :
    (Dialect.doubled '"' cs).foldl openQuote (some '"') = some '"' := by
  induction cs with
  | nil => rfl
  | cons c cs ih =>
    by_cases hc : c = '"'
    · rw [hc, Dialect.doubled_cons_mark]
      simpa [openQuote] using ih
    · rw [Dialect.doubled_cons_of_ne hc]
      simpa [openQuote, hc] using ih

theorem silent_quoted (hd : d ≠ .mysql) (name : String) : Silent d (d.quoted name) := by
  have hquote : d.quoteMark = '"' := by
    cases d with
    | mysql => exact absurd rfl hd
    | sqlite => rfl
    | postgresql => rfl
  have hmark : '"' ≠ d.mark := by cases d <;> decide
  constructor
  · rw [Dialect.toList_quoted, hquote, List.cons_append, List.foldl_cons, List.foldl_append]
    show List.foldl openQuote (List.foldl openQuote (some '"') _) ['"'] = none
    rw [openQuote_doubled]
    rfl
  · rw [Dialect.toList_quoted, hquote, List.cons_append, tokens, if_neg fun h => hmark h.2]
    show tokens d.mark (some '"') (Dialect.doubled '"' name.toList ++ ['"']) = []
    rw [tokens_doubled_append, tokens, if_neg fun h => hmark h.2]
    rfl

theorem silent_column (hd : d ≠ .mysql) (c : Column) : Silent d (c.wording d) := by
  obtain ⟨table?, name⟩ := c
  have hdot : Silent d "." := by cases d <;> decide
  cases table? with
  | none => exact silent_quoted hd name
  | some table => exact ((silent_quoted hd table).append hdot).append (silent_quoted hd name)

theorem silent_ordering (hd : d ≠ .mysql) (o : Column × Direction) : Silent d (orderingWording d o) := by
  obtain ⟨c, direction⟩ := o
  have hword : Silent d (directionWord direction) := by cases d <;> cases direction <;> decide
  cases direction with
  | ascending => exact (silent_column hd c).append hword
  | descending => exact (silent_column hd c).append hword

theorem silent_join (hd : d ≠ .mysql) (j : Join) : Silent d (" " ++ j.wording d) := by
  have hkeywords : Silent d " " ∧ Silent d "INNER JOIN " ∧ Silent d " ON " ∧ Silent d " = " := by
    cases d <;> decide
  obtain ⟨hblank, hjoin, hon, hequals⟩ := hkeywords
  have htable := (hjoin.append (silent_quoted hd j.table)).append hon
  exact hblank.append (((htable.append (silent_column hd j.left)).append hequals).append
    (silent_column hd j.right))

theorem silent_limit (d : Dialect) (rows : Nat) : Silent d (" LIMIT " ++ toString rows) := by
  have hkeyword : Silent d " LIMIT " := by cases d <;> decide
  have hdigits : ∀ c ∈ (toString rows).toList, c.isDigit = true :=
    fun c hc => isDigit_of_mem_toString hc
  exact hkeyword.append ⟨openQuote_digits hdigits, tokens_digits hdigits⟩

/-! ## Templates -/

/-- The text of the template begins with a digit. -/
def LeadsWithDigit : Template → Prop
  | [] => False
  | .text s :: rest =>
    match s.toList with
    | [] => LeadsWithDigit rest
    | c :: _ => c.isDigit = true
  | .hole _ :: _ => False

/-- Every text of the template closes the quotes that it opens. -/
def Closed (t : Template) : Prop := ∀ s, Segment.text s ∈ t → s.toList.foldl openQuote none = none

/-- The placeholders of the template are told from its texts: no text has a mark in it, and none that
stands after a hole begins with a digit. -/
def Legible (d : Dialect) : Template → Prop
  | [] => True
  | .text s :: rest => tokens d.mark none s.toList = [] ∧ Legible d rest
  | .hole _ :: rest => ¬LeadsWithDigit rest ∧ Legible d rest

theorem takeWhile_render_eq_nil (hd : d ≠ .mysql) (bound : Nat) (t : Template) :
    (render d bound t).toList.takeWhile Char.isDigit = [] ↔ ¬LeadsWithDigit t := by
  induction t with
  | nil => simp [render, LeadsWithDigit]
  | cons segment t ih =>
    cases segment with
    | text s =>
      rw [render, String.toList_append, LeadsWithDigit]
      cases s.toList with
      | nil => exact ih
      | cons c cs =>
        rw [List.cons_append, List.takeWhile_cons]
        cases hc : c.isDigit with
        | true => simp [hc]
        | false => simp [hc]
    | hole value =>
      have hmark : d.mark.isDigit = false := by cases d <;> decide
      rw [render, String.toList_append, toList_placeholder hd, List.cons_append, List.takeWhile_cons, hmark]
      simp [LeadsWithDigit]

/-- No placeholder is lost in a text that closes its quotes. -/
theorem length_params_le_tokens (hd : d ≠ .mysql) {t : Template} (hclosed : Closed t) (bound : Nat) :
    (params t).length ≤ (tokens d.mark none (render d bound t).toList).length := by
  induction t generalizing bound with
  | nil => exact Nat.zero_le _
  | cons segment t ih =>
    have hrest := ih fun s hs => hclosed s (List.mem_cons_of_mem _ hs)
    cases segment with
    | text s =>
      rw [render, String.toList_append, length_tokens_append, hclosed s List.mem_cons_self]
      exact Nat.le_trans (hrest bound) (Nat.le_add_left _ _)
    | hole value =>
      rw [render, String.toList_append, tokens_placeholder_append hd]
      exact Nat.succ_le_succ (hrest (bound + 1))

/-- What is read in a template that closes its quotes are its placeholders exactly if they are told
from its texts. -/
theorem tokens_render_iff (hd : d ≠ .mysql) {t : Template} (hclosed : Closed t) (bound : Nat) :
    tokens d.mark none (render d bound t).toList =
      (List.range' (bound + 1) (params t).length).map d.placeholder ↔ Legible d t := by
  induction t generalizing bound with
  | nil => exact ⟨fun _ => trivial, fun _ => rfl⟩
  | cons segment t ih =>
    have hrest : Closed t := fun s hs => hclosed s (List.mem_cons_of_mem _ hs)
    cases segment with
    | text s =>
      have hs := hclosed s List.mem_cons_self
      rw [render, String.toList_append, params, Legible, ← ih hrest bound]
      constructor
      · intro h
        -- a mark in the text would make one parameter too many
        have hcount := congrArg List.length h
        rw [length_tokens_append, hs, List.length_map, List.length_range'] at hcount
        have hle := length_params_le_tokens hd hrest bound
        have hnone : tokens d.mark none s.toList = [] := List.eq_nil_of_length_eq_zero (by omega)
        rw [tokens_append hnone, hs] at h
        exact ⟨hnone, h⟩
      · rintro ⟨hnone, h⟩
        rw [tokens_append hnone, hs, h]
    | hole value =>
      rw [render, String.toList_append, tokens_placeholder_append hd, params, List.length_cons,
        List.range'_succ, List.map_cons, List.cons.injEq, Legible, ih hrest (bound + 1),
        ← takeWhile_render_eq_nil hd (bound + 1)]
      refine and_congr_left fun _ => ?_
      rw [← String.toList_inj, String.toList_ofList]
      exact List.append_right_eq_self

/-! ### Templates in a row -/

/-- The template has no holes, and all its texts are silent. -/
def AllSilent (d : Dialect) (t : Template) : Prop :=
  ∀ segment ∈ t, ∃ s, segment = .text s ∧ Silent d s

section Rows

variable {t u : Template} {sep keyword : String} {parts : List Template}

theorem AllSilent.closed (h : AllSilent d t) : Closed t := by
  intro s hs
  obtain ⟨s', heq, hsilent⟩ := h _ hs
  cases heq
  exact hsilent.closed

theorem AllSilent.legible (h : AllSilent d t) : Legible d t := by
  induction t with
  | nil => trivial
  | cons segment t ih =>
    obtain ⟨s, rfl, hs⟩ := h segment List.mem_cons_self
    exact ⟨hs.unmarked, ih fun x hx => h x (List.mem_cons_of_mem _ hx)⟩

theorem AllSilent.append (h : AllSilent d t) (h' : AllSilent d u) : AllSilent d (t ++ u) := by
  intro segment hsegment
  rcases List.mem_append.mp hsegment with hmem | hmem
  · exact h segment hmem
  · exact h' segment hmem

theorem allSilent_texts {α : Type} {f : α → String} (h : ∀ x, Silent d (f x)) (xs : List α) :
    AllSilent d (xs.map fun x => .text (f x)) := by
  intro segment hsegment
  obtain ⟨x, -, rfl⟩ := List.mem_map.mp hsegment
  exact ⟨f x, rfl, h x⟩

theorem allSilent_clause {α : Type} {f : α → String} (hkeyword : Silent d keyword) (hsep : Silent d sep)
    (h : ∀ x, Silent d (f x)) (xs : List α) :
    AllSilent d (clause keyword sep (xs.map fun x => [.text (f x)])) := by
  have htext : ∀ s, Silent d s → AllSilent d [.text s] := by
    intro s hs segment hsegment
    exact ⟨s, List.mem_singleton.mp hsegment, hs⟩
  have hrow : AllSilent d (separated sep (xs.map fun x => [.text (f x)])) := by
    induction xs with
    | nil => exact fun _ hmem => absurd hmem List.not_mem_nil
    | cons x xs ih =>
      cases xs with
      | nil => exact htext _ (h x)
      | cons y ys =>
        rw [List.map_cons, List.map_cons, Template.separated_cons_cons]
        exact (htext _ (h x)).append ((htext sep hsep).append ih)
  cases xs with
  | nil => exact fun _ hmem => absurd hmem List.not_mem_nil
  | cons x xs => exact (htext keyword hkeyword).append hrow

theorem closed_append : Closed (t ++ u) ↔ Closed t ∧ Closed u := by
  simp only [Closed, List.mem_append]
  constructor
  · intro h
    exact ⟨fun s hs => h s (Or.inl hs), fun s hs => h s (Or.inr hs)⟩
  · rintro ⟨ht, hu⟩ s (hs | hs)
    · exact ht s hs
    · exact hu s hs

theorem leadsWithDigit_append (hu : ¬LeadsWithDigit u) :
    LeadsWithDigit (t ++ u) ↔ LeadsWithDigit t := by
  induction t with
  | nil => exact ⟨fun h => absurd h hu, False.elim⟩
  | cons segment t ih =>
    cases segment with
    | hole value => exact Iff.rfl
    | text s =>
      rw [List.cons_append, LeadsWithDigit, LeadsWithDigit]
      cases s.toList with
      | nil => exact ih
      | cons c cs => exact Iff.rfl

theorem legible_append (hu : ¬LeadsWithDigit u) :
    Legible d (t ++ u) ↔ Legible d t ∧ Legible d u := by
  induction t with
  | nil => simp [Legible]
  | cons segment t ih =>
    cases segment with
    | text s => rw [List.cons_append, Legible, Legible, ih, and_assoc]
    | hole value => rw [List.cons_append, Legible, Legible, ih, leadsWithDigit_append hu, and_assoc]

/-- A text that may stand between parts: it is silent and does not begin with a digit. -/
structure Divides (d : Dialect) (sep : String) : Prop where
  silent : Silent d sep
  initial : ∀ t, ¬LeadsWithDigit (.text sep :: t)

theorem legible_separated (hsep : Divides d sep) :
    Legible d (separated sep parts) ↔ ∀ t ∈ parts, Legible d t := by
  induction parts with
  | nil => simp [Legible]
  | cons t parts ih =>
    cases parts with
    | nil => simp
    | cons u parts =>
      rw [Template.separated_cons_cons, legible_append (hsep.initial _), Legible, ih, List.forall_mem_cons]
      simp [hsep.silent.unmarked]

theorem closed_separated (hsep : Silent d sep) (h : ∀ t ∈ parts, Closed t) :
    Closed (separated sep parts) := by
  induction parts with
  | nil => exact fun _ hmem => absurd hmem List.not_mem_nil
  | cons t parts ih =>
    have ht := h t List.mem_cons_self
    have hparts := ih fun x hx => h x (List.mem_cons_of_mem _ hx)
    cases parts with
    | nil => simpa using ht
    | cons u parts =>
      rw [Template.separated_cons_cons, closed_append]
      refine ⟨ht, fun s hs => ?_⟩
      rcases List.mem_cons.mp hs with heq | hmem
      · cases heq
        exact hsep.closed
      · exact hparts s hmem

theorem not_leadsWithDigit_clause (hkeyword : Divides d keyword) :
    ¬LeadsWithDigit (clause keyword sep parts) := by
  cases parts with
  | nil => exact id
  | cons t parts => exact hkeyword.initial _

theorem legible_clause (hkeyword : Silent d keyword) (hsep : Divides d sep) :
    Legible d (clause keyword sep parts) ↔ ∀ t ∈ parts, Legible d t := by
  rw [← legible_separated hsep]
  cases parts with
  | nil => exact Iff.rfl
  | cons t parts => exact and_iff_right hkeyword.unmarked

theorem closed_clause (hkeyword : Silent d keyword) (hsep : Silent d sep) (h : ∀ t ∈ parts, Closed t) :
    Closed (clause keyword sep parts) := by
  cases parts with
  | nil => exact fun _ hmem => absurd hmem List.not_mem_nil
  | cons t parts =>
    intro s hs
    rcases List.mem_cons.mp hs with heq | hmem
    · cases heq
      exact hkeyword.closed
    · exact closed_separated hsep h s hmem

end Rows

end Sql

end RecordMapper
