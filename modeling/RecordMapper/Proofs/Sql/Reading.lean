import RecordMapper.Proofs.Sql.Parameters

/-!
# Reading templates back

Two templates are read in step from texts that agree: as long as both are the same so far, whatever
stands in them must be the same as well, and so must be what is left of the texts and parameters.
`Reads` says that two templates are read like this when only certain texts may stand after them. Such
facts are put together along the templates; the one thing to see to is that a part is always followed
by a text that cannot be taken for more of it (`Precedes`).
-/

namespace RecordMapper.Sql

open Template (render params separated)

variable {d : Dialect} {after before : List Char → Prop} {t u t' u' : Template} {same same' : Prop}

/-- Reading the two templates, from texts and parameters that agree, shows `same` and leaves what
stands after the templates, provided that this is allowed there. -/
def Reads (d : Dialect) (after : List Char → Prop) (t u : Template) (same : Prop) : Prop :=
  ∀ bound x y p q, after x → after y → (render d bound t).toList ++ x = (render d bound u).toList ++ y →
    params t ++ p = params u ++ q → same ∧ x = y ∧ p = q

/-- The template, with something allowed after it, is allowed itself. -/
def Precedes (d : Dialect) (t : Template) (after before : List Char → Prop) : Prop :=
  ∀ bound x, after x → before ((render d bound t).toList ++ x)

/-- Anything may stand after a part that shows its own end. -/
def Anything (_ : List Char) : Prop := True

/-- The text begins with one of the given ones. -/
def Leads (starts : List String) (x : List Char) : Prop := ∃ start ∈ starts, start.toList <+: x

/-- None of the texts begins with the other one or is its beginning. -/
def Apart (starts : List String) (s : String) : Prop :=
  ∀ start ∈ starts, ¬start.toList <+: s.toList ∧ ¬s.toList <+: start.toList

instance (starts : List String) (s : String) : Decidable (Apart starts s) :=
  inferInstanceAs (Decidable (∀ _ ∈ _, _))

/-! ## What a text begins with -/

theorem leads_append {starts : List String} {start : String} (h : start ∈ starts) (x : List Char) :
    Leads starts (start.toList ++ x) :=
  ⟨start, h, List.prefix_append _ _⟩

/-- Of two beginnings of one text one begins with the other. -/
theorem Leads.not_prefix {starts : List String} {x : List Char} (h : Leads starts x) {s : String}
    (hs : Apart starts s) : ¬s.toList <+: x := by
  obtain ⟨start, hstart, hx⟩ := h
  intro hprefix
  rcases List.prefix_or_prefix_of_prefix hx hprefix with hle | hle
  · exact (hs start hstart).1 hle
  · exact (hs start hstart).2 hle

/-! ## Templates one after the other -/

theorem Reads.imp (h : Reads d after t u same) (himp : same → same') : Reads d after t u same' := by
  intro bound x y p q hx hy htext hparams
  obtain ⟨hsame, hrest⟩ := h bound x y p q hx hy htext hparams
  exact ⟨himp hsame, hrest⟩

theorem Reads.mono (h : Reads d before t u same) (hafter : ∀ x, after x → before x) :
    Reads d after t u same :=
  fun bound x y p q hx hy => h bound x y p q (hafter x hx) (hafter y hy)

theorem Reads.append (h : Reads d before t u same) (h' : same → Reads d after t' u' same')
    (ht : Precedes d t' after before) (hu : Precedes d u' after before) :
    Reads d after (t ++ t') (u ++ u') (same ∧ same') := by
  intro bound x y p q hx hy htext hparams
  rw [Template.render_append, Template.render_append, String.toList_append, String.toList_append,
    List.append_assoc, List.append_assoc] at htext
  rw [Template.params_append, Template.params_append, List.append_assoc, List.append_assoc] at hparams
  obtain ⟨hsame, hrest, hvalues⟩ := h bound _ _ _ _ (ht _ x hx) (hu _ y hy) htext hparams
  -- the same values were read, so the second templates count on from the same position
  rw [hvalues] at hparams
  rw [List.append_cancel_right hparams] at hrest
  obtain ⟨hsame', hxy, hpq⟩ := h' hsame _ x y p q hx hy hrest hvalues
  exact ⟨⟨hsame, hsame'⟩, hxy, hpq⟩

theorem Reads.nil : Reads d after [] [] True := by
  intro bound x y p q _ _ htext hparams
  exact ⟨trivial, List.append_cancel_left htext, hparams⟩

theorem Reads.text (s : String) : Reads d Anything [.text s] [.text s] True := by
  intro bound x y p q _ _ htext hparams
  exact ⟨trivial, List.append_cancel_left htext, hparams⟩

/-- The placeholder says nothing of the value, but the parameters do. -/
theorem Reads.hole (v w : Value) : Reads d Anything [.hole v] [.hole w] (v = w) := by
  intro bound x y p q _ _ htext hparams
  obtain ⟨hvalue, hpq⟩ := List.cons.inj hparams
  exact ⟨hvalue, List.append_cancel_left htext, hpq⟩

theorem Reads.symm (h : Reads d after t u same) : Reads d after u t same := by
  intro bound x y p q hx hy htext hparams
  obtain ⟨hsame, hxy, hpq⟩ := h bound y x q p hy hx htext.symm hparams.symm
  exact ⟨hsame, hxy.symm, hpq.symm⟩

/-- Nothing is told apart from a template that may not stand after it. -/
theorem Reads.nothing (h : ∀ bound x, ¬after ((render d bound t).toList ++ x)) :
    Reads d after [] t same := by
  intro bound x y p q hx _ htext _
  have heq : x = (render d bound t).toList ++ y := by simpa [render] using htext
  exact (h bound y (heq ▸ hx)).elim

/-- Templates that begin with texts of which neither goes on like the other are told apart. -/
theorem Reads.differ {s s' : String} (h : ∀ x y, s.toList ++ x ≠ s'.toList ++ y) :
    Reads d after (.text s :: t) (.text s' :: u) same := by
  intro bound x y p q _ _ htext _
  rw [render, render, String.toList_append, String.toList_append, List.append_assoc,
    List.append_assoc] at htext
  exact (h _ _ htext).elim

/-- The templates are written alike: they differ at most in how the text is cut into segments. -/
structure Alike (d : Dialect) (t u : Template) : Prop where
  /-- They have the same text. -/
  render : ∀ bound, render d bound t = render d bound u
  /-- They have the same parameters. -/
  params : params t = params u

theorem Alike.append (h : Alike d t u) (h' : Alike d t' u') : Alike d (t ++ t') (u ++ u') where
  render bound := by rw [Template.render_append, Template.render_append, h.render, h.params, h'.render]
  params := by rw [Template.params_append, Template.params_append, h.params, h'.params]

theorem Reads.alike (ht : Alike d t t') (hu : Alike d u u') (h : Reads d after t' u' same) :
    Reads d after t u same := by
  intro bound x y p q hx hy htext hparams
  rw [ht.render, hu.render] at htext
  rw [ht.params, hu.params] at hparams
  exact h bound x y p q hx hy htext hparams

/-! ## What stands before what -/

theorem Precedes.anything : Precedes d t after Anything := fun _ _ _ => trivial

theorem Precedes.text {s : String} (h : ∀ x, before (s.toList ++ x)) :
    Precedes d (.text s :: t) after before := by
  intro bound x _
  rw [render, String.toList_append, List.append_assoc]
  exact h _

theorem Precedes.append {between : List Char → Prop} (h : Precedes d t between before)
    (h' : Precedes d t' after between) : Precedes d (t ++ t') after before := by
  intro bound x hx
  rw [Template.render_append, String.toList_append, List.append_assoc]
  exact h _ _ (h' _ x hx)

theorem Reads.keyword (s : String) (h : Reads d after t u same) :
    Reads d after (.text s :: t) (.text s :: u) same :=
  ((Reads.text s).append (fun _ => h) Precedes.anything Precedes.anything).imp And.right

/-- A text that may stand after the first part separates it from the second one. -/
theorem Reads.before_text {s : String} (h : Reads d before t u same) (hs : ∀ x, before (s.toList ++ x))
    (h' : Reads d after t' u' same') :
    Reads d after (t ++ .text s :: t') (u ++ .text s :: u') (same ∧ same') :=
  h.append (fun _ => h'.keyword s) (Precedes.text hs) (Precedes.text hs)

/-! ## Lists -/

section Lists

variable {α : Type} {w : α → Template} {xs ys : List α} {item : List Char → Prop} {lead sep : String}

/-- Templates in a row, each with a text in front. -/
def led (lead : String) (w : α → Template) (xs : List α) : Template :=
  xs.flatMap fun x => .text lead :: w x

/-- The text separates items from each other: it may stand after an item, as may what stands after the
last one, and the end is not taken for one more separator. -/
structure Separates (sep : String) (item after : List Char → Prop) : Prop where
  /-- A separator may stand after an item. -/
  next : ∀ x, item (sep.toList ++ x)
  /-- So may what stands after the last item. -/
  last : ∀ x, after x → item x
  /-- What stands after the last item does not begin with a separator. -/
  stop : ∀ x, after x → ¬sep.toList <+: x

theorem Separates.precedes (h : Separates lead item after) (xs : List α) :
    Precedes d (led lead w xs) after item := by
  cases xs with
  | nil =>
    intro bound x hx
    exact h.last x hx
  | cons a xs => exact Precedes.text h.next

/-- What may not begin with a text may not begin with a template that begins with it. -/
theorem not_after_text {s : String} (h : ∀ x, after x → ¬s.toList <+: x) (bound : Nat)
    (x : List Char) : ¬after ((render d bound (.text s :: t)).toList ++ x) := by
  intro hafter
  refine h _ hafter ?_
  rw [render, String.toList_append, List.append_assoc]
  exact List.prefix_append _ _

/-- A row of templates is read if each of them is. -/
theorem Reads.led (hlead : Separates lead item after)
    (hitem : ∀ a ∈ xs, ∀ b ∈ ys, Reads d item (w a) (w b) (a = b)) :
    Reads d after (led lead w xs) (led lead w ys) (xs = ys) := by
  induction xs generalizing ys with
  | nil =>
    cases ys with
    | nil => exact Reads.nil.imp fun _ => rfl
    | cons b ys => exact Reads.nothing (not_after_text hlead.stop)
  | cons a xs ih =>
    cases ys with
    | nil => exact (Reads.nothing (not_after_text hlead.stop)).symm
    | cons b ys =>
      have hhead := hitem a List.mem_cons_self b List.mem_cons_self
      have hrest := ih fun a ha b hb =>
        hitem a (List.mem_cons_of_mem _ ha) b (List.mem_cons_of_mem _ hb)
      have hrow := hhead.append (fun _ => hrest) (hlead.precedes xs) (hlead.precedes ys)
      refine (hrow.keyword lead).imp ?_
      rintro ⟨rfl, rfl⟩
      rfl

theorem separated_map_cons (sep : String) (w : α → Template) (a : α) (xs : List α) :
    separated sep ((a :: xs).map w) = w a ++ Sql.led sep w xs := by
  induction xs generalizing a with
  | nil => exact (Template.separated_singleton sep (w a)).trans (List.append_nil _).symm
  | cons b xs ih =>
    rw [List.map_cons, List.map_cons, Template.separated_cons_cons, ← List.map_cons, ih]
    rfl

/-- A list with something in it. -/
theorem Reads.separated_cons {a b : α} (hsep : Separates sep item after)
    (hitem : ∀ a' ∈ a :: xs, ∀ b' ∈ b :: ys, Reads d item (w a') (w b') (a' = b')) :
    Reads d after (separated sep ((a :: xs).map w)) (separated sep ((b :: ys).map w))
      (a :: xs = b :: ys) := by
  rw [separated_map_cons, separated_map_cons]
  have hhead := hitem a List.mem_cons_self b List.mem_cons_self
  have hrest := Reads.led hsep fun a ha b hb =>
    hitem a (List.mem_cons_of_mem _ ha) b (List.mem_cons_of_mem _ hb)
  refine (hhead.append (fun _ => hrest) (hsep.precedes xs) (hsep.precedes ys)).imp ?_
  rintro ⟨rfl, rfl⟩
  rfl

/-- A list is read if its items are, and if its end is not taken for an item. -/
theorem Reads.separated (hsep : Separates sep item after)
    (hitem : ∀ a ∈ xs, ∀ b ∈ ys, Reads d item (w a) (w b) (a = b))
    (hstart : ∀ a bound x, ¬after ((render d bound (w a)).toList ++ x)) :
    Reads d after (separated sep (xs.map w)) (separated sep (ys.map w)) (xs = ys) := by
  have hcons : ∀ (a : α) (xs : List α) bound x,
      ¬after ((render d bound (Template.separated sep ((a :: xs).map w))).toList ++ x) := by
    intro a xs bound x
    rw [separated_map_cons, Template.render_append, String.toList_append, List.append_assoc]
    exact hstart a bound _
  cases xs with
  | nil =>
    cases ys with
    | nil => exact Reads.nil.imp fun _ => rfl
    | cons b ys => exact Reads.nothing (hcons b ys)
  | cons a xs =>
    cases ys with
    | nil => exact (Reads.nothing (hcons a xs)).symm
    | cons b ys => exact Reads.separated_cons hsep hitem

/-- A clause is read like the list in it, if what stands after it is not taken for its keyword. -/
theorem Reads.clause {keyword : String} (hsep : Separates sep item after)
    (hkeyword : ∀ x, after x → ¬keyword.toList <+: x)
    (hitem : ∀ a ∈ xs, ∀ b ∈ ys, Reads d item (w a) (w b) (a = b)) :
    Reads d after (clause keyword sep (xs.map w)) (clause keyword sep (ys.map w)) (xs = ys) := by
  cases xs with
  | nil =>
    cases ys with
    | nil => exact Reads.nil.imp fun _ => rfl
    | cons b ys => exact Reads.nothing (not_after_text hkeyword)
  | cons a xs =>
    cases ys with
    | nil => exact (Reads.nothing (not_after_text hkeyword)).symm
    | cons b ys => exact (Reads.separated_cons hsep hitem).keyword keyword

/-- A clause may stand where its keyword may and what stands after it may. -/
theorem Precedes.clause {keyword : String} {parts : List Template}
    (hkeyword : ∀ x, before (keyword.toList ++ x)) (h : Precedes d t after before) :
    Precedes d (clause keyword sep parts ++ t) after before := by
  cases parts with
  | nil => exact h
  | cons part parts => exact Precedes.text hkeyword

end Lists

end RecordMapper.Sql
