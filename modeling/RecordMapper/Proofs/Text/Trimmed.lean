import Mathlib.Data.List.Basic
import Mathlib.Data.List.TakeWhile
import RecordMapper.Text.Blank

/-!
# Trimmed texts and last words

Trimming leaves a text that has no blank at either end (`trimmed_trim`), and blanks put around such a text
are all that is trimmed off (`trim_surrounded`).

Every text falls into its last word and what stands in front of it (`exists_parted`), in one way only
(`LastWord.eq`). Read backwards, the last word is all that comes before the first blank.
-/

namespace RecordMapper.Text

/-- The text neither begins nor ends with a blank. -/
structure Trimmed (cs : List Char) : Prop where
  begins : ∀ c ∈ cs.head?, isBlank c = false
  ends : ∀ c ∈ cs.getLast?, isBlank c = false

/-- There are only blanks in the text. -/
def AllBlank (cs : List Char) : Prop := ∀ c ∈ cs, isBlank c = true

/-- There are no blanks in the text. -/
def Unbroken (cs : List Char) : Prop := ∀ c ∈ cs, isBlank c = false

instance (cs : List Char) : Decidable (AllBlank cs) := decidable_of_iff (cs.all isBlank) List.all_eq_true

instance (cs : List Char) : Decidable (Unbroken cs) :=
  decidable_of_iff (cs.all (! isBlank ·)) (by simp [Unbroken, List.all_eq_true])

/-- Only the two characters at the ends are looked at. -/
instance (cs : List Char) : Decidable (Trimmed cs) :=
  decidable_of_iff (cs.head?.all (! isBlank ·) ∧ cs.getLast?.all (! isBlank ·))
    ⟨fun h => ⟨by simpa [Option.all_eq_true] using h.1, by simpa [Option.all_eq_true] using h.2⟩,
      fun h => ⟨by simpa [Option.all_eq_true] using h.begins, by simpa [Option.all_eq_true] using h.ends⟩⟩

/-- The text falls into what stands in front of its last word, which is nothing or ends with a blank, and
the last word. -/
structure Parted (before word : List Char) : Prop where
  unbroken : Unbroken word
  parted : ∀ c ∈ before.getLast?, isBlank c = true

/-- The last of the words that blanks separate. -/
def LastWord (cs word : List Char) : Prop := ∃ before, cs = before ++ word ∧ Parted before word

variable {cs xs ys before word : List Char}

/-! ## Trimming -/

theorem trimStart_eq_self (h : ∀ c ∈ cs.head?, isBlank c = false) : trimStart cs = cs := by
  cases cs with
  | nil => rfl
  | cons c cs => exact List.dropWhile_cons_of_neg (by simp [h c rfl])

theorem trimStart_append (h : AllBlank xs) (ys : List Char) : trimStart (xs ++ ys) = trimStart ys :=
  List.dropWhile_append_of_pos h

theorem head?_trimStart (cs : List Char) : ∀ c ∈ (trimStart cs).head?, isBlank c = false := by
  intro c hc
  have hstop := List.head?_dropWhile_not isBlank cs
  rw [Option.mem_def] at hc
  unfold trimStart at hc
  rw [hc] at hstop
  exact hstop

theorem trimEnd_eq_self (h : ∀ c ∈ cs.getLast?, isBlank c = false) : trimEnd cs = cs := by
  rw [← List.head?_reverse] at h
  rw [trimEnd, trimStart_eq_self h, List.reverse_reverse]

theorem trimEnd_append (h : AllBlank ys) (xs : List Char) : trimEnd (xs ++ ys) = trimEnd xs := by
  have hreverse : AllBlank ys.reverse := fun c hc => h c (List.mem_reverse.mp hc)
  rw [trimEnd, List.reverse_append, trimStart_append hreverse, trimEnd]

theorem getLast?_trimEnd (cs : List Char) : ∀ c ∈ (trimEnd cs).getLast?, isBlank c = false := by
  rw [trimEnd, List.getLast?_reverse]
  exact head?_trimStart cs.reverse

theorem prefix_trimEnd (cs : List Char) : trimEnd cs <+: cs := by
  rw [← List.reverse_suffix, trimEnd, List.reverse_reverse]
  exact List.dropWhile_suffix isBlank

/-- What is left in front begins as the text does. -/
theorem head?_trimEnd (h : ∀ c ∈ cs.head?, isBlank c = false) :
    ∀ c ∈ (trimEnd cs).head?, isBlank c = false := by
  obtain ⟨rest, hrest⟩ := prefix_trimEnd cs
  intro c hc
  apply h
  rw [← hrest, List.head?_append, Option.mem_def.mp hc]
  rfl

theorem trimmed_trim (cs : List Char) : Trimmed (trim cs) :=
  ⟨head?_trimEnd (head?_trimStart cs), getLast?_trimEnd (trimStart cs)⟩

theorem Trimmed.trim_eq_self (h : Trimmed cs) : trim cs = cs := by
  rw [trim, trimStart_eq_self h.begins, trimEnd_eq_self h.ends]

theorem Trimmed.append (hxs : Trimmed xs) (hys : Trimmed ys) (hxs' : xs ≠ []) (hys' : ys ≠ [])
    (between : List Char) : Trimmed (xs ++ between ++ ys) := by
  constructor
  · rw [List.append_assoc, List.head?_append_of_ne_nil xs hxs']
    exact hxs.begins
  · rw [List.getLast?_append_of_ne_nil _ hys']
    exact hys.ends

/-- Blanks around a trimmed text are trimmed off. -/
theorem trim_surrounded {lead trail : List Char} (hlead : AllBlank lead) (htrail : AllBlank trail)
    (h : Trimmed cs) (hne : cs ≠ []) : trim (lead ++ cs ++ trail) = cs := by
  have hbegins : ∀ c ∈ (cs ++ trail).head?, isBlank c = false := by
    rw [List.head?_append_of_ne_nil cs hne]
    exact h.begins
  rw [trim, List.append_assoc, trimStart_append hlead, trimStart_eq_self hbegins, trimEnd_append htrail,
    trimEnd_eq_self h.ends]

theorem Unbroken.trimmed (h : Unbroken cs) : Trimmed cs :=
  ⟨fun c hc => h c (List.mem_of_head? hc), fun c hc => h c (List.mem_of_getLast? hc)⟩

/-! ## Last words -/

theorem parted_concat {blank : Char} (hword : Unbroken word) (hblank : isBlank blank = true)
    (start : List Char) : Parted (start ++ [blank]) word := by
  refine ⟨hword, fun c hc => ?_⟩
  rw [List.getLast?_concat, Option.mem_some_iff] at hc
  rw [← hc]
  exact hblank

/-- A text without blanks is its last word. -/
theorem Parted.eq_nil (h : Parted before word) (hunbroken : Unbroken (before ++ word)) : before = [] := by
  rcases List.eq_nil_or_concat' before with hnil | ⟨start, blank, rfl⟩
  · exact hnil
  · have hblank : isBlank blank = true := h.parted blank List.getLast?_concat
    have hother : isBlank blank = false := hunbroken blank (by simp)
    rw [hblank] at hother
    cases hother

/-- Read from the end, the last word comes first. -/
theorem Parted.takeWhile_reverse (h : Parted before word) :
    (before ++ word).reverse.takeWhile (! isBlank ·) = word.reverse := by
  have hword : ∀ c ∈ word.reverse, (! isBlank c) = true := fun c hc => by
    rw [h.unbroken c (List.mem_reverse.mp hc)]
    rfl
  have hbefore : before.reverse.takeWhile (! isBlank ·) = [] := by
    have hparted := h.parted
    rw [← List.head?_reverse] at hparted
    cases hreverse : before.reverse with
    | nil => rfl
    | cons c cs =>
      rw [hreverse] at hparted
      exact List.takeWhile_cons_of_neg (by simp [hparted c rfl])
  rw [List.reverse_append, List.takeWhile_append_of_pos hword, hbefore, List.append_nil]

theorem Parted.dropWhile_reverse (h : Parted before word) :
    (before ++ word).reverse.dropWhile (! isBlank ·) = before.reverse := by
  have hboth : (before ++ word).reverse.takeWhile (! isBlank ·) ++
      (before ++ word).reverse.dropWhile (! isBlank ·) = word.reverse ++ before.reverse := by
    rw [List.takeWhile_append_dropWhile, List.reverse_append]
  rw [h.takeWhile_reverse] at hboth
  exact List.append_cancel_left hboth

theorem exists_parted (cs : List Char) : ∃ before word, cs = before ++ word ∧ Parted before word := by
  refine ⟨(cs.reverse.dropWhile (! isBlank ·)).reverse, (cs.reverse.takeWhile (! isBlank ·)).reverse,
    ?_, ?_, ?_⟩
  · rw [← List.reverse_append, List.takeWhile_append_dropWhile, List.reverse_reverse]
  · intro c hc
    have hword := List.mem_takeWhile_imp (List.mem_reverse.mp hc)
    simpa using hword
  · intro c hc
    rw [List.getLast?_reverse, Option.mem_def] at hc
    have hstop := List.head?_dropWhile_not (! isBlank ·) cs.reverse
    rw [hc] at hstop
    simpa using hstop

/-- A text has one last word. -/
theorem LastWord.eq {other : List Char} (h : LastWord cs word) (hother : LastWord cs other) : word = other := by
  obtain ⟨before, rfl, hparted⟩ := h
  obtain ⟨before', hsame, hparted'⟩ := hother
  have hreverse := hparted.takeWhile_reverse
  rw [hsame, hparted'.takeWhile_reverse] at hreverse
  exact (List.reverse_inj.mp hreverse).symm

end RecordMapper.Text
