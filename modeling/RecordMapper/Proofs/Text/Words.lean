import Mathlib.Data.List.Basic
import RecordMapper.Text.Words

/-!
# Words read back

The words of a text are in lower case, none is empty and none holds an underscore, so a name can be
put together with underscores and taken apart again. The words of a text in ASCII are more regular:
they are made of small letters and digits, and reading them again changes nothing.

Past ASCII the second fact fails. The lower-case form of `İ` holds a mark that is no letter, and
reading it again cuts the word in two.
-/

namespace RecordMapper.Text

/-- All characters of the text are in ASCII. -/
def InAscii (s : String) : Prop := ∀ c ∈ s.toList, c.toNat < 128

instance (s : String) : Decidable (InAscii s) :=
  decidable_of_iff (s.toList.all fun c => c.toNat < 128) (by simp [InAscii])

/-- A small letter or a digit of ASCII. -/
def isPlain (c : Char) : Bool :=
  (97 ≤ c.toNat && c.toNat ≤ 122) || (48 ≤ c.toNat && c.toNat ≤ 57)

variable {p : Char → Bool} {c d : Char} {w run word cs : List Char}

/-! ## Characters -/

/-- What holds of the first 128 characters holds of every character in ASCII. -/
theorem forall_ascii {q : Char → Prop} (h : ∀ n < 128, q (Char.ofNat n)) (hc : c.toNat < 128) :
    q c := by
  have := h c.toNat hc
  rwa [Char.ofNat_toNat] at this

theorem toNat_lt_of_isPlain (h : isPlain c = true) : c.toNat < 128 := by
  simp only [isPlain, Bool.or_eq_true, Bool.and_eq_true, decide_eq_true_eq] at h
  omega

/-- A plain character belongs to a word and is its own lower-case form. -/
theorem of_isPlain (h : isPlain c = true) :
    isAlphanumeric c = true ∧ isUppercase c = false ∧ lowerForm c = [c] ∧ c ≠ '_' ∧ c ≠ 'Σ' := by
  refine forall_ascii (q := fun c => isPlain c = true → isAlphanumeric c = true ∧
    isUppercase c = false ∧ lowerForm c = [c] ∧ c ≠ '_' ∧ c ≠ 'Σ') ?_ (toNat_lt_of_isPlain h) h
  decide

theorem isPlain_of_mem_lowerForm (hc : c.toNat < 128) (h : isAlphanumeric c = true)
    (hd : d ∈ lowerForm c) : isPlain d = true := by
  have hform : lowerForm c = [c.toLower] := if_pos hc
  rw [hform, List.mem_singleton] at hd
  rw [hd]
  refine forall_ascii (q := fun c => isAlphanumeric c = true → isPlain c.toLower = true) ?_ hc h
  decide

/-- The forms past ASCII all come after the underscore. -/
theorem le_lowerCodePoint {rows : List (Nat × Nat × Nat × Nat)} {bound n : Nat}
    (hrows : ∀ row ∈ rows, bound ≤ row.2.2.2) (hn : bound ≤ n) : bound ≤ lowerCodePoint rows n := by
  induction rows with
  | nil => exact hn
  | cons row rows ih =>
    obtain ⟨first, last, stride, form⟩ := row
    rw [List.forall_mem_cons] at hrows
    unfold lowerCodePoint
    split
    · exact Nat.le_trans hrows.1 (Nat.le_add_right _ _)
    · exact ih hrows.2

theorem ofNat_ne_underscore {n : Nat} (h : 0x60 ≤ n) : Char.ofNat n ≠ '_' := by
  intro heq
  have hval : (Char.ofNat n).toNat = 0x5f := congrArg Char.toNat heq
  by_cases hvalid : n.isValidChar
  · have hself : (Char.ofNat n).toNat = n := congrArg Char.toNat (dif_pos hvalid)
    omega
  · have hzero : (Char.ofNat n).toNat = 0 := congrArg Char.toNat (dif_neg hvalid)
    omega

theorem underscore_notMem_lowerForm (h : isAlphanumeric c = true) : '_' ∉ lowerForm c := by
  intro hmem
  by_cases hc : c.toNat < 128
  · exact absurd (isPlain_of_mem_lowerForm hc h hmem) (by decide)
  · have hrows : ∀ row ∈ loweringRows, 0x60 ≤ row.2.2.2 := by decide +kernel
    unfold lowerForm at hmem
    rw [if_neg hc] at hmem
    split at hmem
    · exact absurd hmem (by decide)
    · have heq := List.mem_singleton.mp hmem
      exact ofNat_ne_underscore (le_lowerCodePoint hrows (by omega)) heq.symm

theorem lowerForm_ne_nil : lowerForm c ≠ [] := by
  unfold lowerForm
  split_ifs <;> exact List.cons_ne_nil _ _

/-! ## What words are made of -/

theorem mem_runs (h : w ∈ runs p run cs) (hrun : ∀ c ∈ run, p c = true) :
    w ≠ [] ∧ ∀ c ∈ w, p c = true ∧ (c ∈ run ∨ c ∈ cs) := by
  fun_induction runs p run cs with
  | case1 => cases h
  | case2 run hne =>
    rw [List.mem_singleton.mp h]
    refine ⟨fun hnil => hne (List.reverse_eq_nil_iff.mp hnil), fun d hd => ?_⟩
    rw [List.mem_reverse] at hd
    exact ⟨hrun d hd, .inl hd⟩
  | case3 run c cs hc ih =>
    obtain ⟨hne, hchars⟩ := ih h (List.forall_mem_cons.mpr ⟨hc, hrun⟩)
    refine ⟨hne, fun d hd => ⟨(hchars d hd).1, ?_⟩⟩
    rcases (hchars d hd).2 with hd | hd
    · rcases List.mem_cons.mp hd with rfl | hd
      · exact .inr List.mem_cons_self
      · exact .inl hd
    · exact .inr (List.mem_cons_of_mem _ hd)
  | case4 run c cs _ hempty ih =>
    obtain ⟨hne, hchars⟩ := ih h (List.forall_mem_nil _)
    refine ⟨hne, fun d hd => ⟨(hchars d hd).1, .inr ?_⟩⟩
    exact List.mem_cons_of_mem _ ((hchars d hd).2.resolve_left List.not_mem_nil)
  | case5 run c cs _ hfull ih =>
    rcases List.mem_cons.mp h with rfl | h
    · refine ⟨by simpa using hfull, fun d hd => ?_⟩
      rw [List.mem_reverse] at hd
      exact ⟨hrun d hd, .inl hd⟩
    · obtain ⟨hne, hchars⟩ := ih h (List.forall_mem_nil _)
      refine ⟨hne, fun d hd => ⟨(hchars d hd).1, .inr ?_⟩⟩
      exact List.mem_cons_of_mem _ ((hchars d hd).2.resolve_left List.not_mem_nil)

/-- A word that is being read holds a letter as soon as its case is known. -/
theorem mem_cutWords {case : LastCase} (h : w ∈ cutWords case word cs)
    (hcase : case = .upper → word ≠ []) : w ≠ [] ∧ ∀ c ∈ w, c ∈ word ∨ c ∈ cs := by
  fun_induction cutWords case word cs with
  | case1 => cases h
  | case2 case word hne =>
    rw [List.mem_singleton.mp h]
    refine ⟨fun hnil => hne (List.reverse_eq_nil_iff.mp hnil), fun d hd => ?_⟩
    exact .inl (List.mem_reverse.mp hd)
  | case3 case word c =>
    rw [List.mem_singleton.mp h]
    refine ⟨by simp, fun d hd => ?_⟩
    rcases List.mem_cons.mp (List.mem_reverse.mp hd) with rfl | hd
    · exact .inr List.mem_cons_self
    · exact .inl hd
  | case4 case word c following rest _ ih =>
    rcases List.mem_cons.mp h with rfl | h
    · refine ⟨by simp, fun d hd => ?_⟩
      rcases List.mem_cons.mp (List.mem_reverse.mp hd) with rfl | hd
      · exact .inr List.mem_cons_self
      · exact .inl hd
    · obtain ⟨hne, hchars⟩ := ih h (fun hupper => nomatch hupper)
      refine ⟨hne, fun d hd => .inr ?_⟩
      rcases hchars d hd with hd | hd
      · cases hd
      · exact List.mem_cons_of_mem _ hd
  | case5 case word c following rest _ hcut ih =>
    rcases List.mem_cons.mp h with rfl | h
    · refine ⟨fun hnil => hcase hcut.1 (List.reverse_eq_nil_iff.mp hnil), fun d hd => ?_⟩
      exact .inl (List.mem_reverse.mp hd)
    · obtain ⟨hne, hchars⟩ := ih h (fun hupper => nomatch hupper)
      refine ⟨hne, fun d hd => .inr ?_⟩
      rcases hchars d hd with hd | hd
      · rw [List.mem_singleton.mp hd]
        exact List.mem_cons_self
      · exact List.mem_cons_of_mem _ hd
  | case6 case word c following rest _ _ ih =>
    obtain ⟨hne, hchars⟩ := ih h (fun _ => List.cons_ne_nil _ _)
    refine ⟨hne, fun d hd => ?_⟩
    rcases hchars d hd with hd | hd
    · rcases List.mem_cons.mp hd with rfl | hd
      · exact .inr List.mem_cons_self
      · exact .inl hd
    · exact .inr (List.mem_cons_of_mem _ hd)

theorem lowerWord_ne_nil (h : w ≠ []) : lowerWord w ≠ [] := by
  fun_cases lowerWord w with
  | case1 => exact absurd rfl h
  | case2 => exact List.cons_ne_nil _ _
  | case3 c cs => exact fun hnil => lowerForm_ne_nil (List.append_eq_nil_iff.mp hnil).1

theorem mem_lowerWord (h : d ∈ lowerWord w) : ∃ c ∈ w, d ∈ lowerForm c ∨ c = 'Σ' ∧ d = 'ς' := by
  fun_induction lowerWord w with
  | case1 => cases h
  | case2 => exact ⟨'Σ', List.mem_cons_self, .inr ⟨rfl, List.mem_singleton.mp h⟩⟩
  | case3 c cs _ ih =>
    rcases List.mem_append.mp h with h | h
    · exact ⟨c, List.mem_cons_self, .inl h⟩
    · obtain ⟨c', hmem, hform⟩ := ih h
      exact ⟨c', List.mem_cons_of_mem _ hmem, hform⟩

/-- The characters of a word are lower-case forms of letters and digits of the text. -/
theorem mem_words (h : w ∈ words cs) :
    w ≠ [] ∧ ∀ d ∈ w, ∃ c ∈ cs, isAlphanumeric c = true ∧ (d ∈ lowerForm c ∨ c = 'Σ' ∧ d = 'ς') := by
  obtain ⟨piece, hpiece, rfl⟩ := List.mem_map.mp h
  obtain ⟨run, hrun, hcut⟩ := List.mem_flatMap.mp hpiece
  obtain ⟨-, hrunchars⟩ := mem_runs hrun (List.forall_mem_nil _)
  obtain ⟨hne, hpiecechars⟩ := mem_cutWords hcut (fun hupper => nomatch hupper)
  refine ⟨lowerWord_ne_nil hne, fun d hd => ?_⟩
  obtain ⟨c, hc, hform⟩ := mem_lowerWord hd
  have hcrun : c ∈ run := (hpiecechars c hc).resolve_left (List.not_mem_nil)
  obtain ⟨halnum, hcs⟩ := hrunchars c hcrun
  exact ⟨c, hcs.resolve_left (List.not_mem_nil), halnum, hform⟩

theorem underscore_notMem_of_mem_words (h : w ∈ words cs) : '_' ∉ w := by
  intro hmem
  obtain ⟨c, -, halnum, hform | ⟨-, hsigma⟩⟩ := (mem_words h).2 _ hmem
  · exact underscore_notMem_lowerForm halnum hform
  · exact absurd hsigma (by decide)

theorem isPlain_of_mem_words (hcs : ∀ c ∈ cs, c.toNat < 128) (h : w ∈ words cs) :
    ∀ d ∈ w, isPlain d = true := by
  intro d hd
  obtain ⟨c, hc, halnum, hform | ⟨rfl, -⟩⟩ := (mem_words h).2 d hd
  · exact isPlain_of_mem_lowerForm (hcs c hc) halnum hform
  · exact absurd (hcs _ hc) (by decide)

/-! ## Reading plain words -/

theorem runs_append (h : ∀ c ∈ w, p c = true) : runs p run (w ++ cs) = runs p (w.reverse ++ run) cs := by
  induction w generalizing run with
  | nil => rfl
  | cons c w ih =>
    rw [List.forall_mem_cons] at h
    rw [List.cons_append, runs, if_pos h.1, ih h.2]
    simp

/-- Runs that are put together with a separator are found again. -/
theorem runs_intercalate {sep : Char} {ws : List (List Char)} (hsep : p sep = false)
    (hws : ∀ w ∈ ws, w ≠ [] ∧ ∀ c ∈ w, p c = true) : runs p [] ([sep].intercalate ws) = ws := by
  induction ws with
  | nil => rfl
  | cons w ws ih =>
    rw [List.forall_mem_cons] at hws
    obtain ⟨⟨hne, hchars⟩, hws⟩ := hws
    have hrev : w.reverse ≠ [] := fun hnil => hne (List.reverse_eq_nil_iff.mp hnil)
    cases ws with
    | nil =>
      have hend : runs p w.reverse [] = [w] := by
        rw [runs.eq_2 p _ hrev, List.reverse_reverse]
      have happ : runs p [] (w ++ []) = runs p (w.reverse ++ []) [] := runs_append hchars
      rw [List.append_nil, List.append_nil, hend] at happ
      rwa [List.intercalate_singleton]
    | cons w' ws =>
      rw [List.intercalate_cons_cons, List.append_assoc, runs_append hchars, List.append_nil,
        List.singleton_append, runs, if_neg (by simp [hsep]),
        if_neg (by simpa using hne), List.reverse_reverse, ih hws]

/-- A text without capitals is not cut. -/
theorem cutWords_of_no_capital {case : LastCase} (h : ∀ c ∈ cs, isUppercase c = false)
    (hcase : case ≠ .upper) (hne : word.reverse ++ cs ≠ []) :
    cutWords case word cs = [word.reverse ++ cs] := by
  fun_induction cutWords case word cs with
  | case1 => exact absurd rfl hne
  | case2 => rw [List.append_nil]
  | case3 case word c => rw [List.reverse_cons]
  | case4 case word c following rest hcut =>
    have := h following (by simp)
    rw [this] at hcut
    exact absurd hcut.2 (by decide)
  | case5 case word c following rest _ hcut => exact (hcase hcut.1).elim
  | case6 case word c following rest _ _ ih =>
    rw [List.forall_mem_cons] at h
    have hnext : case.next c ≠ .upper := by
      unfold LastCase.next
      rw [h.1]
      cases isLowercase c with
      | true => exact fun heq => nomatch heq
      | false => exact hcase
    rw [ih h.2 hnext (by simp)]
    simp

theorem lowerWord_of_isPlain (h : ∀ c ∈ w, isPlain c = true) : lowerWord w = w := by
  fun_induction lowerWord w with
  | case1 => rfl
  | case2 => exact absurd (h 'Σ' (by simp)) (by decide)
  | case3 c cs _ ih =>
    rw [List.forall_mem_cons] at h
    rw [ih h.2, (of_isPlain h.1).2.2.1, List.singleton_append]

/-- Plain words that are put together with underscores are found again. -/
theorem words_intercalate {ws : List (List Char)}
    (hws : ∀ w ∈ ws, w ≠ [] ∧ ∀ c ∈ w, isPlain c = true) : words (['_'].intercalate ws) = ws := by
  have hruns : runs isAlphanumeric [] (['_'].intercalate ws) = ws :=
    runs_intercalate (by decide) fun w hw => ⟨(hws w hw).1, fun c hc => (of_isPlain ((hws w hw).2 c hc)).1⟩
  have hcut : ∀ w ∈ ws, cutWords .uncased [] w = [w] := fun w hw =>
    cutWords_of_no_capital (fun c hc => (of_isPlain ((hws w hw).2 c hc)).2.1)
      (fun heq => nomatch heq) (hws w hw).1
  have hlower : ∀ w ∈ ws, lowerWord w = w := fun w hw => lowerWord_of_isPlain (hws w hw).2
  rw [words, hruns, List.flatMap_congr hcut, List.flatMap_singleton', List.map_congr_left hlower,
    List.map_id']

end RecordMapper.Text
