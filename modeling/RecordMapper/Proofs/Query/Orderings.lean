import Mathlib.Data.List.Forall2
import RecordMapper.Proofs.Text.Trimmed
import RecordMapper.Query.Query

/-!
# Orderings read from a text

An ordering is told by an attribute and a direction behind it. The attribute may have blanks in it and may
end in a word that names a direction, because the direction is always the last word (`ofText_ends`). A text
of one word, or one whose last word names no direction, is an attribute as a whole
(`ofText_eq_self_iff`).
-/

namespace RecordMapper

open Text

namespace Direction

/-- The word is the name of the direction, each letter of it small or capital. -/
def SpelledBy (direction : Direction) (word : String) : Prop :=
  List.Forall₂ (fun written letter => written = letter ∨ written = letter.toUpper) word.toList
    direction.name.toList

instance (direction : Direction) (word : String) : Decidable (direction.SpelledBy word) :=
  inferInstanceAs (Decidable (List.Forall₂ _ _ _))

variable {direction : Direction} {word : String}

/-- A small letter is the lower case of itself and of its capital, and of nothing else. -/
theorem toLower_eq_iff {c letter : Char} (h : letter.isLower = true) :
    c.toLower = letter ↔ c = letter ∨ c = letter.toUpper := by
  delta Char.isLower at h
  rw [Bool.and_eq_true, decide_eq_true_eq, decide_eq_true_eq] at h
  have hlow : 97 ≤ letter.val.toNat := h.1
  have hhigh : letter.val.toNat ≤ 122 := h.2
  have hcapital : letter.toUpper.val.toNat = letter.val.toNat - 32 := by
    delta Char.toUpper
    rw [dif_pos ⟨hlow, hhigh⟩, UInt32.toNat_add]
    simp only [UInt32.reduceToNat, UInt32.reduceSub, Char.reduceVal]
    omega
  rw [Char.ext_iff, Char.ext_iff, Char.ext_iff, ← UInt32.toNat_inj, ← UInt32.toNat_inj, ← UInt32.toNat_inj,
    hcapital]
  delta Char.toLower
  split
  · next hc =>
    have hfirst : 65 ≤ c.val.toNat := hc.1
    have hlast : c.val.toNat ≤ 90 := hc.2
    rw [UInt32.toNat_add]
    simp only [UInt32.reduceToNat, UInt32.reduceSub, Char.reduceVal]
    omega
  · next hc =>
    have hother : ¬(65 ≤ c.val.toNat ∧ c.val.toNat ≤ 90) := hc
    omega

theorem map_toLower_eq_iff {cs letters : List Char} (h : ∀ letter ∈ letters, letter.isLower = true) :
    cs.map Char.toLower = letters ↔
      List.Forall₂ (fun written letter => written = letter ∨ written = letter.toUpper) cs letters := by
  induction letters generalizing cs with
  | nil => rw [List.map_eq_nil_iff, List.forall₂_nil_right_iff]
  | cons letter letters ih =>
    obtain ⟨hletter, hletters⟩ := List.forall_mem_cons.mp h
    cases cs with
    | nil =>
      constructor
      · intro hmap
        cases hmap
      · intro hall
        cases hall
    | cons c cs => rw [List.map_cons, List.cons.injEq, List.forall₂_cons, ih hletters, toLower_eq_iff hletter]

theorem toLower_eq_name_iff : word.toLower = direction.name ↔ direction.SpelledBy word := by
  have hsmall : ∀ letter ∈ direction.name.toList, letter.isLower = true := by
    cases direction <;> exact List.all_eq_true.mp (by decide)
  have hlower : word.toLower.toList = word.toList.map Char.toLower := String.toList_map
  rw [← String.toList_inj, hlower, map_toLower_eq_iff hsmall, SpelledBy]

theorem ofName?_eq_some : ofName? word = some direction ↔ direction.SpelledBy word := by
  rw [← toLower_eq_name_iff]
  unfold ofName?
  split
  · next h =>
    rw [h]
    cases direction <;> decide
  · next h =>
    rw [h]
    cases direction <;> decide
  · next hasc hdesc =>
    have hother : word.toLower ≠ direction.name := by
      cases direction with
      | ascending => exact hasc
      | descending => exact hdesc
    simp [hother]

/-- There are no blanks in the name of a direction. -/
theorem SpelledBy.unbroken (h : direction.SpelledBy word) : Unbroken word.toList := by
  have hletters : ∀ letter ∈ direction.name.toList,
      isBlank letter = false ∧ isBlank letter.toUpper = false := by
    have hall : direction.name.toList.all
        (fun letter => !isBlank letter && !isBlank letter.toUpper) = true := by
      cases direction <;> decide
    simpa only [List.all_eq_true, Bool.and_eq_true, Bool.not_eq_true'] using hall
  unfold SpelledBy at h
  generalize direction.name.toList = letters at h hletters
  generalize word.toList = cs at h ⊢
  induction h with
  | nil => exact List.forall_mem_nil _
  | cons hwritten _ ih =>
    obtain ⟨hletter, hletters⟩ := List.forall_mem_cons.mp hletters
    refine List.forall_mem_cons.mpr ⟨?_, ih hletters⟩
    rcases hwritten with rfl | rfl
    · exact hletter.1
    · exact hletter.2

theorem SpelledBy.ne_nil (h : direction.SpelledBy word) : word.toList ≠ [] := by
  intro hnil
  rw [SpelledBy, hnil, List.forall₂_nil_left_iff] at h
  cases direction <;> exact absurd h (by decide)

theorem ofName?_eq_none : ofName? word = none ↔ ∀ direction : Direction, ¬direction.SpelledBy word := by
  rw [Option.eq_none_iff_forall_ne_some]
  exact forall_congr' fun direction => ofName?_eq_some.not

end Direction

namespace OrderBy

variable {s a : String} {before word : List Char}

theorem ofText_of_direction {blank : Char} {direction : Direction}
    (h : trim s.toList = before ++ [blank] ++ word) (hparted : Parted (before ++ [blank]) word)
    (hword : direction.SpelledBy (String.ofList word)) :
    ofText s = ⟨String.ofList (trimEnd before), direction⟩ := by
  have hbackwards : (before ++ [blank]).reverse = blank :: before.reverse := List.reverse_concat
  unfold ofText
  simp only [h, hparted.takeWhile_reverse, hparted.dropWhile_reverse, List.reverse_reverse,
    Direction.ofName?_eq_some.mpr hword, hbackwards]

theorem ofText_of_no_direction (h : trim s.toList = before ++ word) (hparted : Parted before word)
    (hword : before = [] ∨ ∀ direction : Direction, ¬direction.SpelledBy (String.ofList word)) :
    ofText s = ⟨String.ofList (trim s.toList), .ascending⟩ := by
  unfold ofText
  simp only [h, hparted.takeWhile_reverse, hparted.dropWhile_reverse, List.reverse_reverse]
  rcases hword with rfl | hword
  · rfl
  · rw [Direction.ofName?_eq_none.mpr hword]
    cases before.reverse <;> rfl

/-- A text ends in a direction behind a blank, or it is an attribute as a whole. -/
theorem ofText_cases (s : String) :
    (∃ before blank word, ∃ direction : Direction, trim s.toList = before ++ [blank] ++ word ∧
      Parted (before ++ [blank]) word ∧ direction.SpelledBy (String.ofList word) ∧
      ofText s = ⟨String.ofList (trimEnd before), direction⟩) ∨
    ∃ before word, trim s.toList = before ++ word ∧ Parted before word ∧
      (before = [] ∨ ∀ direction : Direction, ¬direction.SpelledBy (String.ofList word)) ∧
      ofText s = ⟨String.ofList (trim s.toList), .ascending⟩ := by
  obtain ⟨before, word, htext, hparted⟩ := exists_parted (trim s.toList)
  by_cases hwhole : before = [] ∨ ∀ direction : Direction, ¬direction.SpelledBy (String.ofList word)
  · exact .inr ⟨before, word, htext, hparted, hwhole, ofText_of_no_direction htext hparted hwhole⟩
  · obtain ⟨hne, hword⟩ := not_or.mp hwhole
    obtain ⟨direction, hdirection⟩ := not_forall_not.mp hword
    obtain ⟨start, blank, rfl⟩ := (List.eq_nil_or_concat' before).resolve_left hne
    exact .inl ⟨start, blank, word, direction, htext, hparted, hdirection,
      ofText_of_direction htext hparted hdirection⟩

theorem trimmed_name (s : String) : Trimmed (ofText s).name.toList := by
  have htext := trimmed_trim s.toList
  rcases ofText_cases s with ⟨before, blank, word, direction, h, -, -, heq⟩ | ⟨before, word, -, -, -, heq⟩
  · -- in front of the direction nothing is cut off, because the text begins there
    have hbegins : ∀ c ∈ before.head?, isBlank c = false := by
      intro c hc
      apply htext.begins
      rw [h, List.append_assoc, List.head?_append, Option.mem_def.mp hc]
      rfl
    rw [heq, String.toList_ofList]
    exact ⟨head?_trimEnd hbegins, getLast?_trimEnd before⟩
  · rw [heq, String.toList_ofList]
    exact htext

/-- An attribute and a direction are read back, whatever the blanks around and between them are. -/
theorem ofText_ends {direction : Direction} {word lead between trail : String} (ha : Trimmed a.toList)
    (hne : a ≠ "") (hword : direction.SpelledBy word) (hlead : AllBlank lead.toList)
    (hbetween : AllBlank between.toList) (hbetween' : between ≠ "") (htrail : AllBlank trail.toList) :
    ofText (lead ++ a ++ between ++ word ++ trail) = ⟨a, direction⟩ := by
  obtain ⟨gap, blank, hgap⟩ := (List.eq_nil_or_concat' between.toList).resolve_left
    (String.toList_eq_nil_iff.not.mpr hbetween')
  rw [hgap] at hbetween
  have hgapblank : AllBlank gap := fun c hc => hbetween c (List.mem_append_left _ hc)
  have hblank : isBlank blank = true := hbetween blank List.mem_concat_self
  have hunbroken : Unbroken word.toList := hword.unbroken
  have hparted : Parted (a.toList ++ gap ++ [blank]) word.toList :=
    parted_concat hunbroken hblank (a.toList ++ gap)
  have htext : trim (lead ++ a ++ between ++ word ++ trail).toList =
      a.toList ++ gap ++ [blank] ++ word.toList := by
    have hmiddle : Trimmed (a.toList ++ between.toList ++ word.toList) :=
      ha.append hunbroken.trimmed (String.toList_eq_nil_iff.not.mpr hne) hword.ne_nil between.toList
    have hne' : a.toList ++ between.toList ++ word.toList ≠ [] :=
      List.append_ne_nil_of_right_ne_nil _ hword.ne_nil
    have hsurrounded := trim_surrounded hlead htrail hmiddle hne'
    rw [hgap] at hsurrounded
    simp only [String.toList_append, hgap]
    simpa only [List.append_assoc] using hsurrounded
  rw [ofText_of_direction htext hparted (by rwa [String.ofList_toList]), trimEnd_append hgapblank,
    trimEnd_eq_self ha.ends, String.ofList_toList]

/-- A trimmed text is an attribute as a whole exactly if its last word names no direction or it has no other
word. -/
theorem ofText_eq_self_iff (ha : Trimmed a.toList) : ofText a = ⟨a, .ascending⟩ ↔
    (∀ word, LastWord a.toList word → ∀ direction : Direction, ¬direction.SpelledBy (String.ofList word)) ∨
      Unbroken a.toList := by
  constructor
  · intro hself
    rcases ofText_cases a with ⟨before, blank, word, direction, htext, -, -, heq⟩ |
      ⟨before, word, htext, hparted, hword, -⟩
    · -- the attribute would be longer than the text in front of the direction
      have hname : trimEnd before = a.toList := by
        rw [← String.toList_ofList (l := trimEnd before)]
        exact congrArg (fun o => o.name.toList) (heq.symm.trans hself)
      have hle := (prefix_trimEnd before).length_le
      rw [hname, ← ha.trim_eq_self, htext, List.length_append, List.length_append,
        List.length_singleton] at hle
      omega
    · rw [ha.trim_eq_self] at htext
      rcases hword with rfl | hword
      · right
        rw [htext]
        exact hparted.unbroken
      · left
        intro other hother
        rw [hother.eq ⟨before, htext, hparted⟩]
        exact hword
  · intro hwhole
    obtain ⟨before, word, htext, hparted⟩ := exists_parted (trim a.toList)
    have hword : before = [] ∨ ∀ direction : Direction, ¬direction.SpelledBy (String.ofList word) := by
      rw [ha.trim_eq_self] at htext
      rcases hwhole with hlast | hunbroken
      · exact .inr (hlast word ⟨before, htext, hparted⟩)
      · rw [htext] at hunbroken
        exact .inl (hparted.eq_nil hunbroken)
    rw [ofText_of_no_direction htext hparted hword, ha.trim_eq_self, String.ofList_toList]

/-- What is read from a text is an attribute without blanks at its ends. An attribute with a direction behind
it, in small or capital letters and with any blanks around and between them, is read as just that. An
attribute alone is read as itself in ascending order exactly if its last word names no direction or it is
the only word. -/
theorem ofText_reads :
    (∀ src, Trimmed (ofText src).name.toList) ∧
    (∀ (a word lead between trail : String) (direction : Direction), Trimmed a.toList → a ≠ "" →
      direction.SpelledBy word → AllBlank lead.toList → AllBlank between.toList → between ≠ "" →
      AllBlank trail.toList → ofText (lead ++ a ++ between ++ word ++ trail) = ⟨a, direction⟩) ∧
    (∀ a : String, Trimmed a.toList → (ofText a = ⟨a, .ascending⟩ ↔
      (∀ word, LastWord a.toList word → ∀ direction : Direction, ¬direction.SpelledBy (String.ofList word)) ∨
        Unbroken a.toList)) := by
  refine ⟨trimmed_name, ?_, fun a => ofText_eq_self_iff⟩
  intro a word lead between trail direction ha hne hword hlead hbetween hbetween' htrail
  exact ofText_ends ha hne hword hlead hbetween hbetween' htrail

/-- An attribute of two words that ends in the name of a direction, and the attribute that is one. -/
theorem ofText_sortDesc :
    (Trimmed "sort desc".toList ∧ Direction.descending.SpelledBy "dEsC" ∧ AllBlank "\u3000 ".toList ∧
      AllBlank "\t\u00a0".toList ∧ AllBlank " \n".toList ∧
      ofText ("\u3000 " ++ "sort desc" ++ "\t\u00a0" ++ "dEsC" ++ " \n") = ⟨"sort desc", .descending⟩) ∧
    (Trimmed "Desc".toList ∧ Unbroken "Desc".toList ∧ ofText "Desc" = ⟨"Desc", .ascending⟩) := by
  obtain ⟨-, hends, hself⟩ := ofText_reads
  have hsort : Trimmed "sort desc".toList := by decide
  have hword : Direction.descending.SpelledBy "dEsC" := by decide
  have hlead : AllBlank "\u3000 ".toList := by decide
  have hbetween : AllBlank "\t\u00a0".toList := by decide
  have htrail : AllBlank " \n".toList := by decide
  have hdesc : Trimmed "Desc".toList := by decide
  have hunbroken : Unbroken "Desc".toList := by decide
  exact ⟨⟨hsort, hword, hlead, hbetween, htrail,
    hends "sort desc" "dEsC" "\u3000 " "\t\u00a0" " \n" .descending hsort (by decide) hword hlead hbetween
      (by decide) htrail⟩, hdesc, hunbroken, (hself "Desc" hdesc).mpr (.inr hunbroken)⟩

end OrderBy

end RecordMapper
