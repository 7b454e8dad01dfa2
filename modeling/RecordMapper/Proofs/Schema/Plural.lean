import RecordMapper.Proofs.Schema.Name
import RecordMapper.Proofs.Text.Pattern
import RecordMapper.Schema.Model

/-!
# Names in the plural

The plural of a word is again a word: no rule leaves nothing of it, and none puts an underscore in
(`Inflection.isWord_pluralize`). So the plural of a name tells all its words but the last one, and of that
one its plural (`Name.plural_eq_iff`). Nothing more can be told: names that differ only in that the last
word of one is the plural of the other have the same plural, and models of such names have the same
table.
-/

namespace RecordMapper

namespace Inflection

open Text

variable {rule : Rule} {rules : List Rule} {word out : List Char}

/-! ## Rules -/

/-- The fixed text of a piece, if it is one. -/
def Piece.fixed : Piece → List Char
  | .text s => s.toList
  | .group _ => []

/-- The rule puts no underscore in, and it puts something in or keeps the ending as it is. -/
def Rule.isTame (rule : Rule) : Bool :=
  !(rule.replacement.flatMap Piece.fixed).contains '_' &&
    (!(rule.replacement.flatMap Piece.fixed).isEmpty ||
      match rule.replacement, rule.pattern with
      | [.group 0], _ => true
      | [.group 1], .seq (.group _) .textEnd => true
      | _, _ => false)

theorem isTame_pluralRules : ∀ rule ∈ pluralRules ++ uncountableRules, rule.isTame = true := by
  decide

theorem Rule.inflect?_eq_some (h : rule.inflect? word = some out) :
    ∃ found, rule.pattern.search word = some found ∧
      found.before ++ rule.replacement.flatMap (Piece.expand found.groups) ++ found.after = out :=
  Option.map_eq_some_iff.mp h

theorem Rule.underscore_notMem_inflect? (htame : rule.isTame = true) (hword : '_' ∉ word)
    (h : rule.inflect? word = some out) : '_' ∉ out := by
  obtain ⟨found, hsearch, rfl⟩ := inflect?_eq_some h
  have hcuts := Pattern.cuts_of_search hsearch
  have hgroup : ∀ index, found.groups.getD index [] ⊆ word := by
    intro index
    rw [List.getD_eq_getElem?_getD]
    cases hget : found.groups[index]? with
    | none => exact List.nil_subset _
    | some group => exact hcuts.groups group (List.mem_of_getElem? hget)
  simp only [isTame, Bool.and_eq_true, Bool.not_eq_true', List.contains_eq_mem,
    decide_eq_false_iff_not] at htame
  intro hmem
  rcases List.mem_append.mp hmem with hmem | hafter
  · rcases List.mem_append.mp hmem with hbefore | hmiddle
    · apply hword
      rw [← hcuts.whole]
      exact List.mem_append_left _ (List.mem_append_left _ hbefore)
    · obtain ⟨piece, hpiece, hin⟩ := List.mem_flatMap.mp hmiddle
      cases piece with
      | text s => exact htame.1 (List.mem_flatMap.mpr ⟨_, hpiece, hin⟩)
      | group index => exact hword (hgroup index hin)
  · apply hword
    rw [← hcuts.whole]
    exact List.mem_append_right _ hafter

theorem Rule.inflect?_ne_nil (htame : rule.isTame = true) (hword : word ≠ [])
    (h : rule.inflect? word = some out) : out ≠ [] := by
  obtain ⟨found, hsearch, rfl⟩ := inflect?_eq_some h
  have hwhole := (Pattern.cuts_of_search hsearch).whole
  simp only [isTame, Bool.and_eq_true, Bool.or_eq_true, Bool.not_eq_true'] at htame
  obtain ⟨_, hfixed | hkept⟩ := htame
  · intro hnil
    obtain ⟨hmiddle, _⟩ := List.append_eq_nil_iff.mp hnil
    have hempty := List.flatMap_eq_nil_iff.mp (List.append_eq_nil_iff.mp hmiddle).2
    have hnone : rule.replacement.flatMap Piece.fixed = [] := by
      refine List.flatMap_eq_nil_iff.mpr fun piece hpiece => ?_
      cases piece with
      | text s => exact hempty _ hpiece
      | group index => rfl
    rw [hnone] at hfixed
    cases hfixed
  · -- what was matched is put back, so the word stays
    suffices hsame : rule.replacement.flatMap (Piece.expand found.groups) = found.groups.getD 0 [] by
      rw [hsame, hwhole]
      exact hword
    split at hkept
    · rename_i hreplacement
      rw [hreplacement]
      exact List.append_nil _
    · rename_i hreplacement hpattern
      rw [hpattern] at hsearch
      rw [hreplacement, ← Pattern.group_of_search hsearch]
      exact List.append_nil _
    · cases hkept

theorem applyLast_cases (rules : List Rule) (word : List Char) : Rule.applyLast rules word = word ∨
    ∃ rule ∈ rules, rule.inflect? word = some (Rule.applyLast rules word) := by
  unfold Rule.applyLast
  cases hfind : rules.reverse.findSome? fun rule => rule.inflect? word with
  | none => exact .inl rfl
  | some out =>
    obtain ⟨rule, hrule, hout⟩ := List.exists_of_findSome?_eq_some hfind
    exact .inr ⟨rule, List.mem_reverse.mp hrule, hout⟩

/-! ## Words -/

theorem isWord_irregular : ∀ pair ∈ irregularPairs, Name.IsWord pair.2.toLower := by
  have hpairs : ∀ pair ∈ irregularPairs, pair.2.toLower ≠ "" ∧ '_' ∉ pair.2.toLower.toList := by
    decide +kernel
  exact fun pair hpair => ⟨(hpairs pair hpair).1, (hpairs pair hpair).2⟩

theorem isWord_pluralize {w : String} (h : Name.IsWord w) : Name.IsWord (pluralize w) := by
  have hchars : w.toList ≠ [] := fun hnil => h.ne_empty (String.toList_eq_nil_iff.mp hnil)
  unfold pluralize
  split
  · exact h
  · split
    · rename_i form hform
      obtain ⟨pair, hpair, rfl⟩ := Option.map_eq_some_iff.mp hform
      exact isWord_irregular pair (List.mem_reverse.mp (List.mem_of_find?_eq_some hpair))
    · unfold applyRules
      split
      · exact h
      · rcases applyLast_cases (pluralRules ++ uncountableRules) w.toList with
          hsame | ⟨rule, hrule, hout⟩
        · rw [hsame, String.ofList_toList]
          exact h
        · have htame := isTame_pluralRules rule hrule
          constructor
          · intro hempty
            exact rule.inflect?_ne_nil htame hchars hout (String.ofList_eq_empty_iff.mp hempty)
          · rw [String.toList_ofList]
            exact rule.underscore_notMem_inflect? htame h.unbroken hout

end Inflection

/-! ## Names -/

namespace Name

variable {s t : String} {name other : Name}

/-- The names differ in their last words at most, and these have the same plural. -/
structure SameButNumber (name other : Name) : Prop where
  front : name.parts.dropLast = other.parts.dropLast
  last : name.parts.getLast?.map Inflection.pluralize = other.parts.getLast?.map Inflection.pluralize

/-- The words of the plural. -/
def pluralParts (name : Name) : List String :=
  match name.parts.getLast? with
  | none => []
  | some last => name.parts.dropLast ++ [Inflection.pluralize last]

theorem plural_eq (name : Name) : name.plural = "_".intercalate name.pluralParts := by
  unfold plural inflectLast pluralParts
  cases name.parts.getLast? <;> rfl

theorem isWord_of_mem_pluralParts {w : String} (h : ∀ w ∈ name.parts, IsWord w)
    (hw : w ∈ name.pluralParts) : IsWord w := by
  unfold pluralParts at hw
  cases hlast : name.parts.getLast? with
  | none =>
    rw [hlast] at hw
    cases hw
  | some last =>
    rw [hlast] at hw
    rcases List.mem_append.mp hw with hfront | hend
    · exact h w (List.dropLast_subset _ hfront)
    · rw [List.mem_singleton.mp hend]
      exact Inflection.isWord_pluralize (h last (List.mem_of_getLast? hlast))

theorem pluralParts_eq_iff : name.pluralParts = other.pluralParts ↔ name.SameButNumber other := by
  have hsplit : name.SameButNumber other ↔ name.parts.dropLast = other.parts.dropLast ∧
      name.parts.getLast?.map Inflection.pluralize = other.parts.getLast?.map Inflection.pluralize :=
    ⟨fun h => ⟨h.front, h.last⟩, fun h => ⟨h.1, h.2⟩⟩
  rw [hsplit]
  unfold pluralParts
  cases hname : name.parts.getLast? with
  | none =>
    have hnil : name.parts = [] := List.getLast?_eq_none_iff.mp hname
    cases hother : other.parts.getLast? with
    | none =>
      have hnil' : other.parts = [] := List.getLast?_eq_none_iff.mp hother
      rw [hnil, hnil']
      simp
    | some last' => simp
  | some last =>
    cases hother : other.parts.getLast? with
    | none => simp
    | some last' =>
      constructor
      · intro h
        obtain ⟨hfront, hlast⟩ := List.append_inj' h rfl
        exact ⟨hfront, congrArg some (List.singleton_inj.mp hlast)⟩
      · rintro ⟨hfront, hlast⟩
        show name.parts.dropLast ++ [Inflection.pluralize last] =
          other.parts.dropLast ++ [Inflection.pluralize last']
        rw [hfront, Option.some.inj hlast]

/-- Two names have one plural when they differ in the number of their last word at most. -/
theorem plural_eq_iff : (ofText s).plural = (ofText t).plural ↔ (ofText s).SameButNumber (ofText t) := by
  rw [plural_eq, plural_eq, intercalate_inj, pluralParts_eq_iff]
  · exact fun w hw => isWord_of_mem_pluralParts (fun _ => isWord_of_mem_parts) hw
  · exact fun w hw => isWord_of_mem_pluralParts (fun _ => isWord_of_mem_parts) hw

end Name

namespace Model

variable {m m' : Model}

/-- The names of the models differ in number at most. -/
def SameButNumber (m m' : Model) : Prop := (Name.ofText m.name).SameButNumber (Name.ofText m'.name)

theorem tableName_eq_iff : m.tableName = m'.tableName ↔ m.SameButNumber m' := Name.plural_eq_iff

/-- Models have tables of their own when no two of their names differ in number only. -/
theorem tableNames_nodup_iff {ms : List Model} :
    (ms.map tableName).Nodup ↔ ms.Pairwise fun m m' => ¬m.SameButNumber m' := by
  rw [List.Nodup, List.pairwise_map]
  simp only [ne_eq, tableName_eq_iff]

end Model

end RecordMapper
