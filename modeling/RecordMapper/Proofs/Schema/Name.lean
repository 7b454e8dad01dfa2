import RecordMapper.Proofs.Text.Words
import RecordMapper.Schema.Name

/-!
# Names read back

A name that a text spells can be told by its words with underscores between, and if the text is in
ASCII, what is then written is read as the same name again.
-/

namespace RecordMapper

namespace Name

variable {s t w : String} {ps qs : List String}

/-! ## Words put together -/

/-- The text can stand between underscores: it is not empty and has none itself. -/
structure IsWord (w : String) : Prop where
  ne_empty : w ≠ ""
  unbroken : '_' ∉ w.toList

theorem isWord_of_mem_parts (h : w ∈ (ofText s).parts) : IsWord w := by
  obtain ⟨cs, hcs, rfl⟩ := List.mem_map.mp h
  constructor
  · intro hempty
    exact (Text.mem_words hcs).1 (String.ofList_eq_empty_iff.mp hempty)
  · rw [String.toList_ofList]
    exact Text.underscore_notMem_of_mem_words hcs

/-- Words can be cut apart at the underscores between them; without any word there is nothing to
cut. -/
theorem splitOn_intercalate (h : ∀ w ∈ ps, IsWord w) : ("_".intercalate ps).toList.splitOn '_' =
    if ps = [] then [[]] else ps.map String.toList := by
  rw [String.toList_intercalate]
  split
  · rename_i hnil
    rw [hnil]
    rfl
  · rename_i hne
    refine List.splitOn_intercalate '_' (fun cs hcs => ?_) (by simpa using hne)
    obtain ⟨w, hw, rfl⟩ := List.mem_map.mp hcs
    exact (h w hw).unbroken

/-- Words with underscores between tell the words. -/
theorem intercalate_inj (hps : ∀ w ∈ ps, IsWord w) (hqs : ∀ w ∈ qs, IsWord w) :
    "_".intercalate ps = "_".intercalate qs ↔ ps = qs := by
  refine ⟨fun h => ?_, fun h => congrArg _ h⟩
  have hsplit := congrArg (fun text : String => text.toList.splitOn '_') h
  simp only [splitOn_intercalate hps, splitOn_intercalate hqs] at hsplit
  have nil_notMem : ∀ {ws : List String}, (∀ w ∈ ws, IsWord w) → [] ∉ ws.map String.toList := by
    intro ws hws hmem
    obtain ⟨w, hw, hnil⟩ := List.mem_map.mp hmem
    exact (hws w hw).ne_empty (String.toList_eq_nil_iff.mp hnil)
  split_ifs at hsplit with hp hq hq
  · rw [hp, hq]
  · exact absurd (hsplit ▸ List.mem_singleton_self []) (nil_notMem hqs)
  · exact absurd (hsplit ▸ List.mem_singleton_self []) (nil_notMem hps)
  · exact List.map_injective_iff.mpr (fun _ _ => String.toList_inj.mp) hsplit

/-! ## Names -/

theorem toList_snakeCase (name : Name) :
    name.snakeCase.toList = ['_'].intercalate (name.parts.map String.toList) :=
  String.toList_intercalate

theorem toList_parts_ofText (s : String) : (ofText s).parts.map String.toList = Text.words s.toList := by
  simp [ofText, Function.comp_def]

/-- Two texts spell one name when the names are written alike. -/
theorem snakeCase_inj : (ofText s).snakeCase = (ofText t).snakeCase ↔ ofText s = ofText t := by
  have hparts : (ofText s).snakeCase = (ofText t).snakeCase ↔ (ofText s).parts = (ofText t).parts :=
    intercalate_inj (fun _ => isWord_of_mem_parts) (fun _ => isWord_of_mem_parts)
  rw [hparts]
  exact ⟨fun h => congrArg Name.mk h, fun h => congrArg Name.parts h⟩

/-- Reading a name of a text in ASCII again gives the same name. -/
theorem ofText_snakeCase (h : Text.InAscii s) : ofText (ofText s).snakeCase = ofText s := by
  have hplain : ∀ w ∈ Text.words s.toList, w ≠ [] ∧ ∀ c ∈ w, Text.isPlain c = true :=
    fun w hw => ⟨(Text.mem_words hw).1, Text.isPlain_of_mem_words h hw⟩
  show Name.mk _ = Name.mk _
  rw [toList_snakeCase, toList_parts_ofText, Text.words_intercalate hplain]

/-- Past ASCII it may give another one: the mark of the small `İ` is taken for the end of a word. -/
example : ofText (ofText "İzmir").snakeCase ≠ ofText "İzmir" := by decide +kernel

end Name

end RecordMapper
