import Mathlib.Data.List.TakeWhile
import Mathlib.Tactic.Tauto
import RecordMapper.Config.DatabaseConfig

/-!
# Paths of files in URLs

The path of a file is read as the path of a URL, which is percent-encoded. So the database of a
configuration is the path in its encoded spelling: decoding gives the path back, but the database is the
path itself only where every character of it is shown as it is (`DatabaseConfig.ofUrl_filePath`). A blank
or a letter beyond ASCII is not.
-/

namespace RecordMapper

namespace Url

open RecordMapper.Text (splitAt splitAt_append splitAt_of_notMem)

variable {set : Char → Bool} {c : Char} {cs : List Char}

/-! ## Bytes and characters -/

/-- A byte of ASCII stands for a character of its own. -/
theorem toNat_of_mem_utf8EncodeChar {b : UInt8} (hb : b ∈ String.utf8EncodeChar c)
    (hascii : b.toNat < 128) : c.toNat = b.toNat := by
  have hc : c.val.toNat < 0x110000 := by
    have := c.valid
    simp only [UInt32.isValidChar, Nat.isValidChar] at this
    omega
  show c.val.toNat = b.toNat
  unfold String.utf8EncodeChar at hb
  simp only at hb
  split_ifs at hb <;> simp only [List.mem_cons, List.not_mem_nil, or_false] at hb
  · rw [hb, UInt8.toNat_ofNat']
    omega
  · rcases hb with rfl | rfl <;> rw [UInt8.toNat_ofNat'] at hascii <;> omega
  · rcases hb with rfl | rfl | rfl <;> rw [UInt8.toNat_ofNat'] at hascii <;> omega
  · rcases hb with rfl | rfl | rfl | rfl <;> rw [UInt8.toNat_ofNat'] at hascii <;> omega

theorem eq_of_mem_utf8EncodeChar {d : Char} (hd : d.toNat < 128)
    (h : d.toUInt8 ∈ String.utf8EncodeChar c) : c = d := by
  have hbyte : d.toUInt8.toNat = d.toNat := by
    show d.toNat % 256 = d.toNat
    omega
  have hnat := toNat_of_mem_utf8EncodeChar h (by omega)
  exact Char.toNat_inj.mp (hnat.trans hbyte)

theorem forall_byte {p : UInt8 → Prop} (h : ∀ n : Fin 256, p (.ofNat n)) (b : UInt8) : p b := by
  have := h ⟨b.toNat, b.toNat_lt⟩
  rwa [UInt8.ofNat_toNat] at this

/-! ## Encoding -/

theorem encode_cons (set : Char → Bool) (c : Char) (cs : List Char) :
    encode set (c :: cs) =
      (if set c then (String.utf8EncodeChar c).flatMap encodeByte else [c]) ++ encode set cs :=
  List.flatMap_cons

theorem encode_append (set : Char → Bool) (as bs : List Char) :
    encode set (as ++ bs) = encode set as ++ encode set bs :=
  List.flatMap_append

theorem exists_encodeByte (c : Char) :
    ∃ b ∈ String.utf8EncodeChar c, ∃ rest,
      (String.utf8EncodeChar c).flatMap encodeByte = encodeByte b ++ rest := by
  cases hbytes : String.utf8EncodeChar c with
  | nil =>
    have hlength := String.length_utf8EncodeChar c
    rw [hbytes] at hlength
    exact absurd hlength (Nat.ne_of_lt c.utf8Size_pos)
  | cons b bs => exact ⟨b, List.mem_cons_self, bs.flatMap encodeByte, List.flatMap_cons⟩

theorem length_le_encode (set : Char → Bool) (cs : List Char) : cs.length ≤ (encode set cs).length := by
  induction cs with
  | nil => exact Nat.zero_le _
  | cons c cs ih =>
    obtain ⟨b, -, rest, hbytes⟩ := exists_encodeByte c
    rw [encode_cons, List.length_append, List.length_cons, hbytes]
    split <;> simp [encodeByte] <;> omega

/-- Only a text without characters of the set stays as it is. -/
theorem encode_eq_self_iff : encode set cs = cs ↔ ∀ c ∈ cs, set c = false := by
  refine ⟨fun h => ?_, encode_eq_self⟩
  induction cs with
  | nil => exact List.forall_mem_nil _
  | cons c cs ih =>
    rw [encode_cons] at h
    by_cases hc : set c = true
    · obtain ⟨b, -, rest, hbytes⟩ := exists_encodeByte c
      have hlength := congrArg List.length h
      have hle := length_le_encode set cs
      rw [if_pos hc, hbytes] at hlength
      simp [encodeByte] at hlength
      omega
    · rw [if_neg hc] at h
      exact List.forall_mem_cons.mpr ⟨by simpa using hc, ih (List.cons.inj h).2⟩

/-! ## Decoding what was encoded -/

theorem decodeBytes_cons {b : UInt8} (hb : b ≠ '%'.toUInt8) (bytes : List UInt8) :
    decodeBytes (b :: bytes) = b :: decodeBytes bytes := by
  match bytes with
  | [] => rfl
  | [_] => rfl
  | _ :: _ :: _ => simp only [decodeBytes, if_neg hb]

/-- The three characters of an encoded byte, as bytes, and what they stand for. -/
theorem encodeByte_bytes (b : UInt8) : ∃ high low,
    (encodeByte b).flatMap String.utf8EncodeChar = ['%'.toUInt8, high, low] ∧
      hexByte? high low = some b := by
  have hdigits : ∀ b : UInt8, (encodeByte b).flatMap String.utf8EncodeChar =
        ['%'.toUInt8, (Nat.digitChar (b.toNat / 16)).toUpper.toUInt8,
          (Nat.digitChar (b.toNat % 16)).toUpper.toUInt8] ∧
      hexByte? (Nat.digitChar (b.toNat / 16)).toUpper.toUInt8
        (Nat.digitChar (b.toNat % 16)).toUpper.toUInt8 = some b :=
    forall_byte (by decide +kernel)
  exact ⟨_, _, hdigits b⟩

theorem decodeBytes_encoded (bytes rest : List UInt8) :
    decodeBytes ((bytes.flatMap encodeByte).flatMap String.utf8EncodeChar ++ rest) =
      bytes ++ decodeBytes rest := by
  induction bytes with
  | nil => rfl
  | cons b bytes ih =>
    obtain ⟨high, low, hbytes, hvalue⟩ := encodeByte_bytes b
    rw [List.flatMap_cons, List.flatMap_append, hbytes, List.append_assoc, List.cons_append,
      List.cons_append, List.cons_append, List.nil_append]
    simp only [decodeBytes, if_true, hvalue, ih, List.cons_append]

theorem decodeBytes_shown {bytes : List UInt8} (h : '%'.toUInt8 ∉ bytes) (rest : List UInt8) :
    decodeBytes (bytes ++ rest) = bytes ++ decodeBytes rest := by
  induction bytes with
  | nil => rfl
  | cons b bytes ih =>
    rw [List.mem_cons, not_or] at h
    rw [List.cons_append, decodeBytes_cons (Ne.symm h.1), ih h.2, List.cons_append]

theorem decodeBytes_encode (h : '%' ∉ cs) :
    decodeBytes ((encode set cs).flatMap String.utf8EncodeChar) = cs.flatMap String.utf8EncodeChar := by
  induction cs with
  | nil => rfl
  | cons c cs ih =>
    rw [List.mem_cons, not_or] at h
    rw [encode_cons, List.flatMap_append, List.flatMap_cons, ← ih h.2]
    split
    · exact decodeBytes_encoded _ _
    · have hbytes : '%'.toUInt8 ∉ String.utf8EncodeChar c :=
        fun hmem => h.1 (eq_of_mem_utf8EncodeChar (by decide) hmem).symm
      rw [List.flatMap_singleton, decodeBytes_shown hbytes]

/-- A text without percent signs can be read back from its encoded spelling. -/
theorem decode?_encode (h : '%' ∉ cs) : decode? (encode set cs) = some cs := by
  have hbytes : (⟨(cs.flatMap String.utf8EncodeChar).toArray⟩ : ByteArray) =
      (String.ofList cs).toByteArray := by
    apply ByteArray.ext
    exact List.data_toByteArray.symm
  rw [decode?, decodeBytes_encode h, hbytes, String.fromUTF8?, dif_pos (String.ofList cs).isValidUTF8]
  exact congrArg some String.toList_ofList

/-! ## Segments -/

/-- The segment is a name, not one or two dots. -/
def IsNamed (segment : List Char) : Prop := segment ≠ ['.'] ∧ segment ≠ ['.', '.']

instance (segment : List Char) : Decidable (IsNamed segment) := inferInstanceAs (Decidable (_ ∧ _))

theorem eq_of_toLower_eq {d : Char} (hd : d.toNat < 65) (h : c.toLower = d) : c = d := by
  unfold Char.toLower at h
  split at h
  · rename_i hupper
    have hlow : 65 ≤ c.val.toNat := hupper.1
    have hhigh : c.val.toNat ≤ 90 := hupper.2
    have hval : d.toNat = (c.val.toNat + 32) % 2 ^ 32 := by rw [← h]; rfl
    omega
  · exact h

/-- An encoded segment begins with a dot only if the segment does. -/
theorem dot_of_encode {segment rest : List Char}
    (h : (encode pathSet segment).map Char.toLower = '.' :: rest) :
    ∃ segment', segment = '.' :: segment' ∧ (encode pathSet segment').map Char.toLower = rest := by
  cases segment with
  | nil => cases h
  | cons c segment =>
    rw [encode_cons] at h
    by_cases hc : pathSet c = true
    · obtain ⟨b, -, more, hbytes⟩ := exists_encodeByte c
      rw [if_pos hc, hbytes] at h
      cases h
    · rw [if_neg hc, List.singleton_append, List.map_cons] at h
      obtain ⟨hhead, htail⟩ := List.cons.inj h
      exact ⟨segment, congrArg (· :: segment) (eq_of_toLower_eq (by decide) hhead), htail⟩

/-- No character is encoded as `%2e`, because a dot is shown as it is. -/
theorem encode_ne_dot {segment rest : List Char} (hpercent : '%' ∉ segment) :
    (encode pathSet segment).map Char.toLower ≠ '%' :: '2' :: 'e' :: rest := by
  intro h
  cases segment with
  | nil => cases h
  | cons c segment =>
    rw [List.mem_cons, not_or] at hpercent
    rw [encode_cons] at h
    by_cases hc : pathSet c = true
    · obtain ⟨b, hb, more, hbytes⟩ := exists_encodeByte c
      rw [if_pos hc, hbytes] at h
      have hdigits : ∀ b : UInt8, (encodeByte b).map Char.toLower = ['%', '2', 'e'] → b = '.'.toUInt8 :=
        forall_byte (by decide +kernel)
      have hdot := hdigits b (congrArg (List.take 3) h)
      have hc' : c = '.' := eq_of_mem_utf8EncodeChar (by decide) (hdot ▸ hb)
      rw [hc'] at hc
      exact absurd hc (by decide)
    · rw [if_neg hc, List.singleton_append, List.map_cons] at h
      exact hpercent.1 (eq_of_toLower_eq (by decide) (List.cons.inj h).1).symm

theorem eq_nil_of_encode {segment : List Char} (h : (encode pathSet segment).map Char.toLower = []) :
    segment = [] := by
  have hle := length_le_encode pathSet segment
  rw [List.map_eq_nil_iff.mp h] at hle
  exact List.eq_nil_of_length_eq_zero (Nat.le_zero.mp hle)

/-- A name without percent signs does not spell dots in its encoded form either. -/
theorem IsNamed.encode {segment : List Char} (h : IsNamed segment) (hpercent : '%' ∉ segment) :
    isSingleDot (encode pathSet segment) = false ∧ isDoubleDot (encode pathSet segment) = false := by
  have hdot : ∀ {segment rest}, '%' ∉ segment → (Url.encode pathSet segment).map Char.toLower = '.' :: rest →
      ∃ segment', segment = '.' :: segment' ∧ '%' ∉ segment' ∧
        (Url.encode pathSet segment').map Char.toLower = rest := by
    intro segment rest hpercent hrest
    obtain ⟨segment', rfl, hrest'⟩ := dot_of_encode hrest
    exact ⟨segment', rfl, fun hmem => hpercent (List.mem_cons_of_mem _ hmem), hrest'⟩
  have hspelled : ∀ {s}, String.ofList ((Url.encode pathSet segment).map Char.toLower) = s →
      (Url.encode pathSet segment).map Char.toLower = s.toList := by
    rintro s rfl
    exact String.toList_ofList.symm
  unfold isSingleDot isDoubleDot
  simp only [List.contains_eq_mem, decide_eq_false_iff_not, List.mem_cons, List.not_mem_nil, or_false, not_or]
  refine ⟨⟨fun hs => ?_, fun hs => ?_⟩, fun hs => ?_, fun hs => ?_, fun hs => ?_, fun hs => ?_⟩
  · obtain ⟨_, rfl, -, hrest⟩ := hdot hpercent (hspelled hs)
    rw [eq_nil_of_encode hrest] at h
    exact h.1 rfl
  · exact encode_ne_dot hpercent (hspelled hs)
  · obtain ⟨_, rfl, hpercent', hrest⟩ := hdot hpercent (hspelled hs)
    obtain ⟨_, rfl, -, hrest'⟩ := hdot hpercent' hrest
    rw [eq_nil_of_encode hrest'] at h
    exact h.2 rfl
  · obtain ⟨_, rfl, hpercent', hrest⟩ := hdot hpercent (hspelled hs)
    exact encode_ne_dot hpercent' hrest
  · exact encode_ne_dot hpercent (hspelled hs)
  · exact encode_ne_dot hpercent (hspelled hs)

/-! ## Reading the path -/

/-- Tabs and line ends apart, a path whose segments are names is read to its encoded form. `segment` is
what has been read of the segment at hand. -/
theorem text_read (path : Path) (segment : List Char) (hslash : '/' ∉ segment)
    (hnamed : ∀ part ∈ splitAt '/' (segment.reverse ++ cs), IsNamed part)
    (hpercent : '%' ∉ segment.reverse ++ cs) (hcounted : ∀ c ∈ cs, isIgnored c = false) :
    (Path.read .plain path segment cs).text = path.text ++ encode pathSet (segment.reverse ++ cs) := by
  have hplain : PathKind.plain ≠ .file := by decide
  induction cs generalizing path segment with
  | nil =>
    rw [List.append_nil] at hnamed hpercent ⊢
    rw [splitAt_of_notMem (by rwa [List.mem_reverse])] at hnamed
    obtain ⟨hsingle, hdouble⟩ := (hnamed _ List.mem_cons_self).encode hpercent
    rw [Path.read, Path.text_add hplain hsingle hdouble]
    exact List.append_nil _
  | cons c cs ih =>
    obtain ⟨hc, hcs⟩ := List.forall_mem_cons.mp hcounted
    rw [Path.read, if_neg (by simp [hc])]
    by_cases hend : c = '/'
    · subst hend
      rw [splitAt_append (by rwa [List.mem_reverse]), List.forall_mem_cons] at hnamed
      rw [List.mem_append, not_or] at hpercent
      obtain ⟨hsingle, hdouble⟩ := hnamed.1.encode hpercent.1
      have hpercent' : '%' ∉ cs := fun hmem => hpercent.2 (List.mem_cons_of_mem _ hmem)
      have hshown : encode pathSet ('/' :: cs) = '/' :: encode pathSet cs := by
        rw [encode_cons, if_neg (by decide), List.singleton_append]
      rw [if_pos (by decide), ih _ [] List.not_mem_nil hnamed.2 hpercent' hcs, Path.text_add hplain hsingle hdouble,
        List.reverse_nil, List.nil_append, encode_append, hshown]
      simp
    · have hslash' : '/' ∉ c :: segment := by
        rw [List.mem_cons, not_or]
        exact ⟨Ne.symm hend, hslash⟩
      have hmoved : segment.reverse ++ c :: cs = (c :: segment).reverse ++ cs := by simp
      rw [hmoved] at hnamed hpercent ⊢
      rw [if_neg (by simp [PathKind.isSlash, hend]), ih _ _ hslash' hnamed hpercent hcs]

/-! ## Reading the URL -/

theorem trimEdges_eq_self (hfirst : ∀ c, cs.head? = some c → 0x20 < c.toNat)
    (hlast : ∀ c, cs.getLast? = some c → 0x20 < c.toNat) : trimEdges cs = cs := by
  have keep : ∀ {cs : List Char}, (∀ c, cs.head? = some c → 0x20 < c.toNat) →
      cs.dropWhile (fun c => decide (c.toNat ≤ 0x20)) = cs := by
    intro cs h
    cases cs with
    | nil => rfl
    | cons c cs => exact List.dropWhile_cons_of_neg (by simpa using h c rfl)
  unfold trimEdges
  simp only
  rw [keep hfirst, keep (by rwa [List.head?_reverse]), List.reverse_reverse]

/-- What is asked of the path of a file: it is absolute, has no control characters and none of the
characters that mean something else in a URL, its segments are names, and it does not end in a blank. -/
structure IsFilePath (path : List Char) : Prop where
  absolute : path.head? = some '/'
  plain : ∀ c ∈ path, ¬(c.toNat < 0x20 ∨ 0x7f ≤ c.toNat ∧ c.toNat ≤ 0x9f) ∧ c ∉ ['?', '#', '%']
  named : ∀ segment ∈ splitAt '/' path, IsNamed segment
  ends : path.getLast? ≠ some ' '

namespace IsFilePath

variable {path : List Char}

instance : Decidable (IsFilePath path) :=
  decidable_of_iff
    (path.head? = some '/' ∧
      path.all (fun c => ¬(c.toNat < 0x20 ∨ 0x7f ≤ c.toNat ∧ c.toNat ≤ 0x9f) ∧ c ∉ ['?', '#', '%']) = true ∧
      (splitAt '/' path).all (fun segment => IsNamed segment) = true ∧ path.getLast? ≠ some ' ') <| by
    simp only [List.all_eq_true, decide_eq_true_eq]
    exact ⟨fun ⟨h₁, h₂, h₃, h₄⟩ => ⟨h₁, h₂, h₃, h₄⟩, fun ⟨h₁, h₂, h₃, h₄⟩ => ⟨h₁, h₂, h₃, h₄⟩⟩

theorem exists_cons (h : IsFilePath path) : ∃ rest, path = '/' :: rest := by
  cases path with
  | nil => cases h.absolute
  | cons c rest => exact ⟨rest, congrArg (· :: rest) (Option.some.inj h.absolute)⟩

theorem isIgnored_eq_false (h : IsFilePath path) : ∀ c ∈ path, isIgnored c = false := by
  intro c hc
  have hcontrol := (h.plain c hc).1
  by_contra hignored
  rw [Bool.not_eq_false] at hignored
  simp only [isIgnored, Bool.or_eq_true, beq_iff_eq] at hignored
  rcases hignored with (rfl | rfl) | rfl <;> exact hcontrol (by decide)

theorem not_endsPath (h : IsFilePath path) : ∀ c ∈ path, (! endsPath c) = true := by
  intro c hc
  have hplain := (h.plain c hc).2
  simp only [List.mem_cons, not_or] at hplain
  simp [endsPath, hplain.1, hplain.2.1]

theorem percent_notMem (h : IsFilePath path) : '%' ∉ path :=
  fun hmem => (h.plain '%' hmem).2 (by decide)

theorem trimEdges (h : IsFilePath path) {before : List Char} (hbefore : before.head? = some 's') :
    trimEdges (before ++ path) = before ++ path := by
  refine trimEdges_eq_self (fun c hc => ?_) (fun c hc => ?_)
  · rw [List.head?_append, hbefore] at hc
    cases hc
    decide
  · obtain ⟨rest, rfl⟩ := h.exists_cons
    have hlast : ('/' :: rest).getLast? = some c := by
      rwa [List.getLast?_append, List.getLast?_cons, Option.some_or, ← List.getLast?_cons] at hc
    have hmem := List.mem_of_getLast? hlast
    have hcontrol := (h.plain c hmem).1
    have hblank : c.toNat ≠ 0x20 := fun heq =>
      h.ends (hlast.trans (congrArg some (Char.toNat_inj.mp (heq.trans rfl))))
    omega

end IsFilePath

/-- Behind two slashes the path of a file is all there is: there is no host and nothing after it. -/
theorem parse_filePath {path : List Char} (h : IsFilePath path) :
    parse (String.ofList ("sqlite://".toList ++ path)) = .ok ⟨"sqlite", some ⟨"", "", none⟩, false,
      String.ofList (encode pathSet path), none, none⟩ := by
  have hscheme : readScheme ("sqlite://".toList ++ path) = some ("sqlite", '/' :: '/' :: path) := rfl
  have hcounted : ('/' :: '/' :: path).filter (! isIgnored ·) = '/' :: '/' :: path := by
    refine List.filter_eq_self.mpr fun c hc => ?_
    rcases List.mem_cons.mp hc with rfl | hc
    · decide
    · rcases List.mem_cons.mp hc with rfl | hc
      · decide
      · rw [h.isIgnored_eq_false c hc]
        rfl
  have hauthority : readAuthority .other path = .ok (⟨"", "", none⟩, path) := by
    obtain ⟨rest, rfl⟩ := h.exists_cons
    rfl
  have hall : path.takeWhile (! endsPath ·) = path := List.takeWhile_eq_self_iff.mpr h.not_endsPath
  have hnothing : path.dropWhile (! endsPath ·) = [] := List.dropWhile_eq_nil_iff.mpr h.not_endsPath
  have hpath : pathAfterAuthority false path = encode pathSet path := by
    have hread := text_read ⟨[], false⟩ [] List.not_mem_nil h.named h.percent_notMem
      h.isIgnored_eq_false
    obtain ⟨rest, rfl⟩ := h.exists_cons
    exact hread
  rw [parse, String.toList_ofList, h.trimEdges rfl, hscheme]
  show readAfterScheme "sqlite" ('/' :: '/' :: path) = _
  have hother : SchemeKind.of "sqlite" = .other := rfl
  simp only [readAfterScheme, hother, hcounted, hauthority, bind, Except.bind, pure, Except.pure, finish, hall,
    hnothing, hpath]
  rfl

end Url

namespace DatabaseConfig

open Url (IsFilePath)

/-- The blanks, marks and brackets of ASCII, and whatever is not of ASCII, are not shown in a path. -/
theorem shown_iff {path : List Char} (h : IsFilePath path) :
    (∀ c ∈ path, Url.pathSet c = false) ↔
      ∀ c ∈ path, c.toNat ≤ 0x7e ∧ c ∉ " \"<>`\x7b\x7d".toList := by
  refine forall₂_congr fun c hc => ?_
  obtain ⟨hcontrol, hends⟩ := h.plain c hc
  have hcounted : 32 ≤ c.toNat := by omega
  simp [Url.pathSet, Url.fragmentSet, Url.controlSet, hcounted] at hends ⊢
  tauto

/-- The URL of a file gives the path of the file as it is encoded in the URL. This is the path itself if
all of its characters are shown in URLs, and the name of another file if one of them is not. -/
theorem ofUrl_filePath {path : String} (h : IsFilePath path.toList) :
    ∃ database, ofUrl ("sqlite://" ++ path) = .ok ⟨"sqlite", database⟩ ∧
      database.toList = Url.encode Url.pathSet path.toList ∧
      Url.decode? database.toList = some path.toList ∧
      (database = path ↔ ∀ c ∈ path.toList, c.toNat ≤ 0x7e ∧ c ∉ " \"<>`\x7b\x7d".toList) := by
  refine ⟨String.ofList (Url.encode Url.pathSet path.toList), ?_, String.toList_ofList, ?_, ?_⟩
  · have htext : "sqlite://" ++ path = String.ofList ("sqlite://".toList ++ path.toList) := by
      rw [String.ofList_append, String.ofList_toList, String.ofList_toList]
    have hencoded : Url.encode Url.pathSet path.toList ≠ [] := by
      obtain ⟨rest, hrest⟩ := h.exists_cons
      intro hnone
      have hle := Url.length_le_encode Url.pathSet path.toList
      rw [hnone, hrest] at hle
      exact Nat.not_succ_le_zero _ hle
    have hdatabase : databaseOf ⟨"sqlite", some ⟨"", "", none⟩, false,
          String.ofList (Url.encode Url.pathSet path.toList), none, none⟩ =
        String.ofList (Url.encode Url.pathSet path.toList) := String.empty_append
    rw [htext, ofUrl, Url.parse_filePath h]
    simp only [hdatabase]
    exact if_neg (by simpa using hencoded)
  · rw [String.toList_ofList]
    exact Url.decode?_encode h.percent_notMem
  · rw [← shown_iff h, ← Url.encode_eq_self_iff, ← String.toList_inj, String.toList_ofList]

theorem ofUrl_books : IsFilePath "/var/db/books.sqlite".toList ∧
    ofUrl ("sqlite://" ++ "/var/db/books.sqlite") = .ok ⟨"sqlite", "/var/db/books.sqlite"⟩ := by
  have h : IsFilePath "/var/db/books.sqlite".toList := by decide
  obtain ⟨database, hofUrl, -, -, hshown⟩ := ofUrl_filePath h
  rw [hshown.mpr (by simp)] at hofUrl
  exact ⟨h, hofUrl⟩

/-- A file whose name has a blank in it is not the one that its URL leads to. -/
theorem ofUrl_blank : IsFilePath "/var/my books.db".toList ∧
    ofUrl ("sqlite://" ++ "/var/my books.db") = .ok ⟨"sqlite", "/var/my%20books.db"⟩ ∧
    ofUrl ("sqlite://" ++ "/var/my books.db") ≠ .ok ⟨"sqlite", "/var/my books.db"⟩ := by
  have hofUrl : ofUrl ("sqlite://" ++ "/var/my books.db") = .ok ⟨"sqlite", "/var/my%20books.db"⟩ := rfl
  refine ⟨by decide, hofUrl, fun hspelled => ?_⟩
  have hdatabase := congrArg DatabaseConfig.database (Except.ok.inj (hofUrl.symm.trans hspelled))
  exact absurd hdatabase (by decide)

end DatabaseConfig

end RecordMapper
