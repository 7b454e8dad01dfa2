import RecordMapper.Proofs.Sql.Conditions
import RecordMapper.Proofs.Text.Trimmed
import RecordMapper.Sql.Compile

/-!
# A bare name for equality

A fragment with one argument is taken for the name of an attribute if it is an identifier in ASCII, blanks
around it apart. The catalog is not asked, and attributes may have other names. So the short form agrees
with equality for the attributes whose names are identifiers and for no others (`shorthand_agrees_iff`):
another name is taken for a raw condition, or for the name without its blanks.

Two selects that differ in their last condition differ in the text of that condition
(`condition_text_of_serialize`), and there a raw condition begins with a parenthesis and an equality with
a quote mark.
-/

namespace RecordMapper

/-! ## Reading fragments -/

open Text (isBlank trim)

theorem isBlank_of_identifier {c : Char} (h : (c.isAlphanum || c == '_') = true) : isBlank c = false := by
  delta Char.isAlphanum Char.isAlpha Char.isUpper Char.isLower Char.isDigit at h
  simp only [Bool.or_eq_true, Bool.and_eq_true, decide_eq_true_eq, beq_iff_eq] at h
  rcases h with h | rfl
  · have hnat : ((65 ≤ c.toNat ∧ c.toNat ≤ 90) ∨ 97 ≤ c.toNat ∧ c.toNat ≤ 122) ∨
        48 ≤ c.toNat ∧ c.toNat ≤ 57 := h
    simp only [isBlank, Bool.or_eq_false_iff, Bool.and_eq_false_iff, decide_eq_false_iff_not,
      beq_eq_false_iff_ne]
    omega
  · decide

theorem unbroken_of_identifier {cs : List Char} (h : Fragment.isIdentifier cs = true) : Text.Unbroken cs := by
  cases cs with
  | nil => exact List.forall_mem_nil _
  | cons c cs =>
    simp only [Fragment.isIdentifier, Bool.and_eq_true, List.all_eq_true] at h
    refine List.forall_mem_cons.mpr ⟨isBlank_of_identifier ?_, fun x hx => isBlank_of_identifier (h.2 x hx)⟩
    have hfirst := h.1
    simp only [Bool.or_eq_true, Char.isAlphanum] at hfirst ⊢
    tauto

theorem trim_identifier {cs : List Char} (h : Fragment.isIdentifier cs = true) : trim cs = cs :=
  (unbroken_of_identifier h).trimmed.trim_eq_self

namespace Predicate

variable {name : String} {value : Value}

theorem ofFragment_singleton (name : String) (value : Value) : ofFragment name [value] =
    if Fragment.isIdentifier (trim name.toList) then .equals (String.ofList (trim name.toList)) value
    else .raw name [value] := rfl

theorem ofFragment_identifier (h : Fragment.isIdentifier name.toList = true) :
    ofFragment name [value] = .equals name value := by
  rw [ofFragment_singleton, trim_identifier h, if_pos h, String.ofList_toList]

/-- A name that is no identifier is taken for something else. -/
theorem ofFragment_other (h : Fragment.isIdentifier name.toList = false) :
    ofFragment name [value] = .raw name [value] ∨
      ∃ other, other ≠ name ∧ ofFragment name [value] = .equals other value := by
  rw [ofFragment_singleton]
  by_cases htrim : Fragment.isIdentifier (trim name.toList) = true
  · refine .inr ⟨_, fun hsame => ?_, if_pos htrim⟩
    have hlist : trim name.toList = name.toList := String.toList_ofList.symm.trans (congrArg String.toList hsame)
    rw [hlist, h] at htrim
    cases htrim
  · exact .inl (if_neg htrim)

end Predicate

namespace Sql

variable {r : Registry} {m : Model} {a : Attribute} {q : Query} {p p' : Predicate} {d : Dialect}
  {base s s' : Select} {c c' : Condition} {v : Value}

/-! ## One more condition -/

/-- The select with one more condition. -/
def Select.under (s : Select) (c : Condition) : Select := { s with filter := s.filter ++ [c] }

/-- A condition is lowered after the query that it is added to, and adds nothing but itself. -/
theorem lowerQuery_filter_eq_ok : lowerQuery r m (q.refine (.filter p)) = .ok s ↔
    ∃ base c, lowerQuery r m q = .ok base ∧ Scope.condition ⟨m, !base.joins.isEmpty⟩ p = .ok c ∧
      base.under c = s := by
  have hfilter : (q.refine (.filter p)).filter.toList = q.filter.toList ++ [p] := Trail.toList_push _ _
  constructor
  · intro h
    obtain ⟨joins, columns, groupBy, filter, orderBy, hjoins, hcolumns, hgrouping, hgroup, hlowered, horder,
      rfl⟩ := lowerQuery_eq_ok.mp h
    rw [hfilter, List.mapM_append, bind_eq_ok] at hlowered
    obtain ⟨before, hbefore, hrest⟩ := hlowered
    simp only [List.mapM_cons, List.mapM_nil, bind_eq_ok, pure_eq_ok] at hrest
    obtain ⟨_, ⟨c, hc, _, rfl, rfl⟩, rfl⟩ := hrest
    exact ⟨⟨m.tableName, columns, joins, before, groupBy, orderBy, q.limit⟩, c,
      lowerQuery_eq_ok.mpr ⟨joins, columns, groupBy, before, orderBy, hjoins, hcolumns, hgrouping, hgroup,
        hbefore, horder, rfl⟩, hc, rfl⟩
  · rintro ⟨base, c, hbase, hc, rfl⟩
    obtain ⟨joins, columns, groupBy, before, orderBy, hjoins, hcolumns, hgrouping, hgroup, hbefore, horder,
      rfl⟩ := lowerQuery_eq_ok.mp hbase
    refine lowerQuery_eq_ok.mpr ⟨joins, columns, groupBy, before ++ [c], orderBy, hjoins, hcolumns, hgrouping,
      hgroup, ?_, horder, rfl⟩
    rw [hfilter, List.mapM_append, bind_eq_ok]
    refine ⟨before, hbefore, ?_⟩
    simp only [List.mapM_cons, List.mapM_nil, bind_eq_ok, pure_eq_ok]
    exact ⟨[c], ⟨c, hc, [], rfl, rfl⟩, rfl⟩

/-! ## Texts that differ in one condition -/

theorem exists_intercalate (sep : String) (ts : List String) :
    ∃ before, ∀ t, sep.intercalate (ts ++ [t]) = before ++ t := by
  induction ts with
  | nil => exact ⟨"", fun t => by simp⟩
  | cons t₀ ts ih =>
    obtain ⟨before, hbefore⟩ := ih
    refine ⟨t₀ ++ sep ++ before, fun t => ?_⟩
    have hne : ts ++ [t] ≠ [] := List.append_ne_nil_of_right_ne_nil _ (List.cons_ne_nil _ _)
    obtain ⟨t₁, more, hmore⟩ := List.exists_cons_of_ne_nil hne
    rw [List.cons_append, hmore, String.intercalate_cons_cons, ← hmore, hbefore]
    simp only [String.append_assoc]

theorem exists_conditionTexts (bound : Nat) (cs : List Condition) :
    ∃ bound', ∀ c, conditionTexts d bound (cs ++ [c]) = conditionTexts d bound cs ++ [c.text d bound'] := by
  induction cs generalizing bound with
  | nil => exact ⟨bound, fun c => rfl⟩
  | cons c₀ cs ih =>
    obtain ⟨bound', htexts⟩ := ih (bound + c₀.boundValues.length)
    exact ⟨bound', fun c => congrArg (c₀.text d bound :: ·) (htexts c)⟩

/-- Selects that differ in their last condition and read the same have conditions that read the same. -/
theorem condition_text_of_serialize (h : ∀ c ∈ base.filter, c.Balanced) (hc : c.Balanced) (hc' : c'.Balanced)
    (htext : ((Statement.select (base.under c)).serialize d []).1 =
      ((Statement.select (base.under c')).serialize d []).1) :
    ∃ bound, c.text d bound = c'.text d bound := by
  obtain ⟨bound, htexts⟩ := exists_conditionTexts (d := d) 0 base.filter
  obtain ⟨before, hbefore⟩ := exists_intercalate " AND " (conditionTexts d 0 base.filter)
  have hread : ∀ {c : Condition}, c.Balanced → ((Statement.select (base.under c)).serialize d []).1 =
      Template.render d 0 (headWording d base) ++ " WHERE " ++ (before ++ c.text d bound) ++
        Template.render d 0 (groupedWording d base) ++ ";" := by
    intro c hc
    have hall : ∀ x ∈ (base.under c).filter, x.Balanced := by
      intro x hx
      rcases List.mem_append.mp hx with hx | hx
      · exact h x hx
      · rw [List.mem_singleton.mp hx]
        exact hc
    have hne : (base.under c).filter ≠ [] := List.append_ne_nil_of_right_ne_nil _ (List.cons_ne_nil _ _)
    rw [serialize_select hall hne, ← hbefore, ← htexts]
    rfl
  rw [hread hc, hread hc'] at htext
  refine ⟨bound, ?_⟩
  simp only [String.append_assoc] at htext
  simpa only [String.append_right_inj, String.append_left_inj] using htext

/-- A raw condition does not read like one on a column. -/
theorem raw_text_ne {fragment : String} {args : List Value} {column : Column} {rest : String} (bound : Nat) :
    (Condition.raw fragment args).text d bound ≠ column.wording d ++ rest := by
  intro h
  obtain ⟨more, hmore⟩ := beginsQuoted_column (d := d) column [.text rest] bound
  have hlist := congrArg String.toList h
  have hread : (column.wording d ++ rest).toList = d.quoteMark :: more := by
    rw [← hmore]
    simp [Template.render]
  rw [hread, Condition.text] at hlist
  simp only [String.toList_append] at hlist
  have hmark : '(' = d.quoteMark := (List.cons.inj hlist).1
  cases d <;> exact absurd hmark (by decide)

/-- Conditions on two columns for one value read alike only if the columns are the same. -/
theorem column_eq_of_text {w w' : Value} {column column' : Column} (bound : Nat) (hnull : w.isNull = w'.isNull)
    (h : Condition.text d bound (if w.isNull then .isNull column else .equals column w) =
      Condition.text d bound (if w'.isNull then .isNull column' else .equals column' w')) :
    column = column' := by
  have hwording : column.wording d = column'.wording d := by
    rw [hnull] at h
    split at h
    · exact (String.append_left_inj _).mp h
    · simp only [Condition.text, String.append_assoc] at h
      exact (String.append_left_inj _).mp h
  have hends : NameEnds [] := by decide
  have hlist : (Template.render d 0 [.text (column.wording d)]).toList ++ [] =
      (Template.render d 0 [.text (column'.wording d)]).toList ++ [] := by
    rw [hwording]
  exact (reads_column column column' 0 [] [] [] [] hends hends hlist rfl).1

/-- An equality reads neither like a raw condition nor like an equality with another name. -/
theorem text_ne_of_other {scope : Scope} {name : String} (h : scope.condition (.equals name v) = .ok c)
    (hp : p = .raw name [v] ∨ ∃ other, other ≠ name ∧ p = .equals other v)
    (h' : scope.condition p = .ok c') (bound : Nat) : c'.text d bound ≠ c.text d bound := by
  obtain ⟨a, w, ha, hw, rfl⟩ := Scope.condition_equals_eq_ok.mp h
  rcases hp with rfl | ⟨other, hother, rfl⟩
  · obtain ⟨-, rfl⟩ := Scope.condition_raw_eq_ok.mp h'
    split
    · exact raw_text_ne bound
    · rw [Condition.text, String.append_assoc]
      exact raw_text_ne bound
  · obtain ⟨a', w', ha', hw', rfl⟩ := Scope.condition_equals_eq_ok.mp h'
    intro htext
    have hnull : w'.isNull = w.isNull :=
      (ValueType.isNull_of_cast? hw').trans (ValueType.isNull_of_cast? hw).symm
    have hcolumn := congrArg Column.name (column_eq_of_text bound hnull htext)
    rw [column_name, column_name, (Model.mem_of_attribute? ha').2, (Model.mem_of_attribute? ha).2] at hcolumn
    exact hother hcolumn

/-! ## The short form -/

theorem compile_query_eq_ok (hm : r.get q.model = .ok m) {out : String × List Value} :
    compile r (.query q) d = .ok out ↔
      ∃ s, lowerQuery r m q = .ok s ∧ (Statement.select s).serialize d [] = out := by
  unfold compile
  rw [map_eq_ok]
  constructor
  · rintro ⟨t, ht, rfl⟩
    obtain ⟨m', hm', hlower⟩ := lower_eq_ok.mp ht
    cases hm.symm.trans hm'
    obtain ⟨s, hs, rfl⟩ := map_eq_ok.mp hlower
    exact ⟨s, hs, rfl⟩
  · rintro ⟨s, hs, rfl⟩
    exact ⟨.select s, lower_query_eq_ok.mpr ⟨m, hm, hs⟩, rfl⟩

/-- Where a name is no identifier the short form never does what equality does. -/
theorem compile_other_ne (hm : r.get q.model = .ok m) (ha : Fragment.isIdentifier a.name.toList = false)
    {out : String × List Value}
    (h : compile r (.query (q.refine (.filter (.equals a.name v)))) d = .ok out) :
    compile r (.query (q.refine (.filter (.ofFragment a.name [v])))) d ≠ .ok out := by
  intro hshort
  obtain ⟨s, hs, rfl⟩ := (compile_query_eq_ok (q := q.refine _) hm).mp h
  obtain ⟨s', hs', hsame⟩ := (compile_query_eq_ok (q := q.refine _) hm).mp hshort
  obtain ⟨base, c, hbase, hc, rfl⟩ := lowerQuery_filter_eq_ok.mp hs
  obtain ⟨base', c', hbase', hc', rfl⟩ := lowerQuery_filter_eq_ok.mp hs'
  cases hbase.symm.trans hbase'
  have hbalanced : ∀ x ∈ base.filter, x.Balanced :=
    balanced_of_lower (lower_query_eq_ok.mpr ⟨m, hm, hbase⟩)
  obtain ⟨bound, htext⟩ := condition_text_of_serialize hbalanced (balanced_of_condition hc')
    (balanced_of_condition hc) (congrArg Prod.fst hsame)
  exact text_ne_of_other hc (Predicate.ofFragment_other ha) hc' bound htext

/-- That an attribute is missing can be asked of all records. -/
theorem exists_compile_missing (r : Registry) {name : String} (hm : r.get name = .ok m) (hcatalogued : m.Catalogued)
    (ha : a ∈ m.attributes) (d : Dialect) :
    ∃ out, compile r (.query ((Query.all name).refine (.filter (.equals a.name .null)))) d = .ok out := by
  have hlowered : ∃ base, lowerQuery r m (Query.all name) = .ok base :=
    ⟨_, lowerQuery_eq_ok.mpr ⟨[], _, [], [], [], rfl, rfl, rfl, rfl, rfl, rfl, rfl⟩⟩
  obtain ⟨base, hbase⟩ := hlowered
  have hfound : m.attribute? a.name = some a := hcatalogued.attribute?_eq_some.mpr ⟨ha, rfl⟩
  have hcondition : Scope.condition ⟨m, !base.joins.isEmpty⟩ (.equals a.name .null) =
      .ok (.isNull (Scope.column ⟨m, !base.joins.isEmpty⟩ a)) :=
    Scope.condition_equals_eq_ok.mpr ⟨a, .null, hfound, ValueType.cast?_null _, rfl⟩
  have hquery := lowerQuery_filter_eq_ok.mpr ⟨base, _, hbase, hcondition, rfl⟩
  exact ⟨_, (compile_query_eq_ok (q := (Query.all name).refine _) hm).mpr ⟨_, hquery, rfl⟩⟩

/-- The short form agrees with equality on an attribute exactly if the name of the attribute is an
identifier. On any other attribute the two never give the same text and parameters. -/
theorem shorthand_agrees_iff {name : String} (hm : r.get name = .ok m) (hcatalogued : m.Catalogued)
    (ha : a ∈ m.attributes) :
    ((∀ (q : Query) (v : Value) (d : Dialect), r.get q.model = .ok m →
        compile r (.query (q.refine (.filter (.ofFragment a.name [v])))) d =
          compile r (.query (q.refine (.filter (.equals a.name v)))) d) ↔
      Fragment.isIdentifier a.name.toList = true) ∧
    (Fragment.isIdentifier a.name.toList = false →
      ∀ (q : Query) (v : Value) (d : Dialect) (out : String × List Value), r.get q.model = .ok m →
      compile r (.query (q.refine (.filter (.equals a.name v)))) d = .ok out →
        compile r (.query (q.refine (.filter (.ofFragment a.name [v])))) d ≠ .ok out) := by
  have hother : Fragment.isIdentifier a.name.toList = false →
      ∀ (q : Query) (v : Value) (d : Dialect) (out : String × List Value), r.get q.model = .ok m →
      compile r (.query (q.refine (.filter (.equals a.name v)))) d = .ok out →
        compile r (.query (q.refine (.filter (.ofFragment a.name [v])))) d ≠ .ok out :=
    fun hname q v d out hq => compile_other_ne hq hname
  refine ⟨⟨fun hagree => ?_, fun hname q v d _ => ?_⟩, hother⟩
  · by_contra hname
    obtain ⟨out, hout⟩ := exists_compile_missing r hm hcatalogued ha .sqlite
    have hshort := (hagree (Query.all name) .null .sqlite hm).trans hout
    exact hother (Bool.not_eq_true _ ▸ hname) _ _ _ _ hm hout hshort
  · rw [Predicate.ofFragment_identifier hname]

end Sql

namespace Bookshop

/-- The attribute of books that names them. -/
def title : Attribute := { name := "title", type := .string, nullable := false }

theorem title_shorthand :
    registry.get "book" = .ok book ∧ book.Catalogued ∧ title ∈ book.attributes ∧
      Sql.compile registry
          (.query ((Query.all "book").refine (.filter (.ofFragment "title" [.text "Emma"])))) .sqlite =
        Sql.compile registry
          (.query ((Query.all "book").refine (.filter (.equals "title" (.text "Emma"))))) .sqlite := by
  have hget : registry.get "book" = .ok book := rfl
  have hcatalogued : book.Catalogued := (declared book (by decide)).catalogued
  have htitle : title ∈ book.attributes := by decide
  have hagree := (Sql.shorthand_agrees_iff hget hcatalogued htitle).1.mpr (by decide)
  exact ⟨hget, hcatalogued, htitle, hagree (Query.all "book") (.text "Emma") .sqlite hget⟩

/-- A model with names that are no identifiers: one has an accent and one begins with a blank. -/
def almanac : Model where
  name := "almanac"
  attributes := [{ name := "id", type := .integer, nullable := false }, { name := "year", type := .integer },
    { name := " year", type := .integer }, { name := "année", type := .integer }]
  primaryKey := "id"
  associations := []
  connection := "primary"

def shelf : Registry := ⟨[almanac]⟩

theorem almanac_declared : almanac.Declared :=
  ⟨"almanac", [.attr { name := "year", type := .integer }, .attr { name := " year", type := .integer },
    .attr { name := "année", type := .integer }], Declaration.build_eq_ok.mpr (by decide +kernel)⟩

/-- The short form is refused for the name with the accent, and for the one that begins with a blank it
asks for another attribute. -/
theorem almanac_shorthand : almanac.Declared ∧
    Sql.compile shelf (.query ((Query.all "almanac").refine (.filter (.equals "année" (.int 1815))))) .sqlite =
      .ok ("SELECT \"id\", \"year\", \" year\", \"année\" FROM \"almanacs\" WHERE \"année\" = ?1;",
        [.int 1815]) ∧
    Sql.compile shelf (.query ((Query.all "almanac").refine (.filter (.ofFragment "année" [.int 1815])))) .sqlite =
      .error (Sql.Refusal.argumentCount "année" 0 1).error ∧
    Sql.compile shelf (.query ((Query.all "almanac").refine (.filter (.ofFragment " year" [.int 1815])))) .sqlite =
      .ok ("SELECT \"id\", \"year\", \" year\", \"année\" FROM \"almanacs\" WHERE \"year\" = ?1;",
        [.int 1815]) := by
  refine ⟨almanac_declared, ?_, ?_, ?_⟩
  · decide +kernel
  · decide +kernel
  · decide +kernel

end Bookshop

end RecordMapper
