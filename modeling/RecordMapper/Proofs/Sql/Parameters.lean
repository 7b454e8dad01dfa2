import RecordMapper.Proofs.Sql.WellFormed
import RecordMapper.Sql.Wording

/-!
# Text and parameters of a statement

A serialized statement is a row of stretches of text with one placeholder between each two of them,
counted on from the parameters that were bound before. The stretches are read off the statement with
its values taken out (`Statement.blank`), so they cannot depend on a value; the parameters are the
values of the statement in the order of its clauses (`Statement.boundValues`).

The text side holds of every statement. The parameter side needs as many arguments as marks in raw
conditions and as many values as columns in inserts (`Statement.Balanced`), which is what lowering
checks.
-/

namespace RecordMapper

/-- Stretches of text with the placeholders for the parameters after the first `bound` ones between
them. -/
def Dialect.fill (d : Dialect) (bound : Nat) : List String → String
  | [] => ""
  | [stretch] => stretch
  | stretch :: rest => stretch ++ d.placeholder (bound + 1) ++ d.fill (bound + 1) rest

namespace Sql

/-- Puts a text in front of the first stretch. -/
def prepend (s : String) : List String → List String
  | [] => [s]
  | stretch :: rest => (s ++ stretch) :: rest

theorem prepend_ne_nil (s : String) (stretches : List String) : prepend s stretches ≠ [] := by
  cases stretches with
  | nil => exact List.cons_ne_nil _ _
  | cons stretch rest => exact List.cons_ne_nil _ _

theorem fill_prepend (d : Dialect) (bound : Nat) (s : String) {stretches : List String}
    (h : stretches ≠ []) : d.fill bound (prepend s stretches) = s ++ d.fill bound stretches := by
  cases stretches with
  | nil => exact absurd rfl h
  | cons stretch rest =>
    cases rest with
    | nil => rfl
    | cons next rest => simp only [prepend, Dialect.fill, String.append_assoc]

/-! ## Templates -/

/-- The segment without its value. -/
def Segment.blank : Segment → Segment
  | text s => text s
  | hole _ => hole .null

namespace Template

/-- The stretches of text before, between and after the holes. -/
def stretches : Template → List String
  | [] => [""]
  | .text s :: rest => prepend s (stretches rest)
  | .hole _ :: rest => "" :: stretches rest

/-- The template with its values taken out. -/
def blank (t : Template) : Template := t.map Segment.blank

theorem stretches_ne_nil (t : Template) : stretches t ≠ [] := by
  cases t with
  | nil => exact List.cons_ne_nil _ _
  | cons segment rest =>
    cases segment with
    | text s => exact prepend_ne_nil s _
    | hole value => exact List.cons_ne_nil _ _

/-- There is one stretch more than there are holes. -/
theorem length_stretches (t : Template) : (stretches t).length = (params t).length + 1 := by
  induction t with
  | nil => rfl
  | cons segment rest ih =>
    cases segment with
    | text s =>
      have hlen : (prepend s (stretches rest)).length = (stretches rest).length := by
        cases hrest : stretches rest with
        | nil => exact absurd hrest (stretches_ne_nil rest)
        | cons stretch others => rfl
      rw [stretches, hlen, ih, params]
    | hole value => rw [stretches, List.length_cons, ih, params, List.length_cons]

/-- The text of a template is its stretches with the placeholders between them. -/
theorem render_eq_fill (d : Dialect) (bound : Nat) (t : Template) :
    render d bound t = d.fill bound (stretches t) := by
  induction t generalizing bound with
  | nil => rfl
  | cons segment rest ih =>
    cases segment with
    | text s => rw [render, stretches, ih, fill_prepend d bound s (stretches_ne_nil rest)]
    | hole value =>
      rw [render, stretches, ih]
      cases hrest : stretches rest with
      | nil => exact absurd hrest (stretches_ne_nil rest)
      | cons stretch others => simp only [Dialect.fill, String.empty_append]

/-- The stretches do not depend on the values. -/
theorem stretches_blank (t : Template) : stretches (blank t) = stretches t := by
  induction t with
  | nil => rfl
  | cons segment rest ih =>
    cases segment with
    | text s => exact congrArg (prepend s) ih
    | hole value => exact congrArg ("" :: ·) ih

@[simp] theorem blank_nil : blank [] = [] := rfl

@[simp] theorem blank_text (s : String) (t : Template) :
    blank (.text s :: t) = .text s :: blank t := rfl

@[simp] theorem blank_hole (v : Value) (t : Template) :
    blank (.hole v :: t) = .hole .null :: blank t := rfl

@[simp] theorem blank_append (a b : Template) : blank (a ++ b) = blank a ++ blank b := List.map_append

@[simp] theorem blank_texts {α : Type} (f : α → String) (xs : List α) :
    blank (xs.map fun x => .text (f x)) = xs.map fun x => .text (f x) := List.map_map

/-! ### Templates in a row -/

@[simp] theorem separated_nil (sep : String) : separated sep [] = [] := rfl

@[simp] theorem separated_singleton (sep : String) (t : Template) : separated sep [t] = t := by
  simp [separated, List.intercalate]

theorem separated_cons_cons (sep : String) (t u : Template) (rest : List Template) :
    separated sep (t :: u :: rest) = t ++ .text sep :: separated sep (u :: rest) := by
  simp [separated, List.intercalate]

theorem blank_separated (sep : String) (parts : List Template) :
    blank (separated sep parts) = separated sep (parts.map blank) := by
  induction parts with
  | nil => rfl
  | cons t parts ih =>
    cases parts with
    | nil => simp
    | cons u rest =>
      rw [List.map_cons, List.map_cons, separated_cons_cons, separated_cons_cons, blank_append]
      exact congrArg (blank t ++ .text sep :: ·) ih

theorem params_separated (sep : String) (parts : List Template) :
    params (separated sep parts) = parts.flatMap params := by
  induction parts with
  | nil => rfl
  | cons t parts ih =>
    cases parts with
    | nil => simp
    | cons u rest =>
      rw [separated_cons_cons, params_append, List.flatMap_cons]
      exact congrArg (params t ++ ·) ih

/-- A list of texts is written like the texts with the separator between them. -/
theorem render_separated_texts {α : Type} (d : Dialect) (bound : Nat) (sep : String)
    (f : α → String) (xs : List α) :
    render d bound (separated sep (xs.map fun x => [.text (f x)])) = sep.intercalate (xs.map f) := by
  induction xs with
  | nil => rfl
  | cons x xs ih =>
    cases xs with
    | nil => simp [render]
    | cons y ys =>
      rw [List.map_cons] at ih
      simp [separated_cons_cons, render, ih, String.intercalate_cons_cons, String.append_assoc]

/-- Texts have no parameters. -/
theorem params_texts {α : Type} (f : α → String) (xs : List α) :
    params (xs.map fun x => .text (f x)) = [] := by
  induction xs with
  | nil => rfl
  | cons x xs ih => exact ih

theorem params_separated_texts {α : Type} (sep : String) (f : α → String) (xs : List α) :
    params (separated sep (xs.map fun x => [.text (f x)])) = [] := by
  rw [params_separated]
  induction xs with
  | nil => rfl
  | cons x xs ih => exact ih

/-- Templates with one parameter each have these parameters. -/
theorem params_separated_holes {α : Type} {w : α → Template} {value : α → Value}
    (h : ∀ x, params (w x) = [value x]) (sep : String) (xs : List α) :
    params (separated sep (xs.map w)) = xs.map value := by
  rw [params_separated, List.flatMap_map]
  simp only [h]
  exact List.flatMap_pure_eq_map value xs

end Template

/-! ## Statements without their values -/

/-- The condition without its values. -/
def Condition.blank : Condition → Condition
  | equals c _ => equals c .null
  | isNull c => isNull c
  | raw fragment args => raw fragment (args.map fun _ => .null)

/-- The entry without its value. -/
def blankEntry (entry : String × Value) : String × Value := (entry.1, .null)

/-- The statement with its values taken out: what is left is its shape. -/
def Statement.blank : Statement → Statement
  | select s => select { s with filter := s.filter.map Condition.blank }
  | insert i => insert { i with values := i.values.map fun _ => .null }
  | update u => update { u with assignments := u.assignments.map blankEntry, key := blankEntry u.key }
  | delete x => delete { x with key := blankEntry x.key }
  | createTable c => createTable c

theorem weave_blank (pieces : List String) (args : List Value) :
    weave pieces (args.map fun _ => .null) = Template.blank (weave pieces args) := by
  induction pieces generalizing args with
  | nil => rfl
  | cons piece pieces ih =>
    cases pieces with
    | nil => rfl
    | cons next pieces =>
      cases args with
      | nil => exact congrArg (Segment.text piece :: ·) (ih [])
      | cons value values => exact congrArg (Segment.text piece :: Segment.hole .null :: ·) (ih values)

theorem Condition.wording_blank (d : Dialect) (c : Condition) :
    c.blank.wording d = Template.blank (c.wording d) := by
  cases c with
  | equals column value => rfl
  | isNull column => rfl
  | raw fragment args =>
    simp only [blank, wording, weave_blank, Template.blank_append]
    rfl

theorem clause_blank (keyword sep : String) (parts : List Template) :
    Template.blank (clause keyword sep parts) = clause keyword sep (parts.map Template.blank) := by
  cases parts with
  | nil => rfl
  | cons t parts =>
    exact congrArg (Segment.text keyword :: ·) (Template.blank_separated sep (t :: parts))

theorem Select.wording_blank (d : Dialect) (s : Select) :
    Select.wording d { s with filter := s.filter.map Condition.blank } =
      Template.blank (s.wording d) := by
  obtain ⟨table, columns, joins, filter, groupBy, orderBy, limit⟩ := s
  cases limit with
  | none => simp [wording, clause_blank, Function.comp_def, Condition.wording_blank]
  | some rows => simp [wording, clause_blank, Function.comp_def, Condition.wording_blank]

theorem Insert.wording_blank (d : Dialect) (i : Insert) :
    Insert.wording d { i with values := i.values.map fun _ => .null } =
      Template.blank (i.wording d) := by
  obtain ⟨table, columns, values⟩ := i
  cases columns with
  | nil => rfl
  | cons column columns => simp [wording, Template.blank_separated, Function.comp_def]

theorem Update.wording_blank (d : Dialect) (u : Update) :
    Update.wording d { u with assignments := u.assignments.map blankEntry, key := blankEntry u.key } =
      Template.blank (u.wording d) := by
  simp [wording, assignmentWording, blankEntry, Template.blank_separated, Function.comp_def]

/-- Taking the values out of a statement takes them out of its wording. -/
theorem Statement.wording_blank (d : Dialect) (s : Statement) :
    s.blank.wording d = Template.blank (s.wording d) := by
  cases s with
  | select s => exact s.wording_blank d
  | insert i => exact i.wording_blank d
  | update u => exact u.wording_blank d
  | delete x => rfl
  | createTable c => rfl

/-- The stretches of text around the placeholders of a statement, the last one with the semicolon. -/
def Statement.stretches (d : Dialect) (s : Statement) : List String :=
  Template.stretches (s.wording d ++ [.text ";"])

/-- The values of a statement do not show in its stretches. -/
theorem Statement.stretches_blank (d : Dialect) (s : Statement) :
    s.blank.stretches d = s.stretches d := by
  have hblank : s.blank.wording d ++ [.text ";"] = Template.blank (s.wording d ++ [.text ";"]) := by
    rw [wording_blank, Template.blank_append]
    rfl
  rw [stretches, stretches, hblank, Template.stretches_blank]

theorem Statement.length_stretches (d : Dialect) (s : Statement) :
    (s.stretches d).length = (Template.params (s.wording d)).length + 1 := by
  rw [stretches, Template.length_stretches, Template.params_append, List.length_append]
  rfl

/-- The text of a statement is that of its shape, whatever its values are. -/
theorem Statement.serialize_fst (d : Dialect) (s : Statement) (bound : List Value) :
    (s.serialize d bound).1 = d.fill bound.length (s.blank.stretches d) := by
  rw [stretches_blank, stretches, ← Template.render_eq_fill, Template.render_append]
  simp only [serialize, Template.render, String.append_empty]

/-! ## The values of a statement -/

/-- The values of a condition. -/
def Condition.boundValues : Condition → List Value
  | equals _ value => [value]
  | isNull _ => []
  | raw _ args => args

/-- The values of a statement in the order of its clauses. -/
def Statement.boundValues : Statement → List Value
  | select s => s.filter.flatMap Condition.boundValues
  | insert i => i.values
  | update u => u.assignments.map Prod.snd ++ [u.key.2]
  | delete x => [x.key.2]
  | createTable _ => []

/-- A raw condition has one argument for each of its marks. -/
def Condition.Balanced : Condition → Prop
  | raw fragment args => (Fragment.pieces fragment).length = args.length + 1
  | _ => True

/-- Every value of the statement has its place in the text. -/
def Statement.Balanced : Statement → Prop
  | select s => ∀ c ∈ s.filter, c.Balanced
  | insert i => i.values.length = i.columns.length
  | _ => True

/-- With one piece more than there are arguments no argument is dropped. -/
theorem params_weave {pieces : List String} {args : List Value} (h : pieces.length = args.length + 1) :
    Template.params (weave pieces args) = args := by
  induction pieces generalizing args with
  | nil => exact absurd h (Nat.succ_ne_zero _).symm
  | cons piece pieces ih =>
    cases args with
    | nil =>
      rw [List.eq_nil_of_length_eq_zero (Nat.succ.inj h)]
      rfl
    | cons value values =>
      cases pieces with
      | nil => exact absurd (Nat.succ.inj h) (Nat.succ_ne_zero _).symm
      | cons next pieces => exact congrArg (value :: ·) (ih (Nat.succ.inj h))

theorem Condition.params_wording (d : Dialect) {c : Condition} (h : c.Balanced) :
    Template.params (c.wording d) = c.boundValues := by
  cases c with
  | equals column value => rfl
  | isNull column => rfl
  | raw fragment args =>
    show Template.params (weave (Fragment.pieces fragment) args ++ [.text ")"]) = args
    rw [Template.params_append, params_weave h]
    exact List.append_nil args

theorem params_clause (keyword sep : String) (parts : List Template) :
    Template.params (clause keyword sep parts) = Template.params (Template.separated sep parts) := by
  cases parts with
  | nil => rfl
  | cons t parts => rfl

theorem Select.params_wording (d : Dialect) {s : Select} (h : ∀ c ∈ s.filter, c.Balanced) :
    Template.params (s.wording d) = s.filter.flatMap Condition.boundValues := by
  obtain ⟨table, columns, joins, filter, groupBy, orderBy, limit⟩ := s
  have hfilter : Template.params (clause " WHERE " " AND " (filter.map (Condition.wording d))) =
      filter.flatMap Condition.boundValues := by
    rw [params_clause, Template.params_separated, List.flatMap_map]
    exact List.flatMap_congr fun c hc => Condition.params_wording d (h c hc)
  cases limit with
  | none =>
    simp only [wording, Template.params_append, Template.params, hfilter, params_clause,
      Template.params_texts, Template.params_separated_texts, List.append_nil, List.nil_append]
  | some rows =>
    simp only [wording, Template.params_append, Template.params, hfilter, params_clause,
      Template.params_texts, Template.params_separated_texts, List.append_nil, List.nil_append]

theorem Insert.params_wording (d : Dialect) {i : Insert} (h : i.values.length = i.columns.length) :
    Template.params (i.wording d) = i.values := by
  obtain ⟨table, columns, values⟩ := i
  cases columns with
  | nil =>
    rw [show values = [] from List.eq_nil_of_length_eq_zero h]
    rfl
  | cons column columns =>
    have hhole : ∀ value, Template.params [.hole value] = [id value] := fun _ => rfl
    show Template.params
      (Template.separated ", " (values.map fun value => [.hole value]) ++ [.text ")"]) = values
    rw [Template.params_append, Template.params_separated_holes hhole, List.map_id]
    exact List.append_nil values

theorem Update.params_wording (d : Dialect) (u : Update) :
    Template.params (u.wording d) = u.assignments.map Prod.snd ++ [u.key.2] := by
  have hassign : ∀ entry, Template.params (assignmentWording d entry) = [entry.2] := fun _ => rfl
  simp only [wording, Template.params_append, Template.params, hassign,
    Template.params_separated_holes hassign]

/-- What a statement binds are its values, each of them and in order. -/
theorem Statement.params_wording (d : Dialect) {s : Statement} (h : s.Balanced) :
    Template.params (s.wording d) = s.boundValues := by
  cases s with
  | select s => exact s.params_wording d h
  | insert i => exact i.params_wording d h
  | update u => exact u.params_wording d
  | delete x => rfl
  | createTable c => rfl

/-! ## Lowered statements -/

theorem balanced_of_condition {scope : Scope} {p : Predicate} {c : Condition}
    (h : scope.condition p = .ok c) : c.Balanced := by
  cases p with
  | raw fragment args =>
    obtain ⟨hcount, rfl⟩ := Scope.condition_raw_eq_ok.mp h
    show (Fragment.pieces fragment).length = args.length + 1
    rw [Fragment.length_pieces, hcount]
  | equals name value =>
    obtain ⟨a, w, -, -, rfl⟩ := Scope.condition_equals_eq_ok.mp h
    split_ifs
    · trivial
    · trivial

/-- Lowering counts the arguments and pairs columns with values. -/
theorem balanced_of_lower {r : Registry} {s : RecordMapper.Statement} {t : Statement}
    (h : lower r s = .ok t) : t.Balanced := by
  obtain ⟨m, -, hlower⟩ := lower_eq_ok.mp h
  cases s with
  | query q =>
    obtain ⟨_, hquery, rfl⟩ := map_eq_ok.mp hlower
    obtain ⟨_, _, _, _, _, -, -, -, -, hfilter, -, rfl⟩ := lowerQuery_eq_ok.mp hquery
    intro c hc
    obtain ⟨p, -, hp⟩ := exists_of_mem_mapM hfilter hc
    exact balanced_of_condition hp
  | insert model values =>
    obtain ⟨_, hinsert, rfl⟩ := map_eq_ok.mp hlower
    obtain ⟨-, stored, -, rfl⟩ := lowerInsert_eq_ok.mp hinsert
    show (List.map _ _).length = (List.map _ _).length
    rw [List.length_map, List.length_map]
  | update model key values =>
    obtain ⟨_, -, rfl⟩ := map_eq_ok.mp hlower
    trivial
  | delete model key =>
    obtain ⟨_, -, rfl⟩ := map_eq_ok.mp hlower
    trivial
  | createTable model =>
    cases hlower
    trivial

/-- A lowered statement is written with as many placeholders as it has values, counted on from those
bound before, and binds its values after these. The text between the placeholders is that of the
statement without its values. -/
theorem serialize_of_lower {r : Registry} {s : RecordMapper.Statement} {t : Statement}
    (h : lower r s = .ok t) (d : Dialect) (bound : List Value) :
    t.serialize d bound = (d.fill bound.length (t.blank.stretches d), bound ++ t.boundValues) ∧
      (t.blank.stretches d).length = t.boundValues.length + 1 := by
  have hparams := t.params_wording d (balanced_of_lower h)
  constructor
  · refine Prod.ext (t.serialize_fst d bound) ?_
    show bound ++ Template.params (t.wording d) = bound ++ t.boundValues
    rw [hparams]
  · rw [t.stretches_blank, t.length_stretches, hparams]

end Sql

namespace Bookshop

theorem serialize_groupedSelect :
    Sql.lower registry (.query groupedQuery) = .ok (.select groupedSelect) ∧
    (Sql.Statement.select groupedSelect).serialize .postgresql [.text "before"] =
      (Dialect.postgresql.fill 1 ((Sql.Statement.select groupedSelect).blank.stretches .postgresql),
        [.text "before", .float (Binary64.ofInt64 4), .int 1900]) ∧
    ((Sql.Statement.select groupedSelect).blank.stretches .postgresql).length = 3 :=
  ⟨lower_groupedQuery, Sql.serialize_of_lower lower_groupedQuery .postgresql [.text "before"]⟩

end Bookshop

end RecordMapper
