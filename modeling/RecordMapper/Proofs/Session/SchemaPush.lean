import RecordMapper.Proofs.Session.Engine
import RecordMapper.Proofs.Session.Models
import RecordMapper.Proofs.Session.Tables

/-!
# Pushing a schema

However a session was used, its models are those that were defined, one after the other
(`Registry.WellKept.defineAll`). Pushing the schema sends the creation of their tables in this order, each
to the database of its model in the dialect spoken there, up to the first model without a connection or
the first table that is refused (`History.reached_pushSchema`).

One table is one run of `Session.exec` (`Session.createTable_runs`), and all of them are one step after
the other (`Session.pushes_cons`).
-/

namespace RecordMapper

/-! ## The text of a table -/

namespace Model

variable {m : Model} {d : Dialect} {a : Attribute}

/-- The column of an attribute in the text that creates the table. -/
def columnText (m : Model) (d : Dialect) (a : Attribute) : String :=
  (Sql.ColumnDefinition.ofAttribute m a).wording d

/-- Whether the column of an attribute is said to be the primary key. -/
def writesKey (m : Model) (d : Dialect) (a : Attribute) : Bool :=
  " PRIMARY KEY".toList.isSuffixOf (m.columnText d a).toList

/-- The text creates a table that has the attributes as columns, in the order of the catalog, and one of
these is the primary key. -/
structure Tabulated (m : Model) (d : Dialect) (text : String) : Prop where
  columns : text = "CREATE TABLE IF NOT EXISTS " ++ d.quoted m.tableName ++ " (" ++
    ", ".intercalate (m.attributes.map (m.columnText d)) ++ ");"
  named : ∀ a, ∃ kind, m.columnText d a = d.quoted a.name ++ " " ++ d.typeName a.type ++ kind
  key : ∃ key, key.name = m.primaryKey ∧ m.attributes.filter (m.writesKey d) = [key]

theorem columnText_eq (m : Model) (d : Dialect) (a : Attribute) : m.columnText d a =
    d.quoted a.name ++ " " ++ d.typeName a.type ++
      if a.name = m.primaryKey then d.keyOption a.type ++ " PRIMARY KEY"
      else if a.nullable then "" else " NOT NULL" := by
  unfold columnText Sql.ColumnDefinition.wording Sql.ColumnDefinition.ofAttribute
  cases a.nullable <;> simp

/-- Without its key a column ends in its type or in what it must have, and neither ends in a `Y`. -/
theorem getLast?_typeName (d : Dialect) (type : ValueType) (nullable : Bool) :
    (d.typeName type ++ if nullable then "" else " NOT NULL").toList.getLast? ≠ some 'Y' ∧
      (d.typeName type ++ if nullable then "" else " NOT NULL").toList ≠ [] := by
  cases d <;> cases type <;> cases nullable <;> decide +kernel

theorem writesKey_iff : m.writesKey d a = true ↔ a.name = m.primaryKey := by
  unfold writesKey
  rw [List.isSuffixOf_iff_suffix, columnText_eq]
  by_cases hkey : a.name = m.primaryKey
  · rw [if_pos hkey]
    refine iff_of_true ?_ hkey
    rw [← String.append_assoc, String.toList_append]
    exact List.suffix_append _ _
  · rw [if_neg hkey, String.append_assoc, String.toList_append]
    refine iff_of_false (fun hsuffix => ?_) hkey
    obtain ⟨hletter, hnonempty⟩ := getLast?_typeName d a.type a.nullable
    obtain ⟨before, hbefore⟩ := hsuffix
    have hlast := congrArg List.getLast? hbefore
    rw [List.getLast?_append, List.getLast?_append, List.getLast?_eq_some_getLast hnonempty] at hlast
    rw [List.getLast?_eq_some_getLast hnonempty] at hletter
    exact hletter hlast.symm

theorem Catalogued.filter_writesKey (h : m.Catalogued) :
    ∃ key, key.name = m.primaryKey ∧ m.attributes.filter (m.writesKey d) = [key] := by
  obtain ⟨key, hkey, hname⟩ := List.mem_map.mp h.key_mem
  obtain ⟨before, after, hsplit⟩ := List.append_of_mem hkey
  have hnodup := h.nodup
  rw [hsplit, List.map_append, List.map_cons, List.nodup_append, List.nodup_cons] at hnodup
  obtain ⟨-, ⟨hafter, -⟩, hbefore⟩ := hnodup
  refine ⟨key, hname, ?_⟩
  rw [hsplit, List.filter_eq_cons_iff]
  refine ⟨before, after, rfl, fun a ha hwrites => ?_, writesKey_iff.mpr hname, ?_⟩
  · have hsame : a.name = key.name := (writesKey_iff.mp hwrites).trans hname.symm
    exact hbefore _ (List.mem_map_of_mem ha) _ List.mem_cons_self hsame
  · rw [List.filter_eq_nil_iff]
    intro a ha hwrites
    have hsame : a.name = key.name := (writesKey_iff.mp hwrites).trans hname.symm
    exact hafter (hsame ▸ List.mem_map_of_mem ha)

theorem Catalogued.tabulated (h : m.Catalogued) (d : Dialect) :
    m.Tabulated d (Session.tableText m d) where
  columns := by
    have hcolumns : (Sql.lowerCreateTable m).columns.map (Sql.ColumnDefinition.wording d) =
        m.attributes.map (m.columnText d) := List.map_map
    show Sql.Template.render d 0 ((Sql.lowerCreateTable m).wording d) ++ ";" = _
    rw [Sql.CreateTable.wording, hcolumns]
    simp [Sql.lowerCreateTable, Sql.Template.render, String.append_assoc]
  named := fun a => ⟨_, columnText_eq m d a⟩
  key := h.filter_writesKey

end Model

/-! ## One table after the other -/

namespace Session

variable {s : Session} {cx : Context} {m : Model} {ms : List Model} {log : List Exchange}
  {outcome : Except Error Unit}

/-- The request for the table of a model, on a connection. -/
def tableRequest (cx : Context) (m : Model) (c : Connection) : Request :=
  .exec c.adapter cx (tableText m c.dialect) []

/-- The table of a model was created on the connection of the model. -/
def Created (s : Session) (cx : Context) (m : Model) (x : Exchange) : Prop :=
  ∃ c response, s.connections.get? m.connection = some c ∧ x = ⟨tableRequest cx m c, .ok response⟩

/-- How it ends for the models whose tables were not created: there are none, or the first one has no
connection and nothing is sent, or its table is refused. Nothing is sent for the models after it. -/
inductive Ends (s : Session) (cx : Context) : List Model → List Exchange → Except Error Unit → Prop
  | finished : Ends s cx [] [] (.ok ())
  | unconnected {m : Model} {later : List Model} : s.connections.get? m.connection = none →
    Ends s cx (m :: later) [] (.error (.of (.unknownConnection m.connection)))
  | refused {m : Model} {later : List Model} {c : Connection} {e : Error} :
    s.connections.get? m.connection = some c →
    Ends s cx (m :: later) [⟨tableRequest cx m c, .error e⟩] (.error e)

/-- The tables of the models in front are created in their order, and then it ends. -/
def Pushes (s : Session) (cx : Context) (ms : List Model) (log : List Exchange)
    (outcome : Except Error Unit) : Prop :=
  ∃ made rest answered last, ms = made ++ rest ∧ List.Forall₂ (s.Created cx) made answered ∧
    s.Ends cx rest last outcome ∧ log = answered ++ last

theorem createTable_runs (hm : s.registry.get m.name = .ok m)
    (hopen : ∀ c, s.connections.get? m.connection = some c → s.isClosed c = false)
    {reply : Except Error (Compiled × ExecResponse)} :
    (s.exec cx (.createTable m.name)).Runs log reply ↔
      (s.connections.get? m.connection = none ∧ log = [] ∧
          reply = .error (.of (.unknownConnection m.connection))) ∨
        ∃ c answer, s.connections.get? m.connection = some c ∧ log = [⟨tableRequest cx m c, answer⟩] ∧
          reply = answer.map fun response =>
            (⟨c, .createTable (Sql.lowerCreateTable m), tableText m c.dialect, []⟩, response) := by
  cases hc : s.connections.get? m.connection with
  | none =>
    have hlower : Sql.lower s.registry (.createTable m.name) = .ok (.createTable (Sql.lowerCreateTable m)) :=
      Sql.lower_eq_ok.mpr ⟨m, hm, rfl⟩
    have hrefused : s.compile (.createTable m.name) = .error (.of (.unknownConnection m.connection)) :=
      (Verdict.unconnected hlower hm hc).compile
    unfold exec
    rw [hrefused]
    simp [Dialogue.runs_pure, eq_comm]
  | some c =>
    rw [exec_runs_iff (compile_createTable hm hc) (hopen c hc)]
    simp [tableRequest]

theorem pushes_nil : s.Pushes cx [] log outcome ↔ log = [] ∧ outcome = .ok () := by
  constructor
  · rintro ⟨made, rest, answered, last, hsplit, hmade, hends, rfl⟩
    obtain ⟨rfl, rfl⟩ := List.append_eq_nil_iff.mp hsplit.symm
    cases hmade
    cases hends
    exact ⟨rfl, rfl⟩
  · rintro ⟨rfl, rfl⟩
    exact ⟨[], [], [], [], rfl, .nil, .finished, rfl⟩

theorem pushes_cons : s.Pushes cx (m :: ms) log outcome ↔
    (s.connections.get? m.connection = none ∧ log = [] ∧
        outcome = .error (.of (.unknownConnection m.connection))) ∨
      ∃ c, s.connections.get? m.connection = some c ∧
        ((∃ e, log = [⟨tableRequest cx m c, .error e⟩] ∧ outcome = .error e) ∨
          ∃ response later, log = ⟨tableRequest cx m c, .ok response⟩ :: later ∧
            s.Pushes cx ms later outcome) := by
  constructor
  · rintro ⟨made, rest, answered, last, hsplit, hmade, hends, rfl⟩
    cases hmade with
    | nil =>
      rw [List.nil_append] at hsplit
      subst hsplit
      cases hends with
      | unconnected hc => exact .inl ⟨hc, rfl, rfl⟩
      | refused hc => exact .inr ⟨_, hc, .inl ⟨_, rfl, rfl⟩⟩
    | cons hcreated hmade =>
      obtain ⟨c, response, hc, rfl⟩ := hcreated
      obtain ⟨rfl, rfl⟩ := List.cons.inj hsplit
      exact .inr ⟨c, hc, .inr ⟨response, _, rfl, _, _, _, _, rfl, hmade, hends, rfl⟩⟩
  · rintro (⟨hc, rfl, rfl⟩ | ⟨c, hc, ⟨e, rfl, rfl⟩ | ⟨response, later, rfl, hlater⟩⟩)
    · exact ⟨[], _, [], [], rfl, .nil, .unconnected hc, rfl⟩
    · exact ⟨[], _, [], _, rfl, .nil, .refused hc, rfl⟩
    · obtain ⟨made, rest, answered, last, rfl, hmade, hends, rfl⟩ := hlater
      exact ⟨m :: made, rest, _ :: answered, last, rfl, .cons ⟨c, response, hc, rfl⟩ hmade, hends, rfl⟩

theorem createTables_runs_iff (hms : ∀ m ∈ ms, s.registry.get m.name = .ok m)
    (hopen : ∀ name c, s.connections.get? name = some c → s.isClosed c = false) :
    (s.createTables cx ms).Runs log outcome ↔ s.Pushes cx ms log outcome := by
  induction ms generalizing log with
  | nil =>
    rw [pushes_nil, eq_comm (a := outcome)]
    exact Dialogue.runs_pure
  | cons m ms ih =>
    obtain ⟨hm, hrest⟩ := List.forall_mem_cons.mp hms
    rw [pushes_cons]
    refine Dialogue.runs_bind.trans ?_
    simp only [createTable_runs hm fun c hc => hopen _ c hc]
    constructor
    · rintro ⟨first, reply, second, rfl, ⟨hc, rfl, rfl⟩ | ⟨c, answer, hc, rfl, rfl⟩, hnext⟩
      · obtain ⟨rfl, rfl⟩ := Dialogue.runs_pure.mp hnext
        exact .inl ⟨hc, rfl, rfl⟩
      · cases answer with
        | error e =>
          obtain ⟨rfl, rfl⟩ := Dialogue.runs_pure.mp hnext
          exact .inr ⟨c, hc, .inl ⟨e, rfl, rfl⟩⟩
        | ok response => exact .inr ⟨c, hc, .inr ⟨response, second, rfl, (ih hrest).mp hnext⟩⟩
    · rintro (⟨hc, rfl, rfl⟩ | ⟨c, hc, ⟨e, rfl, rfl⟩ | ⟨response, later, rfl, hlater⟩⟩)
      · exact ⟨[], _, [], rfl, .inl ⟨hc, rfl, rfl⟩, .done _⟩
      · exact ⟨_, _, [], rfl, .inr ⟨c, .error e, hc, rfl, rfl⟩, .done _⟩
      · exact ⟨_, _, later, rfl, .inr ⟨c, .ok response, hc, rfl, rfl⟩, (ih hrest).mpr hlater⟩

theorem failure?_of_created {made : List Model} {answered : List Exchange}
    (h : List.Forall₂ (s.Created cx) made answered) : ∀ x ∈ answered, x.failure? = none := by
  induction h with
  | nil => exact List.forall_mem_nil _
  | cons hcreated _ ih =>
    obtain ⟨c, response, _, rfl⟩ := hcreated
    exact List.forall_mem_cons.mpr ⟨rfl, ih⟩

/-- It ends well exactly if a table was created for each model. -/
theorem Pushes.ok_iff (h : s.Pushes cx ms log outcome) :
    outcome = .ok () ↔ log.length = ms.length ∧ ∀ x ∈ log, x.failure? = none := by
  obtain ⟨made, rest, answered, last, rfl, hmade, hends, rfl⟩ := h
  have hlength : made.length = answered.length := hmade.length_eq
  cases hends with
  | finished =>
    rw [List.append_nil, List.append_nil]
    exact iff_of_true rfl ⟨hlength.symm, failure?_of_created hmade⟩
  | unconnected hc =>
    refine iff_of_false (fun hok => by cases hok) (fun hall => ?_)
    have hshort := hall.1
    rw [List.append_nil, List.length_append, List.length_cons] at hshort
    omega
  | refused hc =>
    refine iff_of_false (fun hok => by cases hok) (fun hall => ?_)
    have hanswer := hall.2 _ (List.mem_append_right _ List.mem_cons_self)
    cases hanswer

end Session

/-- However a session was used, pushing its schema creates the tables of its models in the order of their
definition, up to the first that cannot be created, and fails as that one does; it succeeds exactly if
all of them were created. Each text that is sent tabulates its model. -/
theorem History.reached_pushSchema {h : History} {drivers : List (String × Driver)}
    (reached : h.Reached drivers) (cx : Context) :
    Registry.empty.defineAll h.session.registry.models = .ok h.session.registry ∧
      (∀ log outcome, (h.session.pushSchema cx).Runs log outcome ↔
        h.session.Pushes cx h.session.registry.models log outcome) ∧
      (∀ log outcome, (h.session.pushSchema cx).Runs log outcome →
        (outcome = .ok () ↔
          log.length = h.session.registry.models.length ∧ ∀ x ∈ log, x.failure? = none)) ∧
      ∀ m ∈ h.session.registry.models, ∀ d, m.Tabulated d (Session.tableText m d) := by
  have hkept := reached.wellKept
  have hget : ∀ m ∈ h.session.registry.models, h.session.registry.get m.name = .ok m :=
    fun m hm => Registry.get_name hkept.nodup hm
  have hruns : ∀ log outcome, (h.session.pushSchema cx).Runs log outcome ↔
      h.session.Pushes cx h.session.registry.models log outcome :=
    fun log outcome => Session.createTables_runs_iff hget fun _ _ => reached.sound.isClosed_of_get?
  refine ⟨hkept.defineAll, hruns, fun log outcome hlog => ?_, fun m hm d => ?_⟩
  · exact ((hruns log outcome).mp hlog).ok_iff
  · exact (hkept.catalogued m hm).tabulated d

namespace Bookshop

/-- What is said about readers, who are kept on a connection of their own. -/
def readerClauses : List Clause := [.connection "archive", .attr { name := "name", type := .string }]

def reader : Model where
  name := "reader"
  attributes := [{ name := "id", type := .integer, nullable := false }, { name := "name", type := .string }]
  primaryKey := "id"
  associations := []
  connection := "archive"

/-- Readers are defined after books, and their connection was never opened. -/
def readership : History where
  session := { opened.session with registry := ⟨[book, reader]⟩ }
  handles := opened.handles
  log := opened.log

theorem reached_readership : readership.Reached drivers := by
  have hdefine : opened.session.define (.ofClauses "Reader" readerClauses) = .ok (reader, readership.session) := by
    decide +kernel
  exact reached_opened.define hdefine

/-- The table of books is created, and then the connection of readers is missed. -/
theorem readership_pushed : readership.Reached drivers ∧
    (readership.session.pushSchema background).Runs [created book]
      (.error (.of (.unknownConnection "archive"))) := by
  have hcreated : readership.session.Created background book (created book) :=
    ⟨⟨0, "primary", adapter 0⟩, ⟨0, none⟩, rfl, rfl⟩
  have hends : readership.session.Ends background [reader] [] (.error (.of (.unknownConnection "archive"))) :=
    .unconnected rfl
  refine ⟨reached_readership, ((History.reached_pushSchema reached_readership background).2.1 _ _).mpr ?_⟩
  exact ⟨[book], [reader], [created book], [], rfl, .cons hcreated .nil, hends, rfl⟩

end Bookshop

end RecordMapper
