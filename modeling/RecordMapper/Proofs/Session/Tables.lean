import RecordMapper.Proofs.Schema.Definitions
import RecordMapper.Proofs.Schema.Plural
import RecordMapper.Proofs.Session.History
import RecordMapper.Proofs.Session.Operations
import RecordMapper.Proofs.Sql.Parameters

/-!
# Tables of a schema

Pushing a schema creates the tables of the models in the order of their definition, each on the
connection of its model, and stops where one cannot be created. Definitions only keep the names of the
models apart, not those of the tables: a connection gets each table once exactly if no two of its models
have names that differ in number only (`Session.pushSchema_tables`).
-/

namespace RecordMapper

namespace Session

variable {s : Session} {cx : Context} {m : Model} {ms : List Model} {log : List Exchange}
  {outcome : Except Error Unit}

/-- The text that creates the table of a model. -/
def tableText (m : Model) (d : Dialect) : String :=
  ((Sql.Statement.createTable (Sql.lowerCreateTable m)).serialize d []).1

/-- The request is for the table of the model, on the connection of the model. -/
def Creates (s : Session) (cx : Context) (m : Model) (x : Exchange) : Prop :=
  ∃ c, s.connections.get? m.connection = some c ∧
    x.request = .exec c.adapter cx (tableText m c.dialect) []

theorem compile_createTable (hm : s.registry.get m.name = .ok m) {c : Connection}
    (hc : s.connections.get? m.connection = some c) : s.compile (.createTable m.name) =
      .ok ⟨c, .createTable (Sql.lowerCreateTable m), tableText m c.dialect, []⟩ := by
  have hlower : Sql.lower s.registry (.createTable m.name) =
      .ok (.createTable (Sql.lowerCreateTable m)) :=
    Sql.lower_eq_ok.mpr ⟨m, hm, rfl⟩
  have hbound := Sql.Statement.params_wording c.dialect (Sql.balanced_of_lower hlower)
  exact compile_eq_ok.mpr ⟨hlower, ⟨m, hm, hc⟩, Prod.ext rfl hbound⟩

theorem creates_of_compile (cx : Context) (hm : s.registry.get m.name = .ok m) {compiled : Compiled}
    (h : s.compile (.createTable m.name) = .ok compiled) (answer : Except Error ExecResponse) :
    s.Creates cx m ⟨.exec compiled.connection.adapter cx compiled.sql compiled.params, answer⟩ := by
  obtain ⟨_, ⟨m', hm', hconnection⟩, _⟩ := compile_eq_ok.mp h
  obtain rfl : m = m' := Except.ok.inj (hm.symm.trans hm')
  have hcompiled := Except.ok.inj ((compile_createTable hm hconnection).symm.trans h)
  refine ⟨compiled.connection, hconnection, ?_⟩
  rw [← hcompiled]

/-- The tables are created one after the other, up to the first failure. -/
theorem createTables_runs (hms : ∀ m ∈ ms, s.registry.get m.name = .ok m)
    (h : (s.createTables cx ms).Runs log outcome) :
    ∃ sent, sent <+: ms ∧ List.Forall₂ (s.Creates cx) sent log ∧ (outcome = .ok () → sent = ms) := by
  induction ms generalizing log with
  | nil =>
    obtain ⟨rfl, _⟩ := Dialogue.runs_pure.mp h
    exact ⟨[], List.prefix_rfl, .nil, fun _ => rfl⟩
  | cons m ms ih =>
    obtain ⟨hm, hrest⟩ := List.forall_mem_cons.mp hms
    obtain ⟨first, reply, second, rfl, hexec, hnext⟩ := Dialogue.runs_bind.mp h
    rcases exec_runs hexec with ⟨rfl, e, rfl⟩ | ⟨compiled, answer, hcompile, _, rfl, rfl⟩
    · obtain ⟨rfl, rfl⟩ := Dialogue.runs_pure.mp hnext
      exact ⟨[], List.nil_prefix, .nil, fun hok => by cases hok⟩
    · have hcreates := creates_of_compile cx hm hcompile answer
      cases answer with
      | error e =>
        obtain ⟨rfl, rfl⟩ := Dialogue.runs_pure.mp hnext
        exact ⟨[m], ⟨ms, rfl⟩, .cons hcreates .nil, fun hok => by cases hok⟩
      | ok response =>
        obtain ⟨sent, hprefix, hsent, hall⟩ := ih hrest hnext
        refine ⟨m :: sent, List.cons_prefix_cons.mpr ⟨rfl, hprefix⟩, .cons hcreates hsent, fun hok => ?_⟩
        rw [hall hok]

/-- A table that could be created is followed by the others. -/
theorem createTables_runs_cons (hm : s.registry.get m.name = .ok m) {c : Connection}
    (hc : s.connections.get? m.connection = some c) (hopen : s.isClosed c = false)
    (response : ExecResponse) (h : (s.createTables cx ms).Runs log outcome) :
    (s.createTables cx (m :: ms)).Runs
      (⟨.exec c.adapter cx (tableText m c.dialect) [], .ok response⟩ :: log) outcome :=
  Dialogue.runs_bind.mpr ⟨_, _, log, rfl,
    exec_runs_of_compile (compile_createTable hm hc) hopen (.ok response), h⟩

/-- The names of the tables of those of the models that are bound to a connection. -/
def tablesOn (name : String) (ms : List Model) : List String :=
  (ms.filter fun m => m.connection = name).map Model.tableName

/-- No two of the models that are bound to a connection have names that differ in number only. -/
def ApartOn (name : String) (ms : List Model) : Prop :=
  (ms.filter fun m => m.connection = name).Pairwise fun m m' => ¬m.SameButNumber m'

/-- The models that were defined have tables of their own on a connection exactly if no two of those
bound to it differ in the number of their names only, and so have the tables that are pushed there: one
for each model, in the order of the definitions, up to the first that cannot be created. -/
theorem pushSchema_tables (hdefined : Registry.empty.defineAll ms = .ok s.registry)
    (h : (s.pushSchema cx).Runs log outcome) :
    (∀ name, (tablesOn name ms).Nodup ↔ ApartOn name ms) ∧
      ∃ sent, sent <+: ms ∧ List.Forall₂ (s.Creates cx) sent log ∧ (outcome = .ok () → sent = ms) ∧
        ∀ name, (tablesOn name sent).Nodup ↔ ApartOn name sent := by
  obtain ⟨hmodels, hnodup⟩ := Registry.models_of_defineAll hdefined List.nodup_nil
  have hget : ∀ m ∈ s.registry.models, s.registry.get m.name = .ok m :=
    fun m hm => Registry.get_name hnodup hm
  obtain ⟨sent, hprefix, hsent, hall⟩ := createTables_runs hget h
  rw [hmodels] at hprefix hall
  exact ⟨fun _ => Model.tableNames_nodup_iff, sent, hprefix, hsent, hall,
    fun _ => Model.tableNames_nodup_iff⟩

end Session

namespace Bookshop

/-- A model that is named for several books. -/
def books : Model where
  name := "books"
  attributes := [{ name := "id", type := .integer, nullable := false }, { name := "year", type := .integer }]
  primaryKey := "id"
  associations := []
  connection := "primary"

theorem books_declared : books.Declared :=
  ⟨"books", [.attr { name := "year", type := .integer }], Declaration.build_eq_ok.mpr (by decide +kernel)⟩

theorem tableName_author : author.tableName = "authors" := by decide +kernel

theorem tableName_book : book.tableName = "books" := by decide +kernel

theorem tableName_books : books.tableName = "books" := by decide +kernel

/-- A session that knows the given models. -/
def knowing (ms : List Model) : Session :=
  { Session.withDrivers drivers with registry := ⟨ms⟩ }.register "primary" (adapter 0)

/-- The creation of a table that went well. -/
def created (m : Model) : Exchange :=
  ⟨.exec (adapter 0) background (Session.tableText m .postgresql) [], .ok ⟨0, none⟩⟩

theorem runs_pushSchema {m m' : Model} (hnames : m.name ≠ m'.name) (hm : m.connection = "primary")
    (hm' : m'.connection = "primary") :
    ((knowing [m, m']).pushSchema background).Runs [created m, created m'] (.ok ()) := by
  have hnodup : ([m, m'].map Model.name).Nodup := by simpa using hnames
  have hopen : ∀ {name}, name = "primary" →
      (knowing [m, m']).connections.get? name = some ⟨0, "primary", adapter 0⟩ := by
    rintro _ rfl
    rfl
  have hget : (knowing [m, m']).registry.get m.name = .ok m :=
    Registry.get_name hnodup List.mem_cons_self
  have hget' : (knowing [m, m']).registry.get m'.name = .ok m' :=
    Registry.get_name hnodup (List.mem_cons_of_mem _ List.mem_cons_self)
  exact Session.createTables_runs_cons hget (hopen hm) rfl ⟨0, none⟩
    (Session.createTables_runs_cons hget' (hopen hm') rfl ⟨0, none⟩ (.done _))

theorem pushSchema_apart :
    Registry.empty.defineAll [author, book] = .ok (knowing [author, book]).registry ∧
      ((knowing [author, book]).pushSchema background).Runs [created author, created book] (.ok ()) ∧
      Session.tablesOn "primary" [author, book] = ["authors", "books"] ∧
      Session.ApartOn "primary" [author, book] := by
  have hdefined : Registry.empty.defineAll [author, book] = .ok (knowing [author, book]).registry := rfl
  have hruns : ((knowing [author, book]).pushSchema background).Runs [created author, created book]
      (.ok ()) :=
    runs_pushSchema (by decide) rfl rfl
  have htables : Session.tablesOn "primary" [author, book] = ["authors", "books"] := by
    rw [← tableName_author, ← tableName_book]
    rfl
  refine ⟨hdefined, hruns, htables, ((Session.pushSchema_tables hdefined hruns).1 "primary").mp ?_⟩
  rw [htables]
  decide

/-- A book and books can both be defined, and then one table is created twice. -/
theorem books_share_table :
    book.Declared ∧ books.Declared ∧ book ≠ books ∧ book.connection = books.connection ∧
      Registry.empty.defineAll [book, books] = .ok (knowing [book, books]).registry ∧
      book.tableName = books.tableName ∧
      ((knowing [book, books]).pushSchema background).Runs [created book, created books] (.ok ()) :=
  ⟨⟨_, _, build_book⟩, books_declared, by decide, rfl, rfl, tableName_book.trans tableName_books.symm,
    runs_pushSchema (by decide) rfl rfl⟩

end Bookshop

end RecordMapper
