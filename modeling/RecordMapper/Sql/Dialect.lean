/-! # SQL dialects

The three dialects of SQL that statements are written in, and what the databases that speak them can
do.
-/

namespace RecordMapper

/-- A dialect of SQL. -/
inductive Dialect
  /-- The dialect of SQLite. -/
  | sqlite
  /-- The dialect of PostgreSQL. -/
  | postgresql
  /-- The dialect of MySQL. -/
  | mysql
deriving DecidableEq, Inhabited

namespace Dialect

/-- All dialects. -/
def all : List Dialect := [sqlite, postgresql, mysql]

/-- The name of a dialect. -/
def name : Dialect → String
  | sqlite => "sqlite"
  | postgresql => "postgresql"
  | mysql => "mysql"

/-- The dialect with the given name. -/
def ofName? (name : String) : Option Dialect := all.find? fun d => d.name == name

end Dialect

/-- What a database can do. -/
structure Capability where
  /-- The dialect it speaks. -/
  dialect : Dialect
  /-- Whether it has truth values of its own. -/
  nativeBoolean : Bool
  /-- Whether it reports the key that it gave to an inserted row. -/
  lastInsertKey : Bool
deriving DecidableEq

/-- What a database of the dialect can do. -/
def Capability.of : Dialect → Capability
  | .sqlite => ⟨.sqlite, false, true⟩
  | .postgresql => ⟨.postgresql, true, false⟩
  | .mysql => ⟨.mysql, false, true⟩

end RecordMapper
