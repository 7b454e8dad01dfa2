import RecordMapper.Error
import RecordMapper.Url.Url

/-! # Database configurations

Which adapter to use and which database to open with it. A configuration can be given as a URL: the
scheme names the adapter, and for SQLite the rest spells the path of the file, while other adapters
get the whole URL.
-/

namespace RecordMapper

/-- Which adapter to use and which database to open. -/
structure DatabaseConfig where
  /-- The kind of adapter. -/
  adapter : String
  /-- The database, in the words of the adapter. -/
  database : String := ""
deriving DecidableEq

namespace DatabaseConfig

/-- The database that a URL names. -/
def databaseOf (u : Url) : String :=
  if u.scheme = "sqlite" then
    if u.isOpaque then u.path else u.host?.getD "" ++ u.path
  else u.text

/-- The configuration that a URL spells. -/
def ofUrl (s : String) : Except Error DatabaseConfig :=
  match Url.parse s with
  | .error fault => .error (.of (.invalidDatabaseConfig fault.message))
  | .ok u =>
    if (databaseOf u).isEmpty then
      .error (.of (.invalidDatabaseConfig ("missing database in `" ++ u.text ++ "`")))
    else .ok ⟨u.scheme, databaseOf u⟩

end DatabaseConfig

end RecordMapper
