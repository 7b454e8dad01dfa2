import RecordMapper.Query.Query
import RecordMapper.Schema.Model

/-! # SQL statements

Statements about tables and columns, with every name settled and every value cast. They hold all
that the text of a statement depends on, apart from the dialect.
-/

namespace RecordMapper.Sql

/-- A column, alone or together with its table. -/
structure Column where
  /-- The table, where columns of several tables are in play. -/
  table? : Option String
  /-- The name of the column. -/
  name : String
deriving DecidableEq

/-- The column together with its table. -/
def Column.qualified (table name : String) : Column := ⟨some table, name⟩

/-- A condition of a select. -/
inductive Condition
  /-- The column has a value. -/
  | equals (column : Column) (value : Value)
  /-- The column has no value. -/
  | isNull (column : Column)
  /-- A raw condition with its arguments. -/
  | raw (fragment : String) (args : List Value)
deriving DecidableEq

/-- A joined table and the two columns that must agree. -/
structure Join where
  /-- The joined table. -/
  table : String
  /-- The column of the joined table. -/
  left : Column
  /-- The column that it must equal. -/
  right : Column
deriving DecidableEq

/-- Asks for rows. -/
structure Select where
  /-- The table. -/
  table : String
  /-- The columns of the result. -/
  columns : List Column
  /-- The joined tables. -/
  joins : List Join
  /-- The conditions, all of which must hold. -/
  filter : List Condition
  /-- The columns to group by. -/
  groupBy : List Column
  /-- The orderings, the weightiest first. -/
  orderBy : List (Column × Direction)
  /-- The greatest number of rows. -/
  limit : Option Nat
deriving DecidableEq

/-- Adds a row. -/
structure Insert where
  /-- The table. -/
  table : String
  /-- The columns that are given. -/
  columns : List String
  /-- The values of these columns. -/
  values : List Value
deriving DecidableEq

/-- The given columns with their values. -/
def Insert.row (i : Insert) : List (String × Value) := i.columns.zip i.values

/-- Changes the rows with a key. -/
structure Update where
  /-- The table. -/
  table : String
  /-- The columns that change, with their new values. -/
  assignments : List (String × Value)
  /-- The column of the key and its value. -/
  key : String × Value
deriving DecidableEq

/-- Removes the rows with a key. -/
structure Delete where
  /-- The table. -/
  table : String
  /-- The column of the key and its value. -/
  key : String × Value
deriving DecidableEq

/-- A column of a new table. -/
structure ColumnDefinition where
  /-- The name of the column. -/
  name : String
  /-- The type of its values. -/
  type : ValueType
  /-- Whether it must have a value. -/
  notNull : Bool
  /-- Whether it is the primary key. -/
  primaryKey : Bool
deriving DecidableEq

/-- Creates a table. -/
structure CreateTable where
  /-- The table. -/
  table : String
  /-- The columns. -/
  columns : List ColumnDefinition
  /-- Whether a table of that name is left alone. -/
  ifNotExists : Bool
deriving DecidableEq

/-- An SQL statement. -/
inductive Statement
  /-- Asks for rows. -/
  | select (s : Select)
  /-- Adds a row. -/
  | insert (i : Insert)
  /-- Changes rows. -/
  | update (u : Update)
  /-- Removes rows. -/
  | delete (d : Delete)
  /-- Creates a table. -/
  | createTable (c : CreateTable)
deriving DecidableEq

end RecordMapper.Sql
