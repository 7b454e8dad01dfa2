import RecordMapper.Sql.Statement
import RecordMapper.Sql.Template

/-! # The wording of SQL statements

How each statement reads in each dialect. Names are always quoted, with the quote character doubled
inside, so that no name can end early; values are never part of the text but go into holes.
-/

namespace RecordMapper

namespace Dialect

/-- The character around names. -/
def quoteMark : Dialect → Char
  | mysql => '\x60'
  | _ => '"'

/-- A quoted name. -/
def quoted (d : Dialect) (name : String) : String :=
  let inside := name.toList.flatMap fun c => if c = d.quoteMark then [c, c] else [c]
  String.ofList (d.quoteMark :: inside ++ [d.quoteMark])

/-- The name of a type. -/
def typeName : Dialect → ValueType → String
  | sqlite, .integer => "INTEGER"
  | _, .integer => "BIGINT"
  | sqlite, .float => "REAL"
  | postgresql, .float => "DOUBLE PRECISION"
  | mysql, .float => "DOUBLE"
  | _, .string => "TEXT"
  | _, .boolean => "BOOLEAN"

/-- What follows the type of a primary key. An integer key is given by the database; any other one
must be there. -/
def keyOption : Dialect → ValueType → String
  | sqlite, .integer => ""
  | postgresql, .integer => " GENERATED BY DEFAULT AS IDENTITY"
  | mysql, .integer => " AUTO_INCREMENT"
  | _, _ => " NOT NULL"

end Dialect

namespace Sql

/-! ## Parts of statements -/

/-- A column, with its table if it has one. -/
def Column.wording (d : Dialect) (c : Column) : String :=
  match c.table? with
  | some table => d.quoted table ++ "." ++ d.quoted c.name
  | none => d.quoted c.name

/-- The pieces of a raw condition with the arguments between them. An argument that is not there
leaves no hole. -/
def weave : List String → List Value → Template
  | [], _ => []
  | [piece], _ => [.text piece]
  | piece :: pieces, [] => .text piece :: weave pieces []
  | piece :: pieces, value :: values => .text piece :: .hole value :: weave pieces values

/-- A condition; a raw one stands in parentheses. -/
def Condition.wording (d : Dialect) : Condition → Template
  | equals column value => [.text (column.wording d ++ " = "), .hole value]
  | isNull column => [.text (column.wording d ++ " IS NULL")]
  | raw fragment args => .text "(" :: weave (Fragment.pieces fragment) args ++ [.text ")"]

/-- A column that is given a value. -/
def assignmentWording (d : Dialect) (entry : String × Value) : Template :=
  [.text (d.quoted entry.1 ++ " = "), .hole entry.2]

/-- A column with a direction. -/
def orderingWording (d : Dialect) (entry : Column × Direction) : String :=
  entry.1.wording d ++ match entry.2 with
    | .ascending => " ASC"
    | .descending => " DESC"

/-- A joined table. -/
def Join.wording (d : Dialect) (j : Join) : String :=
  "INNER JOIN " ++ d.quoted j.table ++ " ON " ++ j.left.wording d ++ " = " ++ j.right.wording d

/-- A column of a new table. -/
def ColumnDefinition.wording (d : Dialect) (c : ColumnDefinition) : String :=
  d.quoted c.name ++ " " ++ d.typeName c.type ++
    if c.primaryKey then d.keyOption c.type ++ " PRIMARY KEY"
    else if c.notNull then " NOT NULL"
    else ""

/-! ## Statements -/

/-- A clause with its keyword in front, left out if there is nothing in it. -/
def clause (keyword separator : String) (parts : List Template) : Template :=
  if parts.isEmpty then [] else .text keyword :: Template.separated separator parts

/-- The wording of a select. -/
def Select.wording (d : Dialect) (s : Select) : Template :=
  .text "SELECT " :: .text (", ".intercalate (s.columns.map (Column.wording d))) ::
  .text (" FROM " ++ d.quoted s.table) ::
  s.joins.map (fun j => .text (" " ++ j.wording d)) ++
  clause " WHERE " " AND " (s.filter.map (Condition.wording d)) ++
  clause " GROUP BY " ", " (s.groupBy.map fun c => [.text (c.wording d)]) ++
  clause " ORDER BY " ", " (s.orderBy.map fun o => [.text (orderingWording d o)]) ++
  match s.limit with
  | some rows => [.text (" LIMIT " ++ toString rows)]
  | none => []

/-- The wording of an insert. A row without given columns has a wording of its own. -/
def Insert.wording (d : Dialect) (i : Insert) : Template :=
  if i.columns.isEmpty then
    [.text ("INSERT INTO " ++ d.quoted i.table ++
      if d = .mysql then " () VALUES ()" else " DEFAULT VALUES")]
  else
    .text ("INSERT INTO " ++ d.quoted i.table ++ " (" ++
      ", ".intercalate (i.columns.map d.quoted) ++ ") VALUES (") ::
    Template.separated ", " (i.values.map fun value => [.hole value]) ++ [.text ")"]

/-- The wording of an update. -/
def Update.wording (d : Dialect) (u : Update) : Template :=
  .text ("UPDATE " ++ d.quoted u.table ++ " SET ") ::
  Template.separated ", " (u.assignments.map (assignmentWording d)) ++
  .text " WHERE " :: assignmentWording d u.key

/-- The wording of a delete. -/
def Delete.wording (d : Dialect) (x : Delete) : Template :=
  .text ("DELETE FROM " ++ d.quoted x.table ++ " WHERE ") :: assignmentWording d x.key

/-- The wording of the creation of a table. -/
def CreateTable.wording (d : Dialect) (c : CreateTable) : Template :=
  [.text ("CREATE TABLE " ++ (if c.ifNotExists then "IF NOT EXISTS " else "") ++ d.quoted c.table ++
    " (" ++ ", ".intercalate (c.columns.map (ColumnDefinition.wording d)) ++ ")")]

namespace Statement

/-- The wording of a statement, without the semicolon at its end. -/
def wording (d : Dialect) : Statement → Template
  | select s => s.wording d
  | insert i => i.wording d
  | update u => u.wording d
  | delete x => x.wording d
  | createTable c => c.wording d

/-- The text of a statement when `params` are bound already, and the parameters bound after it. -/
def serialize (d : Dialect) (s : Statement) (params : List Value) : String × List Value :=
  ((s.wording d).render d params.length ++ ";", params ++ (s.wording d).params)

end Statement

end Sql

end RecordMapper
