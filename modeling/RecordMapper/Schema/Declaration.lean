import RecordMapper.Error
import RecordMapper.Schema.Model

/-! # Declaring a model

A declaration collects what is said about a model, clause by clause, and is then checked as a whole.
The name must have a word in it and no two attributes or associations may share a name. A primary
key that is not among the attributes is put in front of them as an integer that is never missing.
-/

namespace RecordMapper

/-- What has been said about a model. -/
structure Declaration where
  /-- The name, in lower case with underscores. -/
  name : String
  /-- The attributes, in the order of their declaration. -/
  attributes : List Attribute := []
  /-- The name of the primary key, if one was given. -/
  primaryKey? : Option String := none
  /-- The associations, in the order of their declaration. -/
  associations : List Association := []
  /-- The name of the connection, if one was given. -/
  connection? : Option String := none
deriving DecidableEq

/-- One thing that can be said about a model. -/
inductive Clause
  /-- It has an attribute. -/
  | attr (a : Attribute)
  /-- Its primary key has this name. -/
  | primaryKey (name : String)
  /-- It has an association. -/
  | association (a : Association)
  /-- Its table lives on this connection. -/
  | connection (name : String)

namespace Declaration

/-- The declaration that says only the name. -/
def named (name : String) : Declaration where
  name := (Name.ofText name).snakeCase

/-- The declaration with one more clause. Of several primary keys or connections the last one
counts. -/
def say (d : Declaration) : Clause → Declaration
  | .attr a => { d with attributes := d.attributes ++ [a] }
  | .primaryKey name => { d with primaryKey? := some name }
  | .association a => { d with associations := d.associations ++ [a] }
  | .connection name => { d with connection? := some name }

/-- The declaration of a name with the given clauses. -/
def ofClauses (name : String) (clauses : List Clause) : Declaration :=
  clauses.foldl say (named name)

/-- The first of the names that has occurred before, `seen` being the names in front of them. -/
def firstRepeated (seen : List String) : List String → Option String
  | [] => none
  | name :: names => if seen.contains name then some name else firstRepeated (name :: seen) names

/-- The name of the primary key if none is given. -/
def defaultPrimaryKey : String := "id"

/-- The name of the connection if none is given. -/
def defaultConnection : String := "primary"

/-- The name of the primary key. -/
def primaryKey (d : Declaration) : String := d.primaryKey?.getD defaultPrimaryKey

/-- The catalog: the attributes, with a primary key in front if none of them is it. -/
def catalog (d : Declaration) : List Attribute :=
  if d.attributes.any fun a => a.name == d.primaryKey then d.attributes
  else { name := d.primaryKey, type := .integer, nullable := false } :: d.attributes

/-- Checks the declaration and gives the model that it describes. -/
def build (d : Declaration) : Except Error Model :=
  if d.name.isEmpty then
    .error (.of (.invalidSchema "model name must not be empty"))
  else match firstRepeated [] (d.attributes.map Attribute.name) with
    | some name => .error (.of (.invalidSchema
        ("attribute `" ++ name ++ "` is declared twice on model `" ++ d.name ++ "`")))
    | none => match firstRepeated [] (d.associations.map Association.name) with
      | some name => .error (.of (.invalidSchema
          ("association `" ++ name ++ "` is declared twice on model `" ++ d.name ++ "`")))
      | none => .ok {
          name := d.name
          attributes := d.catalog
          primaryKey := d.primaryKey
          associations := d.associations
          connection := d.connection?.getD defaultConnection }

end Declaration

end RecordMapper
