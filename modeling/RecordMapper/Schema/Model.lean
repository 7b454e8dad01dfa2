import RecordMapper.Schema.Name
import RecordMapper.Value
import RecordMapper.ValueType

/-! # Models

A model describes the records of one table: its catalog of attributes, one of which is the primary
key, and its associations with other models. Models refer to each other by name only, so they can be
declared in any order.
-/

namespace RecordMapper

/-- An attribute of a model. -/
structure Attribute where
  /-- The name, used verbatim as the name of the column. -/
  name : String
  /-- The type of its values. -/
  type : ValueType
  /-- Whether the value may be missing. -/
  nullable : Bool := true
  /-- What a new record gets if it gives no value. -/
  default? : Option Value := none
deriving DecidableEq

/-- Which of two associated models stores the key of the other. -/
inductive AssociationKind
  /-- The owner stores the key of the target. -/
  | belongsTo
  /-- The target stores the key of the owner. -/
  | hasMany
deriving DecidableEq

/-- The name of a kind of association. -/
def AssociationKind.name : AssociationKind → String
  | belongsTo => "belongs_to"
  | hasMany => "has_many"

/-- An association of a model, its owner, with a target. -/
structure Association where
  /-- Who stores the key. -/
  kind : AssociationKind
  /-- The name under which the owner knows it. -/
  name : String
  /-- The name of the target model. -/
  target : String
  /-- The attribute that stores the key, where it is not the one that the names suggest. -/
  foreignKey? : Option String := none
deriving DecidableEq

namespace Association

/-- The owner stores the key of one record of the model that the name spells. -/
def belongsTo (name : String) : Association :=
  ⟨.belongsTo, name, (Name.ofText name).snakeCase, none⟩

/-- Records of the model that the name is the plural of store the key of the owner. -/
def hasMany (name : String) : Association := ⟨.hasMany, name, (Name.ofText name).singular, none⟩

/-- The association with another target. -/
def withTarget (a : Association) (target : String) : Association :=
  { a with target := (Name.ofText target).snakeCase }

/-- The association with a foreign key of its own. -/
def withForeignKey (a : Association) (foreignKey : String) : Association :=
  { a with foreignKey? := some foreignKey }

/-- The attribute that stores the key, for an owner of the given name. -/
def foreignKeyFor (a : Association) (owner : String) : String :=
  match a.foreignKey? with
  | some foreignKey => foreignKey
  | none =>
    match a.kind with
    | .belongsTo => (Name.ofText a.target).foreignKey
    | .hasMany => (Name.ofText owner).foreignKey

end Association

/-- The description of the records of one table. -/
structure Model where
  /-- The name, in lower case with underscores. -/
  name : String
  /-- The catalog of attributes. -/
  attributes : List Attribute
  /-- The name of the attribute by which records are told apart. -/
  primaryKey : String
  /-- The associations with other models. -/
  associations : List Association
  /-- The name of the connection on which the table lives. -/
  connection : String
deriving DecidableEq

namespace Model

/-- The name of the table. -/
def tableName (m : Model) : String := (Name.ofText m.name).plural

/-- The attribute of the given name. -/
def attribute? (m : Model) (name : String) : Option Attribute :=
  m.attributes.find? fun a => a.name == name

/-- The attribute by which records are told apart. -/
def primaryKeyAttribute? (m : Model) : Option Attribute := m.attribute? m.primaryKey

/-- The association of the given name; failing that, the first one whose name has the same singular.
-/
def association? (m : Model) (name : String) : Option Association :=
  (m.associations.find? fun a => a.name == name) <|>
    m.associations.find? fun a => (Name.ofText a.name).singular == (Name.ofText name).singular

/-- The shape of a model under inspection. -/
def shape (m : Model) : Text.Shape :=
  .fields "Model"
    [("name", .text m.name), ("primary_key", .text m.primaryKey),
      ("connection", .text m.connection)]

end Model

end RecordMapper
