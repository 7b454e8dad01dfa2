import RecordMapper.Error
import RecordMapper.Schema.Model

/-! # Registries of models

A registry holds the models that are defined, in the order of their definition and at most one of
each name. A model is found by its name or by any spelling of it. Associations name their targets,
so they are resolved against the registry as it is when they are used.
-/

namespace RecordMapper

/-- The models that are defined. -/
structure Registry where
  /-- The models, the oldest definition first. -/
  models : List Model
deriving DecidableEq

/-- An association with its target found. -/
structure ResolvedAssociation where
  /-- Who stores the key. -/
  kind : AssociationKind
  /-- The name under which the owner knows it. -/
  name : String
  /-- The model that declares it. -/
  owner : Model
  /-- The model it leads to. -/
  target : Model
  /-- The attribute that stores the key. -/
  foreignKey : String
deriving DecidableEq

namespace ResolvedAssociation

/-- The model that stores the key. -/
def foreignKeyModel (r : ResolvedAssociation) : Model :=
  match r.kind with
  | .belongsTo => r.owner
  | .hasMany => r.target

/-- The model whose primary key is stored. -/
def keyedModel (r : ResolvedAssociation) : Model :=
  match r.kind with
  | .belongsTo => r.target
  | .hasMany => r.owner

/-- The attribute of the owner that takes part. -/
def ownerKey (r : ResolvedAssociation) : String :=
  match r.kind with
  | .belongsTo => r.foreignKey
  | .hasMany => r.owner.primaryKey

/-- The attribute of the target that takes part. -/
def targetKey (r : ResolvedAssociation) : String :=
  match r.kind with
  | .belongsTo => r.target.primaryKey
  | .hasMany => r.foreignKey

end ResolvedAssociation

namespace Registry

/-- The registry without models. -/
def empty : Registry := ⟨[]⟩

/-- The model of exactly the given name. -/
def verbatim? (r : Registry) (name : String) : Option Model :=
  r.models.find? fun m => m.name == name

/-- The model of the given name or, failing that, of the name that it spells. -/
def find? (r : Registry) (name : String) : Option Model :=
  r.verbatim? name <|> r.verbatim? (Name.ofText name).snakeCase

/-- The model that a name spells; the error repeats the name as given. -/
def get (r : Registry) (name : String) : Except Error Model :=
  match r.find? name with
  | some m => .ok m
  | none => .error (.of (.unknownModel name))

/-- Whether a name spells a model. -/
def contains (r : Registry) (name : String) : Bool := (r.find? name).isSome

/-- The registry with one more model, unless one of that name is there. -/
def define (r : Registry) (m : Model) : Except Error Registry :=
  if (r.verbatim? m.name).isSome then .error (.of (.duplicateModel m.name))
  else .ok ⟨r.models ++ [m]⟩

/-- Finds the target of an association of `owner`. The model that stores the key must have the
attribute for it, and the model whose key is stored must have a primary key. -/
def resolve (r : Registry) (owner : Model) (association : String) :
    Except Error ResolvedAssociation :=
  match owner.association? association with
  | none => .error (.of (.unknownAssociation owner.name association))
  | some declared => do
    let target ← r.get declared.target
    let resolved : ResolvedAssociation :=
      ⟨declared.kind, declared.name, owner, target, declared.foreignKeyFor owner.name⟩
    let storing := resolved.foreignKeyModel
    if (storing.attribute? resolved.foreignKey).isNone then
      .error (.of (.missingForeignKey storing.name resolved.name resolved.foreignKey))
    else if resolved.keyedModel.primaryKeyAttribute?.isNone then
      .error (.of (.missingPrimaryKey resolved.keyedModel.name))
    else .ok resolved

end Registry

end RecordMapper
