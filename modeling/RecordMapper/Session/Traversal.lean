import RecordMapper.Session.Relation

/-! # Following associations

From a record to the record it belongs to, or to the relation of the records that belong to it.
-/

namespace RecordMapper.Record

/-- The value under a name, if there is one. -/
def present? (r : Record) (name : String) : Option Value :=
  match r.values.get? name with
  | some value => if value.isNull then none else some value
  | none => none

/-- The error of asking for one record where there are many. -/
def notBelongsTo (r : Record) (association : String) : Error :=
  .of (.compilation ("association `" ++ association ++ "` of model `" ++ r.model.name ++
    "` is has-many; use `collection`"))

/-- The error of asking for many records where there is one. -/
def notHasMany (r : Record) (association : String) : Error :=
  .of (.compilation ("association `" ++ association ++ "` of model `" ++ r.model.name ++
    "` is belongs-to; use `association`"))

/-- The record that this one belongs to. Without a foreign key there is none, and nothing is asked.
-/
def association (s : Session) (cx : Context) (r : Record) (name : String) :
    Dialogue (Except Error (Option Record)) :=
  match s.registry.resolve r.model name with
  | .error e => return .error e
  | .ok resolved =>
    if resolved.kind = .hasMany then return .error (r.notBelongsTo name)
    else match r.present? resolved.ownerKey with
      | none => return .ok none
      | some key => (Relation.whereEquals resolved.target resolved.targetKey key).first s cx

/-- The relation of the records that belong to this one. -/
def collection (s : Session) (r : Record) (name : String) : Except Error Relation := do
  let resolved ← s.registry.resolve r.model name
  if resolved.kind = .belongsTo then throw (r.notHasMany name)
  match r.present? resolved.ownerKey with
  | none => throw (.of (.missingPrimaryKey r.model.name))
  | some key => return Relation.whereEquals resolved.target resolved.targetKey key

end RecordMapper.Record
