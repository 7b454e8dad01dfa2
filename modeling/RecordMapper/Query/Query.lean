import RecordMapper.Data.Trail
import RecordMapper.Query.Fragment
import RecordMapper.Text.Blank
import RecordMapper.Value

/-! # Queries

A query asks for records of one model. It starts as the query for all of them and is refined step by
step; every step gives a new query and leaves the old one as it was. Conditions and orderings add
up, names to select, group by or join are kept once, and the last limit counts.
-/

namespace RecordMapper

open Text

/-- A condition on records. -/
inductive Predicate
  /-- A raw condition with its arguments. -/
  | raw (fragment : String) (args : List Value)
  /-- An attribute has a value. -/
  | equals (name : String) (value : Value)
deriving DecidableEq

namespace Predicate

/-- The condition that a fragment and its arguments stand for. A bare attribute name with one
argument is short for equality. -/
def ofFragment (fragment : String) (args : List Value) : Predicate :=
  let name := trim fragment.toList
  match args with
  | [value] =>
    if Fragment.isIdentifier name then .equals (String.ofList name) value else .raw fragment args
  | _ => .raw fragment args

/-- Whether the condition is an equality. -/
def isEquality : Predicate → Bool
  | equals _ _ => true
  | raw _ _ => false

/-- The number of arguments that the text of the condition takes. -/
def placeholders : Predicate → Nat
  | raw fragment _ => Fragment.placeholders fragment
  | equals _ _ => 0

/-- The shape of a condition under inspection. -/
def shape : Predicate → Shape
  | raw fragment args =>
    .fields "Sql" [("fragment", .text fragment), ("args", .list (args.map Value.shape))]
  | equals name value => .fields "Eq" [("attribute", .text name), ("value", value.shape)]

end Predicate

/-- The direction of an ordering. -/
inductive Direction
  /-- Small values first. -/
  | ascending
  /-- Great values first. -/
  | descending
deriving DecidableEq

/-- An ordering by an attribute. -/
structure OrderBy where
  /-- The name of the attribute. -/
  name : String
  /-- The direction. -/
  direction : Direction
deriving DecidableEq

namespace Direction

/-- The word for a direction. -/
def name : Direction → String
  | ascending => "asc"
  | descending => "desc"

/-- The direction that a word names, in either case. -/
def ofName? (word : String) : Option Direction :=
  match word.toLower with
  | "asc" => some ascending
  | "desc" => some descending
  | _ => none

end Direction

namespace OrderBy

/-- The ordering that a text describes: an attribute, and a direction after a blank. Without a
direction as its last word the whole text is the attribute. -/
def ofText (s : String) : OrderBy :=
  let text := trim s.toList
  let backwards := text.reverse
  let lastWord := (backwards.takeWhile (! isBlank ·)).reverse
  let beforeWord := backwards.dropWhile (! isBlank ·)
  match beforeWord, Direction.ofName? (String.ofList lastWord) with
  | _ :: rest, some direction => ⟨String.ofList (trimEnd rest.reverse), direction⟩
  | _, _ => ⟨String.ofList text, .ascending⟩

/-- The shape of an ordering under inspection. -/
def shape (o : OrderBy) : Shape :=
  .fields "OrderBy" [("attribute", .text o.name),
    ("direction", .word (match o.direction with | .ascending => "Asc" | .descending => "Desc"))]

end OrderBy

/-- A query for records of one model. -/
structure Query where
  /-- The name of the model. -/
  model : String
  /-- The conditions, all of which must hold. -/
  filter : Trail Predicate := .empty
  /-- The attributes to select; all of them if there are none. -/
  select : Trail String := .empty
  /-- The attributes to group by. -/
  group : Trail String := .empty
  /-- The associations to join. -/
  joins : Trail String := .empty
  /-- The orderings, the weightiest first. -/
  orderBy : Trail OrderBy := .empty
  /-- The greatest number of rows. -/
  limit : Option Nat := none
deriving DecidableEq

/-- One step in refining a query. -/
inductive Refinement
  /-- Adds a condition. -/
  | filter (predicate : Predicate)
  /-- Adds attributes to select. -/
  | select (names : List String)
  /-- Adds attributes to group by. -/
  | group (names : List String)
  /-- Adds an association to join. -/
  | join (name : String)
  /-- Adds an ordering. -/
  | orderBy (order : OrderBy)
  /-- Sets the greatest number of rows. -/
  | limit (rows : Nat)

namespace Query

/-- The query for all records of a model. -/
def all (model : String) : Query where
  model := model

/-- The query after one more step. -/
def refine (q : Query) : Refinement → Query
  | .filter predicate => { q with filter := q.filter.push predicate }
  | .select names => { q with select := names.foldl Trail.pushNew q.select }
  | .group names => { q with group := names.foldl Trail.pushNew q.group }
  | .join name => { q with joins := q.joins.pushNew name }
  | .orderBy order => { q with orderBy := q.orderBy.push order }
  | .limit rows => { q with limit := some rows }

/-- The query after a chain of steps. -/
def refineAll (q : Query) (chain : List Refinement) : Query := chain.foldl refine q

/-- The shape of a query under inspection. -/
def shape (q : Query) : Shape :=
  .fields "Query"
    [("model", .text q.model), ("filter", .list (q.filter.toList.map Predicate.shape)),
    ("select", .texts q.select.toList), ("group", .texts q.group.toList),
    ("joins", .texts q.joins.toList), ("order_by", .list (q.orderBy.toList.map OrderBy.shape)),
    ("limit", .option (q.limit.map fun rows => .word (toString rows)))]

end Query

end RecordMapper
