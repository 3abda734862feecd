import RecordStore.Engine.Affinity
import RecordStore.Engine.Fault

/-!
# Relations

A relation is a table as the engine holds it: attributes with affinities, what tells its
rows apart, and the rows in the order in which they are read. A row with a number is kept in
the order of the numbers; a relation that is kept by its key keeps its rows in the order
of the key. Putting a row in and taking a row out are the only changes; a row that offends a
constraint is refused as a whole.
-/

namespace RecordStore.Engine

/-- Two names that the engine does not tell apart. -/
def sameName (left right : String) : Bool := left.map Char.toLower == right.map Char.toLower

/-- A column as the engine holds it. -/
structure Attribute where
  name : String
  affinity : Affinity
  required : Bool
  defaultValue : Stored := .null
  deriving DecidableEq, Repr, Inhabited

/-- What tells the rows of a relation apart. -/
inductive Identity where
  /-- A number that no column shows. -/
  | hidden
  /-- A number that a column shows, and whether numbers are never given again. -/
  | shown (column : String) (neverAgain : Bool)
  /-- The key itself. -/
  | keyed (columns : List String)
  deriving DecidableEq, Repr, Inhabited

/-- A row: its number and a value for each attribute. -/
structure Row where
  number : Int64
  values : List Stored
  deriving DecidableEq, Repr, Inhabited

/-- A table as the engine holds it. -/
structure Relation where
  name : String
  attributes : List Attribute
  identity : Identity
  /-- Sets of columns that no two rows share, apart from the number and a key that keeps
  the rows. -/
  uniques : List (List String)
  rows : List Row
  /-- The text of the statement that made the relation. -/
  text : String
  deriving DecidableEq, Repr, Inhabited

namespace Relation

/-- The value under a name in a list of values that belong to attributes. -/
def valueIn (attributes : List Attribute) (values : List Stored) (name : String) : Stored :=
  match attributes, values with
  | attr :: attrs, value :: values =>
    if sameName attr.name name then value else valueIn attrs values name
  | _, _ => .null

/-- The value of a row under a name. -/
def value (relation : Relation) (row : Row) (name : String) : Stored :=
  valueIn relation.attributes row.values name

/-- The values of a row under several names. -/
def project (relation : Relation) (columns : List String) (row : Row) : List Stored :=
  columns.map (relation.value row)

/-- Lists of values in the order of their first difference. -/
def keyOrder : List Stored → List Stored → Ordering
  | [], [] => .eq
  | [], _ => .lt
  | _, [] => .gt
  | left :: lefts, right :: rights => (left.order right).then (keyOrder lefts rights)

/-- Whether two keys are the same; a key with a null is the same as none. -/
def sameKey (left right : List Stored) : Bool :=
  !left.any Stored.isNull && keyOrder left right == .eq

/-- The order in which a relation keeps two rows. -/
def rowOrder (relation : Relation) (left right : Row) : Ordering :=
  match relation.identity with
  | .keyed columns => keyOrder (relation.project columns left) (relation.project columns right)
  | _ => compare left.number.toInt right.number.toInt

/-- Rows with a further row at its place. -/
def place (relation : Relation) (row : Row) : List Row → List Row
  | [] => [row]
  | next :: rest =>
    if relation.rowOrder row next == .lt then row :: next :: rest
    else next :: place relation row rest

/-- The relation with a row put in. -/
def put (relation : Relation) (row : Row) : Relation :=
  { relation with rows := relation.place row relation.rows }

/-- The relation without the rows that stand where a row stands. -/
def drop (relation : Relation) (row : Row) : Relation :=
  { relation with rows := relation.rows.filter fun other => relation.rowOrder other row != .eq }

/-- The largest number of a row, if there is one. -/
def lastNumber? (relation : Relation) : Option Int64 :=
  relation.rows.getLast?.map Row.number

/-- The first attribute that must have a value and has none. The attribute that shows the
number always has one. -/
def missing? (relation : Relation) (row : Row) : Option String :=
  (relation.attributes.find? fun attr =>
    attr.required && (relation.value row attr.name).isNull).map Attribute.name

/-- A row that stands where a new row would stand. -/
def standing? (relation : Relation) (row : Row) : Option Row :=
  relation.rows.find? fun other => relation.rowOrder other row == .eq

/-- The columns by which a relation keeps its rows, as messages name them. -/
def standingColumns (relation : Relation) : List String :=
  match relation.identity with
  | .hidden => ["rowid"]
  | .shown column _ => [column]
  | .keyed columns => columns

/-- A row that shares a set of columns with a new row, if no two rows may. -/
def sharing? (relation : Relation) (columns : List String) (row : Row) : Option Row :=
  relation.rows.find? fun other =>
    sameKey (relation.project columns row) (relation.project columns other)

/-- What a new row offends: first a missing value, then the place of another row, then
columns that no two rows share. -/
def fault? (relation : Relation) (row : Row) : Option Fault :=
  match relation.missing? row with
  | some column => some (.notNullViolation relation.name column)
  | none =>
    if (relation.standing? row).isSome then
      some (.uniqueViolation relation.name relation.standingColumns)
    else
      match relation.uniques.find? fun columns => (relation.sharing? columns row).isSome with
      | some columns => some (.uniqueViolation relation.name columns)
      | none => none

/-- The rows with which a new row cannot stand together. -/
def rivals (relation : Relation) (row : Row) : List Row :=
  relation.rows.filter fun other =>
    relation.rowOrder other row == .eq ||
      relation.uniques.any fun columns =>
        sameKey (relation.project columns row) (relation.project columns other)

/-- Values as the attributes store them. -/
def conform : List Attribute → List Stored → List Stored
  | attr :: attrs, value :: values =>
    attr.affinity.store value :: conform attrs values
  | _, _ => []

/-- Values with the value under a name replaced. -/
def replaceIn (attributes : List Attribute) (values : List Stored) (name : String)
    (value : Stored) : List Stored :=
  match attributes, values with
  | attr :: attrs, old :: values =>
    if sameName attr.name name then value :: values
    else old :: replaceIn attrs values name value
  | _, values => values

end Relation

end RecordStore.Engine
