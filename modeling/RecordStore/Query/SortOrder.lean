import RecordStore.Error
import RecordStore.Schema.Column
import RecordStore.Sql.Render

/-!
# Sort orders

A sort order is a list of columns with directions, the first of them deciding first.
-/

namespace RecordStore

open Sql

/-- The direction of a word; only the exact words in upper case are known. -/
def Sql.Direction.parse (word : String) : Except StoreError Direction :=
  match word with
  | "ASC" => .ok .ascending
  | "DESC" => .ok .descending
  | word =>
    .error (.invalidQuery ("invalid sort direction `" ++ word ++
      "`, expected `ASC` or `DESC`"))

/-- The name of a direction in diagnostic texts. -/
def Sql.Direction.label : Direction → String
  | .ascending => "Asc"
  | .descending => "Desc"

/-- Columns to sort by, each with its direction. -/
structure SortOrder where
  pairs : List (String × Direction)
  deriving DecidableEq, Inhabited

namespace SortOrder

/-- The sort that names no column. -/
def empty : SortOrder := ⟨[]⟩

/-- A sort order of columns with the words of their directions. -/
def parse (pairs : List (String × String)) : Except StoreError SortOrder := do
  let pairs ← pairs.mapM fun pair => do
    let direction ← Direction.parse pair.2
    pure (pair.1, direction)
  return ⟨pairs⟩

/-- Sorts by a further column. -/
def push (sort : SortOrder) (column : String) (direction : Direction) : SortOrder :=
  ⟨sort.pairs ++ [(column, direction)]⟩

/-- Whether a sort names no column. -/
def isEmpty (sort : SortOrder) : Bool := sort.pairs.isEmpty

/-- One key of the ordering. -/
def orderKey (table : Table) (source : Option String) (pair : String × Direction) :
    Except StoreError (OrderKey Stored) :=
  if table.hasColumn pair.1 then .ok ⟨.column source pair.1, some pair.2⟩
  else .error (.unknownColumn table.name pair.1)

/-- The keys of an ordering of a table; a sort without columns is refused. -/
def orderKeys (sort : SortOrder) (table : Table) (source : Option String) :
    Except StoreError (List (OrderKey Stored)) :=
  if sort.isEmpty then .error (.invalidQuery "`sort` cannot be empty")
  else sort.pairs.mapM (orderKey table source)

/-- The text of an ordering, without the words that introduce it. -/
def render (keys : List (OrderKey Stored)) : String := joined ", " (keys.map OrderKey.render)

end SortOrder

end RecordStore
