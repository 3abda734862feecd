import RecordStore.Query.Criteria

/-!
# Mutations

The statements that put a row into a table, change the row of a key and remove it. Every
value is an operand; the names come from the table.
-/

namespace RecordStore

open Sql

namespace Table

/-- Puts a row into a table. A row without columns takes what the table gives by itself. -/
def insertion (table : Table) (row : List (String × Stored)) : Change Stored :=
  .insert {
    table := table.name
    columns := if row.isEmpty then none else some (row.map Prod.fst)
    rows := if row.isEmpty then .defaults
      else .values [row.map fun entry => .operand entry.2] }

/-- Writes columns of the rows on which a condition holds. -/
def modification (table : Table) (row : List (String × Stored)) (condition : Condition) :
    Change Stored :=
  .update {
    table := table.name
    assignments := row.map fun entry => (entry.1, .operand entry.2)
    conditions := some [condition] }

/-- Removes the rows on which a condition holds. -/
def deletion (table : Table) (condition : Condition) : Change Stored :=
  .delete { table := table.name, conditions := some [condition] }

end Table

/-- The one condition that criteria mean for a table, for a statement that must have one. -/
def Criteria.condition (criteria : Criteria) (table : Table) (action : String) :
    Except StoreError Condition := do
  match ← statedCondition? (some criteria) none table none with
  | some condition => return condition
  | none => throw (.invalidQuery (action ++ " requires a key filter"))

end RecordStore
