import RecordStore.Error
import RecordStore.Schema.Column
import RecordStore.Sql.Render
import RecordStore.Value.Codec

/-!
# Criteria

What a query asks of a row. Criteria are an ordered list of entries with distinct keys. A
plain key is a column that must equal a value. A key that starts with the operator sign
names a comparison, and its arguments are a column and the operands. A partition is an
ordered list of columns with the values that they must equal.

Each entry compiles to one condition by itself, partition first. Equality with null asks
whether there is no value; other comparisons with null are refused.
-/

namespace RecordStore

open Sql

/-- Puts a value under a key: in place when the key is there already, else at the end. -/
def putEntry {α : Type} (key : String) (value : α) :
    List (String × α) → List (String × α)
  | [] => [(key, value)]
  | entry :: rest =>
    if entry.1 == key then (key, value) :: rest else entry :: putEntry key value rest

/-- A comparison that criteria can ask for. -/
inductive Operator where
  | equal
  | unequal
  | greater
  | atLeast
  | less
  | atMost
  | oneOf
  deriving DecidableEq, Repr

namespace Operator

/-- The name of a comparison, without the operator sign. -/
def name : Operator → String
  | .equal => "eq"
  | .unequal => "ne"
  | .greater => "gt"
  | .atLeast => "gte"
  | .less => "lt"
  | .atMost => "lte"
  | .oneOf => "in"

/-- The name of a comparison in diagnostic texts. -/
def label : Operator → String
  | .equal => "Eq"
  | .unequal => "Ne"
  | .greater => "Gt"
  | .atLeast => "Gte"
  | .less => "Lt"
  | .atMost => "Lte"
  | .oneOf => "In"

/-- All comparisons. -/
def all : List Operator := [.equal, .unequal, .greater, .atLeast, .less, .atMost, .oneOf]

/-- The comparison of a name. -/
def parse (name : String) : Except StoreError Operator :=
  match all.find? fun operator => operator.name == name with
  | some operator => .ok operator
  | none => .error (.invalidQuery ("invalid operator: `" ++ name ++ "`"))

/-- The character that sets comparisons apart from columns. -/
def sign : Char := '$'

/-- The key under which criteria hold a comparison. -/
def key (operator : Operator) : String := String.singleton sign ++ operator.name

/-- The name behind the operator sign, for a key that has one. -/
def nameOfKey? (key : String) : Option String :=
  match key.toList with
  | first :: rest => if first == sign then some (String.ofList rest) else none
  | [] => none

end Operator

/-- What stands under a key of criteria. -/
inductive Argument where
  | scalar (value : Value)
  | list (values : List Value)
  deriving DecidableEq

/-- The values of an argument, in order. -/
def Argument.values : Argument → List Value
  | .scalar value => [value]
  | .list values => values

/-- Entries that a row must satisfy, in the order of their first insertion. -/
structure Criteria where
  entries : List (String × Argument)
  deriving DecidableEq, Inhabited

namespace Criteria

/-- The criteria without entries. -/
def empty : Criteria := ⟨[]⟩

/-- Puts an argument under a key, in place when the key is there already. -/
def insert (criteria : Criteria) (key : String) (argument : Argument) : Criteria :=
  ⟨putEntry key argument criteria.entries⟩

/-- Asks that a column equal a value. -/
def equals (criteria : Criteria) (column : String) (value : Value) : Criteria :=
  criteria.insert column (.scalar value)

/-- Asks for a comparison of a column with a value. -/
def compare (criteria : Criteria) (operator : Operator) (column : String) (value : Value) :
    Criteria :=
  criteria.insert operator.key (.list [.text column, value])

/-- Asks that a column equal one of some values. -/
def oneOf (criteria : Criteria) (column : String) (values : List Value) : Criteria :=
  criteria.insert Operator.oneOf.key (.list (.text column :: values))

/-- Criteria of plain entries, inserted in order. -/
def ofList (entries : List (String × Value)) : Criteria :=
  entries.foldl (fun criteria entry => criteria.equals entry.1 entry.2) empty

/-- How many entries criteria have. -/
def size (criteria : Criteria) : Nat := criteria.entries.length

/-- Whether criteria have no entries. -/
def isEmpty (criteria : Criteria) : Bool := criteria.entries.isEmpty

end Criteria

/-- Attributes that every row of an answer must carry, in the order of their first
insertion. -/
structure Partition where
  attributes : List (String × Value)
  deriving DecidableEq, Inhabited

namespace Partition

/-- The partition without attributes. -/
def empty : Partition := ⟨[]⟩

/-- Puts a value under a column, in place when the column is there already. -/
def insert (partition : Partition) (column : String) (value : Value) : Partition :=
  ⟨putEntry column value partition.attributes⟩

/-- Whether a partition has no attributes. -/
def isEmpty (partition : Partition) : Bool := partition.attributes.isEmpty

/-- The value that a column must equal. -/
def get? (partition : Partition) (column : String) : Option Value :=
  (partition.attributes.find? fun held => held.1 == column).map Prod.snd

end Partition

/-- A condition over the columns of a table. -/
abbrev Condition := Expression Stored

/-- Refuses a column that the table does not have. -/
def Table.requireColumn (table : Table) (column : String) : Except StoreError Unit :=
  if table.hasColumn column then .ok () else .error (.unknownColumn table.name column)

namespace Condition

/-- A column that equals a value; for null, a column without a value. -/
def equality (table : Table) (source : Option String) (column : String) (value : Value) :
    Except StoreError Condition := do
  table.requireColumn column
  if value.isNull then return .unary .isNull (.column source column)
  else return .binary .equal (.column source column) (.operand value.stored)

/-- A comparison of a column with its only operand. -/
def comparison (source : Option String) (operator : Operator) (column : String)
    (operand : Value) : Except StoreError Condition :=
  let target : Condition := .column source column
  match operator, operand.isNull with
  | .equal, true => .ok (.unary .isNull target)
  | .unequal, true => .ok (.unary .isNotNull target)
  | operator, true =>
    .error (.invalidQuery ("`" ++ operator.key ++ "` on `" ++ column ++
      "` cannot compare against null"))
  | .unequal, false => .ok (.binary .unequal target (.operand operand.stored))
  | .greater, false => .ok (.binary .greater target (.operand operand.stored))
  | .atLeast, false => .ok (.binary .atLeast target (.operand operand.stored))
  | .less, false => .ok (.binary .less target (.operand operand.stored))
  | .atMost, false => .ok (.binary .atMost target (.operand operand.stored))
  | _, false => .ok (.binary .equal target (.operand operand.stored))

/-- The condition of a comparison with its arguments: a column, then the operands. -/
def ofOperator (table : Table) (source : Option String) (operator : Operator) :
    List Value → Except StoreError Condition
  | .text column :: operands => do
    table.requireColumn column
    match operator with
    | .oneOf =>
      if operands.isEmpty then
        throw (.invalidQuery ("`" ++ operator.key ++ "` on `" ++ column ++
          "` needs at least one value"))
      return .oneOf false (.column source column) (operands.map Value.stored)
    | operator =>
      match operands with
      | [operand] => comparison source operator column operand
      | _ =>
        throw (.invalidQuery ("`" ++ operator.key ++ "` on `" ++ column ++
          "` takes exactly one value, got " ++ toString operands.length))
  | _ =>
    .error (.invalidQuery ("`" ++ operator.key ++ "` expects a column name as its first argument"))

/-- The condition of one entry. -/
def ofEntry (table : Table) (source : Option String) (entry : String × Argument) :
    Except StoreError Condition :=
  match Operator.nameOfKey? entry.1 with
  | some name => do
    let operator ← Operator.parse name
    ofOperator table source operator entry.2.values
  | none =>
    match entry.2 with
    | .scalar value => equality table source entry.1 value
    | .list _ =>
      .error (.invalidQuery ("`" ++ entry.1 ++ "`: list values need an operator such as `" ++
        Operator.oneOf.key ++ "`"))

end Condition

/-- The conditions of criteria, one for each entry. Criteria without entries are refused:
they would ask for everything by mistake. -/
def Criteria.conditions (criteria : Criteria) (table : Table) (source : Option String) :
    Except StoreError (List Condition) :=
  if criteria.isEmpty then .error (.invalidQuery "`criteria` cannot be empty")
  else criteria.entries.mapM (Condition.ofEntry table source)

/-- The conditions of a partition, one for each attribute. -/
def Partition.conditions (partition : Partition) (table : Table) (source : Option String) :
    Except StoreError (List Condition) :=
  partition.attributes.mapM fun held =>
    Condition.equality table source held.1 held.2

/-- All conditions that a query states: those of the partition, then those of the
criteria. -/
def statedConditions (criteria : Option Criteria) (partition : Option Partition) (table : Table)
    (source : Option String) : Except StoreError (List Condition) := do
  let confined ← match partition with
    | some partition => partition.conditions table source
    | none => pure []
  let asked ← match criteria with
    | some criteria => criteria.conditions table source
    | none => pure []
  return confined ++ asked

/-- All conditions that a query states as one, if it states any. -/
def statedCondition? (criteria : Option Criteria) (partition : Option Partition) (table : Table)
    (source : Option String) : Except StoreError (Option Condition) := do
  return Expression.conjunction? (← statedConditions criteria partition table source)

end RecordStore
