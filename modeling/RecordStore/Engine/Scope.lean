import RecordStore.Engine.Database

/-!
# Scopes

What the names in an expression stand for. A binding is one row of a table under the name by
which a query knows the table; a scope is a list of bindings. Besides its columns a row can
be asked for its number, and a row of a full-text table for its rank.
-/

namespace RecordStore.Engine

open Sql

/-- A row under the name by which a query knows its table. -/
structure Binding where
  name : String
  attributes : List Attribute
  values : List Stored
  /-- The number of the row, for a table whose rows are numbered. -/
  number : Option Int64
  /-- The name and the columns of the full-text table of the row, and its rank. -/
  fullText : Option (String × List FullTextColumn × Stored) := none
  deriving Repr, Inhabited

/-- The rows that the names of an expression stand for. -/
abbrev Scope := List Binding

/-- The names by which a row can be asked for its number. -/
def numberNames : List String := ["rowid", "oid", "_rowid_"]

/-- The name by which a row of a full-text table can be asked for its rank. -/
def rankName : String := "rank"

namespace Binding

/-- What a name stands for in attributes with their values: the affinity and the value. -/
def among (name : String) : List Attribute → List Stored → Option (Option Affinity × Stored)
  | attr :: attrs, value :: values =>
    if sameName attr.name name then some (some attr.affinity, value) else among name attrs values
  | _, _ => none

/-- What a name stands for behind the columns of a row. -/
def behind (binding : Binding) (name : String) : Option (Option Affinity × Stored) :=
  match binding.fullText with
  | some (table, _, rank) =>
    if sameName name rankName then some (some .blob, rank)
    else if sameName name table then some (some .blob, .null)
    else numbered name
  | none => numbered name
where
  numbered (name : String) : Option (Option Affinity × Stored) :=
    match binding.number with
    | some number =>
      if numberNames.any (sameName name) then some (some .integer, .integer number) else none
    | none => none

/-- What a name stands for in a row: its affinity and its value. -/
def lookup? (binding : Binding) (name : String) : Option (Option Affinity × Stored) :=
  match among name binding.attributes binding.values with
  | some found => some found
  | none => binding.behind name

end Binding

namespace Scope

/-- What a column stands for: in the binding that is named, or in the first that has it. -/
def lookup? (scope : Scope) (source : Option String) (name : String) :
    Option (Option Affinity × Stored) :=
  scope.findSome? fun binding =>
    match source with
    | some source => if sameName binding.name source then binding.lookup? name else none
    | none => binding.lookup? name

/-- The value of a column. -/
def value (scope : Scope) (source : Option String) (name : String) : Stored :=
  ((scope.lookup? source name).map Prod.snd).getD .null

/-- The affinity of a column. -/
def affinity? (scope : Scope) (source : Option String) (name : String) : Option Affinity :=
  (scope.lookup? source name).bind Prod.fst

/-- The row of a full-text table that a match is about: the one that is named, or the first
that has the column. -/
def matched? (scope : Scope) (source : Option String) (name : String) : Option Binding :=
  scope.find? fun binding =>
    binding.fullText.isSome &&
      (match source with
        | some source => sameName binding.name source
        | none => true) && (binding.lookup? name).isSome

end Scope

end RecordStore.Engine
