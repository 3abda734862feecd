import RecordStore.Engine.Relation
import RecordStore.FullText.Words
import RecordStore.Sql.Syntax

/-!
# Databases

A database is the list of the objects that were made in it, in the order in which they were
made: relations, full-text tables and triggers. It also remembers, for relations whose
numbers are never given again, the largest number given so far.

The catalog lists all objects, the ones that belong to another object right behind it.
-/

namespace RecordStore.Engine

open Sql

/-- A full-text table as the engine holds it. Its rows store values as they are given. -/
structure FullTextTable where
  name : String
  columns : List FullTextColumn
  rows : List Row
  text : String
  deriving DecidableEq, Repr, Inhabited

namespace FullTextTable

/-- The names of the columns of a full-text table. -/
def columnNames (table : FullTextTable) : List String := table.columns.map FullTextColumn.name

/-- The columns as attributes, for reading. -/
def attributes (table : FullTextTable) : List Attribute :=
  table.columns.map fun column => ⟨column.name, .blob, false, .null⟩

/-- The words of a list of values that belong to columns. -/
def wordsOf : List FullTextColumn → List Stored → FullText.RowWords
  | column :: columns, value :: values =>
    ⟨column.name, if column.indexed then FullText.words (FullText.indexText value) else []⟩ ::
      wordsOf columns values
  | _, _ => []

/-- The words of a row. -/
def words (table : FullTextTable) (row : Row) : FullText.RowWords :=
  wordsOf table.columns row.values

/-- The names of the tables in which a full-text table keeps its index. -/
def partNames (name : String) : List String :=
  ["_data", "_idx", "_content", "_docsize", "_config"].map (name ++ ·)

end FullTextTable

/-- What follows each change of a row of a relation. -/
structure Trigger where
  name : String
  event : RowEvent
  table : String
  body : List (Change Stored)
  text : String
  deriving Repr

/-- The name of the table that shows the numbers given so far. -/
def sequenceName : String := "sqlite_sequence"

/-- Something that was made in a database. -/
inductive Object where
  | relation (relation : Relation)
  | fullText (table : FullTextTable)
  | trigger (trigger : Trigger)
  /-- The table that shows the numbers given so far. -/
  | sequence
  deriving Repr

/-- The content of a database. -/
structure Database where
  objects : List Object := []
  /-- For relations whose numbers are never given again, the largest number given. -/
  given : List (String × Int64) := []
  deriving Repr, Inhabited

namespace Object

/-- The names that an object takes from other tables. -/
def tableNames : Object → List String
  | .relation kept => [kept.name]
  | .fullText table => table.name :: FullTextTable.partNames table.name
  | .trigger _ => []
  | .sequence => [sequenceName]

end Object

namespace Database

/-- The relation of a name, whatever its case. -/
def relation? (database : Database) (name : String) : Option Relation :=
  database.objects.findSome? fun object =>
    match object with
    | .relation relation => if sameName relation.name name then some relation else none
    | _ => none

/-- The full-text table of a name, whatever its case. -/
def fullText? (database : Database) (name : String) : Option FullTextTable :=
  database.objects.findSome? fun object =>
    match object with
    | .fullText table => if sameName table.name name then some table else none
    | _ => none

/-- The trigger of a name, whatever its case. -/
def trigger? (database : Database) (name : String) : Option Trigger :=
  database.objects.findSome? fun object =>
    match object with
    | .trigger trigger => if sameName trigger.name name then some trigger else none
    | _ => none

/-- Whether a table of a name is there, be it only as a part of another. -/
def hasTable (database : Database) (name : String) : Bool :=
  database.objects.any fun object => object.tableNames.any (sameName name)

/-- The triggers that follow an event on a table; the one made last comes first. -/
def triggersOn (database : Database) (table : String) (event : RowEvent) : List Trigger :=
  (database.objects.filterMap fun object =>
    match object with
    | .trigger trigger =>
      if sameName trigger.table table && trigger.event == event then some trigger else none
    | _ => none).reverse

/-- The database with a relation in the place of the relation of the same name. -/
def withRelation (database : Database) (changed : Relation) : Database :=
  let objects := database.objects.map fun object =>
    match object with
    | .relation relation =>
      if sameName relation.name changed.name then .relation changed else .relation relation
    | object => object
  { database with objects }

/-- The database with a full-text table in the place of the one of the same name. -/
def withFullText (database : Database) (changed : FullTextTable) : Database :=
  let objects := database.objects.map fun object =>
    match object with
    | .fullText table =>
      if sameName table.name changed.name then .fullText changed else .fullText table
    | object => object
  { database with objects }

/-- The largest number that was given to a row of a relation. -/
def givenNumber (database : Database) (name : String) : Int64 :=
  ((database.given.find? fun entry => sameName entry.1 name).map Prod.snd).getD 0

/-- The database after a number was given to a row of a relation. -/
def giveNumber (database : Database) (name : String) (number : Int64) : Database :=
  let largest := max (database.givenNumber name) number
  let given :=
    if database.given.any (fun entry => sameName entry.1 name) then
      database.given.map fun entry =>
        if sameName entry.1 name then (entry.1, largest) else entry
    else database.given ++ [(name, largest)]
  { database with given }

/-- Whether a relation never gives a number again. -/
def neverAgain (relation : Relation) : Bool :=
  match relation.identity with
  | .shown _ true => true
  | _ => false

/-- A line of the catalog. -/
def catalogRow (type name table : String) (text : Stored) : List Stored :=
  [.text type, .text name, .text table, .integer 0, text]

/-- The lines of an object: its own, and those of what belongs to it. -/
def catalogRows : Object → List (List Stored)
  | .relation relation =>
    catalogRow "table" relation.name relation.name (.text relation.text) ::
      relation.uniques.mapIdx fun index _ =>
        catalogRow "index" ("sqlite_autoindex_" ++ relation.name ++ "_" ++ toString (index + 1))
          relation.name .null
  | .fullText table =>
    catalogRow "table" table.name table.name (.text table.text) ::
      (FullTextTable.partNames table.name).map fun name => catalogRow "table" name name .null
  | .trigger trigger =>
    [catalogRow "trigger" trigger.name trigger.table (.text trigger.text)]
  | .sequence =>
    [catalogRow "table" sequenceName sequenceName (.text "CREATE TABLE sqlite_sequence(name,seq)")]

/-- Lists of values as numbered rows. -/
def numberedRows (rows : List (List Stored)) : List Row :=
  rows.mapIdx fun index values => ⟨Int64.ofNat (index + 1), values⟩

/-- The names of the catalog. -/
def catalogNames : List String := ["sqlite_master", "sqlite_schema"]

/-- The catalog as a relation. -/
def catalog (database : Database) : Relation where
  name := "sqlite_master"
  attributes :=
    [⟨"type", .text, false, .null⟩, ⟨"name", .text, false, .null⟩,
     ⟨"tbl_name", .text, false, .null⟩, ⟨"rootpage", .integer, false, .null⟩,
     ⟨"sql", .text, false, .null⟩]
  identity := .hidden
  uniques := []
  rows := numberedRows (database.objects.flatMap catalogRows)
  text := ""

/-- The numbers given so far as a relation. -/
def sequence (database : Database) : Relation where
  name := sequenceName
  attributes := [⟨"name", .blob, false, .null⟩, ⟨"seq", .blob, false, .null⟩]
  identity := .hidden
  uniques := []
  rows := numberedRows (database.given.map fun entry => [.text entry.1, .integer entry.2])
  text := ""

/-- Whether the table that shows the numbers given so far has been made. -/
def hasSequence (database : Database) : Bool :=
  database.objects.any fun object =>
    match object with
    | .sequence => true
    | _ => false

/-- A relation that can be read under a name: one that was made, or one that shows the
database itself. -/
def readable? (database : Database) (name : String) : Option Relation :=
  match database.relation? name with
  | some relation => some relation
  | none =>
    if catalogNames.any (sameName name) then some database.catalog
    else if sameName name sequenceName && database.hasSequence then some database.sequence
    else none

end Database

end RecordStore.Engine
