import RecordStore.Engine.Check
import RecordStore.Sql.Render

/-!
# Making and removing objects

What the statements that define tables and triggers do to a database. A name that is taken
and a declaration that contradicts itself are refused, the first fault in the order of the
text. A table that is kept by its key needs a value in each key column; a single integer key
of any other table shows the numbers of its rows.
-/

namespace RecordStore.Engine

open Sql

/-- What the declarations of columns have said so far: the attributes, the key that was
declared with a column, and the columns that are unique by themselves. -/
structure Declared where
  attributes : List Attribute := []
  key : Option (List String × Bool) := none
  uniques : List (List String) := []

/-- Whether a declared type makes a single key show the numbers of the rows. -/
def isNumberType (words : String) : Bool := sameName words "integer"

/-- Declares one further column. -/
def declareColumn (table : String) (declared : Declared) (column : ColumnDefinition) :
    Except Fault Declared := do
  if declared.attributes.any fun attr => sameName attr.name column.name then
    throw (.duplicateColumn column.name)
  let attr : Attribute :=
    ⟨column.name, .ofTypeWords column.typeWords, column.required == some true,
      column.defaultValue.getD .null⟩
  let declared := { declared with attributes := declared.attributes ++ [attr] }
  let declared ← match column.inlineKey with
    | none => pure declared
    | some neverAgain =>
      if declared.key.isSome then throw (.severalPrimaryKeys table)
      if neverAgain && !isNumberType column.typeWords then throw .misplacedAutoincrement
      pure { declared with key := some ([column.name], neverAgain) }
  return if column.unique then { declared with uniques := declared.uniques ++ [[column.name]] }
    else declared

/-- The declared name of a column of a key. -/
def keyColumn (table : String) (attributes : List Attribute) (name : String) :
    Except Fault String :=
  match attributes.find? fun attr => sameName attr.name name with
  | some attr => .ok attr.name
  | none => .error (.unknownInsertColumn table name)

/-- Declares one further key behind the columns. -/
def declareKey (table : String) (declared : Declared) (key : List String) :
    Except Fault Declared := do
  if declared.key.isSome then throw (.severalPrimaryKeys table)
  let key ← key.mapM (keyColumn table declared.attributes)
  return { declared with key := some (key, false) }

/-- Declares one further set of unique columns behind the columns. -/
def declareUnique (table : String) (declared : Declared) (columns : List String) :
    Except Fault Declared := do
  let columns ← columns.mapM (keyColumn table declared.attributes)
  return { declared with uniques := declared.uniques ++ [columns] }

/-- Attributes that all must have values if they belong to a key. -/
def requireKey (key : List String) (attributes : List Attribute) : List Attribute :=
  attributes.map fun attr => if key.contains attr.name then { attr with required := true } else attr

/-- The relation of a definition. -/
def relationOf (definition : TableDefinition) (text : String) : Except Fault Relation := do
  let declared ← definition.columns.foldlM (declareColumn definition.name) {}
  let declared ← definition.keys.foldlM (declareKey definition.name) declared
  let declared ← definition.uniques.foldlM (declareUnique definition.name) declared
  let relation (identity : Identity) (uniques : List (List String))
      (attributes : List Attribute) : Relation :=
    { name := definition.name, attributes, identity, uniques, rows := [], text }
  if definition.withoutRowid then
    match declared.key with
    | none => throw (.missingPrimaryKey definition.name)
    | some (_, true) => throw .autoincrementWithoutRowid
    | some (key, false) =>
      return relation (.keyed key) declared.uniques (requireKey key declared.attributes)
  else
    let isNumber (column : String) : Bool :=
      definition.columns.any fun candidate =>
        sameName candidate.name column && isNumberType candidate.typeWords
    match declared.key with
    | none => return relation .hidden declared.uniques declared.attributes
    | some ([column], neverAgain) =>
      if isNumber column then
        return relation (.shown column neverAgain) declared.uniques declared.attributes
      else return relation .hidden ([column] :: declared.uniques) declared.attributes
    | some (key, _) => return relation .hidden (key :: declared.uniques) declared.attributes

/-- Whether the engine keeps a name for itself. -/
def isInternalName (name : String) : Bool :=
  "sqlite_".toList.isPrefixOf (name.map Char.toLower).toList

/-- Refuses the name of a new table. The result tells whether the table is to be made. -/
def requireNewTable (database : Database) (name : String) (ifMissing : Bool) :
    Except Fault Bool :=
  if isInternalName name then .error (.reservedName name)
  else if database.hasTable name then
    if ifMissing then .ok false else .error (.tableExists name)
  else .ok true

/-- The database with one more object behind the others. -/
def Database.push (database : Database) (object : Object) : Database :=
  { database with objects := database.objects ++ [object] }

/-- Makes a relation. -/
def createTable (database : Database) (definition : TableDefinition) (text : String) :
    Except Fault Database := do
  if !(← requireNewTable database definition.name definition.ifMissing) then return database
  let relation ← relationOf definition text
  let made := database.push (.relation relation)
  return if Database.neverAgain relation && !made.hasSequence then made.push .sequence else made

/-- Names that no column of a full-text table can have. -/
def fullTextNames : List String := ["rank", "rowid"]

/-- Whether a name stands twice in a list. -/
def hasDuplicate : List String → Bool
  | [] => false
  | name :: rest => rest.any (sameName name) || hasDuplicate rest

/-- Makes a full-text table. -/
def createFullText (database : Database) (definition : FullTextDefinition) (text : String) :
    Except Fault Database := do
  if !(← requireNewTable database definition.name definition.ifMissing) then return database
  let names := definition.columns.map FullTextColumn.name
  if let some name := names.find? fun name => fullTextNames.any (sameName name) then
    throw (.reservedFullTextColumn name)
  if let some part := (FullTextTable.partNames definition.name).find? database.hasTable then
    throw (.partExists part)
  if hasDuplicate (definition.name :: names) then throw (.constructorFailed definition.name)
  return database.push (.fullText ⟨definition.name, definition.columns, [], text⟩)

/-- Makes a trigger. -/
def createTrigger (database : Database) (definition : TriggerDefinition Stored)
    (text : String) : Except Fault Database := do
  if (database.fullText? definition.table).isSome then throw .triggerOnVirtualTable
  match database.relation? definition.table with
  | none => throw (.noSuchTable ("main." ++ definition.table))
  | some relation =>
    if isInternalName definition.name then throw (.reservedName definition.name)
    if (database.trigger? definition.name).isSome then
      if definition.ifMissing then return database
      throw (.triggerExists definition.name)
    return database.push (.trigger
      ⟨definition.name, definition.event, relation.name, definition.body, text⟩)

/-- Whether an object goes when a table goes: the table itself and its triggers. -/
def goesWith (table : String) : Object → Bool
  | .relation relation => sameName relation.name table
  | .fullText fullText => sameName fullText.name table
  | .trigger trigger => sameName trigger.table table
  | .sequence => false

/-- Removes a table with its triggers and the memory of its numbers. -/
def dropTable (database : Database) (name : String) (ifPresent : Bool) :
    Except Fault Database :=
  if (database.relation? name).isSome || (database.fullText? name).isSome then
    .ok ⟨database.objects.filter fun object => !goesWith name object,
      database.given.filter fun entry => !sameName entry.1 name⟩
  else if (database.readable? name).isSome then .error (.tableCannotGo name)
  else if ifPresent then .ok database
  else .error (.noSuchTable name)

/-- Removes a trigger. -/
def dropTrigger (database : Database) (name : String) (ifPresent : Bool) :
    Except Fault Database :=
  if (database.trigger? name).isSome then
    .ok { database with objects := database.objects.filter fun object =>
      match object with
      | .trigger trigger => !sameName trigger.name name
      | _ => true }
  else if ifPresent then .ok database
  else .error (.noSuchTrigger name)

end RecordStore.Engine
