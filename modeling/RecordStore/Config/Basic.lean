import RecordStore.Config.Document
import RecordStore.Error

/-!
# Configuration

Where a database lives, how large a page may be and how long a statement waits. A
configuration can be read from a document: an object with the three keys, or an array with
their values in that order. What a document leaves out takes its default; a key that means
nothing here is passed over.
-/

namespace RecordStore

/-- The configuration of a driver. -/
structure Config where
  /-- The database file; without one the database is private and lives in memory. -/
  dbFile : Option String := none
  /-- The largest page, which is also the page of a request that asks for none. -/
  maxPageSize : Int64 := 1000
  busyTimeout : UInt64 := 5000
  deriving DecidableEq, Repr, Inhabited

namespace Config

/-- A private database. -/
def inMemory : Config := {}

/-- A database in a file. -/
def withFile (path : String) : Config := { dbFile := some path }

/-- A private database that waits for a short time only. -/
def forTesting : Config := { busyTimeout := 100 }

/-- Whether a database is kept in memory: it is if no file is named. -/
def isInMemory (config : Config) : Bool := config.dbFile.isNone

/-- Refuses a configuration under which no page could hold a row. -/
def validate (config : Config) : Except StoreError Unit :=
  if config.maxPageSize ≤ 0 then
    .error (.invalidArgument ("`max_page_size` must be positive, got " ++
      toString config.maxPageSize.toInt))
  else .ok ()

/-- The keys of a configuration document. -/
def fileKey : String := "db_file"

/-- The key of the size of pages. -/
def pageKey : String := "max_page_size"

/-- The key of the waiting time. -/
def timeoutKey : String := "busy_timeout_ms"

/-- A file: a text, or null for none. -/
def readFile? : Document → Option (Option String)
  | .null => some none
  | .text (some path) => some (some path)
  | _ => none

/-- A page size: an integer in sixty-four bits. -/
def readPage? : Document → Option Int64
  | .number literal =>
    literal.integer?.bind fun value =>
      if Int64.minValue.toInt ≤ value ∧ value ≤ Int64.maxValue.toInt then some (Int64.ofInt value)
      else none
  | _ => none

/-- A waiting time: an integer without a sign, in sixty-four bits. -/
def readTimeout? : Document → Option UInt64
  | .number literal =>
    literal.integer?.bind fun value =>
      if 0 ≤ value ∧ value < UInt64.size then some (UInt64.ofNat value.toNat) else none
  | _ => none

/-- The value under a key. It is missing when the key is, and it is wrong when the key
stands twice or `read` refuses what stands there. -/
def member? {α : Type} (members : List (Option String × Document)) (key : String)
    (fallback : α) (read : Document → Option α) : Option α :=
  match members.filter fun member => member.1 == some key with
  | [] => some fallback
  | [member] => read member.2
  | _ => none

/-- The value at a place of an array, or the default behind its end. -/
def item? {α : Type} (items : List Document) (index : Nat) (fallback : α)
    (read : Document → Option α) : Option α :=
  match items[index]? with
  | some item => read item
  | none => some fallback

/-- The configuration that a document states. -/
def ofDocument? : Document → Option Config
  | .object members => do
    if members.any fun member => member.1.isNone then none
    else
      let dbFile ← member? members fileKey none readFile?
      let maxPageSize ← member? members pageKey inMemory.maxPageSize readPage?
      let busyTimeout ← member? members timeoutKey inMemory.busyTimeout readTimeout?
      return { dbFile, maxPageSize, busyTimeout }
  | .array items => do
    if 3 < items.length then none
    else
      let dbFile ← item? items 0 none readFile?
      let maxPageSize ← item? items 1 inMemory.maxPageSize readPage?
      let busyTimeout ← item? items 2 inMemory.busyTimeout readTimeout?
      return { dbFile, maxPageSize, busyTimeout }
  | _ => none

/-- The configuration that a text states, if it is valid. -/
def parse (text : String) : Except StoreError Config := do
  match (Document.parse? text).bind ofDocument? with
  | none => throw .malformedDocument
  | some config =>
    config.validate
    return config

/-- The document of a configuration, without blanks. -/
def render (config : Config) : String :=
  "\x7b" ++ Document.writeText fileKey ++ ":" ++
    (match config.dbFile with
      | some path => Document.writeText path
      | none => "null") ++
    "," ++ Document.writeText pageKey ++ ":" ++ toString config.maxPageSize.toInt ++
    "," ++ Document.writeText timeoutKey ++ ":" ++ toString config.busyTimeout.toNat ++ "\x7d"

end Config

end RecordStore
