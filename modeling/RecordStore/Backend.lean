import RecordStore.Config.Basic

/-!
# Backends

Drivers are chosen by the name of their backend. One backend is built in, and every other
name is refused.
-/

namespace RecordStore

/-- A backend that is built in. -/
inductive Backend where
  | sqlite
  deriving DecidableEq, Repr

namespace Backend

/-- The name by which a backend is chosen. -/
def name : Backend → String
  | .sqlite => "sqlite"

/-- The backend of a name. -/
def parse (name : String) : Except StoreError Backend :=
  if name == Backend.sqlite.name then .ok .sqlite else .error (.driverNotSupported name)

end Backend

/-- A backend with the configuration of its drivers. -/
structure Factory where
  backend : Backend
  config : Config
  deriving DecidableEq, Repr

namespace Factory

/-- The factory of the backend of a name. -/
def of (name : String) (config : Config) : Except StoreError Factory := do
  let backend ← Backend.parse name
  return ⟨backend, config⟩

/-- The configuration of a new driver, if a driver accepts it. -/
def driverConfig (factory : Factory) : Except StoreError Config := do
  factory.config.validate
  return factory.config

/-- Whether the configured database is among the files that exist. -/
def databaseExists (factory : Factory) (isFile : String → Bool) : Except StoreError Bool :=
  match factory.config.dbFile with
  | some path => .ok (isFile path)
  | none =>
    .error (.invalidArgument "sqlite: `db_file` is required to check for a database")

end Factory

end RecordStore
