import RecordStore.Proofs.Schema.Names
import RecordStore.Proofs.Store.OverwrittenRows
import RecordStore.Proofs.Store.Turns

/-!
# Mutations that fail

An update that fails leaves the store as it was, and the entity too but for what generators gave.
One that no row answers to has run as a statement; it is a failure for the caller alone, and nothing
was written.

An addition that fails leaves the entity in the same way, but two of its failures are not without a
trace in the store. Where the engine finds a table full and the statement is a single insertion that
no trigger follows, it takes back the transaction that is open, whoever opened it. And the number of
a new row goes into the entity after the row was put in: an entity that does not take the number
makes the addition fail, and the row stays.
-/

namespace RecordStore

open Engine Sql

/-! ### Changes that fail -/

namespace Engine

namespace Access

end Access

/-! ### Updates that change nothing -/

end Engine

/-! ### Calls -/

variable {model : Model}

namespace Store

variable {handle : Handle model} {entity : Entity model} {store : Store}
  {problem : StoreError}

/-- An addition that fails behind its row: the row that was drawn is put in, and the entity does not
take the number that the engine gave to it. -/
structure KeepsRow (store : Store) (handle : Handle model) (entity : Entity model)
    (problem : StoreError) (after : Store) : Prop where
  made : ∃ row effect, (entity.row handle.table false store.host.count).outcome = .ok row ∧
    store.Makes after (handle.table.insertion row) effect
  refused : ∃ key number, handle.table.autoincrementKey? = some key ∧
    after.lastNumber? = some number ∧ model.take key (.integer number) = .error problem

end Store

/-! ### Entities -/

/-- What an entity held it holds afterwards, but for columns that were generated. -/
structure Entity.Keeps (entity saved : Entity model) (table : Table) (generated : Column → Prop) :
    Prop where
  columns : ∀ column ∈ table.columns, ¬ generated column →
    saved.get column.name = entity.get column.name
  others : ∀ name, name ∉ table.columnNames → saved.get name = entity.get name

/-- A model whose fields match the columns takes every number, since a key that the engine numbers
has integers in its column. So no addition of such an entity fails behind its row. -/
theorem Store.KeepsRow.misfits {handle : Handle model} {entity : Entity model} {store after : Store}
    {problem : StoreError} (kept : store.KeepsRow handle entity problem after)
    (faultless : handle.table.fault? = none) : ¬ model.Suits handle.table := by
  intro suits
  obtain ⟨key, number, numbered, -, refused⟩ := kept.refused
  obtain ⟨-, column, inTable, auto, rfl⟩ := autoincrement_key?_named numbered
  have integer := ((Table.is_admitted_of_fault? faultless).columns column inTable).numbered auto
  have typed := suits.type_of? (Table.column_names_nodup faultless) inTable
  have taken : model.take column.name (.integer number) = .ok (.integer number) := by
    rw [Model.take, typed, integer.1]
    rfl
  cases taken.symm.trans refused

namespace Mailbox

/-- The number of a letter, which the engine gives. -/
def number : Column :=
  { name := "number", type := .integer, primaryKey := true, autoincrement := true }

/-- What a letter says. -/
def text : Column := { name := "text", type := .string }

/-- A stamp that is counted. -/
def stamp : Column := { name := "stamp", type := .integer, generator := some .counter }

/-- A letter with a number, a text and a stamp. -/
def letterModel : Model := ⟨"letter", [⟨.integer, number⟩, ⟨.text, text⟩, ⟨.integer, stamp⟩]⟩

/-- The handle of the letters. -/
def handle : Handle letterModel := ⟨letterModel.table, rfl⟩

/-- A letter that has the last number there is. -/
def last : Row := ⟨Int64.maxValue, [.integer Int64.maxValue, .text "farewell", .integer 3]⟩

/-- A letter that says hello. -/
def written : Entity letterModel :=
  ⟨[⟨⟨.integer, number⟩, .integer 7, rfl⟩, ⟨⟨.text, text⟩, .text "hello", rfl⟩,
    ⟨⟨.integer, stamp⟩, .null, rfl⟩], rfl⟩

/-- The rows of the letters that a store shows. -/
def shown (store : Store) : Option (List Row) :=
  (store.visible.relation? "letter").map Relation.rows

/-- The letters are a table of a schema. -/
theorem accepted : Schema.ofTables [letterModel.table] = .ok ⟨[letterModel.table]⟩ :=
  Schema.of_tables_ok (by decide +kernel) (by decide +kernel)

end Mailbox

end RecordStore
