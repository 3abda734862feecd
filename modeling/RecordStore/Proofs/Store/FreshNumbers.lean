import Mathlib
import RecordStore.Proofs.Schema.Names
import RecordStore.Proofs.Store.AddedEntities
import RecordStore.Proofs.Store.Creations
import RecordStore.Proofs.Store.FreshTables
import RecordStore.Proofs.Store.Ledgers

/-!
# Numbers are handed out once

An addition to a table whose key the engine numbers hands out a positive number, which is the key of
the row that it puts in. Whatever was added, updated and removed before, in transactions or out of
them, the number is larger than that of every row, and than every number that was handed out before
and not taken back by a rollback, also where the row has been removed since.
-/

namespace RecordStore

open Engine Sql

/-! ### Tables as they are made -/

/-- A table that was just made has no rows, so that no number is recalled. -/
theorem Table.IsFreshIn.recalls {table : Table} {database : Database}
    (fresh : table.IsFreshIn database) (well : database.WellFollowed) :
    table.Recalls [] database := by
  obtain ⟨relation, held⟩ := fresh.is_soundly_kept well
  obtain ⟨made, text, found, definition⟩ := fresh.made
  cases held.found.symm.trans found
  have empty : relation.rows = [] := (relation_of_definition definition).2.1
  refine ⟨relation, held, ?_, ?_, nofun⟩
  · rw [empty]
    exact nofun
  · rw [empty]
    exact nofun

/-- Tables that were made beside each other have names that the engine tells apart. -/
theorem AreFresh.is_alone_in {schema : Schema} {database : Database} {table : Table}
    (fresh : AreFresh schema.tables database) (distinct : (schema.tables.map Table.name).Nodup)
    (member : table ∈ schema.tables) : table.IsAloneIn schema := by
  intro other known
  by_cases same : sameName other.name table.name = true
  · obtain ⟨relation, text, found, definition⟩ := (fresh.fresh table member).made
    obtain ⟨relationToo, textToo, foundToo, definitionToo⟩ := (fresh.fresh other known).made
    rw [Database.relation?_congr same, found] at foundToo
    cases foundToo
    have named : other.name = table.name :=
      (relation_of_definition definitionToo).1.symm.trans (relation_of_definition definition).1
    exact .inl (List.inj_on_of_nodup_map distinct known member named)
  · exact .inr (eq_false_of_ne_true same)

/-! ### Runs -/

/-- What can be done to the tables of a schema, the last step last, with the ledger of the numbers
that additions to one of them have handed out. A commit that is answered, and an addition that is,
keep what was done before. What others do on the host, and the outages that are to come, may change
at any time, as long as what is committed stays. -/
inductive Table.LedgerRun (table : Table) (schema : Schema) (first : Store) :
    Store → Ledger → Prop where
  | start : LedgerRun table schema first first {}
  | begin {store : Store} {ledger : Ledger} (run : LedgerRun table schema first store ledger) :
      LedgerRun table schema first (Operation.begin.apply store).2
        (ledger.settled false (Operation.begin.apply store).2.driver.engineInTransaction)
  | commit {store : Store} {ledger : Ledger} (run : LedgerRun table schema first store ledger) :
      LedgerRun table schema first (Operation.commit.apply store).2
        (ledger.settled (Operation.commit.apply store).1.isOk
          (Operation.commit.apply store).2.driver.engineInTransaction)
  | rollback {store : Store} {ledger : Ledger} (run : LedgerRun table schema first store ledger) :
      LedgerRun table schema first (Operation.rollback.apply store).2
        (ledger.settled false (Operation.rollback.apply store).2.driver.engineInTransaction)
  | add {store : Store} {ledger : Ledger} (run : LedgerRun table schema first store ledger)
      {model : Model} (handle : Handle model) (known : handle.table ∈ schema.tables)
      (entity : Entity model) :
      LedgerRun table schema first (store.add handle entity).2
        ((ledger.noting (table.handedOut? handle (store.add handle entity).1
          (store.add handle entity).2)).settled (store.add handle entity).1.outcome.isOk
            (store.add handle entity).2.driver.engineInTransaction)
  | update {store : Store} {ledger : Ledger} (run : LedgerRun table schema first store ledger)
      {model : Model} (handle : Handle model) (known : handle.table ∈ schema.tables)
      (entity : Entity model) :
      LedgerRun table schema first (store.update handle entity).2
        (ledger.settled false (store.update handle entity).2.driver.engineInTransaction)
  | remove {store : Store} {ledger : Ledger} (run : LedgerRun table schema first store ledger)
      {model : Model} (handle : Handle model) (known : handle.table ∈ schema.tables) (key : Key) :
      LedgerRun table schema first ((Operation.remove handle key).apply store).2
        (ledger.settled false
          ((Operation.remove handle key).apply store).2.driver.engineInTransaction)
  | elsewhere {store : Store} {ledger : Ledger} (run : LedgerRun table schema first store ledger)
      (host : Host) (kept : ({ store with host } : Store).committed = store.committed) :
      LedgerRun table schema first { store with host } ledger

/-- All along a run the ledger is recalled. -/
theorem Table.LedgerRun.recalled {table : Table} {schema : Schema} {first last : Store}
    {ledger : Ledger} {key : String} (admitted : table.IsAdmitted)
    (numbered : table.autoincrementKey? = some key) (alone : table.IsAloneIn schema)
    (run : table.LedgerRun schema first last ledger)
    (initially : ({} : Ledger).IsRecalledIn table first.view) :
    ledger.IsRecalledIn table last.view := by
  induction run with
  | start => exact initially
  | begin _ recalled =>
    rw [← Store.view_is_open]
    exact recalled.withheld (Operation.begin_withholds _)
  | @commit store ledger _ recalled =>
    rw [← Store.view_is_open]
    rcases Operation.commit_turns store with ⟨answered, concludes⟩ | ⟨⟨problem, failed⟩, withholds⟩
    · rw [answered]
      exact recalled.concluded concludes
    · rw [failed]
      exact recalled.withheld withholds
  | rollback _ recalled =>
    rw [← Store.view_is_open]
    exact recalled.withheld (Operation.rollback_withholds _)
  | add _ handle known entity recalled =>
    exact add_recalled admitted numbered alone recalled handle known entity
  | update _ handle known entity recalled =>
    exact update_recalled numbered alone recalled handle known entity
  | remove _ handle known key recalled => exact remove_recalled alone recalled handle known key
  | elsewhere _ host kept recalled =>
    rw [Store.view_elsewhere host kept]
    exact recalled

/-! ### What is written back -/

/-- An addition that is answered writes the number that the engine gave last into the key that it
numbers, as the field of the entity takes it. -/
theorem Store.add_writes_back {model : Model} {handle : Handle model} {entity saved : Entity model}
    {store after : Store} {key : String} {number : Int64}
    (numbered : handle.table.autoincrementKey? = some key)
    (added : store.add handle entity = (⟨saved, .ok ()⟩, after))
    (given : after.lastNumber? = some number) :
    ∃ type, model.typeOf? key = some type ∧
      type.convert (.integer number) = .ok (saved.get key) := by
  obtain ⟨-, -, -, -, writes⟩ := Store.add_ok added
  obtain ⟨connection, type, opened, typed, taken⟩ := (Store.numbered_ok writes).1 key numbered
  rw [Store.lastNumber?, opened] at given
  cases given
  exact ⟨type, typed, taken⟩

/-- Where a model is of the table its field for such a key is one of integers. -/
theorem Model.Suits.type_of?_numbered {model : Model} {table : Table} {key : String}
    (suits : model.Suits table) (admitted : table.IsAdmitted) (apart : ToldApart table.columnNames)
    (numbered : table.autoincrementKey? = some key) : model.typeOf? key = some .integer := by
  obtain ⟨-, column, inTable, isNumbered, rfl⟩ := autoincrement_key?_column apart numbered
  simp only [Bool.and_eq_true] at isNumbered
  have integer := ((admitted.columns column inTable).numbered isNumbered.1).1
  rw [suits.type_of? apart.nodup inTable, integer]
  rfl

/-! ### Additions -/

/-- Generated numbers are fresh. The tables of a schema are created in an idle store, and a run of
additions, updates, removals and transactions follows. An addition that is then answered, to a table
whose key the engine numbers and whatever key the entity had, puts in a row with a positive number
as its key. The number is larger than the key of every row that is there, and than every number in
the ledger of the run. It is the one that the addition hands out, and the entity holds what its
field makes of it, which is the number itself where the model is of the table.

Proof: a run keeps the ledger recalled, by what is seen and by what is committed: an addition
remembers its number with the table, a rollback takes back the ones that wait, and nothing makes a
database remember less. What the engine gives next is above all that is remembered. -/
theorem generated_numbers_are_fresh {tables : List Table} {schema : Schema}
    {store made last after : Store} {table : Table} {key : String} {ledger : Ledger}
    (accepted : Schema.ofTables tables = .ok schema) (member : table ∈ schema.tables)
    (numbered : table.autoincrementKey? = some key) (idle : store.IsIdle)
    (well : store.visible.WellFollowed) (created : schema.IsCreated store made)
    (run : table.LedgerRun schema made last ledger) {model : Model} {handle : Handle model}
    (about : handle.table = table) {entity saved : Entity model}
    (added : last.add handle entity = (⟨saved, .ok ()⟩, after)) :
    ∃ relation put, last.visible.relation? table.name = some relation ∧
      after.visible.relation? table.name = some (relation.put put) ∧
      (relation.put put).rows.Perm (put :: relation.rows) ∧
      relation.value put key = .integer put.number ∧ 0 < put.number ∧
      (∀ row ∈ relation.rows,
        relation.value row key = .integer row.number ∧ row.number < put.number) ∧
      (∀ number ∈ ledger.numbers, number < put.number) ∧
      table.handedOut? handle ⟨saved, .ok ()⟩ after = some put.number ∧
      (∃ type, model.typeOf? key = some type ∧
        type.convert (.integer put.number) = .ok (saved.get key)) ∧
      (model.Suits table → saved.get key = .integer put.number) := by
  subst about
  have admitted := Table.is_admitted_of_fault? (Schema.of_tables_fault? accepted _ member)
  obtain ⟨madeIdle, fresh⟩ := created.fresh accepted idle well
  have nothing := (fresh.fresh _ member).recalls fresh.well
  have initially : ({} : Ledger).IsRecalledIn handle.table made.view :=
    ⟨(show made.view.committed = made.visible from madeIdle.visible_eq.symm) ▸ nothing, nothing,
      fun _ => rfl⟩
  have alone := fresh.is_alone_in (Schema.of_tables_names accepted).1 member
  obtain ⟨relation, held⟩ := (run.recalled admitted numbered alone initially).seen
  obtain ⟨count, row, effect, drawn, makes⟩ := last.add_makes added
  obtain ⟨put, heldNow, shows, positive, above, lastNumber⟩ :=
    held.addition admitted numbered drawn makes
  obtain ⟨type, typed, taken⟩ := Store.add_writes_back numbered added lastNumber
  refine ⟨relation, put, held.found, heldNow.found, relation.put_rows put, shows, positive,
    fun row among => ⟨?_, ?_⟩, fun number among => ?_, ?_, ⟨type, typed, taken⟩, fun suits => ?_⟩
  · exact (held.rows row among).numbered key true (held.shows admitted numbered)
  · exact Int64.lt_of_le_of_lt (held.remembered row among) above
  · exact Int64.lt_of_le_of_lt (held.recalled number among) above
  · simp [Table.handedOut?, Except.isOk, Except.toBool, lastNumber]
  · rw [suits.type_of?_numbered admitted held.apart numbered] at typed
    cases typed
    exact (Except.ok.inj taken).symm

/-! ### A letterbox -/

namespace Letterbox

open Operation

/-- The number of a letter, which the engine gives. -/
def number : Column :=
  { name := "number", type := .integer, primaryKey := true, autoincrement := true }

/-- What a letter says, which can be searched. -/
def message : Column := { name := "message", type := .string, analyzed := true }

/-- A letter with a number and a message. -/
def model : Model := ⟨"letter", [⟨.integer, number⟩, ⟨.text, message⟩]⟩

/-- The schema of the letterbox. -/
def schema : Schema := ⟨[model.table]⟩

/-- The handle of the letterbox. -/
def handle : Handle model := ⟨model.table, rfl⟩

/-- A store that was just opened over memory of its own. -/
def opened : Store :=
  ⟨{ config := {}, connection := some { number := 0, location := .memory 0 } }, {}⟩

/-- The statement that makes the relation of the letterbox. -/
def boxing : Statement Stored := .createTable model.table.definition

/-- The letterbox as the engine makes it. -/
def box (text : String) : Relation where
  name := "letter"
  attributes := [⟨"number", .integer, true, .null⟩, ⟨"message", .text, true, .null⟩]
  identity := .shown "number" true
  uniques := []
  rows := []
  text := text

/-- The database in which there is only the letterbox. -/
def boxed (text : String) : Database := ⟨[.relation (box text), .sequence], []⟩

/-- The store when a transaction was begun to make the letterbox. -/
def begun : Store := (begin.apply opened).2

/-- The store when the relation was made. -/
def tabled : Store :=
  begun.used (Access.runDefinition
    ⟨{ number := 0, location := .memory 0, transaction := some {} }, {}⟩ fun _ =>
      .ok (boxed boxing.render)).access
    ⟨true, boxing.render⟩

/-- The store when the messages were shadowed, too. -/
def shadowed : Store :=
  ((model.table.shadowStatements.forM fun statement => do
    let _ ← creating model.table statement).apply tabled).2

/-- The store with an empty letterbox. -/
def installed : Store := (commit.apply shadowed).2

/-- A letter on which somebody has written a number already. -/
def letter (text : String) : Entity model :=
  ⟨[⟨⟨.integer, number⟩, .integer 1, rfl⟩, ⟨⟨.text, message⟩, .text text, rfl⟩], rfl⟩

/-- The store when the second of two letters was removed again, and a third one was taken back. -/
def emptied : Store :=
  let both := ((installed.add handle (letter "Hello")).2.add handle (letter "Hello again")).2
  let one := ((remove handle (.single (.integer 2))).apply both).2
  let third := ((begin.apply one).2.add handle (letter "Never mind")).2
  (rollback.apply third).2

/-- The letterbox is a table of a schema. -/
theorem accepted : Schema.ofTables [model.table] = .ok schema :=
  Schema.of_tables_ok (by decide +kernel) (by decide +kernel)

/-- The statement makes the letterbox in an empty database. That the type of the numbers is a number
type is shown once, here, since the kernel takes long to find it out by itself, and nothing that
follows evaluates the statement. -/
theorem boxed_made (text : String) :
    Engine.createTable {} model.table.definition text = .ok (boxed text) := by
  have free : isInternalName model.table.definition.name = false := by
    rw [← Bool.not_eq_true, is_internal_name_iff]
    decide
  have made : relationOf model.table.definition text = .ok (box text) := by cbv
  rw [create_table_eq rfl, made, free]
  rfl

/-- Running the statement makes the letterbox. -/
theorem boxing_ran (access : Access) (empty : access.visible = {}) :
    access.run boxing = access.runDefinition fun _ => .ok (boxed boxing.render) := by
  have plain : boxing.mapOperands Stored.bound = boxing := by cbv
  have checked : access.check boxing = .ok () := by
    simp only [Access.check, boxing, Access.definition?, empty, boxed_made]
    rfl
  have performed : access.perform boxing.render boxing = access.runDefinition fun database =>
      Engine.createTable database model.table.definition boxing.render := rfl
  simp only [Access.run, plain, checked, performed, Access.runDefinition, empty, boxed_made]

/-- The store lets the relation be made. -/
theorem tabled_answered : (creating model.table boxing).apply begun = (.ok 0, tabled) := by
  have faultless : model.table.fault?.isNone = true :=
    Option.isNone_iff_eq_none.mpr (Schema.of_tables_fault? accepted model.table List.mem_cons_self)
  have connected : begun.driver.connection =
      some { number := 0, location := .memory 0, transaction := some {} } := rfl
  rw [creating, if_pos faultless]
  refine on_connection_answered connected rfl ?_
  rw [boxing_ran _ rfl]
  rfl

/-- The store comes to have the tables of the schema. -/
theorem installed_answered : schema.IsCreated opened installed := by
  have begins : begin.apply opened = (.ok (), begun) := rfl
  obtain ⟨shadows, commits⟩ : ((model.table.shadowStatements.forM fun statement => do
      let _ ← creating model.table statement).apply tabled).1.isOk = true ∧
      (commit.apply shadowed).1.isOk = true := by
    decide +kernel
  exact .tables
    (create_tables_cons (create_table_answered rfl begins tabled_answered (apply_of_is_ok shadows)
      (apply_of_is_ok commits)))

/-- Two numbers have been handed out for good by then. -/
theorem emptied_run : model.table.LedgerRun schema installed emptied ⟨[1, 2], []⟩ := by
  have known : handle.table ∈ schema.tables := List.mem_cons_self
  have empty : model.table.LedgerRun schema installed installed {} := .start
  have both := (empty.add handle known (letter "Hello")).add handle known (letter "Hello again")
  have one := both.remove handle known (.single (.integer 2))
  obtain ⟨ledger, run, same⟩ :
      ∃ ledger, model.table.LedgerRun schema installed emptied ledger ∧ ledger = ⟨[1, 2], []⟩ := by
    refine ⟨_, (one.begin.add handle known (letter "Never mind")).rollback, ?_⟩
    decide +kernel
  rw [← same]
  exact run

end Letterbox

open Letterbox in
/-- Whatever is written on the next letter, its number is the third one. The number of the letter
that was taken back is handed out again, and that of the letter that was removed is not. -/
theorem next_letter_gets_a_fresh_number :
    Schema.ofTables [model.table] = .ok schema ∧ model.table.autoincrementKey? = some "number" ∧
      opened.IsIdle ∧ opened.visible.WellFollowed ∧ schema.IsCreated opened installed ∧
      model.table.LedgerRun schema installed emptied ⟨[1, 2], []⟩ ∧
      ∃ saved after, emptied.add handle (letter "Dear reader") = (⟨saved, .ok ()⟩, after) ∧
        saved.get "number" = .integer 3 ∧
        ∃ relation put, emptied.visible.relation? model.table.name = some relation ∧
          relation.rows.length = 1 ∧
          after.visible.relation? model.table.name = some (relation.put put) ∧
          (relation.put put).rows.Perm (put :: relation.rows) ∧
          relation.value put "number" = .integer 3 ∧
          (∀ row ∈ relation.rows, row.number < 3) ∧
          ∀ number ∈ ([1, 2] : List Int64), number < 3 := by
  have idle : opened.IsIdle := ⟨rfl, _, rfl, rfl⟩
  have well : opened.visible.WellFollowed := Database.well_followed_of_empty rfl
  obtain ⟨answered, third, single⟩ :
      (emptied.add handle (letter "Dear reader")).1.outcome = .ok () ∧
      (emptied.add handle (letter "Dear reader")).1.entity.get "number" = .integer 3 ∧
      (emptied.visible.relation? model.table.name).any (fun letters =>
        letters.rows.length == 1) = true := by
    decide +kernel
  rcases ran : emptied.add handle (letter "Dear reader") with ⟨⟨saved, outcome⟩, after⟩
  rw [ran] at answered third
  cases answered
  obtain ⟨relation, put, found, foundNow, rows, shows, -, above, past, -, -, isNumber⟩ :=
    generated_numbers_are_fresh accepted List.mem_cons_self rfl idle well installed_answered
      emptied_run (show handle.table = model.table from rfl) ran
  rw [found] at single
  have same : put.number = 3 := by
    have read := (isNumber (.refl _)).symm.trans third
    exact Value.integer.inj read
  rw [same] at shows above past
  exact ⟨accepted, rfl, idle, well, installed_answered, emptied_run, saved, after, rfl,
    third, relation, put, found, by simpa using single, foundNow, rows, shows,
    fun row among => (above row among).2, past⟩

end RecordStore
