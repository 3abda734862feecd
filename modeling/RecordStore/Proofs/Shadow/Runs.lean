import RecordStore.Proofs.Store.Drafts
import RecordStore.Proofs.Store.Tables
import RecordStore.Store.Entities

/-!
# Full-text tables along runs

A store whose tables were made by their schema goes on to add, update and remove entities, to
begin transactions and to end them. As long as no row has a null in its key, the full-text table
of an analyzed table holds the carried columns of the rows of the table, once for each row, and
nothing else: in what the store shows and in what is committed.
-/

namespace RecordStore

open Engine Sql

/-! ### Rows that entities write -/

namespace Entity

variable {model : Model}

/-- An update writes no key column. -/
theorem row_keeps_key {table : Table} {entity : Entity model} {count : Nat}
    {row : List (String × Stored)} (apart : ToldApart table.columnNames)
    (drawn : (entity.row table true count).outcome = .ok row) :
    ∀ entry ∈ row, ∀ key ∈ table.primaryKey, sameName entry.1 key = false := by
  intro entry member key inKey
  obtain ⟨keyColumn, keyInTable, isKey, rfl⟩ := Table.mem_primary_key.mp inKey
  exact row_spares apart drawn keyInTable (by simp [rowColumns, isKey]) entry member

end Entity

/-! ### Changes of the tables of a schema -/

namespace Table

/-- What can be done to a store with the tables of a schema, the last step last. No row that is
added leaves the table with a null in a key. What others do on the host, and the outages that are
to come, may change at any time, as long as what is committed stays. -/
inductive Run (table : Table) (schema : Schema) : Store → Store → Prop where
  | start (store : Store) : Run table schema store store
  | begin {first store : Store} (run : Run table schema first store) :
      Run table schema first (Operation.begin.apply store).2
  | commit {first store : Store} (run : Run table schema first store) :
      Run table schema first (Operation.commit.apply store).2
  | rollback {first store : Store} (run : Run table schema first store) :
      Run table schema first (Operation.rollback.apply store).2
  | add {first store : Store} (run : Run table schema first store) {model : Model}
      (handle : Handle model) (known : handle.table ∈ schema.tables) (entity : Entity model)
      (present : table.KeysPresent (store.add handle entity).2.visible) :
      Run table schema first (store.add handle entity).2
  | update {first store : Store} (run : Run table schema first store) {model : Model}
      (handle : Handle model) (known : handle.table ∈ schema.tables) (entity : Entity model) :
      Run table schema first (store.update handle entity).2
  | remove {first store : Store} (run : Run table schema first store) {model : Model}
      (handle : Handle model) (known : handle.table ∈ schema.tables) (key : Key) :
      Run table schema first ((Operation.remove handle key).apply store).2
  | elsewhere {first store : Store} (run : Run table schema first store) (host : Host)
      (kept : ({ store with host } : Store).committed = store.committed) :
      Run table schema first { store with host }

/-- The tables of a schema are the one at hand, or told apart from it and its full-text table. -/
def IsApartIn (table : Table) (schema : Schema) : Prop :=
  ∀ other ∈ schema.tables, other = table ∨ Outside table.ownNames other.name

variable {table : Table} {schema : Schema} {store : Store} {model : Model}

/-- A change of a table of the schema keeps the mirror if it keeps it in the table itself. -/
theorem changing_mirrored {other : Table} {change : Change Stored}
    (apart : table.IsApartIn schema) (known : other ∈ schema.tables)
    (about : tableOf (change.mapOperands Stored.bound) = other.name)
    (mirrored : store.Shows table.IsMirrored)
    (own : other = table → ∀ effect,
      store.visible.change (change.mapOperands Stored.bound) = .ok effect →
      ((Operation.executing (.change change)).apply store).2.visible = effect.database →
      table.IsMirrored effect.database) :
    ((Operation.executing (.change change)).apply store).2.Shows table.IsMirrored := by
  refine Operation.changing_shows mirrored fun effect done seen => ?_
  rcases apart other known with same | outside
  · exact own same effect done seen
  · exact change_elsewhere_mirrored mirrored.2.1 (about ▸ outside) done

/-- An addition leaves the table mirrored, unless it leaves a null in a key. -/
theorem add_mirrored (apart : table.IsApartIn schema) (handle : Handle model)
    (known : handle.table ∈ schema.tables) (entity : Entity model)
    (mirrored : store.Shows table.IsMirrored)
    (present : table.KeysPresent (store.add handle entity).2.visible) :
    (store.add handle entity).2.Shows table.IsMirrored := by
  refine @Store.add_ends_in _ handle entity store
    (fun after => table.KeysPresent after.visible → after.Shows table.IsMirrored)
    (fun _ => mirrored) (fun row _ present => ?_) present
  have drafted : (store.withCount
      (entity.row handle.table false store.host.count).count).Shows table.IsMirrored := mirrored
  refine changing_mirrored apart known (by rw [insertion_bound]; rfl) drafted
    fun same effect done seen => ?_
  rw [insertion_bound, same] at done
  exact change_insertion_mirrored drafted.2.1 done (seen ▸ present)

/-- An update leaves the table mirrored. -/
theorem update_mirrored (apart : table.IsApartIn schema) (handle : Handle model)
    (known : handle.table ∈ schema.tables) (entity : Entity model)
    (mirrored : store.Shows table.IsMirrored) :
    (store.update handle entity).2.Shows table.IsMirrored := by
  obtain ⟨relation, shadow, made, -⟩ := mirrored.2.1
  refine Store.update_ends_in mirrored mirrored fun criteria row _ drawn => ?_
  refine Operation.overwrite_keeps criteria (fun condition before mirroredBefore => ?_) _ mirrored
  refine changing_mirrored apart known (by rw [modification_bound]; rfl) mirroredBefore
    fun same effect done seen => ?_
  rw [modification_bound, same] at done
  rw [same] at drawn
  refine change_modification_mirrored mirroredBefore.2.1 ?_ done
  intro entry member key inKey
  obtain ⟨plain, among, rfl⟩ := List.mem_map.mp member
  exact Entity.row_keeps_key made.apart drawn plain among key inKey

/-- A removal leaves the table mirrored. -/
theorem remove_mirrored (apart : table.IsApartIn schema) (handle : Handle model)
    (known : handle.table ∈ schema.tables) (key : Key) :
    Operation.Keeps (Store.Shows table.IsMirrored) (Operation.remove handle key) := by
  refine .bind (.of_except _) fun _ => .bind (.of_except _) fun condition store mirrored => ?_
  refine changing_mirrored apart known (by rw [deletion_bound]; rfl) mirrored
    fun same effect done seen => ?_
  rw [deletion_bound, same] at done
  exact change_deletion_mirrored mirrored.2.1 done

/-- A run keeps the mirror. -/
theorem Run.mirrored {first last : Store} (apart : table.IsApartIn schema)
    (run : table.Run schema first last) (initially : first.Shows table.IsMirrored) :
    last.Shows table.IsMirrored := by
  induction run with
  | start => exact initially
  | begin _ kept => exact Operation.begin_shows _ kept
  | commit _ kept => exact Operation.commit_shows _ kept
  | rollback _ kept => exact Operation.rollback_shows _ kept
  | add _ handle known entity present kept =>
    exact add_mirrored apart handle known entity kept present
  | update _ handle known entity kept =>
    exact update_mirrored apart handle known entity kept
  | remove _ handle known key kept => exact remove_mirrored apart handle known key _ kept
  | elsewhere _ host committed kept => exact kept.elsewhere host committed

/-- The full-text table of a table has the carried columns, and its rows are those of the table
projected on them: each once, in whatever order. -/
def ShadowIsProjection (table : Table) (database : Database) : Prop :=
  ∃ relation shadow, database.relation? table.name = some relation ∧
    database.fullText? table.shadowName = some shadow ∧
    shadow.columns.map FullTextColumn.name = table.carriedColumns ∧
    (shadow.rows.map Row.values).Perm
      (relation.rows.map fun row => table.carriedColumns.map (relation.value row))

/-- A full-text table that mirrors a table is its projection. -/
theorem IsMirrored.shadow_is_projection {database : Database}
    (mirrored : table.IsMirrored database) : table.ShadowIsProjection database := by
  obtain ⟨relation, shadow, made, copied⟩ := mirrored
  refine ⟨relation, shadow, made.made, made.shadowed, ?_, copied.copies⟩
  simp only [made.carried, shadowDefinition, List.map_map]
  exact List.map_id _

/-- The names of the tables that were made tell an analyzed table apart from the others. -/
theorem is_apart_in_of_holds_tables {database : Database}
    (holds : HoldsTables schema.tables database)
    (member : table ∈ schema.tables) (analyzed : table.isAnalyzed = true) :
    table.IsApartIn schema := by
  have names : table.madeNames = table.ownNames := by
    simp [madeNames, ownNames, shadowName?, analyzed]
  intro other known
  rcases holds.apart_names known member with same | apart
  · exact .inl same
  · refine .inr fun name among => apart other.name List.mem_cons_self name ?_
    rw [names]
    exact among

end Table

/-- The tables of a schema were made in an idle store without any objects. Whatever run of
additions, updates, removals and transactions follows, as long as no row is left with a null in
its key, the full-text table of an analyzed table holds the projection of its rows on the
carried columns, in what the store shows and in what is committed.

Proof: creation leaves every analyzed table mirrored, and each step of a run keeps that: a change of
the table by its triggers, a change of another table because it is told apart, and the end of a
transaction because what is seen and what is committed are both mirrored. The induction is on the
run. -/
theorem shadow_is_projection_in_every_run {tables : List Table} {schema : Schema}
    {store made last : Store} {table : Table}
    (accepted : Schema.ofTables tables = .ok schema) (member : table ∈ schema.tables)
    (analyzed : table.isAnalyzed = true)
    (idle : store.IsIdle) (empty : store.visible.objects = [])
    (created : (Operation.createTables schema).apply store = (.ok (), made))
    (run : table.Run schema made last) :
    table.ShadowIsProjection last.visible ∧ table.ShadowIsProjection last.committed := by
  obtain ⟨madeIdle, holds⟩ := Operation.create_tables_ok (Schema.of_tables_fault? accepted) idle
    (holds_tables_of_empty empty) created
  rw [List.nil_append] at holds
  have mirrored := holds.mirrored table member analyzed
  have initially : made.Shows table.IsMirrored := by
    obtain ⟨connection, opened, -⟩ := madeIdle.idle
    refine ⟨by simp [Driver.isConnected, opened], mirrored, ?_⟩
    rw [← madeIdle.visible_eq]
    exact mirrored
  have kept := run.mirrored (Table.is_apart_in_of_holds_tables holds member analyzed) initially
  exact ⟨kept.2.1.shadow_is_projection, kept.2.2.shadow_is_projection⟩

/-! ### A shelf of books -/

namespace Bookshelf

/-- The number of a book, which is its key. -/
def isbn : Column := { name := "isbn", type := .string, primaryKey := true }

/-- The title of a book, which is searched. -/
def title : Column := { name := "title", type := .string, analyzed := true }

/-- The model of a book. -/
def model : Model := ⟨"book", [⟨.text, isbn⟩, ⟨.text, title⟩]⟩

/-- The schema of a shelf of books. -/
def schema : Schema := ⟨[model.table]⟩

/-- The handle of the shelf. -/
def handle : Handle model := ⟨model.table, rfl⟩

/-- A store that was just opened over memory of its own. -/
def opened : Store :=
  ⟨{ config := {}, connection := some { number := 0, location := .memory 0 } }, {}⟩

/-- The store with an empty shelf. -/
def furnished : Store := ((Operation.createTables schema).apply opened).2

/-- A book with a tale. -/
def tale : Entity model :=
  ⟨[⟨⟨.text, isbn⟩, .text "1", rfl⟩, ⟨⟨.text, title⟩, .text "A tale", rfl⟩], rfl⟩

/-- Creating the tables in the open store leads to the empty shelf. -/
theorem furnished_answered :
    (Operation.createTables schema).apply opened = (.ok (), furnished) :=
  Operation.apply_of_is_ok (by decide +kernel)

end Bookshelf

open Bookshelf in
/-- A book that was put on the shelf in a transaction has its one copy, and so has the shelf
when the transaction is rolled back. -/
theorem shadow_is_projection_on_the_shelf :
    let added := ((Operation.begin.apply furnished).2.add handle tale).2
    let last := (Operation.rollback.apply added).2
    Schema.ofTables [model.table] = .ok schema ∧ model.table.Run schema furnished last ∧
      (added.visible.relation? model.table.name).any (fun shelf => shelf.rows.length == 1) ∧
      model.table.ShadowIsProjection added.visible ∧
      model.table.ShadowIsProjection last.visible := by
  intro added last
  have accepted : Schema.ofTables [model.table] = .ok schema :=
    Schema.of_tables_ok (by decide +kernel) (by decide +kernel)
  have idle : opened.IsIdle := ⟨rfl, _, rfl, rfl⟩
  have one : (added.visible.relation? model.table.name).any (fun shelf =>
      shelf.rows.length == 1 && shelf.rows.all fun row => !(shelf.value row "isbn").isNull) =
        true := by
    decide +kernel
  obtain ⟨shelf, found, single⟩ := Option.any_eq_true _ _ |>.mp one
  simp only [Bool.and_eq_true, List.all_eq_true, Bool.not_eq_true'] at single
  have present : model.table.KeysPresent added.visible := by
    intro relation held row member key inKey
    cases found.symm.trans held
    cases List.mem_singleton.mp (show key ∈ ["isbn"] from inKey)
    exact single.2 row member
  have run : model.table.Run schema furnished added :=
    .add (.begin (.start furnished)) handle List.mem_cons_self tale present
  refine ⟨accepted, .rollback run, ?_, ?_, ?_⟩
  · rw [found]
    exact single.1
  · exact (shadow_is_projection_in_every_run accepted List.mem_cons_self rfl idle rfl
      furnished_answered run).1
  · exact (shadow_is_projection_in_every_run accepted List.mem_cons_self rfl idle rfl
      furnished_answered (.rollback run)).1

end RecordStore
