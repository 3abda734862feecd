import RecordStore.Proofs.Engine.Apart
import RecordStore.Proofs.Engine.Widths
import RecordStore.Proofs.Shadow.Changes
import RecordStore.Proofs.Store.KeptTables

/-!
# Tables whose rows stay apart

A database keeps a table soundly if it keeps it and the rows of its relation stand apart. Whatever a
change is about, and whatever it does about conflicts, it leaves the table kept soundly, if it gives
the rows that it puts into the table all their values: each row of the change is put in, taken out
or put in another's place by itself, and triggers do not touch the table.
-/

namespace RecordStore

open Engine Sql

namespace Engine

/-- What follows a row of a table leaves another table alone, in a database in which no trigger
changes that one. -/
def Fire.Spares (fire : Fire) (name : String) : Prop :=
  ∀ event rows database after, database.Spares name → fire event rows database = .ok after →
    database.AgreeOn [name] after

/-- What follows a row of a table spares every table that no trigger changes. -/
theorem follow_spares (depth : Nat) (running : List String) (table name : String) :
    (follow depth running table).Spares name := fun event rows database after spared fired =>
  follow_outside [name] spared.outside depth running table event rows database after
    (.refl _ _) fired

/-- A change is done row by row. What follows a row is nothing, in a database without objects, or
what the triggers of the table make of it. -/
theorem change_fires (database : Database) (change : Change Stored) : ∃ fire : Fire,
    ((fire = fun _ _ after => .ok after) ∨ ∃ depth, fire = follow depth [] (tableOf change)) ∧
      database.change change = runOnce fire [] database change := by
  unfold Database.change
  cases database.objects.length with
  | zero => exact ⟨_, .inl rfl, rfl⟩
  | succ depth => exact ⟨_, .inr ⟨depth, rfl⟩, rfl⟩

/-- What follows the rows of a change leaves alone what no trigger changes. -/
theorem change_once (database : Database) (change : Change Stored)
    (name : String) : ∃ fire : Fire, fire.Spares name ∧
      database.change change = runOnce fire [] database change := by
  obtain ⟨fire, rfl | ⟨depth, rfl⟩, once⟩ := change_fires database change
  · refine ⟨_, ?_, once⟩
    rintro event rows before after - ⟨⟩
    exact .refl _ _
  · exact ⟨_, follow_spares depth [] (tableOf change) name, once⟩

/-- Whether a table is spared depends on the triggers alone. -/
theorem Database.Spares.congr {database after : Database} {name : String}
    (spared : database.Spares name)
    (triggers : ∀ other event, after.triggersOn other event = database.triggersOn other event) :
    after.Spares name := by
  intro other event
  rw [triggers]
  exact spared other event

end Engine

namespace Table

/-- A database keeps a table in a relation whose rows stand apart. -/
structure IsSoundIn (table : Table) (database : Database) (relation : Relation) : Prop
    extends table.IsKeptIn database relation where
  sound : relation.IsSound

/-- A database keeps a table soundly in some relation. -/
def IsSoundlyKept (table : Table) (database : Database) : Prop :=
  ∃ relation, table.IsSoundIn database relation

variable {table : Table} {database after : Database} {relation : Relation} {row : Row}

/-! ### Rows that are kept -/

/-- A database that agrees with one that keeps a table keeps it. -/
theorem IsSoundIn.agree (held : table.IsSoundIn database relation)
    (agree : database.AgreeOn [table.name] after) : table.IsSoundIn after relation where
  toIsKeptIn := held.toIsKeptIn.with_rows
    ((agree.relations table.name List.mem_cons_self).trans held.found) held.rows
    (held.spared.congr agree.triggers)
  sound := held.sound

/-- The relation with other rows that are kept and stand apart is kept in the place of the old one,
also when what follows has happened. -/
theorem IsSoundIn.become (held : table.IsSoundIn database relation) {fire : Fire}
    (spares : fire.Spares table.name) {rows : List Row} (keeps : ∀ row ∈ rows, relation.Keeps row)
    (sound : ({ relation with rows } : Relation).IsSound) {changed : Database}
    (found : changed.relation? table.name = some { relation with rows })
    (triggers : ∀ other event, changed.triggersOn other event = database.triggersOn other event)
    {event : RowEvent} {known : Scope} (fired : fire event known changed = .ok after) :
    table.IsSoundIn after { relation with rows } := by
  have spared := held.spared.congr triggers
  have now : table.IsSoundIn changed { relation with rows } :=
    ⟨held.toIsKeptIn.with_rows found keeps spared, sound⟩
  exact now.agree (spares event known changed after spared fired)

/-- A row to which values were assigned is kept. -/
theorem IsKeptIn.renumbered (kept : table.IsKeptIn database relation) {old : Row}
    {values : List Stored} (lengths : values.length = relation.attributes.length)
    (renumbered : Engine.renumbered relation old values = .ok row) : relation.Keeps row := by
  obtain ⟨same, shows⟩ := renumbered_ok renumbered
  refine ⟨?_, fun attr member => ?_, shows⟩
  · rw [same, Relation.conform_length _ _ lengths]
  · rw [Relation.value, same]
    exact ⟨_, Relation.value_in_conform_of_meant lengths (kept.meant?_attr member)⟩

section Renumbered

variable (kept : table.IsKeptIn database relation) {old : Row} {values : List Stored}
  (lengths : values.length = relation.attributes.length)
  (changed : Engine.renumbered relation old values = .ok row)

include kept lengths changed

/-- A row to which values were assigned has under each column what the column stores for its
value. -/
theorem IsKeptIn.renumbered_value {column : Column} (inTable : column ∈ table.columns) :
    table.valueOf row.values column.name =
      column.type.affinity.store (Relation.valueIn relation.attributes values column.name) := by
  obtain ⟨attr, means, -, affinity⟩ := kept.meant? inTable
  rw [← kept.is_read_in.value, Relation.value, (renumbered_ok changed).1,
    Relation.value_in_conform_of_meant lengths means, affinity]

variable (member : old ∈ relation.rows)

include member

/-- Where the old value was left, the row has the old value: storing it again changes nothing. -/
theorem IsKeptIn.renumbered_same {column : Column} (inTable : column ∈ table.columns)
    (left : Relation.valueIn relation.attributes values column.name =
      relation.value old column.name) :
    table.valueOf row.values column.name = table.valueOf old.values column.name := by
  obtain ⟨attr, means, named, affinity⟩ := kept.meant? inTable
  obtain ⟨given, stored⟩ := (kept.rows old member).stored attr (List.mem_of_find?_eq_some means)
  rw [kept.renumbered_value lengths changed inTable, left, ← kept.is_read_in.value, ← named, stored,
    affinity, Affinity.store_store]

/-- A row whose key was left keeps its number. -/
theorem IsKeptIn.renumbered_number (keyed : table.primaryKey ≠ [])
    (left : ∀ column ∈ table.primaryKey,
      Relation.valueIn relation.attributes values column = relation.value old column) :
    row.number = old.number := by
  cases identity : relation.identity with
  | shown column again =>
    have inKey : column ∈ table.primaryKey := by simp [kept.shown_in_key keyed identity]
    obtain ⟨declared, inTable, -, rfl⟩ := mem_primary_key.mp inKey
    have same := kept.renumbered_same lengths changed member inTable (left _ inKey)
    rw [← kept.is_read_in.value, ← kept.is_read_in.value,
      (renumbered_ok changed).2 _ again identity,
      (kept.rows old member).numbered _ again identity] at same
    exact Stored.integer.inj same
  | _ =>
    simp only [Engine.renumbered, identity] at changed
    cases changed
    rfl

end Renumbered

/-! ### Row by row -/

section Steps

variable {fire : Fire} (spares : fire.Spares table.name) {name : String}
  (same : sameName name table.name = true) {effect next : Effect}
  (held : table.IsSoundIn effect.database relation)

include spares same held

/-- A row that is put in, whatever happens to those that are in its way. -/
theorem insert_row_sound (keyed : table.primaryKey ≠ []) {conflict : Conflict}
    {values : List Stored} (lengths : values.length = relation.attributes.length)
    (inserted : insertRow fire conflict name effect values = .ok next) :
    table.IsSoundlyKept next.database := by
  have found := (Database.relation?_congr same effect.database).trans held.found
  obtain ⟨_, row, foundToo, numbered, which⟩ := insert_row_ok inserted
  cases found.symm.trans foundToo
  rcases which with ⟨-, rfl⟩ | ⟨admitted, after, makes, followed, rfl⟩
  · exact ⟨relation, held.agree (Database.AgreeOn.note_number (.refl _ _) relation row)⟩
  · obtain ⟨rows, fewer, -, rfl, complete, apart⟩ := Relation.room_for_ok makes
    have sound : (({ relation with rows } : Relation).put row).IsSound :=
      (held.sound.fewer fewer).put complete fun other member => (apart other member).among rows
    have stands : (withRow effect.database { relation with rows } row).relation? table.name =
        some (({ relation with rows } : Relation).put row) :=
      relation?_with_row held.found (show ({ relation with rows } : Relation).name = _ from rfl) row
    refine ⟨_, held.become spares (fun other member => ?_) sound stands (triggers_on_with_row _ _ _)
      followed⟩
    rcases Relation.mem_put.mp member with rfl | old
    · exact held.toIsKeptIn.numbered keyed lengths numbered
    · exact held.rows other (fewer.subset old)

/-- A row that is taken out, if it still stands in its place. -/
theorem delete_row_sound {row : Row} (deleted : deleteRow fire name effect row = .ok next) :
    (next = effect ∧ relation.standing? row = none) ∨
      (next.changed = effect.changed + 1 ∧ table.IsSoundIn next.database (relation.drop row)) := by
  have found := (Database.relation?_congr same effect.database).trans held.found
  rcases delete_row_ok deleted with ⟨rfl, gone⟩ | ⟨_, after, foundToo, followed, rfl⟩
  · exact .inl ⟨rfl, gone relation found⟩
  · cases found.symm.trans foundToo
    refine .inr ⟨rfl, held.become spares (fun other member => ?_) (held.sound.drop row)
      (Database.relation?_with_relation held.found rfl)
        (Database.triggers_on_with_relation _ _) followed⟩
    exact held.rows other (Relation.mem_drop.mp member).1

/-- A row that takes the place of another one. It does not only if no row stands in its place any
more, or if conflicts are ignored. -/
theorem update_row_sound {outer : Scope} {modification : Update Stored}
    (about : modification.table = name) {row : Row}
    (updated : updateRow fire outer modification effect row = .ok next) :
    (next = effect ∧ (relation.standing? row = none ∨ modification.conflict = .ignore)) ∨
      ∃ old ∈ relation.rows, relation.standing? row = some old ∧ ∃ rows new,
        rows.Sublist (relation.drop old).rows ∧
        (modification.conflict ≠ .replace → rows = (relation.drop old).rows) ∧
        Engine.renumbered relation old (assigned relation.attributes
          (relation.binding relation.name old :: outer) modification.assignments old.values) =
            .ok new ∧
        next.changed = effect.changed + 1 ∧
        table.IsSoundIn next.database (({ relation with rows } : Relation).put new) := by
  have found := (Database.relation?_congr same effect.database).trans held.found
  rw [← about] at found
  rcases update_row_ok updated with ⟨rfl, undone⟩ |
    ⟨_, old, new, admitted, after, foundToo, standing, renumbered, makes, followed, rfl⟩
  · refine .inl ⟨rfl, ?_⟩
    cases standing : relation.standing? row with
    | none => exact .inl rfl
    | some old =>
      obtain ⟨changed, leftOut⟩ := undone relation found old standing
      exact .inr (Relation.room_for_none leftOut)
  · cases found.symm.trans foundToo
    have member := Relation.mem_of_standing? standing
    obtain ⟨rows, fewer, all, rfl, complete, apart⟩ := Relation.room_for_ok makes
    have lengths := (assigned_length relation.attributes
      (relation.binding relation.name old :: outer) modification.assignments old.values).trans
        (held.rows old member).full
    have earlier : rows.Sublist relation.rows := fewer.trans List.filter_sublist
    have sound : (({ relation with rows } : Relation).put new).IsSound :=
      (held.sound.fewer earlier).put complete fun other among => (apart other among).among rows
    refine .inr ⟨old, member, standing, rows, new, fewer, all,
      renumbered, rfl, held.become spares (fun other among => ?_) sound
        (Database.relation?_with_relation held.found rfl) (Database.triggers_on_with_relation _ _)
        followed⟩
    rcases Relation.mem_put.mp among with rfl | kept
    · exact held.toIsKeptIn.renumbered lengths renumbered
    · exact held.rows other (earlier.subset kept)

end Steps

/-! ### Whole changes -/

/-- A change that is about a table, and gives each row that it puts in all its values, keeps the
table soundly kept. -/
theorem run_once_sound {fire : Fire} (spares : fire.Spares table.name)
    (keyed : table.primaryKey ≠ []) {outer : Scope} {change : Change Stored} {effect : Effect}
    (same : sameName (tableOf change) table.name = true)
    (held : table.IsSoundIn database relation) (fills : Fills database relation change)
    (done : runOnce fire outer database change = .ok effect) :
    table.IsSoundlyKept effect.database := by
  let Held (state : Effect) : Prop := table.IsSoundlyKept state.database
  have initially : Held { database } := ⟨relation, held⟩
  have found := (Database.relation?_congr same database).trans held.found
  cases change with
  | insert insertion =>
    have named : database.relation? insertion.table = some relation := found
    simp only [runOnce, runInsert, named] at done
    obtain ⟨rows, made, folded⟩ := bind_ok done
    refine foldl_m_keeps Held _ rows initially ?_ folded
    rintro state values next member ⟨now, heldNow⟩ inserted
    have lengths := inserted_rows_length fills made values member
    rw [held.attributes, ← heldNow.attributes] at lengths
    exact insert_row_sound spares same heldNow keyed lengths inserted
  | update modification =>
    have named : database.relation? modification.table = some relation := found
    simp only [runOnce, runUpdate, named] at done
    refine foldl_m_keeps Held _ _ initially ?_ done
    rintro state row next member ⟨now, heldNow⟩ updated
    rcases update_row_sound spares same heldNow rfl updated with
      ⟨rfl, -⟩ | ⟨old, -, -, kept, new, -, -, -, -, heldNext⟩
    · exact ⟨now, heldNow⟩
    · exact ⟨_, heldNext⟩
  | delete deletion =>
    have named : database.relation? deletion.table = some relation := found
    simp only [runOnce, runDelete, named] at done
    refine foldl_m_keeps Held _ _ initially ?_ done
    rintro state row next member ⟨now, heldNow⟩ deleted
    rcases delete_row_sound spares same heldNow deleted with ⟨rfl, -⟩ | ⟨-, heldNext⟩
    · exact ⟨now, heldNow⟩
    · exact ⟨_, heldNext⟩

/-- A change of another table, with all that its triggers do, leaves a table kept soundly as it
is. -/
theorem IsSoundIn.elsewhere (held : table.IsSoundIn database relation) {change : Change Stored}
    {effect : Effect} (other : sameName (tableOf change) table.name = false)
    (done : database.change change = .ok effect) : table.IsSoundIn effect.database relation := by
  have outside : Outside [table.name] (tableOf change) := by
    intro kept member
    cases List.mem_singleton.mp member
    exact other
  exact held.agree (Database.change_outside
    (fun name event _ => held.spared.outside name event) outside done)

/-- So a change of any table keeps a table soundly kept. -/
theorem IsSoundlyKept.change (kept : table.IsSoundlyKept database) (keyed : table.primaryKey ≠ [])
    {change : Change Stored} {effect : Effect} (fills : FillsFound database change)
    (done : database.change change = .ok effect) : table.IsSoundlyKept effect.database := by
  obtain ⟨relation, held⟩ := kept
  by_cases same : sameName (tableOf change) table.name = true
  · obtain ⟨fire, spares, once⟩ := change_once database change table.name
    rw [once] at done
    exact run_once_sound spares keyed same held
      (fills relation ((Database.relation?_congr same database).trans held.found)) done
  · exact ⟨relation, held.elsewhere (eq_false_of_ne_true same) done⟩

/-! ### Changes of one row -/

/-- Values with those of entries put under the names of the entries. -/
def overlaid (attributes : List Attribute) (row : List (String × Stored)) (values : List Stored) :
    List Stored :=
  row.foldl (fun values entry => Relation.replaceIn attributes values entry.1 entry.2) values

/-- Operands that are assigned are put under their names, whatever is known. -/
theorem assigned_operands (attributes : List Attribute) (scope : Scope)
    (row : List (String × Stored)) (values : List Stored) :
    assigned attributes scope (row.map fun entry => (entry.1, .operand entry.2)) values =
      overlaid attributes row values := List.foldl_map

/-- The rows of a table on which a condition holds. -/
def rowsUnder (table : Table) (relation : Relation) (condition : Condition) : List Row :=
  relation.rows.filter fun row => holds [relation.binding table.name row] condition

/-- The rows that a change under a condition is about. -/
theorem IsSoundIn.targets (held : table.IsSoundIn database relation) (condition : Condition) :
    (relation.rows.filter fun row =>
      allHold [relation.binding relation.name row] (some [condition])) =
        table.rowsUnder relation condition := by
  simp [rowsUnder, allHold, held.name]

/-- Rows of the relation that are taken out one after the other, each of them once. By induction on
these rows: the others stand elsewhere, so they are still there in the next turn. -/
theorem delete_rows_sound {fire : Fire} (spares : fire.Spares table.name) {rows : List Row}
    {effect last : Effect} (held : table.IsSoundIn effect.database relation)
    (among : rows.Sublist relation.rows)
    (deleted : rows.foldlM (deleteRow fire table.name) effect = .ok last) :
    last.changed = effect.changed + rows.length ∧
      table.IsSoundIn last.database (rows.foldl Relation.drop relation) := by
  induction rows generalizing effect relation with
  | nil =>
    cases deleted
    exact ⟨rfl, held⟩
  | cons row rest inductionHypothesis =>
    rw [List.foldlM_cons] at deleted
    obtain ⟨next, first, later⟩ := bind_ok deleted
    rcases delete_row_sound spares (same_name_refl _) held first with
      ⟨-, gone⟩ | ⟨changed, heldNext⟩
    · cases gone.symm.trans (held.sound.standing? (among.subset List.mem_cons_self))
    · have apart := (List.pairwise_cons.mp (held.sound.apart.sublist among)).1
      have stay : rest.filter (fun other => relation.rowOrder other row != .eq) = rest :=
        List.filter_eq_self.mpr fun other member => by
          simpa using (apart other member).symm.places
      have still : rest.Sublist (relation.drop row).rows := by
        rw [← stay]
        exact (List.sublist_of_cons_sublist among).filter _
      obtain ⟨counts, heldLast⟩ := inductionHypothesis heldNext still later
      refine ⟨?_, heldLast⟩
      rw [counts, changed, List.length_cons]
      omega

/-- A deletion under a condition takes out the rows on which the condition holds, and counts
them. -/
theorem IsSoundIn.deletes (held : table.IsSoundIn database relation) {condition : Condition}
    {effect : Effect} (done : database.change (table.deletion condition) = .ok effect) :
    effect.changed = (table.rowsUnder relation condition).length ∧
      table.IsSoundIn effect.database { relation with
        rows := relation.rows.filter fun row =>
          !holds [relation.binding table.name row] condition } := by
  obtain ⟨fire, spares, once⟩ := change_once database (table.deletion condition) table.name
  rw [once] at done
  simp only [runOnce, deletion, runDelete, held.found, held.targets] at done
  obtain ⟨counts, heldLast⟩ := delete_rows_sound spares held List.filter_sublist done
  refine ⟨counts.trans (Nat.zero_add _), ?_⟩
  rwa [held.sound.drop_filter] at heldLast

section One

variable {condition : Condition} (few : (table.rowsUnder relation condition).length ≤ 1)

include few

/-- Under the condition of a key stands no row, or one. -/
theorem rows_under_cases : table.rowsUnder relation condition = [] ∨
    ∃ row ∈ relation.rows, table.rowsUnder relation condition = [row] := by
  match targets : table.rowsUnder relation condition with
  | [] => exact .inl rfl
  | [row] =>
    have among : row ∈ table.rowsUnder relation condition := by simp [targets]
    exact .inr ⟨row, (List.mem_filter.mp among).1, rfl⟩
  | _ :: _ :: _ => simp [targets] at few

variable (held : table.IsSoundIn database relation) {effect : Effect}

include held

/-- A deletion under a condition that holds on one row at most takes out one row at most. -/
theorem IsSoundIn.deletes_one (done : database.change (table.deletion condition) = .ok effect) :
    effect.changed ≤ 1 ∧ ∃ gone left, gone.length = effect.changed ∧
      relation.rows.Perm (gone ++ left) ∧
      table.IsSoundIn effect.database { relation with rows := left } := by
  obtain ⟨counts, heldNow⟩ := held.deletes done
  exact ⟨counts ▸ few, table.rowsUnder relation condition, _, counts.symm,
    (List.filter_append_perm _ _).symm, heldNow⟩

/-- An update under such a condition puts a row in the place of the one on which the condition
holds, or does nothing. -/
theorem IsSoundIn.modifies_one {row : List (String × Stored)}
    (done : database.change (table.modification row condition) = .ok effect) :
    (table.rowsUnder relation condition = [] ∧ effect = { database }) ∨
      ∃ old ∈ relation.rows, table.rowsUnder relation condition = [old] ∧
        effect.changed = 1 ∧ ∃ new,
        Engine.renumbered relation old (overlaid relation.attributes row old.values) = .ok new ∧
        table.IsSoundIn effect.database ((relation.drop old).put new) := by
  obtain ⟨fire, spares, once⟩ := change_once database (table.modification row condition) table.name
  rw [once] at done
  simp only [runOnce, modification, runUpdate, held.found, held.targets] at done
  rcases rows_under_cases few with none | ⟨target, member, one⟩
  · rw [none] at done
    cases done
    exact .inl ⟨none, rfl⟩
  · rw [one, List.foldlM_cons] at done
    obtain ⟨next, updated, ended⟩ := bind_ok done
    cases ended
    have stands := held.sound.standing? member
    rcases update_row_sound spares (same_name_refl _) held rfl updated with
      ⟨-, gone | ignored⟩ | ⟨old, among, standing, rows, new, -, all, renumbered, changed, heldNext⟩
    · cases gone.symm.trans stands
    · cases ignored
    · cases standing.symm.trans stands
      rw [assigned_operands] at renumbered
      refine .inr ⟨target, member, one, changed, new, renumbered, ?_⟩
      rw [all fun replaces => by cases replaces] at heldNext
      exact heldNext

end One

end Table

end RecordStore
