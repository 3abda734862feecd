import RecordStore.Proofs.Engine.Apart
import RecordStore.Proofs.Engine.Insertion
import RecordStore.Proofs.Query.Tables
import RecordStore.Proofs.Schema.Admission
import RecordStore.Proofs.Value.Columns

/-!
# Tables that a database keeps

A database keeps a table if its relation is the one that the engine makes for the table, every row
holds what its columns have stored, and no trigger changes the table. Putting a row in keeps it
kept: the rows that were there stay, and the key of the new row is none of theirs.
-/

namespace RecordStore

open Engine Sql

namespace Engine.Relation

variable {relation : Relation}

/-- A row with a value for each attribute, each of them one that the attribute has stored, and with
its number where a column shows it. -/
structure Keeps (relation : Relation) (row : Row) : Prop where
  full : row.values.length = relation.attributes.length
  stored : ∀ attr ∈ relation.attributes, ∃ given,
    relation.value row attr.name = attr.affinity.store given
  numbered : ∀ column again, relation.identity = .shown column again →
    relation.value row column = .integer row.number

/-- The key of a row that offends nothing is the key of no other row. -/
theorem key_order_of_fault?_none {key : List String} {row other : Row}
    (keyed : relation.IsKeyedBy key) (numbered : ∀ column again,
      relation.identity = .shown column again → relation.value row column = .integer row.number)
    (present : relation.HasKey key row) (admitted : relation.fault? row = none)
    (member : other ∈ relation.rows) (kept : relation.Keeps other) :
    keyOrder (relation.project key other) (relation.project key row) ≠ .eq := by
  have apart := (apart_of_fault?_none admitted).2 other member
  intro same
  exact apart.key_order keyed
    (fun column again shown => ⟨numbered column again shown, kept.numbered column again shown⟩)
    (fun _ => present) ((key_order_eq_comm _ _).mp same)

end Engine.Relation

namespace Table

/-- A database keeps a table in a relation: the one that the engine makes for the table, with rows
that hold what its columns have stored, and changed by no trigger. -/
structure IsKeptIn (table : Table) (database : Database) (relation : Relation) : Prop where
  found : database.relation? table.name = some relation
  made : ∃ text made, relationOf table.definition text = .ok made ∧
    relation = { made with rows := relation.rows }
  rows : ∀ row ∈ relation.rows, relation.Keeps row
  spared : database.Spares table.name

variable {table : Table} {database : Database} {relation : Relation}

namespace IsKeptIn

/-- The relation has the name of the table. -/
theorem name (kept : table.IsKeptIn database relation) : relation.name = table.name := by
  obtain ⟨text, made, definition, same⟩ := kept.made
  rw [same]
  exact (relation_of_definition definition).1

/-- The relation has the attributes of the table. -/
theorem attributes (kept : table.IsKeptIn database relation) :
    relation.attributes = table.attributes := by
  obtain ⟨text, made, definition, same⟩ := kept.made
  rw [same, (relation_of_definition definition).2.2.1]

/-- The columns of a table that is kept are told apart. -/
theorem apart (kept : table.IsKeptIn database relation) : ToldApart table.columnNames := by
  obtain ⟨text, made, definition, -⟩ := kept.made
  exact (relation_of_definition definition).2.2.2.1

/-- So their names are different. -/
theorem distinct (kept : table.IsKeptIn database relation) :
    table.columnNames.Nodup := kept.apart.nodup

/-- The key of the table tells the rows apart. -/
theorem keyed (kept : table.IsKeptIn database relation) (nonempty : table.primaryKey ≠ []) :
    relation.IsKeyedBy table.primaryKey := by
  obtain ⟨text, made, definition, same⟩ := kept.made
  have madeKeyed := (relation_of_definition definition).2.2.2.2 nonempty
  rw [same]
  exact madeKeyed

/-- A relation that shows numbers shows them in the key. -/
theorem shown_in_key (kept : table.IsKeptIn database relation) (nonempty : table.primaryKey ≠ [])
    {column : String} {again : Bool} (shown : relation.identity = .shown column again) :
    table.primaryKey = [column] := by
  rcases kept.keyed nonempty with keptBy | ⟨key, neverAgain, alone, shows⟩ | ⟨hidden, -⟩
  · cases keptBy.symm.trans shown
  · cases shows.symm.trans shown
    exact alone
  · cases hidden.symm.trans shown

/-- Where the engine numbers the key by itself, the relation shows the numbers in it. -/
theorem shows (kept : table.IsKeptIn database relation) (admitted : table.IsAdmitted) {key : String}
    (numbered : table.autoincrementKey? = some key) : relation.identity = .shown key true := by
  obtain ⟨text, made, definition, same⟩ := kept.made
  have identity := relation_of_autoincrement admitted numbered definition
  rw [same]
  exact identity

/-- A column of a table that is kept has the affinity of its type. -/
theorem affinity (kept : table.IsKeptIn database relation) {column : Column}
    (member : column ∈ table.columns) : table.affinity column.name = column.type.affinity := by
  rw [Table.affinity, column?_of_mem kept.apart member]
  rfl

/-- A table that is kept can be read. -/
theorem is_read_in (kept : table.IsKeptIn database relation) :
    table.IsReadIn database relation where
  found := kept.found
  attributes := kept.attributes
  apart := kept.apart
  full row member := (kept.rows row member).full

/-- The name of a column means the attribute that stores its values. -/
theorem meant? (kept : table.IsKeptIn database relation) {column : Column}
    (member : column ∈ table.columns) : ∃ attr,
      Relation.meant? relation.attributes column.name = some attr ∧ attr.name = column.name ∧
        attr.affinity = column.type.affinity := by
  have known : table.hasColumn column.name = true := by
    rw [hasColumn, column?_of_mem kept.apart member]
    rfl
  obtain ⟨attr, means, named, stores⟩ := meant?_of_has_column kept.apart known
  exact ⟨attr, kept.attributes ▸ means, named, stores.trans (kept.affinity member)⟩

end IsKeptIn

/-- What the rows have stored is compared as it is. -/
theorem IsKeptIn.compare_as_value (kept : table.IsKeptIn database relation) {column : Column}
    (columnMember : column ∈ table.columns) {row : Row} (member : row ∈ relation.rows) :
    (table.affinity column.name).compareAs (table.valueOf row.values column.name) =
      table.valueOf row.values column.name := by
  obtain ⟨attr, means, named, affinity⟩ := kept.meant? columnMember
  obtain ⟨given, stored⟩ := (kept.rows row member).stored attr (List.mem_of_find?_eq_some means)
  rw [named, affinity, ← kept.affinity columnMember] at stored
  rw [← kept.is_read_in.value, stored]
  exact Affinity.compare_as_store _ _

/-- A table that a database keeps is kept in whatever rows it has then. -/
theorem IsKeptIn.with_rows (kept : table.IsKeptIn database relation) {after : Database}
    {rows : List Row}
    (found : after.relation? table.name = some { relation with rows })
    (keeps : ∀ row ∈ rows, relation.Keeps row) (spared : after.Spares table.name) :
    table.IsKeptIn after { relation with rows } where
  found := found
  made := by
    obtain ⟨text, made, definition, same⟩ := kept.made
    refine ⟨text, made, definition, ?_⟩
    rw [same]
  rows row member := ⟨(keeps row member).full, (keeps row member).stored,
    (keeps row member).numbered⟩
  spared := spared

/-- The name of an attribute means the attribute. -/
theorem IsKeptIn.meant?_attr (kept : table.IsKeptIn database relation) {attr : Attribute}
    (member : attr ∈ relation.attributes) :
    Relation.meant? relation.attributes attr.name = some attr := by
  refine Relation.meant?_of_mem ?_ member
  rw [kept.attributes, attributes_names]
  exact kept.apart

section Key

variable {row : Row} (keyed : table.primaryKey ≠ [])

include keyed

/-- A column that shows the numbers of the rows is one of integers. -/
theorem IsKeptIn.shown_meant (kept : table.IsKeptIn database relation) {column : String}
    {again : Bool} (shown : relation.identity = .shown column again) : ∃ attr,
      Relation.meant? relation.attributes column = some attr ∧ attr.affinity = .integer := by
  have alone := kept.shown_in_key keyed shown
  obtain ⟨declared, member, -, rfl⟩ := mem_primary_key.mp
    (show column ∈ table.primaryKey by simp [alone])
  obtain ⟨text, made, definition, same⟩ := kept.made
  obtain ⟨attr, means, -, affinity⟩ := kept.meant? member
  have identity : made.identity = .shown declared.name again := by
    rw [same] at shown
    exact shown
  rcases relation_of_single definition member alone with ⟨integer, -⟩ | ⟨-, hidden⟩
  · exact ⟨attr, means, affinity.trans integer⟩
  · cases identity.symm.trans hidden

/-- A row that gets its number is kept too. -/
theorem IsKeptIn.numbered (kept : table.IsKeptIn database relation) {within : Database}
    {values : List Stored} (lengths : values.length = relation.attributes.length)
    (numbered : numberedRow within relation values = .ok row) : relation.Keeps row := by
  have shows : ∀ column again, relation.identity = .shown column again →
      relation.value row column = .integer row.number := by
    intro column again shown
    refine numbered_row_shows numbered lengths shown ?_
    rw [kept.attributes, attributes_names]
    exact table.primary_key_subset (by simp [kept.shown_in_key keyed shown])
  refine ⟨numbered_row_full numbered lengths, fun attr member => ?_, shows⟩
  by_cases waits : ∃ column again, relation.identity = .shown column again ∧
      sameName column attr.name = true
  · obtain ⟨column, again, shown, same⟩ := waits
    obtain ⟨other, means, integer⟩ := kept.shown_meant keyed shown
    have one := kept.meant?_attr member
    rw [← Relation.meant?_congr same, means] at one
    cases one
    refine ⟨.integer row.number, ?_⟩
    rw [integer]
    exact (Relation.value_in_congr same _ _).symm.trans (shows column again shown)
  · have value := numbered_row_value numbered fun column again shown same =>
      absurd ⟨column, again, shown, same⟩ waits
    exact ⟨_, value.trans (Relation.value_in_conform_of_meant lengths (kept.meant?_attr member))⟩

end Key

/-- A row of values for all columns of a table but the one that is to be numbered, with a value in
each of the key columns. -/
structure IsWritten (table : Table) (row : List (String × Stored)) : Prop where
  names : row.map Prod.fst =
    (table.columns.filter fun column => !column.autoincrement).map Column.name
  keyed : ∀ column ∈ table.columns, column.primaryKey = true → ∀ value,
    (column.name, value) ∈ row → value.isNull = false

/-- Such a row has a value for each column that is not to be numbered. -/
theorem IsWritten.value_of {row : List (String × Stored)} (written : table.IsWritten row)
    {column : Column} (member : column ∈ table.columns) (plain : column.autoincrement = false) :
    ∃ value, (column.name, value) ∈ row := by
  have named : column.name ∈ row.map Prod.fst := by
    rw [written.names]
    exact List.mem_map_of_mem (List.mem_filter.mpr ⟨member, by simp [plain]⟩)
  obtain ⟨⟨name, value⟩, among, rfl⟩ := List.mem_map.mp named
  exact ⟨value, among⟩

/-- A value that is given is stored, also in the key: there it is none that waits for a number. -/
theorem IsKeptIn.stores_given (kept : table.IsKeptIn database relation)
    (nonempty : table.primaryKey ≠ []) {row : List (String × Stored)}
    (written : table.IsWritten row)
    {put : Row} (numbered : numberedRow database relation
      (givenValues relation.attributes row) = .ok put)
    {column : Column} (member : column ∈ table.columns) {value : Stored}
    (among : (column.name, value) ∈ row) :
    relation.value put column.name = column.type.affinity.store value := by
  have lengths : (givenValues relation.attributes row).length = relation.attributes.length :=
    arranged_length _ _ _
  have rowApart : ToldApart (row.map Prod.fst) := by
    rw [written.names]
    exact kept.apart.sublist (List.filter_sublist.map Column.name)
  obtain ⟨attr, means, -, affinity⟩ := kept.meant? member
  have conformed : Relation.valueIn relation.attributes (Relation.conform relation.attributes
      (givenValues relation.attributes row)) column.name = column.type.affinity.store value := by
    rw [Relation.value_in_conform_of_meant lengths means, affinity,
      value_in_given_values rowApart among means]
  rw [← conformed]
  refine numbered_row_value numbered fun shownName again shown same => ?_
  have alone := kept.shown_in_key nonempty shown
  have one : shownName = column.name := kept.apart.eq_of_same
    (table.primary_key_subset (by simp [alone])) (List.mem_map_of_mem member) same
  obtain ⟨key, keyMember, isKey, keyName⟩ := mem_primary_key.mp
    (show column.name ∈ table.primaryKey by simp [alone, one])
  rw [conformed, Affinity.store_is_null]
  exact written.keyed column member
    (column_eq_of_name kept.apart keyMember member keyName ▸ isKey) value among

/-- An insertion of such a row that is answered puts one row in. It stands beside the rows that were
there and has another key than each of them; under each column it has what the column stores for the
value, and in the column that is to be numbered its number, which is the last that was given. -/
theorem IsKeptIn.insertion (kept : table.IsKeptIn database relation) (admitted : table.IsAdmitted)
    (nonempty : table.primaryKey ≠ []) {row : List (String × Stored)}
    (written : table.IsWritten row)
    {effect : Effect} (done : database.change (table.insertion row) = .ok effect) :
    ∃ put, table.IsKeptIn effect.database (relation.put put) ∧
      (∀ other ∈ relation.rows, Relation.keyOrder (relation.project table.primaryKey other)
        (relation.project table.primaryKey put) ≠ .eq) ∧
      (∀ column ∈ table.columns, ∀ value, (column.name, value) ∈ row →
        table.valueOf put.values column.name = column.type.affinity.store value) ∧
      ∀ key, table.autoincrementKey? = some key →
        table.valueOf put.values key = .integer put.number ∧
          effect.lastNumber = some put.number := by
  obtain ⟨put, numbered, offends, stands, sparedNow, last, remembered⟩ :=
    change_insertion_ok kept.found kept.spared done
  have lengths : (givenValues relation.attributes row).length = relation.attributes.length :=
    arranged_length _ _ _
  have keeps := kept.numbered nonempty lengths numbered
  have shows := keeps.numbered
  have numbers : ∀ column ∈ table.columns, column.autoincrement = true →
      relation.value put column.name = .integer put.number := by
    intro column member auto
    exact shows _ _ (kept.shows admitted (admitted.autoincrement_key? kept.apart member auto))
  have present : relation.HasKey table.primaryKey put := by
    intro key inKey
    obtain ⟨column, member, isKey, rfl⟩ := mem_primary_key.mp inKey
    by_cases auto : column.autoincrement = true
    · rw [numbers column member auto]
      rfl
    · obtain ⟨value, inRow⟩ := written.value_of member (by simpa using auto)
      rw [kept.stores_given nonempty written numbered member inRow, Affinity.store_is_null]
      exact written.keyed column member isKey value inRow
  refine ⟨put, kept.with_rows stands (fun other member => ?_) sparedNow,
    fun other member => ?_, ?_, ?_⟩
  · rcases Relation.mem_put.mp member with rfl | old
    · exact keeps
    · exact kept.rows other old
  · exact Relation.key_order_of_fault?_none (kept.keyed nonempty) shows present offends member
      (kept.rows other member)
  · intro column member value among
    rw [← kept.is_read_in.value]
    exact kept.stores_given nonempty written numbered member among
  · intro key numberedKey
    have shown := kept.shows admitted numberedKey
    refine ⟨?_, last key true shown⟩
    rw [← kept.is_read_in.value]
    exact shows key true shown

end Table

end RecordStore
