import RecordStore.Proofs.Query.Rows
import RecordStore.Proofs.Engine.Listings
import RecordStore.Proofs.Schema.Admission
import RecordStore.Proofs.Sql.Queries
import RecordStore.Query.Request

/-!
# Tables in queries

The names of a table that a schema admits are read as names, and so is the name of its full-text
table. A query that returns all columns of a table returns the names of the columns and, from a
scope that shows a row, the values of the row.
-/

namespace RecordStore

open Engine Sql

/-! ### Names of a schema -/

/-- An identifier is read as a name. -/
theorem is_name_of_is_identifier {name : String} (identifier : isIdentifier name = true) :
    IsName name := by
  unfold isIdentifier at identifier
  obtain ⟨plain, free⟩ := Bool.and_eq_true_iff.mp identifier
  refine ⟨plain, ?_⟩
  have kept : ∀ word ∈ Parser.neverNames, word ∈ reservedWords := by decide +kernel
  have unreserved : ¬ reservedWords.contains (name.map Char.toUpper) = true := by
    simpa [isReserved] using free
  refine eq_false_of_ne_true fun never => unreserved ?_
  exact List.contains_iff_mem.mpr (kept _ (List.contains_iff_mem.mp never))

/-- The name of the full-text table of a table is read as a name too. -/
theorem is_name_shadow_name {table : Table} (identifier : isIdentifier table.name = true) :
    IsName table.shadowName := by
  have plain := (is_name_of_is_identifier identifier).1
  obtain ⟨first, rest, shape, start, continues⟩ := Token.plain_word_cases plain
  have letters : table.shadowName.toList = 'f' :: 't' :: 's' :: '_' :: first :: rest := by
    simp [Table.shadowName, shape]
  refine ⟨?_, ?_⟩
  · have continued : isNameRest first = true := by
      simp only [isNameStart, isNameRest, Bool.or_eq_true, Char.isAlphanum] at start ⊢
      exact start.imp_left .inl
    unfold Token.isPlainWord
    rw [letters]
    simp only [List.all_cons, Bool.and_eq_true, List.all_eq_true]
    exact ⟨by decide, by decide, by decide, by decide, continued, continues⟩
  · refine eq_false_of_ne_true fun never => ?_
    have member := List.contains_iff_mem.mp never
    have none : ∀ word ∈ Parser.neverNames, word.toList.take 4 ≠ ['F', 'T', 'S', '_'] := by
      decide +kernel
    refine none _ member ?_
    simp [Parser.upper, letters]

namespace Table

/-- A table that a schema admits has an identifier for its name and columns with identifiers. -/
theorem identifiers_of_fault? {table : Table} (faultless : table.fault? = none) :
    isIdentifier table.name = true ∧ table.columns ≠ [] ∧
      ∀ name ∈ table.columnNames, IsName name := by
  have admitted := is_admitted_of_fault? faultless
  refine ⟨admitted.identifier, admitted.some_column, fun name member => ?_⟩
  obtain ⟨column, among, rfl⟩ := List.mem_map.mp member
  exact is_name_of_is_identifier (admitted.columns column among).identifier

end Table

/-! ### Conjunctions -/

/-- A chain of conditions that are read next to one another is read back. -/
theorem written_chain {first : Condition} {rest : List Condition} (head : first.Written 2)
    (tail : ∀ condition ∈ rest, condition.Written 3) :
    (Expression.chain first rest).Written 2 := by
  induction rest generalizing first with
  | nil => exact head
  | cons second others inductionHypothesis =>
    exact inductionHypothesis
      (.binary rfl (Nat.le_refl 2) head (tail second List.mem_cons_self))
      fun condition later => tail condition (List.mem_cons_of_mem second later)

/-- The conjunction of conditions that are read next to one another is read back. -/
theorem written_conjunction? {conditions : List Condition}
    (written : ∀ condition ∈ conditions, condition.Written 3) :
    ∀ whole ∈ Expression.conjunction? conditions, whole.Written 3 := by
  intro whole member
  match conditions with
  | [] => cases member
  | [single] =>
    cases member
    exact written _ List.mem_cons_self
  | first :: second :: others =>
    cases member
    have chained : (Expression.chain first (second :: others)).Written 2 :=
      written_chain ((written first List.mem_cons_self).mono (by decide))
        fun condition later => written condition (List.mem_cons_of_mem first later)
    exact .grouped (chained.mono (Nat.zero_le 2))

/-- A clause of such conditions is read back as one of them. -/
theorem written_merge {conditions : List Condition} (nonempty : conditions ≠ [])
    (written : ∀ condition ∈ conditions, condition.Written 3) :
    WrittenClause (some (merge conditions)) := by
  intro given member
  cases member
  match conditions with
  | [] => exact absurd rfl nonempty
  | first :: rest =>
    have chained : (Expression.chain first rest).Written 2 :=
      written_chain ((written first List.mem_cons_self).mono (by decide))
        fun condition later => written condition (List.mem_cons_of_mem first later)
    exact ⟨_, rfl, chained.mono (Nat.zero_le 2)⟩

/-! ### Rows of a table -/

namespace Engine.Relation

/-- All values of a row, read by name, are the values of the row. -/
theorem map_value_in {attributes : List Attribute} {values : List Stored}
    (apart : ToldApart (attributes.map Attribute.name))
    (lengths : values.length = attributes.length) :
    (attributes.map Attribute.name).map (valueIn attributes values) = values := by
  induction attributes generalizing values with
  | nil => exact (List.length_eq_zero_iff.mp lengths).symm
  | cons attr rest inductionHypothesis =>
    cases values with
    | nil => cases lengths
    | cons value values =>
      obtain ⟨first, later⟩ := List.pairwise_cons.mp apart
      have behind : ∀ name ∈ rest.map Attribute.name,
          valueIn (attr :: rest) (value :: values) name = valueIn rest values name := by
        intro name member
        simp [valueIn, first name member]
      rw [List.map_cons, List.map_cons, List.map_congr_left behind,
        inductionHypothesis later (by simpa using lengths)]
      simp [valueIn]

end Engine.Relation

namespace Table

variable {table : Table} {database : Database} {relation : Relation}

/-- A database holds a table in a relation: with the attributes of the table, and with rows that
have a value for each of them. -/
structure IsReadIn (table : Table) (database : Database) (relation : Relation) : Prop where
  found : database.relation? table.name = some relation
  attributes : relation.attributes = table.attributes
  apart : ToldApart table.columnNames
  full : ∀ row ∈ relation.rows, row.values.length = relation.attributes.length

/-- The value of a row under a column is the one that the table has there. -/
theorem IsReadIn.value (held : table.IsReadIn database relation) (row : Row) (column : String) :
    relation.value row column = table.valueOf row.values column := by
  rw [Relation.value, held.attributes]
  rfl

/-- The values of a row are those under its columns, one after the other. -/
theorem map_value_of (apart : ToldApart table.columnNames) {values : List Stored}
    (full : values.length = table.attributes.length) :
    table.columnNames.map (table.valueOf values) = values := by
  rw [← attributes_names] at apart ⊢
  exact Relation.map_value_in apart full

/-- The columns stand in front of their values. -/
theorem zip_columns {values : List Stored} (full :
    table.columnNames.map (table.valueOf values) = values) : table.columns.zip values =
      table.columns.map fun column => (column, table.valueOf values column.name) := by
  have zipped : (table.columns.map id).zip
      (table.columns.map fun column => table.valueOf values column.name) =
      table.columns.map fun column => (id column, table.valueOf values column.name) :=
    List.zip_map'
  have valuesAre : (table.columns.map fun column => table.valueOf values column.name) = values := by
    rw [columnNames, List.map_map] at full
    exact full
  rwa [List.map_id, valuesAre] at zipped

namespace IsReadIn

/-- What is held of the table can be read. -/
theorem readable? (held : table.IsReadIn database relation) :
    database.readable? table.name = some relation := by
  unfold Database.readable?
  rw [held.found]

/-- A column stands for its value in a row. -/
theorem lookup? (held : table.IsReadIn database relation) (name : String) {row : Row}
    (member : row ∈ relation.rows) {column : String} (known : table.hasColumn column = true) :
    (relation.binding name row).lookup? column =
      some (some (table.affinity column), table.valueOf row.values column) := by
  obtain ⟨attr, means, -, affinity⟩ := meant?_of_has_column held.apart known
  rw [← held.attributes] at means
  rw [Relation.lookup?_binding name (held.full row member) means, affinity, Relation.value,
    held.attributes]
  rfl

/-- A column stands for something before there are rows. -/
theorem names_lookup? (held : table.IsReadIn database relation) (name : String) {column : String}
    (known : table.hasColumn column = true) :
    ((relation.names name).lookup? column).isSome = true := by
  obtain ⟨attr, means, -, -⟩ := meant?_of_has_column held.apart known
  rw [← held.attributes] at means
  exact lookup?_empty_binding means

end IsReadIn

/-! ### Returning all columns -/

/-- A name of a column is one of a column that the table has. -/
theorem has_column_of_mem {name : String} (member : name ∈ table.columnNames) :
    table.hasColumn name = true := by
  obtain ⟨column, among, named⟩ := List.mem_map.mp member
  unfold hasColumn column?
  rw [List.find?_isSome]
  exact ⟨column, among, by simpa using named⟩

variable {query : Select Stored} {source : Option String}

/-- A column of the table is returned under its declared name, if no source that comes earlier is
meant. -/
theorem IsReadIn.returned_name (held : table.IsReadIn database relation) {name : String}
    (member : name ∈ table.columnNames) {before after : List Source} {given : Option String}
    (shape : Engine.sources query = before ++ ⟨table.name, given⟩ :: after)
    (passed : ∀ earlier ∈ before, source.all (sameName earlier.name) = false)
    (meant : source.all (sameName (given.getD table.name)) = true) :
    Engine.returnedName database query source name = name := by
  have attributes : sourceAttributes database ⟨table.name, given⟩ = table.attributes := by
    unfold sourceAttributes
    rw [held.readable?]
    exact held.attributes
  obtain ⟨attr, means, named, -⟩ := meant?_of_has_column held.apart (has_column_of_mem member)
  have skipped : ∀ earlier ∈ before, (if source.all (sameName earlier.name) then
      ((sourceAttributes database earlier).find? fun attr => sameName attr.name name).map
        Attribute.name else none) = none := by
    intro earlier among
    rw [passed earlier among]
    rfl
  have declared : declaredName? database query source name = some name := by
    unfold declaredName?
    rw [shape, List.findSome?_append, List.findSome?_eq_none_iff.mpr skipped, Option.none_or,
      List.findSome?_cons]
    have here : source.all (sameName (Source.name ⟨table.name, given⟩)) = true := meant
    have found : (table.attributes.find? fun attr => sameName attr.name name) = some attr := means
    rw [if_pos here, attributes, found, Option.map_some, named]
  unfold Engine.returnedName
  rw [declared]

/-- A query that returns all columns of a table returns them under their names. -/
theorem IsReadIn.result_columns (held : table.IsReadIn database relation)
    (columns : query.columns = Request.resultColumns table source) {before after : List Source}
    {given : Option String}
    (shape : Engine.sources query = before ++ ⟨table.name, given⟩ :: after)
    (passed : ∀ earlier ∈ before, source.all (sameName earlier.name) = false)
    (meant : source.all (sameName (given.getD table.name)) = true) :
    Engine.resultColumns database query =
      table.columnNames.map fun name => (name, .column source name) := by
  unfold Engine.resultColumns
  rw [columns, Request.resultColumns, List.flatMap_map, List.map_eq_flatMap]
  refine List.flatMap_congr fun name member => ?_
  simp only [held.returned_name member shape passed meant]

/-- The columns of a result are named as those of the table. -/
theorem names_of_result_columns (columns : Engine.resultColumns database query =
      table.columnNames.map fun name => (name, .column source name)) :
    (Engine.resultColumns database query).map Prod.fst = table.columnNames := by
  rw [columns, List.map_map]
  exact List.map_id _

/-- From a scope that shows a row such a query returns the values of the row. -/
theorem IsReadIn.values_for (held : table.IsReadIn database relation)
    (columns : Engine.resultColumns database query =
      table.columnNames.map fun name => (name, .column source name))
    {scope : Scope} {row : Row} (member : row ∈ relation.rows)
    (shows : scope.Shows source table row.values) :
    Engine.valuesFor database query scope = row.values := by
  have full : row.values.length = table.attributes.length :=
    held.attributes ▸ held.full row member
  rw [Engine.valuesFor, columns, List.map_map]
  refine Eq.trans (List.map_congr_left fun name among => ?_) (map_value_of held.apart full)
  exact Scope.value_of_lookup? (shows name (has_column_of_mem among))

/-- A query that returns all columns of a table and whose scopes show rows of it answers with a
window of the rows, in the order of the query. -/
theorem IsReadIn.select_rows (held : table.IsReadIn database relation)
    (keys : Engine.resolved database query = query) (ungrouped : answersForGroups query = false)
    (all : query.distinct = false)
    (columns : Engine.resultColumns database query =
      table.columnNames.map fun name => (name, .column source name))
    {Item : Type} {items : List Item} {scopeOf : Item → Scope} (rowOf : Item → Row)
    (found : Engine.scopes database query = .ok (items.map scopeOf))
    (members : ∀ item ∈ items, rowOf item ∈ relation.rows)
    (shows : ∀ item ∈ items, (scopeOf item).Shows source table (rowOf item).values)
    {limit offset : Option Int} (limited : query.limit.mapM bound = .ok limit)
    (shifted : query.offset.mapM bound = .ok offset) :
    select database query = .ok ⟨table.columnNames, windowed limit offset
      ((inOrder (fun left right => scopeOrder query (scopeOf left) (scopeOf right)) items).map
        fun item => (rowOf item).values)⟩ := by
  let order (left right : Item) : Ordering := scopeOrder query (scopeOf left) (scopeOf right)
  have sorted : (inOrder order items).map scopeOf =
      inOrder (scopeOrder query) (items.map scopeOf) :=
    map_in_order scopeOf (fun _ _ => rfl) items
  have values : ((inOrder order items).map scopeOf).map (Engine.valuesFor database query) =
      (inOrder order items).map fun item => (rowOf item).values := by
    rw [List.map_map]
    refine List.map_congr_left fun item among => ?_
    have member := (in_order_perm items).subset among
    exact held.values_for columns (members item member) (shows item member)
  rw [select_listing keys ungrouped all found limited shifted, names_of_result_columns columns,
    ← sorted, values]

/-! ### Sorting -/

/-- Rows in the order of columns with directions, the first of them deciding first. -/
def rowsOrder (table : Table) (pairs : List (String × Direction)) :
    List Stored → List Stored → Ordering :=
  keysOrder (fun pair => some pair.2) (fun pair values => table.valueOf values pair.1) pairs

/-- A sort order that is accepted consists of columns of the table. -/
theorem order_keys_ok {sort : SortOrder} {keys : List (OrderKey Stored)}
    (accepted : sort.orderKeys table source = .ok keys) :
    sort.pairs ≠ [] ∧ (∀ pair ∈ sort.pairs, table.hasColumn pair.1 = true) ∧
      keys = sort.pairs.map fun pair => ⟨.column source pair.1, some pair.2⟩ := by
  obtain ⟨pairs⟩ := sort
  unfold SortOrder.orderKeys at accepted
  split at accepted
  · cases accepted
  · rename_i some
    refine ⟨fun none => some (List.isEmpty_iff.mpr none), ?_⟩
    have each := map_m_ok accepted
    clear accepted some
    dsimp only at each ⊢
    induction each with
    | nil => exact ⟨nofun, rfl⟩
    | @cons pair key pairs keys made _ inductionHypothesis =>
      obtain ⟨known, rest⟩ := inductionHypothesis
      unfold SortOrder.orderKey at made
      split at made
      · rename_i first
        cases made
        exact ⟨List.forall_mem_cons.mpr ⟨first, known⟩, by rw [List.map_cons, rest]⟩
      · cases made

/-- Scopes that show rows are in the order of the rows. -/
theorem scope_order_eq {pairs : List (String × Direction)}
    (keys : query.ordering = pairs.map fun pair => ⟨.column source pair.1, some pair.2⟩)
    (known : ∀ pair ∈ pairs, table.hasColumn pair.1 = true) {left right : Scope}
    {leftValues rightValues : List Stored} (leftShows : left.Shows source table leftValues)
    (rightShows : right.Shows source table rightValues) :
    scopeOrder query left right = table.rowsOrder pairs leftValues rightValues := by
  unfold scopeOrder rowsOrder
  rw [keys, keys_order_map]
  exact keys_order_congr
    (fun pair member => Scope.value_of_lookup? (leftShows pair.1 (known pair member)))
    fun pair member => Scope.value_of_lookup? (rightShows pair.1 (known pair member))

end Table

end RecordStore
