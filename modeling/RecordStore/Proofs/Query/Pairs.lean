import RecordStore.Proofs.Query.Meaning
import RecordStore.Proofs.Query.Terms
import RecordStore.Proofs.Value.Conversion

/-!
# Copies and their rows

Where the full-text table mirrors its table, a query that searches pairs each copy with the row
that was copied and with no other one, for the key tells the rows apart. What it asks of the copy
is what the row answers: the partition because operands of the type of a column need no conversion,
and the term because the words of a copy are those of the analyzed columns of the row.
-/

namespace RecordStore

open Engine Sql Request

/-- Whether the copy of a row has the attributes of a partition. What a copy holds is compared as it
is: the columns of a full-text table convert nothing. -/
def Partition.isMetInCopy (table : Table) (values : List Stored) (partition : Partition) : Bool :=
  partition.demands.all fun demand => demand.isMetBy .blob (table.valueOf values demand.column)

/-- Whether a partition asks for a value that its column would convert. -/
def Partition.isConverted (table : Table) (partition : Partition) : Bool :=
  partition.attributes.any fun held =>
    (table.column? held.1).any fun column => column.type.converts held.2

/-- A partition that suits a table asks for no value that a column would convert. -/
theorem Partition.Suits.is_converted {partition : Partition} {table : Table}
    (suits : partition.Suits table) : partition.isConverted table = false := by
  rw [Partition.isConverted, List.any_eq_false]
  intro held member
  rw [Option.any_eq_true]
  rintro ⟨column, search, converts⟩
  rw [ColumnType.converts_of_holds ((suits held member).2 column search)] at converts
  cases converts

/-- Whether a row meets what a request with a term says apart from its term: the row itself is asked
for the criteria, and its copy for the partition. -/
def Request.isMetInSearch (table : Table) (values : List Stored) (request : Request) : Bool :=
  request.partition.all (Partition.isMetInCopy table values) &&
    request.criteria.all (Criteria.isMetIn table values)

/-- The words of a row that can be searched for: those of the analyzed columns. The other carried
columns have none. -/
def Table.wordsIn (table : Table) (values : List Stored) : FullText.RowWords :=
  table.carriedColumns.map fun name =>
    ⟨name, if (table.column? name).any Column.analyzed then
      FullText.words (FullText.indexText (table.valueOf values name)) else []⟩

/-- A full-text table mirrors a table: the relation is what the engine makes of the table and holds
what its columns have stored, no key has a null in it and no two rows have the same key, and each
row has one copy. -/
structure Table.MirroredBy (table : Table) (relation : Relation) (shadow : FullTextTable) :
    Prop where
  held : table.IsHeldAs relation
  stored : ∀ row ∈ relation.rows, ∀ attr ∈ relation.attributes, ∃ given,
    relation.value row attr.name = attr.affinity.store given
  present : ∀ row ∈ relation.rows, relation.HasKey table.primaryKey row
  unique : relation.rows.Pairwise fun left right => Relation.keyOrder
    (relation.project table.primaryKey left) (relation.project table.primaryKey right) ≠ .eq
  carried : shadow.columns = table.shadowDefinition.columns
  copies : (shadow.rows.map Row.values).Perm
    (relation.rows.map (relation.project table.carriedColumns))

namespace Table

variable {table : Table} {database : Database} {relation : Relation} {shadow : FullTextTable}

/-- The words of a copy are those of its row. -/
theorem words_copy {copy own : Row} (carried : shadow.columns = table.shadowDefinition.columns)
    (attributes : relation.attributes = table.attributes)
    (copies : copy.values = relation.project table.carriedColumns own) :
    shadow.words copy = table.wordsIn own.values := by
  have each : ∀ (names : List String) (indexed : String → Bool) (read : String → Stored),
      FullTextTable.wordsOf (names.map fun name => ⟨name, indexed name⟩) (names.map read) =
        names.map fun name => ⟨name, if indexed name then
          FullText.words (FullText.indexText (read name)) else []⟩ := by
    intro names indexed read
    induction names with
    | nil => rfl
    | cons first rest inductionHypothesis =>
      simp only [List.map_cons, FullTextTable.wordsOf, inductionHypothesis]
  have values : copy.values = table.carriedColumns.map (table.valueOf own.values) := by
    rw [copies]
    unfold Relation.project Relation.value
    rw [attributes]
    rfl
  unfold FullTextTable.words
  rw [carried, values]
  exact each table.carriedColumns _ _

namespace MirroredBy

/-- A value of a row is one that its column has stored. -/
theorem stored_value_of (mirrored : table.MirroredBy relation shadow)
    (held : table.IsReadIn database relation) {row : Row} (member : row ∈ relation.rows)
    {column : String} (known : table.hasColumn column = true) :
    ∃ given, table.valueOf row.values column = (table.affinity column).store given := by
  obtain ⟨attr, means, named, affinity⟩ := meant?_of_has_column held.apart known
  obtain ⟨given, stores⟩ := mirrored.stored row member attr (by
    rw [held.attributes]
    exact List.mem_of_find?_eq_some means)
  refine ⟨given, ?_⟩
  rw [← affinity, ← stores, named, held.value]

/-- Every copy has the carried values of a row. -/
theorem own (mirrored : table.MirroredBy relation shadow) {copy : Row}
    (member : copy ∈ shadow.rows) :
    ∃ own ∈ relation.rows, copy.values = relation.project table.carriedColumns own := by
  obtain ⟨own, among, same⟩ := List.mem_map.mp
    (mirrored.copies.subset (List.mem_map_of_mem (f := Row.values) member))
  exact ⟨own, among, same.symm⟩

end MirroredBy

/-! ### What is asked of a pair -/

section Pair

variable {pair : (Row × Stored) × Row} {own : Row}

/-- In a pair the full-text table shows the carried values of the row that was copied. -/
theorem IsSearchedIn.lookup?_copy (held : table.IsSearchedIn database relation shadow)
    (copies : pair.1.1.values = relation.project table.carriedColumns own) {column : String}
    (carried : column ∈ table.carriedColumns) :
    (pairScope shadow relation pair).lookup? (some shadowAlias) column =
      some (some .blob, table.valueOf own.values column) := by
  have names := shadow_names_of_carried held.carried
  have value : Relation.valueIn shadow.attributes pair.1.1.values column =
      table.valueOf own.values column := by
    rw [copies, ← names, Relation.project]
    refine (Relation.value_in_map (relation.value own) ?_ (names ▸ carried)).trans ?_
    · exact fun _ _ same => Relation.value_in_congr same _ _
    · exact held.value own column
  have full : pair.1.1.values.length = table.carriedColumns.length := by
    rw [copies]
    exact List.length_map _
  rw [← value]
  exact Scope.lookup?_named (same_name_refl _) (held.shadow_lookup? _ _ full carried)

/-- The table shows the row. -/
theorem IsSearchedIn.shows (held : table.IsSearchedIn database relation shadow)
    (member : pair.2 ∈ relation.rows) :
    (pairScope shadow relation pair).Shows (some tableAlias) table pair.2.values := by
  intro column known
  have other : sameName (shadow.binding shadowAlias pair.1.1 pair.1.2).name tableAlias = false :=
    aliases_apart.1
  unfold pairScope
  rw [Scope.lookup?_skip other]
  exact Scope.lookup?_named (same_name_refl _) (held.lookup? tableAlias member known)

/-- The key conditions hold on a pair exactly when its row has the key of the row that was
copied. -/
theorem MirroredBy.key_conditions_hold (mirrored : table.MirroredBy relation shadow)
    (held : table.IsSearchedIn database relation shadow) (ownMember : own ∈ relation.rows)
    (member : pair.2 ∈ relation.rows)
    (copies : pair.1.1.values = relation.project table.carriedColumns own) :
    ((keyConditions table).map (Expression.mapOperands Stored.bound)).all
        (holds (pairScope shadow relation pair)) =
      (Relation.keyOrder (relation.project table.primaryKey own)
        (relation.project table.primaryKey pair.2) == .eq) := by
  have each : ∀ key ∈ table.primaryKey, holds (pairScope shadow relation pair)
      (.binary .equal (.column (some shadowAlias) key) (.column (some tableAlias) key)) =
        ((relation.value own key).order (relation.value pair.2 key) == .eq) := by
    intro key inKey
    have known : table.hasColumn key = true := has_column_of_mem (table.primary_key_subset inKey)
    have settled : ∀ row ∈ relation.rows,
        (table.affinity key).Settled (table.valueOf row.values key) := by
      intro row among
      obtain ⟨given, stores⟩ := mirrored.stored_value_of held.toIsReadIn among known
      rw [stores]
      exact Affinity.settled_store _ _
    have present : ∀ row ∈ relation.rows, (table.valueOf row.values key).isNull = false := by
      intro row among
      rw [← held.value]
      exact mirrored.present row among key inKey
    rw [held.value, held.value]
    exact holds_equal_columns
      (held.lookup?_copy copies (table.primary_key_subset_carried inKey))
      (held.shows member key known) (settled own ownMember) (settled pair.2 member)
      (present own ownMember) (present pair.2 member)
  rw [Bool.eq_iff_iff]
  simp only [keyConditions, List.map_map, List.all_map, List.all_eq_true, Function.comp_apply,
    Expression.mapOperands, beq_iff_eq, Relation.project, Relation.key_order_map_eq]
  refine forall₂_congr fun key inKey => ?_
  rw [each key inKey, beq_iff_eq]

/-- A row belongs to a copy if it has the key of the row that was copied and meets what is asked
of it. -/
theorem MirroredBy.belongs (mirrored : table.MirroredBy relation shadow)
    (held : table.IsSearchedIn database relation shadow) {asked : List Condition}
    {demands : List Demand} (compiled : CompiledAll table (some tableAlias) demands asked)
    (ownMember : own ∈ relation.rows) (member : pair.2 ∈ relation.rows)
    (copies : pair.1.1.values = relation.project table.carriedColumns own) :
    allHold (pairScope shadow relation pair)
        (some (merge ((table.belonging asked).map (Expression.mapOperands Stored.bound)))) =
      ((Relation.keyOrder (relation.project table.primaryKey own)
          (relation.project table.primaryKey pair.2) == .eq) &&
        demands.all (Demand.isMetIn table pair.2.values)) := by
  have further : ((Expression.conjunction? asked).toList.map
      (Expression.mapOperands Stored.bound)).all (holds (pairScope shadow relation pair)) =
        demands.all (Demand.isMetIn table pair.2.values) := by
    have whole := holds_conjunction? (pairScope shadow relation pair)
      (asked.map (Expression.mapOperands Stored.bound))
    rw [← Expression.conjunction?_map_operands, compiled.holds (held.shows member)] at whole
    rw [← whole]
    cases Expression.conjunction? asked <;> simp
  rw [all_hold_merge, belonging, List.map_append, List.all_append,
    mirrored.key_conditions_hold held ownMember member copies, further]

/-- A partition of carried columns asks of a copy what it asks of the row, and besides that no
column converts its value. -/
theorem MirroredBy.is_met_in_copy_eq (mirrored : table.MirroredBy relation shadow)
    (held : table.IsReadIn database relation) {partition : Partition}
    (carried : partition.IsCarriedIn table) (ownMember : own ∈ relation.rows) :
    partition.isMetInCopy table own.values =
      (partition.isMetIn table own.values && !partition.isConverted table) := by
  have each : ∀ entry ∈ partition.attributes,
      Demand.isMetBy .blob (table.valueOf own.values entry.1) ⟨entry.1, .equal, [entry.2]⟩ =
        (Demand.isMetIn table own.values ⟨entry.1, .equal, [entry.2]⟩ &&
          !(table.column? entry.1).any fun column => column.type.converts entry.2) := by
    intro entry among
    have known := has_column_of_mem (table.carried_subset (carried entry among))
    obtain ⟨column, search⟩ := Option.isSome_iff_exists.mp known
    obtain ⟨stored, stores⟩ := mirrored.stored_value_of held ownMember known
    have affinity : table.affinity entry.1 = column.type.affinity := by
      rw [Table.affinity, search]
      rfl
    simp only [Demand.isMetIn, stores, affinity, search, Option.any_some]
    exact ColumnType.is_met_by_blob entry.1 stored
  simp only [Partition.isMetInCopy, Partition.isMetIn, Partition.demands, Partition.isConverted,
    List.all_map]
  rw [Bool.eq_iff_iff, Bool.and_eq_true, Bool.not_eq_true', List.all_eq_true, List.all_eq_true,
    List.any_eq_false, ← forall₂_and]
  refine forall₂_congr fun entry among => ?_
  rw [Function.comp_apply, Function.comp_apply, Bool.not_eq_true, ← Bool.not_eq_true',
    ← Bool.and_eq_true, Demand.ofAttribute, each entry among]

/-- A request asks in a search what it asks of the row, and besides that no column converts a value
of its partition. -/
theorem MirroredBy.is_met_in_search_eq (mirrored : table.MirroredBy relation shadow)
    (held : table.IsReadIn database relation) {request : Request}
    (carried : ∀ partition ∈ request.partition, partition.IsCarriedIn table)
    (ownMember : own ∈ relation.rows) :
    request.isMetInSearch table own.values =
      (request.isMetIn table own.values &&
        !request.partition.any (Partition.isConverted table)) := by
  unfold Request.isMetInSearch Request.isMetIn
  cases given : request.partition with
  | none => exact (Bool.and_true _).symm
  | some partition =>
    rw [Option.all_some, Option.all_some, Option.any_some,
      mirrored.is_met_in_copy_eq held (carried partition given) ownMember]
    exact Bool.and_right_comm _ _ _

/-- So a request whose partition suits the table asks in a search what it asks of the row. -/
theorem MirroredBy.is_met_in_search (mirrored : table.MirroredBy relation shadow)
    (held : table.IsReadIn database relation) {request : Request}
    (suits : ∀ partition ∈ request.partition, partition.Suits table)
    (ownMember : own ∈ relation.rows) :
    request.isMetInSearch table own.values = request.isMetIn table own.values := by
  have unconverted : request.partition.any (Partition.isConverted table) = false := by
    cases given : request.partition with
    | none => rfl
    | some partition => exact (suits partition given).is_converted
  rw [mirrored.is_met_in_search_eq held (fun partition given =>
    (suits partition given).is_carried_in) ownMember, unconverted, Bool.not_false, Bool.and_true]

/-- A copy has what the query asks of it if it has the attributes of the partition and the row that
was copied the words that the term asks for. -/
theorem IsSearchedIn.confined (held : table.IsSearchedIn database relation shadow)
    {partition : Option Partition}
    (carried : ∀ given ∈ partition, given.IsCarriedIn table) {conditions : List Condition}
    (compiled : CompiledAll table (some shadowAlias)
      (partition.elim [] Partition.demands) conditions) {term : String}
    {pattern : FullText.Pattern}
    (parsed : FullText.Pattern.parse table.carriedColumns term = .ok pattern)
    (copies : pair.1.1.values = relation.project table.carriedColumns own) :
    allHold (pairScope shadow relation pair)
        (some (merge (conditions.map (Expression.mapOperands Stored.bound) ++
          [table.matching (.text term)]))) =
      (partition.all (Partition.isMetInCopy table own.values) &&
        pattern.holds (table.wordsIn own.values)) := by
  have shown : ∀ demand ∈ partition.elim [] Partition.demands,
      (pairScope shadow relation pair).lookup? (some shadowAlias) demand.column =
        some (some .blob, table.valueOf own.values demand.column) := by
    intro demand member
    cases partition with
    | none => cases member
    | some given =>
      obtain ⟨entry, among, rfl⟩ := List.mem_map.mp member
      exact held.lookup?_copy copies (carried given rfl entry among)
  have attributes : (partition.elim [] Partition.demands).all (fun demand =>
      demand.isMetBy .blob (table.valueOf own.values demand.column)) =
        partition.all (Partition.isMetInCopy table own.values) := by
    cases partition <;> rfl
  have matched := holds_matching (held.matched? pair) held.named (held.column_names.symm ▸ parsed)
  rw [all_hold_merge, List.all_append,
    compiled.holds_lookup? (fun _ => .blob) (table.valueOf own.values) shown, attributes,
    List.all_cons, List.all_nil, Bool.and_true, matched,
    words_copy held.carried held.attributes copies]

end Pair

/-! ### The rows of the pairs -/

/-- What is true of one item only leaves at most this item. -/
theorem filter_only {Item : Type} [DecidableEq Item] {items : List Item} {item : Item}
    (distinct : items.Nodup) (member : item ∈ items) {isItem : Item → Bool}
    (only : ∀ other ∈ items, isItem other = true ↔ other = item) (meets : Item → Bool) :
    items.filter (fun other => isItem other && meets other) = [item].filter meets := by
  have one : items.filter isItem = [item] := by
    have same : items.filter isItem = items.filter fun other => other == item :=
      List.filter_congr fun other among => by rw [Bool.eq_iff_iff, only other among, beq_iff_eq]
    rw [same, List.filter_beq, List.count_eq_one_of_mem distinct member]
    rfl
  rw [← one, List.filter_filter]
  exact List.filter_congr fun other _ => Bool.and_comm _ _

/-- The rows from which given values were copied, among those that are sought. -/
def rowsCopied (table : Table) (relation : Relation) (sought : Row → Bool) (values : List Stored) :
    List Row :=
  relation.rows.filter fun row =>
    (relation.project table.carriedColumns row == values) && sought row

/-- A key that tells rows apart finds one row only. -/
theorem one_of_key {key : List String}
    (unique : relation.rows.Pairwise fun left right =>
      Relation.keyOrder (relation.project key left) (relation.project key right) ≠ .eq)
    {own row : Row} (ownMember : own ∈ relation.rows) (member : row ∈ relation.rows)
    (same : Relation.keyOrder (relation.project key own) (relation.project key row) = .eq) :
    row = own := by
  have symmetric : Std.Symm fun left right : Row =>
      Relation.keyOrder (relation.project key left) (relation.project key right) ≠ .eq :=
    ⟨fun _ _ apart same => apart ((Relation.key_order_eq_comm _ _).mp same)⟩
  by_contra other
  exact unique.forall ownMember member (Ne.symm other) same

namespace MirroredBy

/-- The key of a table that is mirrored does. -/
theorem eq_of_key (mirrored : table.MirroredBy relation shadow) {own row : Row}
    (ownMember : own ∈ relation.rows) (member : row ∈ relation.rows)
    (same : Relation.keyOrder (relation.project table.primaryKey own)
      (relation.project table.primaryKey row) = .eq) : row = own :=
  one_of_key mirrored.unique ownMember member same

/-- No two rows of a table that is mirrored are the same. -/
theorem nodup (mirrored : table.MirroredBy relation shadow) : relation.rows.Nodup := by
  refine mirrored.unique.imp fun {left right} apart same => apart ?_
  rw [same]
  exact Relation.key_order_self _

/-- So do the carried columns. -/
theorem eq_of_carried (mirrored : table.MirroredBy relation shadow) {own row : Row}
    (ownMember : own ∈ relation.rows) (member : row ∈ relation.rows)
    (same : relation.project table.carriedColumns row =
      relation.project table.carriedColumns own) : row = own := by
  refine mirrored.eq_of_key ownMember member ?_
  have keys : relation.project table.primaryKey own = relation.project table.primaryKey row :=
    List.map_congr_left fun key inKey =>
      (List.map_inj_left.mp same key (table.primary_key_subset_carried inKey)).symm
  rw [keys]
  exact Relation.key_order_self _

/-- The values of a row were copied from no other row. -/
theorem rows_copied_own (mirrored : table.MirroredBy relation shadow) (sought : Row → Bool)
    {own : Row} (member : own ∈ relation.rows) :
    table.rowsCopied relation sought (relation.project table.carriedColumns own) =
      [own].filter sought := by
  refine filter_only mirrored.nodup member (fun row among => ?_) sought
  rw [beq_iff_eq]
  exact ⟨mirrored.eq_of_carried member among, fun same => by rw [same]⟩

/-- The copies were made from all of the rows, once from each. -/
theorem flat_map_rows_copied (mirrored : table.MirroredBy relation shadow) (sought : Row → Bool) :
    ((shadow.rows.map Row.values).flatMap (table.rowsCopied relation sought)).Perm
      (relation.rows.filter sought) := by
  have single : (relation.rows.map (relation.project table.carriedColumns)).flatMap
      (table.rowsCopied relation sought) = relation.rows.filter sought := by
    calc (relation.rows.map (relation.project table.carriedColumns)).flatMap
          (table.rowsCopied relation sought)
        = relation.rows.flatMap fun own => [own].filter sought := by
          rw [List.flatMap_map]
          exact List.flatMap_congr fun own member => mirrored.rows_copied_own sought member
      _ = relation.rows.filter sought := by
          rw [← List.filter_flatMap, List.flatMap_singleton']
  rw [← single]
  exact mirrored.copies.flatMap_right _

/-- The rows that have the key of the row that was copied are this row. -/
theorem filter_key (mirrored : table.MirroredBy relation shadow) {rows : List Row}
    (read : rows.Perm relation.rows) (sought : Row → Bool) {own : Row}
    (member : own ∈ relation.rows) :
    (rows.filter fun row => (Relation.keyOrder (relation.project table.primaryKey own)
      (relation.project table.primaryKey row) == .eq) && sought row) = [own].filter sought := by
  refine filter_only (read.nodup_iff.mpr mirrored.nodup) (read.symm.subset member)
    (fun row inside => ?_) sought
  rw [beq_iff_eq]
  refine ⟨mirrored.eq_of_key member (read.subset inside), fun same => ?_⟩
  rw [same]
  exact Relation.key_order_self _

/-- The rows of the pairs that belong together are the rows that are sought and whose copies are
not left out: each copy belongs to the row that was copied and to no other one. -/
theorem pairs_perm (mirrored : table.MirroredBy relation shadow) {rows : List Row}
    (read : rows.Perm relation.rows) {copies : List (Row × Stored)}
    (all : copies.map Prod.fst = shadow.rows) (belongs : (Row × Stored) × Row → Bool)
    (confined sought : Row → Bool)
    (decides : ∀ pair : (Row × Stored) × Row, ∀ own ∈ relation.rows, pair.2 ∈ relation.rows →
      pair.1.1.values = relation.project table.carriedColumns own →
      belongs pair = (confined own && ((Relation.keyOrder (relation.project table.primaryKey own)
        (relation.project table.primaryKey pair.2) == .eq) && sought pair.2))) :
    ((pairs belongs copies rows).map Prod.snd).Perm
      (relation.rows.filter fun row => confined row && sought row) := by
  have partners : ∀ copy ∈ copies, (rows.filter fun row => belongs (copy, row)) =
      table.rowsCopied relation (fun row => confined row && sought row) copy.1.values := by
    intro copy among
    obtain ⟨own, member, copied⟩ := mirrored.own (all ▸ List.mem_map_of_mem among)
    have decided : (rows.filter fun row => belongs (copy, row)) = rows.filter fun row =>
        (Relation.keyOrder (relation.project table.primaryKey own)
          (relation.project table.primaryKey row) == .eq) && (confined own && sought row) := by
      refine List.filter_congr fun row inside => ?_
      rw [decides (copy, row) own member (read.subset inside) copied, Bool.and_left_comm]
    rw [decided, copied, mirrored.rows_copied_own _ member, mirrored.filter_key read _ member]
    rfl
  have listed : (pairs belongs copies rows).map Prod.snd = (shadow.rows.map Row.values).flatMap
      (table.rowsCopied relation fun row => confined row && sought row) := by
    rw [← all, List.map_map, List.flatMap_map]
    simp only [pairs, List.map_flatMap]
    refine List.flatMap_congr fun copy among => ?_
    refine Eq.trans ?_ (partners copy among)
    rw [List.filter_map, List.map_map]
    exact List.map_id _
  rw [listed]
  exact mirrored.flat_map_rows_copied _

end MirroredBy

end Table

end RecordStore
