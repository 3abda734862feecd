import RecordStore.Proofs.Query.Searched
import RecordStore.Proofs.Value.Columns

/-!
# Requests with a term

A request with a term compiles to a query that searches. Whether it does depends on its criteria, on
the columns of its partition and on its order just as it does without the term: the names under
which a query knows its sources take no part in it.
-/

namespace RecordStore

open Engine Sql Request

/-! ### What compiles -/

/-- What succeeds has a value. -/
theorem Engine.exists_of_is_ok {ε α : Type} {outcome : Except ε α}
    (succeeds : outcome.isOk = true) : ∃ value, outcome = .ok value := by
  cases outcome with
  | error problem => cases succeeds
  | ok value => exact ⟨value, rfl⟩

/-- A list of results is there exactly if each of them is. -/
theorem Engine.is_ok_map_m {ε α β : Type} (make : α → Except ε β) (items : List α) :
    (items.mapM make).isOk = items.all fun item => (make item).isOk := by
  induction items with
  | nil => rfl
  | cons first rest inductionHypothesis =>
    rw [List.mapM_cons, List.all_cons, ← inductionHypothesis]
    cases make first with
    | error problem => rfl
    | ok made => cases rest.mapM make <;> rfl

/-- An equality compiles exactly if the table has its column. -/
theorem Condition.equality_is_ok (table : Table) (source : Option String) (column : String)
    (value : Value) : (equality table source column value).isOk = table.hasColumn column := by
  unfold equality Table.requireColumn
  cases table.hasColumn column with
  | false => rfl
  | true => cases value.isNull <;> rfl

/-- Changing a value changes nothing about whether it is there. -/
theorem Engine.is_ok_map {ε α β : Type} (change : α → β) (outcome : Except ε α) :
    (outcome.map change).isOk = outcome.isOk := by
  cases outcome <;> rfl

/-- Whether an equality compiles, and to which error if not, does not depend on the source. -/
theorem Condition.equality_outcome (table : Table) (source other : Option String) (column : String)
    (value : Value) :
    (equality table source column value).map (fun _ => ()) =
      (equality table other column value).map fun _ => () := by
  unfold equality
  cases table.requireColumn column with
  | error problem => rfl
  | ok _ => cases value.isNull <;> rfl

/-- Nor does what becomes of a comparison. -/
theorem Condition.of_operator_outcome (table : Table) (source other : Option String)
    (operator : Operator) (values : List Value) :
    (ofOperator table source operator values).map (fun _ => ()) =
      (ofOperator table other operator values).map fun _ => () := by
  have single : ∀ column operand, (comparison source operator column operand).map (fun _ => ()) =
      (comparison other operator column operand).map fun _ => () := by
    intro column operand
    unfold comparison
    cases operand.isNull <;> cases operator <;> rfl
  unfold ofOperator
  split
  · rename_i column operands
    unfold Table.requireColumn
    cases table.hasColumn column with
    | false => rfl
    | true =>
      cases operator with
      | oneOf => cases operands <;> rfl
      | _ => match operands with
        | [] => rfl
        | [operand] => exact single column operand
        | _ :: _ :: _ => rfl
  · rfl

/-- Whether an entry compiles, and why not, does not depend on the name of the source. -/
theorem Condition.of_entry_outcome (table : Table) (source other : Option String)
    (entry : String × Argument) :
    (ofEntry table source entry).map (fun _ => ()) =
      (ofEntry table other entry).map fun _ => () := by
  unfold ofEntry
  cases Operator.nameOfKey? entry.1 with
  | some name =>
    cases parsed : Operator.parse name with
    | error problem =>
      simp only [parsed]
      rfl
    | ok operator =>
      simp only [parsed]
      exact of_operator_outcome table source other operator entry.2.values
  | none =>
    cases entry.2 with
    | scalar value => exact equality_outcome table source other entry.1 value
    | list values => rfl

/-- Nor does whether an entry compiles. -/
theorem Condition.of_entry_is_ok (table : Table) (source other : Option String)
    (entry : String × Argument) :
    (ofEntry table source entry).isOk = (ofEntry table other entry).isOk := by
  rw [← is_ok_map (fun _ => ()), of_entry_outcome table source other, is_ok_map]

/-- Whether criteria compile does not depend on the source. -/
theorem Criteria.conditions_is_ok (criteria : Criteria) (table : Table)
    (source other : Option String) :
    (criteria.conditions table source).isOk = (criteria.conditions table other).isOk := by
  unfold Criteria.conditions
  split
  · rfl
  · simp only [is_ok_map_m, Condition.of_entry_is_ok table source other]

/-- Whether a sort compiles does not depend on the source. -/
theorem SortOrder.order_keys_is_ok (sort : SortOrder) (table : Table)
    (source other : Option String) :
    (sort.orderKeys table source).isOk = (sort.orderKeys table other).isOk := by
  have single : ∀ pair, (orderKey table source pair).isOk = (orderKey table other pair).isOk := by
    intro pair
    unfold orderKey
    split <;> rfl
  unfold orderKeys
  split
  · rfl
  · simp only [is_ok_map_m, single]

/-- A partition compiles exactly if the table has all its columns. -/
theorem Partition.conditions_is_ok (partition : Partition) (table : Table)
    (source : Option String) : (partition.conditions table source).isOk =
      partition.attributes.all fun held => table.hasColumn held.1 := by
  unfold Partition.conditions
  simp only [is_ok_map_m, Condition.equality_is_ok]

/-- What is stated is what the partition states, and then what the criteria do. -/
theorem stated_conditions_eq (criteria : Option Criteria) (partition : Option Partition)
    (table : Table) (source : Option String) :
    statedConditions criteria partition table source =
      ((partition.elim (.ok []) fun partition => partition.conditions table source) >>=
        fun confined =>
        (criteria.elim (.ok []) fun criteria => criteria.conditions table source) >>= fun asked =>
          .ok (confined ++ asked)) := by
  cases partition <;> cases criteria <;> rfl

/-- A request states what can be stated if its partition and its criteria can. -/
theorem stated_conditions_is_ok (criteria : Option Criteria) (partition : Option Partition)
    (table : Table) (source : Option String) :
    (statedConditions criteria partition table source).isOk =
      ((partition.all fun partition => (partition.conditions table source).isOk) &&
        criteria.all fun criteria => (criteria.conditions table source).isOk) := by
  have optional : ∀ {α : Type} (make : α → Except StoreError (List Condition)) (given : Option α),
      (given.elim (.ok []) make).isOk = given.all fun item => (make item).isOk := by
    intro α make given
    cases given <;> rfl
  rw [stated_conditions_eq, ← optional, ← optional]
  cases partition.elim (.ok []) fun partition => partition.conditions table source with
  | error problem => rfl
  | ok confined =>
    cases criteria.elim (.ok []) fun criteria => criteria.conditions table source <;> rfl

/-! ### Queries for a term -/

namespace Table

/-- The conditions under which a row belongs to a copy: they have one key, and the row meets what
is asked of it. -/
def belonging (table : Table) (asked : List Condition) : List Condition :=
  keyConditions table ++ (Expression.conjunction? asked).toList

/-- The query for the pairs of a copy and a row that belong together, without result columns. -/
def pairsQuery (table : Table) (asked confined : List Condition) (term : String) :
    Select Stored where
  columns := []
  source := some ⟨table.shadowName, some shadowAlias⟩
  joins := [⟨⟨table.name, some tableAlias⟩, some (table.belonging asked)⟩]
  conditions := some (confined ++ [table.matching (.text term)])

/-- The query for a page of the rows of these pairs. -/
def foundQuery (table : Table) (asked confined : List Condition) (term : String)
    (keys : List (OrderKey Stored)) (page : Page) : Select Stored :=
  { table.pairsQuery asked confined term with
    columns := resultColumns table (some tableAlias)
    ordering := keys
    limit := some (.operand (.integer page.limit))
    offset := some (.operand (.integer page.offset)) }

/-- The query for their number. -/
def foundCountQuery (table : Table) (asked confined : List Condition) (term : String) :
    Select Stored :=
  { table.pairsQuery asked confined term with
    columns := [.computed .countRows none "COUNT(*)"] }

variable {table : Table} {asked confined : List Condition} {demands others : List Demand}
  {term : String}

/-- The query for a page searches, if it sorts by columns that it may name. -/
theorem found_query_searched (nonempty : table.columns ≠ []) {keys : List (OrderKey Stored)}
    (named : ∀ key ∈ keys, ∃ source name, table.NamesSearched source name ∧
      key.expression = .column source name) (page : Page) :
    table.IsSearchedBy (table.belonging asked) confined (.text term)
      (table.foundQuery asked confined term keys page).merged where
  distinct := rfl
  nonempty := by
    simpa [foundQuery, Select.merged, Request.resultColumns, columnNames] using nonempty
  columns column member := by
    obtain ⟨name, among, rfl⟩ := List.mem_map.mp member
    exact .inr ⟨some tableAlias, name, .inr ⟨rfl, has_column_of_mem among⟩, rfl⟩
  source := rfl
  joins := rfl
  conditions := rfl
  grouping := rfl
  having := rfl
  ordering := named
  window := .inr ⟨_, _, rfl, rfl⟩

/-- The query for the number of pairs searches, once its clauses are merged. -/
theorem found_count_query_searched :
    table.IsSearchedBy (table.belonging asked) confined (.text term)
      (table.foundCountQuery asked confined term).merged where
  distinct := rfl
  nonempty := List.cons_ne_nil _ _
  columns _ member := .inl (List.mem_singleton.mp member)
  source := rfl
  joins := rfl
  conditions := rfl
  grouping := rfl
  having := rfl
  ordering := nofun
  window := .inl ⟨rfl, rfl⟩

/-- What is compiled for copies and rows is about their columns. -/
theorem belonging_within (compiled : CompiledAll table (some tableAlias) demands asked)
    (compiledToo : CompiledAll table (some shadowAlias) others confined)
    (carried : ∀ demand ∈ others, demand.column ∈ table.carriedColumns) :
    ∀ condition ∈ table.belonging asked ++ confined, condition.Within table.NamesSearched := by
  intro condition member
  rcases List.mem_append.mp member with among | among
  · rcases List.mem_append.mp among with ofKey | ofRow
    · obtain ⟨key, inKey, rfl⟩ := List.mem_map.mp ofKey
      exact ⟨.inl ⟨rfl, .inl (table.primary_key_subset_carried inKey)⟩,
        .inr ⟨rfl, has_column_of_mem (table.primary_key_subset inKey)⟩⟩
    · refine Expression.within_conjunction? (fun part inside => ?_) condition
        (Option.mem_toList.mp ofRow)
      obtain ⟨demand, -, known, made⟩ := compiled.each part inside
      exact made.within (.inr ⟨rfl, known⟩)
  · obtain ⟨demand, inside, -, made⟩ := compiledToo.each condition among
    exact made.within (.inl ⟨rfl, .inl (carried demand inside)⟩)

/-- It is read back. -/
theorem belonging_written (faultless : table.fault? = none)
    (compiled : CompiledAll table (some tableAlias) demands asked)
    (compiledToo : CompiledAll table (some shadowAlias) others confined) :
    ∀ condition ∈ table.belonging asked ++ confined, condition.Written 3 := by
  obtain ⟨-, -, named⟩ := identifiers_of_fault? faultless
  have ofCopy : ∀ name ∈ table.columnNames, AreNames (some shadowAlias) name := fun name member =>
    ⟨by rintro _ ⟨⟩; exact is_alias_shadow_alias.1, named name member⟩
  have ofRow : ∀ name ∈ table.columnNames, AreNames (some tableAlias) name := fun name member =>
    ⟨by rintro _ ⟨⟩; exact is_alias_table_alias.1, named name member⟩
  intro condition member
  rcases List.mem_append.mp member with among | among
  · rcases List.mem_append.mp among with isKey | further
    · obtain ⟨key, inKey, rfl⟩ := List.mem_map.mp isKey
      have known := table.primary_key_subset inKey
      exact .binary (rfl : Expression.binds _ = some 4) (by decide) (.column (ofCopy key known))
        (.column (ofRow key known))
    · refine written_conjunction? (fun part inside => ?_) condition (Option.mem_toList.mp further)
      obtain ⟨demand, -, known, made⟩ := compiled.each part inside
      exact made.written (ofRow _ (mem_column_names_of_has_column known))
  · obtain ⟨demand, -, known, made⟩ := compiledToo.each condition among
    exact made.written (ofCopy _ (mem_column_names_of_has_column known))

end Table

/-- A partition of carried columns, each with null or a value of the type of the column. -/
def Partition.Suits (partition : Partition) (table : Table) : Prop :=
  ∀ held ∈ partition.attributes, held.1 ∈ table.carriedColumns ∧
    ∀ column ∈ table.column? held.1, column.type.fieldType.holds held.2 = true

/-- A partition of carried columns, with whatever values. -/
def Partition.IsCarriedIn (partition : Partition) (table : Table) : Prop :=
  ∀ held ∈ partition.attributes, held.1 ∈ table.carriedColumns

/-- A partition that suits a table is by carried columns. -/
theorem Partition.Suits.is_carried_in {partition : Partition} {table : Table}
    (suits : partition.Suits table) : partition.IsCarriedIn table :=
  fun held member => (suits held member).1

/-- A partition of carried columns compiles. -/
theorem Partition.IsCarriedIn.conditions_ok {partition : Partition} {table : Table}
    (carried : partition.IsCarriedIn table) (source : Option String) :
    (partition.conditions table source).isOk = true := by
  rw [partition.conditions_is_ok, List.all_eq_true]
  exact fun held member => Table.has_column_of_mem (table.carried_subset (carried held member))

namespace Request

/-- Only a partition of carried columns can be asked of the full-text table. -/
theorem shadow_conditions_ok {request : Request} {table : Table} {confined : List Condition}
    (made : request.shadowConditions table = .ok confined) :
    (request.partition.elim (.ok []) fun partition =>
      partition.conditions table (some shadowAlias)) = .ok confined ∧
    ∀ partition ∈ request.partition, partition.IsCarriedIn table := by
  unfold shadowConditions at made
  cases given : request.partition with
  | none =>
    rw [given] at made
    exact ⟨made, nofun⟩
  | some partition =>
    simp only [given] at made
    split at made
    · cases made
    · rename_i carried
      refine ⟨made, ?_⟩
      rintro _ ⟨⟩ held member
      simp only [uncarried?, Option.map_eq_none_iff, List.find?_eq_none, Bool.not_eq_true,
        Bool.not_eq_false', List.contains_iff_mem] at carried
      exact carried held member

/-- A partition of carried columns can be asked of it. -/
theorem shadow_conditions_of_carried {request : Request} {table : Table}
    (carried : ∀ partition ∈ request.partition, partition.IsCarriedIn table) :
    request.shadowConditions table = request.partition.elim (.ok []) fun partition =>
      partition.conditions table (some shadowAlias) := by
  unfold shadowConditions
  cases given : request.partition with
  | none => rfl
  | some partition =>
    have allCarried : uncarried? partition table = none := by
      unfold uncarried?
      rw [List.find?_eq_none.mpr fun held member => by simp [carried partition given held member]]
      rfl
    simp only [allCarried]
    rfl

/-- A request with a term compiles to a query for pairs under the conditions that its criteria and
its partition compile to. -/
theorem matched_rows_ok {request : Request} {table : Table} {term : String} {query : Select Stored}
    (made : request.matchedRows table term = .ok query) :
    table.isAnalyzed = true ∧ isBlankText term = false ∧ ∃ asked confined,
      (request.criteria.elim (.ok []) fun criteria =>
        criteria.conditions table (some tableAlias)) = .ok asked ∧
      request.shadowConditions table = .ok confined ∧
      query = table.pairsQuery asked confined term := by
  have ended : ∀ asked, (request.shadowConditions table >>= fun confined =>
      .ok (table.pairsQuery asked confined term)) = .ok query → ∃ confined,
        request.shadowConditions table = .ok confined ∧
        query = table.pairsQuery asked confined term := by
    intro asked ended
    obtain ⟨confined, confinedMade, same⟩ := bind_ok ended
    cases same
    exact ⟨confined, confinedMade, rfl⟩
  unfold matchedRows at made
  cases analyzed : table.isAnalyzed with
  | false =>
    rw [analyzed] at made
    cases made
  | true =>
    cases blank : isBlankText term with
    | true =>
      rw [analyzed, blank] at made
      cases made
    | false =>
      rw [analyzed, blank] at made
      refine ⟨rfl, rfl, ?_⟩
      cases given : request.criteria with
      | none =>
        rw [given] at made
        obtain ⟨confined, confinedMade, same⟩ := ended [] made
        exact ⟨[], confined, rfl, confinedMade, same⟩
      | some criteria =>
        rw [given] at made
        obtain ⟨asked, askedMade, made⟩ := bind_ok made
        obtain ⟨confined, confinedMade, same⟩ := ended asked made
        exact ⟨asked, confined, askedMade, confinedMade, same⟩

/-- A request with a term that is not blank, with criteria that compile, and with a partition that
suits the table. -/
structure Searches (request : Request) (table : Table) (term : String) : Prop where
  asks : request.term = some term
  words : isBlankText term = false
  accepted : ∀ criteria ∈ request.criteria, (criteria.conditions table none).isOk = true
  suits : ∀ partition ∈ request.partition, partition.Suits table

/-- A request that can search a table: with a term that is not blank, with criteria that compile,
and with a partition of carried columns. -/
structure CanSearch (request : Request) (table : Table) (term : String) : Prop where
  asks : request.term = some term
  words : isBlankText term = false
  accepted : ∀ criteria ∈ request.criteria, (criteria.conditions table none).isOk = true
  carried : ∀ partition ∈ request.partition, partition.IsCarriedIn table

/-- A request that searches can search. -/
theorem Searches.can_search {request : Request} {table : Table} {term : String}
    (searches : request.Searches table term) : request.CanSearch table term :=
  ⟨searches.asks, searches.words, searches.accepted,
    fun partition given => (searches.suits partition given).is_carried_in⟩

/-- The conditions to which a request with a term compiles: those that are asked of a row and mean
its criteria, and those that confine the copies and mean its partition. -/
structure SearchesUnder (request : Request) (table : Table) (asked confined : List Condition) :
    Prop where
  asked : ∃ demands, CompiledAll table (some tableAlias) demands asked ∧
    ∀ values, demands.all (Demand.isMetIn table values) =
      request.criteria.all (Criteria.isMetIn table values)
  confined : CompiledAll table (some shadowAlias) (request.partition.elim [] Partition.demands)
    confined

section Under

variable {request : Request} {table : Table} {asked confined : List Condition}

/-- What the criteria and the partition compile to means them. -/
theorem SearchesUnder.of_conditions
    (askedMade : (request.criteria.elim (.ok []) fun criteria =>
      criteria.conditions table (some tableAlias)) = .ok asked)
    (confinedMade : (request.partition.elim (.ok []) fun partition =>
      partition.conditions table (some shadowAlias)) = .ok confined) :
    request.SearchesUnder table asked confined where
  asked := Criteria.elim_compiled askedMade
  confined := Partition.elim_compiled confinedMade

/-- What a request with a term compiles to is about columns that its query may name. -/
theorem SearchesUnder.within (under : request.SearchesUnder table asked confined)
    (carried : ∀ partition ∈ request.partition, partition.IsCarriedIn table) :
    ∀ condition ∈ table.belonging asked ++ confined, condition.Within table.NamesSearched := by
  obtain ⟨demands, compiled, -⟩ := under.asked
  refine Table.belonging_within compiled under.confined fun demand member => ?_
  cases given : request.partition with
  | none =>
    rw [given] at member
    cases member
  | some partition =>
    rw [given] at member
    obtain ⟨entry, among, rfl⟩ := List.mem_map.mp member
    exact carried partition given entry among

/-- The conditions to which a request with a term compiles are written as they are read. -/
theorem SearchesUnder.written (under : request.SearchesUnder table asked confined)
    (faultless : table.fault? = none) :
    ∀ condition ∈ table.belonging asked ++ confined, condition.Written 3 := by
  obtain ⟨demands, compiled, -⟩ := under.asked
  exact Table.belonging_written faultless compiled under.confined

end Under

/-- The same request without its term. -/
def plain (request : Request) : Request := { request with term := none }

namespace CanSearch

variable {request : Request} {table : Table} {term : String}

/-- The columns of a request that can search stand under the alias of the table. -/
theorem source (searches : request.CanSearch table term) :
    request.source = some tableAlias := by
  rw [Request.source, searches.asks]
  rfl

/-- What confines the copies is what the partition states of the full-text table. -/
theorem shadow_conditions (searches : request.CanSearch table term) :
    request.shadowConditions table = request.partition.elim (.ok []) fun partition =>
      partition.conditions table (some shadowAlias) :=
  shadow_conditions_of_carried searches.carried

/-- The criteria and the partition compile, whatever the sources are called. -/
theorem exists_conditions (searches : request.CanSearch table term) : ∃ asked confined,
    (request.criteria.elim (.ok []) fun criteria => criteria.conditions table (some tableAlias)) =
      .ok asked ∧
    (request.partition.elim (.ok []) fun partition =>
      partition.conditions table (some shadowAlias)) = .ok confined := by
  obtain ⟨asked, askedMade⟩ : ∃ asked, (request.criteria.elim (.ok []) fun criteria =>
      criteria.conditions table (some tableAlias)) = .ok asked := by
    cases given : request.criteria with
    | none => exact ⟨[], rfl⟩
    | some criteria =>
      have accepted := searches.accepted criteria given
      rw [criteria.conditions_is_ok table none (some tableAlias)] at accepted
      exact exists_of_is_ok accepted
  obtain ⟨confined, confinedMade⟩ : ∃ confined, (request.partition.elim (.ok []) fun partition =>
      partition.conditions table (some shadowAlias)) = .ok confined := by
    cases given : request.partition with
    | none => exact ⟨[], rfl⟩
    | some partition =>
      exact exists_of_is_ok ((searches.carried partition given).conditions_ok (some shadowAlias))
  exact ⟨asked, confined, askedMade, confinedMade⟩

/-- The rows that the request means are those of a query for pairs. -/
theorem rows_ok (searches : request.CanSearch table term) (analyzed : table.isAnalyzed = true)
    {asked confined : List Condition}
    (askedMade : (request.criteria.elim (.ok []) fun criteria =>
      criteria.conditions table (some tableAlias)) = .ok asked)
    (confinedMade : (request.partition.elim (.ok []) fun partition =>
      partition.conditions table (some shadowAlias)) = .ok confined) :
    request.rows table = .ok (table.pairsQuery asked confined term) := by
  rw [rows_asking searches.asks]
  unfold matchedRows
  cases given : request.criteria with
  | none =>
    rw [given] at askedMade
    cases askedMade
    simp only [analyzed, searches.words, searches.shadow_conditions, confinedMade]
    rfl
  | some criteria =>
    rw [given] at askedMade
    have conditions : criteria.conditions table (some tableAlias) = .ok asked := askedMade
    simp only [analyzed, searches.words, searches.shadow_conditions, confinedMade, conditions]
    rfl

/-- A request with a term compiles to queries that search, under the same conditions whether it
counts or finds. -/
theorem compiles (searches : request.CanSearch table term) (analyzed : table.isAnalyzed = true) :
    ∃ asked confined, request.SearchesUnder table asked confined ∧
      request.counting table = .ok (table.foundCountQuery asked confined term) ∧
      ∀ page, request.finding table page = (request.ordering table).map fun keys =>
        table.foundQuery asked confined term keys page := by
  obtain ⟨asked, confined, askedMade, confinedMade⟩ := searches.exists_conditions
  have made := searches.rows_ok analyzed askedMade confinedMade
  refine ⟨asked, confined, .of_conditions askedMade confinedMade, ?_, fun page => ?_⟩
  · rw [counting_eq, made]
    rfl
  · rw [finding_of_rows made, searches.source]
    rfl

/-- A request with a term that says how to sort sorts by columns of the table. -/
theorem order_keys_ok (searches : request.CanSearch table term) {sort : SortOrder}
    (given : request.sort = some sort) {keys : List (OrderKey Stored)}
    (made : request.ordering table = .ok keys) :
    (∀ pair ∈ request.sortPairs, table.hasColumn pair.1 = true) ∧
      keys = request.sortPairs.map fun pair => ⟨.column (some tableAlias) pair.1, some pair.2⟩ := by
  rw [ordering_sorting given, searches.source] at made
  unfold sortPairs
  rw [given]
  exact (Table.order_keys_ok made).2

/-- The order of a request with a term sorts by columns that its query may name. -/
theorem ordering_named (searches : request.CanSearch table term) {keys : List (OrderKey Stored)}
    (made : request.ordering table = .ok keys) : ∀ key ∈ keys, ∃ source name,
      table.NamesSearched source name ∧ key.expression = .column source name := by
  cases given : request.sort with
  | none =>
    rw [ordering_asking given searches.asks] at made
    cases made
    intro key member
    cases List.mem_singleton.mp member
    exact ⟨some shadowAlias, rankName, .inl ⟨rfl, .inr rfl⟩, rfl⟩
  | some sort =>
    obtain ⟨known, rfl⟩ := searches.order_keys_ok given made
    intro key member
    obtain ⟨pair, among, rfl⟩ := List.mem_map.mp member
    exact ⟨some tableAlias, pair.1, .inr ⟨rfl, known pair among⟩, rfl⟩

/-- What such a request states can be stated without its term. -/
theorem stated (searches : request.CanSearch table term) :
    ∃ conditions, statedConditions request.criteria request.partition table none =
      .ok conditions := by
  refine exists_of_is_ok ?_
  rw [stated_conditions_is_ok, Bool.and_eq_true, Option.all_eq_true, Option.all_eq_true]
  exact ⟨fun partition given => (searches.carried partition given).conditions_ok none,
    searches.accepted⟩

/-- Without its term the request compiles for a page if its order does. -/
theorem plain_finding_is_ok (searches : request.CanSearch table term) (page : Page) :
    (request.plain.finding table page).isOk = (request.plain.ordering table).isOk := by
  obtain ⟨conditions, stated⟩ := searches.stated
  have same : statedConditions request.plain.criteria request.plain.partition table none =
      .ok conditions := stated
  have rows : request.plain.rows table =
      .ok (table.rowsQuery (Expression.conjunction? conditions)) := by
    rw [rows_plain rfl, plain_rows_eq, same]
    rfl
  rw [finding_of_rows rows]
  cases request.plain.ordering table <;> rfl

/-- The term takes no part in whether a request compiles for a page. -/
theorem finding_is_ok (searches : request.CanSearch table term) (analyzed : table.isAnalyzed = true)
    (page : Page) :
    (request.finding table page).isOk = (request.plain.finding table page).isOk := by
  have sorted : (request.ordering table).isOk = (request.plain.ordering table).isOk := by
    unfold ordering plain
    rw [searches.asks]
    cases request.sort with
    | none => rfl
    | some sort => exact sort.order_keys_is_ok table _ _
  obtain ⟨asked, confined, -, -, finds⟩ := searches.compiles analyzed
  rw [searches.plain_finding_is_ok, ← sorted, finds page]
  cases request.ordering table <;> rfl

end CanSearch

end Request

end RecordStore
