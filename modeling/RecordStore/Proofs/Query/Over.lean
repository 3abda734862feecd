import RecordStore.Proofs.Engine.Checking
import RecordStore.Proofs.Engine.Listings
import RecordStore.Proofs.Sql.Queries

/-!
# Queries over columns

A query over the columns of a set of names returns some of them, or the number of rows, and sorts
by some of them. It renames and groups nothing. Such a query means what it says in every database,
it is accepted where its names stand for something, and it is read back from its text if its names
are read as names.
-/

namespace RecordStore.Sql.Select

open Engine

/-- A query over the columns of a set of names, with a limit and an offset or with none of them. -/
structure IsOver (names : Option String → String → Prop) (query : Select Stored) : Prop where
  distinct : query.distinct = false
  nonempty : query.columns ≠ []
  columns : ∀ column ∈ query.columns, column = .computed .countRows none "COUNT(*)" ∨
    ∃ source name, names source name ∧
      column = .computed (.column source name) none (qualified source name)
  grouping : query.grouping = []
  having : query.having = none
  ordering : ∀ key ∈ query.ordering, ∃ source name, names source name ∧
    key.expression = .column source name
  window : (query.limit = none ∧ query.offset = none) ∨
    ∃ limit offset, query.limit = some (.operand limit) ∧ query.offset = some (.operand offset)

namespace IsOver

variable {names : Option String → String → Prop} {query : Select Stored} {database : Database}

/-- Other operands leave it a query over the same columns. -/
theorem map_operands (isOver : query.IsOver names) (replace : Stored → Stored) :
    (query.mapOperands replace).IsOver names where
  distinct := isOver.distinct
  nonempty := by simpa [Select.mapOperands] using isOver.nonempty
  columns column member := by
    obtain ⟨before, among, rfl⟩ := List.mem_map.mp member
    rcases isOver.columns before among with rfl | ⟨source, name, named, rfl⟩
    · exact .inl rfl
    · exact .inr ⟨source, name, named, rfl⟩
  grouping := by
    simp only [Select.mapOperands, isOver.grouping]
    rfl
  having := by
    simp only [Select.mapOperands, isOver.having]
    rfl
  ordering key member := by
    obtain ⟨before, among, rfl⟩ := List.mem_map.mp member
    obtain ⟨source, name, named, column⟩ := isOver.ordering before among
    exact ⟨source, name, named, by rw [column]; rfl⟩
  window := by
    simp only [Select.mapOperands]
    rcases isOver.window with ⟨limit, offset⟩ | ⟨limit, offset, limited, shifted⟩
    · rw [limit, offset]
      exact .inl ⟨rfl, rfl⟩
    · rw [limited, shifted]
      exact .inr ⟨_, _, rfl, rfl⟩

/-- The keys of the query mean columns. -/
theorem resolved (isOver : query.IsOver names) : Engine.resolved database query = query := by
  refine resolved_eq isOver.grouping (fun column member => ?_) fun key member => ?_
  · rcases isOver.columns column member with rfl | ⟨source, name, -, rfl⟩
    · exact ⟨_, _, rfl⟩
    · exact ⟨_, _, rfl⟩
  · obtain ⟨source, name, -, column⟩ := isOver.ordering key member
    exact ⟨source, name, column⟩

/-- The query is accepted if its sources are there, its conditions are accepted, and its names
stand for something. -/
theorem checked (isOver : query.IsOver names) {scope : Scope}
    (found : (sources query).mapM (sourceNames database) = .ok scope)
    (accepts : Accepts scope names)
    (joins : ∀ join ∈ query.joins, checkConditions scope join.conditions = .ok ())
    (conditions : checkConditions scope query.conditions = .ok ()) :
    checkSelect database query = .ok () := by
  refine check_select_ok found (fun column member => ?_) joins conditions isOver.resolved
    (fun key member => ?_) isOver.grouping isOver.having
  · rcases isOver.columns column member with rfl | ⟨source, name, named, rfl⟩
    · rfl
    · exact accepts source name named
  · obtain ⟨source, name, named, column⟩ := isOver.ordering key member
    rw [column]
    exact accepts source name named

/-- The query is read back from its text if its sources and conditions are, and its names are read
as names. -/
theorem written (isOver : query.IsOver names)
    (readBack : ∀ source name, names source name → AreNames source name)
    (source : ∃ source, query.source = some source ∧ source.Written)
    (joins : ∀ join ∈ query.joins, join.Written) (conditions : WrittenClause query.conditions) :
    query.Written where
  distinct := isOver.distinct
  some_column := isOver.nonempty
  columns column member := by
    rcases isOver.columns column member with rfl | ⟨source, name, named, rfl⟩
    · exact .countRows
    · exact .column (readBack source name named)
  source := source
  joins := joins
  conditions := conditions
  grouping := isOver.grouping
  having := isOver.having
  ordering key member := by
    obtain ⟨source, name, named, column⟩ := isOver.ordering key member
    exact ⟨source, name, column, readBack source name named⟩
  window := isOver.window

/-- Without the number of rows the query is not about groups of rows. -/
theorem ungrouped (isOver : query.IsOver names)
    (columns : .computed .countRows none "COUNT(*)" ∉ query.columns)
    (conditions : ∀ part ∈ clauseConjuncts query.conditions, isAggregated part = false) :
    answersForGroups query = false := by
  have expressions : ∀ expression ∈ rowExpressions query, isAggregated expression = false := by
    intro expression member
    simp only [rowExpressions, isOver.grouping, List.mem_append, List.mem_filterMap, List.mem_map,
      List.not_mem_nil, or_false] at member
    rcases member with (⟨column, among, here⟩ | part) | ⟨key, among, rfl⟩
    · rcases isOver.columns column among with rfl | ⟨source, name, -, rfl⟩
      · exact absurd among columns
      · cases here
        rfl
    · exact conditions expression part
    · obtain ⟨source, name, -, column⟩ := isOver.ordering key among
      rw [column]
      rfl
  unfold answersForGroups
  rw [List.any_eq_false.mpr fun expression member => by simp [expressions expression member],
    isOver.grouping, isOver.having]
  rfl

end IsOver

end RecordStore.Sql.Select
