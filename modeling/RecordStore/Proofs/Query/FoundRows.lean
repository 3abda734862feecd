import RecordStore.Proofs.Engine.Widths
import RecordStore.Proofs.Query.SameRows

/-!
# Found rows are rows of the table

Whatever a request asks for, the query for a page of it has its table among its sources, and returns
the columns of that source. So each row of the page is a row that the table has, also when the
request has a term: a copy in the full-text table finds nothing by itself, and whether the full-text
table mirrors the table plays no part.
-/

namespace RecordStore

open Engine Sql

namespace Engine

variable {database : Database} {query : Select Stored} {found : List Scope}

/-- The rows of a source are known by its name. -/
theorem bindings_name {source : Source} {rows : List Binding}
    (read : bindings database query source = .ok rows) : ∀ row ∈ rows, row.name = source.name := by
  unfold bindings at read
  split at read
  · cases read
    intro row member
    obtain ⟨held, -, rfl⟩ := List.mem_map.mp member
    rfl
  · split at read
    · obtain ⟨asked, -, ended⟩ := bind_ok read
      cases ended
      intro row member
      unfold rankedBindings at member
      split at member
      · obtain ⟨held, -, rfl⟩ := List.mem_map.mp member
        rfl
      · obtain ⟨held, -, rfl⟩ := List.mem_map.mp member
        rfl
    · cases read

/-- The scopes of a query of one source are rows of the source. -/
theorem scopes_alone {source : Source} (given : query.source = some source)
    (alone : query.joins = []) (reads : scopes database query = .ok found) :
    ∃ rows, bindings database query source = .ok rows ∧
      ∀ scope ∈ found, ∃ row ∈ rows, scope = [row] := by
  unfold scopes at reads
  rw [given, alone] at reads
  obtain ⟨rows, held, reads⟩ := bind_ok reads
  obtain ⟨_, ⟨⟩, reads⟩ := bind_ok reads
  obtain ⟨_, ⟨⟩, ended⟩ := bind_ok reads
  cases ended
  refine ⟨rows, held, fun scope member => ?_⟩
  obtain ⟨row, among, rfl⟩ := List.mem_map.mp (List.mem_filter.mp member).1
  exact ⟨row, among, rfl⟩

/-- The scopes of a query that joins a source to another one are pairs of their rows. -/
theorem scopes_joined {source : Source} {join : Join Stored} (given : query.source = some source)
    (joins : query.joins = [join]) (reads : scopes database query = .ok found) :
    ∃ lefts rights, bindings database query source = .ok lefts ∧
      bindings database query join.source = .ok rights ∧
      ∀ scope ∈ found, ∃ left ∈ lefts, ∃ right ∈ rights, scope = [left, right] := by
  unfold scopes at reads
  rw [given, joins] at reads
  obtain ⟨lefts, heldLeft, reads⟩ := bind_ok reads
  obtain ⟨_, ⟨⟩, reads⟩ := bind_ok reads
  obtain ⟨all, step, ended⟩ := bind_ok reads
  rw [List.foldlM_cons] at step
  obtain ⟨pairs, joined, kept⟩ := bind_ok step
  obtain ⟨rights, heldRight, paired⟩ := bind_ok joined
  cases paired
  cases kept
  cases ended
  refine ⟨lefts, rights, heldLeft, heldRight, fun scope member => ?_⟩
  obtain ⟨earlier, among, inside⟩ := List.mem_flatMap.mp (List.mem_filter.mp member).1
  obtain ⟨left, leftMember, rfl⟩ := List.mem_map.mp among
  obtain ⟨right, rightMember, rfl⟩ := List.mem_map.mp (List.mem_filter.mp inside).1
  exact ⟨left, leftMember, right, rightMember, rfl⟩

end Engine

namespace Request

variable {request : Request} {table : Table} {database : Database} {relation : Relation}
  {query : Select Stored} {page : Page}

/-- The table is the only source of the query of a request, or the full-text table is joined to
it. -/
theorem finding_sources (made : request.finding table page = .ok query) :
    (request.source = none ∧ query.source = some ⟨table.name, none⟩ ∧ query.joins = []) ∨
      (request.source = some tableAlias ∧
        query.source = some ⟨table.shadowName, some shadowAlias⟩ ∧
        ∃ conditions, query.joins = [⟨⟨table.name, some tableAlias⟩, conditions⟩]) := by
  obtain ⟨rows, keys, rowsMade, -, rfl⟩ := finding_ok made
  cases asks : request.term with
  | none =>
    rw [rows_plain asks] at rowsMade
    obtain ⟨conditions, -, rfl⟩ := plain_rows_ok rowsMade
    exact .inl ⟨source_plain asks, rfl, rfl⟩
  | some term =>
    rw [rows_asking asks] at rowsMade
    obtain ⟨-, -, asked, confined, -, -, rfl⟩ := matched_rows_ok rowsMade
    exact .inr ⟨source_asking asks, rfl, _, rfl⟩

variable (read : table.IsReadIn database relation)
  (made : request.finding table page = .ok query) (replace : Stored → Stored)

include read made

/-- Each scope of the query shows a row of the table. -/
theorem finding_scopes {found : List Scope}
    (reads : Engine.scopes database (query.mapOperands replace) = .ok found) :
    ∀ scope ∈ found, ∃ row ∈ relation.rows, scope.Shows request.source table row.values := by
  have rows : ∀ {source : Source} {bound : List Binding}, source.table = table.name →
      bindings database (query.mapOperands replace) source = .ok bound →
      ∀ binding ∈ bound, ∃ row ∈ relation.rows, binding = relation.binding source.name row := by
    intro source bound about held binding member
    unfold bindings at held
    rw [about, read.readable?] at held
    cases held
    obtain ⟨row, among, rfl⟩ := List.mem_map.mp member
    exact ⟨row, (rows_read_perm _ relation).subset among, rfl⟩
  intro scope member
  rcases finding_sources made with ⟨named, given, joins⟩ | ⟨named, given, conditions, joins⟩
  · have sourced : (query.mapOperands replace).source = some ⟨table.name, none⟩ := given
    have unjoined : (query.mapOperands replace).joins = [] := List.map_eq_nil_iff.mpr joins
    obtain ⟨bound, held, alone⟩ := scopes_alone sourced unjoined reads
    obtain ⟨binding, among, rfl⟩ := alone scope member
    obtain ⟨row, rowMember, rfl⟩ := rows rfl held binding among
    refine ⟨row, rowMember, fun column known => ?_⟩
    rw [named]
    exact Scope.lookup?_first (read.lookup? _ rowMember known)
  · have sourced : (query.mapOperands replace).source =
        some ⟨table.shadowName, some shadowAlias⟩ := given
    have one : (query.mapOperands replace).joins =
        [⟨⟨table.name, some tableAlias⟩, mapConditions replace conditions⟩] := by
      simp only [Select.mapOperands, joins, List.map_cons, List.map_nil]
    obtain ⟨lefts, rights, heldLeft, heldRight, joined⟩ := scopes_joined sourced one reads
    obtain ⟨left, leftMember, right, rightMember, rfl⟩ := joined scope member
    obtain ⟨row, rowMember, rfl⟩ := rows rfl heldRight right rightMember
    have other : sameName left.name tableAlias = false := by
      rw [bindings_name heldLeft left leftMember]
      exact Table.aliases_apart.1
    refine ⟨row, rowMember, fun column known => ?_⟩
    rw [named, Scope.lookup?_skip other]
    exact Scope.lookup?_named (same_name_refl _) (read.lookup? _ rowMember known)

/-- The query returns the columns of the table. -/
theorem finding_result_columns :
    Engine.resultColumns database (query.mapOperands replace) =
      table.columnNames.map fun name => (name, .column request.source name) := by
  have columns : (query.mapOperands replace).columns = resultColumns table request.source := by
    obtain ⟨rows, keys, -, -, rfl⟩ := finding_ok made
    exact result_columns_map_operands table request.source replace
  rcases finding_sources made with ⟨named, given, joins⟩ | ⟨named, given, conditions, joins⟩
  · have shape : Engine.sources (query.mapOperands replace) = [] ++ ⟨table.name, none⟩ :: [] := by
      simp [Engine.sources, Select.mapOperands, given, joins]
    exact read.result_columns columns shape (fun _ member => absurd member List.not_mem_nil)
      (by simp [named])
  · have shape : Engine.sources (query.mapOperands replace) =
        [⟨table.shadowName, some shadowAlias⟩] ++ ⟨table.name, some tableAlias⟩ :: [] := by
      simp [Engine.sources, Select.mapOperands, given, joins]
    refine read.result_columns columns shape (fun earlier member => ?_) (by simp [named])
    cases List.mem_singleton.mp member
    rw [named]
    exact Table.aliases_apart.1

/-- Each row that the query answers with is a row of the table. -/
theorem finding_rows {answer : Answer} (nonempty : table.columns ≠ [])
    (selected : select database (query.mapOperands Stored.bound) = .ok answer) :
    ∀ values ∈ answer.rows, ∃ row ∈ relation.rows, row.values = values := by
  have isOver := (finding_is_over made nonempty).map_operands Stored.bound
  have ungrouped := finding_ungrouped made nonempty Stored.bound
  have columns := finding_result_columns read made Stored.bound
  cases reads : Engine.scopes database (query.mapOperands Stored.bound) with
  | error fault => cases (select_error isOver.resolved reads).symm.trans selected
  | ok found =>
    have shown := finding_scopes read made Stored.bound reads
    obtain ⟨rows, keys, -, -, rfl⟩ := finding_ok made
    have listed := select_listing isOver.resolved ungrouped isOver.distinct reads rfl rfl
    cases listed.symm.trans selected
    intro values member
    dsimp only at member
    obtain ⟨scope, among, rfl⟩ := List.mem_map.mp (mem_of_windowed member)
    obtain ⟨row, rowMember, shows⟩ := shown scope ((in_order_perm found).subset among)
    exact ⟨row, rowMember, (read.values_for columns rowMember shows).symm⟩

end Request

end RecordStore
