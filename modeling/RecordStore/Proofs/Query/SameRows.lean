import Mathlib.Data.List.Perm.Basic
import RecordStore.Proofs.Query.Terms

/-!
# Counting and finding mean the same rows

The query that counts and the query for a page have the same sources and conditions. Which rows of a
relation are read first may differ between them, since a query that names fewer columns may be read
from the key, but not which rows they find. So a page behind the number that is counted is empty,
whatever the database holds.
-/

namespace RecordStore.Engine

open Sql

variable {database : Database} {left right : Select Stored}

/-! ### Queries of the same rows -/

/-- Two queries with the same sources and conditions. -/
structure MeanSameRows (left right : Select Stored) : Prop where
  source : right.source = left.source
  joins : right.joins = left.joins
  conditions : right.conditions = left.conditions

namespace MeanSameRows

/-- They read the same rows of a source, in some order. -/
theorem bindings (same : MeanSameRows left right) (source : Source) {found : List Binding}
    (read : Engine.bindings database left source = .ok found) :
    ∃ others, Engine.bindings database right source = .ok others ∧ found.Perm others := by
  have asked : ∀ table, askedOf right source table = askedOf left source table := by
    intro table
    unfold askedOf patternsAsked
    rw [same.conditions, same.joins]
  unfold Engine.bindings at read ⊢
  split at read
  · cases read
    exact ⟨_, rfl, ((rows_read_perm left _).trans (rows_read_perm right _).symm).map _⟩
  · split at read
    · simp only [asked]
      exact ⟨found, read, .refl _⟩
    · cases read

/-- A join of the same rows yields the same rows. -/
theorem join_scopes {conditions : Option (List (Expression Stored))} {scopes others : List Scope}
    {rows moreRows : List Binding} (perm : scopes.Perm others) (rowsPerm : rows.Perm moreRows) :
    (Engine.joinScopes conditions scopes rows).Perm
      (Engine.joinScopes conditions others moreRows) :=
  perm.flatMap fun _ _ => (rowsPerm.map _).filter _

/-- Joins find the same scopes, in some order, after what is the same in some order before them. By
induction on the joins. -/
theorem joined (same : MeanSameRows left right) (joins : List (Join Stored))
    (first others : List Scope) (perm : first.Perm others) {result : List Scope}
    (folded : (joins.foldlM (fun scopes join => do
      return Engine.joinScopes join.conditions scopes
        (← Engine.bindings database left join.source)) first) = .ok result) :
    ∃ more, (joins.foldlM (fun scopes join => do
      return Engine.joinScopes join.conditions scopes
        (← Engine.bindings database right join.source)) others) = .ok more ∧
      result.Perm more := by
  induction joins generalizing first others with
  | nil =>
    cases folded
    exact ⟨others, rfl, perm⟩
  | cons join rest inductionHypothesis =>
    rw [List.foldlM_cons] at folded
    obtain ⟨_, step, folded⟩ := bind_ok folded
    obtain ⟨rows, read, made⟩ := bind_ok step
    cases made
    obtain ⟨moreRows, readToo, rowsPerm⟩ := same.bindings join.source read
    obtain ⟨more, rest, samePerm⟩ := inductionHypothesis _ _ (join_scopes perm rowsPerm) folded
    refine ⟨more, ?_, samePerm⟩
    rw [List.foldlM_cons, readToo]
    exact rest

/-- They find the same scopes, in some order: the rows of the source are the same in some order,
and each join keeps it so. -/
theorem scopes (same : MeanSameRows left right) {found : List Scope}
    (reads : Engine.scopes database left = .ok found) :
    ∃ others, Engine.scopes database right = .ok others ∧ found.Perm others := by
  unfold Engine.scopes at reads ⊢
  rw [same.source, same.joins, same.conditions]
  cases given : left.source with
  | none =>
    rw [given] at reads
    obtain ⟨_, ⟨⟩, reads⟩ := bind_ok reads
    obtain ⟨all, allRead, ended⟩ := bind_ok reads
    cases ended
    obtain ⟨more, moreRead, perm⟩ := same.joined left.joins _ _ (.refl _) allRead
    refine ⟨_, ?_, perm.filter _⟩
    simp only [bind, Except.bind, pure, Except.pure] at moreRead ⊢
    rw [moreRead]
  | some source =>
    rw [given] at reads
    obtain ⟨rows, read, reads⟩ := bind_ok reads
    obtain ⟨_, ⟨⟩, reads⟩ := bind_ok reads
    obtain ⟨all, allRead, ended⟩ := bind_ok reads
    cases ended
    obtain ⟨moreRows, readToo, rowsPerm⟩ := same.bindings source read
    obtain ⟨more, moreRead, perm⟩ := same.joined left.joins _ _ (rowsPerm.map _) allRead
    refine ⟨_, ?_, perm.filter _⟩
    simp only [readToo, bind, Except.bind, pure, Except.pure] at moreRead ⊢
    rw [moreRead]

end MeanSameRows

end RecordStore.Engine

namespace RecordStore

open Engine Sql

/-! ### The queries of a request -/

/-- A query for rows alone: it says where they come from and under which conditions, which are about
columns or are matches. -/
structure Sql.Select.IsForRows (query : Select Stored) : Prop where
  distinct : query.distinct = false
  grouping : query.grouping = []
  having : query.having = none
  ordering : query.ordering = []
  limit : query.limit = none
  offset : query.offset = none
  conditions : ∀ condition ∈ query.conditions.getD [],
    (condition.Within fun _ _ => True) ∨ ∃ source name term, condition = .matching source name term

namespace Request

variable {request : Request} {table : Table} {rows query : Select Stored} {page : Page}

/-- What a request compiles to before its result columns is a query for rows alone. -/
theorem rows_is_for_rows (made : request.rows table = .ok rows) : rows.IsForRows := by
  have within : ∀ {source : Option String} {demands : List Demand} {conditions : List Condition},
      CompiledAll table source demands conditions →
      ∀ condition ∈ conditions, condition.Within fun _ _ => True := by
    intro source demands conditions compiled condition member
    obtain ⟨demand, -, -, made⟩ := compiled.each condition member
    exact made.within trivial
  cases asks : request.term with
  | none =>
    rw [rows_plain asks] at made
    obtain ⟨conditions, stated, rfl⟩ := plain_rows_ok made
    obtain ⟨demands, compiled, -⟩ := stated_conditions_compiled stated
    refine ⟨rfl, rfl, rfl, rfl, rfl, rfl, fun part member => .inl ?_⟩
    rw [Table.rowsQuery] at member
    cases whole : Expression.conjunction? conditions with
    | none =>
      rw [whole] at member
      cases member
    | some condition =>
      rw [whole] at member
      cases List.mem_singleton.mp member
      exact Expression.within_conjunction? (within compiled) _ whole
  | some term =>
    rw [rows_asking asks] at made
    obtain ⟨-, -, asked, confined, -, confinedMade, rfl⟩ := matched_rows_ok made
    refine ⟨rfl, rfl, rfl, rfl, rfl, rfl, fun part member => ?_⟩
    rcases List.mem_append.mp member with among | last
    · have compiled := Partition.elim_compiled (shadow_conditions_ok confinedMade).1
      exact .inl (within compiled part among)
    · exact .inr ⟨_, _, _, List.mem_singleton.mp last⟩

/-- A request sorts by columns only. -/
theorem ordering_columns {keys : List (OrderKey Stored)}
    (made : request.ordering table = .ok keys) :
    ∀ key ∈ keys, ∃ source name, key.expression = .column source name := by
  obtain ⟨sort, -, -, -, rfl⟩ | ⟨-, -, rfl⟩ | ⟨-, -, rfl⟩ := ordering_ok made
  · intro key member
    obtain ⟨pair, -, rfl⟩ := List.mem_map.mp member
    exact ⟨_, _, rfl⟩
  · intro key member
    cases List.mem_singleton.mp member
    exact ⟨_, _, rfl⟩
  · nofun

/-- The query for a page is a query over columns. -/
theorem finding_is_over (made : request.finding table page = .ok query)
    (nonempty : table.columns ≠ []) : query.IsOver fun _ _ => True := by
  obtain ⟨rows, keys, rowsMade, keysMade, rfl⟩ := finding_ok made
  have forRows := rows_is_for_rows rowsMade
  refine ⟨forRows.distinct, ?_, fun column member => ?_, forRows.grouping, forRows.having,
    fun key member => ?_, .inr ⟨_, _, rfl, rfl⟩⟩
  · simpa [resultColumns, Table.columnNames] using nonempty
  · obtain ⟨name, -, rfl⟩ := List.mem_map.mp member
    exact .inr ⟨request.source, name, trivial, rfl⟩
  · obtain ⟨source, name, column⟩ := ordering_columns keysMade key member
    exact ⟨source, name, trivial, column⟩

/-- It is not about groups of rows. -/
theorem finding_ungrouped (made : request.finding table page = .ok query)
    (nonempty : table.columns ≠ []) (replace : Stored → Stored) :
    answersForGroups (query.mapOperands replace) = false := by
  have isOver := (finding_is_over made nonempty).map_operands replace
  obtain ⟨rows, keys, rowsMade, -, rfl⟩ := finding_ok made
  have forRows := rows_is_for_rows rowsMade
  refine isOver.ungrouped ?_ fun part member => ?_
  · change _ ∉ (resultColumns table request.source).map _
    rw [result_columns_map_operands]
    exact count_rows_not_mem table request.source
  · obtain ⟨condition, among, inside⟩ := List.mem_flatMap.mp member
    change condition ∈ (mapConditions replace rows.conditions).getD [] at among
    cases given : rows.conditions with
    | none =>
      rw [given] at among
      cases among
    | some conditions =>
      rw [given] at among
      obtain ⟨before, here, rfl⟩ := List.mem_map.mp among
      rcases forRows.conditions before (by rw [given]; exact here) with
        within | ⟨source, name, term, rfl⟩
      · have mapped := (Expression.within_map_operands replace before).mpr within
        exact within_not_aggregated (within_conjuncts mapped part inside)
      · cases List.mem_singleton.mp inside
        rfl

/-- Counting and finding mean the same rows. -/
theorem mean_same_rows {counting finding : Select Stored}
    (countingMade : request.counting table = .ok counting)
    (findingMade : request.finding table page = .ok finding) (replace : Stored → Stored) :
    MeanSameRows (counting.mapOperands replace) (finding.mapOperands replace) := by
  obtain ⟨rows, rowsMade, rfl⟩ := counting_ok countingMade
  obtain ⟨others, keys, othersMade, -, rfl⟩ := finding_ok findingMade
  cases rowsMade.symm.trans othersMade
  exact ⟨rfl, rfl, rfl⟩

/-- Counting answers with the number of the scopes that were found. -/
theorem counting_number {database : Database} {counting : Select Stored} {counted : Answer}
    (made : request.counting table = .ok counting)
    (counts : select database (counting.mapOperands Stored.bound) = .ok counted) :
    ∃ scopes, Engine.scopes database (counting.mapOperands Stored.bound) = .ok scopes ∧
      counted.number = Int64.ofNat scopes.length := by
  obtain ⟨rows, rowsMade, rfl⟩ := counting_ok made
  have forRows := rows_is_for_rows rowsMade
  obtain ⟨scopes, read, rfl⟩ := select_count_ok counts forRows.distinct rfl
    (List.map_eq_nil_iff.mpr forRows.grouping) (Option.map_eq_none_iff.mpr forRows.having)
    (List.map_eq_nil_iff.mpr forRows.ordering) (Option.map_eq_none_iff.mpr forRows.limit)
    (Option.map_eq_none_iff.mpr forRows.offset)
  exact ⟨scopes, read, rfl⟩

/-- Counting answers with the number of the scopes that both queries find, and a page behind them is
empty. -/
theorem page_behind_is_empty {database : Database} {counting finding : Select Stored}
    (nonempty : table.columns ≠ []) (countingMade : request.counting table = .ok counting)
    (findingMade : request.finding table page = .ok finding) {counted found : Answer}
    (counts : select database (counting.mapOperands Stored.bound) = .ok counted)
    (finds : select database (finding.mapOperands Stored.bound) = .ok found) :
    ∃ scopes, Engine.scopes database (counting.mapOperands Stored.bound) = .ok scopes ∧
      counted.number = Int64.ofNat scopes.length ∧
      (scopes.length ≤ page.offset.toInt.toNat → found.rows = []) := by
  have isOver := (finding_is_over findingMade nonempty).map_operands Stored.bound
  have ungrouped := finding_ungrouped findingMade nonempty Stored.bound
  obtain ⟨scopes, read, number⟩ := counting_number countingMade counts
  obtain ⟨others, readToo, perm⟩ :=
    (mean_same_rows countingMade findingMade Stored.bound).scopes read
  refine ⟨scopes, read, number, fun behind => ?_⟩
  obtain ⟨rows, keys, -, -, rfl⟩ := finding_ok findingMade
  exact select_behind isOver.resolved ungrouped isOver.distinct readToo rfl rfl
    (perm.length_eq ▸ behind) finds

end Request

end RecordStore
