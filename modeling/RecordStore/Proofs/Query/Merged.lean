import RecordStore.Proofs.Query.Rows
import RecordStore.Proofs.Engine.Checking
import RecordStore.Proofs.Sql.Chains
import RecordStore.Proofs.Sql.Places

/-!
# Merged clauses

A query keeps the conditions of a clause apart, its text does not. With its clauses merged a query
is accepted if it is accepted as it stands, and it answers the same. A query that is run as it
stands therefore answers what its text answers, run with the values of its operands.
-/

namespace RecordStore.Engine

open Sql

variable {scope : Scope} {database : Database}

/-! ### Conditions -/

/-- Checks that pass one after the other pass one by one. -/
theorem for_m_ok_each {α : Type} {check : α → Except Fault Unit} {items : List α}
    (accepted : items.forM check = .ok ()) : ∀ item ∈ items, check item = .ok () := by
  induction items with
  | nil => nofun
  | cons first rest inductionHypothesis =>
    change (check first >>= fun _ => rest.forM check) = .ok () at accepted
    obtain ⟨⟨⟩, head, tail⟩ := bind_ok accepted
    exact List.forall_mem_cons.mpr ⟨head, inductionHypothesis tail⟩

/-- A conjunction that is accepted has accepted sides. -/
theorem check_condition_of_and {left right : Expression Stored}
    (accepted : checkCondition scope (.binary .and left right) = .ok ()) :
    checkCondition scope left = .ok () ∧ checkCondition scope right = .ok () := by
  obtain ⟨⟨⟩, named, parts⟩ := bind_ok accepted
  change (checkExpression scope false left >>= fun _ => checkExpression scope false right) =
    _ at named
  obtain ⟨⟨⟩, leftNamed, rightNamed⟩ := bind_ok named
  have each := for_m_ok_each parts
  simp only [conjuncts, List.mem_append] at each
  constructor
  · unfold checkCondition
    rw [leftNamed]
    exact for_m_ok fun part member => each part (.inl member)
  · unfold checkCondition
    rw [rightNamed]
    exact for_m_ok fun part member => each part (.inr member)

/-- Conditions that are accepted as one are accepted one by one. -/
theorem check_conditions_of_merge {conditions : Option (List (Expression Stored))}
    (accepted : checkConditions scope (conditions.map merge) = .ok ()) :
    checkConditions scope conditions = .ok () := by
  have chained : ∀ (rest : List (Expression Stored)) (first : Expression Stored),
      checkCondition scope (.chain first rest) = .ok () →
      ∀ condition ∈ first :: rest, checkCondition scope condition = .ok () := by
    intro rest
    induction rest with
    | nil => exact fun first whole condition member => List.mem_singleton.mp member ▸ whole
    | cons second others inductionHypothesis =>
      intro first whole
      obtain ⟨both, later⟩ :=
        List.forall_mem_cons.mp (inductionHypothesis (.binary .and first second) whole)
      obtain ⟨head, next⟩ := check_condition_of_and both
      exact List.forall_mem_cons.mpr ⟨head, List.forall_mem_cons.mpr ⟨next, later⟩⟩
  match conditions with
  | none => rfl
  | some [] => rfl
  | some (first :: rest) =>
    exact for_m_ok (chained rest first (for_m_ok_each accepted _ List.mem_cons_self))

/-- Merging the conditions of a clause leaves its conjuncts. -/
theorem clause_conjuncts_map_merge (conditions : Option (List (Expression Stored))) :
    clauseConjuncts (conditions.map merge) = clauseConjuncts conditions := by
  cases conditions with
  | none => rfl
  | some conditions => exact clause_conjuncts_merge conditions

/-- A merged clause holds exactly where all its conditions do. -/
theorem all_hold_map_merge (conditions : Option (List (Expression Stored))) :
    allHold scope (conditions.map merge) = allHold scope conditions := by
  cases conditions with
  | none => rfl
  | some conditions => exact all_hold_merge scope conditions

/-! ### Queries -/

variable {query : Select Stored}

/-- Merging the clauses of a query leaves its sources. -/
theorem sources_merged : sources query.merged = sources query := by
  simp [sources, Select.merged, Function.comp_def]

/-- Merging leaves the columns of the result. -/
theorem result_columns_merged : resultColumns database query.merged =
    resultColumns database query := by
  unfold resultColumns returnedName declaredName?
  rw [sources_merged]
  rfl

/-- Merging leaves which names the keys of the order stand for. -/
theorem resolved_merged :
    resolved database query.merged = (resolved database query).merged := by
  unfold resolved declaredName?
  rw [result_columns_merged, sources_merged]
  rfl

/-- Merging leaves what is computed for a row. -/
theorem row_expressions_merged : rowExpressions query.merged = rowExpressions query := by
  unfold rowExpressions
  simp only [Select.merged, clause_conjuncts_map_merge]

/-- Merging leaves how scopes are grouped. -/
theorem grouped_merged (scopes : List Scope) :
    grouped query.merged scopes = grouped query scopes := by
  unfold grouped answersForGroups
  rw [row_expressions_merged]
  rfl

/-- Merging leaves which rows of a relation are read. -/
theorem rows_read_merged (relation : Relation) :
    rowsRead query.merged relation = rowsRead query relation := by
  unfold rowsRead readsByKey
  rw [row_expressions_merged]
  simp only [Select.merged, clause_conjuncts_map_merge]
  rfl

/-- Merging leaves what a source offers. -/
theorem bindings_merged (source : Source) :
    bindings database query.merged source = bindings database query source := by
  have asked : ∀ table, askedOf query.merged source table = askedOf query source table := by
    intro table
    unfold askedOf patternsAsked
    simp only [Select.merged, clause_conjuncts_map_merge, List.flatMap_map]
  unfold bindings
  simp only [rows_read_merged, asked]

/-- A join on a merged condition joins what a join on the conditions does. -/
theorem join_scopes_merge (conditions : Option (List (Expression Stored))) (scopes : List Scope)
    (rows : List Binding) :
    joinScopes (conditions.map merge) scopes rows = joinScopes conditions scopes rows := by
  unfold joinScopes
  simp only [all_hold_map_merge]

/-- A merged query finds the scopes that the query finds. -/
theorem scopes_merged : scopes database query.merged = scopes database query := by
  unfold scopes
  simp only [bindings_merged]
  simp only [Select.merged, all_hold_map_merge, List.foldlM_map, join_scopes_merge]

/-- A query answers as it does with its clauses merged. -/
theorem select_merged : select database query.merged = select database query := by
  unfold select
  simp only [resolved_merged, result_columns_merged, scopes_merged, grouped_merged]
  rfl

/-- A query is accepted if it is with its clauses merged. -/
theorem check_select_of_merged (accepted : checkSelect database query.merged = .ok ()) :
    checkSelect database query = .ok () := by
  unfold checkSelect at accepted ⊢
  rw [sources_merged] at accepted
  obtain ⟨scope, found, accepted⟩ := bind_ok accepted
  obtain ⟨⟨⟩, columns, accepted⟩ := bind_ok accepted
  obtain ⟨⟨⟩, joins, accepted⟩ := bind_ok accepted
  obtain ⟨⟨⟩, conditions, keys⟩ := bind_ok accepted
  have columnsToo : query.columns.forM (checkResultColumn scope) = .ok () := columns
  have joinsToo : (query.joins.forM fun join => checkConditions scope join.conditions) =
    .ok () := by
    refine for_m_ok fun join member => check_conditions_of_merge ?_
    exact for_m_ok_each joins _ (List.mem_map_of_mem member)
  rw [resolved_merged] at keys
  simp only [found, columnsToo, joinsToo, check_conditions_of_merge conditions, bind, Except.bind]
  exact keys

end RecordStore.Engine

namespace RecordStore.Sql.Select

/-- It does not matter whether operands are replaced before a query is merged or after. -/
theorem merged_map_operands {Operand Other : Type} (query : Select Operand)
    (replace : Operand → Other) :
    (query.mapOperands replace).merged = query.merged.mapOperands replace := by
  have clause : ∀ conditions : Option (List (Expression Operand)),
      (mapConditions replace conditions).map merge =
        mapConditions replace (conditions.map merge) := by
    intro conditions
    cases conditions with
    | none => rfl
    | some conditions => exact congrArg some (merge_map_operands replace conditions).symm
  unfold merged mapOperands
  simp only [List.map_map, Function.comp_def, clause]

end RecordStore.Sql.Select

namespace RecordStore.Engine.Access

open Sql

/-- A query of a source that is accepted and read back answers as its text does, run with the values
of its operands. -/
theorem run_select_run_text {access : Access} {query : Select Stored}
    (written : query.merged.Written)
    (checked : ∀ replace, checkSelect access.visible (query.merged.mapOperands replace) = .ok ()) :
    (access.run (.select query)).answer =
      (access.runText query.fragment.text query.fragment.operands).answer := by
  have sourced : query.source.isNone = false := by
    obtain ⟨source, same, -⟩ := written.source
    change query.source = some source at same
    rw [same]
    rfl
  have merged : (access.runSelect (query.merged.mapOperands Stored.bound)).answer = _ :=
    access.run_select_reads sourced
  have plain : (access.runSelect (query.mapOperands Stored.bound)).answer = _ :=
    access.run_select_reads sourced
  have accepted : checkSelect access.visible (query.mapOperands Stored.bound) = .ok () :=
    check_select_of_merged (query.merged_map_operands Stored.bound ▸ checked Stored.bound)
  have nulls : access.check (.select (query.merged.mapOperands fun _ => .null)) = .ok () :=
    checked fun _ => .null
  rw [← query.fragment_merged, run_text_render written nulls, run_select accepted, merged, plain,
    ← query.merged_map_operands, select_merged]

end RecordStore.Engine.Access
