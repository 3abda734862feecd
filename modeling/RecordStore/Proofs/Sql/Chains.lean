import RecordStore.Sql.Parameters

/-!
# Chains of conditions

A clause of several conditions has the text of one condition: that all of them hold, one after the
other, with nothing around them. A query with its clauses merged in this way has the same text and
the same operands, so it is what the text is read as.
-/

namespace RecordStore.Sql

variable {Operand Other : Type}

namespace Expression

/-- Conditions that must all hold, as one that nothing groups. -/
def chain (first : Expression Operand) (rest : List (Expression Operand)) : Expression Operand :=
  rest.foldl (.binary .and) first

/-- A chain is written as its conditions with `AND` between them. -/
theorem render_chain (first : Expression Operand) (rest : List (Expression Operand)) :
    (chain first rest).render = renderConditions (first :: rest) := by
  induction rest generalizing first with
  | nil => rfl
  | cons second others inductionHypothesis =>
    have between : ∀ left right : String,
        BinaryOperator.and.apply left right = left ++ " AND " ++ right := by
      intro left right
      have blanks : " AND " = " " ++ "AND" ++ " " := by decide
      simp only [BinaryOperator.apply, BinaryOperator.symbol, blanks, String.append_assoc]
    have joins : ∀ left right : String, ∀ texts,
        joined " AND " (BinaryOperator.and.apply left right :: texts) =
          joined " AND " (left :: right :: texts) := by
      intro left right texts
      rw [between]
      cases texts with
      | nil => simp [joined, String.intercalate_cons_cons]
      | cons text texts => simp [joined, String.intercalate_cons_cons, String.append_assoc]
    exact (inductionHypothesis (.binary .and first second)).trans
      (joins first.render second.render (others.map render))

/-- Its operands are those of its conditions, one after the other. -/
theorem operands_chain (first : Expression Operand) (rest : List (Expression Operand)) :
    (chain first rest).operands = (first :: rest).flatMap operands := by
  induction rest generalizing first with
  | nil => simp [chain]
  | cons second others inductionHypothesis =>
    refine (inductionHypothesis (.binary .and first second)).trans ?_
    simp [operands]

/-- A chain takes its operands condition by condition. -/
theorem chain_map_operands (replace : Operand → Other) (first : Expression Operand)
    (rest : List (Expression Operand)) :
    (chain first rest).mapOperands replace =
      chain (first.mapOperands replace) (rest.map (mapOperands replace)) := by
  induction rest generalizing first with
  | nil => rfl
  | cons second others inductionHypothesis =>
    exact inductionHypothesis (.binary .and first second)

end Expression

/-- The conditions of a clause as at most one. -/
def merge : List (Expression Operand) → List (Expression Operand)
  | [] => []
  | first :: rest => [Expression.chain first rest]

/-- Merging conditions leaves their text. -/
theorem render_conditions_merge (conditions : List (Expression Operand)) :
    renderConditions (merge conditions) = renderConditions conditions := by
  cases conditions with
  | nil => rfl
  | cons first rest =>
    rw [← Expression.render_chain]
    simp [merge, renderConditions, joined]

/-- Merging conditions leaves their operands. -/
theorem operands_merge (conditions : List (Expression Operand)) :
    (merge conditions).flatMap Expression.operands = conditions.flatMap Expression.operands := by
  cases conditions with
  | nil => rfl
  | cons first rest =>
    rw [← Expression.operands_chain]
    simp [merge]

/-- It does not matter whether operands are replaced before conditions are merged or after. -/
theorem merge_map_operands (replace : Operand → Other) (conditions : List (Expression Operand)) :
    (merge conditions).map (Expression.mapOperands replace) =
      merge (conditions.map (Expression.mapOperands replace)) := by
  cases conditions with
  | nil => rfl
  | cons first rest => exact congrArg (fun whole => [whole]) (Expression.chain_map_operands _ _ _)

namespace Select

/-- A query with the conditions of each of its clauses merged. -/
def merged (query : Select Operand) : Select Operand :=
  { query with
    joins := query.joins.map fun join => ⟨join.source, join.conditions.map merge⟩
    conditions := query.conditions.map merge }

/-- Merging the conditions of a clause leaves the text of the clause. -/
theorem render_clause_merge (keyword : String) (conditions : Option (List (Expression Operand))) :
    renderClause keyword (conditions.map merge) = renderClause keyword conditions := by
  cases conditions with
  | none => rfl
  | some conditions => simp [renderClause, render_conditions_merge]

/-- Merging the conditions of a clause leaves its operands. -/
theorem condition_operands_merge (conditions : Option (List (Expression Operand))) :
    conditionOperands (conditions.map merge) = conditionOperands conditions := by
  cases conditions with
  | none => rfl
  | some conditions => exact operands_merge conditions

/-- A query has the text and the operands that it has with its clauses merged. -/
theorem fragment_merged (query : Select Stored) : query.merged.fragment = query.fragment := by
  have rows : query.merged.renderRows = query.renderRows := by
    have joins : (query.joins.map fun join =>
        (⟨join.source, join.conditions.map merge⟩ : Join Stored)).map Join.render =
          query.joins.map Join.render := by
      rw [List.map_map]
      refine List.map_congr_left fun join _ => ?_
      simp [Join.render, render_clause_merge]
    simp [renderRows, merged, joins, render_clause_merge]
  have operands : query.merged.rowOperands = query.rowOperands := by
    simp [rowOperands, merged, List.flatMap_map, condition_operands_merge]
  unfold fragment render Select.operands
  rw [rows, operands]
  rfl

end Select

end RecordStore.Sql
