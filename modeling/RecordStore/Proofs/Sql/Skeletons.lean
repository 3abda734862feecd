import RecordStore.Proofs.Engine.Checking

/-!
# Skeletons

The skeleton of a statement is the statement without its operands. It has the text of the statement:
nothing of an operand is written but its question mark. Whatever makes the same skeleton of
different values writes the same text.
-/

namespace RecordStore.Sql

variable {Operand Other : Type}

/-- An expression without its operands. -/
def Expression.skeleton (expression : Expression Operand) : Expression Unit :=
  expression.mapOperands fun _ => ()

/-- A query without its operands. -/
def Select.skeleton (query : Select Operand) : Select Unit := query.mapOperands fun _ => ()

/-- The text of an expression does not depend on its operands. By induction on the expression. -/
theorem Expression.render_map_operands (replace : Operand → Other)
    (expression : Expression Operand) :
    (expression.mapOperands replace).render = expression.render := by
  induction expression with
  | unary _ _ inductionHypothesis => simp only [mapOperands, render, inductionHypothesis]
  | binary _ _ _ leftHypothesis rightHypothesis =>
    simp only [mapOperands, render, leftHypothesis, rightHypothesis]
  | oneOf _ _ _ inductionHypothesis =>
    simp only [mapOperands, render, inductionHypothesis, List.map_map, Function.comp_def]
  | grouped _ inductionHypothesis => simp only [mapOperands, render, inductionHypothesis]
  | aggregate _ _ _ inductionHypothesis => simp only [mapOperands, render, inductionHypothesis]
  | _ => rfl

/-- The text of a clause does not depend on its operands. -/
theorem render_clause_map_conditions (replace : Operand → Other) (keyword : String)
    (conditions : Option (List (Expression Operand))) :
    renderClause keyword (mapConditions replace conditions) = renderClause keyword conditions := by
  cases conditions with
  | none => rfl
  | some conditions =>
    simp only [mapConditions, Option.map_some, renderClause, renderConditions, List.map_map,
      Function.comp_def, Expression.render_map_operands]

/-- The text of a result column does not depend on its operands. -/
theorem ResultColumn.render_map_operands (replace : Operand → Other)
    (column : ResultColumn Operand) : (column.mapOperands replace).render = column.render := by
  cases column with
  | computed expression newName text =>
    cases newName <;> simp only [mapOperands, render, Expression.render_map_operands]
  | _ => rfl

/-- The text of a join does not depend on its operands. -/
theorem Join.render_map_operands (replace : Operand → Other) (join : Join Operand) :
    Join.render ⟨join.source, mapConditions replace join.conditions⟩ = join.render := by
  simp only [render, render_clause_map_conditions]

/-- The text of a key of an ordering does not depend on its operands. -/
theorem OrderKey.render_map_operands (replace : Operand → Other) (key : OrderKey Operand) :
    OrderKey.render ⟨key.expression.mapOperands replace, key.direction⟩ = key.render := by
  simp only [render, Expression.render_map_operands]

/-- The text of a query does not depend on its operands. -/
theorem Select.render_map_operands (replace : Operand → Other) (query : Select Operand) :
    (query.mapOperands replace).render = query.render := by
  have rows : (query.mapOperands replace).renderRows = query.renderRows := by
    simp only [renderRows, mapOperands, List.map_map, Function.comp_def, Join.render_map_operands,
      render_clause_map_conditions]
  have grouping : (query.mapOperands replace).renderGrouping = query.renderGrouping := by
    simp only [renderGrouping, mapOperands, List.isEmpty_map, List.map_map, Function.comp_def,
      Expression.render_map_operands]
    cases query.having <;> simp [Expression.render_map_operands]
  have ordering : (query.mapOperands replace).renderOrdering = query.renderOrdering := by
    simp only [renderOrdering, mapOperands, List.isEmpty_map, List.map_map, Function.comp_def,
      OrderKey.render_map_operands]
  have window : (query.mapOperands replace).renderWindow = query.renderWindow := by
    simp only [renderWindow, mapOperands]
    cases query.limit <;> cases query.offset <;> simp [Expression.render_map_operands]
  simp only [render, rows, grouping, ordering, window]
  simp only [mapOperands, List.map_map, Function.comp_def, ResultColumn.render_map_operands]
  rfl

/-- A query has the text of its skeleton. -/
@[simp] theorem Select.render_skeleton (query : Select Operand) :
    query.skeleton.render = query.render := query.render_map_operands _

/-- A change without its operands. -/
def Change.skeleton (change : Change Operand) : Change Unit := change.mapOperands fun _ => ()

/-- The text of a change does not depend on its operands either. -/
theorem Change.render_map_operands (replace : Operand → Other) (change : Change Operand) :
    (change.mapOperands replace).render = change.render := by
  cases change with
  | insert insertion =>
    have rows : renderRows (insertion.rows.mapOperands replace) = renderRows insertion.rows := by
      cases insertion.rows with
      | defaults => rfl
      | values rows =>
        have each : ∀ row : List (Expression Operand),
            renderRow (row.map (Expression.mapOperands replace)) = renderRow row := fun row => by
          simp only [renderRow, List.map_map, Function.comp_def, Expression.render_map_operands]
        simp only [Rows.mapOperands, renderRows, List.map_map, Function.comp_def, each]
      | selected query => simp only [Rows.mapOperands, renderRows, Select.render_map_operands]
    simp only [mapOperands, render, rows]
  | update modification =>
    simp only [mapOperands, render, List.map_map, Function.comp_def, Expression.render_map_operands,
      render_clause_map_conditions]
  | delete deletion => simp only [mapOperands, render, render_clause_map_conditions]

/-- A change has the text of its skeleton. -/
@[simp] theorem Change.render_skeleton (change : Change Operand) :
    change.skeleton.render = change.render := change.render_map_operands _

end RecordStore.Sql
