import RecordStore.Proofs.Engine.Visibility
import RecordStore.Proofs.Sql.Parsing

/-!
# Values in the places of parameters

A query that was read back from its text with the values of its operands in the places of its
parameters is the query that was written: every value comes back to where it was.
-/

namespace RecordStore.Sql

variable {Operand Other : Type}

/-- Values that terms get: the parameters behind those before get what replaces the operands, one
after the other. -/
def Gives (value : Term → Other) (replace : Operand → Other) (before : Nat)
    (operands : List Operand) : Prop :=
  ∀ index operand, operands[index]? = some operand →
    value (.parameter (before + index + 1)) = replace operand

namespace Gives

variable {value : Term → Other} {replace : Operand → Other} {before : Nat}
  {left right : List Operand}

/-- Values that are given for two lists of operands are given for the first one. -/
theorem earlier (gives : Gives value replace before (left ++ right)) :
    Gives value replace before left := by
  intro index operand found
  have inside := (List.getElem?_eq_some_iff.mp found).1
  exact gives index operand (by rw [List.getElem?_append_left inside, found])

/-- They are given for the second one, behind the places of the first. -/
theorem later (gives : Gives value replace before (left ++ right)) :
    Gives value replace (before + left.length) right := by
  intro index operand found
  have moved := gives (left.length + index) operand (by
    rw [List.getElem?_append_right (Nat.le_add_right _ _), Nat.add_sub_cancel_left, found])
  rwa [← Nat.add_assoc] at moved

/-- The first operand gets the value of the next place. -/
theorem head {first : Operand} (gives : Gives value replace before (first :: left)) :
    value (.parameter (before + 1)) = replace first := gives 0 first rfl

/-- Items of which each gets its values back. -/
theorem place_items {α β γ : Type} {place : Nat → α → β} {bind : β → γ} {keep : α → γ}
    {operandsOf : α → List Operand} {items : List α}
    (each : ∀ item ∈ items, ∀ before, Gives value replace before (operandsOf item) →
      bind (place before item) = keep item)
    (gives : Gives value replace before (items.flatMap operandsOf)) :
    (Sql.placeItems place (fun item => (operandsOf item).length) before items).map bind =
      items.map keep := by
  induction items generalizing before with
  | nil => rfl
  | cons first rest inductionHypothesis =>
    rw [List.flatMap_cons] at gives
    have later := inductionHypothesis
      (fun item member => each item (List.mem_cons_of_mem first member)) gives.later
    simp only [Sql.placeItems, List.map_cons, later,
      each first List.mem_cons_self before gives.earlier]

/-- The parameters of operands have the values that replace the operands. -/
theorem places_from {operands : List Operand} (gives : Gives value replace before operands) :
    (Sql.placesFrom before operands).map value = operands.map replace := by
  have single : operands.flatMap (fun operand => [operand]) = operands := by simp
  have own : ∀ operand ∈ operands, ∀ before, Gives value replace before [operand] →
      value (.parameter (before + 1)) = replace operand := fun operand _ before own => own.head
  exact place_items own (single.symm ▸ gives)

end Gives

/-- To give its parameters their values is to replace the operands of an expression. By induction on
the expression. -/
theorem Expression.placed_map_operands {value : Term → Other} {replace : Operand → Other}
    (expression : Expression Operand) {before : Nat}
    (gives : Gives value replace before expression.operands) :
    (expression.placed before).mapOperands value = expression.mapOperands replace := by
  induction expression generalizing before with
  | operand operand => exact congrArg _ gives.head
  | number => rfl
  | column => rfl
  | unary operator inner inductionHypothesis =>
    exact congrArg _ (inductionHypothesis gives)
  | binary operator left right leftHypothesis rightHypothesis =>
    simp only [placed, mapOperands, leftHypothesis gives.earlier, rightHypothesis gives.later]
  | oneOf negated target candidates inductionHypothesis =>
    simp only [placed, mapOperands, inductionHypothesis gives.earlier, gives.later.places_from]
  | grouped inner inductionHypothesis => exact congrArg _ (inductionHypothesis gives)
  | matching source name pattern => exact congrArg _ gives.head
  | countRows => rfl
  | aggregate function distinct argument inductionHypothesis =>
    exact congrArg _ (inductionHypothesis gives)

/-- To give their parameters their values is to replace the operands of conditions. -/
theorem place_conditions_map_operands {value : Term → Other} {replace : Operand → Other}
    {before : Nat} {conditions : Option (List (Expression Operand))}
    (gives : Gives value replace before (conditionOperands conditions)) :
    mapConditions value (placeConditions before conditions) = mapConditions replace conditions := by
  cases conditions with
  | none => rfl
  | some conditions =>
    have own : ∀ expression ∈ conditions, ∀ before,
        Gives value replace before expression.operands →
          (expression.placed before).mapOperands value = expression.mapOperands replace :=
      fun expression _ before own => expression.placed_map_operands own
    exact congrArg some (Gives.place_items own gives)

/-- Items without operands are the same in every place. -/
theorem place_items_map {α β γ : Type} {place : Nat → α → β} {width : α → Nat} {bind : β → γ}
    {keep : α → γ} {items : List α} {before : Nat}
    (each : ∀ item ∈ items, ∀ before, bind (place before item) = keep item) :
    (placeItems place width before items).map bind = items.map keep := by
  induction items generalizing before with
  | nil => rfl
  | cons first rest inductionHypothesis =>
    simp only [placeItems, List.map_cons, each first List.mem_cons_self,
      inductionHypothesis fun item member => each item (List.mem_cons_of_mem first member)]

namespace Select

/-- A query gets the values of its operands back. -/
theorem Written.placed_map_operands {query : Select Operand} (written : query.Written)
    {value : Term → Other} {replace : Operand → Other}
    (gives : Gives value replace 0 query.operands) :
    query.placed.mapOperands value = query.mapOperands replace := by
  rw [written.operands_eq] at gives
  have rows : query.rowOperands.length =
      0 + query.joinOperands.length + (conditionOperands query.conditions).length := by
    simp [rowOperands, joinOperands]
  have columns : (placeItems ResultColumn.placed (fun _ => 0) 0 query.columns).map
      (ResultColumn.mapOperands value) = query.columns.map (ResultColumn.mapOperands replace) := by
    refine place_items_map fun column member before => ?_
    cases written.columns column member <;> rfl
  have joins : query.placed.joins.map
        (fun join => (⟨join.source, mapConditions value join.conditions⟩ : Join Other)) =
      query.joins.map fun join => ⟨join.source, mapConditions replace join.conditions⟩ := by
    refine Gives.place_items (fun join _ before own => ?_) gives.earlier
    simp only [Join.placed, place_conditions_map_operands own]
  have conditions : mapConditions value query.placed.conditions =
      mapConditions replace query.conditions := by
    have own := gives.later.earlier
    rw [Nat.zero_add] at own
    exact place_conditions_map_operands own
  have ordering : query.placed.ordering.map
        (fun key => (⟨key.expression.mapOperands value, key.direction⟩ : OrderKey Other)) =
      query.ordering.map fun key => ⟨key.expression.mapOperands replace, key.direction⟩ := by
    refine place_items_map fun key member before => ?_
    obtain ⟨source, name, column, -⟩ := written.ordering key member
    simp only [OrderKey.placed, column, Expression.placed, Expression.mapOperands]
  have window : Gives value replace query.rowOperands.length query.windowOperands :=
    rows ▸ gives.later.later
  have limits : query.placed.limit.map (Expression.mapOperands value) =
        query.limit.map (Expression.mapOperands replace) ∧
      query.placed.offset.map (Expression.mapOperands value) =
        query.offset.map (Expression.mapOperands replace) := by
    rcases written.window with ⟨limit, offset⟩ | ⟨limit, offset, limited, shifted⟩
    · simp [placed, limit, offset]
    · simp only [windowOperands, limited, shifted, Option.map_some, Option.getD_some,
        Expression.operands, List.singleton_append] at window
      have first := window 0 limit rfl
      have second := window 1 offset rfl
      rw [Nat.add_zero] at first
      simp [placed, limited, shifted, Expression.placed, Expression.mapOperands, first, second]
  simp only [mapOperands]
  rw [joins, conditions, ordering, limits.1, limits.2]
  simp only [placed, columns, written.distinct, written.grouping, written.having, List.map_nil,
    Option.map_none]

end Select

end RecordStore.Sql

namespace RecordStore.Engine.Access

open Sql

/-- The text of a query that is read back, run with the values of its operands, runs the query. No
value decides whether the text is accepted: it is checked before the parameters have values. -/
theorem run_text_render {query : Select Stored} (written : query.Written) {access : Access}
    (checked : access.check (.select (query.mapOperands fun _ => .null)) = .ok ()) :
    access.runText query.fragment.text query.fragment.operands =
      access.runSelect (query.mapOperands Stored.bound) := by
  obtain ⟨text, read⟩ := written.parse
  have nulls : query.placed.mapOperands (Term.value ([].map Stored.bound)) =
      query.mapOperands fun _ => .null :=
    written.placed_map_operands fun index operand _ => by simp [Term.value]
  have values : query.placed.mapOperands (Term.value (query.operands.map Stored.bound)) =
      query.mapOperands Stored.bound :=
    written.placed_map_operands fun index operand found => by simp [Term.value, found]
  have prepared : access.prepare ⟨.select query.placed, query.operands.length, text⟩ = .ok () := by
    unfold prepare
    simp only [ReadStatement.hasTriggerParameters, ReadStatement.withParameters,
      Statement.mapOperands, nulls]
    exact checked
  have counted : ReadStatement.requireParameters ⟨.select query.placed, query.operands.length, text⟩
      query.operands.length = .ok () := if_pos rfl
  unfold runText
  simp only [Select.fragment, read, prepared, counted, bind, Except.bind, pure, Except.pure,
    ReadStatement.withParameters, Statement.mapOperands, values]
  rfl

/-- A query that is accepted is run. -/
theorem run_select {access : Access} {query : Select Stored}
    (checked : checkSelect access.visible (query.mapOperands Stored.bound) = .ok ()) :
    access.run (.select query) = access.runSelect (query.mapOperands Stored.bound) := by
  have accepted : access.check (.select (query.mapOperands Stored.bound)) = .ok () := checked
  unfold run
  simp only [Statement.mapOperands, accepted]
  rfl

/-- A query of a source answers with what it selects, if the connection may read. -/
theorem run_select_reads {query : Select Stored} (access : Access)
    (source : query.source.isNone = false) :
    (access.runSelect query).answer = access.forReading.bind fun _ =>
      select access.visible query := by
  unfold runSelect
  rw [source]
  cases granted : access.forReading with
  | error fault => rfl
  | ok held =>
    simp only [Bool.false_eq_true, if_false, for_reading_visible granted]
    rfl

/-- A query that can be answered is, if the volume can be read. -/
theorem run_select_answer {query : Select Stored} {access : Access} {answer : Answer}
    (source : query.source.isNone = false) (answered : select access.visible query = .ok answer) :
    (access.runSelect query).answer = access.forReading.map fun _ => answer := by
  rw [access.run_select_reads source, answered]
  rfl

end RecordStore.Engine.Access
