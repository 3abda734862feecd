import RecordStore.Engine.Check
import RecordStore.Proofs.Engine.Objects
import RecordStore.Proofs.Engine.Scopes
import RecordStore.Proofs.Sql.Chains

/-!
# Names that are accepted

An expression over columns alone is accepted where each of its columns stands for something in one
source only. Operands take no part in this, so what is accepted before the parameters of a
statement have values is accepted with them.
-/

namespace RecordStore

open Engine Sql

variable {Operand Other : Type}

namespace Sql.Expression

/-- An expression that reads columns of a set of names, and neither asks for a match nor for a
group of rows. -/
def Within (names : Option String → String → Prop) : Expression Operand → Prop
  | .operand _ => True
  | .number _ => True
  | .column source name => names source name
  | .unary _ inner => inner.Within names
  | .binary _ left right => left.Within names ∧ right.Within names
  | .oneOf _ target _ => target.Within names
  | .grouped inner => inner.Within names
  | .matching _ _ _ => False
  | .countRows => False
  | .aggregate _ _ _ => False

variable {names others : Option String → String → Prop}

/-- Operands take no part in what an expression reads. -/
theorem within_map_operands (replace : Operand → Other) (expression : Expression Operand) :
    (expression.mapOperands replace).Within names ↔ expression.Within names := by
  induction expression with
  | unary _ _ inductionHypothesis => exact inductionHypothesis
  | binary _ _ _ leftHypothesis rightHypothesis =>
    exact and_congr leftHypothesis rightHypothesis
  | oneOf _ _ _ inductionHypothesis => exact inductionHypothesis
  | grouped _ inductionHypothesis => exact inductionHypothesis
  | _ => exact Iff.rfl

/-- So it is for all expressions of a list. -/
theorem within_map (replace : Operand → Other) {expressions : List (Expression Operand)}
    (within : ∀ expression ∈ expressions, expression.Within names) :
    ∀ expression ∈ expressions.map (mapOperands replace), expression.Within names := by
  intro expression member
  obtain ⟨before, among, rfl⟩ := List.mem_map.mp member
  exact (within_map_operands replace before).mpr (within before among)

/-- A chain of expressions over columns is one. -/
theorem within_chain {first : Expression Operand} {rest : List (Expression Operand)}
    (head : first.Within names) (tail : ∀ expression ∈ rest, expression.Within names) :
    (chain first rest).Within names := by
  induction rest generalizing first with
  | nil => exact head
  | cons second others inductionHypothesis =>
    have both : (Expression.binary .and first second).Within names :=
      ⟨head, tail second List.mem_cons_self⟩
    exact inductionHypothesis both
      fun expression later => tail expression (List.mem_cons_of_mem second later)

/-- The conjunction of expressions over columns is one. -/
theorem within_conjunction? {expressions : List (Expression Operand)}
    (within : ∀ expression ∈ expressions, expression.Within names) :
    ∀ whole ∈ conjunction? expressions, whole.Within names := by
  intro whole member
  match expressions with
  | [] => cases member
  | [single] =>
    cases member
    exact within _ List.mem_cons_self
  | first :: second :: others =>
    cases member
    have whole : (chain first (second :: others)).Within names :=
      within_chain (within first List.mem_cons_self)
        fun expression later => within expression (List.mem_cons_of_mem first later)
    exact whole

/-- A conjunction takes its operands part by part. -/
theorem conjunction?_map_operands (replace : Operand → Other)
    (expressions : List (Expression Operand)) :
    (conjunction? expressions).map (mapOperands replace) =
      conjunction? (expressions.map (mapOperands replace)) := by
  match expressions with
  | [] => rfl
  | [_] => rfl
  | first :: second :: others =>
    exact congrArg (fun whole => some (grouped whole))
      (chain_map_operands replace first (second :: others))

end Sql.Expression

namespace Engine

variable {names : Option String → String → Prop} {scope : Scope}

/-- Names that are accepted in a scope. -/
def Accepts (scope : Scope) (names : Option String → String → Prop) : Prop :=
  ∀ source name, names source name → checkColumn scope source name = .ok ()

/-- An expression that reads accepted names only passes the check, by induction on the
expression. -/
theorem check_expression_ok {expression : Expression Stored} (accepts : Accepts scope names)
    (within : expression.Within names) (inGroup : Bool) :
    checkExpression scope inGroup expression = .ok () := by
  induction expression with
  | operand => rfl
  | number => rfl
  | column source name => exact accepts source name within
  | unary _ _ inductionHypothesis => exact inductionHypothesis within
  | binary _ _ _ leftHypothesis rightHypothesis =>
    simp only [checkExpression, leftHypothesis within.1, rightHypothesis within.2]
    rfl
  | oneOf _ _ _ inductionHypothesis => exact inductionHypothesis within
  | grouped _ inductionHypothesis => exact inductionHypothesis within
  | matching => exact within.elim
  | countRows => exact within.elim
  | aggregate => exact within.elim

/-- An expression over columns asks for no group of rows. -/
theorem within_not_aggregated {expression : Expression Stored} (within : expression.Within names) :
    isAggregated expression = false := by
  induction expression with
  | unary _ _ inductionHypothesis => exact inductionHypothesis within
  | binary _ _ _ leftHypothesis rightHypothesis =>
    simp only [isAggregated, leftHypothesis within.1, rightHypothesis within.2, Bool.or_false]
  | oneOf _ _ _ inductionHypothesis => exact inductionHypothesis within
  | grouped _ inductionHypothesis => exact inductionHypothesis within
  | countRows => exact within.elim
  | aggregate => exact within.elim
  | _ => rfl

/-- The parts of a conjunction read what the conjunction reads. -/
theorem within_conjuncts {expression : Expression Stored} (within : expression.Within names) :
    ∀ part ∈ conjuncts expression, part.Within names := by
  intro part member
  induction expression with
  | binary operator left right leftHypothesis rightHypothesis =>
    cases operator with
    | and =>
      rcases List.mem_append.mp member with before | behind
      · exact leftHypothesis within.1 before
      · exact rightHypothesis within.2 behind
    | _ =>
      cases List.mem_singleton.mp member
      exact within
  | grouped _ inductionHypothesis => exact inductionHypothesis within member
  | _ =>
    cases List.mem_singleton.mp member
    exact within

/-- An expression over columns has no match in it. -/
theorem check_no_match_ok {expression : Expression Stored} (within : expression.Within names) :
    checkCondition.checkNoMatch expression = .ok () := by
  induction expression with
  | unary _ _ inductionHypothesis => exact inductionHypothesis within
  | binary _ _ _ leftHypothesis rightHypothesis =>
    simp only [checkCondition.checkNoMatch, leftHypothesis within.1, rightHypothesis within.2]
    rfl
  | grouped _ inductionHypothesis => exact inductionHypothesis within
  | matching => exact within.elim
  | _ => rfl

/-- Checks that pass one by one pass one after the other. -/
theorem for_m_ok {α : Type} {check : α → Except Fault Unit} {items : List α}
    (each : ∀ item ∈ items, check item = .ok ()) : items.forM check = .ok () := by
  induction items with
  | nil => rfl
  | cons first rest inductionHypothesis =>
    change (check first >>= fun _ => rest.forM check) = .ok ()
    rw [each first List.mem_cons_self]
    exact inductionHypothesis fun item member => each item (List.mem_cons_of_mem first member)

/-- Behind checks that pass only the others decide. -/
theorem for_m_append_ok {α : Type} {check : α → Except Fault Unit} {lefts rights : List α}
    (first : lefts.forM check = .ok ()) : (lefts ++ rights).forM check = rights.forM check := by
  induction lefts with
  | nil => rfl
  | cons item rest inductionHypothesis =>
    change (check item >>= fun _ => rest.forM check) = .ok () at first
    obtain ⟨⟨⟩, accepted, later⟩ := bind_ok first
    change (check item >>= fun _ => (rest ++ rights).forM check) = _
    rw [accepted]
    exact inductionHypothesis later

/-- A condition over columns that are accepted is accepted. -/
theorem check_condition_ok {condition : Expression Stored} (accepts : Accepts scope names)
    (within : condition.Within names) : checkCondition scope condition = .ok () := by
  unfold checkCondition
  rw [check_expression_ok accepts within]
  refine for_m_ok fun part member => ?_
  split
  · rfl
  · exact check_no_match_ok (within_conjuncts within part member)

/-- The parts of a chain are the parts of its conditions. -/
theorem conjuncts_chain (first : Expression Stored) (rest : List (Expression Stored)) :
    conjuncts (.chain first rest) = (first :: rest).flatMap conjuncts := by
  induction rest generalizing first with
  | nil => simp [Expression.chain]
  | cons second others inductionHypothesis =>
    refine (inductionHypothesis (.binary .and first second)).trans ?_
    simp [conjuncts]

/-- A clause that is merged from conditions has the conjuncts of the conditions. -/
theorem clause_conjuncts_merge (conditions : List (Expression Stored)) :
    clauseConjuncts (some (merge conditions)) = clauseConjuncts (some conditions) := by
  cases conditions with
  | nil => rfl
  | cons first rest =>
    simp only [clauseConjuncts, merge, Option.getD_some, List.flatMap_singleton, conjuncts_chain]

/-- Both sides of a conjunction are accepted by themselves. -/
theorem check_condition_and {left right : Expression Stored}
    (leftAccepted : checkCondition scope left = .ok ())
    (rightAccepted : checkCondition scope right = .ok ()) :
    checkCondition scope (.binary .and left right) = .ok () := by
  obtain ⟨⟨⟩, leftNames, leftParts⟩ := bind_ok leftAccepted
  obtain ⟨⟨⟩, rightNames, rightParts⟩ := bind_ok rightAccepted
  unfold checkCondition
  simp only [checkExpression, leftNames, rightNames, conjuncts, bind, Except.bind]
  rw [for_m_append_ok leftParts]
  exact rightParts

/-- Conditions that are accepted one by one are accepted as one. -/
theorem check_conditions_merge {conditions : List (Expression Stored)}
    (each : ∀ condition ∈ conditions, checkCondition scope condition = .ok ()) :
    checkConditions scope (some (merge conditions)) = .ok () := by
  have chained : ∀ (rest : List (Expression Stored)) (first : Expression Stored),
      checkCondition scope first = .ok () →
      (∀ condition ∈ rest, checkCondition scope condition = .ok ()) →
      checkCondition scope (.chain first rest) = .ok () := by
    intro rest
    induction rest with
    | nil => exact fun _ head _ => head
    | cons second others inductionHypothesis =>
      intro first head tail
      exact inductionHypothesis (.binary .and first second)
        (check_condition_and head (tail second List.mem_cons_self))
        fun condition later => tail condition (List.mem_cons_of_mem second later)
  cases conditions with
  | nil => rfl
  | cons first rest =>
    refine for_m_ok fun condition member => ?_
    cases List.mem_singleton.mp member
    exact chained rest first (each first List.mem_cons_self)
      fun condition later => each condition (List.mem_cons_of_mem first later)

/-- A match is accepted where its column stands for something in a row of a full-text table. -/
theorem check_condition_matching {source : Option String} {name : String} {pattern : Stored}
    (known : checkColumn scope source name = .ok ())
    (matched : (scope.matched? source name).isSome = true) :
    checkCondition scope (.matching source name pattern) = .ok () := by
  have placed : (scope.matched? source name).isNone = false := by
    cases found : scope.matched? source name with
    | none => simp [found] at matched
    | some binding => rfl
  unfold checkCondition
  simp only [checkExpression, known, placed, conjuncts, bind, Except.bind]
  rfl

/-! ### Columns of a source -/

/-- A row without values has the columns of its source. -/
theorem among_empty_binding {name : String} {attributes : List Attribute} {attr : Attribute}
    (means : Relation.meant? attributes name = some attr) :
    Binding.among name attributes (attributes.map fun _ => .null) =
      some (some attr.affinity, Relation.valueIn attributes (attributes.map fun _ => .null) name) :=
  Relation.among_eq (List.length_map _) means

/-- A name that means an attribute is found in the binding of a table without rows. -/
theorem lookup?_empty_binding {name column : String} {attributes : List Attribute}
    {numbered : Bool} {fullText : Option (String × List FullTextColumn × Stored)}
    {attr : Attribute} (means : Relation.meant? attributes column = some attr) :
    ((emptyBinding name attributes numbered fullText).lookup? column).isSome = true := by
  unfold Binding.lookup? emptyBinding
  rw [among_empty_binding means]
  rfl

/-- A column of the only source is accepted, without its source and with it. -/
theorem check_column_only {binding : Binding} {source : Option String} {column : String}
    (named : source.all (sameName binding.name) = true)
    (has : (binding.lookup? column).isSome = true) :
    checkColumn [binding] source column = .ok () := by
  have few : ¬ 1 < (([binding].filter fun binding => source.all (sameName binding.name)).filter
      fun binding => (Binding.among column binding.attributes binding.values).isSome).length := by
    have atMost := List.length_filter_le
      (fun binding => (Binding.among column binding.attributes binding.values).isSome)
      ([binding].filter fun binding => source.all (sameName binding.name))
    have single := List.length_filter_le (fun binding =>
      source.all (sameName binding.name)) [binding]
    simp only [List.length_singleton] at single
    omega
  obtain ⟨found, looked⟩ := Option.isSome_iff_exists.mp has
  have present : (Scope.lookup? [binding] source column).isSome = true := by
    cases source with
    | none => rw [Scope.lookup?_first looked]; rfl
    | some source => rw [Scope.lookup?_named (by simpa using named) looked]; rfl
  unfold checkColumn
  simp only [few, if_false, present, if_true]

/-- A column is accepted with its source, where one row has the name of the source. -/
theorem check_column_named {binding : Binding} {source column : String}
    (one : (scope.filter fun binding => sameName binding.name source) = [binding])
    (has : (binding.lookup? column).isSome = true) :
    checkColumn scope (some source) column = .ok () := by
  have few : ¬ 1 < ((scope.filter fun binding => sameName binding.name source).filter
      fun binding => (Binding.among column binding.attributes binding.values).isSome).length := by
    have atMost := List.length_filter_le
      (fun binding => (Binding.among column binding.attributes binding.values).isSome) [binding]
    simp only [List.length_singleton] at atMost
    rw [one]
    omega
  have member : binding ∈ scope.filter fun binding => sameName binding.name source := by
    rw [one]
    exact List.mem_cons_self
  obtain ⟨inScope, named⟩ := List.mem_filter.mp member
  have present : (scope.lookup? (some source) column).isSome = true := by
    unfold Scope.lookup?
    rw [List.findSome?_isSome_iff]
    exact ⟨binding, inScope, by simpa [named] using has⟩
  unfold checkColumn
  simp only [Option.all_some, few, if_false, present, if_true]

/-! ### Queries -/

/-- A query without groups is accepted if its sources are there and everything that it names
stands for something in them. -/
theorem check_select_ok {database : Database} {query : Select Stored}
    (found : (sources query).mapM (sourceNames database) = .ok scope)
    (columns : ∀ column ∈ query.columns, checkResultColumn scope column = .ok ())
    (joins : ∀ join ∈ query.joins, checkConditions scope join.conditions = .ok ())
    (conditions : checkConditions scope query.conditions = .ok ())
    (keys : resolved database query = query)
    (ordering : ∀ key ∈ query.ordering, checkExpression scope true key.expression = .ok ())
    (grouping : query.grouping = []) (having : query.having = none) :
    checkSelect database query = .ok () := by
  unfold checkSelect
  simp only [found, bind, Except.bind, for_m_ok columns, for_m_ok joins, conditions, keys,
    for_m_ok ordering, grouping, having]
  rfl

end Engine

end RecordStore
