import RecordStore.Proofs.Query.Shapes
import RecordStore.Proofs.Query.Wordings

/-!
# Conjuncts

Criteria and a partition compile to conjuncts: a text for each attribute and each entry, and the
values of all placeholders. Each attribute and each entry can be compiled by itself; together they
compile to what they compile to alone, one after the other. Where the columns are those of a named
source, the name stands before each column, and nothing else is different.
-/

namespace RecordStore

open Engine Sql

/-- The texts of conditions that must all hold, and the values of all their placeholders. -/
structure Conjuncts where
  texts : List String
  operands : List Stored
  deriving DecidableEq

namespace Conjuncts

/-- The conjuncts of conditions: their texts and all their operands. -/
def ofConditions (conditions : List Condition) : Conjuncts :=
  ⟨conditions.map Expression.render, conditions.flatMap Expression.operands⟩

/-- Conjuncts one after the other. -/
def concat (several : List Conjuncts) : Conjuncts :=
  ⟨several.flatMap texts, several.flatMap operands⟩

/-- Conjuncts as one text: none without a conjunct, the text itself for one, and a parenthesised
group for more. -/
def fragment? : Conjuncts → Option Fragment
  | ⟨[], _⟩ => none
  | ⟨[only], operands⟩ => some ⟨only, operands⟩
  | ⟨texts, operands⟩ => some ⟨"(" ++ joined " AND " texts ++ ")", operands⟩

end Conjuncts

section Compiled

variable (criteria : Option Criteria) (partition : Option Partition) (table : Table)
  (source : Option String)

/-- The conjuncts that criteria and a partition compile to. -/
def compiledConjuncts : Except StoreError Conjuncts :=
  (statedConditions criteria partition table source).map Conjuncts.ofConditions

/-- The text that criteria and a partition compile to, if they state anything. -/
def compiledFragment? : Except StoreError (Option Fragment) :=
  (statedCondition? criteria partition table source).map (Option.map Expression.fragment)

/-- Each attribute of a partition by itself, and then each entry of criteria by itself. -/
def soleParts : List (Option Criteria × Option Partition) :=
  (partition.elim [] Partition.attributes).map (fun held => (none, some ⟨[held]⟩)) ++
    (criteria.elim [] Criteria.entries).map fun entry => (some ⟨[entry]⟩, none)

/-- What criteria and a partition demand, the partition first. -/
def statedDemands : List Demand :=
  partition.elim [] Partition.demands ++
    (criteria.elim [] Criteria.entries).filterMap Demand.ofEntry?

end Compiled

/-- What stands before a column: the name of its source, when one is given. -/
def aliasMark : Option String → String
  | some given => given ++ "."
  | none => ""

namespace Demand

/-- The text of a demand behind its column. -/
def relation : Demand → String
  | ⟨_, .equal, [.null]⟩ => " IS NULL"
  | ⟨_, .unequal, [.null]⟩ => " IS NOT NULL"
  | ⟨_, .oneOf, operands⟩ => " IN (" ++ joined ", " (operands.map fun _ => "?") ++ ")"
  | ⟨_, operator, _⟩ => " " ++ operator.symbol ++ " ?"

/-- The values of the placeholders of a demand. -/
def bound : Demand → List Stored
  | ⟨_, .equal, [.null]⟩ => []
  | ⟨_, .unequal, [.null]⟩ => []
  | ⟨_, _, operands⟩ => operands.map Value.stored

end Demand

/-- The conjuncts of demands, with the same text before each column. -/
def Conjuncts.ofDemands (mark : String) (demands : List Demand) : Conjuncts :=
  ⟨demands.map fun demand => mark ++ demand.column ++ demand.relation, demands.flatMap Demand.bound⟩

/-! ### One text of all conjuncts -/

/-- As one text the conjuncts of conditions are their conjunction. -/
theorem Conjuncts.fragment?_of_conditions (conditions : List Condition) :
    (ofConditions conditions).fragment? =
      (Expression.conjunction? conditions).map Expression.fragment := by
  match conditions with
  | [] => rfl
  | [only] => simp [ofConditions, fragment?, Expression.conjunction?, Expression.fragment]
  | first :: second :: rest =>
    have text := Expression.render_chain first (second :: rest)
    have operands := Expression.operands_chain first (second :: rest)
    change some _ = some (Expression.fragment (.grouped (Expression.chain first (second :: rest))))
    rw [Expression.fragment, Expression.render, Expression.operands, text, operands]
    rfl

/-- Conjuncts have no text exactly if there are none. -/
theorem Conjuncts.fragment?_eq_none {conjuncts : Conjuncts} :
    conjuncts.fragment? = none ↔ conjuncts.texts = [] := by
  obtain ⟨texts, operands⟩ := conjuncts
  match texts with
  | [] => exact iff_of_true rfl rfl
  | [_] | _ :: _ :: _ => exact iff_of_false (Option.some_ne_none _) (List.cons_ne_nil _ _)

/-- The text that criteria and a partition compile to is that of their conjuncts. -/
theorem compiled_fragment?_eq (criteria : Option Criteria) (partition : Option Partition)
    (table : Table) (source : Option String) :
    compiledFragment? criteria partition table source =
      (compiledConjuncts criteria partition table source).map Conjuncts.fragment? := by
  unfold compiledFragment? compiledConjuncts
  rw [stated_condition?_eq]
  cases statedConditions criteria partition table source with
  | error problem => rfl
  | ok conditions => exact congrArg Except.ok (Conjuncts.fragment?_of_conditions conditions).symm

/-! ### One part after the other -/

section Parts

variable {criteria : Option Criteria} {partition : Option Partition} {table : Table}
  {source : Option String}

/-- What is made of each item and then changed is what is made of all of them, each changed. -/
theorem Engine.map_m_map_each {ε α β γ : Type} (make : α → Except ε β) (change : β → γ)
    (items : List α) :
    (items.mapM fun item => (make item).map change) = (items.mapM make).map (List.map change) := by
  induction items with
  | nil => rfl
  | cons first rest inductionHypothesis =>
    rw [List.mapM_cons, List.mapM_cons, inductionHypothesis]
    cases make first with
    | error problem => rfl
    | ok made => cases rest.mapM make <;> rfl

/-- Criteria with entries and a partition state the condition of each attribute, and then that of
each entry. -/
theorem stated_conditions_eq_map_m (nonempty : criteria.any Criteria.isEmpty = false) :
    statedConditions criteria partition table source =
      ((partition.elim [] Partition.attributes).mapM fun held =>
        Condition.equality table source held.1 held.2) >>= fun confined =>
      (criteria.elim [] Criteria.entries).mapM (Condition.ofEntry table source) >>= fun asked =>
        .ok (confined ++ asked) := by
  have confines : (partition.elim (.ok []) fun partition => partition.conditions table source) =
      (partition.elim [] Partition.attributes).mapM fun held =>
        Condition.equality table source held.1 held.2 := by
    cases partition <;> rfl
  have asks : (criteria.elim (.ok []) fun criteria => criteria.conditions table source) =
      (criteria.elim [] Criteria.entries).mapM (Condition.ofEntry table source) := by
    cases criteria with
    | none => rfl
    | some criteria => exact if_neg (by simpa using nonempty)
  rw [stated_conditions_eq, confines, asks]

/-- An attribute by itself compiles to its equality. -/
theorem compiled_conjuncts_attribute (held : String × Value) :
    compiledConjuncts none (some ⟨[held]⟩) table source =
      (Condition.equality table source held.1 held.2).map fun condition =>
        .ofConditions [condition] := by
  unfold compiledConjuncts
  rw [stated_conditions_eq_map_m rfl]
  simp only [Option.elim_some, Option.elim_none, List.mapM_cons, List.mapM_nil]
  cases Condition.equality table source held.1 held.2 <;> rfl

/-- An entry by itself compiles to its condition. -/
theorem compiled_conjuncts_entry (entry : String × Argument) :
    compiledConjuncts (some ⟨[entry]⟩) none table source =
      (Condition.ofEntry table source entry).map fun condition => .ofConditions [condition] := by
  unfold compiledConjuncts
  rw [stated_conditions_eq_map_m rfl]
  simp only [Option.elim_some, Option.elim_none, List.mapM_cons, List.mapM_nil]
  cases Condition.ofEntry table source entry <;> rfl

/-- Conjuncts one after the other are those of the conditions one after the other. -/
theorem Conjuncts.concat_of_conditions (conditions : List Condition) :
    concat (conditions.map fun condition => ofConditions [condition]) =
      ofConditions conditions := by
  simp [concat, ofConditions, List.flatMap_map, ← List.map_eq_flatMap]

/-- The conjuncts of all parts are those of each part by itself, one after the other. -/
theorem compiled_conjuncts_eq_map_m (nonempty : criteria.any Criteria.isEmpty = false) :
    compiledConjuncts criteria partition table source =
      ((soleParts criteria partition).mapM fun part =>
        compiledConjuncts part.1 part.2 table source).map Conjuncts.concat := by
  unfold soleParts
  rw [List.mapM_append, List.mapM_map, List.mapM_map]
  simp only [Function.comp_def, compiled_conjuncts_attribute, compiled_conjuncts_entry,
    map_m_map_each]
  rw [compiledConjuncts, stated_conditions_eq_map_m nonempty]
  cases (partition.elim [] Partition.attributes).mapM fun held =>
      Condition.equality table source held.1 held.2 with
  | error problem => rfl
  | ok confined =>
    cases (criteria.elim [] Criteria.entries).mapM (Condition.ofEntry table source) with
    | error problem => rfl
    | ok asked =>
      refine congrArg Except.ok ?_
      rw [← List.map_append]
      exact (Conjuncts.concat_of_conditions (confined ++ asked)).symm

/-! ### The name before the columns -/

/-- A column behind a source has the name of the source before it. -/
theorem qualified_eq (source : Option String) (name : String) :
    qualified source name = aliasMark source ++ name := by
  cases source with
  | none => exact (String.empty_append ..).symm
  | some given => rfl

/-- A compiled condition is its column, behind the name of the source, and the relation. -/
theorem Demand.Compiled.spelled {demand : Demand} {condition : Condition}
    (compiled : demand.Compiled source condition) :
    condition.render = aliasMark source ++ demand.column ++ demand.relation ∧
      condition.operands = demand.bound := by
  rw [← qualified_eq]
  cases compiled with
  | isNull column => exact ⟨rfl, rfl⟩
  | isNotNull column => exact ⟨rfl, rfl⟩
  | @compares operator binary column operand known present =>
    cases operator <;> cases known <;> cases operand <;> first
      | (cases present; done)
      | exact ⟨by simp [Expression.render, BinaryOperator.apply, BinaryOperator.symbol, relation,
          Operator.symbol, String.append_assoc], rfl⟩
  | @oneOf column operands nonempty =>
    refine ⟨?_, rfl⟩
    simp [Expression.render, relation, String.append_assoc, List.map_map, Function.comp_def]

/-- The conjuncts of conditions that are compiled for demands are those of the demands. -/
theorem CompiledAll.of_conditions {demands : List Demand} {conditions : List Condition}
    (compiled : CompiledAll table source demands conditions) :
    Conjuncts.ofConditions conditions = .ofDemands (aliasMark source) demands := by
  unfold Conjuncts.ofConditions Conjuncts.ofDemands
  induction compiled with
  | nil => rfl
  | cons head _ inductionHypothesis =>
    obtain ⟨texts, operands⟩ := Conjuncts.mk.inj inductionHypothesis
    obtain ⟨text, own⟩ := head.2.spelled
    simp only [List.map_cons, List.flatMap_cons, text, own, texts, operands]

/-- What is stated is compiled for what is demanded, one condition for each attribute and each
entry. -/
theorem stated_conditions_compiled {conditions : List Condition}
    (accepted : statedConditions criteria partition table source = .ok conditions) :
    CompiledAll table source (statedDemands criteria partition) conditions ∧
      (statedDemands criteria partition).length = (soleParts criteria partition).length := by
  obtain ⟨confined, asked, rfl, confinedMade, askedMade⟩ := stated_conditions_ok accepted
  have confines : CompiledAll table source (partition.elim [] Partition.demands) confined := by
    cases partition with
    | none =>
      cases confinedMade
      exact .nil
    | some partition => exact Partition.conditions_compiled confinedMade
  have asks : ∃ demands, (criteria.elim [] Criteria.entries).map Demand.ofEntry? =
    demands.map some ∧
      CompiledAll table source demands asked := by
    cases criteria with
    | none =>
      cases askedMade
      exact ⟨[], rfl, .nil⟩
    | some criteria => exact Criteria.conditions_compiled askedMade
  obtain ⟨demands, demanded, compiled⟩ := asks
  have same : (criteria.elim [] Criteria.entries).filterMap Demand.ofEntry? = demands := by
    have read := congrArg (List.filterMap id) demanded
    rwa [List.filterMap_map, List.filterMap_map, Function.id_comp, Function.id_comp,
      List.filterMap_some] at read
  have lengths : (criteria.elim [] Criteria.entries).length = demands.length := by
    simpa using congrArg List.length demanded
  unfold statedDemands
  rw [same]
  refine ⟨confines.append compiled, ?_⟩
  have attributes : (partition.elim [] Partition.demands).length =
      (partition.elim [] Partition.attributes).length := by
    cases partition with
    | none => rfl
    | some partition => exact List.length_map ..
  simp only [soleParts, List.length_append, List.length_map, attributes, lengths]

/-- Whether conditions can be stated, and why not, does not depend on the name of the source. -/
theorem stated_conditions_outcome (criteria : Option Criteria) (partition : Option Partition)
    (table : Table) (source other : Option String) :
    (statedConditions criteria partition table source).map (List.map fun _ => ()) =
      (statedConditions criteria partition table other).map (List.map fun _ => ()) := by
  have confines : (partition.elim (.ok []) fun partition => partition.conditions table source).map
        (List.map fun _ => ()) =
      (partition.elim (.ok []) fun partition => partition.conditions table other).map
        (List.map fun _ => ()) := by
    cases partition with
    | none => rfl
    | some partition =>
      refine map_m_agrees (fun held _ same => ?_) (rfl : partition.attributes.map id = _)
      cases same
      exact Condition.equality_outcome table source other held.1 held.2
  have asks : (criteria.elim (.ok []) fun criteria => criteria.conditions table source).map
        (List.map fun _ => ()) =
      (criteria.elim (.ok []) fun criteria => criteria.conditions table other).map
        (List.map fun _ => ()) := by
    cases criteria with
    | none => rfl
    | some criteria =>
      rw [Option.elim_some, Option.elim_some, Criteria.conditions, Criteria.conditions]
      split
      · rfl
      · refine map_m_agrees (fun entry _ same => ?_) (rfl : criteria.entries.map id = _)
        cases same
        exact Condition.of_entry_outcome table source other entry
  rw [stated_conditions_eq, stated_conditions_eq]
  refine bind_agrees confines fun ofThese ofThose one => ?_
  refine bind_agrees asks fun these those more => ?_
  simp only [Except.map, List.map_append, one, more]

/-- What is refused under one source is refused under every source, with the same error. -/
theorem compiled_conjuncts_error {other : Option String} {problem : StoreError}
    (refused : compiledConjuncts criteria partition table source = .error problem) :
    compiledConjuncts criteria partition table other = .error problem := by
  unfold compiledConjuncts at *
  have same := stated_conditions_outcome criteria partition table source other
  cases stated : statedConditions criteria partition table source with
  | ok conditions =>
    rw [stated] at refused
    cases refused
  | error reason =>
    rw [stated] at refused same
    cases refused
    cases others : statedConditions criteria partition table other with
    | ok conditions =>
      rw [others] at same
      cases same
    | error further =>
      rw [others] at same
      cases same
      rfl

end Parts

/-- Compiling goes part by part. The text that criteria and a partition compile to is made of their
conjuncts: there is none without a part, a single one stands as it is, and several are one
parenthesised group. The conjuncts are those of each part alone, one after the other, the attributes
of the partition first, and each part has one text; criteria without entries are refused. Where
columns are those of a named source the same is refused with the same words; the operands are the
same, and each text is the column that is asked about, behind the name of the source, and a relation
in which no column stands.

Proof: criteria and a partition compile to one condition for each part, and a condition has the text
of its demand behind the name of the source. -/
theorem compiling_goes_part_by_part (criteria : Option Criteria) (partition : Option Partition)
    (table : Table) :
    (∀ source, compiledFragment? criteria partition table source =
      (compiledConjuncts criteria partition table source).map Conjuncts.fragment?) ∧
    (∀ source, compiledFragment? criteria partition table source = .ok none ↔
      soleParts criteria partition = [] ∧ criteria.any Criteria.isEmpty = false) ∧
    (criteria.any Criteria.isEmpty = false → ∀ source,
      compiledConjuncts criteria partition table source =
        ((soleParts criteria partition).mapM fun part =>
          compiledConjuncts part.1 part.2 table source).map Conjuncts.concat) ∧
    (criteria.any Criteria.isEmpty = true → ∀ source, ∃ problem,
      compiledConjuncts criteria partition table source = .error problem) ∧
    (∀ source other problem,
      compiledConjuncts criteria partition table source = .error problem ↔
        compiledConjuncts criteria partition table other = .error problem) ∧
    ∀ source conjuncts, compiledConjuncts criteria partition table source = .ok conjuncts →
      conjuncts.texts.length = (soleParts criteria partition).length ∧
      conjuncts = .ofDemands (aliasMark source) (statedDemands criteria partition) := by
  have spelled : ∀ source conjuncts,
      compiledConjuncts criteria partition table source = .ok conjuncts →
      conjuncts.texts.length = (soleParts criteria partition).length ∧
      conjuncts = .ofDemands (aliasMark source) (statedDemands criteria partition) := by
    intro source conjuncts accepted
    obtain ⟨conditions, stated, rfl⟩ := map_ok accepted
    obtain ⟨compiled, length⟩ := stated_conditions_compiled stated
    rw [compiled.of_conditions]
    exact ⟨(List.length_map ..).trans length, rfl⟩
  have refused : criteria.any Criteria.isEmpty = true → ∀ source, ∃ problem,
      compiledConjuncts criteria partition table source = .error problem := by
    intro empty source
    cases compiled : compiledConjuncts criteria partition table source with
    | error problem => exact ⟨problem, rfl⟩
    | ok conjuncts =>
      obtain ⟨conditions, stated, -⟩ := map_ok compiled
      obtain ⟨-, asked, -, -, asks⟩ := stated_conditions_ok stated
      cases criteria with
      | none => cases empty
      | some given =>
        rw [Option.elim_some, Criteria.conditions, if_pos (by simpa using empty)] at asks
        cases asks
  refine ⟨compiled_fragment?_eq criteria partition table, fun source => ?_,
    fun nonempty source => compiled_conjuncts_eq_map_m nonempty, refused,
    fun source other problem => ⟨compiled_conjuncts_error, compiled_conjuncts_error⟩, spelled⟩
  rw [compiled_fragment?_eq]
  constructor
  · intro accepted
    obtain ⟨conjuncts, compiled, nothing⟩ := map_ok accepted
    constructor
    · have length := (spelled source conjuncts compiled).1
      rw [Conjuncts.fragment?_eq_none.mp nothing] at length
      exact List.length_eq_zero_iff.mp length.symm
    · by_contra empty
      obtain ⟨problem, failed⟩ := refused (by simpa using empty) source
      rw [failed] at compiled
      cases compiled
  · rintro ⟨without, nonempty⟩
    rw [compiled_conjuncts_eq_map_m nonempty, without]
    rfl

/-- A tenant and two entries compile as they do alone, with the name of the source before each
column. -/
theorem tenant_and_entries_compile_apart :
    let criteria : Criteria :=
      ⟨[("state", .scalar .null), ("$in", .list [.text "age", .integer 3, .integer 5])]⟩
    let partition : Partition := ⟨[("tenant", .text "acme")]⟩
    let table : Table := ⟨"person", [{ name := "tenant", type := .string },
      { name := "state", type := .string, nullable := true }, { name := "age", type := .integer }]⟩
    let conjuncts : Conjuncts :=
      ⟨["b.tenant = ?", "b.state IS NULL", "b.age IN (?, ?)"],
        [.text "acme", .integer 3, .integer 5]⟩
    compiledConjuncts (some criteria) (some partition) table (some "b") = .ok conjuncts ∧
    ((soleParts (some criteria) (some partition)).mapM fun part =>
      compiledConjuncts part.1 part.2 table (some "b")).map Conjuncts.concat = .ok conjuncts ∧
    conjuncts = .ofDemands "b." (statedDemands (some criteria) (some partition)) := by
  intro criteria partition table conjuncts
  have compiled : compiledConjuncts (some criteria) (some partition) table (some "b") =
      .ok conjuncts := by rfl
  obtain ⟨-, -, together, -, -, spelled⟩ :=
    compiling_goes_part_by_part (some criteria) (some partition) table
  exact ⟨compiled, (together rfl (some "b")).symm.trans compiled,
    (spelled (some "b") conjuncts compiled).2⟩

end RecordStore
