import RecordStore.Proofs.Query.Keys
import RecordStore.Proofs.Query.Marks

/-!
# Which requests are well formed

What a request may look like is said here without the compiler: which entries criteria may have,
which columns a partition and a sort may name, and what a term needs besides. A request compiles
exactly if it is well formed in this sense, and every request that is not is refused as a query.
-/

namespace RecordStore

open Engine Sql

/-! ### Well-formed requests -/

/-- The entries that criteria of a table may have: a column under its own name with one value, or a
comparison under the operator sign with a column and its operands. -/
inductive Table.AllowsEntry (table : Table) : String × Argument → Prop where
  | plain {column : String} (known : column ∈ table.columnNames) (value : Value) :
      table.AllowsEntry (column, .scalar value)
  | matching {key column : String} (named : key ∈ ["$eq", "$ne"])
      (known : column ∈ table.columnNames) (operand : Value) :
      table.AllowsEntry (key, .list [.text column, operand])
  | ordering {key column : String} (named : key ∈ ["$gt", "$gte", "$lt", "$lte"])
      (known : column ∈ table.columnNames) {operand : Value} (present : operand ≠ .null) :
      table.AllowsEntry (key, .list [.text column, operand])
  | membership {column : String} (known : column ∈ table.columnNames) {operands : List Value}
      (nonempty : operands ≠ []) :
      table.AllowsEntry ("$in", .list (.text column :: operands))

/-- Criteria have an entry, and only entries that the table allows. -/
def Table.AllowsCriteria (table : Table) (criteria : Criteria) : Prop :=
  criteria.entries ≠ [] ∧ ∀ entry ∈ criteria.entries, table.AllowsEntry entry

/-- A partition is by columns of the table. -/
def Table.AllowsPartition (table : Table) (partition : Partition) : Prop :=
  ∀ held ∈ partition.attributes, held.1 ∈ table.columnNames

/-- A sort names a column, and only columns of the table. -/
def Table.AllowsSort (table : Table) (sort : SortOrder) : Prop :=
  sort.pairs ≠ [] ∧ ∀ pair ∈ sort.pairs, pair.1 ∈ table.columnNames

namespace Request

/-- A request of which the table allows every part that is there. -/
structure IsWellFormed (request : Request) (table : Table) : Prop where
  criteria : ∀ criteria ∈ request.criteria, table.AllowsCriteria criteria
  partition : ∀ partition ∈ request.partition, table.AllowsPartition partition
  sort : ∀ sort ∈ request.sort, table.AllowsSort sort

/-- What a term needs besides: a table with an analyzed column, a character that is not blank, and
a partition by columns that the full-text table carries. -/
structure IsSearchable (request : Request) (table : Table) (term : String) : Prop where
  analyzed : ∃ column ∈ table.columns, column.analyzed = true
  words : ∃ char ∈ term.toList, isBlankChar char = false
  carried : ∀ partition ∈ request.partition, partition.IsCarriedIn table

end Request

/-! ### Judging what is well formed -/

/-- The errors by which a query of a table is refused: it is no valid query, or it names a column
that the table does not have. -/
inductive Table.Refuses (table : Table) : StoreError → Prop where
  | invalidQuery (reason : String) : table.Refuses (.invalidQuery reason)
  | unknownColumn {column : String} (unknown : column ∉ table.columnNames) :
      table.Refuses (.unknownColumn table.name column)

/-- An outcome that is there exactly if what it is made from is well formed, and is refused
otherwise. Each function of the compiler has one lemma in this form, put together from those of the
functions that it calls. -/
structure Table.Judges {α : Type} (table : Table) (wellFormed : Prop)
    (outcome : Except StoreError α) : Prop where
  accepts : outcome.isOk = true ↔ wellFormed
  refuses : ∀ problem, outcome = .error problem → table.Refuses problem

namespace Table.Judges

variable {α β : Type} {table : Table} {wellFormed further : Prop}

/-- What is accepted is judged rightly if it is well formed. -/
theorem ok (value : α) (holds : wellFormed) :
    table.Judges wellFormed (.ok value : Except StoreError α) :=
  ⟨iff_of_true rfl holds, nofun⟩

/-- What is refused as a query is judged rightly if it is not well formed. -/
theorem error {problem : StoreError} (refused : table.Refuses problem) (fails : ¬ wellFormed) :
    table.Judges wellFormed (.error problem : Except StoreError α) :=
  ⟨iff_of_false nofun fails, by rintro _ ⟨⟩; exact refused⟩

/-- A judgement of a property is one of every property that is the same. -/
theorem congr {outcome : Except StoreError α} (judges : table.Judges wellFormed outcome)
    (same : wellFormed ↔ further) : table.Judges further outcome :=
  ⟨judges.accepts.trans same, judges.refuses⟩

/-- What is judged for a property is accepted exactly if the property holds. -/
theorem exists_ok_iff {outcome : Except StoreError α} (judges : table.Judges wellFormed outcome) :
    (∃ value, outcome = .ok value) ↔ wellFormed := by
  rw [← judges.accepts]
  exact ⟨fun ⟨value, made⟩ => by rw [made]; rfl, exists_of_is_ok⟩

/-- One outcome after the other: both must be well formed. -/
theorem bind {first : Except StoreError α} {next : α → Except StoreError β}
    (judges : table.Judges wellFormed first)
    (behind : ∀ value, first = .ok value → table.Judges further (next value)) :
    table.Judges (wellFormed ∧ further) (first >>= next) := by
  cases first with
  | error problem =>
    exact .error (judges.refuses problem rfl) fun both => nomatch judges.accepts.mpr both.1
  | ok value =>
    exact (behind value rfl).congr ⟨fun later => ⟨judges.accepts.mp rfl, later⟩, And.right⟩

/-- What is made of a value that is accepted changes nothing about the judgement. -/
theorem map {outcome : Except StoreError α} (judges : table.Judges wellFormed outcome)
    (make : α → β) : table.Judges wellFormed (outcome >>= fun value => .ok (make value)) :=
  (judges.bind fun value _ => .ok (make value) trivial).congr (iff_of_eq (and_true _))

/-- An outcome for each item: every item must be well formed. -/
theorem map_m {Allowed : α → Prop} {make : α → Except StoreError β}
    (judges : ∀ item, table.Judges (Allowed item) (make item)) (items : List α) :
    table.Judges (∀ item ∈ items, Allowed item) (items.mapM make) := by
  induction items with
  | nil => exact .ok [] nofun
  | cons first rest inductionHypothesis =>
    rw [List.mapM_cons]
    refine ((judges first).bind fun made _ => inductionHypothesis.map (made :: ·)).congr ?_
    exact List.forall_mem_cons.symm

/-- An outcome for what may be left out. -/
theorem elim {Allowed : α → Prop} {make : α → Except StoreError β} {missing : β} {item : Option α}
    (judges : ∀ value ∈ item, table.Judges (Allowed value) (make value)) :
    table.Judges (∀ value ∈ item, Allowed value) (item.elim (.ok missing) make) := by
  cases item with
  | none => exact .ok missing nofun
  | some value => exact (judges value rfl).congr (by simp)

end Table.Judges

/-! ### What the compiler accepts -/

namespace Condition

variable {table : Table} {source : Option String}

/-- A column is accepted exactly if the table has it. -/
theorem require_column_judges (column : String) :
    table.Judges (column ∈ table.columnNames) (table.requireColumn column) := by
  unfold Table.requireColumn
  split
  · rename_i known
    exact .ok () (Table.mem_column_names_of_has_column known)
  · rename_i unknown
    have outside : column ∉ table.columnNames := mt Table.has_column_of_mem unknown
    exact .error (.unknownColumn outside) outside

/-- An equality compiles exactly if the table has its column. -/
theorem equality_judges (column : String) (value : Value) :
    table.Judges (column ∈ table.columnNames) (equality table source column value) := by
  refine ((require_column_judges column).bind fun _ _ => ?_).congr (iff_of_eq (and_true _))
  split <;> exact .ok _ trivial

end Condition

/-- The operands that a comparison takes. -/
def Operator.Takes : Operator → List Value → Prop
  | .oneOf, operands => operands ≠ []
  | .equal, operands | .unequal, operands => ∃ operand, operands = [operand]
  | _, operands => ∃ operand, operands = [operand] ∧ operand ≠ .null

/-- Every operator takes at least one operand. -/
theorem Operator.Takes.nonempty {operator : Operator} {operands : List Value}
    (takes : operator.Takes operands) : operands ≠ [] := by
  cases operator with
  | oneOf => exact takes
  | equal | unequal =>
    obtain ⟨operand, rfl⟩ := takes
    exact List.cons_ne_nil _ _
  | greater | atLeast | less | atMost =>
    obtain ⟨operand, rfl, -⟩ := takes
    exact List.cons_ne_nil _ _

/-- A comparison other than membership takes one operand. -/
theorem Operator.Takes.single {operator : Operator} {operands : List Value}
    (takes : operator.Takes operands) (single : operator ≠ .oneOf) :
    ∃ operand, operands = [operand] := by
  cases operator with
  | oneOf => exact absurd rfl single
  | equal | unequal => exact takes
  | greater | atLeast | less | atMost => exact takes.imp fun operand both => both.1

namespace Condition

variable {table : Table} {source : Option String}

/-- Equality and inequality compare with null too. -/
theorem comparison_judges {operator : Operator} (single : operator ≠ .oneOf) (column : String)
    (operand : Value) :
    table.Judges (operator.Takes [operand]) (comparison source operator column operand) := by
  cases null : operand.isNull with
  | true =>
    cases Demand.is_null_iff.mp null
    cases operator with
    | oneOf => exact absurd rfl single
    | equal | unequal => exact .ok _ ⟨_, rfl⟩
    | greater | atLeast | less | atMost =>
      exact .error (.invalidQuery _) (by rintro ⟨_, ⟨⟩, present⟩; exact present rfl)
  | false =>
    have present : operand ≠ .null := by
      rintro rfl
      cases null
    unfold comparison
    simp only [null]
    cases operator with
    | oneOf => exact absurd rfl single
    | equal | unequal => exact .ok _ ⟨operand, rfl⟩
    | greater | atLeast | less | atMost => exact .ok _ ⟨operand, rfl, present⟩

/-- The first argument names a column, and the others are operands that the comparison takes. -/
theorem of_operator_judges (operator : Operator) (values : List Value) :
    table.Judges (∃ column operands, values = .text column :: operands ∧
      column ∈ table.columnNames ∧ operator.Takes operands)
      (ofOperator table source operator values) := by
  unfold ofOperator
  split
  · rename_i column operands
    suffices judges : table.Judges (column ∈ table.columnNames ∧ operator.Takes operands) _ from
      judges.congr (by simp)
    refine (require_column_judges column).bind fun _ _ => ?_
    by_cases membership : operator = .oneOf
    · cases membership
      cases operands with
      | nil => exact .error (.invalidQuery _) fun nonempty => nonempty rfl
      | cons first others => exact .ok _ (List.cons_ne_nil first others)
    · match operands with
      | [operand] =>
        have judges : table.Judges _ (comparison source operator column operand) :=
          comparison_judges membership column operand
        cases operator <;> first
          | exact absurd rfl membership
          | exact judges
      | [] =>
        have fails : ¬ operator.Takes [] := fun takes => takes.nonempty rfl
        cases operator <;> first
          | exact absurd rfl membership
          | exact .error (.invalidQuery _) fails
      | first :: second :: others =>
        have fails : ¬ operator.Takes (first :: second :: others) := fun takes => by
          obtain ⟨operand, ⟨⟩⟩ := takes.single membership
        cases operator <;> first
          | exact absurd rfl membership
          | exact .error (.invalidQuery _) fails
  · rename_i noColumn
    exact .error (.invalidQuery _) fun ⟨column, operands, values, _⟩ =>
      noColumn column operands values

end Condition

/-! ### Keys -/

namespace Operator

/-- What stands behind the operator sign is all there is to a key. -/
theorem eq_of_name_of_key? {key name : String} (named : nameOfKey? key = some name) :
    key = String.singleton sign ++ name := by
  unfold nameOfKey? at named
  cases characters : key.toList with
  | nil =>
    rw [characters] at named
    cases named
  | cons first rest =>
    simp only [characters] at named
    split at named
    · rename_i isSign
      cases named
      obtain rfl := beq_iff_eq.mp isSign
      apply String.toList_inj.mp
      rw [characters, String.toList_append, String.toList_ofList, String.toList_singleton]
      rfl
    · cases named

/-- The name of an operator is read as the operator. -/
theorem parse_name (operator : Operator) : parse operator.name = .ok operator := by
  cases operator <;> decide +kernel

example : parse "in" = .ok .oneOf := by decide +kernel

/-- Operators are told apart by their keys. -/
theorem key_inj {left right : Operator} : left.key = right.key ↔ left = right := by
  refine ⟨fun same => ?_, congrArg key⟩
  have names := congrArg nameOfKey? same
  rw [name_of_key?_key, name_of_key?_key] at names
  have parsed := congrArg parse (Option.some.inj names)
  rw [parse_name, parse_name] at parsed
  exact Except.ok.inj parsed

/-- The keys that a name stands for, if it stands for any. -/
theorem parse_cases {key name : String} (named : nameOfKey? key = some name) :
    (∃ operator : Operator, parse name = .ok operator ∧ key = operator.key) ∨
      ∃ reason, parse name = .error (.invalidQuery reason) ∧
        ∀ operator : Operator, key ≠ operator.key := by
  cases parsed : parse name with
  | ok operator =>
    have same : operator.name = name := by simpa using List.find?_some (Demand.parse_ok parsed)
    exact .inl ⟨operator, rfl, by rw [eq_of_name_of_key? named, ← same]; rfl⟩
  | error problem =>
    have unknown : ∀ operator : Operator, key ≠ operator.key := by
      rintro operator rfl
      cases named.symm.trans (name_of_key?_key operator)
      cases parsed.symm.trans (parse_name operator)
    unfold parse at parsed
    split at parsed
    · cases parsed
    · cases parsed
      exact .inr ⟨_, rfl, unknown⟩

end Operator

section Entries

variable {table : Table}

/-- The comparisons that entries can ask for are those with a key, each with operands that it
takes. -/
theorem Table.allows_entry_iff {entry : String × Argument} :
    table.AllowsEntry entry ↔
      (entry.1 ∈ table.columnNames ∧ ∃ value, entry.2 = .scalar value) ∨
      ∃ (operator : Operator) (column : String) (operands : List Value),
        entry = (operator.key, .list (.text column :: operands)) ∧ column ∈ table.columnNames ∧
        operator.Takes operands := by
  constructor
  · intro allowed
    cases allowed with
    | plain known value => exact .inl ⟨known, value, rfl⟩
    | @matching key column named known operand =>
      refine .inr ?_
      rcases List.mem_pair.mp named with rfl | rfl
      · exact ⟨.equal, column, _, rfl, known, operand, rfl⟩
      · exact ⟨.unequal, column, _, rfl, known, operand, rfl⟩
    | @ordering key column named known operand present =>
      refine .inr ?_
      simp only [List.mem_cons, List.not_mem_nil, or_false] at named
      rcases named with rfl | rfl | rfl | rfl
      · exact ⟨.greater, column, _, rfl, known, operand, rfl, present⟩
      · exact ⟨.atLeast, column, _, rfl, known, operand, rfl, present⟩
      · exact ⟨.less, column, _, rfl, known, operand, rfl, present⟩
      · exact ⟨.atMost, column, _, rfl, known, operand, rfl, present⟩
    | @membership column known operands nonempty =>
      exact .inr ⟨.oneOf, column, operands, rfl, known, nonempty⟩
  · obtain ⟨key, argument⟩ := entry
    rintro (⟨known, value, rfl⟩ | ⟨operator, column, operands, ⟨⟩, known, takes⟩)
    · exact .plain known value
    · cases operator with
      | oneOf => exact .membership known takes
      | equal | unequal =>
        obtain ⟨operand, rfl⟩ := takes
        exact .matching (by decide +kernel) known operand
      | greater | atLeast | less | atMost =>
        obtain ⟨operand, rfl, present⟩ := takes
        exact .ordering (by decide +kernel) known present

/-- No column of the table reads as a comparison. -/
def Table.HasPlainColumns (table : Table) : Prop :=
  ∀ column ∈ table.columnNames, Operator.nameOfKey? column = none

/-- No column of a faultless table has the name of an operator. -/
theorem Table.has_plain_columns_of_fault? (faultless : table.fault? = none) :
    table.HasPlainColumns := by
  intro name member
  obtain ⟨column, declared, rfl⟩ := List.mem_map.mp member
  exact Operator.name_of_key?_none
    ((is_admitted_of_fault? faultless).columns column declared).identifier

variable {source : Option String}

/-- An entry under the key of a comparison is a column with operands that the comparison takes. -/
theorem Table.allows_entry_comparison (plain : table.HasPlainColumns) {operator : Operator}
    {argument : Argument} :
    table.AllowsEntry (operator.key, argument) ↔ ∃ column operands,
      argument.values = .text column :: operands ∧ column ∈ table.columnNames ∧
        operator.Takes operands := by
  rw [allows_entry_iff]
  constructor
  · rintro (⟨known, -⟩ | ⟨other, column, operands, same, known, takes⟩)
    · cases (plain _ known).symm.trans operator.name_of_key?_key
    · obtain ⟨sameKey, rfl⟩ := Prod.mk.inj same
      cases Operator.key_inj.mp sameKey
      exact ⟨column, operands, rfl, known, takes⟩
  · rintro ⟨column, operands, values, known, takes⟩
    cases argument with
    | list listed =>
      obtain rfl : listed = .text column :: operands := values
      exact .inr ⟨operator, column, operands, rfl, known, takes⟩
    | scalar value =>
      cases values
      exact absurd rfl takes.nonempty

/-- An entry compiles exactly if the table allows it. Proof: by the kind of the entry; a column with
the name of a comparison would be read as one, but the table has none. -/
theorem Condition.of_entry_judges (plain : table.HasPlainColumns) (entry : String × Argument) :
    table.Judges (table.AllowsEntry entry) (ofEntry table source entry) := by
  obtain ⟨key, argument⟩ := entry
  unfold ofEntry
  cases named : Operator.nameOfKey? key with
  | none =>
    have noComparison : ∀ operator : Operator, key ≠ operator.key := by
      rintro operator rfl
      cases named.symm.trans operator.name_of_key?_key
    cases argument with
    | scalar value =>
      refine (equality_judges key value).congr ?_
      simp [Table.allows_entry_iff, noComparison]
    | list values =>
      refine .error (.invalidQuery _) fun allowed => ?_
      simp [Table.allows_entry_iff, noComparison] at allowed
  | some name =>
    have noColumn : key ∉ table.columnNames := fun known => by
      cases named.symm.trans (plain key known)
    rcases Operator.parse_cases named with ⟨operator, parsed, rfl⟩ | ⟨reason, parsed, unknown⟩
    · simp only [parsed]
      exact (of_operator_judges operator argument.values).congr
        (Table.allows_entry_comparison plain).symm
    · simp only [parsed]
      refine .error (.invalidQuery reason) fun allowed => ?_
      simp [Table.allows_entry_iff, noColumn, unknown] at allowed

end Entries

/-! ### Requests -/

section Requests

variable {table : Table} {source : Option String}

/-- Criteria compile exactly if the table allows them: there is an entry, and each of them is
allowed. -/
theorem Criteria.conditions_judges (plain : table.HasPlainColumns) (criteria : Criteria) :
    table.Judges (table.AllowsCriteria criteria) (criteria.conditions table source) := by
  unfold Criteria.conditions
  split
  · rename_i empty
    exact .error (.invalidQuery _) fun asks => asks.1 (List.isEmpty_iff.mp empty)
  · rename_i asks
    have nonempty : criteria.entries ≠ [] := fun empty => asks (List.isEmpty_iff.mpr empty)
    exact (Table.Judges.map_m (Condition.of_entry_judges plain) criteria.entries).congr
      (by simp [Table.AllowsCriteria, nonempty])

/-- A partition compiles exactly if the table has its columns. -/
theorem Partition.conditions_judges (partition : Partition) :
    table.Judges (table.AllowsPartition partition) (partition.conditions table source) :=
  .map_m (fun held => Condition.equality_judges held.1 held.2) partition.attributes

/-- A sort compiles exactly if it names a column and the table has all that it names. -/
theorem SortOrder.order_keys_judges (sort : SortOrder) :
    table.Judges (table.AllowsSort sort) (sort.orderKeys table source) := by
  have single : ∀ pair, table.Judges (pair.1 ∈ table.columnNames) (orderKey table source pair) := by
    intro pair
    unfold orderKey
    split
    · rename_i known
      exact .ok _ (Table.mem_column_names_of_has_column known)
    · rename_i unknown
      have outside : pair.1 ∉ table.columnNames := mt Table.has_column_of_mem unknown
      exact .error (.unknownColumn outside) outside
  unfold orderKeys
  split
  · rename_i empty
    exact .error (.invalidQuery _) fun sorts => sorts.1 (List.isEmpty_iff.mp empty)
  · rename_i sorts
    have nonempty : sort.pairs ≠ [] := fun empty => sorts (List.isEmpty_iff.mpr empty)
    exact (Table.Judges.map_m single sort.pairs).congr (by simp [Table.AllowsSort, nonempty])

/-- Partition and criteria compile together exactly if each that is there is allowed. -/
theorem stated_conditions_judges (plain : table.HasPlainColumns) (criteria : Option Criteria)
    (partition : Option Partition) :
    table.Judges ((∀ given ∈ partition, table.AllowsPartition given) ∧
        ∀ given ∈ criteria, table.AllowsCriteria given)
      (statedConditions criteria partition table source) := by
  rw [stated_conditions_eq]
  refine Table.Judges.bind ?_ fun confined _ => Table.Judges.map ?_ (confined ++ ·)
  · exact .elim fun given _ => given.conditions_judges
  · exact .elim fun given _ => given.conditions_judges plain

namespace Request

variable (request : Request)

/-- The condition of a plain request compiles exactly if its partition and its criteria are
allowed. -/
theorem plain_rows_judges (plain : table.HasPlainColumns) :
    table.Judges ((∀ partition ∈ request.partition, table.AllowsPartition partition) ∧
        ∀ criteria ∈ request.criteria, table.AllowsCriteria criteria)
      (request.plainRows table) :=
  ((stated_conditions_judges plain request.criteria request.partition).map
    Expression.conjunction?).map _

/-- The partition compiles on the full-text table exactly if it is allowed and its columns are
carried. -/
theorem shadow_conditions_judges :
    table.Judges (∀ partition ∈ request.partition,
        table.AllowsPartition partition ∧ partition.IsCarriedIn table)
      (request.shadowConditions table) := by
  unfold shadowConditions
  cases request.partition with
  | none => exact .ok [] nofun
  | some partition =>
    dsimp only
    split
    · rename_i column uncarried
      refine .error (.invalidQuery _) fun allowed => ?_
      obtain ⟨held, missed, -⟩ := Option.map_eq_some_iff.mp uncarried
      have carried := (allowed partition rfl).2 held (List.mem_of_find?_eq_some missed)
      simpa [carried] using List.find?_some missed
    · rename_i carried
      refine partition.conditions_judges.congr ?_
      simp only [uncarried?, Option.map_eq_none_iff, List.find?_eq_none, Bool.not_eq_true,
        Bool.not_eq_false', List.contains_iff_mem] at carried
      have isCarried : partition.IsCarriedIn table := carried
      simp [isCarried]

/-- The condition of a full-text request compiles exactly if the table can be searched for the term
and allows the partition and the criteria. Once the term is accepted only the partition decides
about the rest. -/
theorem matched_rows_judges (plain : table.HasPlainColumns) (term : String) :
    table.Judges (request.IsSearchable table term ∧
        (∀ partition ∈ request.partition, table.AllowsPartition partition) ∧
        ∀ criteria ∈ request.criteria, table.AllowsCriteria criteria)
      (request.matchedRows table term) := by
  have asks : table.Judges (∀ criteria ∈ request.criteria, table.AllowsCriteria criteria)
      (request.criteria.elim (.ok []) fun criteria =>
        criteria.conditions table (some tableAlias)) :=
    .elim fun criteria _ => criteria.conditions_judges plain
  have pairs := asks.bind fun asked _ => request.shadow_conditions_judges.map fun confined =>
    table.pairsQuery asked confined term
  unfold matchedRows
  by_cases analyzed : table.isAnalyzed = true
  · by_cases blank : isBlankText term = true
    · simp only [analyzed, blank]
      refine .error (.invalidQuery _) fun allowed => ?_
      obtain ⟨char, member, mark⟩ := allowed.1.words
      simp [List.all_eq_true.mp blank char member] at mark
    · simp only [analyzed, blank]
      have words : ∃ char ∈ term.toList, isBlankChar char = false := by
        simpa [isBlankText] using blank
      have searchable : request.IsSearchable table term ↔
          ∀ partition ∈ request.partition, partition.IsCarriedIn table :=
        ⟨IsSearchable.carried, fun carried => ⟨List.any_eq_true.mp analyzed, words, carried⟩⟩
      have same : ((∀ criteria ∈ request.criteria, table.AllowsCriteria criteria) ∧
            ∀ partition ∈ request.partition,
              table.AllowsPartition partition ∧ partition.IsCarriedIn table) ↔
          request.IsSearchable table term ∧
            (∀ partition ∈ request.partition, table.AllowsPartition partition) ∧
            ∀ criteria ∈ request.criteria, table.AllowsCriteria criteria := by
        rw [searchable]
        constructor
        · intro ⟨asked, confined⟩
          exact ⟨fun given member => (confined given member).2,
            fun given member => (confined given member).1, asked⟩
        · intro ⟨carried, known, asked⟩
          exact ⟨asked, fun given member => ⟨known given member, carried given member⟩⟩
      have judges := pairs.congr same
      cases given : request.criteria with
      | none | some criteria =>
        rw [given] at judges
        exact judges
  · simp only [analyzed]
    refine .error (.invalidQuery _) fun allowed => ?_
    obtain ⟨column, member, words⟩ := allowed.1.analyzed
    exact analyzed (List.any_eq_true.mpr ⟨column, member, words⟩)

/-- The condition of a request compiles exactly if the partition and the criteria are allowed and,
where there is a term, the table can be searched for it. -/
theorem rows_judges (plain : table.HasPlainColumns) :
    table.Judges ((∀ term ∈ request.term, request.IsSearchable table term) ∧
        (∀ partition ∈ request.partition, table.AllowsPartition partition) ∧
        ∀ criteria ∈ request.criteria, table.AllowsCriteria criteria)
      (request.rows table) := by
  cases asks : request.term with
  | none =>
    rw [rows_plain asks]
    exact (request.plain_rows_judges plain).congr (by simp)
  | some term =>
    rw [rows_asking asks]
    exact (request.matched_rows_judges plain term).congr (by simp)

/-- The order of a request compiles exactly if its sort is allowed, where there is one. -/
theorem ordering_judges :
    table.Judges (∀ sort ∈ request.sort, table.AllowsSort sort) (request.ordering table) := by
  unfold ordering
  cases request.sort with
  | some sort => exact sort.order_keys_judges.congr (by simp)
  | none => cases request.term <;> exact .ok _ nofun

/-- The query for a page judges the whole request. -/
theorem finding_judges (plain : table.HasPlainColumns) (page : Page) :
    table.Judges (request.IsWellFormed table ∧
        ∀ term ∈ request.term, request.IsSearchable table term)
      (request.finding table page) := by
  have judges := (request.rows_judges plain).bind fun rows _ =>
    request.ordering_judges.map fun keys => ({ rows with
      columns := resultColumns table request.source
      ordering := keys
      limit := some (.operand (.integer page.limit))
      offset := some (.operand (.integer page.offset)) } : Select Stored)
  refine judges.congr ⟨?_, ?_⟩
  · rintro ⟨⟨searchable, partition, criteria⟩, sort⟩
    exact ⟨⟨criteria, partition, sort⟩, searchable⟩
  · rintro ⟨⟨criteria, partition, sort⟩, searchable⟩
    exact ⟨⟨searchable, partition, criteria⟩, sort⟩

end Request

end Requests

/-- The compiler accepts exactly the well-formed requests. A request without a term compiles for a
page if and only if it is well formed, a request with a term if and only if it is well formed and
searchable. A request that does not compile is refused as no valid query, or for a column that the
table does not have.

Proof: each function of the compiler accepts exactly what is well formed in its part and refuses the
rest as a query, so the same holds of their composition. -/
theorem finding_accepts_the_well_formed {tables : List Table} {schema : Schema} {table : Table}
    (accepted : Schema.ofTables tables = .ok schema) (member : table ∈ schema.tables)
    (request : Request) (page : Page) :
    ((∃ query, request.finding table page = .ok query) ↔
      request.IsWellFormed table ∧ ∀ term ∈ request.term, request.IsSearchable table term) ∧
    ∀ problem, request.finding table page = .error problem →
      (∃ reason, problem = .invalidQuery reason) ∨
        ∃ column, column ∉ table.columnNames ∧ problem = .unknownColumn table.name column := by
  have plain := Table.has_plain_columns_of_fault? (Schema.of_tables_fault? accepted table member)
  have judges := request.finding_judges plain page
  refine ⟨judges.exists_ok_iff, fun problem refused => ?_⟩
  cases judges.refuses problem refused with
  | invalidQuery reason => exact .inl ⟨reason, rfl⟩
  | unknownColumn unknown => exact .inr ⟨_, unknown, rfl⟩

namespace Correspondence

/-- The letters from before a year that is not known. -/
def undated : Request where
  criteria := some ⟨[("$lt", .list [.text "year", .null])]⟩

/-- The letters on a topic, of which a letter says nothing. -/
def topical : Request where
  partition := some ⟨[("topic", .text "harbour")]⟩

end Correspondence

open Correspondence in
/-- What was written about the harbour can be asked for. A year cannot be before one that is not
known, and a letter has no topic. -/
theorem harbour_is_well_formed :
    (harbour.IsWellFormed letter ∧ ∀ term ∈ harbour.term, harbour.IsSearchable letter term) ∧
      ¬ undated.IsWellFormed letter ∧ ¬ topical.IsWellFormed letter ∧
      (∃ reason, undated.finding letter ⟨10, 0⟩ = .error (.invalidQuery reason)) ∧
      topical.finding letter ⟨10, 0⟩ = .error (.unknownColumn "letter" "topic") := by
  have judged := finding_accepts_the_well_formed letter_accepted List.mem_cons_self
  have wellFormed := (judged harbour ⟨10, 0⟩).1.mp (exists_of_is_ok (by decide +kernel))
  have undatedRefused : undated.finding letter ⟨10, 0⟩ =
      .error (.invalidQuery "`$lt` on `year` cannot compare against null") := rfl
  have topicalRefused : topical.finding letter ⟨10, 0⟩ =
      .error (.unknownColumn "letter" "topic") := rfl
  refine ⟨wellFormed, fun allowed => ?_, fun allowed => ?_, ⟨_, undatedRefused⟩, topicalRefused⟩
  · obtain ⟨query, compiled⟩ := (judged undated ⟨10, 0⟩).1.mpr ⟨allowed, nofun⟩
    cases undatedRefused.symm.trans compiled
  · obtain ⟨query, compiled⟩ := (judged topical ⟨10, 0⟩).1.mpr ⟨allowed, nofun⟩
    cases topicalRefused.symm.trans compiled

end RecordStore
