import RecordStore.Proofs.Query.Terms
import RecordStore.Proofs.Sql.Skeletons

/-!
# Shapes of requests

The shape of a request is what is left of it when the values are taken out: the keys of its
criteria, the columns that its comparisons name, how many operands there are and which of them are
null, the columns of its partition, its order, and whether its term is blank. Requests of one shape
compile to one skeleton, or they are refused with the same words.
-/

namespace RecordStore

open Engine Sql

/-- The shape of an entry of criteria. -/
inductive EntryShape where
  /-- A column that must equal a value, which is null or not; or a column with a list, which is
  refused. -/
  | plain (column : String) (isNull? : Option Bool)
  /-- A comparison of a column, which of its operands are null. Without a column it is refused. -/
  | comparison (name : String) (column? : Option String) (nulls : List Bool)
  deriving DecidableEq

/-- The column that the arguments of a comparison name, and which of the operands are null. -/
def comparisonShape : List Value → Option String × List Bool
  | .text column :: operands => (some column, operands.map Value.isNull)
  | _ => (none, [])

/-- The shape of an entry. -/
def EntryShape.of (entry : String × Argument) : EntryShape :=
  match Operator.nameOfKey? entry.1, entry.2 with
  | some name, argument =>
    .comparison name (comparisonShape argument.values).1 (comparisonShape argument.values).2
  | none, .scalar value => .plain entry.1 (some value.isNull)
  | none, .list _ => .plain entry.1 none

/-- The shape of criteria: those of its entries. -/
def Criteria.shape (criteria : Criteria) : List EntryShape := criteria.entries.map EntryShape.of

/-- The shape of a partition: its columns, and which of them are to be without a value. -/
def Partition.shape (partition : Partition) : List (String × Bool) :=
  partition.attributes.map fun held => (held.1, held.2.isNull)

/-- The shape of a request: what is left of it without its values. -/
structure RequestShape where
  criteria : Option (List EntryShape)
  partition : Option (List (String × Bool))
  sort : Option SortOrder
  /-- Whether the term is blank. -/
  term : Option Bool
  deriving DecidableEq

/-- The column that an entry names. -/
def EntryShape.column? : EntryShape → Option String
  | .plain column _ => some column
  | .comparison _ column? _ => column?

namespace RequestShape

/-- The columns that are named to say which rows are meant. -/
def columns (shape : RequestShape) : List String :=
  (shape.criteria.getD []).filterMap EntryShape.column? ++ (shape.partition.getD []).map Prod.fst

/-- The columns that are named to say how they are sorted. -/
def sortColumns (shape : RequestShape) : List String :=
  (shape.sort.elim [] SortOrder.pairs).map Prod.fst

end RequestShape

/-- The shape of a request. -/
def Request.shape (request : Request) : RequestShape where
  criteria := request.criteria.map Criteria.shape
  partition := request.partition.map Partition.shape
  sort := request.sort
  term := request.term.map isBlankText

/-! ### Outcomes that agree -/

section Agreement

variable {ε α β γ δ κ : Type}

/-- Steps that agree, on results that agree, agree one after the other: in what they fail with, and
in what `reduce` leaves of their results. -/
theorem Engine.bind_agrees {first second : Except ε α} {next further : α → Except ε β}
    {leave : α → γ} {reduce : β → δ} (firsts : first.map leave = second.map leave)
    (nexts : ∀ left right, leave left = leave right →
      (next left).map reduce = (further right).map reduce) :
    (first >>= next).map reduce = (second >>= further).map reduce := by
  cases first with
  | error problem =>
    cases second with
    | error other =>
      cases firsts
      rfl
    | ok right => cases firsts
  | ok left =>
    cases second with
    | error other => cases firsts
    | ok right => exact nexts left right (Except.ok.inj firsts)

/-- Making something of each item agrees on lists of items that agree. -/
theorem Engine.map_m_agrees {make further : α → Except ε β} {key : α → κ} {reduce : β → δ}
    (each : ∀ left right, key left = key right →
      (make left).map reduce = (further right).map reduce)
    {lefts rights : List α} (same : lefts.map key = rights.map key) :
    (lefts.mapM make).map (List.map reduce) = (rights.mapM further).map (List.map reduce) := by
  induction lefts generalizing rights with
  | nil =>
    rw [List.map_eq_nil_iff.mp same.symm]
    rfl
  | cons left lefts inductionHypothesis =>
    cases rights with
    | nil => cases same
    | cons right rights =>
      obtain ⟨heads, tails⟩ := List.cons.inj same
      rw [List.mapM_cons, List.mapM_cons]
      refine bind_agrees (each left right heads) fun made other one => ?_
      refine bind_agrees (inductionHypothesis tails) fun rest others more => ?_
      exact congrArg Except.ok (congrArg₂ List.cons one more)

end Agreement

/-! ### Conditions of one shape -/

namespace Condition

variable {table : Table} {source : Option String}

/-- The skeleton of an equality depends on its column and on whether it asks for null. -/
theorem equality_skeleton (column : String) {left right : Value}
    (same : left.isNull = right.isNull) :
    (equality table source column left).map Expression.skeleton =
      (equality table source column right).map Expression.skeleton := by
  unfold equality
  rw [same]
  cases table.requireColumn column with
  | error problem => rfl
  | ok _ => cases right.isNull <;> rfl

/-- The skeleton of a comparison does not depend on its operand but for whether it is null. -/
theorem comparison_skeleton (operator : Operator) (column : String) {left right : Value}
    (same : left.isNull = right.isNull) :
    (comparison source operator column left).map Expression.skeleton =
      (comparison source operator column right).map Expression.skeleton := by
  unfold comparison
  rw [same]
  cases operator <;> cases right.isNull <;> rfl

/-- Operands of which the same are null are as many, and a single one is compared in one way. -/
theorem operands_skeleton (operator : Operator) (column : String) {left right : List Value}
    (same : left.map Value.isNull = right.map Value.isNull) :
    (ofOperator table source operator (.text column :: left)).map Expression.skeleton =
      (ofOperator table source operator (.text column :: right)).map Expression.skeleton := by
  have lengths : left.length = right.length := by simpa using congrArg List.length same
  have candidates : (left.map Value.stored).map (fun _ => ()) =
      (right.map Value.stored).map fun _ => () := by
    rw [List.map_const', List.map_const', List.length_map, List.length_map, lengths]
  have together : ∀ values : List Value, Expression.skeleton
      (.oneOf false (.column source column) (values.map Value.stored)) =
        .oneOf false (.column source column) ((values.map Value.stored).map fun _ => ()) :=
    fun _ => rfl
  simp only [ofOperator]
  cases table.requireColumn column with
  | error problem => rfl
  | ok _ =>
    cases left with
    | nil =>
      obtain rfl : right = [] := List.length_eq_zero_iff.mp lengths.symm
      rfl
    | cons first rest =>
      cases right with
      | nil => cases lengths
      | cons other others =>
        cases operator with
        | oneOf =>
          simp only [List.isEmpty_cons, Bool.false_eq_true, if_false]
          change Except.ok (Expression.skeleton _) = Except.ok (Expression.skeleton _)
          rw [together, together, candidates]
        | _ =>
          cases rest with
          | nil =>
            obtain rfl : others = [] := List.length_eq_zero_iff.mp (by simpa using lengths.symm)
            exact comparison_skeleton _ column (List.cons.inj same).1
          | cons second more =>
            cases others with
            | nil => simp at lengths
            | cons next further =>
              simp only [lengths]

/-- Arguments that name no column are refused. -/
theorem of_operator_unnamed (operator : Operator) {values : List Value}
    (unnamed : (comparisonShape values).1 = none) :
    ofOperator table source operator values = .error (.invalidQuery
      ("`" ++ operator.key ++ "` expects a column name as its first argument")) := by
  cases values with
  | nil => rfl
  | cons first operands =>
    cases first with
    | text column => cases unnamed
    | _ => rfl

/-- The skeleton of what an operator compiles to depends on the shape of its operands. -/
theorem of_operator_skeleton (operator : Operator) {left right : List Value}
    (same : comparisonShape left = comparisonShape right) :
    (ofOperator table source operator left).map Expression.skeleton =
      (ofOperator table source operator right).map Expression.skeleton := by
  have named : ∀ {values : List Value} {column : String},
      (comparisonShape values).1 = some column → ∃ operands, values = .text column :: operands := by
    intro values column names
    unfold comparisonShape at names
    split at names
    · cases names
      exact ⟨_, rfl⟩
    · cases names
  cases names : (comparisonShape left).1 with
  | none => rw [of_operator_unnamed operator names, of_operator_unnamed operator (same ▸ names)]
  | some column =>
    obtain ⟨operands, rfl⟩ := named names
    obtain ⟨others, rfl⟩ := named (same ▸ names)
    exact operands_skeleton operator column (Prod.mk.inj same).2

/-- Entries of one shape compile to one skeleton. -/
theorem of_entry_skeleton {left right : String × Argument}
    (same : EntryShape.of left = EntryShape.of right) :
    (ofEntry table source left).map Expression.skeleton =
      (ofEntry table source right).map Expression.skeleton := by
  obtain ⟨leftKey, leftArgument⟩ := left
  obtain ⟨rightKey, rightArgument⟩ := right
  simp only [EntryShape.of] at same
  simp only [ofEntry]
  cases leftName : Operator.nameOfKey? leftKey with
  | some name =>
    cases rightName : Operator.nameOfKey? rightKey with
    | some other =>
      simp only [leftName, rightName, EntryShape.comparison.injEq] at same
      obtain ⟨rfl, columns, nulls⟩ := same
      cases parsed : Operator.parse name with
      | error problem =>
        simp only [parsed]
        rfl
      | ok operator =>
        simp only [parsed]
        exact of_operator_skeleton operator (Prod.ext columns nulls)
    | none =>
      simp only [leftName, rightName] at same
      cases rightArgument <;> cases same
  | none =>
    cases rightName : Operator.nameOfKey? rightKey with
    | some other =>
      simp only [leftName, rightName] at same
      cases leftArgument <;> cases same
    | none =>
      simp only [leftName, rightName] at same
      cases leftArgument with
      | scalar value =>
        cases rightArgument with
        | scalar other =>
          obtain ⟨rfl, nulls⟩ := EntryShape.plain.inj same
          exact equality_skeleton leftKey (Option.some.inj nulls)
        | list others => cases same
      | list values =>
        cases rightArgument with
        | scalar other => cases same
        | list others =>
          obtain ⟨rfl, -⟩ := EntryShape.plain.inj same
          rfl

/-- An entry that compiles names a column of the table. -/
theorem of_entry_known {entry : String × Argument} {condition : Condition}
    (made : ofEntry table source entry = .ok condition) :
    ∀ column ∈ (EntryShape.of entry).column?, table.hasColumn column = true := by
  intro column named
  obtain ⟨key, argument⟩ := entry
  simp only [ofEntry] at made
  simp only [EntryShape.of] at named
  cases called : Operator.nameOfKey? key with
  | some name =>
    simp only [called] at made named
    obtain ⟨operator, -, made⟩ := bind_ok made
    obtain ⟨given, operands, isColumn, known, -⟩ := Demand.of_operator_compiled made
    rw [isColumn] at named
    cases named
    exact known
  | none =>
    simp only [called] at made named
    cases argument with
    | list values => cases made
    | scalar value =>
      cases named
      exact (Demand.equality_compiled made).1

end Condition

section Conditions

variable {table : Table} {source : Option String}

/-- Criteria of one shape compile to conditions of the same skeletons, or are refused alike. -/
theorem Criteria.conditions_skeleton {left right : Criteria} (same : left.shape = right.shape) :
    (left.conditions table source).map (List.map Expression.skeleton) =
      (right.conditions table source).map (List.map Expression.skeleton) := by
  have lengths : left.entries.length = right.entries.length := by
    simpa [shape] using congrArg List.length same
  have empty : left.isEmpty = right.isEmpty := by
    rw [isEmpty, isEmpty, Bool.eq_iff_iff, List.isEmpty_iff_length_eq_zero,
      List.isEmpty_iff_length_eq_zero, lengths]
  unfold conditions
  rw [empty]
  split
  · rfl
  · exact map_m_agrees (fun _ _ => Condition.of_entry_skeleton) same

/-- So do partitions of one shape. -/
theorem Partition.conditions_skeleton {left right : Partition} (same : left.shape = right.shape) :
    (left.conditions table source).map (List.map Expression.skeleton) =
      (right.conditions table source).map (List.map Expression.skeleton) := by
  refine map_m_agrees (fun held other one => ?_) same
  obtain ⟨column, nulls⟩ := Prod.mk.inj one
  rw [column]
  exact Condition.equality_skeleton other.1 nulls

/-- So do the conditions of optional criteria, which are none without criteria. -/
theorem Criteria.optional_skeleton {left right : Option Criteria}
    (same : left.map shape = right.map shape) :
    (left.elim (.ok []) fun criteria => criteria.conditions table source).map
        (List.map Expression.skeleton) =
      (right.elim (.ok []) fun criteria => criteria.conditions table source).map
        (List.map Expression.skeleton) := by
  cases left with
  | none => rw [Option.map_eq_none_iff.mp same.symm]
  | some criteria =>
    obtain ⟨other, rfl, shapes⟩ := Option.map_eq_some_iff.mp same.symm
    exact conditions_skeleton shapes.symm

/-- So do partitions that may be missing. -/
theorem Partition.optional_skeleton {left right : Option Partition}
    (same : left.map shape = right.map shape) :
    (left.elim (.ok []) fun partition => partition.conditions table source).map
        (List.map Expression.skeleton) =
      (right.elim (.ok []) fun partition => partition.conditions table source).map
        (List.map Expression.skeleton) := by
  cases left with
  | none => rw [Option.map_eq_none_iff.mp same.symm]
  | some partition =>
    obtain ⟨other, rfl, shapes⟩ := Option.map_eq_some_iff.mp same.symm
    exact conditions_skeleton shapes.symm

/-- The skeleton of a conjunction is made of the skeletons of its parts. -/
theorem conjunction?_skeleton {left right : List Condition}
    (same : left.map Expression.skeleton = right.map Expression.skeleton) :
    (Expression.conjunction? left).map Expression.skeleton =
      (Expression.conjunction? right).map Expression.skeleton := by
  unfold Expression.skeleton at *
  rw [Expression.conjunction?_map_operands, Expression.conjunction?_map_operands, same]

/-- What is stated of one shape is stated in one skeleton. -/
theorem stated_condition?_skeleton {criteria others : Option Criteria}
    {partition further : Option Partition}
    (asked : criteria.map Criteria.shape = others.map Criteria.shape)
    (confined : partition.map Partition.shape = further.map Partition.shape) :
    (statedCondition? criteria partition table source).map (Option.map Expression.skeleton) =
      (statedCondition? others further table source).map (Option.map Expression.skeleton) := by
  have stated :
      (statedConditions criteria partition table source).map (List.map Expression.skeleton) =
        (statedConditions others further table source).map (List.map Expression.skeleton) := by
    rw [stated_conditions_eq, stated_conditions_eq]
    refine bind_agrees (Partition.optional_skeleton confined) fun ofThese ofThose one => ?_
    refine bind_agrees (Criteria.optional_skeleton asked) fun these those other => ?_
    simp only [Except.map, List.map_append, one, other]
  exact bind_agrees stated fun these those same =>
    congrArg Except.ok (conjunction?_skeleton same)

/-- The skeletons of what makes a row belong to a copy are those of what is asked of the row. -/
theorem Table.belonging_skeleton {left right : List Condition}
    (same : left.map Expression.skeleton = right.map Expression.skeleton) :
    (table.belonging left).map Expression.skeleton =
      (table.belonging right).map Expression.skeleton := by
  have whole : ∀ condition : Option Condition, condition.toList.map Expression.skeleton =
      (condition.map Expression.skeleton).toList := by
    intro condition
    cases condition <;> rfl
  unfold belonging
  rw [List.map_append, List.map_append, whole, whole, conjunction?_skeleton same]

end Conditions

/-! ### Queries of one shape -/

namespace Request

variable {table : Table} {left right : Request}

/-- Plain requests of one shape compile to rows of one skeleton, or are refused alike. -/
theorem plain_rows_skeleton (same : left.shape = right.shape) :
    (left.plainRows table).map Select.skeleton = (right.plainRows table).map Select.skeleton := by
  refine bind_agrees (stated_condition?_skeleton (congrArg RequestShape.criteria same)
    (congrArg RequestShape.partition same)) fun condition other conditions => ?_
  have filtered : ∀ condition : Option Condition, Select.skeleton {
      columns := [], source := some ⟨table.name, none⟩,
      conditions := condition.map fun condition => [condition] } = {
      columns := [], source := some ⟨table.name, none⟩,
      conditions := (condition.map Expression.skeleton).map fun condition => [condition] } := by
    intro condition
    cases condition <;> rfl
  change Except.ok (Select.skeleton _) = Except.ok (Select.skeleton _)
  rw [filtered, filtered, conditions]

/-- Which attribute is not carried depends on the columns alone. -/
theorem uncarried?_shape {partition other : Partition} (same : partition.shape = other.shape) :
    uncarried? partition table = uncarried? other table := by
  have told : ∀ partition : Partition, uncarried? partition table =
      (partition.shape.find? fun held => !table.carriedColumns.contains held.1).map Prod.fst := by
    intro partition
    unfold uncarried? Partition.shape
    rw [List.find?_map, Option.map_map]
    rfl
  rw [told, told, same]

/-- The conditions on copies have the same skeletons for requests of one shape. -/
theorem shadow_conditions_skeleton (same : left.shape = right.shape) :
    (left.shadowConditions table).map (List.map Expression.skeleton) =
      (right.shadowConditions table).map (List.map Expression.skeleton) := by
  have partitions : left.partition.map Partition.shape = right.partition.map Partition.shape :=
    congrArg RequestShape.partition same
  unfold shadowConditions
  cases given : left.partition with
  | none =>
    rw [given] at partitions
    rw [Option.map_eq_none_iff.mp partitions.symm]
  | some partition =>
    rw [given] at partitions
    obtain ⟨other, found, shapes⟩ := Option.map_eq_some_iff.mp partitions.symm
    simp only [found, uncarried?_shape shapes]
    cases uncarried? partition table with
    | some column => rfl
    | none => exact Partition.conditions_skeleton shapes.symm

/-- Requests of one shape with terms of which both or none is blank compile to rows of one
skeleton. -/
theorem matched_rows_skeleton (same : left.shape = right.shape) {term other : String}
    (blank : isBlankText term = isBlankText other) :
    (left.matchedRows table term).map Select.skeleton =
      (right.matchedRows table other).map Select.skeleton := by
  have sought : ∀ (request : Request) (term : String), table.isAnalyzed = true →
      isBlankText term = false → request.matchedRows table term =
        ((request.criteria.elim (.ok []) fun criteria =>
            criteria.conditions table (some tableAlias)) >>= fun asked =>
          request.shadowConditions table >>= fun confined =>
            .ok (table.pairsQuery asked confined term)) := by
    intro request term analyzed present
    unfold matchedRows
    rw [analyzed, present]
    cases request.criteria <;> rfl
  have paired : ∀ (asked confined : List Condition) (term : String),
      (table.pairsQuery asked confined term).skeleton = {
        columns := []
        source := some ⟨table.shadowName, some shadowAlias⟩
        joins := [⟨⟨table.name, some tableAlias⟩,
          some ((table.belonging asked).map Expression.skeleton)⟩]
        conditions := some (confined.map Expression.skeleton ++
          [.matching (some shadowAlias) table.shadowName ()]) } := by
    intro asked confined term
    simp only [Table.pairsQuery, Select.skeleton, Select.mapOperands, mapConditions,
      List.map_append, Option.map_some]
    rfl
  cases analyzed : table.isAnalyzed with
  | false =>
    unfold matchedRows
    rw [analyzed]
    rfl
  | true =>
    cases present : isBlankText other with
    | true =>
      unfold matchedRows
      rw [analyzed, blank, present]
      rfl
    | false =>
      rw [sought left term analyzed (blank.trans present), sought right other analyzed present]
      refine bind_agrees (Criteria.optional_skeleton (congrArg RequestShape.criteria same))
        fun these those ones => ?_
      refine bind_agrees (shadow_conditions_skeleton same) fun ofThese ofThose others => ?_
      change Except.ok (Select.skeleton _) = Except.ok (Select.skeleton _)
      rw [paired, paired, Table.belonging_skeleton ones, others]

/-- Requests of one shape compile to rows of one skeleton, or are refused alike. -/
theorem rows_skeleton (same : left.shape = right.shape) :
    (left.rows table).map Select.skeleton = (right.rows table).map Select.skeleton := by
  have terms : left.term.map isBlankText = right.term.map isBlankText :=
    congrArg RequestShape.term same
  cases given : left.term with
  | none =>
    rw [given] at terms
    rw [rows_plain given, rows_plain (Option.map_eq_none_iff.mp terms.symm)]
    exact plain_rows_skeleton same
  | some term =>
    rw [given] at terms
    obtain ⟨other, found, blank⟩ := Option.map_eq_some_iff.mp terms.symm
    rw [rows_asking given, rows_asking found]
    exact matched_rows_skeleton same blank.symm

/-- The shape of a request decides under which source its columns stand. -/
theorem source_shape (same : left.shape = right.shape) : left.source = right.source := by
  have terms : left.term.map isBlankText = right.term.map isBlankText :=
    congrArg RequestShape.term same
  have told : ∀ request : Request,
      request.source = (request.term.map isBlankText).map fun _ => tableAlias := by
    intro request
    rw [Option.map_map]
    rfl
  rw [told, told, terms]

/-- The order of a request is the same for requests of one shape. -/
theorem ordering_shape (same : left.shape = right.shape) :
    left.ordering table = right.ordering table := by
  have sorts : left.sort = right.sort := congrArg RequestShape.sort same
  have terms : left.term.map isBlankText = right.term.map isBlankText :=
    congrArg RequestShape.term same
  unfold ordering
  rw [sorts, source_shape same]
  cases right.sort with
  | some sort => rfl
  | none =>
    cases given : left.term with
    | none =>
      rw [given] at terms
      rw [Option.map_eq_none_iff.mp terms.symm]
    | some term =>
      rw [given] at terms
      obtain ⟨other, found, -⟩ := Option.map_eq_some_iff.mp terms.symm
      rw [found]

/-- Requests of one shape count with one skeleton, or they are refused with the same words. -/
theorem counting_skeleton (same : left.shape = right.shape) :
    (left.counting table).map Select.skeleton = (right.counting table).map Select.skeleton := by
  refine bind_agrees (rows_skeleton same) fun query other one => ?_
  exact congrArg (fun rows : Select Unit =>
    Except.ok { rows with columns := [.computed .countRows none "COUNT(*)"] }) one

/-- So they do when they ask for a page, whichever pages that are. -/
theorem finding_skeleton (same : left.shape = right.shape) (page another : Page) :
    (left.finding table page).map Select.skeleton =
      (right.finding table another).map Select.skeleton := by
  refine bind_agrees (rows_skeleton same) fun query other one => ?_
  have orders : (left.ordering table).map id = (right.ordering table).map id := by
    rw [ordering_shape same]
  refine bind_agrees orders fun keys others order => ?_
  obtain rfl : keys = others := order
  have asked : ∀ (request : Request) (page : Page) (rows : Select Stored),
    Select.skeleton { rows with
      columns := resultColumns table request.source
      ordering := keys
      limit := some (.operand (.integer page.limit))
      offset := some (.operand (.integer page.offset)) } = { rows.skeleton with
        columns := (resultColumns table request.source).map (ResultColumn.mapOperands fun _ => ())
        ordering := keys.map fun key => ⟨key.expression.skeleton, key.direction⟩
        limit := some (.operand ())
        offset := some (.operand ()) } := fun _ _ _ => rfl
  change Except.ok (Select.skeleton _) = Except.ok (Select.skeleton _)
  rw [asked, asked, one, source_shape same]

/-! ### Columns that a shape names -/

/-- What compiles names columns of the table. -/
theorem mem_columns_of_compiled {request : Request} {source other : Option String}
    {asked confined : List Condition}
    (askedMade : (request.criteria.elim (.ok []) fun criteria => criteria.conditions table source) =
      .ok asked)
    (confinedMade : (request.partition.elim (.ok []) fun partition =>
      partition.conditions table other) = .ok confined) :
    ∀ column ∈ request.shape.columns, column ∈ table.columnNames := by
  intro column named
  rcases List.mem_append.mp named with ofCriteria | ofPartition
  · cases given : request.criteria with
    | none =>
      simp only [shape, given] at ofCriteria
      cases ofCriteria
    | some criteria =>
      rw [given] at askedMade
      have compiled : criteria.entries.mapM (Condition.ofEntry table source) = .ok asked := by
        simp only [Option.elim_some, Criteria.conditions] at askedMade
        split at askedMade
        · cases askedMade
        · exact askedMade
      simp only [shape, given, Option.map_some, Option.getD_some, Criteria.shape] at ofCriteria
      obtain ⟨_, among, names⟩ := List.mem_filterMap.mp ofCriteria
      obtain ⟨entry, member, rfl⟩ := List.mem_map.mp among
      have each := is_ok_map_m (Condition.ofEntry table source) criteria.entries
      rw [compiled] at each
      obtain ⟨condition, made⟩ := exists_of_is_ok (List.all_eq_true.mp each.symm entry member)
      exact Table.mem_column_names_of_has_column (Condition.of_entry_known made column names)
  · cases given : request.partition with
    | none =>
      simp only [shape, given] at ofPartition
      cases ofPartition
    | some partition =>
      rw [given] at confinedMade
      simp only [shape, given, Option.map_some, Option.getD_some, Partition.shape, List.map_map]
        at ofPartition
      obtain ⟨held, member, rfl⟩ := List.mem_map.mp ofPartition
      have each := partition.conditions_is_ok table other
      rw [Option.elim_some] at confinedMade
      rw [confinedMade] at each
      exact Table.mem_column_names_of_has_column (List.all_eq_true.mp each.symm held member)

/-- The columns that a request names are columns of the table if it compiles. -/
theorem rows_names {request : Request} {query : Select Stored}
    (made : request.rows table = .ok query) :
    ∀ column ∈ request.shape.columns, column ∈ table.columnNames := by
  cases asks : request.term with
  | none =>
    rw [rows_plain asks] at made
    obtain ⟨conditions, stated, -⟩ := plain_rows_ok made
    obtain ⟨confined, asked, -, confinedMade, askedMade⟩ := stated_conditions_ok stated
    exact mem_columns_of_compiled askedMade confinedMade
  | some term =>
    rw [rows_asking asks] at made
    obtain ⟨-, -, asked, confined, askedMade, confinedMade, -⟩ := matched_rows_ok made
    exact mem_columns_of_compiled askedMade (shadow_conditions_ok confinedMade).1

/-- Of what a caller wrote, the names of columns of the table are all that comes into a query. -/
theorem finding_names {request : Request} {page : Page} {query : Select Stored}
    (made : request.finding table page = .ok query) :
    ∀ column ∈ request.shape.columns ++ request.shape.sortColumns, column ∈ table.columnNames := by
  obtain ⟨rows, keys, rowsMade, keysMade, -⟩ := finding_ok made
  refine List.forall_mem_append.mpr ⟨rows_names rowsMade, fun column named => ?_⟩
  obtain ⟨sort, sorts, -, known, -⟩ | ⟨unsorted, -⟩ | ⟨unsorted, -⟩ := ordering_ok keysMade
  · simp only [RequestShape.sortColumns, shape, sorts, Option.elim_some] at named
    obtain ⟨pair, member, rfl⟩ := List.mem_map.mp named
    exact Table.mem_column_names_of_has_column (known pair member)
  · simp only [RequestShape.sortColumns, shape, unsorted] at named
    cases named
  · simp only [RequestShape.sortColumns, shape, unsorted] at named
    cases named

end Request

end RecordStore
