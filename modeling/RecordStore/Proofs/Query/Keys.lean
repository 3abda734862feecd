import RecordStore.Proofs.Query.Plain
import RecordStore.Store.Row

/-!
# The row of a key

The key of an entity asks of each key column that it equal what the entity holds there. If one row
of a table meets that, the query for the first such row answers with its values.
-/

namespace RecordStore

open Engine Sql

/-! ### Entries under keys -/

section Entries

variable {α : Type} {key : String} {entries : List (String × α)}

/-- A key that has an entry has a first one. -/
theorem exists_find?_entry (named : ∃ entry ∈ entries, entry.1 = key) :
    ∃ entry ∈ entries, entry.1 = key ∧
      (entries.find? fun candidate => candidate.1 == key) = some entry := by
  have search : (entries.find? fun candidate => candidate.1 == key).isSome = true := by
    rw [List.find?_isSome]
    simpa using named
  obtain ⟨entry, found⟩ := Option.isSome_iff_exists.mp search
  exact ⟨entry, List.mem_of_find?_eq_some found, by simpa using List.find?_some found, found⟩

/-- The entry of a key, for entries of different keys. -/
theorem find?_entry_iff (distinct : (entries.map Prod.fst).Nodup) {entry : String × α} :
    (entries.find? fun candidate => candidate.1 == key) = some entry ↔
      entry ∈ entries ∧ entry.1 = key := by
  constructor
  · intro found
    exact ⟨List.mem_of_find?_eq_some found, by simpa using List.find?_some found⟩
  · rintro ⟨member, rfl⟩
    obtain ⟨found, among, named, finds⟩ := exists_find?_entry ⟨entry, member, rfl⟩
    rw [finds, List.inj_on_of_nodup_map distinct among member named]

/-- An entry under a new key goes behind all others. -/
theorem put_entry_new (value : α) (new : key ∉ entries.map Prod.fst) :
    putEntry key value entries = entries ++ [(key, value)] := by
  induction entries with
  | nil => rfl
  | cons entry rest inductionHypothesis =>
    rw [List.map_cons, List.mem_cons, not_or] at new
    have other : (entry.1 == key) = false := by simpa using Ne.symm new.1
    rw [putEntry, other, inductionHypothesis new.2]
    rfl

end Entries

/-! ### The criteria of a key -/

/-- A name that stands without quotes does not start with the operator sign. -/
theorem Operator.name_of_key?_none {name : String} (identifier : isIdentifier name = true) :
    nameOfKey? name = none := by
  obtain ⟨first, rest, shape, start, -⟩ :=
    Token.plain_word_cases (is_name_of_is_identifier identifier).1
  have noSign : (first == sign) = false := by
    rw [beq_eq_false_iff_ne]
    rintro rfl
    revert start
    decide
  unfold nameOfKey?
  rw [shape]
  simp [noSign]

/-- The criteria that columns equal what is given for them. -/
def Criteria.equating (given : String → Value) (columns : List String) : Criteria :=
  ⟨columns.map fun column => (column, .scalar (given column))⟩

/-- What a key gives for a column. -/
def Key.value (key : Key) (column : String) : Value :=
  match key with
  | .single value => value
  | .composite parts => ((parts.find? fun part => part.1 == column).map Prod.snd).getD .null

section Criteria

variable {model : Model} {table : Table} {entity : Entity model} {given : String → Value}

/-- The criteria with the part of a key for one more column. -/
def Criteria.withPart (parts : List (String × Value)) (criteria : Criteria) (column : String) :
    Except StoreError Criteria :=
  match parts.find? fun part => part.1 == column with
  | some part => .ok (criteria.equals column part.2)
  | none => .error (.invalidQuery ("key column `" ++ column ++ "` is missing"))

/-- The parts of a key become the criteria one after the other. -/
theorem Criteria.with_parts (before : List String) {parts : List (String × Value)}
    {columns : List String}
    (named : ∀ column ∈ columns, (parts.find? fun part => part.1 == column) =
      some (column, given column)) (distinct : (before ++ columns).Nodup) :
    columns.foldlM (Criteria.withPart parts) (Criteria.equating given before) =
      .ok (Criteria.equating given (before ++ columns)) := by
  induction columns generalizing before with
  | nil =>
    rw [List.append_nil]
    rfl
  | cons column rest inductionHypothesis =>
    have new : column ∉ before := fun member =>
      (List.nodup_append.mp distinct).2.2 column member column List.mem_cons_self rfl
    have step : (Criteria.equating given before).equals column (given column) =
        Criteria.equating given (before ++ [column]) := by
      unfold Criteria.equals Criteria.insert Criteria.equating
      rw [put_entry_new _ (by simpa [Function.comp_def] using new), List.map_append]
      rfl
    have first : Criteria.withPart parts (Criteria.equating given before) column =
        .ok (Criteria.equating given (before ++ [column])) := by
      unfold Criteria.withPart
      rw [named column List.mem_cons_self, ← step]
    have shifted : before ++ column :: rest = before ++ [column] ++ rest := by simp
    rw [shifted] at distinct ⊢
    rw [List.foldlM_cons, first]
    exact inductionHypothesis _
      (fun other member => named other (List.mem_cons_of_mem column member)) distinct

/-- Only a column that has its part lets the next one be looked at. -/
theorem Criteria.with_parts_named {parts : List (String × Value)} {columns : List String}
    {before criteria : Criteria}
    (folded : columns.foldlM (Criteria.withPart parts) before = .ok criteria) :
    ∀ column ∈ columns, (parts.find? fun part => part.1 == column) =
      some (column, (Key.composite parts).value column) := by
  induction columns generalizing before with
  | nil => exact nofun
  | cons first rest inductionHypothesis =>
    rw [List.foldlM_cons] at folded
    obtain ⟨next, here, later⟩ := bind_ok folded
    refine List.forall_mem_cons.mpr ⟨?_, inductionHypothesis later⟩
    unfold Criteria.withPart at here
    cases found : parts.find? fun part => part.1 == first with
    | none =>
      rw [found] at here
      cases here
    | some part =>
      obtain rfl : part.1 = first := by simpa using List.find?_some found
      simp only [Key.value, found, Option.map_some, Option.getD_some]

/-- The key of an entity asks that each key column equal what the entity holds there. -/
theorem Entity.key_criteria (keyed : table.primaryKey ≠ []) (distinct : table.primaryKey.Nodup) :
    (entity.key table).criteria table = .ok (Criteria.equating entity.get table.primaryKey) := by
  have some : table.primaryKey.isEmpty = false := by simpa using keyed
  unfold Entity.key Key.criteria
  rw [some]
  cases columns : table.primaryKey with
  | nil => exact absurd columns keyed
  | cons first rest =>
    cases rest with
    | nil => rfl
    | cons second others =>
      rw [columns] at distinct
      have known : ((first :: second :: others).map fun column => (column, entity.get column)).find?
          (fun part => !(first :: second :: others).contains part.1) = none := by
        rw [List.find?_eq_none]
        intro part member
        obtain ⟨column, among, rfl⟩ := List.mem_map.mp member
        rw [List.contains_iff_mem.mpr among]
        exact Bool.false_ne_true
      simp only [Bool.false_eq_true, if_false, known]
      refine Criteria.with_parts [] (fun column member => ?_) distinct
      have search : (((first :: second :: others).map fun column =>
          (column, entity.get column)).find? fun part => part.1 == column).isSome = true := by
        rw [List.find?_isSome]
        exact ⟨_, List.mem_map_of_mem member, by simp⟩
      obtain ⟨part, finds⟩ := Option.isSome_iff_exists.mp search
      obtain ⟨other, -, rfl⟩ := List.mem_map.mp (List.mem_of_find?_eq_some finds)
      have same : other = column := by simpa using List.find?_some finds
      rw [finds, same]

/-- A key that is accepted asks that each key column equal what the key gives for it. -/
theorem Key.criteria_ok {key : Key} {criteria : Criteria} (distinct : table.primaryKey.Nodup)
    (accepts : key.criteria table = .ok criteria) :
    table.primaryKey ≠ [] ∧ criteria = Criteria.equating key.value table.primaryKey := by
  unfold Key.criteria at accepts
  by_cases empty : table.primaryKey.isEmpty = true
  · rw [if_pos empty] at accepts
    cases accepts
  · rw [if_neg empty] at accepts
    refine ⟨by simpa using empty, ?_⟩
    cases key with
    | single value =>
      dsimp only at accepts
      split at accepts
      · rename_i column alone
        cases accepts
        rw [alone]
        rfl
      · cases accepts
    | composite parts =>
      dsimp only at accepts
      split at accepts
      · cases accepts
      · have folds := Criteria.with_parts [] (Criteria.with_parts_named accepts) distinct
        exact Except.ok.inj (accepts.symm.trans folds)

/-- The criteria of a key compile, and a row meets them exactly if each key column equals what is
given for it. -/
theorem Criteria.equating_compiles (given : String → Value) {columns : List String}
    (nonempty : columns ≠ []) (known : ∀ column ∈ columns, table.hasColumn column = true ∧
      Operator.nameOfKey? column = none) :
    (∃ conditions,
      statedConditions (some (Criteria.equating given columns)) none table none = .ok conditions) ∧
      ∀ values, (Criteria.equating given columns).isMetIn table values =
        columns.all fun column => Demand.isMetIn table values ⟨column, .equal, [given column]⟩ := by
  constructor
  · have each : ∀ columns : List String, (∀ column ∈ columns, table.hasColumn column = true ∧
        Operator.nameOfKey? column = none) → ∃ conditions,
        (Criteria.equating given columns).entries.mapM (Condition.ofEntry table none) =
          .ok conditions := by
      intro columns
      induction columns with
      | nil => exact fun _ => ⟨[], rfl⟩
      | cons column rest inductionHypothesis =>
        intro known
        obtain ⟨has, plain⟩ := known column List.mem_cons_self
        obtain ⟨conditions, made⟩ := inductionHypothesis fun other member =>
          known other (List.mem_cons_of_mem column member)
        have first : ∃ condition, Condition.ofEntry table none
            (column, .scalar (given column)) = .ok condition := by
          unfold Condition.ofEntry Condition.equality Table.requireColumn
          simp only [plain, has, if_true, bind, Except.bind]
          split <;> exact ⟨_, rfl⟩
        obtain ⟨condition, makes⟩ := first
        refine ⟨condition :: conditions, ?_⟩
        change List.mapM _ ((column, .scalar (given column)) ::
          (Criteria.equating given rest).entries) = _
        rw [List.mapM_cons, makes, made]
        rfl
    obtain ⟨conditions, made⟩ := each columns known
    have asks : (Criteria.equating given columns).isEmpty = false := by
      simpa [Criteria.isEmpty, Criteria.equating] using nonempty
    refine ⟨conditions, ?_⟩
    unfold statedConditions Criteria.conditions
    simp only [asks, made, bind, Except.bind, pure, Except.pure]
    rfl
  · intro values
    unfold Criteria.isMetIn Criteria.equating
    rw [List.all_map, Bool.eq_iff_iff, List.all_eq_true, List.all_eq_true]
    refine forall₂_congr fun column member => ?_
    simp [Demand.ofEntry?, (known column member).2]

/-- The key columns of a table are its own, and their names are no operators. -/
theorem Table.primary_key_plain (admitted : table.IsAdmitted) (distinct : table.columnNames.Nodup) :
    table.primaryKey.Nodup ∧ ∀ column ∈ table.primaryKey,
      table.hasColumn column = true ∧ Operator.nameOfKey? column = none := by
  refine ⟨distinct.sublist (List.filter_sublist.map Column.name), fun name inKey => ?_⟩
  obtain ⟨column, member, -, rfl⟩ := mem_primary_key.mp inKey
  exact ⟨has_column_of_mem (List.mem_map_of_mem member),
    Operator.name_of_key?_none (admitted.columns column member).identifier⟩

end Criteria

/-! ### The first row -/

/-- Items of which no two can stand beside each other are one item at most. -/
theorem few_of_pairwise {Item : Type} {Beside : Item → Item → Prop} {items : List Item}
    (pairwise : items.Pairwise Beside)
    (apart : ∀ left ∈ items, ∀ right ∈ items, ¬ Beside left right) : items.length ≤ 1 := by
  match items with
  | [] => exact Nat.zero_le 1
  | [_] => exact Nat.le_refl 1
  | left :: right :: _ =>
    have beside := (List.pairwise_cons.mp pairwise).1 right List.mem_cons_self
    exact absurd beside
      (apart left List.mem_cons_self right (List.mem_cons_of_mem left List.mem_cons_self))

/-- One item at most has only one order. -/
theorem eq_of_perm_of_few {Item : Type} {items others : List Item} (perm : items.Perm others)
    (few : others.length ≤ 1) : items = others := by
  match others with
  | [] => exact perm.eq_nil
  | [other] => exact List.perm_singleton.mp perm
  | _ :: _ :: _ => simp at few

namespace Table

/-- The query for the first row under a condition. -/
def firstQuery (table : Table) (condition : Option Condition) : Select Stored where
  columns := Request.resultColumns table none
  source := some ⟨table.name, none⟩
  conditions := condition.map fun condition => [condition]
  limit := some (.number 1)

/-- The same query for all rows. -/
def allQuery (table : Table) (condition : Option Condition) : Select Stored :=
  { table.firstQuery condition with limit := none }

variable {table : Table} {condition : Option Condition} {database : Database} {relation : Relation}

/-- The query for all rows asks the table alone, under its condition. -/
theorem all_query_asked (nonempty : table.columns ≠ []) :
    table.IsAskedBy condition (table.allQuery condition) where
  distinct := rfl
  nonempty := by simpa [allQuery, firstQuery, Request.resultColumns, columnNames] using nonempty
  columns _ member := by
    obtain ⟨name, among, rfl⟩ := List.mem_map.mp member
    exact .inr ⟨none, name, ⟨rfl, has_column_of_mem among⟩, rfl⟩
  source := rfl
  joins := rfl
  conditions := rfl
  grouping := rfl
  having := rfl
  ordering := nofun
  window := .inl ⟨rfl, rfl⟩

/-- The operands of the query for the first row are those of its condition. -/
theorem first_query_map_operands (replace : Stored → Stored) :
    (table.firstQuery condition).mapOperands replace =
      table.firstQuery (condition.map (Expression.mapOperands replace)) := by
  unfold Select.mapOperands firstQuery
  rw [Request.result_columns_map_operands]
  cases condition <;> rfl

section First

variable (held : table.IsReadIn database relation) (nonempty : table.columns ≠ [])
  (within : ∀ whole ∈ condition, whole.Within (table.NamesUnder none)) {meets : Row → Bool}
  (decides : ∀ row ∈ relation.rows,
    condition.all (holds [relation.binding table.name row]) = meets row)

include held nonempty within decides

/-- The query for the first row answers with the first one of the rows that meet the condition, in
some order. Proof: neither the names nor the scopes of a query depend on its limit, so it is the
query for all rows, cut after the first. -/
theorem select_first_query_listing :
    checkSelect database (table.firstQuery condition) = .ok () ∧
      ∃ listing : List Row, listing.Perm (relation.rows.filter meets) ∧
        select database (table.firstQuery condition) =
          .ok ⟨table.columnNames, (listing.take 1).map Row.values⟩ := by
  let query := table.firstQuery condition
  have asked : table.IsAskedBy condition (table.allQuery condition) := all_query_asked nonempty
  have alone : Engine.sources query = [] ++ [⟨table.name, none⟩] := asked.sources
  have columns : Engine.resultColumns database query =
      table.columnNames.map fun name => (name, .column none name) :=
    held.result_columns rfl alone nofun rfl
  have checked : checkSelect database query = .ok () := asked.checked held within
  let read := (rowsRead (table.allQuery condition) relation).filter meets
  have found : Engine.scopes database query =
      .ok (read.map fun row => [relation.binding table.name row]) := asked.scopes held decides
  have resolves : Engine.resolved database query = query := by
    refine resolved_eq rfl (fun column member => ?_) nofun
    obtain ⟨name, -, rfl⟩ := List.mem_map.mp member
    exact ⟨_, _, rfl⟩
  have ungrouped : answersForGroups query = false :=
    asked.ungrouped (Request.count_rows_not_mem table none) within
  have perm : read.Perm (relation.rows.filter meets) :=
    (rows_read_perm (table.allQuery condition) relation).filter meets
  have member : ∀ row ∈ read, row ∈ relation.rows :=
    fun row among => (List.mem_filter.mp (perm.subset among)).1
  have listed := held.select_rows resolves ungrouped rfl columns
    (fun row => row) found member
    (fun row among column known =>
      Scope.lookup?_first (held.lookup? table.name (member row among) known))
    (show query.limit.mapM bound = .ok (some 1) from rfl)
    (show query.offset.mapM bound = .ok none from rfl)
  let order (left right : Row) : Ordering :=
    scopeOrder query [relation.binding table.name left] [relation.binding table.name right]
  refine ⟨checked, inOrder order read, (in_order_perm read).trans perm, ?_⟩
  rw [List.map_take]
  exact listed

/-- If one row at most meets the condition, the query for the first one answers with its values. -/
theorem select_first_query (few : (relation.rows.filter meets).length ≤ 1) :
    checkSelect database (table.firstQuery condition) = .ok () ∧
      select database (table.firstQuery condition) =
        .ok ⟨table.columnNames, (relation.rows.filter meets).map Row.values⟩ := by
  obtain ⟨checked, listing, perm, selected⟩ :=
    select_first_query_listing held nonempty within decides
  rw [eq_of_perm_of_few perm few, List.take_of_length_le few] at selected
  exact ⟨checked, selected⟩

end First

end Table

/-- The query for the first row that satisfies criteria. -/
theorem Request.finding_one_ok {table : Table} {criteria : Criteria} {conditions : List Condition}
    (stated : statedConditions (some criteria) none table none = .ok conditions) :
    Request.findingOne table criteria =
      .ok (table.firstQuery (Expression.conjunction? conditions)) := by
  unfold findingOne
  rw [plain_rows_eq, stated]
  rfl

end RecordStore
