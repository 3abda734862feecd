import RecordStore.Proofs.Query.Tables
import RecordStore.Proofs.Sql.Wording
import RecordStore.Query.Mutation

/-!
# Wordings of requests

The wording of everything that is compiled for a table: which clause each question mark belongs to
and which value it stands for, told from the request, the criteria or the drawn values alone. The
conditions that criteria and a partition compile to have these wordings.
-/

namespace RecordStore

open Engine Sql Wording

/-! ### Wordings -/

/-- The sign of a comparison. -/
def Operator.symbol : Operator → String
  | .equal => "="
  | .unequal => "<>"
  | .greater => ">"
  | .atLeast => ">="
  | .less => "<"
  | .atMost => "<="
  | .oneOf => "IN"

/-- The wording of a demand, given the clauses of its operands. To ask for null, or for anything
else, takes no operand. -/
def Demand.wording (source : Option String) (clause : Nat → Clause) : Demand → Wording
  | ⟨column, .equal, [.null]⟩ => [.words (qualified source column ++ " IS NULL")]
  | ⟨column, .unequal, [.null]⟩ => [.words (qualified source column ++ " IS NOT NULL")]
  | ⟨column, .oneOf, operands⟩ =>
    .words (qualified source column ++ " IN (") ::
      separated ", " (operands.mapIdx fun place operand =>
        [.mark ⟨clause place, operand.stored⟩]) ++ [.words ")"]
  | ⟨column, operator, operands⟩ =>
    .words (qualified source column ++ " " ++ operator.symbol ++ " ") ::
      operands.mapIdx fun place operand => .mark ⟨clause place, operand.stored⟩

/-- The wordings of the attributes of a partition. -/
def Partition.wordings (partition : Partition) (source : Option String) : List Wording :=
  partition.attributes.map fun held =>
    (Demand.ofAttribute held).wording source fun _ => .attribute held.1

/-- The wordings of the entries of criteria. -/
def Criteria.wordings (criteria : Criteria) (source : Option String) : List Wording :=
  criteria.entries.map fun entry =>
    (Demand.ofEntry? entry).elim [] (Demand.wording source (.operand entry.1))

/-- The wordings of all that a query states: first of its partition, then of its criteria. -/
def statedWordings (criteria : Option Criteria) (partition : Option Partition)
    (source : Option String) : List Wording :=
  partition.elim [] (fun partition => partition.wordings source) ++
    criteria.elim [] fun criteria => criteria.wordings source

/-- A clause, which is left out when there is nothing in it. -/
def Sql.Wording.clause (keyword : String) (wording : Option Wording) : Wording :=
  wording.elim [] fun wording => .words keyword :: wording

namespace Request

/-- The wording that says which rows a request means. -/
def rowsWording (request : Request) (table : Table) : Wording :=
  match request.term with
  | none => .words (" FROM " ++ table.name) ::
      clause " WHERE " (grouped? (statedWordings request.criteria request.partition none))
  | some term =>
    .words (" FROM " ++ table.shadowName ++ " a INNER JOIN " ++ table.name ++ " b ON ") ::
      separated " AND "
        (table.primaryKey.map (fun key => [.words ("a." ++ key ++ " = b." ++ key)]) ++
          (grouped? (request.criteria.elim [] fun criteria =>
            criteria.wordings (some "b"))).toList) ++
      .words " WHERE " ::
      separated " AND " ((request.partition.elim [] fun partition =>
          partition.wordings (some "a")) ++
        [[.words ("a." ++ table.shadowName ++ " MATCH "), .mark ⟨.term, .text term⟩]])

/-- The words that say how a request sorts. -/
def orderingWords (request : Request) : String :=
  match request.sort, request.term with
  | some sort, _ => " ORDER BY " ++ joined ", " (sort.pairs.map fun pair =>
      qualified request.source pair.1 ++ " " ++ pair.2.text)
  | none, some _ => " ORDER BY a.rank"
  | none, none => ""

/-- The words that ask for all columns of a table. -/
def columnWords (table : Table) (source : Option String) : String :=
  "SELECT " ++ joined ", " (table.columnNames.map (qualified source))

/-- The wording of a query for the number of rows. -/
def countingWording (request : Request) (table : Table) : Wording :=
  .words "SELECT COUNT(*)" :: request.rowsWording table

/-- The wording of a query for one page. -/
def findingWording (request : Request) (table : Table) (page : Page) : Wording :=
  .words (columnWords table request.source) :: request.rowsWording table ++
    [.words request.orderingWords, .words " LIMIT ", .mark ⟨.limit, .integer page.limit⟩,
      .words " OFFSET ", .mark ⟨.offset, .integer page.offset⟩]

/-- The wording of a query for the first row that satisfies criteria. -/
def findingOneWording (table : Table) (criteria : Criteria) : Wording :=
  .words (columnWords table none) :: rowsWording { criteria := some criteria } table ++
    [.words " LIMIT 1"]

end Request

namespace Table

/-- The wording of an insertion of drawn values. -/
def insertionWording (table : Table) (values : List (Column × Value)) : Wording :=
  if values.isEmpty then [.words ("INSERT INTO " ++ table.name ++ " DEFAULT VALUES")]
  else
    .words ("INSERT INTO " ++ table.name ++ " (" ++
        joined ", " (values.map fun entry => entry.1.name) ++ ") VALUES (") ::
      separated ", " (values.map fun entry =>
        [.mark ⟨.column entry.1.name, entry.2.stored⟩]) ++ [.words ")"]

/-- The wording of an update with drawn values. -/
def modificationWording (table : Table) (values : List (Column × Value)) (criteria : Criteria) :
    Wording :=
  .words ("UPDATE " ++ table.name ++ " SET ") ::
    separated ", " (values.map fun entry =>
      [.words (entry.1.name ++ " = "), .mark ⟨.column entry.1.name, entry.2.stored⟩]) ++
    clause " WHERE " (grouped? (criteria.wordings none))

/-- The wording of a deletion. -/
def deletionWording (table : Table) (criteria : Criteria) : Wording :=
  .words ("DELETE FROM " ++ table.name) :: clause " WHERE " (grouped? (criteria.wordings none))

end Table

/-- The text of a change with the values of its operands. -/
def Sql.Change.fragment (change : Change Stored) : Fragment := ⟨change.render, change.operands⟩

/-! ### Names -/

/-- No name of a column or table has a question mark. -/
theorem is_unmarked_of_is_name {name : String} (named : IsName name) : IsUnmarked name := by
  obtain ⟨first, rest, shape, start, continues⟩ := Token.plain_word_cases named.1
  unfold IsUnmarked
  rw [shape, List.mem_cons, not_or]
  constructor
  · rintro rfl
    exact absurd start (by decide)
  · intro member
    exact absurd (continues _ member) (by decide)

/-- Texts without question marks are joined to one without. -/
theorem is_unmarked_joined {separator : String} {texts : List String}
    (unmarked : IsUnmarked separator) (each : ∀ text ∈ texts, IsUnmarked text) :
    IsUnmarked (joined separator texts) := by
  induction texts with
  | nil => simp [IsUnmarked, joined]
  | cons first rest inductionHypothesis =>
    have head := each first List.mem_cons_self
    cases rest with
    | nil => simpa [joined] using head
    | cons second others =>
      have tail := inductionHypothesis fun text member => each text (.tail _ member)
      simpa [joined, String.intercalate_cons_cons] using (head.append unmarked).append tail

/-- A column under a source has no question mark if neither of the names has. -/
theorem is_unmarked_qualified {source : Option String} {name : String}
    (named : ∀ given ∈ source, IsUnmarked given) (unmarked : IsUnmarked name) :
    IsUnmarked (qualified source name) := by
  cases source with
  | none => exact unmarked
  | some given => exact ((named given rfl).append (by decide)).append unmarked

namespace Table

/-- The names of a table have no question marks in them. -/
structure HasUnmarkedNames (table : Table) : Prop where
  name : IsUnmarked table.name
  shadowName : IsUnmarked table.shadowName
  columns : ∀ name ∈ table.columnNames, IsUnmarked name

variable {table : Table}

/-- No name of a faultless table has a question mark. -/
theorem has_unmarked_names_of_fault? (faultless : table.fault? = none) :
    table.HasUnmarkedNames := by
  obtain ⟨identifier, -, named⟩ := identifiers_of_fault? faultless
  exact ⟨is_unmarked_of_is_name (is_name_of_is_identifier identifier),
    is_unmarked_of_is_name (is_name_shadow_name identifier),
    fun name member => is_unmarked_of_is_name (named name member)⟩

/-- The words that ask for the columns of a table have no question mark. -/
theorem HasUnmarkedNames.column_words (unmarked : table.HasUnmarkedNames) {source : Option String}
    (named : ∀ given ∈ source, IsUnmarked given) :
    IsUnmarked (Request.columnWords table source) := by
  refine .append (by decide) (is_unmarked_joined (by decide) fun text member => ?_)
  obtain ⟨name, among, rfl⟩ := List.mem_map.mp member
  exact is_unmarked_qualified named (unmarked.columns name among)

end Table

/-! ### Conditions -/

section Conditions

variable {table : Table} {source : Option String}

/-- A compiled condition has the wording of what it was compiled for. -/
theorem Demand.Compiled.worded {demand : Demand} {condition : Condition}
    (compiled : demand.Compiled source condition) (clause : Nat → Clause)
    (unmarked : IsUnmarked (qualified source demand.column)) :
    condition.fragment.IsWorded (demand.wording source clause) := by
  cases compiled with
  | isNull column => exact .words (unmarked.append (by decide))
  | isNotNull column => exact .words (unmarked.append (by decide))
  | @compares operator binary column operand known present =>
    have worded : ∀ symbol : String, IsUnmarked symbol → Fragment.IsWorded
        ⟨qualified source column ++ " " ++ symbol ++ " " ++ "?", [operand.stored]⟩
        [.words (qualified source column ++ " " ++ symbol ++ " "),
          .mark ⟨clause 0, operand.stored⟩] := fun symbol plain =>
      (Fragment.IsWorded.words (((unmarked.append (by decide)).append plain).append
        (by decide))).append (.mark (clause 0) operand.stored)
    cases operator <;> cases known <;> cases operand <;> first
      | (cases present; done)
      | exact worded _ (by decide)
  | @oneOf column operands nonempty =>
    have each : List.Forall₂ Fragment.IsWorded
        (operands.map fun operand => ⟨"?", [operand.stored]⟩)
        (operands.mapIdx fun place operand => [.mark ⟨clause place, operand.stored⟩]) := by
      refine List.forall₂_iff_get.mpr ⟨by simp, fun place _ _ => ?_⟩
      simp only [List.get_eq_getElem, List.getElem_map, List.getElem_mapIdx]
      exact .mark _ _
    have candidates := Fragment.IsWorded.separated (by decide : IsUnmarked ", ") each
    have whole := ((Fragment.IsWorded.words (unmarked.append
      (by decide : IsUnmarked " IN ("))).append
      candidates).append (.words (by decide : IsUnmarked ")"))
    refine ⟨Eq.trans ?_ whole.text, Eq.trans ?_ whole.operands, whole.plain⟩
    · simp only [Expression.fragment, Expression.render, List.map_map, Bool.false_eq_true, if_false]
      rfl
    · simp only [Expression.fragment, Expression.operands, List.flatMap_map,
        List.append_nil, List.nil_append]
      exact List.map_eq_flatMap

variable {conditions : List Condition}

/-- So do the conditions of a partition and of criteria. -/
theorem Partition.conditions_worded {partition : Partition} (unmarked : table.HasUnmarkedNames)
    (named : ∀ given ∈ source, IsUnmarked given)
    (accepted : partition.conditions table source = .ok conditions) :
    List.Forall₂ (fun condition wording => condition.fragment.IsWorded wording) conditions
      (partition.wordings source) := by
  have compiled := Partition.conditions_compiled accepted
  unfold Partition.wordings
  rw [CompiledAll, Partition.demands, List.forall₂_map_left_iff] at compiled
  rw [List.forall₂_map_right_iff]
  refine compiled.flip.imp fun condition held made => ?_
  exact made.2.worded _ (is_unmarked_qualified named
    (unmarked.columns _ (Table.mem_column_names_of_has_column made.1)))

/-- The conditions of criteria have the wordings of their entries, one by one. -/
theorem Criteria.conditions_worded {criteria : Criteria} (unmarked : table.HasUnmarkedNames)
    (named : ∀ given ∈ source, IsUnmarked given)
    (accepted : criteria.conditions table source = .ok conditions) :
    List.Forall₂ (fun condition wording => condition.fragment.IsWorded wording) conditions
      (criteria.wordings source) := by
  unfold Criteria.conditions at accepted
  split at accepted
  · cases accepted
  · have pairs := map_m_ok accepted
    unfold Criteria.wordings
    rw [List.forall₂_map_right_iff]
    refine pairs.flip.imp fun condition entry made => ?_
    obtain ⟨demand, demanded, known, compiled⟩ := Demand.of_entry_compiled made
    rw [demanded]
    exact compiled.worded _ (is_unmarked_qualified named
      (unmarked.columns _ (Table.mem_column_names_of_has_column known)))

/-- So have those of a partition that may be missing. -/
theorem Partition.elim_worded {partition : Option Partition} (unmarked : table.HasUnmarkedNames)
    (named : ∀ given ∈ source, IsUnmarked given)
    (accepted : (partition.elim (.ok []) fun partition => partition.conditions table source) =
      .ok conditions) :
    List.Forall₂ (fun condition wording => condition.fragment.IsWorded wording) conditions
      (partition.elim [] fun partition => partition.wordings source) := by
  cases partition with
  | none =>
    cases accepted
    exact .nil
  | some partition => exact Partition.conditions_worded unmarked named accepted

/-- So have those of criteria that may be missing. -/
theorem Criteria.elim_worded {criteria : Option Criteria} (unmarked : table.HasUnmarkedNames)
    (named : ∀ given ∈ source, IsUnmarked given)
    (accepted : (criteria.elim (.ok []) fun criteria => criteria.conditions table source) =
      .ok conditions) :
    List.Forall₂ (fun condition wording => condition.fragment.IsWorded wording) conditions
      (criteria.elim [] fun criteria => criteria.wordings source) := by
  cases criteria with
  | none =>
    cases accepted
    exact .nil
  | some criteria => exact Criteria.conditions_worded unmarked named accepted

/-- All that a query states, as one condition, has the wordings of its partition and then those of
its criteria. -/
theorem stated_condition?_worded {criteria : Option Criteria} {partition : Option Partition}
    {condition : Option Condition} (unmarked : table.HasUnmarkedNames)
    (named : ∀ given ∈ source, IsUnmarked given)
    (accepted : statedCondition? criteria partition table source = .ok condition) :
    Option.Rel (fun whole wording => whole.fragment.IsWorded wording) condition
      (grouped? (statedWordings criteria partition source)) := by
  obtain ⟨conditions, stated, ended⟩ := bind_ok accepted
  cases ended
  obtain ⟨confined, asked, rfl, confinedMade, askedMade⟩ := stated_conditions_ok stated
  exact Fragment.IsWorded.conjunction? (List.rel_append
    (Partition.elim_worded unmarked named confinedMade)
    (Criteria.elim_worded unmarked named askedMade))

/-- An optional condition that has its wording has it as a list of one or none. -/
theorem forall₂_to_list {condition : Option Condition} {wording : Option Wording}
    (worded : Option.Rel (fun whole wording => whole.fragment.IsWorded wording) condition wording) :
    List.Forall₂ (fun whole wording => whole.fragment.IsWorded wording) condition.toList
      wording.toList := by
  cases worded with
  | none => exact .nil
  | some worded => exact .cons worded .nil

/-- A clause of one condition, or none, has the wording of the condition. -/
theorem clause_worded {condition : Option Condition} {wording : Option Wording} {keyword : String}
    (unmarked : IsUnmarked (" " ++ keyword ++ " "))
    (worded : Option.Rel (fun whole wording => whole.fragment.IsWorded wording) condition wording) :
    Fragment.IsWorded
      ⟨renderClause keyword (condition.map fun condition => [condition]),
        conditionOperands (condition.map fun condition => [condition])⟩
      (clause (" " ++ keyword ++ " ") wording) := by
  cases worded with
  | none => exact ⟨rfl, rfl, nofun⟩
  | some worded =>
    have whole := (Fragment.IsWorded.words unmarked).append worded
    refine ⟨Eq.trans ?_ whole.text, Eq.trans ?_ whole.operands, whole.plain⟩
    · simp [renderClause, renderConditions, joined, Expression.fragment]
    · simp [conditionOperands, Expression.fragment]

end Conditions

end RecordStore
