import RecordStore.Proofs.Engine.Insertion
import RecordStore.Proofs.Engine.Listings

/-!
# How many values a row gets

An insertion that names columns fills the others with their defaults. One that names none must give
a value for each column, which is checked before it runs: literally for rows that are written out,
and by the number of result columns for rows that a query answers. Operands take no part in that, so
what is checked before the parameters of a statement have values holds with them.
-/

namespace RecordStore.Engine

open Sql

variable {database : Database} {relation : Relation}

/-- No window adds rows. -/
theorem mem_of_windowed {α : Type} {limit offset : Option Int} {rows : List α} {row : α}
    (member : row ∈ windowed limit offset rows) : row ∈ rows := by
  unfold windowed at member
  dsimp only at member
  split at member
  · split at member
    · exact List.mem_of_mem_drop member
    · exact List.mem_of_mem_drop (List.mem_of_mem_take member)
  · exact List.mem_of_mem_drop member

/-- Rows without repetition were there before. -/
theorem mem_of_distinct_rows {rows : List (List Stored)} {row : List Stored}
    (member : row ∈ distinctRows rows) : row ∈ rows := by
  induction rows with
  | nil => exact member
  | cons first rest inductionHypothesis =>
    rcases List.mem_cons.mp member with rfl | later
    · exact List.mem_cons_self
    · exact List.mem_cons_of_mem first (inductionHypothesis (List.mem_filter.mp later).1)

/-- Every row of an answer has a value for each result column of the query. -/
theorem select_width {query : Select Stored} {answer : Answer}
    (selected : select database query = .ok answer) :
    ∀ row ∈ answer.rows, row.length = (resultColumns database query).length := by
  unfold select at selected
  obtain ⟨found, -, selected⟩ := bind_ok selected
  obtain ⟨limit, -, selected⟩ := bind_ok selected
  obtain ⟨offset, -, ended⟩ := bind_ok selected
  cases ended
  intro row member
  have inRows := mem_of_windowed member
  split at inRows
  · obtain ⟨_, -, rfl⟩ := List.mem_map.mp (mem_of_distinct_rows inRows)
    exact List.length_map _
  · obtain ⟨_, -, rfl⟩ := List.mem_map.mp inRows
    exact List.length_map _

/-- How many result columns a query has does not depend on its operands. -/
theorem result_columns_map_operands_length {Operand : Type} (query : Select Operand)
    (left right : Operand → Stored) :
    (resultColumns database (query.mapOperands left)).length =
      (resultColumns database (query.mapOperands right)).length := by
  have sources : Engine.sources (query.mapOperands left) =
      Engine.sources (query.mapOperands right) := by
    simp [Engine.sources, Select.mapOperands]
  have columns : ∀ replace : Operand → Stored, (query.mapOperands replace).columns =
      query.columns.map (ResultColumn.mapOperands replace) := fun _ => rfl
  unfold resultColumns
  rw [columns, columns, List.flatMap_map, List.flatMap_map, List.length_flatMap,
    List.length_flatMap, sources]
  congr 1
  refine List.map_congr_left fun column _ => ?_
  cases column with
  | everything => rfl
  | everythingOf name => rfl
  | computed expression newName text =>
    cases newName with
    | some newName => rfl
    | none => cases expression <;> rfl

/-- Rows that have a number of values each, by the way in which an insertion gives them. -/
def HaveWidth (database : Database) (width : Nat) : Rows Stored → Prop
  | .defaults => True
  | .values rows => ∀ row ∈ rows, row.length = width
  | .selected query => (resultColumns database query).length = width

/-- A change that gives each row that it puts into a relation a value for each attribute. -/
def Fills (database : Database) (relation : Relation) : Change Stored → Prop
  | .insert insertion => insertion.columns = none →
    HaveWidth database relation.attributes.length insertion.rows
  | _ => True

/-- The rows of such an insertion have a value for each attribute. -/
theorem inserted_rows_length {outer : Scope} {insertion : Insert Stored} {rows : List (List Stored)}
    (fills : Fills database relation (.insert insertion))
    (made : insertedRows database outer relation.attributes insertion = .ok rows) :
    ∀ values ∈ rows, values.length = relation.attributes.length := by
  have arranges : ∀ values : List Stored,
      (insertion.columns = none → values.length = relation.attributes.length) →
        (arranged relation.attributes insertion.columns values).length =
          relation.attributes.length := by
    intro values plain
    cases columns : insertion.columns with
    | none => exact plain columns
    | some names => exact arranged_length _ _ _
  unfold insertedRows at made
  intro values member
  change insertion.columns = none →
    HaveWidth database relation.attributes.length insertion.rows at fills
  cases given : insertion.rows with
  | defaults =>
    rw [given] at made
    cases made
    cases List.mem_singleton.mp member
    exact List.length_map _
  | values written =>
    rw [given] at made fills
    cases made
    obtain ⟨row, among, rfl⟩ := List.mem_map.mp member
    exact arranges _ fun plain => (List.length_map _).trans (fills plain row among)
  | selected query =>
    rw [given] at made fills
    obtain ⟨answer, selected, ended⟩ := bind_ok made
    cases ended
    obtain ⟨row, among, rfl⟩ := List.mem_map.mp member
    exact arranges _ fun plain => (select_width selected row among).trans (fills plain)

/-- Rows that are checked against all columns of a relation have a value for each attribute. -/
theorem have_width_of_checked {outer : Scope} {insertion : Insert Stored}
    (checked : checkInsert database outer insertion = .ok ())
    (found : database.relation? insertion.table = some relation) (all : insertion.columns = none) :
    HaveWidth database relation.attributes.length insertion.rows := by
  have names : changedNames database insertion.table = .ok (relation.names relation.name) := by
    unfold changedNames
    rw [found]
  have counted : ∀ {count : Nat} {fault : Fault},
      (if count = relation.attributes.length then .ok () else .error fault : Except Fault Unit) =
        .ok () → count = relation.attributes.length := by
    intro count fault same
    split at same
    · assumption
    · cases same
  simp only [checkInsert, names, all, bind, Except.bind] at checked
  cases given : insertion.rows with
  | defaults => trivial
  | values rows =>
    simp only [given] at checked
    split at checked
    · cases checked
    · rename_i even
      split at checked
      · cases checked
      · intro row member
        have width := counted checked
        simp only [List.any_eq_true, not_exists, not_and, bne_iff_ne, ne_eq, not_not] at even
        rw [even row member, width]
  | selected query =>
    simp only [given] at checked
    split at checked
    · cases checked
    · exact counted checked

/-- Operands take no part in how many values rows have. -/
theorem have_width_map_operands {Operand : Type} {width : Nat} {rows : Rows Operand}
    {left : Operand → Stored} (right : Operand → Stored)
    (have' : HaveWidth database width (rows.mapOperands left)) :
    HaveWidth database width (rows.mapOperands right) := by
  cases rows with
  | defaults => trivial
  | values rows =>
    intro row member
    obtain ⟨before, among, rfl⟩ := List.mem_map.mp member
    have same := have' _ (List.mem_map_of_mem among)
    rw [List.length_map] at same ⊢
    exact same
  | selected query => exact (result_columns_map_operands_length query right left).trans have'

/-- A change that gives each row all its values, if it is about a relation. -/
def FillsFound (database : Database) (change : Change Stored) : Prop :=
  ∀ relation, database.relation? (tableOf change) = some relation → Fills database relation change

/-- What is checked of a change makes it give each row all its values, whatever values its operands
have by then. -/
theorem fills_found_of_checked {Operand : Type} {outer : Scope} {change : Change Operand}
    {left : Operand → Stored} (right : Operand → Stored)
    (checked : checkChange database outer (change.mapOperands left) = .ok ()) :
    FillsFound database (change.mapOperands right) := by
  intro relation found
  cases change with
  | insert insertion =>
    exact fun all => have_width_map_operands right (have_width_of_checked checked found all)
  | update => trivial
  | delete => trivial

end RecordStore.Engine
