import RecordStore.Proofs.Store.SoundTables

/-!
# Tables that number their rows

Where the engine numbers the key of a table by itself, a database recalls numbers of the table if it
remembers none that is less than one of them, or than that of a row. Whatever leaves the rows their
numbers keeps what is recalled, for no change makes a database forget. The number of a row that is
put in is larger than all that are recalled, whatever has happened to the rows that had them.
-/

namespace RecordStore

open Engine Sql

namespace Table

/-- A database that keeps a table soundly in a relation whose rows have positive numbers, and that
remembers for the table a number which is not less than any of theirs, nor than any of a list. -/
structure IsNumberedIn (table : Table) (numbers : List Int64) (database : Database)
    (relation : Relation) : Prop extends table.IsSoundIn database relation where
  positive : ∀ row ∈ relation.rows, 0 < row.number
  remembered : ∀ row ∈ relation.rows, row.number ≤ database.givenNumber table.name
  recalled : ∀ number ∈ numbers, number ≤ database.givenNumber table.name

/-- A database that recalls numbers of a table. -/
def Recalls (table : Table) (numbers : List Int64) (database : Database) : Prop :=
  ∃ relation, table.IsNumberedIn numbers database relation

variable {table : Table} {numbers : List Int64} {database after : Database}
  {relation now : Relation} {effect : Effect}

/-- A database that recalls numbers recalls fewer of them. -/
theorem Recalls.fewer (recalls : table.Recalls numbers database) {less : List Int64}
    (subset : less ⊆ numbers) : table.Recalls less database := by
  obtain ⟨relation, held⟩ := recalls
  exact ⟨relation, held.toIsSoundIn, held.positive, held.remembered,
    fun number member => held.recalled number (subset member)⟩

/-- Whatever is behind the last row is positive. -/
theorem IsNumberedIn.positive_of_behind (held : table.IsNumberedIn numbers database relation)
    {number : Int64} (behind : relation.lastNumber?.getD 0 < number) : 0 < number := by
  cases ends : relation.rows.getLast? with
  | none => simpa [Relation.lastNumber?, ends] using behind
  | some row =>
    have before := held.positive row (List.mem_of_getLast? ends)
    simp only [Relation.lastNumber?, ends, Option.map_some, Option.getD_some] at behind
    exact Int64.lt_trans before behind

/-- A database that keeps a table soundly, in a relation without numbers that another one lacks. -/
def HasNumbersOf (table : Table) (relation : Relation) (database : Database) : Prop :=
  ∃ now, table.IsSoundIn database now ∧ now.rows.map Row.number ⊆ relation.rows.map Row.number

/-- What is recalled is recalled later too, where no row has another number than the rows had. -/
theorem IsNumberedIn.later (held : table.IsNumberedIn numbers database relation)
    (remembers : database.Remembers after) (same : table.HasNumbersOf relation after) :
    table.Recalls numbers after := by
  obtain ⟨now, sound, subset⟩ := same
  have old : ∀ row ∈ now.rows, ∃ before ∈ relation.rows, before.number = row.number :=
    fun row member => List.mem_map.mp (subset (List.mem_map_of_mem member))
  refine ⟨now, sound, fun row member => ?_, fun row member => ?_, fun number member => ?_⟩
  · obtain ⟨before, among, number⟩ := old row member
    exact number ▸ held.positive before among
  · obtain ⟨before, among, number⟩ := old row member
    exact number ▸ Int64.le_trans (held.remembered before among) (remembers table.name)
  · exact Int64.le_trans (held.recalled number member) (remembers table.name)

/-- A change of another table takes nothing from what is recalled. -/
theorem Recalls.elsewhere (recalls : table.Recalls numbers database) {change : Change Stored}
    (done : database.change change = .ok effect)
    (other : sameName (tableOf change) table.name = false) :
    table.Recalls numbers effect.database := by
  obtain ⟨relation, held⟩ := recalls
  exact held.later (Database.change_remembers done)
    ⟨relation, held.toIsSoundIn.elsewhere other done, List.Subset.refl _⟩

/-! ### Changes that leave the rows their numbers -/

/-- Neither does a deletion: the rows that are left have the numbers that they had. -/
theorem Recalls.deletion (recalls : table.Recalls numbers database) {condition : Condition}
    (done : database.change (table.deletion condition) = .ok effect) :
    table.Recalls numbers effect.database := by
  obtain ⟨relation, held⟩ := recalls
  refine held.later (Database.change_remembers done) ?_
  obtain ⟨fire, spares, once⟩ := change_once database (table.deletion condition) table.name
  rw [once] at done
  simp only [runOnce, Table.deletion, runDelete, held.found] at done
  refine foldl_m_keeps (fun state : Effect => table.HasNumbersOf relation state.database) _ _
    ⟨relation, held.toIsSoundIn, List.Subset.refl _⟩ ?_ done
  rintro state row next - ⟨now, heldNow, subset⟩ deleted
  rcases delete_row_sound spares (same_name_refl _) heldNow deleted with ⟨rfl, -⟩ | ⟨-, heldNext⟩
  · exact ⟨now, heldNow, subset⟩
  · refine ⟨_, heldNext, List.Subset.trans ?_ subset⟩
    exact (List.filter_sublist.map Row.number).subset

/-- An insertion leaves out only columns that it does not name. -/
theorem insertion_fills (table : Table) (database : Database) (row : List (String × Stored)) :
    FillsFound database (table.insertion row) := by
  intro relation _ all
  by_cases empty : row.isEmpty = true
  · simp only [empty, if_true]
    trivial
  · simp [empty] at all

/-- An update that writes nothing into the key takes nothing from what is recalled. -/
theorem Recalls.modification (recalls : table.Recalls numbers database) {key : String}
    (numbered : table.autoincrementKey? = some key) {row : List (String × Stored)}
    {condition : Condition} (others : ∀ entry ∈ row, sameName entry.1 key = false)
    (done : database.change (table.modification row condition) = .ok effect) :
    table.Recalls numbers effect.database := by
  obtain ⟨relation, held⟩ := recalls
  refine held.later (Database.change_remembers done) ?_
  obtain ⟨fire, spares, once⟩ :=
    change_once database (table.modification row condition) table.name
  rw [once] at done
  simp only [runOnce, Table.modification, runUpdate, held.found] at done
  refine foldl_m_keeps (fun state : Effect => table.HasNumbersOf relation state.database) _ _
    ⟨relation, held.toIsSoundIn, List.Subset.refl _⟩ ?_ done
  rintro state row next - ⟨now, heldNow, subset⟩ updated
  rcases update_row_sound spares (same_name_refl _) heldNow rfl updated with
    ⟨rfl, -⟩ | ⟨old, member, -, rows, new, earlier, -, changed, -, heldNext⟩
  · exact ⟨now, heldNow, subset⟩
  · refine ⟨_, heldNext, List.Subset.trans ?_ subset⟩
    have stays : new.number = old.number := by
      obtain ⟨alone, -⟩ := autoincrement_key?_column heldNow.apart numbered
      refine heldNow.toIsKeptIn.renumbered_number
        ((assigned_length _ _ _ _).trans (heldNow.rows old member).full) changed member
        (by simp [alone]) fun column inKey => ?_
      obtain rfl : column = key := by simpa [alone] using inKey
      refine assigned_other ?_ old.values
      simpa only [List.forall_mem_map] using others
    intro number among
    obtain ⟨other, inRows, rfl⟩ := List.mem_map.mp among
    rcases Relation.mem_put.mp inRows with rfl | kept
    · rw [stays]
      exact List.mem_map_of_mem member
    · exact List.mem_map_of_mem (List.mem_filter.mp (earlier.subset kept)).1

/-! ### Rows that are put in -/

section Numbered

variable (admitted : table.IsAdmitted) {key : String}
  (numbered : table.autoincrementKey? = some key)

include admitted numbered

/-- A row for whose key nothing is given gets the next number. -/
theorem IsKeptIn.awaits_number (kept : table.IsKeptIn database relation)
    {row : List (String × Stored)} (others : ∀ entry ∈ row, sameName entry.1 key = false)
    {put : Row}
    (given : numberedRow database relation (givenValues relation.attributes row) = .ok put) :
    nextNumber database relation = .ok put.number := by
  have shown := kept.shows admitted numbered
  have nothing := value_in_given_values_null (kept.attributes ▸ attributes_default_value table)
    others
  rcases numbered_row_cases given with ⟨-, shows⟩ | ⟨-, -, -, -, next, -⟩
  · have number := shows key true shown
    obtain ⟨affinity, stored⟩ := Relation.value_in_conform relation.attributes
      (givenValues relation.attributes row) key
    have null := Affinity.store_is_null affinity .null
    rw [← nothing, ← stored, number, nothing] at null
    cases null
  · exact next

/-- A row that is put in without a key gets a positive number that is larger than all that are
recalled. It shows the number in the key, and the number is recalled from then on. -/
theorem IsNumberedIn.insertion (held : table.IsNumberedIn numbers database relation)
    {row : List (String × Stored)} (others : ∀ entry ∈ row, sameName entry.1 key = false)
    (done : database.change (table.insertion row) = .ok effect) :
    ∃ put, table.IsNumberedIn (put.number :: numbers) effect.database (relation.put put) ∧
      relation.value put key = .integer put.number ∧ 0 < put.number ∧
      database.givenNumber table.name < put.number ∧ effect.lastNumber = some put.number := by
  have shown := held.shows admitted numbered
  have keyed : table.primaryKey ≠ [] := by
    rw [(autoincrement_key?_column held.apart numbered).1]
    exact nofun
  have again : Database.neverAgain relation = true := by simp [Database.neverAgain, shown]
  obtain ⟨put, given, -, stands, -, last, remembers⟩ :=
    change_insertion_ok held.found held.spared done
  obtain ⟨above, behind⟩ := next_number_ok again
    (held.toIsKeptIn.awaits_number admitted numbered others given)
  rw [held.name] at above
  have positive := held.positive_of_behind behind
  have shows := (held.toIsKeptIn.numbered keyed (arranged_length _ _ _) given).numbered
    key true shown
  have sound : table.IsSoundIn effect.database (relation.put put) := by
    obtain ⟨now, heldNow⟩ := IsSoundlyKept.change ⟨relation, held.toIsSoundIn⟩ keyed
      (table.insertion_fills database row) done
    cases stands.symm.trans heldNow.found
    exact heldNow
  have covers : put.number ≤ effect.database.givenNumber table.name := held.name ▸ remembers again
  have grown := Database.change_remembers done table.name
  refine ⟨put, ⟨sound, fun other member => ?_, fun other member => ?_, fun number member => ?_⟩,
    shows, positive, above, last key true shown⟩
  · rcases Relation.mem_put.mp member with rfl | old
    · exact positive
    · exact held.positive other old
  · rcases Relation.mem_put.mp member with rfl | old
    · exact covers
    · exact Int64.le_trans (held.remembered other old) grown
  · rcases List.mem_cons.mp member with rfl | old
    · exact covers
    · exact Int64.le_trans (held.recalled number old) grown

end Numbered

end Table

end RecordStore
