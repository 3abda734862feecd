import RecordStore.Proofs.Engine.Insertion
import RecordStore.Proofs.Shadow.Mirror
import RecordStore.Query.Mutation

/-!
# Changes of a mirrored table

A row that is put in, taken out or changed takes its copy along, and so does every row of a
change that is about several. The changes here are those that a store makes: an insertion of one
row, an update that leaves the key columns alone, and a deletion.
-/

namespace RecordStore

open Engine Sql

namespace Table

/-- Every stored row has a value in each of its key columns. -/
def KeysPresent (table : Table) (database : Database) : Prop :=
  ∀ relation, database.relation? table.name = some relation →
    ∀ row ∈ relation.rows, relation.HasKey table.primaryKey row

/-- A database in which a table was made and its full-text table mirrors it. -/
def IsMirrored (table : Table) (database : Database) : Prop :=
  ∃ relation shadow, table.IsShadowed database relation shadow ∧ table.IsCopied relation shadow

end Table

namespace Engine

variable {table : Table} {database : Database} {relation : Relation} {shadow : FullTextTable}

/-- A column that shows the numbers of the rows is the key. -/
theorem shown_mem_primary_key (made : table.IsShadowed database relation shadow) {column : String}
    {neverAgain : Bool} (shown : relation.identity = .shown column neverAgain) :
    column ∈ table.primaryKey := by
  rcases made.keyed with keptBy | ⟨key, again, alone, shows⟩ | ⟨hidden, -⟩
  · cases keptBy.symm.trans shown
  · cases shows.symm.trans shown
    simp [alone]
  · cases hidden.symm.trans shown

/-- The key of a table names attributes of its relation. -/
theorem key_named (made : table.IsShadowed database relation shadow) {key : String}
    (inKey : key ∈ table.primaryKey) : key ∈ relation.attributes.map Attribute.name := by
  rw [made.attributes, Table.attributes_names]
  exact table.primary_key_subset inKey

/-! ### Putting a row in -/

/-- A row of values becomes a row that fits. -/
theorem numbered_row_fits (made : table.IsShadowed database relation shadow) {within : Database}
    {values : List Stored} {row : Row} (lengths : values.length = relation.attributes.length)
    (numbered : numberedRow within relation values = .ok row) : relation.Fits row := by
  have conformed := Relation.conform_suits
    (fun attr => attr.affinity.settled_store) relation.attributes values lengths
  refine ⟨?_, fun column again shown => numbered_row_shows numbered lengths shown
    (key_named made (shown_mem_primary_key made shown))⟩
  rcases numbered_row_cases numbered with ⟨same, -⟩ | ⟨column, again, -, -, -, same⟩
  · rw [same]
    exact conformed
  · rw [same]
    exact Relation.replace_in_suits (fun attr => attr.affinity.settled_integer row.number) column
      conformed

/-- A row that is put in takes its copy along. -/
theorem insert_row_mirrored {depth : Nat} {effect next : Effect} {values : List Stored}
    (made : table.IsShadowed effect.database relation shadow)
    (copied : table.IsCopied relation shadow)
    (lengths : values.length = relation.attributes.length)
    (inserted : insertRow (follow depth [] table.name) .abort table.name effect values = .ok next) :
    ∃ row, table.IsShadowed next.database (relation.put row)
        (withCopy table relation shadow row) ∧
      (relation.HasKey table.primaryKey row →
        table.IsCopied (relation.put row) (withCopy table relation shadow row)) := by
  obtain ⟨held, row, found, numbered, which⟩ := insert_row_ok inserted
  cases made.made.symm.trans found
  have fits := numbered_row_fits made lengths numbered
  rcases which with ⟨leftOut, -⟩ | ⟨admitted, after, makes, followed, rfl⟩
  · cases (room_for_abort leftOut).2
  · obtain ⟨offends, same⟩ := room_for_abort makes
    cases same
    have madePut : table.IsShadowed (withRow effect.database relation row) (relation.put row)
        shadow := (made.with_relation _).note_number relation row
    have fired := follow_insertion madePut depth fits.lengths
    have same : after = (withRow effect.database relation row).withFullText
        (withCopy table relation shadow row) := by
      cases followed.symm.trans fired
      rfl
    refine ⟨row, ?_, fun present => copied.put made.keyed fits present offends⟩
    rw [same]
    exact madePut.with_full_text _

/-- An insertion of one row keeps the mirror, if the row has a key. -/
theorem change_insertion_mirrored {row : List (String × Stored)} {effect : Effect}
    (mirrored : table.IsMirrored database)
    (done : database.change (table.insertion row) = .ok effect)
    (present : table.KeysPresent effect.database) : table.IsMirrored effect.database := by
  obtain ⟨relation, shadow, made, copied⟩ := mirrored
  obtain ⟨depth, enough⟩ := objects_length_pos made
  rw [Database.change, enough, run_change_succ] at done
  simp only [runOnce, Table.insertion, runInsert, made.made] at done
  obtain ⟨rows, given, folded⟩ := bind_ok done
  obtain ⟨values, alone, lengths⟩ : ∃ values, rows = [values] ∧
      values.length = relation.attributes.length := by
    unfold insertedRows at given
    by_cases empty : row.isEmpty = true
    · simp only [empty, if_true] at given
      cases given
      exact ⟨_, rfl, by simp⟩
    · simp only [empty, if_false, Bool.false_eq_true] at given
      cases given
      exact ⟨_, rfl, arranged_length _ _ _⟩
  rw [alone, List.foldlM_cons] at folded
  obtain ⟨next, inserted, ended⟩ := bind_ok folded
  cases ended
  obtain ⟨added, madeNext, copiedNext⟩ := insert_row_mirrored made copied lengths inserted
  exact ⟨_, _, madeNext, copiedNext
    (present _ madeNext.made added (Relation.mem_put.mpr (.inl rfl)))⟩

/-! ### Taking a row out -/

/-- A row that is taken out takes its copy along. It stood in the relation when the deletion
began, together with all rows that still stand there. -/
theorem delete_row_mirrored {depth : Nat} {effect next : Effect} {rows : List Row} {row : Row}
    (made : table.IsShadowed effect.database relation shadow)
    (copied : table.IsCopied relation shadow) (earlier : relation.rows ⊆ rows)
    (tells : relation.KeyTells table.primaryKey rows) (stood : row ∈ rows)
    (fits : relation.Fits row) (present : relation.HasKey table.primaryKey row)
    (deleted : deleteRow (follow depth [] table.name) table.name effect row = .ok next) :
    (next = effect) ∨
      (table.IsShadowed next.database (relation.drop row)
          (withoutCopy table shadow [relation.oldRow row]) ∧
        table.IsCopied (relation.drop row) (withoutCopy table shadow [relation.oldRow row])) := by
  rcases delete_row_ok deleted with ⟨rfl, -⟩ | ⟨held, after, found, followed, rfl⟩
  · exact .inl rfl
  · cases made.made.symm.trans found
    have madeDropped : table.IsShadowed (effect.database.withRelation (relation.drop row))
        (relation.drop row) shadow := made.with_relation _
    have fired := follow_deletion madeDropped depth row
    have same : after = (effect.database.withRelation (relation.drop row)).withFullText
        (withoutCopy table shadow [relation.oldRow row]) := by
      cases followed.symm.trans fired
      rfl
    refine .inr ⟨?_, copied.drop made earlier tells stood fits present ⟨[], rfl⟩⟩
    rw [same]
    exact madeDropped.with_full_text _

/-- A deletion keeps the mirror. Proof: the rows only become fewer and all of them have stood
together, so copies and rows keep belonging together row by row. -/
theorem change_deletion_mirrored {condition : Condition} {effect : Effect}
    (mirrored : table.IsMirrored database)
    (done : database.change (table.deletion condition) = .ok effect) :
    table.IsMirrored effect.database := by
  obtain ⟨relation, shadow, made, copied⟩ := mirrored
  obtain ⟨depth, enough⟩ := objects_length_pos made
  rw [Database.change, enough, run_change_succ] at done
  simp only [runOnce, Table.deletion, runDelete, made.made] at done
  let Fewer (effect : Effect) : Prop := ∃ left kept, left ⊆ relation.rows ∧
    table.IsShadowed effect.database { relation with rows := left } kept ∧
    table.IsCopied { relation with rows := left } kept
  have fewer : Fewer effect := by
    refine foldl_m_keeps Fewer _ _ ⟨relation.rows, shadow, fun _ member => member, made, copied⟩
      ?_ done
    rintro state row next member ⟨left, kept, earlier, madeLeft, copiedLeft⟩ deleted
    have stood : row ∈ relation.rows := (List.mem_filter.mp member).1
    have fits := copied.fit row stood
    rcases delete_row_mirrored madeLeft copiedLeft earlier copied.tells stood
      ⟨fits.settled, fits.numbered⟩ (copied.present row stood) deleted with rfl |
        ⟨madeNext, copiedNext⟩
    · exact ⟨left, kept, earlier, madeLeft, copiedLeft⟩
    · exact ⟨_, _, fun other among => earlier (Relation.mem_drop.mp among).1, madeNext, copiedNext⟩
  obtain ⟨left, kept, -, madeLeft, copiedLeft⟩ := fewer
  exact ⟨_, kept, madeLeft, copiedLeft⟩

/-! ### Changing a row -/

/-- Assignments leave the values under other names alone. -/
theorem assigned_other {attributes : List Attribute} {scope : Scope}
    {assignments : List (String × Expression Stored)} {name : String}
    (others : ∀ assignment ∈ assignments, sameName assignment.1 name = false)
    (values : List Stored) :
    Relation.valueIn attributes (assigned attributes scope assignments values) name =
      Relation.valueIn attributes values name := by
  have given := @value_in_replace_all_other attributes
    (assignments.map fun assignment => (assignment.1, evaluate [] scope assignment.2)) name
  simp only [List.forall_mem_map, List.foldl_map] at given
  exact given others values

/-- Assigning values leaves how many there are. -/
theorem assigned_length (attributes : List Attribute) (scope : Scope)
    (assignments : List (String × Expression Stored)) (values : List Stored) :
    (assigned attributes scope assignments values).length = values.length := by
  unfold assigned
  induction assignments generalizing values with
  | nil => rfl
  | cons assignment rest inductionHypothesis => simp [inductionHypothesis]

/-- A changed row fits, and where its key was not assigned it still has one. -/
theorem renumbered_fits {old row : Row} {scope : Scope}
    {assignments : List (String × Expression Stored)} (fits : relation.Fits old)
    (renumbered' : renumbered relation old
      (assigned relation.attributes scope assignments old.values) = .ok row) :
    relation.Fits row ∧
      ∀ key, (∀ assignment ∈ assignments, sameName assignment.1 key = false) →
        (relation.value row key).isNull = (relation.value old key).isNull := by
  have lengths : (assigned relation.attributes scope assignments old.values).length =
      relation.attributes.length := (assigned_length _ _ _ _).trans fits.lengths
  have conformed := Relation.conform_suits
    (fun attr => attr.affinity.settled_store) relation.attributes _ lengths
  have kept : ∀ key, (∀ assignment ∈ assignments, sameName assignment.1 key = false) →
      (Relation.valueIn relation.attributes (Relation.conform relation.attributes
        (assigned relation.attributes scope assignments old.values)) key).isNull =
        (relation.value old key).isNull := by
    intro key others
    obtain ⟨affinity, stored⟩ := Relation.value_in_conform relation.attributes
      (assigned relation.attributes scope assignments old.values) key
    rw [stored, Affinity.store_is_null, assigned_other others]
    rfl
  obtain ⟨same, shows⟩ := renumbered_ok renumbered'
  refine ⟨⟨same ▸ conformed, shows⟩, fun key others => ?_⟩
  rw [Relation.value, same]
  exact kept key others

/-- A row that is changed takes its copy along. -/
theorem update_row_mirrored {depth : Nat} {outer : Scope} {modification : Update Stored}
    {effect next : Effect} {row : Row}
    (abort : modification.conflict = .abort) (about : modification.table = table.name)
    (keepsKey : ∀ assignment ∈ modification.assignments, ∀ key ∈ table.primaryKey,
      sameName assignment.1 key = false)
    (mirrored : table.IsMirrored effect.database)
    (updated : updateRow (follow depth [] table.name) outer modification effect row = .ok next) :
    table.IsMirrored next.database := by
  obtain ⟨relation, shadow, made, copied⟩ := mirrored
  rcases update_row_ok updated with ⟨rfl, -⟩ |
    ⟨held, old, changed, admitted, after, found, standing, renumbered', makes, followed, rfl⟩
  · exact ⟨relation, shadow, made, copied⟩
  · rw [about] at found
    cases made.made.symm.trans found
    rw [abort] at makes
    obtain ⟨offends, same⟩ := room_for_abort makes
    cases same
    have member := Relation.mem_of_standing? standing
    have oldFits := copied.fit old member
    obtain ⟨fits, keyKept⟩ := renumbered_fits oldFits renumbered'
    have present : relation.HasKey table.primaryKey changed := by
      intro key inKey
      rw [keyKept key fun assignment among => keepsKey assignment among key inKey]
      exact copied.present old member key inKey
    have madePut : table.IsShadowed
        (effect.database.withRelation ((relation.drop old).put changed))
        ((relation.drop old).put changed) shadow := made.with_relation _
    have fired := follow_modification madePut depth old fits.lengths
    have same := followed.symm.trans fired
    have droppedFits : (relation.drop old).Fits changed := ⟨fits.settled, fits.numbered⟩
    have knows : KnowsOld relation old [relation.oldRow old, relation.newRow changed] := ⟨_, rfl⟩
    have dropped := copied.drop made (fun _ among => among) copied.tells member oldFits
      (copied.present old member) knows
    have presentDropped : (relation.drop old).HasKey table.primaryKey changed := present
    have put := dropped.put made.keyed droppedFits presentDropped offends
    cases same
    exact ⟨_, _, (madePut.with_full_text _).with_full_text _, put⟩

/-- An update that leaves the key columns alone keeps the mirror. -/
theorem change_modification_mirrored {row : List (String × Stored)} {condition : Condition}
    {effect : Effect} (mirrored : table.IsMirrored database)
    (keepsKey : ∀ entry ∈ row, ∀ key ∈ table.primaryKey, sameName entry.1 key = false)
    (done : database.change (table.modification row condition) = .ok effect) :
    table.IsMirrored effect.database := by
  obtain ⟨relation, shadow, made, copied⟩ := mirrored
  obtain ⟨depth, enough⟩ := objects_length_pos made
  rw [Database.change, enough, run_change_succ] at done
  simp only [runOnce, Table.modification, runUpdate, made.made] at done
  refine foldl_m_keeps (fun effect : Effect => table.IsMirrored effect.database) _ _
    ⟨relation, shadow, made, copied⟩ ?_ done
  intro state old next member mirroredNow updated
  refine update_row_mirrored rfl rfl ?_ mirroredNow updated
  intro assignment among key inKey
  obtain ⟨entry, inRow, rfl⟩ := List.mem_map.mp among
  exact keepsKey entry inRow key inKey

/-- A change of a table with another name keeps the mirror. -/
theorem change_elsewhere_mirrored {change : Change Stored} {effect : Effect}
    (mirrored : table.IsMirrored database) (outside : Outside table.ownNames (tableOf change))
    (done : database.change change = .ok effect) : table.IsMirrored effect.database := by
  obtain ⟨relation, shadow, made, copied⟩ := mirrored
  exact ⟨relation, shadow, made.agree (Database.change_outside made.closed outside done), copied⟩

end Engine

end RecordStore
