import RecordStore.Proofs.Engine.Faults
import RecordStore.Proofs.Store.KeyRows
import RecordStore.Proofs.Store.Turns

/-!
# Missing values

The engine fails a change for a value that is missing in a table when it puts the row together: an
insertion or an update of that table does, and nothing else that a call runs. What triggers do to
other tables can fail there for a missing value too. Such a fault names the other table.

In a table of a schema it is a column that must hold a value and was given null, or a column of a
key of several columns, which the engine needs whatever the column says. An update leaves the key
alone, so it can miss only the former.
-/

namespace RecordStore

open Engine Sql

namespace Engine

variable {name : String}

/-! ### Rows that miss a value -/

namespace Relation

variable {relation : Relation} {row : Row} {column : String}

/-- A column that a row misses is one of a required attribute with a null in it. -/
theorem missing?_some (misses : relation.missing? row = some column) :
    ∃ attr ∈ relation.attributes, attr.required = true ∧ attr.name = column ∧
      (relation.value row attr.name).isNull = true := by
  obtain ⟨attr, finds, rfl⟩ := Option.map_eq_some_iff.mp misses
  have found := List.find?_some finds
  simp only [Bool.and_eq_true] at found
  exact ⟨attr, List.mem_of_find?_eq_some finds, found.1, rfl, found.2⟩

/-- A row offends by a missing value only if it misses one. -/
theorem fault?_misses {fault : Fault} (offends : relation.fault? row = some fault)
    (misses : fault.misses name = true) :
    sameName relation.name name = true ∧ ∃ column, relation.missing? row = some column ∧
      fault = .notNullViolation relation.name column := by
  unfold fault? at offends
  split at offends
  · rename_i column missing
    cases offends
    exact ⟨misses, column, missing, rfl⟩
  · split at offends
    · cases offends
      cases misses
    · split at offends
      · cases offends
        cases misses
      · cases offends

end Relation

variable {relation : Relation} {row : Row} {fault : Fault}

/-- Where there is no room for a row because of a missing value, it is the relation's, and the row
misses it. -/
theorem room_for_misses {conflict : Conflict}
    (failed : roomFor relation row conflict = .error fault) (misses : fault.misses name = true) :
    sameName relation.name name = true ∧ ∃ column, relation.missing? row = some column ∧
      fault = .notNullViolation relation.name column := by
  unfold roomFor at failed
  split at failed
  · cases failed
  · rename_i offends
    split at failed
    · cases failed
      exact Relation.fault?_misses offends misses
    · cases failed
    · split at failed
      · cases failed
        exact Relation.fault?_misses offends misses
      · cases failed

/-- Numbering a row names no missing value. -/
theorem next_number_silent (database : Database) (relation : Relation) :
    IsSilent name (nextNumber database relation) := by
  unfold nextNumber
  extract_lets last given
  split
  · trivial
  · split <;> first | rfl | trivial

/-- Nor does giving it its number. -/
theorem numbered_row_silent (database : Database) (relation : Relation) (values : List Stored) :
    IsSilent name (numberedRow database relation values) := by
  unfold numberedRow
  extract_lets conformed
  cases relation.identity with
  | hidden => exact (next_number_silent database relation).bind fun _ _ _ => trivial
  | keyed => trivial
  | shown column neverAgain =>
    dsimp only
    cases Relation.valueIn relation.attributes conformed column with
    | null => exact (next_number_silent database relation).bind fun _ _ _ => trivial
    | integer number => trivial
    | _ => rfl

/-- Nor does numbering a row that is written over. -/
theorem renumbered_silent (relation : Relation) (row : Row) (values : List Stored) :
    IsSilent name (renumbered relation row values) := by
  unfold renumbered
  simp only
  split
  · split
    · trivial
    · rfl
  · trivial

/-- Nor does computing the rows of an insertion. -/
theorem inserted_rows_silent (database : Database) (outer : Scope) (attributes : List Attribute)
    (insertion : Insert Stored) : IsSilent name
      (insertedRows database outer attributes insertion) := by
  unfold insertedRows
  split
  · trivial
  · trivial
  · exact (select_silent database _).bind fun _ _ _ => trivial

/-! ### Changes row by row -/

/-- A computation that fails does so in its first part or in the rest. -/
theorem bind_fails {ε α β : Type} {problem : ε} {first : Except ε α} {next : α → Except ε β}
    (failed : (first >>= next) = .error problem) :
    first = .error problem ∨ ∃ middle, first = .ok middle ∧ next middle = .error problem := by
  cases first with
  | error other =>
    cases failed
    exact .inl rfl
  | ok middle => exact .inr ⟨middle, rfl, failed⟩

/-- A fold that fails does so in one of its steps, from a state that the steps before it kept. -/
theorem foldl_m_fails {State Item : Type} (Invariant : State → Prop)
    (step : State → Item → Except Fault State) (items : List Item) {start : State}
    (initially : Invariant start)
    (steps : ∀ state item next, item ∈ items → Invariant state → step state item = .ok next →
      Invariant next)
    (failed : items.foldlM step start = .error fault) :
    ∃ state, ∃ item ∈ items, Invariant state ∧ step state item = .error fault := by
  induction items generalizing start with
  | nil => cases failed
  | cons item rest inductionHypothesis =>
    rw [List.foldlM_cons] at failed
    rcases bind_fails failed with here | ⟨next, stepped, later⟩
    · exact ⟨start, item, List.mem_cons_self, initially, here⟩
    · obtain ⟨state, other, member, holds, fails⟩ := inductionHypothesis
        (steps start item next List.mem_cons_self initially stepped)
        (fun state other later member => steps state other later (List.mem_cons_of_mem item member))
        later
      exact ⟨state, other, List.mem_cons_of_mem item member, holds, fails⟩

/-- What follows a row finds nothing missing in a table that no trigger changes. -/
def Fire.IsSilent (fire : Fire) (name : String) : Prop :=
  ∀ event rows database, database.Spares name → Engine.IsSilent name (fire event rows database)

section Rows

variable {fire : Fire} (follows : fire.IsSilent name) {table : String} {effect : Effect}
  (spared : effect.database.Spares name)

include follows spared

/-- Putting a row in fails for a missing value only if the row misses it. -/
theorem insert_row_misses {conflict : Conflict} {values : List Stored}
    (failed : insertRow fire conflict table effect values = .error fault)
    (misses : fault.misses name = true) :
    ∃ relation row column, effect.database.relation? table = some relation ∧
      sameName relation.name name = true ∧
      numberedRow effect.database relation values = .ok row ∧
      relation.missing? row = some column ∧ fault = .notNullViolation relation.name column := by
  unfold insertRow at failed
  split at failed
  · cases failed
    cases misses
  · rename_i relation found
    rcases bind_fails failed with unnumbered | ⟨row, numbered, failed⟩
    · cases ((numbered_row_silent _ _ _).misses unnumbered).symm.trans misses
    · rcases bind_fails failed with refused | ⟨room, makes, failed⟩
      · obtain ⟨same, column, missing, rfl⟩ := room_for_misses refused misses
        exact ⟨relation, row, column, found, same, numbered, missing, rfl⟩
      · cases room with
        | none => cases failed
        | some admitted =>
          rcases bind_fails failed with followed | ⟨after, -, ended⟩
          · have sparedNow : (withRow effect.database admitted row).Spares name :=
              spared.congr (triggers_on_with_row effect.database admitted row)
            cases ((follows _ _ _ sparedNow).misses followed).symm.trans misses
          · cases ended

/-- So does putting a row in the place of another one. -/
theorem update_row_misses {outer : Scope} {modification : Update Stored} {target : Row}
    (failed : updateRow fire outer modification effect target = .error fault)
    (misses : fault.misses name = true) :
    ∃ relation old new column, effect.database.relation? modification.table = some relation ∧
      sameName relation.name name = true ∧ old ∈ relation.rows ∧
      renumbered relation old (assigned relation.attributes
        (relation.binding relation.name old :: outer) modification.assignments old.values) =
          .ok new ∧
      relation.missing? new = some column ∧ fault = .notNullViolation relation.name column := by
  unfold updateRow at failed
  split at failed
  · cases failed
  · rename_i relation found
    split at failed
    · cases failed
    · rename_i old standing
      simp only at failed
      rcases bind_fails failed with unnumbered | ⟨new, changed, failed⟩
      · cases ((renumbered_silent _ _ _).misses unnumbered).symm.trans misses
      · rcases bind_fails failed with refused | ⟨room, makes, failed⟩
        · obtain ⟨same, column, missing, rfl⟩ := room_for_misses refused misses
          exact ⟨relation, old, new, column, found, same,
            Relation.mem_of_standing? standing, changed, missing, rfl⟩
        · cases room with
          | none => cases failed
          | some admitted =>
            rcases bind_fails failed with followed | ⟨after, -, ended⟩
            · have sparedNow : (effect.database.withRelation (admitted.put new)).Spares name :=
                spared.congr (Database.triggers_on_with_relation _ _)
              cases ((follows _ _ _ sparedNow).misses followed).symm.trans misses
            · cases ended

/-- Taking a row out finds nothing missing. -/
theorem delete_row_silent (row : Row) : Engine.IsSilent name (deleteRow fire table effect row) := by
  unfold deleteRow
  split
  · trivial
  · split
    · trivial
    · refine Ends.bind (follows _ _ _ ?_) fun _ _ _ => trivial
      exact spared.congr (Database.triggers_on_with_relation _ _)

end Rows

/-! ### Changes of other tables -/

/-- Steps about other tables leave it so that no trigger changes a table. -/
theorem kept_by_steps_spares (name : String) :
    KeptBySteps (fun other => sameName other name = false)
      (fun database => database.Spares name) where
  congr other same := by
    rw [same_name_congr same]
    exact other
  withRelation _ spared := spared.congr (Database.triggers_on_with_relation _ _)
  withFullText _ spared := spared.congr (Database.triggers_on_with_full_text _ _)
  noteNumber relation row spared := by
    unfold noteNumber
    split <;> exact spared

section Elsewhere

variable {fire : Fire} {database : Database} {outer : Scope} (follows : fire.IsSilent name)
  (keeps : fire.Keeps fun database => database.Spares name) (spared : database.Spares name)

/-- A relation that is found under another name has not the name. -/
theorem elsewhere_of_relation? {table : String} {relation : Relation}
    (found : database.relation? table = some relation) (other : sameName table name = false) :
    sameName relation.name name ≠ true := by
  rw [same_name_congr (Database.relation?_name found), other]
  exact Bool.false_ne_true

include follows keeps spared

/-- An insertion into another table finds nothing missing in a table. -/
theorem run_insert_silent {insertion : Insert Stored}
    (other : sameName insertion.table name = false) :
    IsSilent name (runInsert fire outer database insertion) := by
  refine Ends.of_cases (fun _ _ => trivial) fun fault failed => eq_false_of_ne_true fun misses => ?_
  unfold runInsert at failed
  split at failed
  · rcases bind_fails failed with unread | ⟨rows, -, folded⟩
    · cases ((inserted_rows_silent _ _ _ _).misses unread).symm.trans misses
    · obtain ⟨effect, values, -, sparedNow, inserted⟩ := foldl_m_fails
        (fun effect : Effect => effect.database.Spares name) _ rows spared
        (fun _ _ _ _ sparedNow =>
          insert_row_keeps (kept_by_steps_spares name) keeps other sparedNow) folded
      obtain ⟨relation, -, -, found, same, -⟩ :=
        insert_row_misses follows sparedNow inserted misses
      exact elsewhere_of_relation? found other same
  · split at failed
    · cases failed
      cases misses
    · rcases bind_fails failed with unread | ⟨rows, -, folded⟩
      · cases ((inserted_rows_silent _ _ _ _).misses unread).symm.trans misses
      · cases folded

/-- An update of another table finds nothing missing in a table. -/
theorem run_update_silent {modification : Update Stored}
    (other : sameName modification.table name = false) :
    IsSilent name (runUpdate fire outer database modification) := by
  refine Ends.of_cases (fun _ _ => trivial) fun fault failed => eq_false_of_ne_true fun misses => ?_
  unfold runUpdate at failed
  split at failed
  · obtain ⟨effect, target, -, sparedNow, updated⟩ := foldl_m_fails
      (fun effect : Effect => effect.database.Spares name) _ _ spared
      (fun _ _ _ _ sparedNow =>
        update_row_keeps (kept_by_steps_spares name) keeps other sparedNow) failed
    obtain ⟨relation, -, -, -, found, same, -⟩ :=
      update_row_misses follows sparedNow updated misses
    exact elsewhere_of_relation? found other same
  · split at failed
    · cases failed
      cases misses
    · cases failed

/-- A deletion in another table finds nothing missing in a table. -/
theorem run_delete_silent {deletion : Delete Stored}
    (other : sameName deletion.table name = false) :
    IsSilent name (runDelete fire outer database deletion) := by
  refine Ends.of_cases (fun _ _ => trivial) fun fault failed => eq_false_of_ne_true fun misses => ?_
  unfold runDelete at failed
  split at failed
  · obtain ⟨effect, row, -, sparedNow, deleted⟩ := foldl_m_fails
      (fun effect : Effect => effect.database.Spares name) _ _ spared
      (fun _ _ _ _ sparedNow =>
        delete_row_keeps (kept_by_steps_spares name) keeps other sparedNow) failed
    cases ((delete_row_silent follows sparedNow row).misses deleted).symm.trans misses
  · split at failed
    · cases failed
      cases misses
    · cases failed

/-- A change of another table finds nothing missing in a table, whatever kind of change it is. -/
theorem run_once_silent {change : Change Stored} (other : sameName (tableOf change) name = false) :
    IsSilent name (runOnce fire outer database change) := by
  cases change with
  | insert => exact run_insert_silent follows keeps spared other
  | update => exact run_update_silent follows keeps spared other
  | delete => exact run_delete_silent follows keeps spared other

end Elsewhere

/-- So does what follows a row, if the changes in the bodies of the triggers find nothing
missing. -/
theorem follow_silent_what {depth : Nat} {running : List String} {table : String}
    (runs : ∀ running outer database step, sameName (tableOf step) name = false →
      database.Spares name → IsSilent name (runChange depth running outer database step)) :
    (follow depth running table).IsSilent name := by
  intro event rows database spared
  have kept : ∀ running outer state step, sameName (tableOf step) name = false →
      state.Spares name → Ends name (fun after : Database => after.Spares name)
        (runChange depth running outer state step >>= fun effect => pure effect.database) := by
    intro running outer state step other sparedNow
    refine (runs running outer state step other sparedNow).bind fun effect done _ => ?_
    exact run_change_keeps (kept_by_steps_spares name)
      (fun _ _ event database spares => spares _ event) other sparedNow done
  refine Ends.silent (?_ : Ends name (fun after : Database => after.Spares name) _)
  refine Ends.foldl_m spared fun state trigger member sparedNow => ?_
  refine Ends.foldl_m sparedNow fun later step inBody sparedThen => ?_
  exact kept _ _ later step (spared _ _ trigger (List.mem_filter.mp member).1 step inBody)
    sparedThen

/-- A change of another table with all that its triggers do finds nothing missing in a table that no
trigger changes. The induction is on how deep triggers may still start each other. -/
theorem run_change_silent (depth : Nat) (running : List String) (outer : Scope)
    {database : Database} {change : Change Stored} (other : sameName (tableOf change) name = false)
    (spared : database.Spares name) :
    IsSilent name (runChange depth running outer database change) := by
  induction depth generalizing running outer database change with
  | zero =>
    refine run_once_silent ?_ ?_ spared other
    · exact fun _ _ before _ => (trivial : IsSilent name (.ok before))
    · rintro event rows before after holds ⟨⟩
      exact holds
  | succ depth inductionHypothesis =>
    refine run_once_silent (follow_silent_what fun running outer _ _ =>
      inductionHypothesis running outer) ?_ spared other
    exact follow_keeps (kept_by_steps_spares name)
      (fun _ _ event database spares => spares _ event) depth
      running fun event database spares => spares _ event

/-- What follows the rows of any table finds nothing missing in one that no trigger changes. -/
theorem follow_silent (depth : Nat) (running : List String) (table : String) :
    (follow depth running table).IsSilent name :=
  follow_silent_what fun running outer _ _ => run_change_silent depth running outer

/-- What follows the rows of a change leaves a table alone that no trigger changes, and finds
nothing missing in it. -/
theorem change_silently (database : Database) (change : Change Stored) (name : String) :
    ∃ fire : Fire, fire.Spares name ∧ fire.IsSilent name ∧
      database.change change = runOnce fire [] database change := by
  obtain ⟨fire, rfl | ⟨depth, rfl⟩, once⟩ := change_fires database change
  · refine ⟨_, ?_, ?_, once⟩
    · rintro event rows before after - ⟨⟩
      exact .refl _ _
    · exact fun _ _ after _ => (trivial : IsSilent name (.ok after))
  · exact ⟨_, follow_spares depth [] (tableOf change) name,
      follow_silent depth [] (tableOf change), once⟩

end Engine

/-! ### Changes of the table itself -/

namespace Table

variable {table : Table} {database : Database} {relation : Relation} {row : List (String × Stored)}
  {fault : Fault} {name : String}

/-- What must have a value in the relation of a table: the columns that cannot be null, and those of
a key of several columns. -/
theorem required_attribute (distinct : table.columnNames.Nodup) {attr : Attribute}
    (member : attr ∈ table.attributes) (required : attr.required = true) :
    ∃ column ∈ table.columns, column.name = attr.name ∧
      (column.nullable = false ∨ (table.hasCompositeKey = true ∧ column.primaryKey = true)) := by
  unfold attributes requireKey at member
  split at member
  · rename_i composite
    rw [List.map_map] at member
    obtain ⟨column, inTable, rfl⟩ := List.mem_map.mp member
    simp only [Function.comp_apply] at required ⊢
    split at required
    · rename_i inKey
      obtain ⟨key, keyInTable, isKey, named⟩ := mem_primary_key.mp (List.contains_iff_mem.mp inKey)
      have same : key = column := List.inj_on_of_nodup_map distinct keyInTable inTable named
      refine ⟨column, inTable, ?_, .inr ⟨composite, same ▸ isKey⟩⟩
      split <;> rfl
    · refine ⟨column, inTable, ?_, .inl (by simpa [Column.attribute] using required)⟩
      split <;> rfl
  · obtain ⟨column, inTable, rfl⟩ := List.mem_map.mp member
    exact ⟨column, inTable, rfl, .inl (by simpa [Column.attribute] using required)⟩

/-- An insertion fails for a missing value only if the row that is put in misses it. -/
theorem IsKeptIn.insertion_misses (kept : table.IsKeptIn database relation)
    (failed : database.change (table.insertion row) = .error fault)
    (misses : fault.misses table.name = true) : ∃ put column,
      numberedRow database relation (givenValues relation.attributes row) = .ok put ∧
      relation.missing? put = some column ∧ fault = .notNullViolation table.name column := by
  obtain ⟨fire, -, silent, once⟩ := change_silently database (table.insertion row) table.name
  rw [once, run_once_insertion fire kept.found] at failed
  obtain ⟨found, put, column, finds, -, numbered, missing, rfl⟩ :=
    insert_row_misses silent kept.spared failed misses
  cases kept.found.symm.trans finds
  exact ⟨put, column, numbered, missing, by rw [kept.name]⟩

/-- The column that the row misses has a null or nothing in what is inserted. Proof: a column that
the engine numbers shows the number, and were a value stored, the row would have it. -/
theorem IsKeptIn.insertion_lacks (kept : table.IsKeptIn database relation)
    (admitted : table.IsAdmitted) (names : row.map Prod.fst =
      (table.columns.filter fun column => !column.autoincrement).map Column.name) {put : Row}
    (numbered : numberedRow database relation (givenValues relation.attributes row) = .ok put)
    (missing : relation.missing? put = some name) :
    ∃ column ∈ table.columns, column.name = name ∧ column.autoincrement = false ∧
      (column.nullable = false ∨ (table.hasCompositeKey = true ∧ column.primaryKey = true)) ∧
      ∀ value, (column.name, value) ∈ row → value.isNull = true := by
  have lengths : (givenValues relation.attributes row).length = relation.attributes.length :=
    arranged_length _ _ _
  obtain ⟨attr, member, required, rfl, null⟩ := Relation.missing?_some missing
  rw [kept.attributes] at member
  obtain ⟨column, inTable, named, needs⟩ := required_attribute kept.distinct member required
  rw [← named] at null
  refine ⟨column, inTable, named, ?_, needs, fun value among => ?_⟩
  · refine eq_false_of_ne_true fun auto => ?_
    have shown := kept.shows admitted (admitted.autoincrement_key? kept.apart inTable auto)
    rw [numbered_row_shows numbered lengths shown (by
      rw [kept.attributes, attributes_names]
      exact List.mem_map_of_mem inTable)] at null
    cases null
  · obtain ⟨attr, means, -, affinity⟩ := kept.meant? inTable
    have apart : ToldApart (row.map Prod.fst) := by
      rw [names]
      exact kept.apart.sublist (List.filter_sublist.map Column.name)
    have conformed : Relation.valueIn relation.attributes (Relation.conform relation.attributes
        (givenValues relation.attributes row)) column.name = column.type.affinity.store value := by
      rw [Relation.value_in_conform_of_meant lengths means, affinity,
        value_in_given_values apart among means]
    by_contra present
    rw [numbered_row_value numbered fun _ _ _ _ => by
      rw [conformed, Affinity.store_is_null]
      exact eq_false_of_ne_true present, conformed, Affinity.store_is_null] at null
    exact present null

/-- An update fails for a missing value only if a row that is put in the place of another one misses
it. -/
theorem IsSoundIn.modification_misses (held : table.IsSoundIn database relation)
    {condition : Condition}
    (failed : database.change (table.modification row condition) = .error fault)
    (misses : fault.misses table.name = true) : ∃ now relationNow old new column,
      table.IsSoundIn now relationNow ∧ old ∈ relationNow.rows ∧
      Engine.renumbered relationNow old (overlaid relationNow.attributes row old.values) = .ok new ∧
      relationNow.missing? new = some column ∧ fault = .notNullViolation table.name column := by
  obtain ⟨fire, spares, silent, once⟩ :=
    change_silently database (table.modification row condition) table.name
  rw [once] at failed
  simp only [runOnce, modification, runUpdate, held.found] at failed
  obtain ⟨effect, target, -, ⟨relationNow, heldNow⟩, updated⟩ := foldl_m_fails
    (fun effect : Effect => table.IsSoundlyKept effect.database) _ _ ⟨relation, held⟩
    (fun state row next _ kept done => by
      obtain ⟨now, heldThen⟩ := kept
      rcases update_row_sound spares (same_name_refl _) heldThen rfl done with
        ⟨rfl, -⟩ | ⟨_, _, _, _, _, _, _, _, _, heldNext⟩
      · exact ⟨now, heldThen⟩
      · exact ⟨_, heldNext⟩) failed
  obtain ⟨found, old, new, column, finds, -, among, changed, missing, rfl⟩ :=
    update_row_misses silent heldNow.spared updated misses
  cases heldNow.found.symm.trans finds
  rw [assigned_operands] at changed
  exact ⟨_, relationNow, old, new, column, heldNow, among, changed, missing, by rw [heldNow.name]⟩

/-- The column that such a row misses is none of the key, and has a null or nothing in what is
written. Proof: the key is that of the old row, which misses nothing. -/
theorem IsSoundIn.modification_lacks (held : table.IsSoundIn database relation)
    (apart : ToldApart (row.map Prod.fst))
    (spares : ∀ column ∈ table.columns, column.primaryKey = true →
      ∀ entry ∈ row, sameName entry.1 column.name = false) {old new : Row}
    (among : old ∈ relation.rows)
    (changed : Engine.renumbered relation old
      (overlaid relation.attributes row old.values) = .ok new)
    (missing : relation.missing? new = some name) :
    ∃ column ∈ table.columns, column.name = name ∧ column.primaryKey = false ∧
      column.nullable = false ∧ ∀ value, (column.name, value) ∈ row → value.isNull = true := by
  have full := (held.rows old among).full
  have lengths := (replace_all_length relation.attributes row old.values).trans full
  obtain ⟨attr, member, required, rfl, null⟩ := Relation.missing?_some missing
  obtain ⟨column, inTable, named, needs⟩ :=
    required_attribute held.distinct (held.attributes ▸ member) required
  rw [← named, held.is_read_in.value] at null
  have outside : column.primaryKey = false := by
    refine eq_false_of_ne_true fun isKey => ?_
    have present := held.required member required among
    rw [held.renumbered_same lengths changed among inTable
      (value_in_replace_all_other (spares column inTable isKey) old.values),
      ← held.is_read_in.value, named, present] at null
    cases null
  refine ⟨column, inTable, named, outside, ?_, fun value inRow => ?_⟩
  · rcases needs with required | ⟨-, isKey⟩
    · exact required
    · cases outside.symm.trans isKey
  · obtain ⟨attr, means, -, -⟩ := held.meant? inTable
    have written : Relation.valueIn relation.attributes
        (overlaid relation.attributes row old.values) column.name = value :=
      value_in_replace_all apart full inRow means
    rw [held.renumbered_value lengths changed inTable, Affinity.store_is_null] at null
    exact written ▸ null

end Table

/-! ### Calls -/

namespace Engine.Access

variable {access : Access} {change : Change Stored} {fault : Fault} {name : String}

/-- A change fails for a missing value only as a change of the database that is seen: the check of
its names finds none missing, and neither does what has to be held. -/
theorem run_change_misses (failed : (access.run (.change change)).answer = .error fault)
    (misses : fault.misses name = true) :
    access.visible.change (change.mapOperands Stored.bound) = .error fault := by
  have checks : IsSilent name (access.check (.change (change.mapOperands Stored.bound))) :=
    (check_change_silent access.visible [] _).bind fun _ _ _ =>
      check_triggers_silent access.visible _
  unfold run at failed
  simp only [Statement.mapOperands] at failed
  split at failed
  · rename_i refused
    cases failed
    cases (checks.misses refused).symm.trans misses
  · change (access.runChange (change.mapOperands Stored.bound)).answer = .error fault at failed
    rcases run_change_cases access (change.mapOperands Stored.bound) with
      ⟨other, refused, ran⟩ | ⟨held, working, granted, which, ⟨other, fails, ran⟩ |
        ⟨effect, -, ⟨other, refused, ran⟩ | ⟨final, -, ran⟩⟩⟩
    · rw [ran] at failed
      cases failed
      cases (for_writing_error refused).1
      cases misses
    · rw [ran] at failed
      cases failed
      rw [← (working_kept granted which).1]
      exact fails
    · rw [ran] at failed
      cases failed
      cases (keep_error refused).1
      cases misses
    · rw [ran] at failed
      cases failed

end Engine.Access

/-- A change of a store fails so too, unless an outage strikes the call. -/
theorem Operation.executing_misses {change : Change Stored} {store after : Store} {fault : Fault}
    {statement name : String}
    (failed : (executing (.change change)).apply store = (.error (.engine fault statement), after))
    (misses : fault.misses name = true)
    (elsewhere : ∀ outage, store.host.outage? = some outage → outage.fault.misses name = false) :
    store.visible.change (change.mapOperands Stored.bound) = .error fault := by
  rcases executing_error failed with ⟨which, -⟩ | ⟨connection, other, opened, which,
    ⟨outage, strikes, rfl, -⟩ | ⟨refused, -⟩⟩
  · cases which
  · cases which
    cases (elsewhere outage strikes).symm.trans misses
  · cases which
    rw [Store.visible_of_connection opened]
    exact Access.run_change_misses refused misses

end RecordStore
