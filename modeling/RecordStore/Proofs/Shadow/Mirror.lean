import RecordStore.Proofs.Shadow.Copies

/-!
# The mirror of a table

A full-text table mirrors its table when it holds one copy of each row and nothing else. The
invariant adds what keeps it so: every row fits the relation, no key has a null in it, and the
key tells the rows apart. Then the copy that a trigger removes is the copy of the old row and
of no other.

The invariant is preserved row by row, by putting a row in, by taking one out, and by putting a
changed row in the place of an old one.
-/

namespace RecordStore

open Engine Sql

/-- Whether a copy is removed depends on nothing but its values. If it is removed exactly where the
row that it copies goes, copies and rows still belong together. Proof: the values that stay are told
from the rows. -/
theorem copies_filter {copies rows : List Row} {read : Row → List Stored}
    (removed goes : Row → Bool)
    (copied : (copies.map Row.values).Perm (rows.map read))
    (agree : ∀ copy ∈ copies, ∀ row ∈ rows, copy.values = read row → removed copy = goes row) :
    ((copies.filter fun copy => !removed copy).map Row.values).Perm
      ((rows.filter fun row => !goes row).map read) := by
  let stays (values : List Stored) : Bool := rows.any fun row => read row == values && !goes row
  have copyOf : ∀ copy ∈ copies, ∃ row ∈ rows, copy.values = read row := by
    intro copy member
    obtain ⟨row, among, same⟩ :=
      List.mem_map.mp (copied.subset (List.mem_map_of_mem (f := Row.values) member))
    exact ⟨row, among, same.symm⟩
  have rowOf : ∀ row ∈ rows, ∃ copy ∈ copies, copy.values = read row := by
    intro row member
    obtain ⟨copy, among, same⟩ :=
      List.mem_map.mp (copied.symm.subset (List.mem_map_of_mem (f := read) member))
    exact ⟨copy, among, same⟩
  have ofCopy : ∀ copy ∈ copies, (!removed copy) = stays copy.values := by
    intro copy member
    obtain ⟨row, among, same⟩ := copyOf copy member
    rw [Bool.eq_iff_iff, agree copy member row among same]
    simp only [stays, List.any_eq_true, Bool.and_eq_true, beq_iff_eq]
    constructor
    · exact fun kept => ⟨row, among, same.symm, kept⟩
    · rintro ⟨other, otherAmong, otherSame, kept⟩
      rw [← agree copy member row among same, agree copy member other otherAmong otherSame.symm]
      exact kept
  have ofRow : ∀ row ∈ rows, (!goes row) = stays (read row) := by
    intro row member
    obtain ⟨copy, among, same⟩ := rowOf row member
    rw [← agree copy among row member same, ofCopy copy among, same]
  have left : (copies.filter fun copy => !removed copy).map Row.values =
      (copies.map Row.values).filter stays := by
    rw [List.filter_map]
    exact congrArg _ (List.filter_congr ofCopy)
  have right : (rows.filter fun row => !goes row).map read = (rows.map read).filter stays := by
    rw [List.filter_map]
    exact congrArg _ (List.filter_congr ofRow)
  rw [left, right]
  exact copied.filter stays

namespace Table

/-- The full-text rows are copies of the rows of the relation, one of each, and the relation is
one in which keys find their rows. -/
structure IsCopied (table : Table) (relation : Relation) (shadow : FullTextTable) : Prop where
  fit : ∀ row ∈ relation.rows, relation.Fits row
  present : ∀ row ∈ relation.rows, relation.HasKey table.primaryKey row
  tells : relation.KeyTells table.primaryKey relation.rows
  copies : (shadow.rows.map Row.values).Perm
    (relation.rows.map (relation.project table.carriedColumns))

variable {table : Table} {database : Database} {relation : Relation} {shadow : FullTextTable}

/-- Copying a row with it keeps the copies. -/
theorem IsCopied.put {row : Row} (copied : table.IsCopied relation shadow)
    (keyed : relation.IsKeyedBy table.primaryKey) (fits : relation.Fits row)
    (present : relation.HasKey table.primaryKey row) (admitted : relation.fault? row = none) :
    table.IsCopied (relation.put row) (withCopy table relation shadow row) where
  fit other member := by
    rcases Relation.mem_put.mp member with rfl | old
    · exact ⟨fits.settled, fits.numbered⟩
    · exact ⟨(copied.fit other old).settled, (copied.fit other old).numbered⟩
  present other member := by
    rcases Relation.mem_put.mp member with rfl | old
    · exact present
    · exact copied.present other old
  tells := Relation.key_tells_put keyed copied.fit fits present admitted copied.tells
  copies := by
    have appended : (withCopy table relation shadow row).rows.map Row.values =
        shadow.rows.map Row.values ++ [relation.project table.carriedColumns row] := by
      simp [withCopy, insertFullText]
    rw [appended]
    refine (copied.copies.append_right _).trans ?_
    refine List.perm_append_singleton _ _ |>.trans ?_
    exact ((relation.put_rows row).map (relation.project table.carriedColumns)).symm

/-- Removing the copy of an old row with it keeps the copies. The old row need not stand in the
relation any more; it is enough that it did together with all rows that still do. -/
theorem IsCopied.drop {row : Row} {rows : List Row} {scope : Scope}
    (made : table.IsShadowed database relation shadow) (copied : table.IsCopied relation shadow)
    (earlier : relation.rows ⊆ rows) (tells : relation.KeyTells table.primaryKey rows)
    (stood : row ∈ rows) (fits : relation.Fits row)
    (present : relation.HasKey table.primaryKey row) (knows : KnowsOld relation row scope) :
    table.IsCopied (relation.drop row) (withoutCopy table shadow scope) where
  fit other member := by
    have old := (Relation.mem_drop.mp member).1
    exact ⟨(copied.fit other old).settled, (copied.fit other old).numbered⟩
  present other member := copied.present other (Relation.mem_drop.mp member).1
  tells := copied.tells.subset fun other member => (Relation.mem_drop.mp member).1
  copies := by
    refine copies_filter
      (fun copy => allHold (shadow.binding shadow.name copy .null :: scope)
        (some (copyConditions table)))
      (fun other => relation.rowOrder other row == .eq) copied.copies ?_
    intro copy _ other member same
    rw [copy_conditions_hold made knows (copied.fit other member) fits
      (copied.present other member) present same]
    rw [Bool.eq_iff_iff, beq_iff_eq, beq_iff_eq]
    exact (tells other (earlier member) row stood).symm

end Table

namespace Engine

variable {table : Table} {database : Database} {relation : Relation} {shadow : FullTextTable}

/-! ### Firing the triggers -/

/-- However deep a change stands, something follows its rows. -/
theorem run_change_runs (depth : Nat) (running : List String) (change : Change Stored) :
    ∃ fire, ∀ outer database,
      runChange depth running outer database change = runOnce fire outer database change := by
  cases depth with
  | zero => exact ⟨fun _ _ database => .ok database, fun _ _ => rfl⟩
  | succ depth =>
    exact ⟨follow depth running (tableOf change), fun outer database =>
      run_change_succ depth running outer database change⟩

/-- A database in which a table was made holds an object. -/
theorem objects_length_pos (made : table.IsShadowed database relation shadow) :
    ∃ depth, database.objects.length = depth + 1 := by
  cases objects : database.objects with
  | nil =>
    have found := made.made
    simp [Database.relation?, objects] at found
  | cons object rest => exact ⟨rest.length, rfl⟩

/-- The changes of a body one after the other. -/
def runBody (depth : Nat) (running : List String) (rows : Scope)
    (body : List (Change Stored)) (database : Database) : Except Fault Database :=
  body.foldlM (fun database step => do
    return (← runChange depth running rows database step).database) database

/-- A body goes on behind a change that was done. -/
theorem run_body_cons {depth : Nat} {running : List String} {rows : Scope}
    {step : Change Stored} {effect : Effect} (rest : List (Change Stored))
    (done : runChange depth running rows database step = .ok effect) :
    runBody depth running rows (step :: rest) database =
      runBody depth running rows rest effect.database := by
  simp only [runBody, List.foldlM_cons, done]
  rfl

/-- What follows a row of a table with one trigger is the body of the trigger. -/
theorem follow_eq (depth : Nat) {name : String} {event : RowEvent} (rows : Scope)
    {body : List (Change Stored)}
    (followed : (database.triggersOn name event).map Trigger.body = [body]) :
    ∃ running, follow depth [] name event rows database =
      runBody depth running rows body database := by
  obtain ⟨trigger, alone, rfl⟩ : ∃ trigger, database.triggersOn name event = [trigger] ∧
      trigger.body = body := by
    cases triggers : database.triggersOn name event with
    | nil => simp [triggers] at followed
    | cons trigger rest =>
      cases rest with
      | nil => exact ⟨trigger, rfl, by simpa [triggers] using followed⟩
      | cons _ _ => simp [triggers] at followed
  refine ⟨[trigger.name], ?_⟩
  simp only [follow, alone, List.filter_cons, List.contains_nil, Bool.not_false, if_true,
    List.filter_nil, List.foldlM_cons, List.foldlM_nil]
  exact bind_pure _

/-- Behind a row that is put in the triggers put in its copy. -/
theorem follow_insertion (made : table.IsShadowed database relation shadow) (depth : Nat)
    {row : Row} (lengths : row.values.length = relation.attributes.length) :
    follow depth [] table.name .insertion [relation.newRow row] database =
      .ok (database.withFullText (withCopy table relation shadow row)) := by
  obtain ⟨running, followed⟩ := follow_eq depth [relation.newRow row]
    (made.followed .insertion)
  obtain ⟨fire, runs⟩ := run_change_runs depth running table.shadowInsertion
  obtain ⟨number, copied⟩ := run_once_shadow_insertion made fire (.inl rfl) lengths
  rw [followed, run_body_cons [] ((runs _ _).trans copied)]
  rfl

/-- Behind a row that is taken out the triggers take out the copies with its key. -/
theorem follow_deletion (made : table.IsShadowed database relation shadow) (depth : Nat)
    (row : Row) :
    follow depth [] table.name .deletion [relation.oldRow row] database =
      .ok (database.withFullText (withoutCopy table shadow [relation.oldRow row])) := by
  obtain ⟨running, followed⟩ := follow_eq depth [relation.oldRow row] (made.followed .deletion)
  obtain ⟨fire, runs⟩ := run_change_runs depth running table.shadowDeletion
  have removed := run_once_shadow_deletion made fire [relation.oldRow row]
  rw [followed, run_body_cons [] ((runs _ _).trans removed)]
  rfl

/-- A changed row first loses its old copy and then gets a new one. -/
theorem follow_modification (made : table.IsShadowed database relation shadow) (depth : Nat)
    (old : Row) {row : Row} (lengths : row.values.length = relation.attributes.length) :
    let removed := withoutCopy table shadow [relation.oldRow old, relation.newRow row]
    follow depth [] table.name .modification [relation.oldRow old, relation.newRow row] database =
      .ok ((database.withFullText removed).withFullText (withCopy table relation removed row)) := by
  intro removed
  obtain ⟨running, followed⟩ := follow_eq depth [relation.oldRow old, relation.newRow row]
    (made.followed .modification)
  obtain ⟨deleting, runsDeletion⟩ := run_change_runs depth running table.shadowDeletion
  obtain ⟨inserting, runsInsertion⟩ := run_change_runs depth running table.shadowInsertion
  have gone := run_once_shadow_deletion made deleting [relation.oldRow old, relation.newRow row]
  have madeStill : table.IsShadowed (database.withFullText removed) relation removed :=
    made.with_full_text _
  obtain ⟨number, copied⟩ := run_once_shadow_insertion madeStill inserting (.inr ⟨old, rfl⟩) lengths
  rw [followed, run_body_cons [table.shadowInsertion] ((runsDeletion _ _).trans gone),
    run_body_cons [] ((runsInsertion _ _).trans copied)]
  rfl

end Engine

end RecordStore
