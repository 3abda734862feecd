import RecordStore.Proofs.Store.KeyRows
import RecordStore.Proofs.Store.Reading
import RecordStore.Proofs.Store.Writing

/-!
# Calls about the row of a key

Removing, updating and finding by a key go about the rows on which the condition of the key holds.
In a table that is kept soundly that is one row at most, so one row at most is removed or written,
and which row is found does not depend on the order in which the rows are read.
-/

namespace RecordStore

open Engine Sql

namespace Operation

variable {model : Model} {handle : Handle model} {key : Key} {criteria : Criteria}
  {store after : Store} {count : Nat}

/-- A change that is answered was made of the database that was shown, and the rows that it changed
itself are answered. -/
theorem executing_ok {change : Change Stored}
    (answered : (executing (.change change)).apply store = (.ok count, after)) :
    ∃ effect, store.visible.change (change.mapOperands Stored.bound) = .ok effect ∧
      count = effect.changed ∧ after.visible = effect.database := by
  obtain ⟨connection, opened, counted, execution, rfl⟩ := on_connection_ok answered
  obtain ⟨⟨answer, ran⟩, counts⟩ := Access.counted_ok counted
  obtain ⟨effect, done, seen, changes, -⟩ := Access.run_change_ok ran
  refine ⟨effect, ?_, counts.trans changes, ?_⟩
  · rw [Store.visible_of_connection opened]
    exact done
  · rw [Store.used_visible, counted_access, seen]

/-- Removing is the deletion under the condition of the key. -/
theorem remove_apply {condition : Condition} (accepts : key.criteria handle.table = .ok criteria)
    (compiled : criteria.condition handle.table "remove" = .ok condition) (store : Store) :
    (remove handle key).apply store =
      (executing (.change (handle.table.deletion condition))).apply store := by
  rw [remove, apply_bind, apply_of_except, accepts]
  simp only
  rw [apply_bind, apply_of_except, compiled]

/-- A removal that is answered is one whose condition compiles. -/
theorem remove_ok (accepts : key.criteria handle.table = .ok criteria)
    (answered : (remove handle key).apply store = (.ok count, after)) :
    ∃ condition, criteria.condition handle.table "remove" = .ok condition ∧
      (executing (.change (handle.table.deletion condition))).apply store = (.ok count, after) := by
  cases compiled : criteria.condition handle.table "remove" with
  | error problem =>
    rw [remove, apply_bind, apply_of_except, accepts] at answered
    simp only at answered
    rw [apply_bind, apply_of_except, compiled] at answered
    cases answered
  | ok condition => exact ⟨condition, rfl, remove_apply accepts compiled store ▸ answered⟩

/-- Writing over the row of a key, when it is answered, is a modification under the condition of the
key that changed something. -/
theorem overwrite_ok {table : Table} {row : List (String × Stored)}
    (answered : (Store.overwrite table criteria row).apply store = (.ok (), after)) :
    ∃ condition count, criteria.condition table "update" = .ok condition ∧ count ≠ 0 ∧
      (executing (.change (table.modification row condition))).apply store =
        (.ok count, after) := by
  rcases overwrite_cases table criteria row store with
    ⟨-, problem, refused⟩ | ⟨condition, result, last, compiled, ran, comes⟩
  · cases refused.symm.trans answered
  · rw [comes] at answered
    obtain ⟨counted, rfl⟩ := Prod.mk.inj answered
    obtain ⟨count, rfl, counts⟩ := bind_ok counted
    split at counts
    · cases counts
    · rename_i changed
      exact ⟨condition, count, compiled, changed, ran⟩

/-- What is found by a key is what its query answers. -/
theorem find_one_apply {query : Select Stored} (accepts : key.criteria handle.table = .ok criteria)
    (compiles : Request.findingOne handle.table criteria = .ok query) (store : Store) :
    ((findOne handle key).apply store).1 =
      (((answering (.select query)).apply store).1.bind (loadAll handle.table)).map
        List.head? := by
  rw [findOne, apply_bind, apply_of_except, accepts]
  simp only
  rw [apply_bind, apply_of_except, compiles]
  simp only
  rw [apply_bind, fetching, apply_bind]
  rcases (answering (.select query)).apply store with ⟨problem | answer, left⟩
  · rfl
  · simp only [apply_of_except]
    change _ = (loadAll handle.table answer).map List.head?
    cases (loadAll handle.table answer : Except StoreError (List (Entity model))) <;> rfl

end Operation

/-- An update that is answered writes the row that was drawn over the row of the key of the
entity. -/
theorem Store.update_ok {model : Model} {handle : Handle model} {entity saved : Entity model}
    {criteria : Criteria} {store after : Store}
    (accepts : (entity.key handle.table).criteria handle.table = .ok criteria)
    (answered : store.update handle entity = (⟨saved, .ok ()⟩, after)) :
    ∃ row before, (entity.row handle.table true store.host.count).outcome = .ok row ∧
      before.visible = store.visible ∧
      (overwrite handle.table criteria row).apply before = (.ok (), after) := by
  rcases store.update_cases handle entity with ⟨problem, refused, -⟩ | ⟨_, acceptsToo,
    ⟨problem, -, ended⟩ | ⟨row, result, left, drawn, written, ended⟩⟩
  · cases accepts.symm.trans refused
  · cases ended.symm.trans answered
  · cases accepts.symm.trans acceptsToo
    cases ended.symm.trans answered
    exact ⟨row, store.withCount (entity.row handle.table true store.host.count).count, drawn, rfl,
      written⟩

namespace Table

variable {table : Table} {relation : Relation} {key : Key} {criteria : Criteria}

/-- The query for the first row that meets criteria answers with the one row at most that meets
them. -/
theorem IsReadIn.select_first {database : Database} (read : table.IsReadIn database relation)
    (faultless : table.fault? = none) {conditions : List Condition}
    (stated : statedConditions (some criteria) none table none = .ok conditions)
    (few : (relation.rows.filter fun row => criteria.isMetIn table row.values).length ≤ 1) :
    let query := (table.firstQuery (Expression.conjunction? conditions)).mapOperands Stored.bound
    checkSelect database query = .ok () ∧
      select database query = .ok ⟨table.columnNames,
        (relation.rows.filter fun row => criteria.isMetIn table row.values).map Row.values⟩ := by
  intro query
  let request : Request := { criteria := some criteria }
  obtain ⟨within, decides⟩ := request.condition_decides faultless read stated
  have answers := select_first_query read (is_admitted_of_fault? faultless).some_column within
    decides few
  rw [← first_query_map_operands] at answers
  exact answers

/-- Two stores that show the rows of a table in different orders find the same by a key that names
one row at most. -/
theorem IsSoundIn.finds_alike {model : Model} {handle : Handle model} {left right : Store}
    {rows : List Row} (held : handle.table.IsSoundIn left.visible relation)
    (faultless : handle.table.fault? = none) (accepts : key.criteria handle.table = .ok criteria)
    (names : ¬ key.NamesNull handle.table) (alike : left.Alike right)
    (perm : rows.Perm relation.rows)
    (found : right.visible.relation? handle.table.name = some { relation with rows }) :
    ((Operation.findOne handle key).apply left).1 =
      ((Operation.findOne handle key).apply right).1 := by
  obtain ⟨conditions, stated⟩ := held.key_states faultless accepts
  have few := held.few faultless accepts names
  have same : (rows.filter fun row => criteria.isMetIn handle.table row.values) =
      relation.rows.filter fun row => criteria.isMetIn handle.table row.values :=
    eq_of_perm_of_few (perm.filter _) few
  have read := held.is_read_in
  have readToo : handle.table.IsReadIn right.visible { relation with rows } :=
    ⟨found, read.attributes, read.apart, fun row member => read.full row (perm.subset member)⟩
  let query := handle.table.firstQuery (Expression.conjunction? conditions)
  have source : (query.mapOperands Stored.bound).source.isNone = false := rfl
  have answers : ((Operation.answering (.select query)).apply left).1 =
      ((Operation.answering (.select query)).apply right).1 := by
    refine Operation.answering_alike alike query
      fun leftAccess leftOpened rightAccess rightOpened reads => ?_
    rw [Store.visible_of_access? leftOpened] at read
    rw [Store.visible_of_access? rightOpened] at readToo
    obtain ⟨checked, selected⟩ := read.select_first faultless stated few
    obtain ⟨checkedToo, selectedToo⟩ := readToo.select_first faultless stated
      (show (rows.filter _).length ≤ 1 from same ▸ few)
    rw [Access.run_select checked, Access.run_select checkedToo, Access.run_select_reads _ source,
      Access.run_select_reads _ source, selected, selectedToo, Access.for_reading_bind reads]
    simp only [same]
  rw [Operation.find_one_apply accepts (Request.finding_one_ok stated), answers,
    Operation.find_one_apply accepts (Request.finding_one_ok stated)]

/-- A removal by a key that names one row at most, when it is answered, takes one row out at most,
and answers how many. -/
theorem IsSoundIn.removes {model : Model} {handle : Handle model} {store after : Store}
    {count : Nat}
    (held : handle.table.IsSoundIn store.visible relation) (faultless : handle.table.fault? = none)
    (accepts : key.criteria handle.table = .ok criteria) (names : ¬ key.NamesNull handle.table)
    (answered : (Operation.remove handle key).apply store = (.ok count, after)) :
    count ≤ 1 ∧ ∃ gone left, gone.length = count ∧ relation.rows.Perm (gone ++ left) ∧
      after.visible.relation? handle.table.name = some { relation with rows := left } := by
  obtain ⟨condition, compiled, ran⟩ := Operation.remove_ok accepts answered
  obtain ⟨effect, done, rfl, seen⟩ := Operation.executing_ok ran
  rw [deletion_bound] at done
  obtain ⟨few, gone, left, length, perm, heldNow⟩ :=
    held.deletes_one (held.few_under faultless accepts names compiled) done
  exact ⟨few, gone, left, length, perm, seen ▸ heldNow.found⟩

/-- An update by such a key, when it is answered, puts one row in the place of another. -/
theorem IsSoundIn.updates {model : Model} {handle : Handle model} {store after : Store}
    {entity saved : Entity model} (held : handle.table.IsSoundIn store.visible relation)
    (faultless : handle.table.fault? = none)
    (accepts : (entity.key handle.table).criteria handle.table = .ok criteria)
    (names : ¬ (entity.key handle.table).NamesNull handle.table)
    (answered : store.update handle entity = (⟨saved, .ok ()⟩, after)) :
    ∃ old new kept rows, relation.rows.Perm (old :: kept) ∧ rows.Perm (new :: kept) ∧
      after.visible.relation? handle.table.name = some { relation with rows } := by
  obtain ⟨row, before, -, same, written⟩ := Store.update_ok accepts answered
  obtain ⟨condition, count, compiled, some, ran⟩ := Operation.overwrite_ok written
  obtain ⟨effect, done, rfl, seen⟩ := Operation.executing_ok ran
  rw [modification_bound, same] at done
  rcases held.modifies_one (held.few_under faultless accepts names compiled) done with
    ⟨-, rfl⟩ | ⟨old, among, -, -, new, -, heldNow⟩
  · exact absurd rfl some
  · exact ⟨old, new, (relation.drop old).rows, ((relation.drop old).put new).rows,
      held.sound.drop_perm among, (relation.drop old).put_rows new, seen ▸ heldNow.found⟩

end Table

/-- A key names one row at most, of a table of a schema that was created in an idle store, after any
run of calls that write, unless it is null in a key of one column that may be null and does not
number the rows. One stored row at most meets what the key asks. A removal by the key that is
answered takes one row out at most, and an update that is answered puts one row in the place of
another. Finding by the key answers the same in every store that shows the same rows in whatever
order.

Proof: creation leaves the table with rows that stand apart, and every step of a run keeps it so;
rows with one key stand at one place, unless the key is null where nulls are not told apart. -/
theorem key_names_one_row_at_most {tables : List Table} {schema : Schema} {store made last : Store}
    {table : Table} {key : Key} {criteria : Criteria}
    (accepted : Schema.ofTables tables = .ok schema) (member : table ∈ schema.tables)
    (idle : store.IsIdle) (well : store.visible.WellFollowed)
    (created : schema.IsCreated store made) (writing : made.Writing last)
    (accepts : key.criteria table = .ok criteria) (names : ¬ key.NamesNull table) :
    (last.Shows fun database => ∃ relation, database.relation? table.name = some relation ∧
      (relation.rows.filter fun row => criteria.isMetIn table row.values).length ≤ 1) ∧
    ∀ relation, last.visible.relation? table.name = some relation →
      ∀ {model : Model} (handle : Handle model), handle.table = table →
        (∀ count after, (Operation.remove handle key).apply last = (.ok count, after) →
          count ≤ 1 ∧ ∃ gone left, gone.length = count ∧ relation.rows.Perm (gone ++ left) ∧
            after.visible.relation? table.name = some { relation with rows := left }) ∧
        (∀ entity saved after, entity.key table = key →
          last.update handle entity = (⟨saved, .ok ()⟩, after) →
          ∃ old new kept rows, relation.rows.Perm (old :: kept) ∧ rows.Perm (new :: kept) ∧
            after.visible.relation? table.name = some { relation with rows }) ∧
        ∀ other rows, last.Alike other → rows.Perm relation.rows →
          other.visible.relation? table.name = some { relation with rows } →
          ((Operation.findOne handle key).apply last).1 =
            ((Operation.findOne handle key).apply other).1 := by
  have faultless := Schema.of_tables_fault? accepted table member
  have keyed := Key.keyed_of_accepted accepts
  have sound := writing.sound keyed (created.shows accepted member idle well)
  refine ⟨⟨sound.1, ?_, ?_⟩, ?_⟩
  · obtain ⟨relation, held⟩ := sound.2.1
    exact ⟨relation, held.found, held.few faultless accepts names⟩
  · obtain ⟨relation, held⟩ := sound.2.2
    exact ⟨relation, held.found, held.few faultless accepts names⟩
  · obtain ⟨relation, held⟩ := sound.2.1
    rintro shown found model handle rfl
    cases held.found.symm.trans found
    refine ⟨fun count after answered => held.removes faultless accepts names answered, ?_,
      fun other rows alike perm foundToo =>
        held.finds_alike faultless accepts names alike perm foundToo⟩
    rintro entity saved after rfl answered
    exact held.updates faultless accepts names answered

/-! ### A box office -/

namespace BoxOffice

/-- The seat of a ticket, which is its key and may be missing. -/
def seat : Column := { name := "seat", type := .string, primaryKey := true, nullable := true }

/-- What was paid for a ticket. -/
def price : Column := { name := "price", type := .integer, nullable := true }

/-- A ticket for a seat, or for none. -/
def model : Model := ⟨"ticket", [⟨.text, seat⟩, ⟨.integer, price⟩]⟩

/-- The schema of the box office. -/
def schema : Schema := ⟨[model.table]⟩

/-- The handle of the tickets. -/
def handle : Handle model := ⟨model.table, rfl⟩

/-- A store that was just opened over memory of its own. -/
def opened : Store :=
  ⟨{ config := {}, connection := some { number := 0, location := .memory 0 } }, {}⟩

/-- The store when no ticket has been sold. -/
def unsold : Store := ((Operation.createTables schema).apply opened).2

/-- A ticket without a seat. -/
def standing (paid : Int64) : Entity model :=
  ⟨[⟨⟨.text, seat⟩, .null, rfl⟩, ⟨⟨.integer, price⟩, .integer paid, rfl⟩], rfl⟩

/-- The ticket for the first seat. -/
def front : Entity model :=
  ⟨[⟨⟨.text, seat⟩, .text "A1", rfl⟩, ⟨⟨.integer, price⟩, .integer 30, rfl⟩], rfl⟩

/-- The store when three tickets have been sold, two of them without a seat. -/
def sold : Store :=
  (((unsold.add handle (standing 10)).2.add handle front).2.add handle (standing 12)).2

/-- The tickets are a table of a schema. -/
theorem accepted : Schema.ofTables [model.table] = .ok schema :=
  Schema.of_tables_ok (by decide +kernel) (by decide +kernel)

/-- The store comes to have the table of the tickets. -/
theorem unsold_answered : schema.IsCreated opened unsold :=
  .tables (Operation.apply_of_is_ok (by decide +kernel))

/-- The tickets are sold by additions alone. -/
theorem sold_written : unsold.Writing sold :=
  .add (.add (.add (.start unsold) handle (standing 10)) handle front) handle (standing 12)

end BoxOffice

open BoxOffice in
/-- The ticket for a seat is one row, and giving it back takes that row out. -/
theorem key_names_the_front_seat :
    let key : Key := .single (.text "A1")
    let criteria : Criteria := ⟨[("seat", .scalar (.text "A1"))]⟩
    Schema.ofTables [model.table] = .ok schema ∧ opened.IsIdle ∧ opened.visible.WellFollowed ∧
      schema.IsCreated opened unsold ∧ unsold.Writing sold ∧
      key.criteria model.table = .ok criteria ∧ ¬ key.NamesNull model.table ∧
      ∃ relation, sold.visible.relation? model.table.name = some relation ∧
        relation.rows.length = 3 ∧
        (relation.rows.filter fun row => criteria.isMetIn model.table row.values).length ≤ 1 ∧
        ∃ after, (Operation.remove handle key).apply sold = (.ok 1, after) ∧
          ∃ gone left, gone.length = 1 ∧ relation.rows.Perm (gone ++ left) ∧
            after.visible.relation? model.table.name = some { relation with rows := left } := by
  intro key criteria
  have idle : opened.IsIdle := ⟨rfl, _, rfl, rfl⟩
  have well : opened.visible.WellFollowed := Database.well_followed_of_empty rfl
  have names : ¬ key.NamesNull model.table := by
    rintro ⟨column, -, -, -, -, null⟩
    cases null
  obtain ⟨three, removed⟩ : (sold.visible.relation? model.table.name).any (fun tickets =>
      tickets.rows.length == 3) = true ∧
      ((Operation.remove handle key).apply sold).1.toOption = some 1 := by
    decide +kernel
  obtain ⟨tickets, found, count⟩ := (Option.any_eq_true _ _).mp three
  obtain ⟨one, calls⟩ := key_names_one_row_at_most accepted List.mem_cons_self idle well
    unsold_answered sold_written (show key.criteria model.table = .ok criteria from rfl) names
  obtain ⟨relation, shown, few⟩ := one.2.1
  cases found.symm.trans shown
  rcases ran : (Operation.remove handle key).apply sold with ⟨problem | number, after⟩
  · rw [ran] at removed
    cases removed
  · rw [ran] at removed
    cases removed
    obtain ⟨-, taken⟩ := (calls tickets found handle rfl).1 1 after ran
    exact ⟨accepted, idle, well, unsold_answered, sold_written, rfl, names, tickets, found,
      by simpa using count, few, after, rfl, taken⟩

open BoxOffice in
/-- A key that is null can name more than one row: giving back the ticket without a seat takes both
of them out. -/
theorem null_key_names_two_rows :
    let key : Key := .single .null
    let criteria : Criteria := ⟨[("seat", .scalar .null)]⟩
    Schema.ofTables [model.table] = .ok schema ∧ opened.IsIdle ∧ opened.visible.WellFollowed ∧
      schema.IsCreated opened unsold ∧ unsold.Writing sold ∧
      key.criteria model.table = .ok criteria ∧
      ¬ (sold.Shows fun database => ∃ relation,
        database.relation? model.table.name = some relation ∧
          (relation.rows.filter fun row => criteria.isMetIn model.table row.values).length ≤ 1) ∧
      ∃ after, (Operation.remove handle key).apply sold = (.ok 2, after) := by
  intro key criteria
  obtain ⟨two, removed⟩ : (sold.visible.relation? model.table.name).any (fun tickets =>
      (tickets.rows.filter fun row => criteria.isMetIn model.table row.values).length == 2) = true ∧
      ((Operation.remove handle key).apply sold).1.toOption = some 2 := by
    decide +kernel
  obtain ⟨tickets, found, met⟩ := (Option.any_eq_true _ _).mp two
  refine ⟨accepted, ⟨rfl, _, rfl, rfl⟩, Database.well_followed_of_empty rfl, unsold_answered,
    sold_written, rfl, ?_, ?_⟩
  · rintro ⟨-, ⟨relation, shown, few⟩, -⟩
    cases found.symm.trans shown
    rw [beq_iff_eq] at met
    omega
  · rcases ran : (Operation.remove handle key).apply sold with ⟨problem | number, after⟩
    · rw [ran] at removed
      cases removed
    · rw [ran] at removed
      cases removed
      exact ⟨after, rfl⟩

end RecordStore
