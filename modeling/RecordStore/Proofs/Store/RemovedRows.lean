import RecordStore.Proofs.Engine.Repeats
import RecordStore.Proofs.Query.Asked
import RecordStore.Proofs.Query.FoundRows
import RecordStore.Proofs.Store.KeyParts

/-!
# Rows that are removed by a key

Removing, finding and counting ask the same of a row: that it have in each key column what the key
gives. Nulls, dates and bits reach the engine in one form whichever of the three asks, and so does a
key of several columns, whatever the order of its parts. So a removal that is answered tells how
many rows were counted before it, and leaves none to be found, removed again or come upon by a
search; all other rows stay.
-/

namespace RecordStore

open Engine Sql

variable {model : Model}

/-! ### Calls that come through -/

namespace Store

/-- A store whose next call comes through: no outage strikes it, and nothing that others hold keeps
the connection from reading or from changing its database. -/
structure IsServed (store : Store) : Prop where
  quiet : store.host.outage? = none
  opened : ∃ access, store.access? = some access ∧ access.MayChange

end Store

section Changes

variable {store after : Store} {count : Nat} {change : Change Stored}

/-- Where a change was answered it has passed the checks, and calls come through, before it and
after it. -/
theorem Operation.executing_served
    (answered : (executing (.change change)).apply store = (.ok count, after)) :
    store.IsServed ∧ (after.host.outage? = none → after.IsServed) ∧
      checkChange store.visible [] (change.mapOperands Stored.bound) = .ok () ∧
      checkTriggers store.visible (change.mapOperands Stored.bound) = .ok () := by
  have quiet := on_connection_quiet answered
  obtain ⟨connection, opened, counted, execution, rfl⟩ := on_connection_ok answered
  obtain ⟨⟨answer, answers⟩, -⟩ := Access.counted_ok counted
  obtain ⟨may, mayAgain⟩ := Access.run_change_may_change answers
  obtain ⟨changes, triggers⟩ := Access.run_change_checked answers
  have access := Store.access?_of_connection opened
  rw [Store.visible_of_access? access]
  refine ⟨⟨quiet, _, access, may⟩, fun quietAfter => ⟨quietAfter, _, rfl, ?_⟩, changes, triggers⟩
  rw [counted_access]
  exact mayAgain

/-- A change that passes the checks is answered with the number of the rows that it changes. -/
theorem Store.IsServed.executing (served : store.IsServed) {effect : Effect}
    (changes : checkChange store.visible [] (change.mapOperands Stored.bound) = .ok ())
    (triggers : checkTriggers store.visible (change.mapOperands Stored.bound) = .ok ())
    (done : store.visible.change (change.mapOperands Stored.bound) = .ok effect) :
    ((Operation.executing (.change change)).apply store).1 = .ok effect.changed := by
  obtain ⟨access, opened, may⟩ := served.opened
  rw [Store.visible_of_access? opened] at changes triggers done
  obtain ⟨answers, counts⟩ := may.run_of_change changes triggers done
  rcases Operation.on_connection_cases (Statement.change change).render
    (Statement.change change).endsTransaction
    (fun access => Access.counted (access.run (.change change))) store with
    ⟨closed, -⟩ | ⟨connection, connected, ⟨outage, strikes, -⟩ | ⟨execution, -, ran⟩⟩
  · simp [Store.access?, closed] at opened
  · cases served.quiet.symm.trans strikes
  · cases (Store.access?_of_connection connected).symm.trans opened
    rw [Operation.executing, ran, Access.counted, answers, ← counts]
    rfl

end Changes

/-! ### What is asked of a row -/

namespace Table

variable {table : Table} {database : Database} {relation : Relation} {key : Key}

/-- That key columns equal what a key gives for them is asked of the rows that have the key, in
whatever order the columns are listed. -/
theorem is_met_in_equating (admitted : table.IsAdmitted) (distinct : table.columnNames.Nodup)
    (keyed : table.primaryKey ≠ []) {columns : List String} (perm : columns.Perm table.primaryKey) :
    (∃ conditions,
      statedConditions (some (Criteria.equating key.value columns)) none table none =
        .ok conditions) ∧
      ∀ values, (Criteria.equating key.value columns).isMetIn table values =
        table.hasKey key values := by
  obtain ⟨-, known⟩ := primary_key_plain admitted distinct
  obtain ⟨stated, met⟩ := Criteria.equating_compiles key.value
    (fun none => keyed (none ▸ perm).nil_eq.symm)
    fun column member => known column (perm.subset member)
  exact ⟨stated, fun values => (met values).trans perm.all_eq⟩

end Table

/-- A plain request whose conditions compile counts. -/
theorem Request.counting_is_ok {request : Request} {table : Table} (plain : request.term = none)
    {conditions : List Condition}
    (stated : statedConditions request.criteria request.partition table none = .ok conditions) :
    ∃ query, request.counting table = .ok query := by
  rw [counting_eq, rows_plain plain, plain_rows_eq, stated]
  exact ⟨_, rfl⟩

namespace Store.IsServed

variable {handle : Handle model} {key : Key} {criteria : Criteria} {request : Request}
  {store : Store} {relation : Relation} (served : store.IsServed)
  (faultless : handle.table.fault? = none)

include served faultless

/-- Counting without a term answers with the number of the rows that meet the request. -/
theorem count (read : handle.table.IsReadIn store.visible relation) (plain : request.term = none)
    {conditions : List Condition}
    (stated : statedConditions request.criteria request.partition handle.table none =
      .ok conditions) :
    ((Operation.count handle request).apply store).1 = .ok (Int64.ofNat
      (relation.rows.filter fun row => request.isMetIn handle.table row.values).length) := by
  obtain ⟨query, made⟩ := Request.counting_is_ok plain stated
  obtain ⟨access, opened, may⟩ := served.opened
  obtain ⟨held, granted⟩ := exists_of_is_ok may.for_reading
  rw [Store.visible_of_access? opened] at read
  rw [Operation.count_apply made, Operation.answering_outcome query served.quiet opened,
    Request.plain_counts plain faultless read made, granted]
  rfl

/-- Where nothing is asked all rows are counted. -/
theorem count_all (read : handle.table.IsReadIn store.visible relation) :
    ((Operation.count handle {}).apply store).1 = .ok (Int64.ofNat relation.rows.length) := by
  have asksNothing : statedConditions none none handle.table none = .ok [] := rfl
  rw [served.count faultless read rfl asksNothing]
  simp [Request.isMetIn]

/-- Where it is asked that key columns, in whatever order, equal what a key gives, the rows that
have the key are counted. -/
theorem count_equating (read : handle.table.IsReadIn store.visible relation)
    (keyed : handle.table.primaryKey ≠ []) (distinct : handle.table.columnNames.Nodup)
    {columns : List String} (perm : columns.Perm handle.table.primaryKey) :
    ((Operation.count handle { criteria := some (Criteria.equating key.value columns) }).apply
      store).1 = .ok (Int64.ofNat
        (relation.rows.filter fun row => handle.table.hasKey key row.values).length) := by
  obtain ⟨⟨conditions, stated⟩, met⟩ :=
    Table.is_met_in_equating (Table.is_admitted_of_fault? faultless) distinct keyed perm
  rw [served.count faultless read rfl stated]
  simp [Request.isMetIn, met]

/-- Finding by a key answers with the entity of the first one of the rows that have the key, in some
order. -/
theorem find_one (held : handle.table.IsKeptIn store.visible relation)
    (accepts : key.criteria handle.table = .ok criteria) :
    ∃ listing : List Row,
      listing.Perm (relation.rows.filter fun row => handle.table.hasKey key row.values) ∧
      ((Operation.findOne handle key).apply store).1 =
        (((listing.take 1).map Row.values).mapM (Entity.load handle.table)).map List.head? := by
  have admitted := Table.is_admitted_of_fault? faultless
  obtain ⟨access, opened, may⟩ := served.opened
  obtain ⟨reading, granted⟩ := exists_of_is_ok may.for_reading
  obtain ⟨conditions, stated⟩ := held.key_states faultless accepts
  have read := held.is_read_in
  let asked : Request := { criteria := some criteria }
  obtain ⟨within, decides⟩ := asked.condition_decides faultless read stated
  obtain ⟨checked, listing, perm, selected⟩ := Table.select_first_query_listing read
    admitted.some_column within fun row member => (decides row member).trans
      (Table.is_met_in_of_accepted admitted held.apart accepts row.values)
  rw [← Table.first_query_map_operands, Store.visible_of_access? opened] at checked selected
  refine ⟨listing, perm, ?_⟩
  rw [Operation.find_one_apply accepts (Request.finding_one_ok stated),
    Operation.answering_outcome _ served.quiet opened, Access.run_select checked,
    Access.run_select_answer rfl selected, granted]
  rfl

/-- So it finds none exactly if no row has the key. -/
theorem find_one_none_iff (held : handle.table.IsKeptIn store.visible relation)
    (accepts : key.criteria handle.table = .ok criteria) :
    ((Operation.findOne handle key).apply store).1 = .ok none ↔
      (relation.rows.filter fun row => handle.table.hasKey key row.values) = [] := by
  obtain ⟨listing, perm, found⟩ := served.find_one faultless held accepts
  rw [found]
  cases listing with
  | nil => simp [perm.nil_eq.symm]; rfl
  | cons first rest =>
    have some : (relation.rows.filter fun row => handle.table.hasKey key row.values) ≠ [] := by
      intro none
      rw [none] at perm
      cases perm.eq_nil
    refine ⟨fun absent => ?_, fun none => absurd none some⟩
    simp only [List.take_succ_cons, List.take_zero, List.map_cons, List.map_nil,
      List.mapM_cons] at absent
    cases loads : (Entity.load handle.table first.values : Except StoreError (Entity model)) with
    | error problem =>
      rw [loads] at absent
      cases absent
    | ok entity =>
      rw [loads] at absent
      cases absent

end Store.IsServed

/-! ### Removing -/

namespace Table

variable {table : Table} {database after : Database} {relation : Relation} {key : Key}
  {criteria : Criteria}

/-- Whether a deletion may be made depends on the columns of a table, not on its rows. -/
theorem check_change_deletion {rows : List Row}
    (found : database.relation? table.name = some relation)
    (foundAfter : after.relation? table.name = some { relation with rows })
    (condition : Condition) : checkChange after [] (table.deletion condition) =
      checkChange database [] (table.deletion condition) := by
  simp only [checkChange, deletion, changedNames, found, foundAfter]
  rfl

section Condition

variable (held : table.IsSoundIn database relation) (faultless : table.fault? = none)
  (accepts : key.criteria table = .ok criteria) {action : String} {condition : Condition}
  (compiled : criteria.condition table action = .ok condition)

include held faultless accepts compiled

/-- The condition of a key holds on the rows that have the key. -/
theorem IsSoundIn.holds_key : ∀ row ∈ relation.rows, holds [relation.binding table.name row]
    (condition.mapOperands Stored.bound) = table.hasKey key row.values := by
  intro row member
  rw [held.is_read_in.holds_criteria faultless compiled row member]
  exact is_met_in_of_accepted (is_admitted_of_fault? faultless) held.apart accepts row.values

/-- The deletion under the condition takes out all rows that have the key, and no others. -/
theorem IsSoundIn.deletes_key {effect : Effect}
    (done : database.change (table.deletion (condition.mapOperands Stored.bound)) = .ok effect) :
    effect.changed = (relation.rows.filter fun row => table.hasKey key row.values).length ∧
      table.IsSoundIn effect.database { relation with
        rows := relation.rows.filter fun row => !table.hasKey key row.values } := by
  have holding := held.holds_key faultless accepts compiled
  have left := List.filter_congr fun row member => congrArg Bool.not (holding row member)
  obtain ⟨counts, heldNow⟩ := held.deletes done
  rw [left] at heldNow
  exact ⟨counts.trans (congrArg List.length (List.filter_congr holding)), heldNow⟩

/-- Where no row has the key, it changes nothing. -/
theorem IsSoundIn.deletes_none
    (none : (relation.rows.filter fun row => table.hasKey key row.values) = []) :
    database.change (table.deletion (condition.mapOperands Stored.bound)) = .ok { database } := by
  have targets := held.targets (condition.mapOperands Stored.bound)
  rw [rowsUnder, List.filter_congr (held.holds_key faultless accepts compiled), none] at targets
  obtain ⟨fire, -, once⟩ :=
    change_once database (table.deletion (condition.mapOperands Stored.bound)) table.name
  rw [once]
  simp only [runOnce, deletion, runDelete, held.found, targets]
  rfl

end Condition

end Table

/-- Whatever is found or searched in a store are entities of these rows. -/
def Store.FindsAmong (store : Store) (handle : Handle model) (rows : List Row) : Prop :=
  ∀ request,
    (∀ entities, ((Operation.find handle request).apply store).1 = .ok entities →
      ∀ entity ∈ entities, ∃ row ∈ rows, Entity.load handle.table row.values = .ok entity) ∧
    ∀ answer, ((Operation.search handle request).apply store).1 = .ok answer →
      ∀ entity ∈ answer.entities, ∃ row ∈ rows, Entity.load handle.table row.values = .ok entity

section Found

variable {handle : Handle model} {request : Request} {store : Store} {relation : Relation}
  (faultless : handle.table.fault? = none)

include faultless

/-- The entities of a page were loaded from rows of the table. -/
theorem Operation.find_page_rows (read : handle.table.IsReadIn store.visible relation) {page : Page}
    {entities : List (Entity model)}
    (found : ((findPage handle request page).apply store).1 = .ok entities) :
    ∀ entity ∈ entities, ∃ row ∈ relation.rows,
      Entity.load handle.table row.values = .ok entity := by
  obtain ⟨-, nonempty, -⟩ := Table.identifiers_of_fault? faultless
  obtain ⟨query, answer, made, answered, loads⟩ := find_page_ok found
  intro entity member
  obtain ⟨values, among, loaded⟩ := exists_of_map_m_ok loads entity member
  obtain ⟨row, rowMember, rfl⟩ :=
    Request.finding_rows read made nonempty (answering_selects answered) values among
  exact ⟨row, rowMember, loaded⟩

/-- Whatever is found in a store was loaded from rows of the table. -/
theorem Store.finds_among (read : handle.table.IsReadIn store.visible relation) :
    store.FindsAmong handle relation.rows := by
  refine fun request => ⟨fun entities found => ?_, fun answer found => ?_⟩
  · obtain ⟨page, -, onPage⟩ := Operation.find_ok found
    exact Operation.find_page_rows faultless read onPage
  · rcases Operation.search_ok found with none | ⟨page, counted, -, sight, onPage⟩
    · rw [none]
      nofun
    · rw [← sight] at read
      exact Operation.find_page_rows faultless read onPage

end Found

/-- Removing, finding and counting agree about a key, of a table of a schema whose rows stand apart
and are changed by no trigger. A removal that is answered takes out all rows that have the key, and
no others, and answers how many they are. As many were counted before it with what the key asks of
the key columns, in whatever order, and by the key none was found exactly if there were none. Every
other table that no trigger changes stays, and a full-text table still mirrors its table. Unless an
outage strikes the next call, no row of the key is found or removed then, and as many rows fewer are
counted; and whatever else is found or searched are the rows that stayed.

Proof: a removal that is answered has run one deletion, which takes out the rows under its
condition, and these are the rows with the key. What is counted and found is told from the rows
before and behind it. -/
theorem remove_find_and_count_agree {tables : List Table} {schema : Schema} {handle : Handle model}
    {key : Key} {store after : Store} {relation : Relation} {removed : Nat}
    (accepted : Schema.ofTables tables = .ok schema) (member : handle.table ∈ schema.tables)
    (held : handle.table.IsSoundIn store.visible relation)
    (answered : (Operation.remove handle key).apply store = (.ok removed, after)) :
    let left := relation.rows.filter fun row => !handle.table.hasKey key row.values
    relation.rows.length = left.length + removed ∧
    (∀ columns : List String, columns.Perm handle.table.primaryKey →
      ((Operation.count handle { criteria := some (Criteria.equating key.value columns) }).apply
        store).1 = .ok (Int64.ofNat removed)) ∧
    (((Operation.findOne handle key).apply store).1 = .ok none ↔ removed = 0) ∧
    ((Operation.count handle {}).apply store).1 = .ok (Int64.ofNat (left.length + removed)) ∧
    handle.table.IsSoundIn after.visible { relation with rows := left } ∧
    (∀ name, sameName handle.table.name name = false → store.visible.Spares name →
      store.visible.AgreeOn [name] after.visible) ∧
    (handle.table.IsMirrored store.visible → handle.table.IsMirrored after.visible) ∧
    (after.host.outage? = none →
      ((Operation.findOne handle key).apply after).1 = .ok none ∧
      ((Operation.remove handle key).apply after).1 = .ok 0 ∧
      ((Operation.count handle {}).apply after).1 = .ok (Int64.ofNat left.length)) ∧
    after.FindsAmong handle left := by
  intro left
  have faultless := Schema.of_tables_fault? accepted handle.table member
  obtain ⟨criteria, accepts, -⟩ := Operation.of_except_bind_ok (congrArg Prod.fst answered)
  have keyed := Key.keyed_of_accepted accepts
  obtain ⟨condition, compiled, ran⟩ := Operation.remove_ok accepts answered
  obtain ⟨served, servedAfter, checked, triggers⟩ := Operation.executing_served ran
  obtain ⟨effect, done, rfl, seen⟩ := Operation.executing_ok ran
  have resembles := Database.change_resembles done
  rw [Table.deletion_bound] at done checked triggers
  obtain ⟨counts, heldNow⟩ := held.deletes_key faultless accepts compiled done
  rw [← seen] at heldNow resembles
  have whole : relation.rows.length = left.length + effect.changed := by
    rw [counts, Nat.add_comm]
    exact List.length_eq_length_filter_add _
  refine ⟨whole, fun columns perm => ?_, ?_, ?_, heldNow, fun name other spared => ?_,
    fun mirrored => ?_, fun quiet => ?_, Store.finds_among faultless heldNow.is_read_in⟩
  · rw [served.count_equating faultless held.is_read_in keyed held.distinct perm, counts]
  · rw [served.find_one_none_iff faultless held.toIsKeptIn accepts, counts, List.length_eq_zero_iff]
  · rw [served.count_all faultless held.is_read_in, whole]
  · rw [seen]
    refine Database.change_outside (fun table event _ => spared.outside table event) ?_ done
    intro kept inNames
    cases List.mem_singleton.mp inNames
    exact other
  · rw [seen]
    exact change_deletion_mirrored mirrored done
  · have servedNow := servedAfter quiet
    have none : (left.filter fun row => handle.table.hasKey key row.values) = [] := by
      simp [left, List.filter_filter]
    refine ⟨(servedNow.find_one_none_iff faultless heldNow.toIsKeptIn accepts).mpr none, ?_,
      servedNow.count_all faultless heldNow.is_read_in⟩
    have stays : after.visible.change ((handle.table.deletion condition).mapOperands Stored.bound) =
        .ok { database := after.visible } := heldNow.deletes_none faultless accepts compiled none
    rw [Operation.remove_apply accepts compiled]
    refine servedNow.executing ?_ ?_ stays
    · exact (Table.check_change_deletion held.found heldNow.found _).trans checked
    · exact (resembles.check_triggers _).trans triggers

/-! ### Tickets that are given back -/

open BoxOffice in
/-- Both tickets without a seat are given back with one call, and as many had been counted;
afterwards there is none to be found or to be given back, and the ticket for the front is left. -/
theorem remove_find_and_count_agree_seatless :
    let key : Key := .single .null
    let seatless : Request := { criteria := some (Criteria.equating key.value ["seat"]) }
    let after := ((Operation.remove handle key).apply sold).2
    Schema.ofTables [BoxOffice.model.table] = .ok schema ∧ handle.table ∈ schema.tables ∧
      (∃ tickets, handle.table.IsSoundIn sold.visible tickets) ∧
      (Operation.remove handle key).apply sold = (.ok 2, after) ∧ after.host.outage? = none ∧
      ((Operation.count handle seatless).apply sold).1 = .ok 2 ∧
      ((Operation.findOne handle key).apply sold).1 ≠ .ok none ∧
      ((Operation.findOne handle key).apply after).1 = .ok none ∧
      ((Operation.remove handle key).apply after).1 = .ok 0 ∧
      ∃ left, left.length = 1 ∧ ((Operation.count handle {}).apply after).1 = .ok 1 ∧
        after.FindsAmong handle left := by
  intro key seatless after
  have idle : opened.IsIdle := ⟨rfl, _, rfl, rfl⟩
  have well : opened.visible.WellFollowed := Database.well_followed_of_empty rfl
  have member : handle.table ∈ schema.tables := List.mem_cons_self
  obtain ⟨-, ⟨tickets, held⟩, -⟩ := sold_written.sound (by decide +kernel)
    (unsold_answered.shows accepted member idle well)
  have computed : (sold.visible.relation? handle.table.name).any
        (fun tickets => tickets.rows.length == 3) = true ∧
      ((Operation.remove handle key).apply sold).1.toOption = some 2 ∧
        after.host.outage? = none := by
    decide +kernel
  obtain ⟨three, two, quiet⟩ := computed
  obtain ⟨shown, found, length⟩ := (Option.any_eq_true _ _).mp three
  cases found.symm.trans held.found
  have answered : (Operation.remove handle key).apply sold = (.ok 2, after) :=
    Operation.apply_of_answer two
  obtain ⟨whole, counts, finds, -, -, -, -, later, among⟩ :=
    remove_find_and_count_agree accepted member held answered
  obtain ⟨gone, none, fewer⟩ := later quiet
  have one : (tickets.rows.filter fun row => !handle.table.hasKey key row.values).length = 1 := by
    rw [beq_iff_eq] at length
    omega
  rw [one] at fewer
  exact ⟨accepted, member, ⟨tickets, held⟩, answered, quiet, counts ["seat"] (.refl _),
    fun absent => absurd (finds.mp absent) (by decide), gone, none, _, one, fewer, among⟩

namespace Workshop

/-- One job. -/
def job : Row := ⟨1, [.text "chair", .text "saw", .integer 11]⟩

/-- Whoever takes a job away has it to do again. -/
def again : Trigger where
  name := "again"
  event := .deletion
  table := "job"
  body := [.insert {
    table := "job"
    columns := some ["title", "tool", "turn"]
    rows := .values [["title", "tool", "turn"].map (.column (some "old"))] }]
  text := ""

/-- How many jobs are taken away by the title of the one job, and what is found under it then,
unless a call fails. -/
def soughtAgain (store : Store) : Option Nat × Option (Option (List (String × Value))) :=
  let (removed, after) := (Operation.remove handle (.single (.text "chair"))).apply store
  (removed.toOption, ((Operation.findOne handle (.single (.text "chair"))).apply
    after).1.toOption.map (Option.map Entity.toList))

end Workshop

open Workshop in
/-- A job that was taken away can be found again, where a trigger puts it back. And where the table
is not the one of the handle, none can be taken away while finding one fails. -/
theorem removed_job_can_be_found :
    Schema.ofTables [jobModel.table] = .ok ⟨[jobModel.table]⟩ ∧
      soughtAgain (workshop [.relation { noJobs with rows := [job] }, .trigger again]) =
        (some 1, some (some [("title", .text "chair"), ("tool", .text "saw"),
          ("turn", .integer 11)])) ∧
      soughtAgain (workshop [.relation { noJobs with attributes := noJobs.attributes.take 1 }]) =
        (some 0, none) :=
  ⟨accepted, by decide +kernel⟩

end RecordStore
