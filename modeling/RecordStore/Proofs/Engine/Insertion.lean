import RecordStore.Proofs.Engine.Elsewhere
import RecordStore.Proofs.Engine.Numbering
import RecordStore.Proofs.Engine.Relations
import RecordStore.Proofs.Engine.Transactions
import RecordStore.Query.Mutation

/-!
# Putting a row in

An insertion of one row that is answered puts one row into the relation, which offends nothing.
Under each name that it gives a value the row has what the column stores for the value, and where
the relation shows a number that was not given, it shows the number of the row. If no trigger
changes the table, that is all that happens to it.
-/

namespace RecordStore

open Engine Sql

/-- What is bound reaches the engine in the row. -/
theorem Table.insertion_bound (table : Table) (row : List (String × Stored)) :
    (table.insertion row).mapOperands Stored.bound =
      table.insertion (row.map fun entry => (entry.1, entry.2.bound)) := by
  by_cases empty : row.isEmpty = true
  · simp [insertion, Change.mapOperands, Rows.mapOperands, empty]
  · simp [insertion, Change.mapOperands, Rows.mapOperands, Expression.mapOperands, empty]

/-- The operands of an update are bound one by one: those of its row and those of its condition. -/
theorem Table.modification_bound (table : Table) (row : List (String × Stored))
    (condition : Condition) :
    (table.modification row condition).mapOperands Stored.bound =
      table.modification (row.map fun entry => (entry.1, entry.2.bound))
        (condition.mapOperands Stored.bound) := by
  simp [Table.modification, Change.mapOperands, mapConditions, Expression.mapOperands]

/-- The operands of a removal are those of its condition. -/
theorem Table.deletion_bound (table : Table) (condition : Condition) :
    (table.deletion condition).mapOperands Stored.bound =
      table.deletion (condition.mapOperands Stored.bound) := by
  simp [Table.deletion, Change.mapOperands, mapConditions]

namespace Engine

/-! ### The values of the row -/

namespace Relation

/-- What is stored under a name is what its attribute makes of the value. -/
theorem value_in_conform_of_meant {attributes : List Attribute} {values : List Stored}
    {name : String} {attr : Attribute} (lengths : values.length = attributes.length)
    (means : meant? attributes name = some attr) :
    valueIn attributes (conform attributes values) name =
      attr.affinity.store (valueIn attributes values name) := by
  induction attributes generalizing values with
  | nil => cases means
  | cons first rest inductionHypothesis =>
    cases values with
    | nil => cases lengths
    | cons value values =>
      by_cases same : sameName first.name name = true
      · obtain rfl : first = attr := by simpa [meant?, same] using means
        simp [conform, valueIn, same]
      · simp only [meant?, List.find?_cons, same] at means
        simp only [conform, valueIn, same, if_false, Bool.false_eq_true]
        exact inductionHypothesis (by simpa using lengths) means

end Relation

/-- Values that are given under other names leave the value under a name. -/
theorem value_in_replace_all_other {attributes : List Attribute} {entries : List (String × Stored)}
    {name : String} (others : ∀ entry ∈ entries, sameName entry.1 name = false)
    (row : List Stored) :
    Relation.valueIn attributes
      (entries.foldl (fun row entry => Relation.replaceIn attributes row entry.1 entry.2) row)
      name = Relation.valueIn attributes row name := by
  induction entries generalizing row with
  | nil => rfl
  | cons first rest inductionHypothesis =>
    rw [List.foldl_cons, inductionHypothesis fun other member =>
      others other (List.mem_cons_of_mem first member)]
    exact Relation.value_in_replace_in_of_ne (others first List.mem_cons_self) _ _ _

/-- A value that is given under a name stands under it, whatever is given under other names. -/
theorem value_in_replace_all {attributes : List Attribute} {entries : List (String × Stored)}
    {row : List Stored} (apart : ToldApart (entries.map Prod.fst))
    (lengths : row.length = attributes.length) {entry : String × Stored} (member : entry ∈ entries)
    {attr : Attribute} (means : Relation.meant? attributes entry.1 = some attr) :
    Relation.valueIn attributes
      (entries.foldl (fun row entry => Relation.replaceIn attributes row entry.1 entry.2) row)
      entry.1 = entry.2 := by
  induction entries generalizing row with
  | nil => cases member
  | cons first rest inductionHypothesis =>
    obtain ⟨here, later⟩ := List.pairwise_cons.mp apart
    rw [List.foldl_cons]
    rcases List.mem_cons.mp member with rfl | behind
    · rw [value_in_replace_all_other fun other among => by
        rw [same_name_comm]
        exact here other.1 (List.mem_map_of_mem among)]
      exact Relation.value_in_replace_in_self entry.1 attributes row entry.2 lengths means
    · exact inductionHypothesis later ((Relation.replace_in_length _ _ _ _).trans lengths) behind

/-- The values of a row under the names of its entries, the other columns at their defaults. -/
def givenValues (attributes : List Attribute) (row : List (String × Stored)) : List Stored :=
  arranged attributes (some (row.map Prod.fst)) (row.map Prod.snd)

/-- The values that a row gives are put over the defaults one after the other. -/
theorem given_values_eq (attributes : List Attribute) (row : List (String × Stored)) :
    givenValues attributes row =
      row.foldl (fun values entry => Relation.replaceIn attributes values entry.1 entry.2)
        (attributes.map Attribute.defaultValue) := by
  have pairs : (row.map Prod.fst).zip (row.map Prod.snd) = row := by
    rw [List.zip_map', List.map_id'']
    exact fun _ => rfl
  unfold givenValues arranged
  simp only [pairs]

/-- Under names that are told apart each column gets the value that its entry gives. -/
theorem value_in_given_values {attributes : List Attribute} {row : List (String × Stored)}
    (apart : ToldApart (row.map Prod.fst)) {entry : String × Stored} (member : entry ∈ row)
    {attr : Attribute} (means : Relation.meant? attributes entry.1 = some attr) :
    Relation.valueIn attributes (givenValues attributes row) entry.1 = entry.2 := by
  rw [given_values_eq]
  exact value_in_replace_all apart (List.length_map _) member means

/-- Where columns have no defaults there is nothing under a name for which nothing is given. -/
theorem value_in_given_values_null {attributes : List Attribute} {row : List (String × Stored)}
    (plain : ∀ attr ∈ attributes, attr.defaultValue = .null) {name : String}
    (others : ∀ entry ∈ row, sameName entry.1 name = false) :
    Relation.valueIn attributes (givenValues attributes row) name = .null := by
  rw [given_values_eq, value_in_replace_all_other others]
  clear others
  induction attributes with
  | nil => rfl
  | cons attr rest inductionHypothesis =>
    simp only [List.map_cons, Relation.valueIn]
    split
    · exact plain attr List.mem_cons_self
    · exact inductionHypothesis fun other member => plain other (List.mem_cons_of_mem attr member)

/-- The two ways in which a row gets its number: the row is stored as it is, and its number is what
a column that shows numbers has; or such a column has nothing yet and is given the next number. -/
theorem numbered_row_cases {database : Database} {relation : Relation} {values : List Stored}
    {row : Row} (numbered : numberedRow database relation values = .ok row) :
    (row.values = Relation.conform relation.attributes values ∧
      ∀ column again, relation.identity = .shown column again →
        Relation.valueIn relation.attributes (Relation.conform relation.attributes values) column =
          .integer row.number) ∨
    ∃ column again, relation.identity = .shown column again ∧
      Relation.valueIn relation.attributes (Relation.conform relation.attributes values) column =
        .null ∧
      nextNumber database relation = .ok row.number ∧
      row.values = Relation.replaceIn relation.attributes
        (Relation.conform relation.attributes values) column (.integer row.number) := by
  unfold numberedRow at numbered
  dsimp only at numbered
  cases identity : relation.identity with
  | hidden =>
    rw [identity] at numbered
    obtain ⟨number, -, ended⟩ := bind_ok numbered
    cases ended
    exact .inl ⟨rfl, nofun⟩
  | keyed columns =>
    rw [identity] at numbered
    cases numbered
    exact .inl ⟨rfl, nofun⟩
  | shown column again =>
    rw [identity] at numbered
    dsimp only at numbered
    cases value : Relation.valueIn relation.attributes
      (Relation.conform relation.attributes values) column with
    | integer number =>
      rw [value] at numbered
      cases numbered
      refine .inl ⟨rfl, fun other againToo same => ?_⟩
      cases same
      exact value
    | null =>
      rw [value] at numbered
      obtain ⟨number, next, ended⟩ := bind_ok numbered
      cases ended
      exact .inr ⟨column, again, rfl, value, next, rfl⟩
    | _ =>
      rw [value] at numbered
      cases numbered

section Numbered

variable {database : Database} {relation : Relation} {values : List Stored} {row : Row}

/-- A row that got its number still has a value for each attribute. -/
theorem numbered_row_full (numbered : numberedRow database relation values = .ok row)
    (lengths : values.length = relation.attributes.length) :
    row.values.length = relation.attributes.length := by
  have conformed := Relation.conform_length relation.attributes values lengths
  rcases numbered_row_cases numbered with ⟨same, -⟩ | ⟨column, again, -, -, -, same⟩
  · rw [same, conformed]
  · rw [same, Relation.replace_in_length, conformed]

/-- A column that shows the number of a row shows it. -/
theorem numbered_row_shows (numbered : numberedRow database relation values = .ok row)
    (lengths : values.length = relation.attributes.length) {column : String} {again : Bool}
    (shown : relation.identity = .shown column again)
    (named : column ∈ relation.attributes.map Attribute.name) :
    relation.value row column = .integer row.number := by
  rcases numbered_row_cases numbered with ⟨same, shows⟩ | ⟨other, againToo, shownToo, -, -, same⟩
  · rw [Relation.value, same]
    exact shows column again shown
  · cases shown.symm.trans shownToo
    obtain ⟨attr, means⟩ := Relation.meant?_is_some named
    rw [Relation.value, same]
    exact Relation.value_in_replace_in_self column relation.attributes _ _
      (Relation.conform_length relation.attributes values lengths) means

/-- A numbered row has the values that were to be stored, except that a column that shows the number
may have been given it. -/
theorem numbered_row_value (numbered : numberedRow database relation values = .ok row)
    {name : String}
    (given : ∀ column again, relation.identity = .shown column again → sameName column name = true →
      (Relation.valueIn relation.attributes (Relation.conform relation.attributes values)
        name).isNull = false) :
    relation.value row name =
      Relation.valueIn relation.attributes (Relation.conform relation.attributes values) name := by
  rcases numbered_row_cases numbered with ⟨same, -⟩ | ⟨column, again, shown, null, -, same⟩
  · rw [Relation.value, same]
  · rw [Relation.value, same]
    refine Relation.value_in_replace_in_of_ne (eq_false_of_ne_true fun means => ?_) _ _ _
    have present := given column again shown means
    rw [← Relation.value_in_congr means, null] at present
    cases present

end Numbered

/-- A changed row has what its columns store for the values, and a column that shows the number of a
row shows its number. -/
theorem renumbered_ok {relation : Relation} {old row : Row} {values : List Stored}
    (changed : renumbered relation old values = .ok row) :
    row.values = Relation.conform relation.attributes values ∧
      ∀ column again, relation.identity = .shown column again →
        relation.value row column = .integer row.number := by
  unfold renumbered at changed
  dsimp only at changed
  cases identity : relation.identity with
  | shown column again =>
    rw [identity] at changed
    dsimp only at changed
    split at changed
    · rename_i number shows
      cases changed
      refine ⟨rfl, fun other againToo shown => ?_⟩
      cases shown
      exact shows
    · cases changed
  | _ =>
    rw [identity] at changed
    cases changed
    exact ⟨rfl, nofun⟩

/-! ### The relation -/

/-- A database in which no trigger changes the table of a name. -/
def Database.Spares (database : Database) (name : String) : Prop :=
  ∀ other event, ∀ trigger ∈ database.triggersOn other event, ∀ step ∈ trigger.body,
    sameName (tableOf step) name = false

/-- A database whose triggers spare a table has none with a step about it. -/
theorem Database.Spares.outside {database : Database} {name : String}
    (spared : database.Spares name) (other : String) (event : RowEvent) :
    ∀ trigger ∈ database.triggersOn other event, ∀ step ∈ trigger.body,
      Outside [name] (tableOf step) := by
  intro trigger listed step inBody kept member
  cases List.mem_singleton.mp member
  exact spared other event trigger listed step inBody

/-- A row that is put in fires no other triggers than before. -/
theorem triggers_on_with_row (database : Database) (relation : Relation) (row : Row)
    (other : String) (event : RowEvent) :
    (withRow database relation row).triggersOn other event = database.triggersOn other event := by
  unfold withRow noteNumber
  split <;> exact Database.triggers_on_with_relation _ _ _ _

/-- A relation is found with its new row. -/
theorem relation?_with_row {database : Database} {name : String} {relation admitted : Relation}
    (found : database.relation? name = some relation) (named : admitted.name = relation.name)
    (row : Row) : (withRow database admitted row).relation? name = some (admitted.put row) := by
  have placed : (database.withRelation (admitted.put row)).relation? name =
      some (admitted.put row) := Database.relation?_with_relation found named
  unfold withRow noteNumber
  split <;> exact placed

/-- A number that was noted is remembered, or a larger one is. -/
theorem le_given_number_with_row (database : Database) {relation : Relation} (row : Row)
    (again : Database.neverAgain relation = true) :
    row.number ≤ (withRow database relation row).givenNumber relation.name := by
  unfold withRow noteNumber
  rw [if_pos again]
  exact Database.le_given_number_give_number _ _ _

/-- An insertion of one row puts in the values of the row. -/
theorem run_once_insertion (fire : Fire) {database : Database} {table : Table} {relation : Relation}
    (found : database.relation? table.name = some relation) (row : List (String × Stored)) :
    runOnce fire [] database (table.insertion row) =
      insertRow fire .abort table.name { database } (givenValues relation.attributes row) := by
  simp only [runOnce, Table.insertion, runInsert, found]
  have given : ∀ attributes insertion, table.insertion row = .insert insertion →
      insertedRows database [] attributes insertion = .ok [givenValues attributes row] := by
    rintro attributes insertion ⟨⟩
    unfold insertedRows
    by_cases empty : row.isEmpty = true
    · simp only [empty, if_true]
      rw [List.isEmpty_iff.mp empty]
      rfl
    · simp only [empty, if_false, Bool.false_eq_true]
      simp [givenValues, evaluate, Function.comp_def]
  rw [given _ _ rfl]
  change (List.foldlM _ _ [_] : Except Fault Effect) = _
  rw [List.foldlM_cons]
  exact bind_pure (insertRow fire .abort table.name { database }
    (givenValues relation.attributes row))

/-- An insertion of one row that is answered puts a row into the relation that offends nothing, and
nothing else happens to the relation if no trigger changes it. The number of the row is remembered
where numbers are never given again. Proof: the triggers leave the relation as the row left it, so
what one row does is what the change does. -/
theorem change_insertion_ok {database : Database} {table : Table} {relation : Relation}
    {row : List (String × Stored)} {effect : Effect}
    (found : database.relation? table.name = some relation)
    (spared : database.Spares table.name)
    (done : database.change (table.insertion row) = .ok effect) :
    ∃ put, numberedRow database relation (givenValues relation.attributes row) = .ok put ∧
      relation.fault? put = none ∧
      effect.database.relation? table.name = some (relation.put put) ∧
      effect.database.Spares table.name ∧
      (∀ column again, relation.identity = .shown column again →
        effect.lastNumber = some put.number) ∧
      (Database.neverAgain relation = true →
        put.number ≤ effect.database.givenNumber relation.name) := by
  obtain ⟨depth, enough⟩ : ∃ depth, database.objects.length = depth + 1 := by
    cases objects : database.objects with
    | nil => simp [Database.relation?, objects] at found
    | cons object rest => exact ⟨rest.length, rfl⟩
  rw [Database.change, enough, run_change_succ, run_once_insertion _ found] at done
  obtain ⟨held, put, foundToo, numbered, which⟩ := insert_row_ok done
  cases found.symm.trans foundToo
  rcases which with ⟨leftOut, -⟩ | ⟨admitted, after, makes, followed, rfl⟩
  · cases (room_for_abort leftOut).2
  · obtain ⟨offends, same⟩ := room_for_abort makes
    cases same
    have stands := relation?_with_row found rfl put
    have sparedNow : (withRow database relation put).Spares table.name := by
      intro other event
      rw [triggers_on_with_row]
      exact spared other event
    have agree := follow_outside [table.name] sparedNow.outside depth []
      (tableOf (table.insertion row)) .insertion [relation.newRow put] _ after (.refl _ _) followed
    refine ⟨put, numbered, offends, ?_, ?_, fun column again shown => ?_, fun again => ?_⟩
    · rw [← stands]
      exact agree.relations table.name List.mem_cons_self
    · intro other event
      change ∀ trigger ∈ after.triggersOn other event, _
      rw [agree.triggers]
      exact sparedNow other event
    · simp only [shown]
    · have remembers := Database.follow_remembers (withRow database relation put) depth []
        (tableOf (table.insertion row)) .insertion [relation.newRow put] _ after (.refl _) followed
      exact Int64.le_trans (le_given_number_with_row database put again) (remembers relation.name)

end Engine

namespace Engine.Access

variable {access held : Access}

/-! ### Reading what was written -/

/-- What is granted to a connection is what it holds. -/
theorem hold?_grant (volume : Volume) (number : Nat) (hold : Hold) :
    (volume.grant number hold).hold? number = some hold := by
  have released : (volume.release number).holds.find? (fun entry => entry.1 == number) = none := by
    simp [Volume.release]
  simp [Volume.grant, Volume.hold?, List.find?_append, released]

/-- What is granted to a connection is no matter of the others. -/
theorem others_grant (volume : Volume) (number : Nat) (hold : Hold) :
    (volume.grant number hold).others number = volume.others number := by
  simp [Volume.grant, Volume.release, Volume.others, List.filter_append, List.filter_filter]

/-- What keeps a connection from reading: outside of a transaction the holds of others, and inside
of one nothing once it has a hold of its own. -/
theorem for_reading_self (idle : access.connection.isIdle = true →
      access.volume.mayRead access.number = true)
    (busy : access.connection.isIdle = false → (access.volume.hold? access.number).isSome = true) :
    access.forReading = .ok access := by
  unfold forReading
  simp only
  cases open' : access.connection.transaction with
  | none => simp only [idle (by simp [Connection.isIdle, open']), if_true]
  | some transaction =>
    obtain ⟨hold, holds⟩ := Option.isSome_iff_exists.mp (busy (is_idle_of_transaction open'))
    rw [holds]

/-- A connection that may write within a transaction has a hold. -/
theorem for_writing_holds (granted : access.forWriting = .ok held)
    (busy : held.connection.isIdle = false) : (held.volume.hold? held.number).isSome = true := by
  obtain ⟨-, ⟨idle, rfl⟩ | ⟨transaction, hold, -, rfl⟩⟩ := for_writing_ok granted
  · simp [Connection.isIdle, idle] at busy
  · change (((access.withVolume _).withTransaction _).volume.hold? access.number).isSome = true
    rw [with_transaction_volume, with_volume_volume, hold?_grant]
    rfl

/-- Words that enter the index leave the number of the connection. -/
theorem indexed_number (access : Access) : access.indexed.number = access.number := by
  unfold indexed
  split
  · rfl
  · split <;> rfl

/-- Whoever has just written may read. -/
theorem keep_for_reading {database : Database} (kept : access.keep database = .ok held)
    (holds : access.connection.isIdle = false →
      (access.volume.hold? access.number).isSome = true) :
    (held.connection.isIdle = true → held.volume.mayRead held.number = true) ∧
      (held.connection.isIdle = false → (held.volume.hold? held.number).isSome = true) := by
  rcases keep_ok kept with ⟨transaction, busy, rfl⟩ | ⟨idle, mayClose, rfl⟩
  · exact ⟨nofun, fun _ => holds (is_idle_of_transaction busy)⟩
  · have isIdle : access.connection.isIdle = true := by simp [Connection.isIdle, idle]
    refine ⟨fun _ => ?_, fun busy => by cases isIdle.symm.trans busy⟩
    have nobody : access.volume.others access.number = [] := by
      simpa [Volume.mayClose] using mayClose
    rw [with_volume_volume]
    change (access.volume.others access.number).all Hold.letsRead = true
    rw [nobody]
    rfl

/-- A change that is answered was made of the database that was seen, its result is seen, also by
the queries that follow, and its rows are counted. -/
theorem run_change_ok {change : Change Stored} {answer : Answer}
    (answered : (access.run (.change change)).answer = .ok answer) :
    ∃ effect, access.visible.change (change.mapOperands Stored.bound) = .ok effect ∧
      (access.run (.change change)).access.visible = effect.database ∧
      (access.run (.change change)).access.connection.changes = effect.changed ∧
      (∀ number, effect.lastNumber = some number →
        (access.run (.change change)).access.connection.lastNumber = number) ∧
      (access.run (.change change)).access.forReading =
        .ok (access.run (.change change)).access := by
  rcases run_cases access (.change change) with ⟨fault, refused⟩ | performed
  · rw [refused] at answered
    cases answered
  · rw [performed] at answered ⊢
    change (access.runChange (change.mapOperands Stored.bound)).answer = .ok answer at answered
    change ∃ effect, _ ∧
      (access.runChange (change.mapOperands Stored.bound)).access.visible = _ ∧
      (access.runChange (change.mapOperands Stored.bound)).access.connection.changes = _ ∧
      (∀ number, _ → (access.runChange (change.mapOperands
        Stored.bound)).access.connection.lastNumber = number) ∧
      (access.runChange (change.mapOperands Stored.bound)).access.forReading =
        .ok (access.runChange (change.mapOperands Stored.bound)).access
    rcases run_change_cases access (change.mapOperands Stored.bound) with
      ⟨fault, -, ran⟩ | ⟨held, working, granted, which, ⟨fault, -, ran⟩ |
        ⟨effect, done, ⟨fault, -, ran⟩ | ⟨final, kept, ran⟩⟩⟩
    · rw [ran] at answered
      cases answered
    · rw [ran] at answered
      cases answered
    · rw [ran] at answered
      cases answered
    · have holds : working.connection.isIdle = false →
          (working.volume.hold? working.number).isSome = true := by
        intro busy
        rcases which with rfl | rfl
        · exact for_writing_holds granted busy
        · rw [indexed_is_idle] at busy
          rw [indexed_volume, indexed_number]
          exact for_writing_holds granted busy
      obtain ⟨mayRead, holdsStill⟩ := keep_for_reading kept holds
      rw [ran]
      refine ⟨effect, (working_kept granted which).1 ▸ done, ?_, rfl, fun number last => ?_,
        for_reading_self (fun idle => ?_) fun busy => ?_⟩
      · rw [changed_visible]
        exact (keep_visible kept).1
      · simp [changed, last]
      · exact mayRead ((changed_is_idle _ _ _).symm.trans idle)
      · exact holdsStill ((changed_is_idle _ _ _).symm.trans busy)

end Engine.Access

end RecordStore
