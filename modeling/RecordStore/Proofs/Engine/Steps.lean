import RecordStore.Proofs.Engine.Objects

/-!
# What the steps of a change keep

A change is made of few kinds of steps: a relation or a full-text table is put in the place of the
one of its name, and the number of a row is noted. What follows its rows is made of changes again.
Whatever each step keeps is therefore kept by the change with all that its triggers do, as long as
the change and the triggers are about tables for which the step keeps it.
-/

namespace RecordStore.Engine

open Sql

/-- What every step of a change about a table with an allowed name keeps. -/
structure KeptBySteps (Allowed : String → Prop) (Holds : Database → Prop) : Prop where
  congr : ∀ {left right : String}, Allowed left → sameName right left = true → Allowed right
  withRelation : ∀ {database : Database} {changed : Relation}, Allowed changed.name →
    Holds database → Holds (database.withRelation changed)
  withFullText : ∀ {database : Database} {changed : FullTextTable}, Allowed changed.name →
    Holds database → Holds (database.withFullText changed)
  noteNumber : ∀ {database : Database} (relation : Relation) (row : Row), Holds database →
    Holds (noteNumber database relation row)

/-- A relation makes room for a row under the same name. -/
theorem room_for_name {relation admitted : Relation} {row : Row} {conflict : Conflict}
    (room : roomFor relation row conflict = .ok (some admitted)) :
    admitted.name = relation.name := by
  have dropped : ∀ (rows : List Row) (start : Relation),
      (rows.foldl Relation.drop start).name = start.name := by
    intro rows
    induction rows with
    | nil => exact fun _ => rfl
    | cons row rest inductionHypothesis => exact fun start => inductionHypothesis (start.drop row)
  unfold roomFor at room
  split at room
  · cases room
    rfl
  · split at room
    · cases room
    · cases room
    · split at room
      · cases room
      · cases room
        exact dropped _ relation

/-- What follows a row keeps what holds of a database. -/
def Fire.Keeps (fire : Fire) (Holds : Database → Prop) : Prop :=
  ∀ event rows database after, Holds database → fire event rows database = .ok after → Holds after

section Rows

variable {Allowed : String → Prop} {Holds : Database → Prop} (kept : KeptBySteps Allowed Holds)
  {fire : Fire} (follows : fire.Keeps Holds)

include kept follows

/-- A row that is put in keeps what every step keeps. -/
theorem insert_row_keeps {conflict : Conflict} {name : String} {effect next : Effect}
    {values : List Stored} (allowed : Allowed name) (holds : Holds effect.database)
    (inserted : insertRow fire conflict name effect values = .ok next) : Holds next.database := by
  obtain ⟨relation, row, held, -, ⟨-, rfl⟩ | ⟨admitted, after, found, followed, rfl⟩⟩ :=
    insert_row_ok inserted
  · exact kept.noteNumber relation row holds
  · refine follows _ _ _ _ ?_ followed
    refine kept.noteNumber admitted row (kept.withRelation ?_ holds)
    rw [Relation.put, room_for_name found]
    exact kept.congr allowed (Database.relation?_name held)

/-- A row that is taken out keeps it. -/
theorem delete_row_keeps {name : String} {effect next : Effect} {row : Row} (allowed : Allowed name)
    (holds : Holds effect.database) (deleted : deleteRow fire name effect row = .ok next) :
    Holds next.database := by
  rcases delete_row_ok deleted with ⟨rfl, -⟩ | ⟨relation, after, held, followed, rfl⟩
  · exact holds
  · have named := kept.congr allowed (Database.relation?_name held)
    have dropped : Allowed (relation.drop row).name := named
    exact follows _ _ _ _ (kept.withRelation dropped holds) followed

/-- A row that is written over keeps it. -/
theorem update_row_keeps {outer : Scope} {modification : Update Stored} {effect next : Effect}
    {row : Row} (allowed : Allowed modification.table) (holds : Holds effect.database)
    (updated : updateRow fire outer modification effect row = .ok next) : Holds next.database := by
  rcases update_row_ok updated with ⟨rfl, -⟩ |
    ⟨relation, old, changed, admitted, after, held, -, -, found, followed, rfl⟩
  · exact holds
  · have named := kept.congr allowed (Database.relation?_name held)
    refine follows _ _ _ _ (kept.withRelation ?_ holds) followed
    rw [Relation.put, room_for_name found]
    exact named

/-- An insertion keeps what its steps and what follows its rows keep. Into a full-text table the
rows are put one after the other, and the table keeps its name. -/
theorem run_insert_keeps {outer : Scope} {database : Database} {insertion : Insert Stored}
    {effect : Effect} (allowed : Allowed insertion.table) (holds : Holds database)
    (done : runInsert fire outer database insertion = .ok effect) : Holds effect.database := by
  simp only [runInsert] at done
  split at done
  · obtain ⟨rows, -, folded⟩ := bind_ok done
    exact foldl_m_keeps (fun effect : Effect => Holds effect.database) _ rows holds
      (fun _ _ _ _ holdsNow => insert_row_keeps kept follows allowed holdsNow) folded
  · split at done
    · cases done
    · rename_i table held
      obtain ⟨rows, -, folded⟩ := bind_ok done
      cases folded
      have named := kept.congr allowed (Database.full_text?_name held)
      refine List.foldlRecOn (motive := fun effect : Effect => Holds effect.database) rows _ holds
        fun effect holdsNow values _ => kept.withFullText ?_ holdsNow
      cases found : effect.database.fullText? insertion.table with
      | none => exact named
      | some current =>
        have namedNow := kept.congr allowed (Database.full_text?_name found)
        exact namedNow

/-- An update keeps what its steps and what follows its rows keep. -/
theorem run_update_keeps {outer : Scope} {database : Database} {modification : Update Stored}
    {effect : Effect} (allowed : Allowed modification.table) (holds : Holds database)
    (done : runUpdate fire outer database modification = .ok effect) : Holds effect.database := by
  simp only [runUpdate] at done
  split at done
  · exact foldl_m_keeps (fun effect : Effect => Holds effect.database) _ _ holds
      (fun _ _ _ _ holdsNow => update_row_keeps kept follows allowed holdsNow) done
  · split at done
    · cases done
    · rename_i table held
      have named := kept.congr allowed (Database.full_text?_name held)
      cases done
      exact kept.withFullText named holds

/-- A deletion keeps what its steps and what follows its rows keep. -/
theorem run_delete_keeps {outer : Scope} {database : Database} {deletion : Delete Stored}
    {effect : Effect} (allowed : Allowed deletion.table) (holds : Holds database)
    (done : runDelete fire outer database deletion = .ok effect) : Holds effect.database := by
  simp only [runDelete] at done
  split at done
  · exact foldl_m_keeps (fun effect : Effect => Holds effect.database) _ _ holds
      (fun _ _ _ _ holdsNow => delete_row_keeps kept follows allowed holdsNow) done
  · split at done
    · cases done
    · rename_i table held
      have named := kept.congr allowed (Database.full_text?_name held)
      cases done
      exact kept.withFullText named holds

/-- A change keeps what its steps and what follows its rows keep. -/
theorem run_once_keeps {outer : Scope} {database : Database} {change : Change Stored}
    {effect : Effect} (allowed : Allowed (tableOf change)) (holds : Holds database)
    (done : runOnce fire outer database change = .ok effect) : Holds effect.database := by
  cases change with
  | insert insertion => exact run_insert_keeps kept follows allowed holds done
  | update modification => exact run_update_keeps kept follows allowed holds done
  | delete deletion => exact run_delete_keeps kept follows allowed holds done

end Rows

/-! ### Triggers -/

/-- What follows a row of a table: its triggers, each of them with the changes of its body. -/
def follow (depth : Nat) (running : List String) (name : String) : Fire :=
  fun event rows database =>
    let triggers := (database.triggersOn name event).filter fun trigger =>
      !running.contains trigger.name
    triggers.foldlM
      (fun database trigger =>
        trigger.body.foldlM
          (fun database step => do
            return (← runChange depth (trigger.name :: running) rows database step).database)
          database)
      database

/-- A change at some depth is done once, and its triggers follow at the depth below. -/
theorem run_change_succ (depth : Nat) (running : List String) (outer : Scope)
    (database : Database) (change : Change Stored) :
    runChange (depth + 1) running outer database change =
      runOnce (follow depth running (tableOf change)) outer database change := rfl

section Triggers

variable {Allowed : String → Prop} {Holds : Database → Prop} {depth : Nat}

/-- What follows a row keeps what the changes in the bodies of the triggers keep. -/
theorem follow_keeps_what {running : List String} {name : String}
    (about : ∀ event database, Holds database → ∀ trigger ∈ database.triggersOn name event,
      ∀ step ∈ trigger.body, Allowed (tableOf step))
    (runs : ∀ running outer database step effect, Allowed (tableOf step) → Holds database →
      runChange depth running outer database step = .ok effect → Holds effect.database) :
    (follow depth running name).Keeps Holds := by
  intro event rows database after holds followed
  have bodies : ∀ trigger ∈ database.triggersOn name event, ∀ step ∈ trigger.body,
      Allowed (tableOf step) := about event database holds
  refine foldl_m_keeps Holds _ _ holds (fun state trigger next member holdsNow ran => ?_) followed
  refine foldl_m_keeps Holds _ _ holdsNow (fun earlier step later inBody holdsThen stepped => ?_)
    ran
  obtain ⟨result, stepDone, ended⟩ := bind_ok stepped
  cases ended
  exact runs _ _ _ _ _ (bodies trigger (List.mem_filter.mp member).1 step inBody) holdsThen stepDone

variable (kept : KeptBySteps Allowed Holds)
  (closed : ∀ name, Allowed name → ∀ event database, Holds database →
    ∀ trigger ∈ database.triggersOn name event, ∀ step ∈ trigger.body, Allowed (tableOf step))

include kept closed

/-- A change with all that its triggers do keeps what its steps keep, if triggers on tables with
allowed names are about such tables. The induction is on how deep triggers may still start each
other. -/
theorem run_change_keeps {running : List String} {outer : Scope} {database : Database}
    {change : Change Stored} {effect : Effect} (allowed : Allowed (tableOf change))
    (holds : Holds database) (done : runChange depth running outer database change = .ok effect) :
    Holds effect.database := by
  induction depth generalizing running outer database change effect with
  | zero =>
    refine run_once_keeps kept ?_ allowed holds done
    rintro event rows database after holdsNow ⟨⟩
    exact holdsNow
  | succ depth inductionHypothesis =>
    refine run_once_keeps kept (follow_keeps_what (closed (tableOf change) allowed) ?_)
      allowed holds done
    exact fun _ _ _ _ _ => inductionHypothesis

/-- What follows a row keeps it, if all triggers on the table have steps on allowed tables only. -/
theorem follow_keeps (depth : Nat) (running : List String) {name : String}
    (about : ∀ event database, Holds database → ∀ trigger ∈ database.triggersOn name event,
      ∀ step ∈ trigger.body, Allowed (tableOf step)) :
    (follow depth running name).Keeps Holds :=
  follow_keeps_what about fun _ _ _ _ _ => run_change_keeps kept closed

/-- A change keeps it as a whole. Proof: by induction on the depth at which triggers fire. -/
theorem Database.change_keeps {database : Database} {change : Change Stored} {effect : Effect}
    (allowed : Allowed (tableOf change)) (holds : Holds database)
    (done : database.change change = .ok effect) : Holds effect.database :=
  run_change_keeps kept closed allowed holds done

end Triggers

end RecordStore.Engine
