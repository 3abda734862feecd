import RecordStore.Engine.Definitions
import RecordStore.Proofs.Engine.Attributes

/-!
# Objects of a database after a change

A change puts a relation or a full-text table in the place of the one of the same name. Every
other object stays what it was, so that every look-up by name finds either the new object or
what it found before.
-/

namespace RecordStore.Engine

/-! ### Steps that can fail -/

/-- What answers in two steps answers in each of them. -/
theorem bind_ok {ε α β : Type} {first : Except ε α} {next : α → Except ε β} {result : β}
    (answered : (first >>= next) = .ok result) :
    ∃ middle, first = .ok middle ∧ next middle = .ok result := by
  cases first with
  | error fault => cases answered
  | ok middle => exact ⟨middle, rfl, answered⟩

/-- What answers after a change answered before it. -/
theorem map_ok {ε α β : Type} {change : α → β} {outcome : Except ε α} {result : β}
    (answered : outcome.map change = .ok result) :
    ∃ value, outcome = .ok value ∧ change value = result := by
  cases outcome with
  | error problem => cases answered
  | ok value => exact ⟨value, rfl, Except.ok.inj answered⟩

/-- A fold that answers keeps what each of its steps keeps. -/
theorem foldl_m_keeps {State Item : Type} (Invariant : State → Prop)
    (step : State → Item → Except Fault State) (items : List Item) {start last : State}
    (initially : Invariant start)
    (steps : ∀ state item next, item ∈ items → Invariant state → step state item = .ok next →
      Invariant next)
    (folded : items.foldlM step start = .ok last) : Invariant last := by
  induction items generalizing start with
  | nil =>
    cases folded
    exact initially
  | cons item rest inductionHypothesis =>
    rw [List.foldlM_cons] at folded
    obtain ⟨next, stepped, followed⟩ := bind_ok folded
    exact inductionHypothesis (steps start item next List.mem_cons_self initially stepped)
      (fun state other later member => steps state other later (List.mem_cons_of_mem item member))
      followed

/-- A fold whose every step answers and keeps an invariant answers and keeps it. -/
theorem foldl_m_answers {State Item : Type} (Invariant : State → Prop)
    (step : State → Item → Except Fault State) (items : List Item) (start : State)
    (initially : Invariant start)
    (steps : ∀ state item, item ∈ items → Invariant state →
      ∃ next, step state item = .ok next ∧ Invariant next) :
    ∃ last, items.foldlM step start = .ok last ∧ Invariant last := by
  induction items generalizing start with
  | nil => exact ⟨start, rfl, initially⟩
  | cons item rest inductionHypothesis =>
    obtain ⟨next, stepped, kept⟩ := steps start item List.mem_cons_self initially
    obtain ⟨last, folded, final⟩ := inductionHypothesis next kept
      fun state other member => steps state other (List.mem_cons_of_mem item member)
    refine ⟨last, ?_, final⟩
    rw [List.foldlM_cons, stepped]
    exact folded

namespace Database

/-! ### Triggers -/

/-- A changed table has the triggers that it had. -/
@[simp] theorem triggers_on_with_relation (database : Database) (changed : Relation)
    (table : String) (event : Sql.RowEvent) :
    (database.withRelation changed).triggersOn table event = database.triggersOn table event := by
  unfold triggersOn withRelation
  simp only [List.filterMap_map]
  congr 2
  funext object
  cases object with
  | relation kept =>
    by_cases same : sameName kept.name changed.name = true <;> simp [same]
  | _ => rfl

/-- A changed full-text table leaves all triggers. -/
@[simp] theorem triggers_on_with_full_text (database : Database) (changed : FullTextTable)
    (table : String) (event : Sql.RowEvent) :
    (database.withFullText changed).triggersOn table event = database.triggersOn table event := by
  unfold triggersOn withFullText
  simp only [List.filterMap_map]
  congr 2
  funext object
  cases object with
  | fullText kept =>
    by_cases same : sameName kept.name changed.name = true <;> simp [same]
  | _ => rfl

/-! ### Relations and full-text tables -/

/-- What is found under a name has that name. -/
theorem relation?_name {database : Database} {name : String} {found : Relation}
    (held : database.relation? name = some found) : sameName found.name name = true := by
  obtain ⟨object, -, matched⟩ := List.exists_of_findSome?_eq_some held
  split at matched
  · split at matched
    · cases matched
      assumption
    · cases matched
  · cases matched

/-- The full-text table that is found under a name has the name. -/
theorem full_text?_name {database : Database} {name : String} {found : FullTextTable}
    (held : database.fullText? name = some found) : sameName found.name name = true := by
  obtain ⟨object, -, matched⟩ := List.exists_of_findSome?_eq_some held
  split at matched
  · split at matched
    · cases matched
      assumption
    · cases matched
  · cases matched

/-- The relation that was found is replaced. -/
theorem relation?_with_relation {database : Database} {name : String} {found changed : Relation}
    (held : database.relation? name = some found) (named : changed.name = found.name) :
    (database.withRelation changed).relation? name = some changed := by
  have meansFound := relation?_name held
  unfold relation? withRelation at *
  simp only at held ⊢
  generalize database.objects = objects at held ⊢
  induction objects with
  | nil => cases held
  | cons object rest inductionHypothesis =>
    simp only [List.map_cons, List.findSome?_cons] at held ⊢
    cases object with
    | relation kept =>
      by_cases meant : sameName kept.name name = true
      · simp only [meant, if_true, Option.some.injEq] at held
        subst held
        simp [named, meant]
      · simp only [meant, if_false, Bool.false_eq_true] at held
        have other : sameName kept.name changed.name = false := by
          rw [named]
          by_contra same
          exact meant (same_name_trans (by simpa using same) meansFound)
        simp only [other, meant, if_false, Bool.false_eq_true]
        exact inductionHypothesis held
    | fullText _ => exact inductionHypothesis held
    | trigger _ => exact inductionHypothesis held
    | sequence => exact inductionHypothesis held

/-- A relation of another name stays what it was. -/
theorem relation?_with_relation_of_ne (database : Database) {name : String} {changed : Relation}
    (other : sameName changed.name name = false) :
    (database.withRelation changed).relation? name = database.relation? name := by
  unfold relation? withRelation
  simp only [List.findSome?_map]
  congr 1
  funext object
  cases object with
  | relation kept =>
    by_cases same : sameName kept.name changed.name = true
    · have kept' : sameName kept.name name = false := by
        rw [same_name_congr same]
        exact other
      simp [same, other, kept']
    · simp [same]
  | _ => rfl

/-- A changed table leaves the full-text tables. -/
@[simp] theorem full_text?_with_relation (database : Database) (changed : Relation)
    (name : String) : (database.withRelation changed).fullText? name = database.fullText? name := by
  unfold fullText? withRelation
  simp only [List.findSome?_map]
  congr 1
  funext object
  cases object with
  | relation kept =>
    by_cases same : sameName kept.name changed.name = true <;> simp [same]
  | _ => rfl

/-- The full-text table that was found is replaced. -/
theorem full_text?_with_full_text {database : Database} {name : String}
    {found changed : FullTextTable} (held : database.fullText? name = some found)
    (named : changed.name = found.name) :
    (database.withFullText changed).fullText? name = some changed := by
  have meansFound := full_text?_name held
  unfold fullText? withFullText at *
  simp only at held ⊢
  generalize database.objects = objects at held ⊢
  induction objects with
  | nil => cases held
  | cons object rest inductionHypothesis =>
    simp only [List.map_cons, List.findSome?_cons] at held ⊢
    cases object with
    | fullText kept =>
      by_cases meant : sameName kept.name name = true
      · simp only [meant, if_true, Option.some.injEq] at held
        subst held
        simp [named, meant]
      · simp only [meant, if_false, Bool.false_eq_true] at held
        have other : sameName kept.name changed.name = false := by
          rw [named]
          by_contra same
          exact meant (same_name_trans (by simpa using same) meansFound)
        simp only [other, meant, if_false, Bool.false_eq_true]
        exact inductionHypothesis held
    | relation _ => exact inductionHypothesis held
    | trigger _ => exact inductionHypothesis held
    | sequence => exact inductionHypothesis held

/-- A full-text table of another name stays what it was. -/
theorem full_text?_with_full_text_of_ne (database : Database) {name : String}
    {changed : FullTextTable} (other : sameName changed.name name = false) :
    (database.withFullText changed).fullText? name = database.fullText? name := by
  unfold fullText? withFullText
  simp only [List.findSome?_map]
  congr 1
  funext object
  cases object with
  | fullText kept =>
    by_cases same : sameName kept.name changed.name = true
    · have kept' : sameName kept.name name = false := by
        rw [same_name_congr same]
        exact other
      simp [same, other, kept']
    · simp [same]
  | _ => rfl

/-- A changed full-text table leaves the other tables. -/
@[simp] theorem relation?_with_full_text (database : Database) (changed : FullTextTable)
    (name : String) : (database.withFullText changed).relation? name = database.relation? name := by
  unfold relation? withFullText
  simp only [List.findSome?_map]
  congr 1
  funext object
  cases object with
  | fullText kept =>
    by_cases same : sameName kept.name changed.name = true <;> simp [same]
  | _ => rfl

/-- Names that are the same find the same. -/
theorem relation?_congr {left right : String} (same : sameName left right = true)
    (database : Database) : database.relation? left = database.relation? right := by
  unfold relation?
  simp only [same_name_congr_right same]

/-- Which full-text table is found does not depend on how the name is written. -/
theorem full_text?_congr {left right : String} (same : sameName left right = true)
    (database : Database) : database.fullText? left = database.fullText? right := by
  unfold fullText?
  simp only [same_name_congr_right same]

end Database

/-! ### Row by row -/

section Rows

variable {fire : Fire} {effect next : Effect} {row : Row}

/-- A row that is put in where conflicts abort offends nothing. -/
theorem room_for_abort {relation : Relation} {room : Option Relation}
    (found : roomFor relation row .abort = .ok room) :
    relation.fault? row = none ∧ room = some relation := by
  unfold roomFor at found
  cases offends : relation.fault? row with
  | some fault =>
    rw [offends] at found
    cases found
  | none =>
    rw [offends] at found
    cases found
    exact ⟨rfl, rfl⟩

/-- What it takes to put a row of values in: it gets a number, and then it is left out, or room is
made for it and the triggers follow. -/
theorem insert_row_ok {conflict : Sql.Conflict} {name : String} {values : List Stored}
    (inserted : insertRow fire conflict name effect values = .ok next) :
    ∃ relation row, effect.database.relation? name = some relation ∧
      numberedRow effect.database relation values = .ok row ∧
      ((roomFor relation row conflict = .ok none ∧
          next = { effect with database := noteNumber effect.database relation row }) ∨
        ∃ admitted after, roomFor relation row conflict = .ok (some admitted) ∧
          fire .insertion [relation.newRow row] (withRow effect.database admitted row) = .ok after ∧
          next = ⟨after, effect.changed + 1, match relation.identity with
            | .keyed _ => effect.lastNumber
            | _ => some row.number⟩) := by
  unfold insertRow at inserted
  split at inserted
  · cases inserted
  · rename_i relation held
    obtain ⟨row, numbered, inserted⟩ := bind_ok inserted
    refine ⟨relation, row, held, numbered, ?_⟩
    obtain ⟨room, found, inserted⟩ := bind_ok inserted
    cases room with
    | none =>
      cases inserted
      exact .inl ⟨found, rfl⟩
    | some admitted =>
      obtain ⟨after, followed, ended⟩ := bind_ok inserted
      cases ended
      exact .inr ⟨admitted, after, found, followed, rfl⟩

/-- What it takes to take a row out: if it still stands it is dropped, and the triggers follow. -/
theorem delete_row_ok {name : String} (deleted : deleteRow fire name effect row = .ok next) :
    (next = effect ∧ ∀ relation, effect.database.relation? name = some relation →
      relation.standing? row = none) ∨
    ∃ relation after, effect.database.relation? name = some relation ∧
      fire .deletion [relation.oldRow row]
        (effect.database.withRelation (relation.drop row)) = .ok after ∧
      next = { effect with database := after, changed := effect.changed + 1 } := by
  unfold deleteRow at deleted
  split at deleted
  · rename_i missing
    cases deleted
    exact .inl ⟨rfl, fun relation held => by cases missing.symm.trans held⟩
  · rename_i relation held
    split at deleted
    · rename_i gone
      cases deleted
      refine .inl ⟨rfl, fun other heldToo => ?_⟩
      cases held.symm.trans heldToo
      simpa using gone
    · obtain ⟨after, followed, ended⟩ := bind_ok deleted
      cases ended
      exact .inr ⟨relation, after, held, followed, rfl⟩

/-- What it takes to write over a row: if it still stands its values are assigned and numbered
again, and then it is left as it is, or room is made for it and the triggers follow. -/
theorem update_row_ok {outer : Scope} {modification : Sql.Update Stored}
    (updated : updateRow fire outer modification effect row = .ok next) :
    (next = effect ∧ ∀ relation, effect.database.relation? modification.table = some relation →
      ∀ old, relation.standing? row = some old →
        ∃ changed, roomFor (relation.drop old) changed modification.conflict = .ok none) ∨
    ∃ relation old changed admitted after,
      effect.database.relation? modification.table = some relation ∧
      relation.standing? row = some old ∧
      renumbered relation old (assigned relation.attributes
        (relation.binding relation.name old :: outer) modification.assignments old.values) =
          .ok changed ∧
      roomFor (relation.drop old) changed modification.conflict = .ok (some admitted) ∧
      fire .modification [relation.oldRow old, relation.newRow changed]
        (effect.database.withRelation (admitted.put changed)) = .ok after ∧
      next = { effect with database := after, changed := effect.changed + 1 } := by
  unfold updateRow at updated
  split at updated
  · rename_i missing
    cases updated
    exact .inl ⟨rfl, fun relation held => by cases missing.symm.trans held⟩
  · rename_i relation held
    split at updated
    · rename_i gone
      cases updated
      refine .inl ⟨rfl, fun other heldToo old standing => ?_⟩
      cases held.symm.trans heldToo
      cases gone.symm.trans standing
    · rename_i old standing
      obtain ⟨changed, assigns, updated⟩ := bind_ok updated
      obtain ⟨room, found, updated⟩ := bind_ok updated
      cases room with
      | none =>
        cases updated
        refine .inl ⟨rfl, fun other heldToo same standingToo => ?_⟩
        cases held.symm.trans heldToo
        cases standing.symm.trans standingToo
        exact ⟨changed, found⟩
      | some admitted =>
        obtain ⟨after, followed, ended⟩ := bind_ok updated
        cases ended
        exact .inr ⟨relation, old, changed, admitted, after, held, standing, assigns,
          found, followed, rfl⟩

end Rows

/-! ### Changes that nothing follows -/

/-- What follows a row when no trigger does: nothing. -/
def Fire.IsQuiet (fire : Fire) (event : Sql.RowEvent) (Quiet : Database → Prop) : Prop :=
  ∀ rows database, Quiet database → fire event rows database = .ok database

/-- A deletion that no trigger follows fails only for want of its table. -/
theorem run_delete_quiet {fire : Fire} (Quiet : Database → Prop)
    (quiet : fire.IsQuiet .deletion Quiet)
    (kept : ∀ database relation, Quiet database → Quiet (database.withRelation relation))
    (outer : Scope) (database : Database) (deletion : Sql.Delete Stored)
    (initially : Quiet database) :
    runDelete fire outer database deletion = .error (.noSuchTable deletion.table) ∨
      ∃ effect, runDelete fire outer database deletion = .ok effect := by
  unfold runDelete
  split
  · rename_i relation found
    refine .inr ?_
    obtain ⟨effect, folded, -⟩ := foldl_m_answers
      (fun effect : Effect => Quiet effect.database)
      (deleteRow fire deletion.table) _ { database } initially
      (by
        intro effect row _ quietNow
        unfold deleteRow
        cases held : effect.database.relation? deletion.table with
        | none => exact ⟨effect, rfl, quietNow⟩
        | some relation =>
          simp only
          split
          · exact ⟨effect, rfl, quietNow⟩
          · have quietThen := kept effect.database (relation.drop row) quietNow
            rw [quiet _ _ quietThen]
            exact ⟨_, rfl, quietThen⟩)
    exact ⟨effect, folded⟩
  · split
    · exact .inl rfl
    · exact .inr ⟨_, rfl⟩

/-- A deletion from a table without triggers fails only for want of the table. -/
theorem Database.change_delete_quiet (database : Database) (deletion : Sql.Delete Stored)
    (quiet : database.triggersOn deletion.table .deletion = []) :
    database.change (.delete deletion) = .error (.noSuchTable deletion.table) ∨
      ∃ effect, database.change (.delete deletion) = .ok effect := by
  unfold Database.change
  cases database.objects.length with
  | zero =>
    exact run_delete_quiet (fun _ => True) (fun _ _ _ => rfl) (fun _ _ _ => trivial)
      [] database deletion trivial
  | succ depth =>
    unfold runChange
    refine run_delete_quiet
      (fun database => database.triggersOn deletion.table .deletion = []) ?_ ?_ []
      database deletion quiet
    · intro rows database quietNow
      simp only [tableOf, quietNow]
      rfl
    · intro database relation quietBefore
      rw [triggers_on_with_relation]
      exact quietBefore

end RecordStore.Engine
