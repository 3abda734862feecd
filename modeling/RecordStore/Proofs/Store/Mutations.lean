import RecordStore.Proofs.Store.Calls

/-!
# Additions and updates

An addition draws a row from the entity, puts the row in and gives the entity its number. An
update draws a row under the key of the entity and writes it over the row of that key. Each step
can end the whole, and then none of the later ones is made.

The laws here say in which ways the whole can go. Whatever else holds of additions and updates is
shown from these ways, so that it rests on what one change of the engine does.
-/

namespace RecordStore

open Sql

/-! ### Writing over the row of a key -/

namespace Operation

/-- Writing over the row of a key is refused where nothing is written or where the key means no
condition. Otherwise it is one modification, and to change nothing counts as a failure. -/
theorem overwrite_cases (table : Table) (criteria : Criteria) (row : List (String × Stored))
    (store : Store) :
    ((row = [] ∨ ∃ problem, criteria.condition table "update" = .error problem) ∧
      ∃ problem, (Store.overwrite table criteria row).apply store = (.error problem, store)) ∨
    ∃ condition result after, criteria.condition table "update" = .ok condition ∧
      (executing (.change (table.modification row condition))).apply store = (result, after) ∧
      (Store.overwrite table criteria row).apply store =
        (result.bind fun count => if count = 0 then .error .unaffectedRows else .ok (), after) := by
  unfold Store.overwrite
  split
  · rename_i empty
    exact .inl ⟨.inl (List.isEmpty_iff.mp empty), _, rfl⟩
  · rw [apply_bind, apply_of_except]
    cases compiled : criteria.condition table "update" with
    | error problem => exact .inl ⟨.inr ⟨problem, rfl⟩, problem, rfl⟩
    | ok condition =>
      simp only
      rw [apply_bind]
      rcases ran : (executing (.change (table.modification row condition))).apply store with
        ⟨problem | count, after⟩
      · exact .inr ⟨condition, .error problem, after, rfl, ran, rfl⟩
      · refine .inr ⟨condition, .ok count, after, rfl, ran, ?_⟩
        simp only [Except.bind]
        split <;> rfl

/-- It ends in the store as it was, or in what the modification leaves. -/
theorem overwrite_ends_in {Ends : Store → Prop} {table : Table} {criteria : Criteria}
    {row : List (String × Stored)} {store : Store} (untouched : Ends store)
    (written : ∀ condition, criteria.condition table "update" = .ok condition →
      Ends ((executing (.change (table.modification row condition))).apply store).2) :
    Ends ((Store.overwrite table criteria row).apply store).2 := by
  rcases overwrite_cases table criteria row store with
    ⟨-, problem, refused⟩ | ⟨condition, result, after, compiled, ran, comes⟩
  · rw [refused]
    exact untouched
  · have ends := written condition compiled
    rw [ran] at ends
    rw [comes]
    exact ends

/-- So it keeps what the modification keeps. -/
theorem overwrite_keeps {Invariant : Store → Prop} {table : Table} {row : List (String × Stored)}
    (criteria : Criteria)
    (written : ∀ condition,
      Keeps Invariant (executing (.change (table.modification row condition)))) :
    Keeps Invariant (Store.overwrite table criteria row) := fun store holds =>
  overwrite_ends_in holds fun condition _ => written condition store holds

end Operation

namespace Store

variable {model : Model} {handle : Handle model} {entity : Entity model} {store : Store}

/-! ### Additions -/

/-- Where no row is drawn nothing is added. -/
theorem add_undrawn {problem : StoreError}
    (refused : (entity.row handle.table false store.host.count).outcome = .error problem) :
    store.add handle entity =
      (⟨(entity.row handle.table false store.host.count).entity, .error problem⟩,
        store.withCount (entity.row handle.table false store.host.count).count) := by
  simp only [add, refused]

/-- Where the row that is drawn cannot be put in, that is answered. -/
theorem add_refused {row : List (String × Stored)} {problem : StoreError} {after : Store}
    (drawn : (entity.row handle.table false store.host.count).outcome = .ok row)
    (refused : (Operation.executing (.change (handle.table.insertion row))).apply
      (store.withCount (entity.row handle.table false store.host.count).count) =
        (.error problem, after)) :
    store.add handle entity =
      (⟨(entity.row handle.table false store.host.count).entity, .error problem⟩, after) := by
  simp only [add, drawn, refused]

/-- Where it is put in, the entity is numbered. -/
theorem add_inserted {row : List (String × Stored)} {count : Nat} {after : Store}
    (drawn : (entity.row handle.table false store.host.count).outcome = .ok row)
    (inserted : (Operation.executing (.change (handle.table.insertion row))).apply
      (store.withCount (entity.row handle.table false store.host.count).count) =
        (.ok count, after)) :
    store.add handle entity =
      (after.numbered handle.table (entity.row handle.table false store.host.count).entity,
        after) := by
  simp only [add, drawn, inserted]

/-- The ways in which an addition can go: no row is drawn, or the row that is drawn cannot be put
in, or it is put in. -/
theorem add_cases (handle : Handle model) (entity : Entity model) (store : Store) :
    let draft := entity.row handle.table false store.host.count
    (∃ problem, draft.outcome = .error problem ∧ store.add handle entity =
      (⟨draft.entity, .error problem⟩, store.withCount draft.count)) ∨
    ∃ row, draft.outcome = .ok row ∧
      ((∃ problem after, (Operation.executing (.change (handle.table.insertion row))).apply
          (store.withCount draft.count) = (.error problem, after) ∧
        store.add handle entity = (⟨draft.entity, .error problem⟩, after)) ∨
      ∃ count after, (Operation.executing (.change (handle.table.insertion row))).apply
          (store.withCount draft.count) = (.ok count, after) ∧
        store.add handle entity = (after.numbered handle.table draft.entity, after)) := by
  intro draft
  cases drawn : draft.outcome with
  | error problem => exact .inl ⟨problem, rfl, add_undrawn drawn⟩
  | ok row =>
    refine .inr ⟨row, rfl, ?_⟩
    rcases ran : (Operation.executing (.change (handle.table.insertion row))).apply
      (store.withCount draft.count) with ⟨problem | count, after⟩
    · exact .inl ⟨problem, after, rfl, add_refused drawn ran⟩
    · exact .inr ⟨count, after, rfl, add_inserted drawn ran⟩

/-- An addition ends in what drawing leaves, or in what putting in a drawn row leaves. -/
theorem add_ends_in {Ends : Store → Prop}
    (untouched : Ends (store.withCount (entity.row handle.table false store.host.count).count))
    (inserted : ∀ row, (entity.row handle.table false store.host.count).outcome = .ok row →
      Ends ((Operation.executing (.change (handle.table.insertion row))).apply
        (store.withCount (entity.row handle.table false store.host.count).count)).2) :
    Ends (store.add handle entity).2 := by
  rcases store.add_cases handle entity with
    ⟨problem, -, ended⟩ | ⟨row, drawn, ⟨problem, after, ran, ended⟩ | ⟨count, after, ran, ended⟩⟩
  · rw [ended]
    exact untouched
  · have ends := inserted row drawn
    rw [ran] at ends
    rw [ended]
    exact ends
  · have ends := inserted row drawn
    rw [ran] at ends
    rw [ended]
    exact ends

/-! ### Updates -/

/-- Where the entity has no key nothing is drawn. -/
theorem update_unkeyed {problem : StoreError}
    (refused : (entity.key handle.table).criteria handle.table = .error problem) :
    store.update handle entity = (⟨entity, .error problem⟩, store) := by
  simp only [update, refused]

/-- Where no row is drawn nothing is updated. -/
theorem update_undrawn {criteria : Criteria} {problem : StoreError}
    (accepts : (entity.key handle.table).criteria handle.table = .ok criteria)
    (refused : (entity.row handle.table true store.host.count).outcome = .error problem) :
    store.update handle entity =
      (⟨(entity.row handle.table true store.host.count).entity, .error problem⟩,
        store.withCount (entity.row handle.table true store.host.count).count) := by
  simp only [update, accepts, refused]

/-- A row that is drawn under a key is written over the row of the key. -/
theorem update_drawn {criteria : Criteria} {row : List (String × Stored)}
    {result : Except StoreError Unit} {after : Store}
    (accepts : (entity.key handle.table).criteria handle.table = .ok criteria)
    (drawn : (entity.row handle.table true store.host.count).outcome = .ok row)
    (written : (overwrite handle.table criteria row).apply
      (store.withCount (entity.row handle.table true store.host.count).count) = (result, after)) :
    store.update handle entity =
      (⟨(entity.row handle.table true store.host.count).entity, result⟩, after) := by
  simp only [update, accepts, drawn, written]

/-- The ways in which an update can go: the entity has no key, no row is drawn, or one is drawn and
written over the row of the key. -/
theorem update_cases (handle : Handle model) (entity : Entity model) (store : Store) :
    let draft := entity.row handle.table true store.host.count
    (∃ problem, (entity.key handle.table).criteria handle.table = .error problem ∧
      store.update handle entity = (⟨entity, .error problem⟩, store)) ∨
    ∃ criteria, (entity.key handle.table).criteria handle.table = .ok criteria ∧
      ((∃ problem, draft.outcome = .error problem ∧ store.update handle entity =
        (⟨draft.entity, .error problem⟩, store.withCount draft.count)) ∨
      ∃ row result after, draft.outcome = .ok row ∧
        (overwrite handle.table criteria row).apply (store.withCount draft.count) =
          (result, after) ∧
        store.update handle entity = (⟨draft.entity, result⟩, after)) := by
  intro draft
  cases accepts : (entity.key handle.table).criteria handle.table with
  | error problem => exact .inl ⟨problem, rfl, update_unkeyed accepts⟩
  | ok criteria =>
    refine .inr ⟨criteria, rfl, ?_⟩
    cases drawn : draft.outcome with
    | error problem => exact .inl ⟨problem, rfl, update_undrawn accepts drawn⟩
    | ok row => exact .inr ⟨row, _, _, rfl, rfl, update_drawn accepts drawn rfl⟩

/-- An update ends in the store as it was, in what drawing leaves, or in what writing a drawn row
over the row of the key leaves. -/
theorem update_ends_in {Ends : Store → Prop} (unread : Ends store)
    (untouched : Ends (store.withCount (entity.row handle.table true store.host.count).count))
    (written : ∀ criteria row,
      (entity.key handle.table).criteria handle.table = .ok criteria →
      (entity.row handle.table true store.host.count).outcome = .ok row →
      Ends ((overwrite handle.table criteria row).apply
        (store.withCount (entity.row handle.table true store.host.count).count)).2) :
    Ends (store.update handle entity).2 := by
  rcases store.update_cases handle entity with
    ⟨problem, -, ended⟩ | ⟨criteria, accepts, ⟨problem, -, ended⟩ |
      ⟨row, result, after, drawn, ran, comes⟩⟩
  · rw [ended]
    exact unread
  · rw [ended]
    exact untouched
  · have ends := written criteria row accepts drawn
    rw [ran] at ends
    rw [comes]
    exact ends

end Store

end RecordStore
