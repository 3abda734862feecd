import RecordStore.Proofs.Store.Drafts
import RecordStore.Proofs.Store.NumberedTables
import RecordStore.Proofs.Store.Turns

/-!
# Ledgers of handed out numbers

A ledger lists the numbers of a table that additions have handed out and that no rollback has taken
back. What was handed out in a transaction waits for its end: it lasts if the transaction is
committed, and leaves the ledger with all other endings, also where the engine gives a transaction
up by itself.

Along a run of calls what is committed recalls the numbers that last, and what is seen recalls all
numbers of the ledger.
-/

namespace RecordStore

open Engine Sql

/-- Numbers of a table that were handed out: those that last, and those that wait for the end of the
transaction that is open. -/
structure Ledger where
  lasting : List Int64 := []
  waiting : List Int64 := []
  deriving DecidableEq, Repr

namespace Ledger

/-- All numbers of a ledger. -/
def numbers (ledger : Ledger) : List Int64 := ledger.lasting ++ ledger.waiting

/-- The ledger with a further number, if there is one. -/
def noting (ledger : Ledger) (number? : Option Int64) : Ledger :=
  { ledger with waiting := ledger.waiting ++ number?.toList }

/-- The ledger after a call. While a transaction is open its numbers wait. When none is open, they
last if the call is one that keeps what was done, and else they are taken back. -/
def settled (ledger : Ledger) (isKept isOpen : Bool) : Ledger :=
  if isOpen then ledger else if isKept then ⟨ledger.numbers, []⟩ else ⟨ledger.lasting, []⟩

/-- Without a further number a ledger stays as it is. -/
@[simp] theorem noting_none (ledger : Ledger) : ledger.noting none = ledger := by
  simp [noting]

/-- The numbers that last are numbers of the ledger. -/
theorem lasting_subset (ledger : Ledger) : ledger.lasting ⊆ ledger.numbers :=
  List.subset_append_left _ _

/-- A ledger in which nothing waits has the numbers that last. -/
theorem numbers_lasting (numbers : List Int64) : (⟨numbers, []⟩ : Ledger).numbers = numbers :=
  List.append_nil numbers

/-- With a further number a ledger has no others than before. -/
theorem numbers_noting_subset (ledger : Ledger) (number : Int64) :
    (ledger.noting (some number)).numbers ⊆ number :: ledger.numbers := by
  intro other member
  simp only [numbers, noting, Option.toList_some, List.mem_append, List.mem_cons] at member ⊢
  tauto

/-- What is committed recalls the numbers that last, and what is seen recalls all of them. Where no
transaction is open no number waits. -/
structure IsRecalledIn (ledger : Ledger) (table : Table) (view : View) : Prop where
  lasting : table.Recalls ledger.lasting view.committed
  seen : table.Recalls ledger.numbers view.visible
  waits : view.isIdle = true → ledger.waiting = []

namespace IsRecalledIn

variable {ledger : Ledger} {table : Table} {before after : View}

/-- A step that commits nothing takes back what waited if no transaction is open any more. -/
theorem withheld (recalled : ledger.IsRecalledIn table before)
    (withholds : before.Withholds after) :
    (ledger.settled false (!after.isIdle)).IsRecalledIn table after := by
  have tookBack : table.Recalls ledger.lasting after.visible → after.isIdle = true →
      (ledger.settled false (!after.isIdle)).IsRecalledIn table after := by
    intro seen idle
    rw [idle]
    refine ⟨withholds.committed_eq ▸ recalled.lasting, ?_, fun _ => rfl⟩
    rw [show (ledger.settled false !true).numbers = ledger.lasting from numbers_lasting _]
    exact seen
  cases withholds with
  | stays seen committed opens =>
    cases idle : after.isIdle with
    | true => exact idle ▸ tookBack (seen ▸ recalled.seen.fewer ledger.lasting_subset) idle
    | false =>
      refine ⟨committed ▸ recalled.lasting, seen ▸ recalled.seen, fun none => ?_⟩
      cases idle.symm.trans none
  | takesBack seen committed idle => exact tookBack (seen ▸ recalled.lasting) idle

/-- After a commit everything that was handed out lasts. -/
theorem concluded (recalled : ledger.IsRecalledIn table before)
    (concludes : before.Concludes after) :
    (ledger.settled true (!after.isIdle)).IsRecalledIn table after := by
  rw [concludes.idle]
  refine ⟨concludes.committed ▸ recalled.seen, ?_, fun _ => rfl⟩
  rw [show (ledger.settled true !true).numbers = ledger.numbers from numbers_lasting _]
  exact concludes.seen ▸ recalled.seen

/-- A change after which further numbers are recalled lets them be noted, whether the call keeps
them or not. -/
theorem put (recalled : ledger.IsRecalledIn table before) {database : Database}
    (puts : before.Puts after database) {number? : Option Int64}
    (recalls : table.Recalls (ledger.noting number?).numbers database) (isKept : Bool) :
    ((ledger.noting number?).settled isKept (!after.isIdle)).IsRecalledIn table after := by
  obtain ⟨seen, committed, same⟩ := puts
  rw [same]
  cases idle : before.isIdle with
  | true =>
    rw [idle, if_pos rfl] at committed
    have all : ∀ numbers, numbers ⊆ (ledger.noting number?).numbers →
        (⟨numbers, []⟩ : Ledger).IsRecalledIn table after := by
      intro numbers subset
      refine ⟨committed ▸ recalls.fewer subset, ?_, fun _ => rfl⟩
      rw [numbers_lasting]
      exact seen ▸ recalls.fewer subset
    cases isKept with
    | true => exact all _ (List.Subset.refl _)
    | false => exact all _ (lasting_subset _)
  | false =>
    rw [idle, if_neg nofun] at committed
    refine ⟨committed ▸ recalled.lasting, seen ▸ recalls, fun none => ?_⟩
    cases (same.trans idle).symm.trans none

end IsRecalledIn

end Ledger

/-! ### Calls -/

/-- Nothing that an entity writes is for the key that the engine numbers. -/
theorem Entity.row_spares_number {model : Model} {entity : Entity model} {table : Table}
    {isUpdate : Bool} {count : Nat} {row : List (String × Stored)} {key : String}
    (apart : ToldApart table.columnNames) (numbered : table.autoincrementKey? = some key)
    (drawn : (entity.row table isUpdate count).outcome = .ok row) :
    ∀ entry ∈ row.map (fun entry => (entry.1, entry.2.bound)), sameName entry.1 key = false := by
  obtain ⟨-, column, inTable, isNumbered, rfl⟩ := autoincrement_key?_column apart numbered
  simp only [Bool.and_eq_true] at isNumbered
  exact bound_spares apart drawn inTable (by simp [rowColumns, isNumbered.1])

namespace Table

/-- The number that an addition hands out: none if it fails or is about another table, and else the
one that the engine gave last. -/
def handedOut? {model : Model} (table : Table) (handle : Handle model) (saved : Saved model)
    (after : Store) : Option Int64 :=
  if handle.table.name = table.name ∧ saved.outcome.isOk = true then after.lastNumber? else none

/-- The tables of a schema are the one at hand, or have other names. -/
def IsAloneIn (table : Table) (schema : Schema) : Prop :=
  ∀ other ∈ schema.tables, other = table ∨ sameName other.name table.name = false

variable {table : Table} {key : String} {ledger : Ledger} {schema : Schema} {store after : Store}
  {model : Model}

/-- A call hands nothing out if every change that it may make keeps what is recalled. -/
theorem turned_recalled {kind : Change Stored → Prop}
    (recalled : ledger.IsRecalledIn table store.view) (turns : store.Turns kind after)
    (keeps : ∀ change effect, kind change →
      store.visible.change (change.mapOperands Stored.bound) = .ok effect →
        table.Recalls ledger.numbers effect.database) :
    (ledger.settled false after.driver.engineInTransaction).IsRecalledIn table after.view := by
  rw [← after.view_is_open]
  rcases turns with withholds | ⟨change, effect, which, makes⟩
  · exact recalled.withheld withholds
  · have recalls : table.Recalls (ledger.noting none).numbers effect.database := by
      rw [Ledger.noting_none]
      exact keeps change effect which makes.done
    have put := recalled.put makes.puts recalls false
    rwa [Ledger.noting_none] at put

section Numbered

variable (admitted : table.IsAdmitted) (numbered : table.autoincrementKey? = some key)

include admitted numbered

/-- A row that was put in for an entity has a positive number that was not recalled, and it is the
one that was given last. -/
theorem IsNumberedIn.addition {numbers : List Int64} {relation : Relation}
    (held : table.IsNumberedIn numbers store.visible relation) {entity : Entity model} {count : Nat}
    {row : List (String × Stored)} {effect : Effect}
    (drawn : (entity.row table false count).outcome = .ok row)
    (makes : store.Makes after (table.insertion row) effect) :
    ∃ put, table.IsNumberedIn (put.number :: numbers) after.visible (relation.put put) ∧
      relation.value put key = .integer put.number ∧ 0 < put.number ∧
      store.visible.givenNumber table.name < put.number ∧ after.lastNumber? = some put.number := by
  have done := makes.done
  rw [insertion_bound] at done
  obtain ⟨put, heldNow, shows, positive, above, last⟩ :=
    held.insertion admitted numbered (Entity.row_spares_number held.apart numbered drawn) done
  have seen : after.visible = effect.database := makes.puts.seen
  exact ⟨put, seen ▸ heldNow, shows, positive, above, makes.last put.number last⟩

variable (alone : table.IsAloneIn schema)
  (recalled : ledger.IsRecalledIn table store.view)

include alone recalled

omit admitted in
/-- Behind an update the numbers of the ledger are still recalled. -/
theorem update_recalled (handle : Handle model) (known : handle.table ∈ schema.tables)
    (entity : Entity model) :
    (ledger.settled false (store.update handle entity).2.driver.engineInTransaction).IsRecalledIn
      table (store.update handle entity).2.view := by
  refine turned_recalled recalled (store.update_turns handle entity) ?_
  rintro _ effect ⟨count, row, condition, drawn, rfl⟩ done
  rw [modification_bound] at done
  rcases alone handle.table known with same | other
  · rw [same] at drawn done
    obtain ⟨relation, held⟩ := recalled.seen
    exact recalled.seen.modification numbered
      (Entity.row_spares_number held.apart numbered drawn) done
  · exact recalled.seen.elsewhere done other

omit admitted numbered in
/-- Behind a removal they are, too. -/
theorem remove_recalled (handle : Handle model) (known : handle.table ∈ schema.tables)
    (key : Key) :
    (ledger.settled false
        ((Operation.remove handle key).apply store).2.driver.engineInTransaction).IsRecalledIn table
      ((Operation.remove handle key).apply store).2.view := by
  refine turned_recalled recalled (Operation.remove_turns handle key store) ?_
  rintro _ effect ⟨condition, rfl⟩ done
  rw [deletion_bound] at done
  rcases alone handle.table known with same | other
  · rw [same] at done
    exact recalled.seen.deletion done
  · exact recalled.seen.elsewhere done other

/-- An addition keeps the ledger with the number that it hands out. -/
theorem add_recalled (handle : Handle model) (known : handle.table ∈ schema.tables)
    (entity : Entity model) :
    let saved := (store.add handle entity).1
    let after := (store.add handle entity).2
    ((ledger.noting (table.handedOut? handle saved after)).settled saved.outcome.isOk
      after.driver.engineInTransaction).IsRecalledIn table after.view := by
  intro saved after
  rw [← after.view_is_open]
  rcases store.add_turns handle entity with
    ⟨⟨problem, failed⟩, withholds⟩ | ⟨count, row, effect, drawn, makes⟩
  · have outcome : saved.outcome = .error problem := failed
    simp only [handedOut?, outcome, Except.isOk, Except.toBool, Bool.false_eq_true, and_false,
      if_false, Ledger.noting_none]
    exact recalled.withheld withholds
  · refine recalled.put makes.puts ?_ _
    rcases alone handle.table known with same | other
    · rw [same] at drawn makes
      obtain ⟨relation, held⟩ := recalled.seen
      obtain ⟨put, heldNow, -, -, -, last⟩ := held.addition admitted numbered drawn makes
      have recalls : table.Recalls (put.number :: ledger.numbers) effect.database :=
        makes.puts.seen ▸ ⟨_, heldNow⟩
      unfold handedOut?
      split
      · rw [last]
        exact recalls.fewer (ledger.numbers_noting_subset put.number)
      · rw [Ledger.noting_none]
        exact recalls.fewer (List.subset_cons_self _ _)
    · have different : handle.table.name ≠ table.name := by
        intro equal
        rw [equal, same_name_refl] at other
        cases other
      have done := makes.done
      rw [insertion_bound] at done
      simp only [handedOut?, different, false_and, if_false, Ledger.noting_none]
      exact recalled.seen.elsewhere done other

end Numbered

end Table

end RecordStore
