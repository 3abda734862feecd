import RecordStore.Proofs.Store.AllOrNothing
import RecordStore.Proofs.Store.Creations
import RecordStore.Proofs.Store.Turns

/-!
# What a failed creation leaves

The statements that create a table run in a transaction. If the caller has none open then the
creation has one of its own, and a failure takes it back as a whole. If the caller has one open then
the statements join it: the one that fails leaves no trace by itself, but what the earlier ones made
stays in the caller's transaction, for the caller to roll back or to keep.
-/

namespace RecordStore

open Engine Sql

/-! ### Ends and beginnings that are refused -/

namespace Operation

variable {store after : Store} {problem : StoreError} {base : Database}

/-- The engine's part in the end of a transaction decides what is committed after it. -/
theorem ending_committed {statement : Statement Stored}
    (keeps : ∀ connection, store.driver.connection = some connection →
      ((⟨connection, store.host.disk⟩ : Access).run statement).access.volume.content =
        (⟨connection, store.host.disk⟩ : Access).volume.content) :
    ((ending statement).apply store).2.committed = store.committed := by
  cases opened : store.driver.connection with
  | none => rw [ending_closed _ opened]
  | some connection =>
    cases flag : store.driver.inTransaction with
    | false => rw [ending_unflagged _ opened flag]
    | true =>
      obtain ⟨left, -, ended⟩ := ending_flagged statement opened flag
      have kept : ((answering statement).apply store).2.committed = store.committed := by
        rw [Store.committed_of_connection opened]
        rcases answering_cases statement opened with ⟨outage, -, ran⟩ | ⟨execution, -, ran⟩
        · rw [ran, Store.used_committed]
          exact (Access.struck_withholds _ _ _).committed_eq
        · rw [ran, Store.used_committed, keeps connection opened]
      rw [ended]
      exact kept

/-- A rollback that may fail leaves what is committed. -/
theorem try_rollback_committed (store : Store) :
    (tryRollback.apply store).2.committed = store.committed := by
  cases flag : store.driver.inTransaction with
  | false => rw [try_rollback_unflagged flag]
  | true =>
    rw [try_rollback_flagged flag]
    exact ending_committed fun connection _ => Access.run_rollback_content _

/-- A commit that is refused leaves what is committed. -/
theorem commit_refused (refused : commit.apply store = (.error problem, after)) :
    after.committed = store.committed := by
  rcases ending_failed refused with rfl | ⟨reached, flag, asked, rfl⟩
  · rfl
  · change reached.committed = store.committed
    rcases on_connection_error asked with ⟨-, rfl⟩ | ⟨connection, fault, opened, -,
      ⟨outage, execution, -, -, rfl⟩ | ⟨fails, execution, rfl⟩⟩
    · rfl
    · rw [Store.used_committed, Store.committed_of_connection opened]
      exact (Access.struck_withholds _ _ _).committed_eq
    · rw [Store.used_committed, Store.committed_of_connection opened]
      rcases (⟨connection, store.host.disk⟩ : Access).run_commit_cases with
        ⟨answered, -⟩ | ⟨_, -, withholds⟩
      · cases answered.symm.trans fails
      · exact withholds.committed_eq

/-- A beginning that is refused changes nothing that is to be seen. -/
theorem begin_refused (refused : begin.apply store = (.error problem, after)) :
    after.visible = store.visible ∧ after.committed = store.committed := by
  rcases begin_failed refused with rfl | asked
  · exact ⟨rfl, rfl⟩
  · rcases on_connection_error asked with ⟨-, rfl⟩ | ⟨connection, fault, opened, -,
      ⟨outage, execution, -, -, rfl⟩ | ⟨-, execution, rfl⟩⟩
    · exact ⟨rfl, rfl⟩
    · rw [Store.visible_of_connection opened, Store.committed_of_connection opened]
      exact ⟨rfl, rfl⟩
    · obtain ⟨seen, kept, -⟩ := (⟨connection, store.host.disk⟩ : Access).run_begin_visible
      rw [Store.visible_of_connection opened, Store.committed_of_connection opened]
      exact ⟨seen, kept⟩

/-- Only an idle store lets a transaction begin. -/
theorem begin_ok_is_idle (begun : begin.apply store = (.ok (), after)) : store.IsIdle := by
  obtain ⟨connection, answer, opened, flag, began, -⟩ := begin_answered begun
  refine ⟨flag, connection, opened, ?_⟩
  by_contra busy
  have nested := (⟨connection, store.host.disk⟩ : Access).run_begin_busy (by simpa using busy)
  rw [nested] at began
  cases began

/-- Work that fails in a transaction of its own commits nothing, whatever comes of its end. -/
theorem in_own_transaction_fails {α : Type} {work : Operation α}
    (kept : ∀ opened, begin.apply store = (.ok (), opened) →
      (work.apply opened).2.committed = store.committed)
    (fails : (inOwnTransaction work).apply store = (.error problem, after)) :
    after.committed = store.committed := by
  rcases in_own_transaction_failed fails with refused | ⟨opened, begun,
    ⟨left, ran, rfl⟩ | ⟨answer, left, ran, ended⟩⟩
  · exact (begin_refused refused).2
  · have worked := kept opened begun
    rw [ran] at worked
    exact (try_rollback_committed left).trans worked
  · have worked := kept opened begun
    rw [ran] at worked
    exact (commit_refused ended).trans worked

/-! ### Single statements and their loop -/

/-- An operation that shows what was shown if it fails, and otherwise objects behind those that were
shown. -/
structure AddsTo {α : Type} (store : Store) (operation : Operation α) : Prop where
  failed : ∀ problem after, operation.apply store = (.error problem, after) →
    after.visible = store.visible
  answered : ∀ answer after, operation.apply store = (.ok answer, after) →
    ∃ made, after.visible.objects = store.visible.objects ++ made

/-- A call for the effect of a statement that makes an object. -/
theorem counting_adds_to (text : String) {act : Access → Outcome Answer}
    (adds : ∀ access : Access, access.Adds (act access)) (store : Store) :
    AddsTo store (onConnection text false fun access => Access.counted (act access)) := by
  constructor
  · intro problem after failed
    rcases on_connection_error failed with ⟨-, rfl⟩ | ⟨connection, fault, opened, -,
      ⟨outage, execution, -, -, rfl⟩ | ⟨refused, execution, rfl⟩⟩
    · rfl
    · rw [Store.used_visible, Store.visible_of_connection opened]
      rfl
    · rw [Store.used_visible, Store.visible_of_connection opened, counted_access]
      have added := adds ⟨connection, store.host.disk⟩
      cases answer : (act ⟨connection, store.host.disk⟩).answer with
      | error other => exact added.refused other answer
      | ok given =>
        have empty := (added.answered given answer).1
        simp only [Access.counted, answer, empty] at refused
        cases refused
  · intro count after answered
    obtain ⟨connection, opened, done, execution, rfl⟩ := on_connection_ok answered
    obtain ⟨⟨given, answer⟩, -⟩ := Access.counted_ok done
    rw [Store.used_visible, Store.visible_of_connection opened, counted_access]
    exact ((adds _).answered given answer).2

/-- One of the statements of a table, whatever the names in the table make of its text. -/
theorem creation_adds_to {table : Table} {statement : Statement Stored}
    (among : statement ∈ table.creationStatements) (store : Store) :
    AddsTo store (creation (table, statement)) := by
  obtain ⟨creates, rest, text⟩ := creation_render table statement among
  have adds : AddsTo store (creating table statement) := by
    unfold creating
    split
    · unfold executing
      rw [statement.is_creation_ends_transaction creates]
      exact counting_adds_to _ (fun access => access.run_adds creates) store
    · unfold executingText
      rw [text, Access.text_ends_transaction_creation]
      exact counting_adds_to _ (fun access => access.run_text_adds rest []) store
  constructor
  · intro problem after failed
    rcases bind_failed failed with ran | ⟨count, next, -, ended⟩
    · exact adds.failed _ _ ran
    · cases ended
  · intro answer after answered
    obtain ⟨count, _, ran, ended⟩ := bind_answered answered
    cases ended
    exact adds.answered _ _ ran

section Loop

variable {Item : Type} {work : Item → Operation PUnit} {items : List Item}

/-- A loop that fails has been answered for the items before the one at which it fails. -/
theorem for_m_fails (fails : (items.forM work).apply store = (.error problem, after)) :
    ∃ earlier item later reached, items = earlier ++ item :: later ∧
      (earlier.forM work).apply store = (.ok PUnit.unit, reached) ∧
      (work item).apply reached = (.error problem, after) := by
  induction items generalizing store with
  | nil => cases fails
  | cons item rest inductionHypothesis =>
    rcases bind_failed fails with ran | ⟨⟨⟩, next, ran, fails⟩
    · exact ⟨[], item, rest, store, rfl, rfl, ran⟩
    · obtain ⟨earlier, failing, later, reached, rfl, answered, fails⟩ := inductionHypothesis fails
      refine ⟨item :: earlier, failing, later, reached, rfl, ?_, fails⟩
      rw [List.forM_eq_forM, List.forM_cons, apply_bind, ran]
      exact answered

/-- A loop that is answered adds what its items add. -/
theorem for_m_adds (each : ∀ item ∈ items, ∀ store, AddsTo store (work item))
    (answered : (items.forM work).apply store = (.ok PUnit.unit, after)) :
    ∃ made, after.visible.objects = store.visible.objects ++ made := by
  induction items generalizing store with
  | nil =>
    cases answered
    exact ⟨[], by simp⟩
  | cons item rest inductionHypothesis =>
    obtain ⟨next, ran, later⟩ := for_m_cons_answered answered
    obtain ⟨first, one⟩ := (each item List.mem_cons_self store).answered _ _ ran
    obtain ⟨others, all⟩ := inductionHypothesis
      (fun other member => each other (List.mem_cons_of_mem item member)) later
    exact ⟨first ++ others, by rw [all, one, List.append_assoc]⟩

end Loop

/-- What the statements of a table leave that fail inside of a transaction: what those before the
failing one made, and nothing of the failing one. -/
structure LeavesEarlier (table : Table) (store after : Store) (problem : StoreError)
    (earlier : List (Statement Stored)) (made : List Object) : Prop where
  split : ∃ statement later reached,
    table.creationStatements = earlier ++ statement :: later ∧
    (earlier.forM fun statement => creation (table, statement)).apply store =
      (.ok PUnit.unit, reached) ∧
    (creation (table, statement)).apply reached = (.error problem, after)
  objects : after.visible.objects = store.visible.objects ++ made
  first : earlier = [] → after.visible = store.visible
  faithful : table.fault? = none →
    List.Forall₂ IsMadeBy earlier (made.filter fun object => !object.isSequence)

/-- If one of the statements of a table fails, what those before it made is left. -/
theorem creations_leave {table : Table}
    (fails : (table.creationStatements.forM fun statement =>
      creation (table, statement)).apply store = (.error problem, after)) :
    ∃ earlier made, LeavesEarlier table store after problem earlier made := by
  obtain ⟨earlier, statement, later, reached, split, answered, failed⟩ := for_m_fails fails
  have among : ∀ other ∈ earlier, other ∈ table.creationStatements := by
    intro other member
    rw [split]
    exact List.mem_append_left _ member
  have inTable : statement ∈ table.creationStatements := by
    rw [split]
    exact List.mem_append_right earlier List.mem_cons_self
  have same := (creation_adds_to inTable reached).failed _ _ failed
  have leaves (made : List Object)
      (objects : reached.visible.objects = store.visible.objects ++ made)
      (faithful : table.fault? = none →
        List.Forall₂ IsMadeBy earlier (made.filter fun object => !object.isSequence)) :
      LeavesEarlier table store after problem earlier made := by
    refine ⟨⟨statement, later, reached, split, answered, failed⟩, by rw [same, objects],
      ?_, faithful⟩
    rintro rfl
    cases answered
    exact same
  by_cases faultless : table.fault? = none
  · have asCreations :
        ((earlier.map fun statement => (table, statement)).forM creation).apply store =
          (.ok PUnit.unit, reached) := by
      rw [List.forM_eq_forM, List.forM_map]
      exact answered
    obtain ⟨made, objects, faithful⟩ := creations_add (fun entry member => by
      obtain ⟨other, inEarlier, rfl⟩ := List.mem_map.mp member
      exact ⟨faultless, among other inEarlier⟩) asCreations
    rw [List.map_map] at faithful
    exact ⟨earlier, made, leaves made objects fun _ => by simpa [Function.comp_def] using faithful⟩
  · obtain ⟨made, objects⟩ := for_m_adds
      (fun other member store => creation_adds_to (among other member) store) answered
    exact ⟨earlier, made, leaves made objects fun isFaultless => absurd isFaultless faultless⟩

end Operation

/-- A creation that fails leaves nothing behind by itself. Where the driver takes no transaction to
be open, nothing is committed and the store shows what it showed, unless the end of the creation's
own transaction was hindered. Where the driver takes a transaction of the caller's to be open, the
creation joins it: its statements ran up to the first one that failed, what the earlier ones made is
in the caller's transaction, and the one that failed left nothing, so that nothing at all is left if
it was the first one, as it must be for a table without analyzed columns. The caller's transaction
is still open then and nothing is committed.

Proof: outside of a transaction the statements run in one of their own, of which a failure leaves
nothing but what a hindered end leaves. Inside of one they run one after the other, and a statement
that creates something adds to what is seen or leaves it. -/
theorem failed_creation_leaves_what_it_joined {table : Table} {store after : Store}
    {problem : StoreError}
    (fails : (Operation.createTable table).apply store = (.error problem, after)) :
    (store.driver.inTransaction = false →
      after.committed = store.committed ∧
        (after.visible = store.visible ∨
          ∃ before statement, (statement = .commit ∨ statement = .rollback) ∧
            Operation.EndHindered before statement ∧
            ((Operation.ending statement).apply before).2 = after)) ∧
    (store.driver.inTransaction = true →
      (∃ earlier made, Operation.LeavesEarlier table store after problem earlier made) ∧
      (table.isAnalyzed = false → after.visible = store.visible) ∧
      ∀ base, store.IsInside base → after.IsInside base) := by
  open Operation in
  refine ⟨fun unflagged => ?_, fun flagged => ?_⟩
  · let work : Operation Unit := table.creationStatements.forM fun statement =>
      creation (table, statement)
    have own : (inOwnTransaction work).apply store = (.error problem, after) :=
      (atomically_unflagged unflagged work).symm.trans fails
    rcases begun : begin.apply store with ⟨fault | ⟨⟩, opened⟩
    · rw [apply_in_own_transaction, begun] at own
      cases own
      obtain ⟨seen, kept⟩ := begin_refused begun
      exact ⟨kept, .inl seen⟩
    · have idle := begin_ok_is_idle begun
      have inside : ∀ opened, begin.apply store = (.ok (), opened) →
          (work.apply opened).2.IsInside store.committed := fun opened begun =>
        Keeps.for_m table.creationStatements
          (fun statement among => .bind (creating_is_inside table statement among) fun _ => .pure _)
          opened (begin_is_inside idle begun).1
      have committed := in_own_transaction_fails
        (fun opened begun => (inside opened begun).committed) own
      refine ⟨committed, ?_⟩
      have leaves := in_own_transaction_leaves idle fun opened begun =>
        (inside opened begun).flagged.trans (inside opened begun).busy.symm
      have left : ((inOwnTransaction work).apply store).2 = after := congrArg Prod.snd own
      cases engine : after.driver.engineInTransaction with
      | false =>
        refine .inl ?_
        rw [Store.visible_of_no_transaction engine, committed, idle.visible_eq]
      | true =>
        rw [← left] at engine
        obtain ⟨before, statement, ends, hindered, same, -⟩ := leaves.hindered engine
        exact .inr ⟨before, statement, ends, hindered, same.trans left⟩
  · have joined : (table.creationStatements.forM fun statement => creation (table, statement)).apply
        store = (.error problem, after) := (atomically_flagged flagged _).symm.trans fails
    obtain ⟨earlier, made, leaves⟩ := creations_leave joined
    refine ⟨⟨earlier, made, leaves⟩, fun plain => leaves.first ?_, fun base inside => ?_⟩
    · obtain ⟨statement, later, reached, split, -, -⟩ := leaves.split
      have alone : table.creationStatements = [.createTable table.definition] := by
        simp [Table.creationStatements, Table.shadowStatements, plain]
      rw [alone] at split
      cases earlier with
      | nil => rfl
      | cons first rest => simp at split
    · have kept := create_table_is_inside table store inside
      rwa [fails] at kept

/-! ### A desk -/

namespace Desk

/-- A table whose name is the one that the full-text table of a letter would have. -/
def taken : Relation where
  name := "fts_letter"
  attributes := [⟨"body", .text, false, .null⟩]
  identity := .hidden
  uniques := []
  rows := []
  text := ""

/-- A letter, whose text is to be searched. -/
def letter : Table := ⟨"letter", [{ name := "sender", type := .string, primaryKey := true },
  { name := "body", type := .string, analyzed := true }]⟩

/-- A driver with a transaction of its caller's. -/
def joined : Store where
  driver := {
    config := {}
    connection := some { number := 0, location := .memory 0, transaction := some {} }
    inTransaction := true }
  host := {
    disk := { volumes := [(.memory 0, { content := { objects := [.relation taken] } })] } }

/-- The transaction of the caller is open on both sides. -/
theorem joined_is_inside : joined.IsInside joined.committed := ⟨rfl, rfl, rfl⟩

end Desk

open Desk in
/-- The letter is left in the caller's transaction when its full-text table cannot be made. -/
theorem failed_creation_leaves_the_letter :
    ((Operation.createTable letter).apply joined).1 =
        .error (.engine (.tableExists "fts_letter")
          (Statement.createFullText letter.shadowDefinition : Statement Stored).render) ∧
      ((Operation.createTable letter).apply joined).2.IsInside joined.committed ∧
      ∃ earlier made, List.Forall₂ IsMadeBy earlier (made.filter fun object => !object.isSequence) ∧
        ((Operation.createTable letter).apply joined).2.visible.objects =
          joined.visible.objects ++ made := by
  have fails : ((Operation.createTable letter).apply joined).1 =
      .error (.engine (.tableExists "fts_letter")
        (Statement.createFullText letter.shadowDefinition : Statement Stored).render) := by
    decide +kernel
  obtain ⟨⟨earlier, made, leaves⟩, -, inside⟩ :=
    (failed_creation_leaves_what_it_joined (Prod.ext fails rfl)).2 rfl
  have faultless : letter.fault? = none := by decide +kernel
  exact ⟨fails, inside _ joined_is_inside, earlier, made, leaves.faithful faultless, leaves.objects⟩

open Desk in
/-- A creation that failed inside of a transaction has left the table, without its full-text side,
and a caller who commits all the same commits it. -/
theorem failed_creation_is_committed :
    joined.IsInside joined.committed ∧
      ((Operation.createTable letter).apply joined).1.toOption = none ∧
      joined.visible.hasTable "letter" = false ∧
      ((Operation.createTable letter).apply joined).2.visible.hasTable "letter" = true ∧
      (Operation.commit.apply ((Operation.createTable letter).apply joined).2).1 = .ok () ∧
      (Operation.commit.apply ((Operation.createTable letter).apply joined).2).2.committed.hasTable
        "letter" = true := by
  refine ⟨joined_is_inside, ?_, ?_, ?_, ?_, ?_⟩ <;> decide +kernel

end RecordStore
