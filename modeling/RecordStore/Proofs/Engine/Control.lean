import RecordStore.Proofs.Engine.Transactions

/-!
# Statements that control transactions

Six statements are about transactions: two open one, two end one, and the rest mark points of
one. All others leave the connection as idle as it was, with the one exception of an insertion
into a full table, and they leave what is committed alone for as long as a transaction is open.
A text controls transactions if the statement that is read from it does.
-/

namespace RecordStore

open Engine

namespace Sql

variable {Operand Other : Type}

/-- Whether a statement is about transactions. -/
def Statement.isControl : Statement Operand → Bool
  | .begin _ => true
  | .commit => true
  | .rollback => true
  | .savepoint _ => true
  | .release _ => true
  | .rollbackTo _ => true
  | _ => false

/-- Whether a statement opens a transaction where none is open. -/
def Statement.opensTransaction : Statement Operand → Bool
  | .begin _ => true
  | .savepoint _ => true
  | _ => false

/-- Whether a statement ends whatever transaction is open. -/
def Statement.closesTransaction : Statement Operand → Bool
  | .commit => true
  | .rollback => true
  | _ => false

/-- Whether the first statement of a text is about transactions. -/
def textControls (text : String) : Bool :=
  (parse text).toOption.any fun read => read.statement.isControl

/-- Whether a statement is about transactions does not depend on its operands. -/
@[simp] theorem Statement.is_control_map_operands (replace : Operand → Other)
    (statement : Statement Operand) :
    (statement.mapOperands replace).isControl = statement.isControl := by
  cases statement <;> rfl

/-- Whether it opens a transaction does not depend on its operands. -/
@[simp] theorem Statement.opens_transaction_map_operands (replace : Operand → Other)
    (statement : Statement Operand) :
    (statement.mapOperands replace).opensTransaction = statement.opensTransaction := by
  cases statement <;> rfl

/-- Whether it ends a transaction does not depend on its operands. -/
@[simp] theorem Statement.closes_transaction_map_operands (replace : Operand → Other)
    (statement : Statement Operand) :
    (statement.mapOperands replace).closesTransaction = statement.closesTransaction := by
  cases statement <;> rfl

/-- Only a statement about transactions can end one. -/
theorem Statement.ends_transaction_of_plain {statement : Statement Operand}
    (plain : statement.isControl = false) : statement.endsTransaction = false := by
  cases statement <;> first | rfl | cases plain

/-- A text whose statement is not about transactions ends none when it is struck. -/
theorem text_ends_transaction_of_plain {text : String} (plain : textControls text = false) :
    Access.textEndsTransaction text = false := by
  unfold textControls at plain
  unfold Access.textEndsTransaction
  cases found : parse text with
  | error fault => rfl
  | ok read =>
    rw [found] at plain
    exact Statement.ends_transaction_of_plain (by simpa [Except.toOption] using plain)

/-- Creations are not about transactions. -/
theorem Statement.is_control_of_is_creation {statement : Statement Operand}
    (creates : statement.isCreation) : statement.isControl = false := by
  cases statement <;> first | rfl | exact creates.elim

/-- A text that starts with `CREATE` is not about transactions. -/
theorem text_controls_creation (rest : List Char) :
    textControls (String.ofList ("CREATE ".toList ++ rest)) = false := by
  unfold textControls
  cases found : parse (String.ofList ("CREATE ".toList ++ rest)) with
  | error fault => rfl
  | ok read =>
    simpa [Except.toOption] using
      Statement.is_control_of_is_creation (parse_creates rest read found)

end Sql

namespace Engine.Access

open Sql

variable {access held : Access}

/-! ### Steps that commit nothing -/

/-- Inside a transaction what is written is kept in its draft. -/
theorem keep_content {database : Database} (busy : access.connection.isIdle = false)
    (kept : access.keep database = .ok held) : held.volume.content = access.volume.content := by
  rcases keep_ok kept with ⟨transaction, -, rfl⟩ | ⟨idle, -, -⟩
  · rfl
  · simp [Connection.isIdle, idle] at busy

/-- A statement that fails commits nothing. -/
theorem failed_content (access : Access) (guarded : Bool) (fault : Fault) :
    (access.failed guarded fault).volume.content = access.volume.content := by
  unfold failed
  split
  · exact access.ended_volume_content
  · rfl

/-- A query commits nothing. -/
theorem run_select_content (access : Access) (query : Select Stored) :
    (access.runSelect query).access.volume.content = access.volume.content := by
  rcases access.run_select_access query with same | granted
  · rw [same]
  · exact (for_reading_visible granted).2

/-- Inside of a transaction a definition commits nothing. -/
theorem run_definition_content (busy : access.connection.isIdle = false)
    (define : Database → Except Fault Database) :
    (access.runDefinition define).access.volume.content = access.volume.content := by
  rcases access.run_definition_cases define with
    ⟨fault, ran⟩ | ⟨database, held, -, granted, ⟨fault, ran⟩ | ⟨final, kept, ran⟩⟩
  · rw [ran]
  · rw [ran]
    exact (for_writing_visible granted).2
  · rw [ran]
    exact (keep_content ((for_writing_is_idle granted).trans busy) kept).trans
      (for_writing_visible granted).2

/-- Inside of a transaction a change commits nothing. -/
theorem run_change_content (busy : access.connection.isIdle = false) (change : Change Stored) :
    (access.runChange change).access.volume.content = access.volume.content := by
  rcases run_change_cases access change with ⟨fault, -, ran⟩ | ⟨held, working, granted, which, rest⟩
  · rw [ran]
    rfl
  · obtain ⟨-, reached, idle⟩ := working_kept granted which
    rcases rest with ⟨fault, -, ran⟩ | ⟨effect, -, ⟨fault, -, ran⟩ | ⟨final, kept, ran⟩⟩
    · rw [ran]
      exact (failed_content working _ fault).trans reached
    · rw [ran]
      exact reached
    · rw [ran, changed_volume]
      exact (keep_content (idle.trans busy) kept).trans reached

/-! ### Statements that are not about transactions -/

/-- Such a statement is a query, a change, or the making or removing of an object. -/
theorem perform_plain_cases (access : Access) (text : String) {statement : Statement Stored}
    (plain : statement.isControl = false) :
    (∃ query, access.perform text statement = access.runSelect query) ∨
    (∃ change, access.perform text statement = access.runChange change) ∨
    ∃ define, definition? text statement = some define ∧
      access.perform text statement = countingIndex statement (access.runDefinition define) := by
  cases statement with
  | select query => exact .inl ⟨query, rfl⟩
  | change step => exact .inr (.inl ⟨step, rfl⟩)
  | createTable definition => exact .inr (.inr ⟨_, rfl, rfl⟩)
  | createFullText definition => exact .inr (.inr ⟨_, rfl, rfl⟩)
  | createTrigger definition => exact .inr (.inr ⟨_, rfl, rfl⟩)
  | dropTable name ifPresent => exact .inr (.inr ⟨_, rfl, rfl⟩)
  | dropTrigger name ifPresent => exact .inr (.inr ⟨_, rfl, rfl⟩)
  | _ => cases plain

/-- Counting the first row of an index leaves whether a transaction is open. -/
@[simp] theorem counting_index_is_idle (statement : Statement Stored) (outcome : Outcome Answer) :
    (countingIndex statement outcome).access.connection.isIdle =
      outcome.access.connection.isIdle := by
  unfold countingIndex
  split <;> rfl

/-- Counting the first row of an index leaves the volume. -/
@[simp] theorem counting_index_volume (statement : Statement Stored) (outcome : Outcome Answer) :
    (countingIndex statement outcome).access.volume = outcome.access.volume := by
  unfold countingIndex
  split <;> rfl

/-- A change keeps the transaction, unless it gives it up for want of numbers. -/
theorem run_change_keeps_or_full (access : Access) (change : Change Stored) :
    (access.runChange change).access.connection.isIdle = access.connection.isIdle ∨
      ((access.runChange change).answer = .error .storageFull ∧
        (access.runChange change).access.connection.isIdle = true) := by
  rcases run_change_cases access change with ⟨fault, -, ran⟩ | ⟨held, working, granted, which, rest⟩
  · rw [ran]
    exact .inl rfl
  · obtain ⟨-, -, idle⟩ := working_kept granted which
    rcases rest with ⟨fault, -, ran⟩ | ⟨effect, -, ⟨fault, -, ran⟩ | ⟨final, kept, ran⟩⟩
    · rw [ran]
      by_cases keeps : fault ≠ .storageFull ∨ isGuarded access.visible change = true
      · exact .inl ((failed_is_idle working _ fault keeps).trans idle)
      · simp only [not_or, not_not, Bool.not_eq_true] at keeps
        obtain ⟨rfl, unguarded⟩ := keeps
        refine .inr ⟨rfl, ?_⟩
        simp [failed, unguarded]
    · rw [ran]
      exact .inl idle
    · rw [ran]
      exact .inl (by simpa using (keep_is_idle kept).trans idle)

/-- A statement that is not about transactions opens none and ends none, except that a full
table can cost the one that is open. -/
theorem perform_plain_is_idle (access : Access) (text : String) {statement : Statement Stored}
    (plain : statement.isControl = false) :
    (access.perform text statement).access.connection.isIdle = access.connection.isIdle ∨
      ((access.perform text statement).answer = .error .storageFull ∧
        (access.perform text statement).access.connection.isIdle = true) := by
  rcases perform_plain_cases access text plain with
    ⟨query, performed⟩ | ⟨change, performed⟩ | ⟨define, -, performed⟩
  · rw [performed]
    exact .inl (run_select_is_idle access query)
  · rw [performed]
    exact run_change_keeps_or_full access change
  · rw [performed, counting_index_is_idle]
    exact .inl (run_definition_is_idle access define)

/-- Inside a transaction it commits nothing. -/
theorem perform_plain_content (text : String) {statement : Statement Stored}
    (plain : statement.isControl = false) (busy : access.connection.isIdle = false) :
    (access.perform text statement).access.volume.content = access.volume.content := by
  rcases perform_plain_cases access text plain with
    ⟨query, performed⟩ | ⟨change, performed⟩ | ⟨define, -, performed⟩
  · rw [performed, run_select_content]
  · rw [performed, run_change_content busy]
  · rw [performed, counting_index_volume, run_definition_content busy]

/-- Inside of a transaction no statement commits anything unless it is about transactions. Proof: by
the kinds of statements that are left. -/
theorem run_plain_content {statement : Statement Stored} (plain : statement.isControl = false)
    (busy : access.connection.isIdle = false) :
    (access.run statement).access.volume.content = access.volume.content := by
  rcases run_cases access statement with ⟨fault, refused⟩ | performed
  · rw [refused]
  · rw [performed, perform_plain_content _ (by simpa using plain) busy]

/-- Rolling back commits nothing. -/
theorem run_rollback_content (access : Access) :
    (access.run .rollback).access.volume.content = access.volume.content := by
  change (access.runRollback).access.volume.content = access.volume.content
  unfold runRollback
  split
  · rfl
  · exact access.ended_volume_content

/-! ### Texts -/

/-- A text is refused before it does anything, or the statement that was read from it is
performed. -/
theorem run_text_cases (access : Access) (text : String) (parameters : List Stored) :
    (∃ fault, access.runText text parameters = ⟨access, .error fault⟩) ∨
      ∃ read, parse text = .ok read ∧ access.runText text parameters =
        access.perform read.text (read.withParameters parameters) := by
  unfold runText
  cases found : parse text with
  | error fault => exact .inl ⟨fault, rfl⟩
  | ok read =>
    simp only [bind, Except.bind]
    cases access.prepare read with
    | error fault => exact .inl ⟨fault, rfl⟩
    | ok _ =>
      cases read.requireParameters parameters.length with
      | error fault => exact .inl ⟨fault, rfl⟩
      | ok _ => exact .inr ⟨read, rfl, rfl⟩

/-- What is read from a text that is not about transactions is not about them either. -/
theorem is_control_of_plain {text : String} {read : ReadStatement}
    (plain : textControls text = false) (found : parse text = .ok read)
    (parameters : List Stored) : (read.withParameters parameters).isControl = false := by
  simpa [textControls, found, Except.toOption, ReadStatement.withParameters] using plain

/-- A text that does not control transactions opens none and ends none, except that a full
table can cost the one that is open. -/
theorem run_text_plain_is_idle (access : Access) {text : String} (parameters : List Stored)
    (plain : textControls text = false) :
    (access.runText text parameters).access.connection.isIdle = access.connection.isIdle ∨
      ((access.runText text parameters).answer = .error .storageFull ∧
        (access.runText text parameters).access.connection.isIdle = true) := by
  rcases run_text_cases access text parameters with ⟨fault, refused⟩ | ⟨read, found, ran⟩
  · rw [refused]
    exact .inl rfl
  · rw [ran]
    exact perform_plain_is_idle access read.text (is_control_of_plain plain found parameters)

/-- Inside a transaction it commits nothing. -/
theorem run_text_plain_content {text : String} (parameters : List Stored)
    (plain : textControls text = false) (busy : access.connection.isIdle = false) :
    (access.runText text parameters).access.volume.content = access.volume.content := by
  rcases run_text_cases access text parameters with ⟨fault, refused⟩ | ⟨read, found, ran⟩
  · rw [refused]
  · rw [ran, perform_plain_content read.text (is_control_of_plain plain found parameters) busy]

end Engine.Access

end RecordStore
