import RecordStore.Proofs.Engine.Control
import RecordStore.Proofs.Store.Tables

/-!
# Outcomes of creations

What comes of a statement that makes an object. If it is refused then the connection sees what it
saw; if it is answered then what it made comes behind all other objects.
-/

namespace RecordStore

open Engine Sql

namespace Engine

variable {database after : Database} {text : String}

/-- A new table needs a name that is free and columns that make a relation. -/
theorem create_table_eq {definition : TableDefinition} (new : definition.ifMissing = false)
    (database : Database) (text : String) :
    createTable database definition text =
      if isInternalName definition.name then .error (.reservedName definition.name)
      else if database.hasTable definition.name then .error (.tableExists definition.name)
      else (relationOf definition text).map fun relation =>
        let made := database.push (.relation relation)
        if Database.neverAgain relation && !made.hasSequence then made.push .sequence
        else made := by
  unfold createTable requireNewTable
  rw [new]
  by_cases internal : isInternalName definition.name = true
  · simp only [internal, if_true]
    rfl
  · by_cases taken : database.hasTable definition.name = true
    · simp only [internal, taken, if_true, Bool.false_eq_true, if_false]
      rfl
    · simp only [internal, taken, Bool.false_eq_true, if_false]
      cases relationOf definition text <;> rfl

/-- A new full-text table needs a name that is free, free names for its parts, and columns that are
told apart from one another, from the table and from the names that are kept for columns. -/
theorem create_full_text_eq {definition : FullTextDefinition} (new : definition.ifMissing = false)
    (database : Database) (text : String) :
    createFullText database definition text =
      let names := definition.columns.map FullTextColumn.name
      if isInternalName definition.name then .error (.reservedName definition.name)
      else if database.hasTable definition.name then .error (.tableExists definition.name)
      else
        match names.find? fun name => fullTextNames.any (sameName name) with
        | some name => .error (.reservedFullTextColumn name)
        | none =>
          match (FullTextTable.partNames definition.name).find? database.hasTable with
          | some part => .error (.partExists part)
          | none =>
            if hasDuplicate (definition.name :: names) then
              .error (.constructorFailed definition.name)
            else .ok (database.push (.fullText
              ⟨definition.name, definition.columns, [], text⟩)) := by
  unfold createFullText requireNewTable
  rw [new]
  by_cases internal : isInternalName definition.name = true
  · simp only [internal, if_true]
    rfl
  · by_cases taken : database.hasTable definition.name = true
    · simp only [internal, taken, if_true, Bool.false_eq_true, if_false]
      rfl
    · simp only [internal, taken, Bool.false_eq_true, if_false, bind, Except.bind, Bool.not_true]
      cases (definition.columns.map FullTextColumn.name).find? fun name =>
        fullTextNames.any (sameName name) with
      | some name => rfl
      | none =>
        cases (FullTextTable.partNames definition.name).find? database.hasTable with
        | some part => rfl
        | none =>
          cases hasDuplicate (definition.name :: definition.columns.map FullTextColumn.name) <;> rfl

/-- A new trigger must follow a relation, under a name that no trigger has. -/
theorem create_trigger_eq (database : Database) (definition : TriggerDefinition Stored)
    (text : String) :
    createTrigger database definition text =
      if (database.fullText? definition.table).isSome then .error .triggerOnVirtualTable
      else
        match database.relation? definition.table with
        | none => .error (.noSuchTable ("main." ++ definition.table))
        | some relation =>
          if isInternalName definition.name then .error (.reservedName definition.name)
          else if (database.trigger? definition.name).isSome then
            if definition.ifMissing then .ok database else .error (.triggerExists definition.name)
          else .ok (database.push (.trigger
            ⟨definition.name, definition.event, relation.name, definition.body, text⟩)) := by
  unfold createTrigger
  by_cases fullText : (database.fullText? definition.table).isSome = true
  · simp only [fullText, if_true]
    rfl
  · simp only [fullText, Bool.false_eq_true, if_false]
    cases database.relation? definition.table with
    | none => rfl
    | some relation =>
      simp only
      by_cases internal : isInternalName definition.name = true
      · simp only [internal, if_true]
        rfl
      · simp only [internal, Bool.false_eq_true, if_false]
        split
        · split <;> rfl
        · rfl

/-- Whatever a creation makes comes behind all other objects. -/
theorem definition?_adds {statement : Statement Stored} (creates : statement.isCreation)
    {define : Database → Except Fault Database}
    (defined : Access.definition? text statement = some define)
    (made : define database = .ok after) : ∃ made, after.objects = database.objects ++ made := by
  cases statement with
  | createTable definition =>
    cases defined
    rcases create_table_cases made with ⟨-, rfl⟩ | ⟨-, relation, -, rfl | rfl⟩
    · exact ⟨[], by simp⟩
    · exact ⟨[.relation relation], rfl⟩
    · exact ⟨[.relation relation, .sequence], List.append_assoc _ _ _⟩
  | createFullText definition =>
    cases defined
    rcases create_full_text_cases made with ⟨-, rfl⟩ | ⟨-, rfl⟩
    · exact ⟨[], by simp⟩
    · exact ⟨_, rfl⟩
  | createTrigger definition =>
    cases defined
    rcases create_trigger_cases made with ⟨-, rfl⟩ | ⟨relation, -, rfl⟩
    · exact ⟨[], by simp⟩
    · exact ⟨_, rfl⟩
  | _ => exact creates.elim

namespace Access

variable {access : Access}

/-- A step that shows what was shown if it is refused, and otherwise objects behind those that were
shown. Its answer has no rows. -/
structure Adds (access : Access) (outcome : Outcome Answer) : Prop where
  refused : ∀ fault, outcome.answer = .error fault → outcome.access.visible = access.visible
  answered : ∀ answer, outcome.answer = .ok answer → answer.rows = [] ∧
    ∃ made, outcome.access.visible.objects = access.visible.objects ++ made

/-- A refusal adds nothing. -/
theorem adds_of_refusal (access : Access) (fault : Fault) : access.Adds ⟨access, .error fault⟩ :=
  ⟨fun _ _ => rfl, nofun⟩

/-- A definition adds objects behind those that are seen, or nothing if it is refused. -/
theorem run_definition_adds {define : Database → Except Fault Database}
    (grows : ∀ database after, define database = .ok after →
      ∃ made, after.objects = database.objects ++ made) :
    access.Adds (access.runDefinition define) := by
  rcases access.run_definition_cases define with
    ⟨fault, ran⟩ | ⟨database, held, defined, granted, ⟨fault, ran⟩ | ⟨final, kept, ran⟩⟩
  · rw [ran]
    exact adds_of_refusal access fault
  · rw [ran]
    exact ⟨fun _ _ => (for_writing_visible granted).1, nofun⟩
  · rw [ran]
    refine ⟨nofun, fun answer answered => ?_⟩
    cases answered
    rw [(keep_visible kept).1]
    exact ⟨rfl, grows _ _ defined⟩

/-- Performing a creation adds objects or nothing. -/
theorem perform_adds (access : Access) (text : String) {statement : Statement Stored}
    (creates : statement.isCreation) : access.Adds (access.perform text statement) := by
  obtain ⟨define, defined, performed⟩ := perform_creation access creates text
  have adds : access.Adds (access.runDefinition define) :=
    run_definition_adds fun _ _ made => definition?_adds creates defined made
  rw [performed]
  refine ⟨fun fault refused => ?_, fun answer answered => ?_⟩
  · rw [counting_index_answer] at refused
    rw [counting_index_visible]
    exact adds.refused fault refused
  · rw [counting_index_answer] at answered
    rw [counting_index_visible]
    exact adds.answered answer answered

/-- So does running it with its check. -/
theorem run_adds (access : Access) {statement : Statement Stored}
    (creates : statement.isCreation) : access.Adds (access.run statement) := by
  rcases run_cases access statement with ⟨fault, refused⟩ | performed
  · rw [refused]
    exact adds_of_refusal access fault
  · rw [performed]
    exact perform_adds access _ (statement.is_creation_map_operands _ creates)

/-- So does running a text that starts with `CREATE`. -/
theorem run_text_adds (access : Access) (rest : List Char) (parameters : List Stored) :
    access.Adds (access.runText (String.ofList ("CREATE ".toList ++ rest)) parameters) := by
  rcases run_text_cases access (String.ofList ("CREATE ".toList ++ rest)) parameters with
    ⟨fault, refused⟩ | ⟨read, parsed, performed⟩
  · rw [refused]
    exact adds_of_refusal access fault
  · rw [performed]
    exact perform_adds access _
      (read.statement.is_creation_map_operands _ (parse_creates rest read parsed))

end Access

end Engine

end RecordStore
