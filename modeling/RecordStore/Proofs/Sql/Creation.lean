import RecordStore.Sql.Parameters

/-!
# Texts that create

A text that starts with the word for creating can mean nothing but the creation of a table,
of a full-text table or of a trigger, whatever stands behind the word. The names of a table
come from outside and may be anything, so this is all that is known of the texts that create
it.
-/

namespace RecordStore.Sql

open RecordStore.Sql.Lexer RecordStore.Sql.Parser

/-- A statement that makes an object. -/
def Statement.isCreation {Operand : Type} : Statement Operand → Prop
  | .createTable _ => True
  | .createFullText _ => True
  | .createTrigger _ => True
  | _ => False

/-- A creation stays one whatever its operands are. -/
theorem Statement.is_creation_map_operands {Operand Other : Type} (replace : Operand → Other)
    (statement : Statement Operand) (creates : statement.isCreation) :
    (statement.mapOperands replace).isCreation := by
  cases statement <;> first | exact creates.elim | trivial

/-- Creations end no transaction. -/
theorem Statement.is_creation_ends_transaction {Operand : Type} (statement : Statement Operand)
    (creates : statement.isCreation) : statement.endsTransaction = false := by
  cases statement <;> first | exact creates.elim | rfl

/-- The word that starts a creation. -/
def creationWord : Token := ⟨.word, "CREATE", ""⟩

/-- A text that starts with `CREATE` starts with this token. -/
theorem tokens_of_creation (rest : List Char) :
    ∃ behind, tokens (String.ofList ("CREATE ".toList ++ rest)) = creationWord :: behind := by
  have first : gap ("CREATE ".toList ++ rest).length.succ ("CREATE ".toList ++ rest) =
      ([], "CREATE ".toList ++ rest) := by
    simp [gap, isBlank]
  have word : lexeme 'C' ("REATE ".toList ++ rest) = (.word, "CREATE".toList, ' ' :: rest) := by
    simp [lexeme, single, double, backward, isWordStart, isWordRest]
  have read : tokensOf (("CREATE ".toList ++ rest).length + 1) ("CREATE ".toList ++ rest) =
      creationWord :: tokensOf ("CREATE ".toList ++ rest).length (' ' :: rest) := by
    rw [tokensOf, first]
    change (let read := lexeme 'C' ("REATE ".toList ++ rest)
      (⟨read.1, String.ofList read.2.1, String.ofList []⟩ : Token) :: tokensOf _ read.2.2) = _
    rw [word]
    rfl
  refine ⟨placeParameters [] 0 (tokensOf ("CREATE ".toList ++ rest).length (' ' :: rest)), ?_⟩
  simp only [tokens, String.toList_ofList]
  rw [read]
  rfl

/-- A token that is refused is read as nothing. -/
theorem refuse_fails {α : Type} (tokens : List Token) :
    ∃ fault, (refuse tokens : Except Fault α) = .error fault := by
  cases tokens with
  | nil => exact ⟨_, rfl⟩
  | cons token behind =>
    by_cases illegal : (token.kind == .illegal) = true
    · exact ⟨.unrecognizedToken token.written, by simp only [refuse, illegal, if_true]⟩
    · exact ⟨.syntaxError token.written, by
        simp only [refuse, illegal, if_false, Bool.false_eq_true]⟩

/-- Everything that a reader can read has a property. -/
def Yields {α : Type} (Property : α → Prop) (read : Except Fault (α × List Token)) : Prop :=
  ∀ result rest, read = .ok (result, rest) → Property result

namespace Yields

variable {α β : Type} {Property : α → Prop}

/-- What a reader yields is decided by its last step. -/
theorem bind {first : Except Fault β} {next : β → Except Fault (α × List Token)}
    (last : ∀ read, Yields Property (next read)) : Yields Property (first >>= next) := by
  intro result rest read
  cases first with
  | error fault => cases read
  | ok found => exact last found result rest read

/-- What was read has its property. -/
theorem ok {result : α} {rest : List Token} (holds : Property result) :
    Yields Property (.ok (result, rest)) := by
  rintro _ _ ⟨rfl, rfl⟩
  exact holds

/-- A reader that refuses has read nothing. -/
theorem refuse (tokens : List Token) : Yields Property (Parser.refuse tokens) := by
  intro result rest read
  obtain ⟨fault, refused⟩ := refuse_fails (α := α × List Token) tokens
  cases refused.symm.trans read

/-- So has one that fails. -/
theorem throw (fault : Fault) :
    Yields Property (throw fault : Except Fault (α × List Token)) := by
  intro result rest read
  cases read

end Yields

/-- What is read as the definition of a table creates something. -/
theorem table_definition_creates (fuel : Nat) (tokens : List Token) :
    Yields Statement.isCreation (tableDefinition fuel tokens) :=
  .bind fun _ => .bind fun _ => .bind fun _ => .bind fun _ => .ok trivial

/-- So does what is read as the definition of a full-text table. -/
theorem full_text_definition_creates (fuel : Nat) (tokens : List Token) :
    Yields Statement.isCreation (fullTextDefinition fuel tokens) := by
  refine .bind fun _ => .bind fun _ => .bind fun _ => .bind fun (kind, rest) => ?_
  by_cases unknown : (upper kind != "FTS5") = true
  · simp only [unknown, if_true]
    exact .throw _
  · simp only [unknown, if_false, Bool.false_eq_true]
    exact .bind fun (columns, rest) => .ok trivial

/-- So does what is read as the definition of a trigger. -/
theorem trigger_definition_creates (fuel : Nat) (tokens : List Token) :
    Yields Statement.isCreation (triggerDefinition fuel tokens) := by
  refine .bind fun _ => .bind fun _ => .bind fun _ => .bind fun _ => .bind fun (table, rest) => ?_
  by_cases each : startsWord "FOR" rest = true
  · simp only [each, if_true]
    exact .bind fun _ => .bind fun _ => .bind fun (body, rest) => .ok trivial
  · simp only [each, if_false, Bool.false_eq_true]
    exact .bind fun _ => .bind fun _ => .bind fun (body, rest) => .ok trivial

/-- Behind the word for creating only creations are read. -/
theorem creation_creates (fuel : Nat) (tokens : List Token) :
    Yields Statement.isCreation (creation fuel tokens) := by
  unfold creation
  split
  · exact table_definition_creates fuel _
  · split
    · exact .bind fun _ => full_text_definition_creates fuel _
    · split
      · exact trigger_definition_creates fuel _
      · exact .refuse tokens

/-- The word for creating starts no other statement. -/
theorem statement_creates (fuel : Nat) (behind : List Token) :
    Yields Statement.isCreation (Parser.statement fuel (creationWord :: behind)) := by
  have noChange : Parser.change? fuel (creationWord :: behind) = none := by
    simp [Parser.change?, startsWord, isWord, creationWord, upper, ← String.toList_inj]
  have noSelect : startsWord "SELECT" (creationWord :: behind) = false := by
    simp [startsWord, isWord, creationWord, upper, ← String.toList_inj]
  have starts : startsWord "CREATE" (creationWord :: behind) = true := by
    simp [startsWord, isWord, creationWord, upper, ← String.toList_inj]
  simp only [Parser.statement, noChange, noSelect, starts, if_true, Bool.false_eq_true, if_false]
  exact creation_creates fuel _

/-- A text that starts with the word for creating means a creation, if it means anything. -/
theorem parse_creates (rest : List Char) (read : ReadStatement)
    (accepted : parse (String.ofList ("CREATE ".toList ++ rest)) = .ok read) :
    read.statement.isCreation := by
  obtain ⟨behind, start⟩ := tokens_of_creation rest
  have kept : (creationWord :: behind).dropWhile (fun token => isSign token ";") =
      creationWord :: behind := by
    simp [List.dropWhile, isSign, creationWord]
  have creates := statement_creates (16 * (creationWord :: behind).length + 64) behind
  simp only [parse, start, kept, List.isEmpty_cons, Bool.false_eq_true, if_false] at accepted
  revert accepted
  rcases found : Parser.statement (16 * (creationWord :: behind).length + 64)
      (creationWord :: behind) with fault | ⟨statement, left⟩
  · intro accepted
    cases accepted
  · have created := creates statement left found
    cases left with
    | nil =>
      intro accepted
      cases accepted
      exact created
    | cons token others =>
      by_cases ends : isSign token ";" = true
      · intro accepted
        simp only [bind, Except.bind, pure, Except.pure, ends, if_true] at accepted
        cases accepted
        exact created
      · intro accepted
        obtain ⟨fault, refused⟩ := refuse_fails (α := ReadStatement) (token :: others)
        simp only [bind, Except.bind, ends, Bool.false_eq_true, if_false, refused] at accepted
        cases accepted

end RecordStore.Sql
