import RecordStore.Proofs.Sql.Spelling

/-!
# Spelling queries

A query whose clauses have one condition each is made of tokens as its expressions are. Clauses
that are left out have no tokens, so the clauses behind the sources are tails: nothing at all, or
tokens behind a blank.
-/

namespace RecordStore.Sql

open Token

variable {Operand : Type}

/-- Tokens that stand behind others: none, or tokens behind a blank. -/
def IsTail (before count : Nat) (tokens : List Token) : Prop :=
  (tokens = [] ∧ count = 0) ∨ IsSpelled " " before count tokens

namespace IsSpelled

variable {gap : String} {before count more : Nat} {left right : List Token}

/-- What is spelled goes on with what stands behind a blank. -/
theorem append_tail (first : IsSpelled gap before count left)
    (second : IsTail (before + count) more right) :
    IsSpelled gap before (count + more) (left ++ right) := by
  rcases second with ⟨rfl, rfl⟩ | spelled
  · simpa using first
  · exact first.append spelled

/-- What is spelled behind a blank can stand behind something else. -/
theorem tail (spelled : IsSpelled " " before count left) : IsTail before count left :=
  .inr spelled

end IsSpelled

namespace IsTail

variable {before count more : Nat} {left right : List Token}

/-- Nothing can stand behind something else. -/
theorem nil : IsTail before 0 [] := .inl ⟨rfl, rfl⟩

/-- What stands behind others goes on with what stands behind it. -/
theorem append (first : IsTail before count left) (second : IsTail (before + count) more right) :
    IsTail before (count + more) (left ++ right) := by
  rcases first with ⟨rfl, rfl⟩ | spelled
  · simpa using second
  · exact .inr (spelled.append_tail second)

end IsTail

/-! ### The parts of a query -/

/-- Result columns that are read back: columns that are not renamed, and the number of rows. -/
inductive ResultColumn.Written : ResultColumn Operand → Prop where
  | column {source : Option String} {name : String} (named : AreNames source name) :
      Written (.computed (.column source name) none (qualified source name))
  | countRows : Written (.computed .countRows none "COUNT(*)")

/-- The tokens of a result column. -/
def ResultColumn.spell : String → Nat → ResultColumn Operand → List Token
  | gap, before, .computed expression _ _ => expression.spell gap before
  | _, _, _ => []

/-- A name for a source that is taken for one. -/
def IsAlias (name : String) : Prop :=
  IsName name ∧ Parser.neverAliases.contains (Parser.upper name) = false

/-- A source that is read back: a name, and another one that is taken for one if it is renamed. -/
def Source.Written (source : Source) : Prop :=
  IsName source.table ∧ ∀ given ∈ source.newName, IsAlias given

/-- The tokens of a source. -/
def Source.spell (source : Source) : List Token :=
  word " " source.table :: source.newName.toList.map (word " ")

/-- Conditions that are read back: one for the whole clause. -/
def WrittenClause (conditions : Option (List (Expression Operand))) : Prop :=
  ∀ given ∈ conditions, ∃ condition, given = [condition] ∧ condition.Written 0

/-- The tokens of a clause behind its keyword. -/
def spellClause (keyword : String) (before : Nat) :
    Option (List (Expression Operand)) → List Token
  | some [condition] => word " " keyword :: condition.spell " " before
  | _ => []

/-- A join that is read back. -/
def Join.Written (join : Join Operand) : Prop :=
  join.source.Written ∧ WrittenClause join.conditions

/-- The tokens of a join. -/
def Join.spell (before : Nat) (join : Join Operand) : List Token :=
  word " " "INNER" :: word " " "JOIN" ::
    (join.source.spell ++ spellClause "ON" before join.conditions)

/-- The tokens of joins, one after the other. -/
def spellJoins : Nat → List (Join Operand) → List Token
  | _, [] => []
  | before, join :: rest =>
    join.spell before ++ spellJoins (before + (conditionOperands join.conditions).length) rest

/-- Keys of an ordering that are read back: columns. -/
def OrderKey.Written (key : OrderKey Operand) : Prop :=
  ∃ source name, key.expression = .column source name ∧ AreNames source name

/-- The tokens of a key of an ordering. -/
def OrderKey.spell (gap : String) (before : Nat) (key : OrderKey Operand) : List Token :=
  key.expression.spell gap before ++
    key.direction.toList.map fun direction => word " " direction.text

namespace Select

/-- The operands of the conditions under which further sources are joined. -/
def joinOperands (query : Select Operand) : List Operand :=
  query.joins.flatMap fun join => conditionOperands join.conditions

/-- The tokens of the first source of a query. -/
def spellSource (query : Select Operand) : List Token :=
  query.source.toList.flatMap fun source => word " " "FROM" :: source.spell

/-- The tokens of the ordering, if there is one. -/
def spellOrdering (before : Nat) (query : Select Operand) : List Token :=
  if query.ordering.isEmpty then []
  else
    word " " "ORDER" :: word " " "BY" ::
      spellItems OrderKey.spell (fun _ => 0) " " before query.ordering

/-- The tokens of the window; a limit has one operand. -/
def spellWindow (before : Nat) (query : Select Operand) : List Token :=
  match query.limit, query.offset with
  | some limit, some offset =>
    word " " "LIMIT" :: (limit.spell " " before ++
      word " " "OFFSET" :: offset.spell " " (before + 1))
  | _, _ => []

/-- Everything behind the result columns and the first source. -/
def spellRest (query : Select Operand) : List Token :=
  spellJoins 0 query.joins ++ (spellClause "WHERE" query.joinOperands.length query.conditions ++
    (query.spellOrdering query.rowOperands.length ++
      query.spellWindow query.rowOperands.length))

/-- The tokens of a query. -/
def spell (query : Select Operand) : List Token :=
  word "" "SELECT" :: (spellItems ResultColumn.spell (fun _ => 0) " " 0 query.columns ++
    (query.spellSource ++ query.spellRest))

/-- Queries that are read back from their text: with a source, without groups, and with a limit
and an offset or with none of them. -/
structure Written (query : Select Operand) : Prop where
  distinct : query.distinct = false
  some_column : query.columns ≠ []
  columns : ∀ column ∈ query.columns, column.Written
  source : ∃ source, query.source = some source ∧ source.Written
  joins : ∀ join ∈ query.joins, join.Written
  conditions : WrittenClause query.conditions
  grouping : query.grouping = []
  having : query.having = none
  ordering : ∀ key ∈ query.ordering, key.Written
  window : (query.limit = none ∧ query.offset = none) ∨
    ∃ limit offset, query.limit = some (.operand limit) ∧ query.offset = some (.operand offset)

end Select

/-! ### What is spelled -/

variable {gap : String} {before : Nat}

/-- The tokens of a result column do not run together and have no parameter. -/
theorem ResultColumn.Written.spelled {column : ResultColumn Operand} (written : column.Written)
    (blank : gap = "" ∨ gap = " ") : IsSpelled gap before 0 (column.spell gap before) := by
  cases written with
  | column named => exact spell_column_spelled blank named
  | countRows =>
    have counted : (.countRows : Expression Operand).Written 0 := .countRows
    exact counted.spelled before blank

/-- They are its text. -/
theorem ResultColumn.Written.chars {column : ResultColumn Operand} (written : column.Written)
    (gap : String) (before : Nat) :
    (column.spell gap before).flatMap Token.chars = gap.toList ++ column.render.toList := by
  cases written with
  | column named => exact spell_column_chars gap _ _
  | countRows =>
    have counted : (.countRows : Expression Operand).Written 0 := .countRows
    exact counted.chars gap before

/-- The tokens of a source do not run together and have no parameter. -/
theorem Source.Written.spelled {source : Source} (written : source.Written) :
    IsSpelled " " before 0 source.spell := by
  have table : IsSpelled " " before 0 [word " " source.table] := .of_word (.inr rfl) written.1.1
  unfold Source.spell
  cases renamed : source.newName with
  | none => exact table
  | some given =>
    have named : IsSpelled " " (before + 0) 0 [word " " given] :=
      .of_word (.inr rfl) (written.2 given renamed).1.1
    exact table.append named

/-- They are its text. -/
theorem Source.chars_spell (source : Source) :
    source.spell.flatMap Token.chars = " ".toList ++ source.render.toList := by
  unfold Source.spell Source.render
  cases source.newName <;> simp

/-- The tokens of a clause do not run together and have a parameter for each operand. -/
theorem WrittenClause.spelled {conditions : Option (List (Expression Operand))} {keyword : String}
    (plain : isPlainWord keyword = true) (written : WrittenClause conditions) :
    IsTail before (conditionOperands conditions).length
      (spellClause keyword before conditions) := by
  cases conditions with
  | none => exact .nil
  | some given =>
    obtain ⟨condition, rfl, readBack⟩ := written given rfl
    have spelled := (readBack.spelled before (.inr rfl)).word_cons (.inr rfl) plain
    simpa [conditionOperands, spellClause] using spelled.tail

/-- They are its text. -/
theorem WrittenClause.chars {conditions : Option (List (Expression Operand))}
    (written : WrittenClause conditions) (keyword : String) (before : Nat) :
    (spellClause keyword before conditions).flatMap Token.chars =
      (renderClause keyword conditions).toList := by
  cases conditions with
  | none => rfl
  | some given =>
    obtain ⟨condition, rfl, readBack⟩ := written given rfl
    simp [spellClause, renderClause, renderConditions, joined, readBack.chars]

/-- The tokens of a join do not run together and have a parameter for each operand. -/
theorem Join.Written.spelled {join : Join Operand} (written : join.Written) :
    IsSpelled " " before (conditionOperands join.conditions).length (join.spell before) := by
  have source : IsSpelled " " before 0 join.source.spell := written.1.spelled
  have clause : IsTail (before + 0) (conditionOperands join.conditions).length
      (spellClause "ON" before join.conditions) := written.2.spelled (by decide)
  have behind := source.append_tail clause
  rw [Nat.zero_add] at behind
  exact .word_cons (.inr rfl) (by decide) (.word_cons (.inr rfl) (by decide) behind)

/-- They are its text. -/
theorem Join.Written.chars {join : Join Operand} (written : join.Written) (before : Nat) :
    (join.spell before).flatMap Token.chars = join.render.toList := by
  simp [Join.spell, Join.render, Source.chars_spell, written.2.chars]

/-- The tokens of joins do not run together, by induction on the joins. -/
theorem spell_joins_spelled {joins : List (Join Operand)} (written : ∀ join ∈ joins, join.Written) :
    IsTail before (joins.flatMap fun join => conditionOperands join.conditions).length
      (spellJoins before joins) := by
  induction joins generalizing before with
  | nil => exact .nil
  | cons join rest inductionHypothesis =>
    have first : IsSpelled " " before _ (join.spell before) :=
      (written join List.mem_cons_self).spelled
    have later : IsTail (before + (conditionOperands join.conditions).length) _
        (spellJoins (before + (conditionOperands join.conditions).length) rest) :=
      inductionHypothesis fun other member => written other (List.mem_cons_of_mem join member)
    simpa [spellJoins] using (first.append_tail later).tail

/-- They are their text. -/
theorem spell_joins_chars {joins : List (Join Operand)} (written : ∀ join ∈ joins, join.Written)
    (before : Nat) :
    (spellJoins before joins).flatMap Token.chars =
      (String.join (joins.map Join.render)).toList := by
  induction joins generalizing before with
  | nil => rfl
  | cons join rest inductionHypothesis =>
    have later := inductionHypothesis
      fun other member => written other (List.mem_cons_of_mem join member)
    simp [spellJoins, (written join List.mem_cons_self).chars, later]

/-- The tokens of a key of an ordering do not run together and have no parameter. -/
theorem OrderKey.Written.spelled {key : OrderKey Operand} (written : key.Written)
    (blank : gap = "" ∨ gap = " ") : IsSpelled gap before 0 (key.spell gap before) := by
  obtain ⟨source, name, column, named⟩ := written
  have value : IsSpelled gap before 0 (spellColumn gap source name) :=
    spell_column_spelled blank named
  unfold OrderKey.spell
  rw [column]
  cases key.direction with
  | none => simpa [Expression.spell] using value
  | some direction =>
    have plain : isPlainWord direction.text = true := by cases direction <;> decide
    have word : IsSpelled " " (before + 0) 0 [word " " direction.text] := .of_word (.inr rfl) plain
    exact value.append word

/-- They are its text. -/
theorem OrderKey.Written.chars {key : OrderKey Operand} (written : key.Written) (gap : String)
    (before : Nat) :
    (key.spell gap before).flatMap Token.chars = gap.toList ++ key.render.toList := by
  obtain ⟨source, name, column, -⟩ := written
  unfold OrderKey.spell OrderKey.render
  rw [column]
  cases key.direction <;> simp [Expression.spell, Expression.render, spell_column_chars]

namespace Select

/-- The tokens of the ordering do not run together and have no parameter. -/
theorem Written.spell_ordering_spelled {query : Select Operand} (written : query.Written) :
    IsTail before 0 (query.spellOrdering before) := by
  unfold spellOrdering
  cases keys : query.ordering with
  | nil => exact .nil
  | cons first rest =>
    have spelled : IsSpelled " " before _
        (spellItems OrderKey.spell (fun _ => 0) " " before (first :: rest)) :=
      spell_items_spelled (.inr rfl) (List.cons_ne_nil first rest) fun key member gap before =>
        (written.ordering key (keys ▸ member)).spelled
    have whole := (spelled.word_cons (.inr rfl) (by decide : isPlainWord "BY" = true)).word_cons
      (.inr rfl : " " = "" ∨ " " = " ") (by decide : isPlainWord "ORDER" = true)
    simpa using whole.tail

/-- They are its text. -/
theorem Written.spell_ordering_chars {query : Select Operand} (written : query.Written)
    (before : Nat) :
    (query.spellOrdering before).flatMap Token.chars = query.renderOrdering.toList := by
  unfold spellOrdering renderOrdering
  cases keys : query.ordering with
  | nil => rfl
  | cons first rest =>
    have spelled : (spellItems OrderKey.spell (fun _ => 0) " " before (first :: rest)).flatMap
        Token.chars = " ".toList ++ (joined ", " ((first :: rest).map OrderKey.render)).toList :=
      spell_items_chars _ (fun key member => (written.ordering key (keys ▸ member)).chars)
        " " before (List.cons_ne_nil first rest)
    simp [spelled]

/-- The operands of the window. -/
def windowOperands (query : Select Operand) : List Operand :=
  (query.limit.map Expression.operands).getD [] ++ (query.offset.map Expression.operands).getD []

/-- The tokens of the window do not run together and have a parameter for each operand. -/
theorem Written.spell_window_spelled {query : Select Operand} (written : query.Written) :
    IsTail before query.windowOperands.length (query.spellWindow before) := by
  unfold spellWindow windowOperands
  rcases written.window with ⟨limit, offset⟩ | ⟨limit, offset, limited, shifted⟩
  · rw [limit, offset]
    exact .nil
  · rw [limited, shifted]
    have second : IsSpelled " " (before + 1) 1 (word " " "OFFSET" :: [mark " " (before + 1 + 1)]) :=
      .word_cons (.inr rfl) (by decide) (.of_mark (.inr rfl))
    have first : IsSpelled " " before 1 [mark " " (before + 1)] := .of_mark (.inr rfl)
    have whole := (first.append second).word_cons (.inr rfl : " " = "" ∨ " " = " ")
      (by decide : isPlainWord "LIMIT" = true)
    exact whole.tail

/-- They are its text. -/
theorem Written.spell_window_chars {query : Select Operand} (written : query.Written)
    (before : Nat) :
    (query.spellWindow before).flatMap Token.chars = query.renderWindow.toList := by
  unfold spellWindow renderWindow
  rcases written.window with ⟨limit, offset⟩ | ⟨limit, offset, limited, shifted⟩
  · rw [limit, offset]
    rfl
  · rw [limited, shifted]
    simp [Expression.spell, Expression.render]

/-- The operands of a query that is read back stand in its joins, its conditions and its
window. -/
theorem Written.operands_eq {query : Select Operand} (written : query.Written) :
    query.operands =
      query.joinOperands ++ (conditionOperands query.conditions ++ query.windowOperands) := by
  have columns : query.columns.flatMap ResultColumn.operands = [] := by
    refine List.flatMap_eq_nil_iff.mpr fun column member => ?_
    cases written.columns column member <;> rfl
  have keys : (query.ordering.flatMap fun key => key.expression.operands) = [] := by
    refine List.flatMap_eq_nil_iff.mpr fun key member => ?_
    obtain ⟨source, name, column, -⟩ := written.ordering key member
    rw [column]
    rfl
  simp [operands, rowOperands, joinOperands, windowOperands, columns, keys, written.grouping,
    written.having]

/-- A query that is read back is spelled, and its parameters are numbered in the order of its
operands. -/
theorem Written.spelled {query : Select Operand} (written : query.Written) :
    IsSpelled "" 0 query.operands.length query.spell := by
  have columns : IsSpelled " " 0 _
      (spellItems ResultColumn.spell (fun _ => 0) " " 0 query.columns) :=
    spell_items_spelled (.inr rfl) written.some_column fun column member gap before =>
      (written.columns column member).spelled
  have width : (query.columns.map fun _ => 0).sum = 0 := by simp
  rw [width] at columns
  have source : IsTail 0 0 query.spellSource := by
    obtain ⟨source, given, known⟩ := written.source
    have spelled : IsSpelled " " 0 0 source.spell := known.spelled
    have whole := spelled.word_cons (.inr rfl : " " = "" ∨ " " = " ")
      (by decide : isPlainWord "FROM" = true)
    simpa [spellSource, given] using whole.tail
  have joins : IsTail 0 query.joinOperands.length (spellJoins 0 query.joins) :=
    spell_joins_spelled written.joins
  have conditions : IsTail (0 + query.joinOperands.length) _
      (spellClause "WHERE" (0 + query.joinOperands.length) query.conditions) :=
    written.conditions.spelled (by decide)
  have rows : query.rowOperands.length =
      0 + query.joinOperands.length + (conditionOperands query.conditions).length := by
    simp [rowOperands, joinOperands]
  have ordering : IsTail query.rowOperands.length 0
      (query.spellOrdering query.rowOperands.length) := written.spell_ordering_spelled
  have window : IsTail (query.rowOperands.length + 0) _
      (query.spellWindow query.rowOperands.length) := written.spell_window_spelled
  have rest := joins.append (conditions.append (rows ▸ ordering.append window))
  have behind := columns.append_tail (source.append rest)
  have whole := behind.word_cons (.inl rfl : "" = "" ∨ "" = " ")
    (by decide : isPlainWord "SELECT" = true)
  have length : query.operands.length = _ := congrArg List.length written.operands_eq
  simpa [spell, spellRest, length, rows] using whole

/-- The text of a query that is read back is made of its tokens. -/
theorem Written.chars {query : Select Operand} (written : query.Written) :
    query.render.toList = query.spell.flatMap Token.chars := by
  have columns : (spellItems ResultColumn.spell (fun _ => 0) " " 0 query.columns).flatMap
      Token.chars = " ".toList ++ (joined ", " (query.columns.map ResultColumn.render)).toList :=
    spell_items_chars _ (fun column member => (written.columns column member).chars) " " 0
      written.some_column
  obtain ⟨source, given, -⟩ := written.source
  simp [spell, spellRest, spellSource, render, renderRows, renderGrouping, written.distinct,
    written.grouping, written.having, given, columns, Source.chars_spell,
    spell_joins_chars written.joins, written.conditions.chars, written.spell_ordering_chars,
    written.spell_window_chars]

/-- The tokens of the text of a query that is read back. -/
theorem Written.tokens_render {query : Select Operand} (written : query.Written) :
    tokens query.render = query.spell :=
  tokens_of_written written.spelled.plain written.spelled.apart written.spelled.numbered
    written.chars

/-- Its parameters are as many as its operands. -/
theorem Written.parameter_count {query : Select Operand} (written : query.Written) :
    Sql.parameterCount query.spell = query.operands.length :=
  (parameter_count_numbered written.spelled.numbered).trans written.spelled.marked

end Select

end RecordStore.Sql
