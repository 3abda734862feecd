import RecordStore.Proofs.Sql.Queries
import RecordStore.Proofs.Sql.Reading

/-!
# Reading queries back

The text of a query is read as the same query, with a parameter in the place of each operand.
Clauses that are left out are told from the keyword with which the next one begins.
-/

namespace RecordStore.Sql

open RecordStore.Sql.Parser Token

variable {Operand : Type}

/-! ### Parameters in the place of operands -/

/-- A result column that is read back, with a parameter for each operand. -/
def ResultColumn.placed : Nat → ResultColumn Operand → ResultColumn Term
  | before, .computed expression newName text => .computed (expression.placed before) newName text
  | _, .everything => .everything
  | _, .everythingOf source => .everythingOf source

/-- Conditions with a parameter for each operand. -/
def placeConditions (before : Nat) :
    Option (List (Expression Operand)) → Option (List (Expression Term)) :=
  Option.map (placeItems (fun before expression => expression.placed before)
    (fun expression => expression.operands.length) before)

/-- A join that is read back, with a parameter for each operand. -/
def Join.placed (before : Nat) (join : Join Operand) : Join Term :=
  ⟨join.source, placeConditions before join.conditions⟩

/-- A key of an ordering that is read back, with a parameter for each operand. -/
def OrderKey.placed (before : Nat) (key : OrderKey Operand) : OrderKey Term :=
  ⟨key.expression.placed before, key.direction⟩

/-- A query that is read back, with a parameter for each operand. -/
def Select.placed (query : Select Operand) : Select Term where
  distinct := query.distinct
  columns := placeItems ResultColumn.placed (fun _ => 0) 0 query.columns
  source := query.source
  joins :=
    placeItems Join.placed (fun join => (conditionOperands join.conditions).length) 0 query.joins
  conditions := placeConditions query.joinOperands.length query.conditions
  grouping := []
  having := none
  ordering := placeItems OrderKey.placed (fun _ => 0) query.rowOperands.length query.ordering
  limit := query.limit.map fun limit => limit.placed query.rowOperands.length
  offset := query.offset.map fun offset => offset.placed (query.rowOperands.length + 1)

/-! ### What clauses begin with -/

/-- Nothing, or tokens that begin with one of some keywords. -/
def Begins (words : List String) (rest : List Token) : Prop :=
  rest = [] ∨ ∃ keyword ∈ words, ∃ more, rest = word " " keyword :: more

namespace Begins

variable {words others : List String} {piece rest : List Token}

/-- One clause behind another begins with the keyword of either. -/
theorem append (first : Begins words piece) (second : Begins others rest) :
    Begins (words ++ others) (piece ++ rest) := by
  rcases first with rfl | ⟨keyword, member, more, rfl⟩
  · rcases second with rfl | ⟨keyword, member, more, rfl⟩
    · exact .inl rfl
    · exact .inr ⟨keyword, List.mem_append_right words member, more, rfl⟩
  · exact .inr ⟨keyword, List.mem_append_left others member, more ++ rest, rfl⟩

/-- What begins with some keywords begins with no other one. -/
theorem starts_word (begins : Begins words rest) (known : words ⊆ keywords) {other : String}
    (differs : other ∉ words) : Parser.startsWord other rest = false := by
  rcases begins with rfl | ⟨keyword, member, more, rfl⟩
  · rfl
  · rw [starts_word_cons, is_word_word, upper_keyword (known member), beq_eq_false_iff_ne]
    rintro rfl
    exact differs member

/-- What begins with a keyword begins with no sign. -/
theorem starts_sign (begins : Begins words rest) (other : String) :
    Parser.startsSign other rest = false := by
  rcases begins with rfl | ⟨keyword, member, more, rfl⟩ <;> rfl

/-- What begins with a keyword that ends expressions ends an expression. -/
theorem stops (begins : Begins words rest) (known : words ⊆ Stops.closers) {level : Nat} :
    Stops level rest := by
  rcases begins with rfl | ⟨keyword, member, more, rfl⟩
  · exact .nil
  · exact .word (known member)

/-- Keywords that are not taken for the name of a source or of a column. -/
def clauseWords : List String := ["FROM", "INNER", "ON", "WHERE", "ORDER", "LIMIT"]

/-- A keyword of a clause is not taken for a new name. -/
theorem new_name? (begins : Begins words rest) (known : words ⊆ clauseWords) :
    Parser.newName? rest = .ok (none, rest) := by
  rcases begins with rfl | ⟨keyword, member, more, rfl⟩
  · rfl
  · have among := known member
    simp only [clauseWords, List.mem_cons, List.not_mem_nil, or_false] at among
    have upperCase : upper keyword = keyword := by
      rcases among with rfl | rfl | rfl | rfl | rfl | rfl <;> exact upper_keyword (by decide)
    unfold Parser.newName?
    rcases among with rfl | rfl | rfl | rfl | rfl | rfl <;>
      simp [nameOf?, word, isWord, upperCase, neverNames, neverAliases]

end Begins

/-! ### Reading the parts of a query -/

section Parts

variable {fuel before : Nat} {gap : String} {rest : List Token}

/-- The tokens that were taken are those before the rest. -/
theorem taken_append (tokens rest : List Token) : taken (tokens ++ rest) rest = tokens := by
  simp [taken]

/-- A comma is not taken for a new name. -/
theorem new_name?_comma (rest : List Token) :
    newName? (sign "" "," :: rest) = .ok (none, sign "" "," :: rest) := rfl

/-- The first token of a result column is a name. -/
theorem ResultColumn.Written.starts {column : ResultColumn Operand} (written : column.Written)
    (gap : String) (before : Nat) :
    ∃ name more, IsName name ∧ column.spell gap before = word gap name :: more := by
  cases written with
  | @column source name named =>
    cases source with
    | none => exact ⟨name, [], named.2, rfl⟩
    | some source => exact ⟨source, _, named.1 source rfl, rfl⟩
  | countRows => exact ⟨"COUNT", _, ⟨by decide, by decide +kernel⟩, rfl⟩

/-- A result column has one to four tokens. -/
theorem ResultColumn.Written.short {column : ResultColumn Operand} (written : column.Written)
    (gap : String) (before : Nat) :
    0 < (column.spell gap before).length ∧ (column.spell gap before).length ≤ 4 := by
  cases written with
  | @column source name named =>
    cases source <;> simp [ResultColumn.spell, Expression.spell, spellColumn]
  | countRows => simp [ResultColumn.spell, Expression.spell]

/-- A key of an ordering has one to four tokens. -/
theorem OrderKey.Written.short {key : OrderKey Operand} (written : key.Written)
    (gap : String) (before : Nat) :
    0 < (key.spell gap before).length ∧ (key.spell gap before).length ≤ 4 := by
  obtain ⟨source, name, column, -⟩ := written
  unfold OrderKey.spell
  rw [column]
  cases source <;> cases key.direction <;>
    simp [Expression.spell, spellColumn]

/-- What may stand behind a result column. -/
def EndsColumn (behind : List Token) : Prop :=
  (∃ more, behind = sign "" "," :: more) ∨ ∃ more, behind = word " " "FROM" :: more

/-- A result column is read up to what may stand behind it. -/
theorem ResultColumn.Written.read {column : ResultColumn Operand} (written : column.Written)
    (gap : String) (before : Nat) {behind : List Token} (ends : EndsColumn behind)
    (enough : (column.spell gap before).length < fuel) :
    resultColumn fuel (column.spell gap before ++ behind) = .ok (column.placed before, behind) := by
  have stops : ∀ level, Stops level behind := by
    intro level
    rcases ends with ⟨more, rfl⟩ | ⟨more, rfl⟩
    · exact .sign (.inr rfl)
    · exact .word (by decide)
  have noName : newName? behind = .ok (none, behind) := by
    rcases ends with ⟨more, rfl⟩ | ⟨more, rfl⟩
    · exact new_name?_comma more
    · exact Begins.new_name? (.inr ⟨_, List.mem_singleton_self _, more, rfl⟩) (by decide)
  have computed : ∀ (expression : Expression Operand) (text : String),
      expression.Written 0 → (expression.spell gap before).length < fuel →
      textOf (expression.spell gap before) = text →
      resultColumn.computed fuel (expression.spell gap before ++ behind) =
        .ok (.computed (expression.placed before) none text, behind) := by
    intro expression text readBack enough shown
    unfold resultColumn.computed
    rw [readBack.read gap before (Nat.le_refl 0) (stops 0) enough]
    simp only [bind, Except.bind, taken_append, noName, shown]
    rfl
  cases written with
  | @column source name named =>
    have read := computed (.column source name) (qualified source name) (.column named) enough (by
      cases source <;> simp [Expression.spell, spellColumn, textOf, word, sign, qualified])
    refine Eq.trans ?_ read
    cases source with
    | some source => rfl
    | none => rcases ends with ⟨_ | _, rfl⟩ | ⟨_ | _, rfl⟩ <;> rfl
  | countRows =>
    have read := computed .countRows "COUNT(*)" .countRows enough (by
      simp [Expression.spell, textOf, word, sign])
    refine Eq.trans ?_ read
    rfl

/-- The source of a query, under its own name or another one. -/
theorem Source.Written.read {source : Source} (written : source.Written)
    (noName : newName? rest = .ok (none, rest)) :
    sourceTable (source.spell ++ rest) = .ok (source, rest) := by
  obtain ⟨table, newName⟩ := source
  obtain ⟨named, renamed⟩ := written
  unfold sourceTable
  cases newName with
  | none =>
    simp only [Source.spell, Option.toList, List.map_nil, List.cons_append, List.nil_append,
      takeName, named.name_of?_word, bind, Except.bind, noName]
    rfl
  | some given =>
    obtain ⟨name, noAlias⟩ := renamed given rfl
    have noAs : (upper given == "AS") = false :=
      beq_eq_false_iff_ne.mpr (name.upper_ne (by decide))
    have taken : newName? (word " " given :: rest) = .ok (some given, rest) := by
      unfold newName?
      simp only [starts_word_cons, is_word_word, noAs, Bool.false_eq_true, if_false,
        name.name_of?_word, noAlias, Bool.and_false]
    simp only [Source.spell, Option.toList, List.map_cons, List.map_nil, List.cons_append,
      List.nil_append, takeName, named.name_of?_word, bind, Except.bind, taken]
    rfl

/-- A clause is told from what follows by its keyword. -/
theorem WrittenClause.read {conditions : Option (List (Expression Operand))} {keyword : String}
    {words : List String} (written : WrittenClause conditions) (known : keyword ∈ keywords)
    (begins : Begins words rest) (knownWords : words ⊆ keywords) (closes : words ⊆ Stops.closers)
    (differs : keyword ∉ words) (before : Nat)
    (enough : (spellClause keyword before conditions).length ≤ fuel) :
    clause fuel keyword (spellClause keyword before conditions ++ rest) =
      .ok (placeConditions before conditions, rest) := by
  unfold clause
  cases conditions with
  | none =>
    have absent := begins.starts_word knownWords differs
    simp only [spellClause, List.nil_append, absent]
    rfl
  | some given =>
    obtain ⟨condition, rfl, readBack⟩ := written given rfl
    simp only [spellClause, List.length_cons] at enough
    have present : startsWord keyword
        (word " " keyword :: (condition.spell " " before ++ rest)) = true := by
      simp [upper_keyword known]
    simp only [spellClause, List.cons_append, present, if_true, List.drop_succ_cons, List.drop_zero]
    rw [readBack.read " " before (Nat.le_refl 0) (begins.stops closes) enough]
    rfl

/-- What may stand behind the sources of a query. -/
def rowWords : List String := ["WHERE", "ORDER", "LIMIT"]

/-- Joins begin with `INNER`, if there are any. -/
theorem begins_spell_joins (before : Nat) (joins : List (Join Operand)) :
    Begins ["INNER"] (spellJoins before joins) := by
  cases joins with
  | nil => exact .inl rfl
  | cons join others => exact .inr ⟨"INNER", List.mem_singleton_self _, _, rfl⟩

/-- A clause begins with its keyword, if it is there. -/
theorem begins_spell_clause (keyword : String) (before : Nat)
    (conditions : Option (List (Expression Operand))) :
    Begins [keyword] (spellClause keyword before conditions) := by
  unfold spellClause
  split
  · exact .inr ⟨keyword, List.mem_singleton_self _, _, rfl⟩
  · exact .inl rfl

/-- Further sources are read one after the other. -/
theorem spell_joins_read {list : List (Join Operand)} (written : ∀ join ∈ list, join.Written)
    (begins : Begins rowWords rest) (before : Nat)
    (enough : (spellJoins before list).length < fuel) :
    joins fuel (spellJoins before list ++ rest) =
      .ok (placeItems Join.placed (fun join => (conditionOperands join.conditions).length) before
        list, rest) := by
  induction list generalizing fuel before with
  | nil =>
    obtain ⟨fuel, rfl⟩ : ∃ less, fuel = less + 1 := Nat.exists_eq_add_of_le' enough
    have none : joinWidth? rest = none := by
      unfold joinWidth?
      rw [begins.starts_sign, begins.starts_word (by decide) (by decide : "JOIN" ∉ rowWords),
        begins.starts_word (by decide) (by decide : "INNER" ∉ rowWords),
        begins.starts_word (by decide) (by decide : "CROSS" ∉ rowWords)]
      rfl
    simp only [spellJoins, List.nil_append, joins, none]
    rfl
  | cons join others inductionHypothesis =>
    obtain ⟨source, conditions⟩ := written join List.mem_cons_self
    simp only [spellJoins, Join.spell, List.length_append, List.length_cons] at enough
    obtain ⟨fuel, rfl⟩ : ∃ less, fuel = less + 1 := Nat.exists_eq_add_of_le' (by omega)
    have later : Begins (["INNER"] ++ rowWords)
        (spellJoins (before + (conditionOperands join.conditions).length) others ++ rest) :=
      (begins_spell_joins _ others).append begins
    have width : ∀ more, joinWidth? (word " " "INNER" :: word " " "JOIN" :: more) = some 2 := by
      intro more
      have upperInner : upper "INNER" = "INNER" := upper_keyword (by decide)
      have upperJoin : upper "JOIN" = "JOIN" := upper_keyword (by decide)
      simp [joinWidth?, upperInner, upperJoin]
    have noName := ((begins_spell_clause "ON" before join.conditions).append later).new_name?
      (by decide)
    have readSource := source.read noName
    have readClause := conditions.read (by decide : "ON" ∈ keywords) later (by decide) (by decide)
      (by decide) before (show _ ≤ fuel by omega)
    have readLater := inductionHypothesis
      (fun other member => written other (List.mem_cons_of_mem join member))
      (before + (conditionOperands join.conditions).length) (show _ < fuel by omega)
    simp only [spellJoins, Join.spell, List.cons_append, List.append_assoc, joins, width,
      List.drop_succ_cons, List.drop_zero]
    rw [readSource]
    simp only [bind, Except.bind]
    rw [readClause]
    dsimp only
    rw [readLater]
    rfl

/-- A key of an ordering with its direction. -/
theorem OrderKey.Written.read {key : OrderKey Operand} (written : key.Written) (gap : String)
    (before : Nat) {behind : List Token}
    (ends : Begins ["LIMIT"] behind ∨ ∃ more, behind = sign "" "," :: more)
    (enough : (key.spell gap before).length < fuel) :
    orderKey fuel (key.spell gap before ++ behind) = .ok (key.placed before, behind) := by
  obtain ⟨source, name, column, named⟩ := written
  obtain ⟨value, direction⟩ := key
  cases column
  have upperAscending : upper "ASC" = "ASC" := upper_keyword (by decide)
  have upperDescending : upper "DESC" = "DESC" := upper_keyword (by decide)
  have noDirection : ∀ other ∈ ["ASC", "DESC"], startsWord other behind = false := by
    intro other member
    rcases ends with begins | ⟨more, rfl⟩
    · refine begins.starts_word (by decide) fun among => ?_
      cases List.mem_singleton.mp among
      exact absurd member (by decide)
    · rfl
  have stops : Stops 0 behind := by
    rcases ends with begins | ⟨more, rfl⟩
    · exact begins.stops (by decide)
    · exact .sign (.inr rfl)
  have readBack : (.column source name : Expression Operand).Written 0 := .column named
  simp only [OrderKey.spell, List.length_append] at enough
  unfold orderKey
  simp only [OrderKey.spell, List.append_assoc]
  cases direction with
  | none =>
    rw [Option.toList, List.map_nil, List.nil_append,
      readBack.read gap before (Nat.le_refl 0) stops (by omega)]
    simp only [bind, Except.bind, noDirection "ASC" (by decide), noDirection "DESC" (by decide)]
    rfl
  | some direction =>
    have stopsWord : Stops 0 (word " " direction.text :: behind) := by
      cases direction <;> exact .word (by decide)
    rw [Option.toList, List.map_singleton, List.singleton_append,
      readBack.read gap before (Nat.le_refl 0) stopsWord (by omega)]
    cases direction <;>
      simp [bind, Except.bind, Direction.text, upperAscending, upperDescending, pure, Except.pure,
        OrderKey.placed]

end Parts

/-! ### Reading a whole query -/

namespace Select

variable {query : Select Operand} {fuel : Nat}

/-- The ordering is read, if there is one. -/
theorem Written.read_ordering (written : query.Written) (before : Nat) {rest : List Token}
    (begins : Begins ["LIMIT"] rest) (wide : 4 < fuel)
    (enough : (query.spellOrdering before).length ≤ fuel) :
    itemsBy (orderKey fuel) fuel "ORDER" (query.spellOrdering before ++ rest) =
      .ok (placeItems OrderKey.placed (fun _ => 0) before query.ordering, rest) := by
  unfold spellOrdering at enough ⊢
  unfold itemsBy
  cases keys : query.ordering with
  | nil =>
    have absent := begins.starts_word (by decide) (by decide : "ORDER" ∉ ["LIMIT"])
    simp only [List.isEmpty_nil, if_true, List.nil_append, absent]
    rfl
  | cons first others =>
    have upperOrder : upper "ORDER" = "ORDER" := upper_keyword (by decide)
    have upperBy : upper "BY" = "BY" := upper_keyword (by decide)
    simp only [keys, List.isEmpty_cons, Bool.false_eq_true, if_false, List.length_cons] at enough
    have known : ∀ key ∈ first :: others, key.Written :=
      fun key member => written.ordering key (keys ▸ member)
    have listed : (first :: others).length ≤
        (spellItems OrderKey.spell (fun _ => 0) " " before (first :: others)).length :=
      length_le_spell_items fun key member gap before => ((known key member).short gap before).1
    have read : commaSeparated (orderKey fuel) fuel
        (spellItems OrderKey.spell (fun _ => 0) " " before (first :: others) ++ rest) = .ok
          (placeItems OrderKey.placed (fun _ => 0) before (first :: others), rest) := by
      refine comma_separated_spell_items (fun key member gap before behind follows => ?_)
        (begins.starts_sign ",") (List.cons_ne_nil first others) (by omega) " " before
      refine (known key member).read gap before ?_
        (Nat.lt_of_le_of_lt ((known key member).short gap before).2 wide)
      rcases follows with rfl | comma
      · exact .inl begins
      · exact .inr comma
    simp only [List.isEmpty_cons, Bool.false_eq_true, if_false, List.cons_append,
      starts_word_cons, is_word_word, upperOrder, BEq.rfl, if_true, List.drop_succ_cons,
      List.drop_zero, takeWord, upperBy]
    exact read

/-- The window is read, if there is one. -/
theorem Written.read_window (written : query.Written) (before : Nat) (wide : 4 < fuel) :
    Parser.window fuel (query.spellWindow before) =
      .ok ((query.limit.map fun limit => limit.placed before,
        query.offset.map fun offset => offset.placed (before + 1)), []) := by
  unfold spellWindow Parser.window
  rcases written.window with ⟨limit, offset⟩ | ⟨limit, offset, limited, shifted⟩
  · rw [limit, offset]
    rfl
  · have upperLimit : upper "LIMIT" = "LIMIT" := upper_keyword (by decide)
    have upperOffset : upper "OFFSET" = "OFFSET" := upper_keyword (by decide)
    have first : (.operand limit : Expression Operand).Written 0 := .operand limit
    have second : (.operand offset : Expression Operand).Written 0 := .operand offset
    have enough : 1 < fuel := by omega
    have readFirst := first.read " " before (Nat.le_refl 0)
      (.word (by decide) : Stops 0 (word " " "OFFSET" ::
        (.operand offset : Expression Operand).spell " " (before + 1))) enough
    have readSecond := second.read " " (before + 1) (Nat.le_refl 0) .nil enough
    rw [List.append_nil] at readSecond
    rw [limited, shifted]
    simp only [starts_word_cons, is_word_word, upperLimit, BEq.rfl, if_true, List.drop_succ_cons,
      List.drop_zero]
    rw [readFirst]
    simp only [bind, Except.bind, starts_word_cons, is_word_word, upperOffset, BEq.rfl, if_true,
      List.drop_succ_cons, List.drop_zero]
    rw [readSecond]
    rfl

/-- The first token behind the keyword of a query is a name. -/
theorem Written.starts (written : query.Written) (rest : List Token) :
    ∃ name more, IsName name ∧ spellItems ResultColumn.spell (fun _ => 0) " " 0 query.columns ++
      rest = word " " name :: more := by
  cases columns : query.columns with
  | nil => exact absurd columns written.some_column
  | cons first others =>
    obtain ⟨name, more, named, spelled⟩ :=
      (written.columns first (columns ▸ List.mem_cons_self)).starts " " 0
    cases others with
    | nil => exact ⟨name, more ++ rest, named, by simp [spellItems, spelled]⟩
    | cons second others => exact ⟨name, _, named, by simp [spellItems, spelled]; rfl⟩

/-- The result columns of a query are read up to `FROM`. -/
theorem Written.read_columns (written : query.Written) (wide : 4 < fuel)
    (enough : query.spell.length ≤ fuel) (rest : List Token) :
    commaSeparated (resultColumn fuel) fuel
        (spellItems ResultColumn.spell (fun _ => 0) " " 0 query.columns ++
          word " " "FROM" :: rest) =
      .ok (placeItems ResultColumn.placed (fun _ => 0) 0 query.columns,
        word " " "FROM" :: rest) := by
  have listed : query.columns.length ≤
      (spellItems ResultColumn.spell (fun _ => 0) " " 0 query.columns).length :=
    length_le_spell_items fun column member gap before =>
      ((written.columns column member).short gap before).1
  simp only [spell, List.length_cons, List.length_append] at enough
  refine comma_separated_spell_items (fun column member gap before behind follows => ?_) rfl
    written.some_column (by omega) " " 0
  have known := written.columns column member
  refine known.read gap before ?_ (Nat.lt_of_le_of_lt (known.short gap before).2 wide)
  rcases follows with rfl | comma
  · exact .inr ⟨rest, rfl⟩
  · exact .inl comma

/-- A window begins with `LIMIT`, if there is one. -/
theorem begins_spell_window (before : Nat) (query : Select Operand) :
    Begins ["LIMIT"] (query.spellWindow before) := by
  unfold spellWindow
  split
  · exact .inr ⟨"LIMIT", List.mem_singleton_self _, _, rfl⟩
  · exact .inl rfl

/-- An ordering begins with `ORDER`, if there is one. -/
theorem begins_spell_ordering (before : Nat) (query : Select Operand) :
    Begins ["ORDER"] (query.spellOrdering before) := by
  unfold spellOrdering
  split
  · exact .inl rfl
  · exact .inr ⟨"ORDER", List.mem_singleton_self _, _, rfl⟩

/-- Where a keyword is missing there are no items behind it. -/
theorem items_by_absent {α : Type} {item : Reader α} {keyword : String} {tokens : List Token}
    (absent : startsWord keyword tokens = false) :
    itemsBy item fuel keyword tokens = .ok ([], tokens) := by
  simp [itemsBy, absent]

/-- Where a keyword is missing there is no clause. -/
theorem clause_absent {keyword : String} {tokens : List Token}
    (absent : startsWord keyword tokens = false) :
    clause fuel keyword tokens = .ok (none, tokens) := by
  simp [clause, absent]

/-- The sources of a query are read up to its conditions. -/
theorem Written.read_sources (written : query.Written) {rest : List Token}
    (begins : Begins rowWords rest) (enough : (spellJoins 0 query.joins).length < fuel) :
    querySources fuel (query.spellSource ++ (spellJoins 0 query.joins ++ rest)) =
      .ok ((query.source, placeItems Join.placed
        (fun join => (conditionOperands join.conditions).length) 0 query.joins), rest) := by
  obtain ⟨source, given, known⟩ := written.source
  have upperFrom : upper "FROM" = "FROM" := upper_keyword (by decide)
  have noName := ((begins_spell_joins 0 query.joins).append begins).new_name? (by decide)
  unfold querySources spellSource
  simp only [given, Option.toList, List.flatMap_cons, List.flatMap_nil, List.append_nil,
    List.cons_append, starts_word_cons, is_word_word, upperFrom, BEq.rfl, if_true,
    List.drop_succ_cons, List.drop_zero]
  rw [known.read noName]
  simp only [bind, Except.bind]
  rw [spell_joins_read written.joins begins 0 enough]
  rfl

/-- A query that is read back is read behind its first keyword. Proof: what follows each of the
clauses is told from it by its keywords. -/
theorem Written.read (written : query.Written) (wide : 4 < fuel)
    (enough : query.spell.length ≤ fuel) :
    Parser.query fuel (query.spell.drop 1) = .ok (query.placed, []) := by
  have lengths := enough
  simp only [spell, spellRest, List.length_cons, List.length_append] at lengths
  have window := begins_spell_window query.rowOperands.length query
  have ordering := (begins_spell_ordering query.rowOperands.length query).append window
  have conditions := (begins_spell_clause "WHERE" query.joinOperands.length query.conditions).append
    ordering
  obtain ⟨sourceTokens, fromSource⟩ : ∃ more, query.spellSource = word " " "FROM" :: more := by
    obtain ⟨source, given, -⟩ := written.source
    exact ⟨source.spell, by simp [spellSource, given]⟩
  have readColumns := written.read_columns wide enough (sourceTokens ++ query.spellRest)
  rw [← List.cons_append, ← fromSource] at readColumns
  have readSources := written.read_sources conditions (show _ < fuel by omega)
  have readConditions := written.conditions.read (by decide : "WHERE" ∈ keywords) ordering
    (by decide) (by decide) (by decide) query.joinOperands.length (show _ ≤ fuel by omega)
  have noGroup := ordering.starts_word (by decide) (by decide : "GROUP" ∉ ["ORDER"] ++ ["LIMIT"])
  have noHaving := ordering.starts_word (by decide) (by decide : "HAVING" ∉ ["ORDER"] ++ ["LIMIT"])
  have readOrdering := written.read_ordering query.rowOperands.length window wide (by omega)
  have readWindow := written.read_window query.rowOperands.length wide
  obtain ⟨name, more, named, starts⟩ := written.starts (query.spellSource ++ query.spellRest)
  have noDistinct : (upper name == "DISTINCT") = false :=
    beq_eq_false_iff_ne.mpr (named.upper_ne (by decide))
  have noAll : (upper name == "ALL") = false :=
    beq_eq_false_iff_ne.mpr (named.upper_ne (by decide))
  unfold Parser.query
  simp only [spell, List.drop_succ_cons, List.drop_zero]
  rw [starts]
  simp only [skipWord, is_word_word, noDistinct, noAll, Bool.false_eq_true, if_false]
  rw [← starts, readColumns]
  simp only [bind, Except.bind, spellRest]
  rw [readSources]
  simp only
  rw [readConditions]
  simp only
  rw [items_by_absent noGroup]
  simp only
  rw [clause_absent noHaving]
  simp only
  rw [readOrdering]
  simp only
  rw [readWindow]
  simp only [pure, Except.pure, placed, written.distinct, Option.bind_none]

/-- The text of a query that is read back is a statement by itself: the same query, with as many
parameters as there are operands. -/
theorem Written.parse (written : query.Written) :
    ∃ text, Sql.parse query.render =
      .ok ⟨.select query.placed, query.operands.length, text⟩ := by
  have upperSelect : upper "SELECT" = "SELECT" := upper_keyword (by decide)
  have shape : query.spell = word "" "SELECT" :: query.spell.drop 1 := rfl
  have noEnd : (query.spell.dropWhile fun token => isSign token ";") = query.spell := by
    rw [shape, List.dropWhile_cons, is_sign_word]
    rfl
  have noChange : Parser.change? (16 * query.spell.length + 64) query.spell = none := by
    rw [shape]
    simp [Parser.change?, upperSelect]
  have reads : Parser.statement (16 * query.spell.length + 64) query.spell =
      .ok (.select query.placed, []) := by
    unfold Parser.statement
    rw [noChange]
    have present : startsWord "SELECT" query.spell = true := by
      rw [shape]
      simp [upperSelect]
    simp only [present, if_true]
    rw [written.read (by omega) (by omega)]
    rfl
  have some_token : query.spell.isEmpty = false := by rw [shape]; rfl
  refine ⟨textOf query.spell, ?_⟩
  unfold Sql.parse
  simp only [written.tokens_render, noEnd, some_token, Bool.false_eq_true, if_false, reads, bind,
    Except.bind, written.parameter_count]
  rfl

end Select

end RecordStore.Sql
