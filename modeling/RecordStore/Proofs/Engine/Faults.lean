import RecordStore.Engine.Changes

/-!
# What faults are about

A fault that says that a value is missing in a table can come from one place only: from a row that
is to enter that table. Nothing that is done before or beside that ends with such a fault: not the
reading of a pattern text, not the answering of a query, and not the check of the names in a
statement.
-/

namespace RecordStore

open Engine

/-- Whether a fault says that a value is missing in a table. -/
def Fault.misses (name : String) : Fault → Bool
  | .notNullViolation table _ => sameName table name
  | _ => false

namespace Engine

variable {α β : Type} {name : String}

/-- A result as it is asked for, or a fault that says nothing of values missing in a table. -/
def Ends (name : String) (Asked : α → Prop) : Except Fault α → Prop
  | .ok value => Asked value
  | .error fault => fault.misses name = false

/-- A result of any kind that says nothing of values missing in a table. -/
abbrev IsSilent (name : String) (result : Except Fault α) : Prop := Ends name (fun _ => True) result

namespace Ends

variable {Asked : α → Prop} {Final : β → Prop}

/-- A result ends so if it does when it is answered and its fault names no missing value when it is
not. -/
theorem of_cases {result : Except Fault α} (asked : ∀ value, result = .ok value → Asked value)
    (silent : ∀ fault, result = .error fault → fault.misses name = false) :
    Ends name Asked result := by
  cases result with
  | ok value => exact asked value rfl
  | error fault => exact silent fault rfl

/-- A result that ends so fails with no fault that names a missing value of the table. -/
theorem misses {result : Except Fault α} (ends : Ends name Asked result) {fault : Fault}
    (failed : result = .error fault) : fault.misses name = false := by
  rw [failed] at ends
  exact ends

/-- What ends as it is asked for ends silently, whatever its value. -/
theorem silent {result : Except Fault α} (ends : Ends name Asked result) : IsSilent name result :=
  of_cases (fun _ _ => trivial) fun _ failed => ends.misses failed

/-- What is let through on a condition. -/
theorem guard {condition : Prop} [Decidable condition] {fault : Fault}
    (silent : fault.misses name = false) :
    IsSilent name (if condition then .ok () else .error fault) := by
  split
  · trivial
  · exact silent

/-- One computation after the other. -/
theorem bind {first : Except Fault α} {next : α → Except Fault β} (ends : Ends name Asked first)
    (behind : ∀ value, first = .ok value → Asked value → Ends name Final (next value)) :
    Ends name Final (first >>= next) := by
  cases first with
  | ok value => exact behind value rfl ends
  | error fault => exact ends

/-- A fold whose steps keep a property or fail silently ends with it or fails silently, by induction
on the items. -/
theorem foldl_m {State : Type} {Holds : State → Prop} {step : State → α → Except Fault State}
    {items : List α} {start : State} (initially : Holds start)
    (steps : ∀ state, ∀ item ∈ items, Holds state → Ends name Holds (step state item)) :
    Ends name Holds (items.foldlM step start) := by
  induction items generalizing start with
  | nil => exact initially
  | cons item rest inductionHypothesis =>
    rw [List.foldlM_cons]
    exact (steps start item List.mem_cons_self initially).bind fun next _ holds =>
      inductionHypothesis holds fun state other member =>
        steps state other (List.mem_cons_of_mem item member)

/-- Steps that are silent one by one are silent one after the other. -/
theorem for_m {step : α → Except Fault Unit} {items : List α}
    (steps : ∀ item ∈ items, IsSilent name (step item)) : IsSilent name (items.forM step) := by
  induction items with
  | nil => trivial
  | cons item rest inductionHypothesis =>
    exact (steps item List.mem_cons_self).bind fun _ _ _ =>
      inductionHypothesis fun other member => steps other (List.mem_cons_of_mem item member)

/-- A list of results each of which is silent is silent. -/
theorem map_m {step : α → Except Fault β} {items : List α}
    (steps : ∀ item, IsSilent name (step item)) : IsSilent name (items.mapM step) := by
  induction items with
  | nil => trivial
  | cons item rest inductionHypothesis =>
    rw [List.mapM_cons]
    exact (steps item).bind fun _ _ _ => inductionHypothesis.bind fun _ _ _ => trivial

/-- What is done with an item where there is one is silent if it is silent for every item. -/
theorem option_map_m {step : α → Except Fault β} {item : Option α}
    (steps : ∀ item, IsSilent name (step item)) : IsSilent name (item.mapM step) := by
  cases item with
  | none => trivial
  | some item => exact (steps item).bind fun _ _ _ => trivial

end Ends

end Engine

/-! ### Reading pattern texts -/

namespace FullText

variable {α : Type} {name : String} {Asked : α → Prop} {tokens : Tokens}

/-- Tokens of which the one that cannot be read says nothing of missing values. -/
def Tokens.IsClean (name : String) : Tokens → Prop
  | .finished => True
  | .broken fault => fault.misses name = false
  | .next _ rest => rest.IsClean name

/-- Behind a token of a clean text the text is clean. -/
theorem Tokens.IsClean.behind {token : Token} {rest : Tokens}
    (clean : (Tokens.next token rest).IsClean name) : rest.IsClean name := clean

/-- A step of reading that leaves such tokens. -/
abbrev Reads (name : String) (result : Except Fault (α × Tokens)) : Prop :=
  Ends name (fun read => read.2.IsClean name) result

/-- The tokens of a pattern end with no fault that names a missing value. The induction is on the
fuel, one token at a time. -/
theorem tokenize_is_clean (fuel : Nat) (text : List Char) : (tokenize fuel text).IsClean name := by
  induction fuel generalizing text with
  | zero => trivial
  | succ fuel inductionHypothesis =>
    unfold tokenize
    split
    · trivial
    · split
      · exact inductionHypothesis _
      · split
        · split
          · exact inductionHypothesis _
          · rfl
        · split
          · exact inductionHypothesis _
          · rfl

/-- Refusing a pattern at its next token names no missing value. -/
theorem refuse_ends (clean : tokens.IsClean name) : Ends name Asked (refuse tokens) := by
  cases tokens with
  | finished => rfl
  | broken fault => exact clean
  | next token rest => rfl

/-- Whatever was to follow a refusal, it stays one that names no missing value. -/
theorem refuse_bind_ends {β : Type} {next : β → Except Fault α} (clean : tokens.IsClean name) :
    Ends name Asked (refuse tokens >>= next) := by
  cases tokens with
  | finished => rfl
  | broken fault => exact clean
  | next token rest => rfl

/-- Looking whether the text has a token names no missing value. -/
theorem looked_silent (clean : tokens.IsClean name) : IsSilent name (looked tokens) := by
  cases tokens with
  | broken fault => exact clean
  | _ => trivial

/-- Behind a star, or where none stands, the text is as clean as before. -/
theorem read_star_is_clean (clean : tokens.IsClean name) : (readStar tokens).2.IsClean name := by
  unfold readStar
  split <;> exact clean

/-- The words that a plus joins to a phrase are read, or refused silently. The induction is on the
fuel, one word in each turn. -/
theorem read_phrase_rest_reads (fuel : Nat) (words : List WordPattern)
    (clean : tokens.IsClean name) : Reads name (readPhraseRest fuel words tokens) := by
  induction fuel generalizing words tokens with
  | zero => exact refuse_ends clean
  | succ fuel inductionHypothesis =>
    unfold readPhraseRest
    split
    · split
      · split
        · exact inductionHypothesis _ (read_star_is_clean clean)
        · exact refuse_ends clean
      · exact refuse_ends clean
    · exact (looked_silent clean).bind fun _ _ _ => clean

/-- A phrase is read, or refused silently. -/
theorem read_phrase_reads (fuel : Nat) (clean : tokens.IsClean name) :
    Reads name (readPhrase fuel tokens) := by
  unfold readPhrase
  split
  · split
    · exact read_phrase_rest_reads fuel _ (read_star_is_clean clean)
    · exact refuse_ends clean
  · exact refuse_ends clean

/-- The phrases of a group are read, or refused silently, by induction on the fuel. -/
theorem read_phrases_reads (fuel : Nat) (phrases : List Phrase) (clean : tokens.IsClean name) :
    Reads name (readPhrases fuel phrases tokens) := by
  induction fuel generalizing phrases tokens with
  | zero => exact refuse_ends clean
  | succ fuel inductionHypothesis =>
    refine (read_phrase_reads fuel clean).bind fun read _ cleanNow => ?_
    simp only
    split
    · exact cleanNow
    · exact cleanNow
    · exact inductionHypothesis _ cleanNow

/-- A distance that is none is refused silently. -/
theorem distance_of_silent (token : Token) : IsSilent name (distanceOf token) := by
  unfold distanceOf
  simp only
  split
  · trivial
  · rfl

/-- A group of words that are to stand near one another is read, or refused with a fault of the
pattern. Proof: whether a distance is stated or not, the closing bracket comes next. -/
theorem read_near_reads (fuel : Nat) (word : Token) (clean : tokens.IsClean name) :
    Reads name (readNear fuel word tokens) := by
  refine (read_phrases_reads fuel [] clean).bind fun read _ cleanNow => ?_
  obtain ⟨phrases, rest⟩ := read
  simp only at cleanNow ⊢
  split
  case' h_1 =>
    split
    case h_2 => exact refuse_bind_ends cleanNow
    split
    case isFalse => exact refuse_bind_ends cleanNow
  all_goals
    refine Ends.bind (?_ : Reads name _) fun stated _ cleanThen => ?_
    · exact cleanNow
    · split
      · rename_i stands
        rw [stands] at cleanThen
        refine (looked_silent cleanThen.behind).bind fun _ _ _ => ?_
        split
        · rfl
        · split
          · exact (distance_of_silent _).bind fun _ _ _ => cleanThen.behind
          · exact cleanThen.behind
      · exact refuse_ends cleanThen

/-- A group of phrases is read, or refused silently. -/
theorem read_group_reads (fuel : Nat) (clean : tokens.IsClean name) :
    Reads name (readGroup fuel tokens) := by
  unfold readGroup
  split
  · refine (read_phrase_reads fuel clean.behind).bind fun _ _ cleanNow => ?_
    exact cleanNow
  · split
    · exact read_near_reads fuel _ clean.behind.behind
    · exact refuse_ends clean
  · refine (read_phrase_reads fuel clean).bind fun _ _ cleanNow => ?_
    exact cleanNow

/-- A pattern that names a column that is not there fails silently: that fault is about the name. -/
theorem column_named_silent (columns : List String) (column : String) :
    IsSilent name (columnNamed columns column) := by
  unfold columnNamed
  split
  · trivial
  · rfl

/-- The names of columns between braces are read, or refused silently, by induction on the fuel. -/
theorem read_braced_reads (columns : List String) (fuel : Nat) (named : List String)
    (clean : tokens.IsClean name) : Reads name (readBraced columns fuel named tokens) := by
  induction fuel generalizing named tokens with
  | zero => exact refuse_ends clean
  | succ fuel inductionHypothesis =>
    unfold readBraced
    split
    · split
      · refine (looked_silent clean.behind).bind fun _ _ _ => ?_
        exact (column_named_silent columns _).bind fun _ _ _ => inductionHypothesis _ clean.behind
      · split
        · exact clean.behind
        · exact refuse_ends clean
    · exact refuse_ends clean

/-- Columns before a colon, if there are any, and the tokens behind the colon. -/
abbrev ReadsSome (name : String) (result : Except Fault (Option (α × Tokens))) : Prop :=
  Ends name (fun read => ∀ found ∈ read, found.2.IsClean name) result

/-- The colon behind the names of columns is read, or refused silently. -/
theorem require_colon_reads (named : List String) (clean : tokens.IsClean name) :
    ReadsSome name (readColumns?.requireColon named tokens) := by
  unfold readColumns?.requireColon
  split
  · refine (looked_silent clean.behind).bind fun _ _ _ => ?_
    rintro found ⟨⟩
    exact clean.behind
  · exact refuse_ends clean

/-- A choice of columns before a pattern is read, or refused silently. -/
theorem read_columns?_reads (columns : List String) (fuel : Nat) (clean : tokens.IsClean name) :
    ReadsSome name (readColumns? columns fuel tokens) := by
  unfold readColumns?
  split
  · split
    · exact (read_braced_reads columns fuel [] clean.behind.behind).bind fun _ _ cleanNow =>
        require_colon_reads _ cleanNow
    · split
      · refine (looked_silent clean.behind.behind).bind fun _ _ _ => ?_
        exact (column_named_silent columns _).bind fun _ _ _ =>
          require_colon_reads _ clean.behind.behind
      · exact refuse_ends clean.behind
    · exact refuse_ends clean.behind
  · exact (read_braced_reads columns fuel [] clean.behind).bind fun _ _ cleanNow =>
      require_colon_reads _ cleanNow
  · split
    · refine (column_named_silent columns _).bind fun _ _ _ => ?_
      refine (looked_silent clean.behind.behind).bind fun _ _ _ => ?_
      rintro found ⟨⟩
      exact clean.behind.behind
    · rintro found ⟨⟩
  · rintro found ⟨⟩

/-- The groups of a pattern are read up to its end, or refused silently, by induction on the
fuel. -/
theorem read_groups_reads (columns : List String) (fuel : Nat) (left : Pattern)
    (clean : tokens.IsClean name) : Reads name (readGroups columns fuel left tokens) := by
  induction fuel generalizing left tokens with
  | zero => exact refuse_ends clean
  | succ fuel inductionHypothesis =>
    unfold readGroups
    split
    · refine (read_columns?_reads columns fuel clean).bind fun read _ cleanNow => ?_
      split
      · exact (read_group_reads fuel (cleanNow _ rfl)).bind fun _ _ cleanThen =>
          inductionHypothesis _ cleanThen
      · exact (read_group_reads fuel clean).bind fun _ _ cleanThen =>
          inductionHypothesis _ cleanThen
    · exact (looked_silent clean).bind fun _ _ _ => clean

/-- Patterns of all kinds are read with such tokens left. -/
structure ReadsPatterns (name : String) (columns : List String) (fuel : Nat) : Prop where
  either : ∀ {tokens : Tokens}, tokens.IsClean name → Reads name (readEither columns fuel tokens)
  eitherRest : ∀ left {tokens : Tokens}, tokens.IsClean name →
    Reads name (readEitherRest columns fuel left tokens)
  both : ∀ {tokens : Tokens}, tokens.IsClean name → Reads name (readBoth columns fuel tokens)
  bothRest : ∀ left {tokens : Tokens}, tokens.IsClean name →
    Reads name (readBothRest columns fuel left tokens)
  butNot : ∀ {tokens : Tokens}, tokens.IsClean name → Reads name (readButNot columns fuel tokens)
  butNotRest : ∀ left {tokens : Tokens}, tokens.IsClean name →
    Reads name (readButNotRest columns fuel left tokens)
  part : ∀ {tokens : Tokens}, tokens.IsClean name → Reads name (readPart columns fuel tokens)
  bracketed : ∀ confinement {tokens : Tokens}, tokens.IsClean name →
    Reads name (readBracketed columns fuel confinement tokens)

/-- With one count more a part is read as well: a pattern between brackets, confined to columns or
not, or groups of words. -/
theorem ReadsPatterns.part_succ (reads : ReadsPatterns name columns fuel)
    (clean : tokens.IsClean name) : Reads name (readPart columns (fuel + 1) tokens) := by
  unfold readPart
  split
  · exact reads.bracketed none clean.behind
  · refine (read_columns?_reads columns fuel clean).bind fun read _ cleanNow => ?_
    split
    · exact reads.bracketed _ (cleanNow _ rfl).behind
    · exact (read_group_reads fuel (cleanNow _ rfl)).bind fun _ _ cleanThen =>
        read_groups_reads columns fuel _ cleanThen
    · exact (read_group_reads fuel clean).bind fun _ _ cleanThen =>
        read_groups_reads columns fuel _ cleanThen

/-- With one count more a pattern between brackets is read up to the closing one. -/
theorem ReadsPatterns.bracketed_succ (reads : ReadsPatterns name columns fuel)
    (confinement : Option (List String)) (clean : tokens.IsClean name) :
    Reads name (readBracketed columns (fuel + 1) confinement tokens) := by
  unfold readBracketed
  refine (reads.either clean).bind fun read _ cleanNow => ?_
  obtain ⟨pattern, rest⟩ := read
  simp only at cleanNow ⊢
  split
  · refine (looked_silent cleanNow.behind).bind fun _ _ _ => ?_
    split <;> exact cleanNow.behind
  · exact refuse_ends cleanNow

/-- The readers call each other with one count less, so the induction is on the count for all of
them at once. -/
theorem reads_patterns (columns : List String) (fuel : Nat) : ReadsPatterns name columns fuel := by
  induction fuel with
  | zero =>
    constructor <;> intros <;>
      simp only [readEither, readEitherRest, readBoth, readBothRest, readButNot, readButNotRest,
        readPart, readBracketed] <;>
      exact refuse_ends ‹_›
  | succ fuel reads =>
    constructor
    case either =>
      intro tokens clean
      unfold readEither
      exact (reads.both clean).bind fun _ _ cleanNow => reads.eitherRest _ cleanNow
    case eitherRest =>
      intro left tokens clean
      unfold readEitherRest
      split
      · exact (reads.both clean.behind).bind fun _ _ cleanNow => reads.eitherRest _ cleanNow
      · exact clean
    case both =>
      intro tokens clean
      unfold readBoth
      exact (reads.butNot clean).bind fun _ _ cleanNow => reads.bothRest _ cleanNow
    case bothRest =>
      intro left tokens clean
      unfold readBothRest
      split
      · exact (reads.butNot clean.behind).bind fun _ _ cleanNow => reads.bothRest _ cleanNow
      · exact clean
    case butNot =>
      intro tokens clean
      unfold readButNot
      exact (reads.part clean).bind fun _ _ cleanNow => reads.butNotRest _ cleanNow
    case butNotRest =>
      intro left tokens clean
      unfold readButNotRest
      split
      · exact (reads.part clean.behind).bind fun _ _ cleanNow => reads.butNotRest _ cleanNow
      · exact clean
    case part => exact fun clean => reads.part_succ clean
    case bracketed => exact fun confinement _ clean => reads.bracketed_succ confinement clean

/-- Reading the text of a pattern names no missing value: it starts clean and every reader keeps it
so. -/
theorem parse_silent (columns : List String) (text : String) :
    IsSilent name (Pattern.parse columns text) := by
  unfold Pattern.parse
  simp only
  split
  · split
    · trivial
    · rfl
  · refine ((reads_patterns columns _).either (tokenize_is_clean _ _)).bind fun read _ clean => ?_
    split
    · trivial
    · exact refuse_ends clean

end FullText

namespace Engine

open Sql

variable {name : String}

/-! ### Answering queries -/

/-- What a query asks of a full-text table is told without naming a missing value. -/
theorem asked_of_silent (query : Select Stored) (source : Source) (table : FullTextTable) :
    IsSilent name (askedOf query source table) := by
  refine Ends.foldl_m trivial fun asked pattern _ _ => ?_
  refine (FullText.parse_silent _ _).bind fun _ _ _ => ?_
  simp only
  split <;> trivial

/-- The rows of a source are found without naming a missing value. -/
theorem bindings_silent (database : Database) (query : Select Stored) (source : Source) :
    IsSilent name (bindings database query source) := by
  unfold bindings
  split
  · trivial
  · split
    · exact (asked_of_silent query source _).bind fun _ _ _ => trivial
    · rfl

/-- The scopes of a query are found without naming a missing value. -/
theorem scopes_silent (database : Database) (query : Select Stored) :
    IsSilent name (scopes database query) := by
  have joined : ∀ first, IsSilent name (query.joins.foldlM (fun scopes join => do
      return joinScopes join.conditions scopes (← bindings database query join.source)) first) :=
    fun first => Ends.foldl_m trivial fun _ join _ _ =>
      (bindings_silent database query join.source).bind fun _ _ _ => trivial
  unfold scopes
  split
  · exact (joined _).bind fun _ _ _ => trivial
  · exact (bindings_silent database query _).bind fun _ _ _ => (joined _).bind fun _ _ _ => trivial

/-- A bound of the number of rows is taken or refused silently. -/
theorem bound_silent (expression : Expression Stored) : IsSilent name (bound expression) := by
  unfold bound
  split
  · trivial
  · rfl

/-- No query fails because a value is missing in a table. -/
theorem select_silent (database : Database) (query : Select Stored) :
    IsSilent name (select database query) := by
  unfold select
  refine (scopes_silent database _).bind fun _ _ _ => ?_
  refine (Ends.option_map_m bound_silent).bind fun _ _ _ => ?_
  exact (Ends.option_map_m bound_silent).bind fun _ _ _ => trivial

/-! ### Checking names -/

/-- The names of a source are found without naming a missing value. -/
theorem source_names_silent (database : Database) (source : Source) :
    IsSilent name (sourceNames database source) := by
  unfold sourceNames
  split
  · trivial
  · split
    · trivial
    · rfl

/-- Checking a name of a column names no missing value. -/
theorem check_column_silent (scope : Scope) (source : Option String) (column : String) :
    IsSilent name (checkColumn scope source column) := by
  unfold checkColumn
  simp only
  split
  · rfl
  · split
    · trivial
    · rfl

/-- Checking an expression names no missing value, by induction on the expression. -/
theorem check_expression_silent (scope : Scope) (inGroup : Bool) (expression : Expression Stored) :
    IsSilent name (checkExpression scope inGroup expression) := by
  induction expression generalizing inGroup with
  | operand | number => trivial
  | column source column => exact check_column_silent scope source column
  | unary _ _ inner => exact inner inGroup
  | binary _ _ _ left right =>
    unfold checkExpression
    exact (left inGroup).bind fun _ _ _ => right inGroup
  | oneOf _ _ _ target => exact target inGroup
  | grouped _ inner => exact inner inGroup
  | matching source column _ =>
    unfold checkExpression
    refine (check_column_silent scope source column).bind fun _ _ _ => ?_
    split
    · rfl
    · trivial
  | countRows => exact Ends.guard rfl
  | aggregate _ _ _ argument =>
    unfold checkExpression
    split
    · rfl
    · exact argument false

/-- Checking that no match stands inside an expression names no missing value. -/
theorem check_no_match_silent (expression : Expression Stored) :
    IsSilent name (checkCondition.checkNoMatch expression) := by
  induction expression with
  | unary _ _ inner => exact inner
  | binary _ _ _ left right =>
    unfold checkCondition.checkNoMatch
    exact left.bind fun _ _ _ => right
  | grouped _ inner => exact inner
  | matching => rfl
  | _ => trivial

/-- Checking a condition names no missing value. -/
theorem check_condition_silent (scope : Scope) (condition : Expression Stored) :
    IsSilent name (checkCondition scope condition) := by
  unfold checkCondition
  refine (check_expression_silent scope false condition).bind fun _ _ _ => ?_
  refine Ends.for_m fun part _ => ?_
  split
  · trivial
  · exact check_no_match_silent part

/-- Checking all conditions of a statement names no missing value. -/
theorem check_conditions_silent (scope : Scope) (conditions : Option (List (Expression Stored))) :
    IsSilent name (checkConditions scope conditions) :=
  Ends.for_m fun condition _ => check_condition_silent scope condition

/-- Checking a result column names no missing value. -/
theorem check_result_column_silent (scope : Scope) (column : ResultColumn Stored) :
    IsSilent name (checkResultColumn scope column) := by
  unfold checkResultColumn
  split
  · split
    · rfl
    · trivial
  · exact .guard rfl
  · exact check_expression_silent scope true _

/-- Checking a query names no missing value. -/
theorem check_select_silent (database : Database) (query : Select Stored) :
    IsSilent name (checkSelect database query) := by
  unfold checkSelect
  refine (Ends.map_m (source_names_silent database)).bind fun scope _ _ => ?_
  refine (Ends.for_m fun column _ => check_result_column_silent scope column).bind fun _ _ _ => ?_
  refine (Ends.for_m fun join _ => check_conditions_silent scope join.conditions).bind fun _ _ _ =>
    ?_
  refine (check_conditions_silent scope query.conditions).bind fun _ _ _ => ?_
  refine (Ends.for_m fun key _ => check_expression_silent scope true key.expression).bind
    fun _ _ _ => ?_
  refine (Ends.for_m fun key _ => check_expression_silent scope false key).bind fun _ _ _ => ?_
  cases (resolved database query).having with
  | none => trivial
  | some condition => exact check_expression_silent scope true condition

/-- The names of the table that a change is about are found without naming a missing value. -/
theorem changed_names_silent (database : Database) (table : String) :
    IsSilent name (changedNames database table) := by
  unfold changedNames
  split
  · trivial
  · split
    · trivial
    · split
      · rfl
      · rfl

/-- Checking an insertion names no missing value. Proof: which columns are named, if any, decides
only how many values are needed. -/
theorem check_insert_silent (database : Database) (outer : Scope) (insertion : Insert Stored) :
    IsSilent name (checkInsert database outer insertion) := by
  unfold checkInsert
  refine (changed_names_silent database _).bind fun table _ _ => ?_
  simp only
  split
  case' h_1 =>
    refine (Ends.for_m fun column _ => Ends.guard rfl).bind fun _ _ _ => ?_
  all_goals
    split
    · trivial
    · split
      · rfl
      · refine (Ends.for_m fun row _ => Ends.for_m fun expression _ =>
          check_expression_silent outer false expression).bind fun _ _ _ => ?_
        split <;> exact .guard rfl
    · refine (check_select_silent database _).bind fun _ _ _ => ?_
      split <;> exact .guard rfl

/-- Checking a change names no missing value, whatever kind of change it is. -/
theorem check_change_silent (database : Database) (outer : Scope) (change : Change Stored) :
    IsSilent name (checkChange database outer change) := by
  cases change with
  | insert insertion => exact check_insert_silent database outer insertion
  | update modification =>
    refine (changed_names_silent database _).bind fun table _ _ => ?_
    refine Ends.bind (Ends.for_m fun assignment _ => ?_) fun _ _ _ =>
      check_conditions_silent _ modification.conditions
    simp only
    split
    · rfl
    · exact check_expression_silent _ false assignment.2
  | delete deletion =>
    exact (changed_names_silent database _).bind fun table _ _ =>
      check_conditions_silent _ deletion.conditions

/-- Checking the triggers that a change fires names no missing value. -/
theorem check_triggers_silent (database : Database) (change : Change Stored) :
    IsSilent name (checkTriggers database change) := by
  exact Ends.for_m fun trigger _ => Ends.for_m fun step _ => Ends.guard rfl

end Engine

end RecordStore
