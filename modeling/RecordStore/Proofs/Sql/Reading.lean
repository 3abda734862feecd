import RecordStore.Proofs.Sql.Spelling

/-!
# Reading expressions back

An expression that was spelled is read as the same expression, with a parameter in the place of
each operand. What stands behind it must not go on with it: no operation that binds tight enough,
and nothing that would make a call or a qualified name of its last name.
-/

namespace RecordStore.Sql

open RecordStore.Sql.Parser Token

variable {Operand : Type}

/-! ### Parameters in the place of operands -/

/-- Items as they are read one after the other; each has so many operands. -/
def placeItems {α β : Type} (value : Nat → α → β) (width : α → Nat) : Nat → List α → List β
  | _, [] => []
  | before, first :: rest =>
    value before first :: placeItems value width (before + width first) rest

/-- Parameters at the places behind those before, one for each operand. -/
def placesFrom (before : Nat) (operands : List Operand) : List Term :=
  placeItems (fun before _ => .parameter (before + 1)) (fun _ => 1) before operands

/-- An expression with a parameter for each operand, when so many parameters come before it. -/
def Expression.placed : Expression Operand → Nat → Expression Term
  | .operand _, before => .operand (.parameter (before + 1))
  | .number value, _ => .number value
  | .column source name, _ => .column source name
  | .unary operator inner, before => .unary operator (inner.placed before)
  | .binary operator left right, before =>
    .binary operator (left.placed before) (right.placed (before + left.operands.length))
  | .oneOf negated target candidates, before =>
    .oneOf negated (target.placed before)
      (placesFrom (before + target.operands.length) candidates)
  | .grouped inner, before => .grouped (inner.placed before)
  | .matching source name _, before => .matching source name (.parameter (before + 1))
  | .countRows, _ => .countRows
  | .aggregate function distinct argument, before =>
    .aggregate function distinct (argument.placed before)

/-! ### Tokens that are looked at -/

section Tokens

variable {gap written other : String} {place : Nat} {token : Token} {rest : List Token}

/-- A word is a keyword exactly if it is that in upper case. -/
@[simp] theorem is_word_word : isWord (word gap written) other = (upper written == other) := rfl

/-- A sign is no keyword. -/
@[simp] theorem is_word_sign : isWord (sign gap written) other = false := rfl

/-- A question mark is no keyword. -/
@[simp] theorem is_word_mark : isWord (mark gap place) other = false := rfl

/-- A word is no sign. -/
@[simp] theorem is_sign_word : isSign (word gap written) other = false := rfl

/-- A sign is one exactly if it is written so. -/
@[simp] theorem is_sign_sign : isSign (sign gap written) other = (written == other) := rfl

/-- A question mark is none of the signs. -/
@[simp] theorem is_sign_mark : isSign (mark gap place) other = false := rfl

/-- Tokens start with a keyword exactly if the first one is the keyword. -/
@[simp] theorem starts_word_cons : startsWord other (token :: rest) = isWord token other := rfl

/-- Tokens start with a sign exactly if the first one is the sign. -/
@[simp] theorem starts_sign_cons : startsSign other (token :: rest) = isSign token other := rfl

/-- Keywords that stand in the texts of queries. -/
def keywords : List String :=
  ["SELECT", "FROM", "INNER", "JOIN", "ON", "WHERE", "ORDER", "BY", "ASC", "DESC", "LIMIT",
   "OFFSET", "AND", "IS", "NOT", "NULL", "IN", "MATCH", "COUNT"]

/-- Keywords are written in capitals. -/
theorem upper_keyword {keyword : String} (member : keyword ∈ keywords) :
    upper keyword = keyword := by
  have all : ∀ keyword ∈ keywords, upper keyword = keyword := by decide +kernel
  exact all keyword member

/-- A name is none of the words that are never names. -/
theorem IsName.upper_ne {name keyword : String} (named : IsName name)
    (member : keyword ∈ neverNames) : upper name ≠ keyword := by
  rintro rfl
  have never : neverNames.contains (upper name) = true := List.contains_iff_mem.mpr member
  rw [named.2] at never
  cases never

/-- A name is no term. -/
theorem IsName.term?_word {name : String} (named : IsName name) : term? (word gap name) = none := by
  have notNull : (upper name == "NULL") = false :=
    beq_eq_false_iff_ne.mpr (named.upper_ne (by decide))
  change ((if upper name == "NULL" then some Stored.null else none).map Term.constant) = none
  rw [notNull]
  rfl

/-- A name is read as itself. -/
theorem IsName.name_of?_word {name : String} (named : IsName name) :
    nameOf? (word gap name) = some name := by
  change (if neverNames.contains (upper name) then none else some name) = some name
  rw [named.2]
  rfl

end Tokens

/-! ### Where an expression ends -/

/-- Words that continue an expression, apart from operations between two expressions. -/
def trailingWords : List String := ["ISNULL", "NOTNULL", "IN", "BETWEEN", "MATCH", "NOT"]

/-- What does not go on with an expression that is read at a level. -/
structure Stops (level : Nat) (rest : List Token) : Prop where
  infixes : ∀ found ∈ infix? rest, found.level < level
  trailing : infix? rest = none → level ≤ 4 → ∀ word ∈ trailingWords, startsWord word rest = false
  noCall : startsSign "(" rest = false
  noPoint : startsSign "." rest = false

namespace Stops

variable {level higher : Nat} {rest : List Token}

/-- What does not go on with an expression at a level does not at a higher one. -/
theorem mono (stops : Stops level rest) (le : level ≤ higher) : Stops higher rest where
  infixes found member := Nat.lt_of_lt_of_le (stops.infixes found member) le
  trailing none low := stops.trailing none (Nat.le_trans le low)
  noCall := stops.noCall
  noPoint := stops.noPoint

/-- Where nothing is left no expression goes on. -/
theorem nil : Stops level [] where
  infixes found member := by cases member
  trailing _ _ _ _ := rfl
  noCall := rfl
  noPoint := rfl

/-- A closing bracket and a comma end every expression. -/
theorem sign {gap written : String} (closes : written = ")" ∨ written = ",") :
    Stops level (sign gap written :: rest) where
  infixes found member := by rcases closes with rfl | rfl <;> cases member
  trailing _ _ _ _ := rfl
  noCall := by rcases closes with rfl | rfl <;> rfl
  noPoint := by rcases closes with rfl | rfl <;> rfl

/-- Keywords that end every expression. -/
def closers : List String :=
  ["FROM", "INNER", "ON", "WHERE", "ORDER", "ASC", "DESC", "LIMIT", "OFFSET"]

/-- A keyword that closes expressions does not go on with one. -/
theorem word {gap keyword : String} (closes : keyword ∈ closers) :
    Stops level (word gap keyword :: rest) := by
  have upperCase : upper keyword = keyword := by
    refine upper_keyword ?_
    simp only [closers, List.mem_cons, List.not_mem_nil, or_false] at closes
    rcases closes with rfl | rfl | rfl | rfl | rfl | rfl | rfl | rfl | rfl <;> decide
  have noInfix : infix? (Token.word gap keyword :: rest) = none := by
    simp only [closers, List.mem_cons, List.not_mem_nil, or_false] at closes
    rcases closes with rfl | rfl | rfl | rfl | rfl | rfl | rfl | rfl | rfl <;>
      simp [infix?, Token.word, upperCase]
  refine ⟨fun found member => ?_, fun _ _ other among => ?_, rfl, rfl⟩
  · rw [noInfix] at member
    cases member
  · simp only [starts_word_cons, is_word_word, upperCase, beq_eq_false_iff_ne]
    rintro rfl
    simp only [closers, List.mem_cons, List.not_mem_nil, or_false] at closes
    rcases closes with rfl | rfl | rfl | rfl | rfl | rfl | rfl | rfl | rfl <;>
      exact absurd among (by decide)

/-- Reading goes no further where it stops. -/
theorem continued (stops : Stops level rest) (fuel : Nat) (left : Expression Term) :
    continued (fuel + 1) level left rest = .ok (left, rest) := by
  rw [Parser.continued.eq_def]
  dsimp only
  cases next : infix? rest with
  | some found => simp [stops.infixes found next]
  | none =>
    by_cases high : 4 < level
    · simp [high]
    · simp only [high, if_false]
      cases rest with
      | nil => rfl
      | cons token others =>
        have none : ∀ word ∈ trailingWords, isWord token word = false :=
          stops.trailing next (Nat.le_of_not_lt high)
        simp [none _ (by decide : "ISNULL" ∈ trailingWords),
          none _ (by decide : "NOTNULL" ∈ trailingWords), none _ (by decide : "IN" ∈ trailingWords),
          none _ (by decide : "BETWEEN" ∈ trailingWords),
          none _ (by decide : "MATCH" ∈ trailingWords), none _ (by decide : "NOT" ∈ trailingWords)]

end Stops

/-! ### Steps of reading -/

section Steps

variable {fuel level : Nat} {gap : String} {left : Expression Term}
  {tokens rest behind : List Token}

/-- An operation that binds tight enough takes its right side. -/
theorem continued_infix {found : Infix} {right : Expression Term}
    (next : infix? tokens = some found) (tight : level ≤ found.level)
    (read : expression fuel (found.level + 1) (tokens.drop found.width) = .ok (right, rest)) :
    continued (fuel + 1) level left tokens =
      continued fuel level (combine found.operator left right) rest := by
  rw [Parser.continued.eq_def]
  simp only [next, Nat.not_lt.mpr tight, if_false, read]
  rfl

/-- The token of an operation is read as the operation. -/
theorem infix?_token {operator : BinaryOperator} {own : Nat}
    (bound : Expression.binds operator = some own) :
    infix? (operator.token :: rest) = some ⟨own, 1, operator⟩ := by
  have upperCase : upper "AND" = "AND" := upper_keyword (by decide)
  cases operator <;> first
    | (cases bound; done)
    | (cases bound
       simp [infix?, BinaryOperator.token, BinaryOperator.symbol, sign, word, signOperators,
         upperCase])

/-- A question mark is read as its parameter. -/
theorem operand_mark {place : Nat} :
    operand (fuel + 1) (mark gap place :: rest) = .ok (.operand (.parameter place), rest) := by
  rw [Parser.operand.eq_def]
  simp only [is_word_mark, is_sign_mark, Bool.false_and, Bool.false_eq_true, if_false]
  rfl

/-- A column ends where no call and no further name follows. -/
theorem operand_column {source : Option String} {name : String} (named : AreNames source name)
    (noCall : startsSign "(" rest = false) (noPoint : startsSign "." rest = false) :
    operand (fuel + 1) (spellColumn gap source name ++ rest) =
      .ok (.column source name, rest) := by
  have plain : ∀ {given : String} {tail : List Token}, IsName given →
      startsSign "(" tail = false →
      operand (fuel + 1) (word gap given :: tail) = column given tail := by
    intro given tail known noBracket
    have noNot : (upper given == "NOT") = false :=
      beq_eq_false_iff_ne.mpr (known.upper_ne (by decide))
    rw [Parser.operand.eq_def]
    simp only [is_word_word, is_sign_word, noNot, noBracket, Bool.and_false, Bool.false_eq_true,
      if_false, known.term?_word, known.name_of?_word]
    rfl
  cases source with
  | none =>
    have read := plain named.2 noCall
    simp only [spellColumn, List.singleton_append, read, column, noPoint]
    rfl
  | some given =>
    have read := plain (named.1 given rfl)
      (show startsSign "(" (sign "" "." :: word "" name :: rest) = false by rfl)
    have point : startsSign "." (sign "" "." :: word "" name :: rest) = true := by rfl
    simp only [spellColumn, List.cons_append, List.nil_append, read, column, point, if_true,
      List.drop_succ_cons, List.drop_zero, takeName, named.2.name_of?_word]
    rfl

/-- An expression between brackets is read as a group. -/
theorem operand_grouped {inner : Expression Term}
    (read : expression fuel 0 tokens = .ok (inner, sign "" ")" :: rest)) :
    operand (fuel + 1) (sign gap "(" :: tokens) = .ok (.grouped inner, rest) := by
  rw [Parser.operand.eq_def]
  simp only [is_word_sign, is_sign_sign, Bool.false_and, Bool.false_eq_true, if_false]
  simp [read, takeSign]
  rfl

/-- The number of rows looks like a call. -/
theorem operand_count_rows :
    operand (fuel + 2) (word gap "COUNT" :: sign "" "(" :: sign "" "*" :: sign "" ")" :: rest) =
      .ok (.countRows, rest) := by
  have upperCase : upper "COUNT" = "COUNT" := upper_keyword (by decide)
  have named : IsName "COUNT" := ⟨by decide, by decide +kernel⟩
  have noNot : (upper "COUNT" == "NOT") = false := by rw [upperCase]; rfl
  have noCast : (upper "COUNT" == "CAST") = false := by rw [upperCase]; rfl
  rw [Parser.operand.eq_def]
  simp only [is_word_word, is_sign_word, noNot, noCast, Bool.false_and,
    Bool.false_eq_true, if_false, named.term?_word, named.name_of?_word]
  change call (fuel + 1) "COUNT" (sign "" "*" :: sign "" ")" :: rest) = _
  rw [Parser.call.eq_def]
  simp [takeSign, upperCase]

/-- Items with commas between them are read as long as no comma follows. -/
theorem comma_separated_spell_items {α β : Type} {spell : String → Nat → α → List Token}
    {width : α → Nat} {reader : Reader β} {value : Nat → α → β} {items : List α}
    (each : ∀ item ∈ items, ∀ gap before behind,
      (behind = rest ∨ ∃ more, behind = sign "" "," :: more) →
      reader (spell gap before item ++ behind) = .ok (value before item, behind))
    (noComma : startsSign "," rest = false) (nonempty : items ≠ [])
    (enough : items.length ≤ fuel) (gap : String) (before : Nat) :
    commaSeparated reader fuel (spellItems spell width gap before items ++ rest) =
      .ok (placeItems value width before items, rest) := by
  induction items generalizing fuel gap before with
  | nil => exact absurd rfl nonempty
  | cons first others inductionHypothesis =>
    cases fuel with
    | zero => cases enough
    | succ fuel =>
      rw [commaSeparated]
      cases others with
      | nil =>
        have read := each first List.mem_cons_self gap before rest (.inl rfl)
        simp only [spellItems, read, bind, Except.bind, noComma]
        rfl
      | cons second others =>
        have later := inductionHypothesis
          (fun item member => each item (List.mem_cons_of_mem first member))
          (List.cons_ne_nil second others) (by simpa using enough) " " (before + width first)
        have read := each first List.mem_cons_self gap before _
          (.inr ⟨spellItems spell width " " (before + width first) (second :: others) ++ rest, rfl⟩)
        simp only [spellItems, List.append_assoc, List.cons_append, read]
        change (commaSeparated reader fuel (spellItems spell width " " (before + width first)
          (second :: others) ++ rest) >>= fun read =>
            pure (value before first :: read.1, read.2)) = _
        rw [later]
        rfl

/-- There are no more items than tokens, if each item has a token. -/
theorem length_le_spell_items {α : Type} {spell : String → Nat → α → List Token} {width : α → Nat}
    {items : List α} {gap : String} {before : Nat}
    (each : ∀ item ∈ items, ∀ gap before, 0 < (spell gap before item).length) :
    items.length ≤ (spellItems spell width gap before items).length := by
  induction items generalizing gap before with
  | nil => exact Nat.zero_le _
  | cons first others inductionHypothesis =>
    have head := each first List.mem_cons_self gap before
    cases others with
    | nil => exact head
    | cons second others =>
      have later : (second :: others).length ≤
          (spellItems spell width " " (before + width first) (second :: others)).length :=
        inductionHypothesis fun item member => each item (List.mem_cons_of_mem first member)
      simp only [spellItems, List.length_append, List.length_cons] at later ⊢
      omega

/-- The candidates of a membership. -/
theorem candidates_spell_items {Operand : Type} {items : List Operand} {before : Nat}
    (nonempty : items ≠ []) (enough : items.length ≤ fuel) :
    candidates fuel (sign " " "(" ::
      (spellItems (fun gap before _ => [mark gap (before + 1)]) (fun _ => 1) "" before items ++
        sign "" ")" :: rest)) = .ok (placesFrom before items, rest) := by
  have read : commaSeparated takeTerm fuel
      (spellItems (fun gap before (_ : Operand) => [mark gap (before + 1)]) (fun _ => 1) "" before
        items ++ sign "" ")" :: rest) = .ok (placesFrom before items, sign "" ")" :: rest) :=
    comma_separated_spell_items (fun _ _ _ _ _ _ => rfl) rfl nonempty enough "" before
  have some_candidate : startsSign ")"
      (spellItems (fun gap before (_ : Operand) => [mark gap (before + 1)]) (fun _ => 1) "" before
        items ++ sign "" ")" :: rest) = false := by
    cases items with
    | nil => exact absurd rfl nonempty
    | cons first others => cases others <;> rfl
  unfold candidates
  simp only [takeSign, is_sign_sign, BEq.rfl, if_true]
  change (if startsSign ")" _ = true then _ else _) = _
  rw [some_candidate, read]
  rfl

end Steps

/-! ### Reading what was spelled -/

section Trailing

variable {fuel level : Nat} {left : Expression Term} {rest : List Token}

/-- `IS NULL` is read as a comparison with one word behind it. -/
theorem infix?_is_null :
    infix? (word " " "IS" :: word " " "NULL" :: rest) = some ⟨4, 1, .is⟩ := by
  have upperIs : upper "IS" = "IS" := upper_keyword (by decide)
  have upperNull : upper "NULL" = "NULL" := upper_keyword (by decide)
  simp [infix?, word, startsWord, isWord, upperIs, upperNull]

/-- `IS NOT NULL` is read as one with two words. -/
theorem infix?_is_not_null :
    infix? (word " " "IS" :: word " " "NOT" :: word " " "NULL" :: rest) =
      some ⟨4, 2, .isNot⟩ := by
  have upperIs : upper "IS" = "IS" := upper_keyword (by decide)
  have upperNot : upper "NOT" = "NOT" := upper_keyword (by decide)
  simp [infix?, word, startsWord, isWord, upperIs, upperNot]

/-- Memberships and matches are no operations between two expressions. -/
theorem infix?_trailing {keyword : String} (known : keyword = "IN" ∨ keyword = "MATCH") :
    infix? (word " " keyword :: rest) = none := by
  have upperCase : upper keyword = keyword := by
    rcases known with rfl | rfl <;> exact upper_keyword (by decide)
  rcases known with rfl | rfl <;> simp [infix?, word, upperCase]

/-- The right side of a question for null. -/
theorem expression_null (stops : Stops 5 rest) (enough : 2 ≤ fuel) :
    expression fuel 5 (word " " "NULL" :: rest) = .ok (.operand (.constant .null), rest) := by
  obtain ⟨fuel, rfl⟩ := Nat.exists_eq_add_of_le' enough
  have upperCase : upper "NULL" = "NULL" := upper_keyword (by decide)
  have read : operand (fuel + 1) (word " " "NULL" :: rest) =
      .ok (.operand (.constant .null), rest) := by
    rw [Parser.operand.eq_def]
    simp [upperCase, term?, constant?, word, isWord, isSign, ofTerm]
  rw [Parser.expression, read]
  exact stops.continued fuel _

/-- Behind `IS NULL` the question for null is what goes on. -/
theorem continued_is_null (low : level ≤ 4) (stops : Stops 5 rest) (enough : 2 ≤ fuel) :
    continued (fuel + 1) level left (word " " "IS" :: word " " "NULL" :: rest) =
      continued fuel level (.unary .isNull left) rest :=
  continued_infix infix?_is_null low (expression_null stops enough)

/-- Behind `IS NOT NULL` it is the question for anything else. -/
theorem continued_is_not_null (low : level ≤ 4) (stops : Stops 5 rest) (enough : 2 ≤ fuel) :
    continued (fuel + 1) level left (word " " "IS" :: word " " "NOT" :: word " " "NULL" :: rest) =
      continued fuel level (.unary .isNotNull left) rest :=
  continued_infix infix?_is_not_null low (expression_null stops enough)

/-- Behind `IN` and its candidates the choice among them is what goes on. -/
theorem continued_one_of {tokens : List Token} {terms : List Term} (low : level ≤ 4)
    (read : candidates fuel tokens = .ok (terms, rest)) :
    continued (fuel + 1) level left (word " " "IN" :: tokens) =
      continued fuel level (.oneOf false left terms) rest := by
  have upperCase : upper "IN" = "IN" := upper_keyword (by decide)
  rw [Parser.continued.eq_def]
  simp only [infix?_trailing (.inl rfl), Nat.not_lt.mpr low, if_false]
  simp [upperCase, read]
  rfl

/-- Behind `MATCH` and a parameter the match is what goes on. -/
theorem continued_matching {source : Option String} {name : String} {place : Nat}
    (low : level ≤ 4) :
    continued (fuel + 1) level (.column source name) (word " " "MATCH" :: mark " " place :: rest) =
      continued fuel level (.matching source name (.parameter place)) rest := by
  have upperCase : upper "MATCH" = "MATCH" := upper_keyword (by decide)
  rw [Parser.continued.eq_def]
  simp only [infix?_trailing (.inr rfl), Nat.not_lt.mpr low, if_false]
  simp [upperCase, takeTerm, term?, mark]
  rfl

/-- An operand is followed by what continues it. -/
theorem expression_operand {tokens : List Token} {value : Expression Term}
    (read : operand fuel tokens = .ok (value, rest)) :
    expression (fuel + 1) level tokens = continued fuel level value rest := by
  rw [Parser.expression, read]
  rfl

end Trailing

/-- Nothing goes on with a side of an operation but the operation itself. -/
theorem Stops.operator {level own : Nat} {operator : BinaryOperator} {rest : List Token}
    (bound : Expression.binds operator = some own) (below : own < level) :
    Stops level (operator.token :: rest) where
  infixes found member := by
    rw [infix?_token bound] at member
    cases member
    exact below
  trailing none := by
    rw [infix?_token bound] at none
    cases none
  noCall := by cases operator <;> first | (cases bound; done) | rfl
  noPoint := by cases operator <;> first | (cases bound; done) | rfl

/-- Behind a tight operation no word is looked for that is no operation between two
expressions, and looser operations wait. -/
theorem Stops.tight {gap keyword : String} {rest : List Token}
    (loose : ∀ found ∈ infix? (Token.word gap keyword :: rest), found.level < 5) :
    Stops 5 (Token.word gap keyword :: rest) where
  infixes := loose
  trailing _ low := absurd low (by decide)
  noCall := rfl
  noPoint := rfl

namespace Expression

/-- An expression is read at a level: what was spelled for it is read with a parameter for each
operand, whatever stands in front of it, and reading goes on behind it. Each token takes one count
of fuel at most. -/
def IsRead (level : Nat) (expression : Expression Operand) : Prop :=
  ∀ (gap : String) (before : Nat) {least : Nat} (fuel : Nat) {rest : List Token}, least ≤ level →
    Stops (level + 1) rest → (expression.spell gap before).length < fuel →
    ∃ left, fuel ≤ left + (expression.spell gap before).length ∧
      Parser.expression fuel least (expression.spell gap before ++ rest) =
        continued left least (expression.placed before) rest

/-- The spelling of a column has a token. -/
theorem length_spell_column_pos (gap : String) (source : Option String) (name : String) :
    0 < (spellColumn gap source name).length := by
  cases source <;> simp [spellColumn]

/-- An operand is read as the next parameter. -/
theorem operand_is_read (level : Nat) (value : Operand) :
    IsRead level (.operand value : Expression Operand) := by
  intro gap before least fuel rest tight stops enough
  obtain ⟨fuel, rfl⟩ : ∃ less, fuel = less + 2 := Nat.exists_eq_add_of_le' enough
  exact ⟨fuel + 1, Nat.le_refl _, expression_operand operand_mark⟩

/-- A column is read by its name, and by that of its source where one is given. -/
theorem column_is_read (level : Nat) {source : Option String} {name : String}
    (named : AreNames source name) : IsRead level (.column source name : Expression Operand) := by
  intro gap before least fuel rest tight stops enough
  have some_token := length_spell_column_pos gap source name
  simp only [spell] at enough ⊢
  obtain ⟨fuel, rfl⟩ : ∃ less, fuel = less + 2 := Nat.exists_eq_add_of_le' (by omega)
  exact ⟨fuel + 1, by omega,
    expression_operand (operand_column named stops.noCall stops.noPoint)⟩

/-- The count of all rows is read as it is. -/
theorem count_rows_is_read (level : Nat) : IsRead level (.countRows : Expression Operand) := by
  intro gap before least fuel rest tight stops enough
  simp only [spell, List.length_cons, List.length_nil] at enough ⊢
  obtain ⟨fuel, rfl⟩ : ∃ less, fuel = less + 3 := Nat.exists_eq_add_of_le' (by omega)
  exact ⟨fuel + 2, by omega, expression_operand operand_count_rows⟩

/-- What stands behind a tight expression is read behind it: reading goes on with its tokens and
takes them in one step. -/
theorem IsRead.behind {level : Nat} {inner outer : Expression Operand} (read : IsRead 4 inner)
    (loose : level ≤ 4) (tokens : Nat → List Token)
    (spelled : ∀ gap before, outer.spell gap before = inner.spell gap before ++ tokens before)
    (some_token : ∀ before, 0 < (tokens before).length)
    (opens : ∀ before rest, Stops 5 (tokens before ++ rest))
    (step : ∀ before {least fuel : Nat} {rest : List Token}, least ≤ 4 → Stops 5 rest →
      (tokens before).length ≤ fuel →
      continued (fuel + 1) least (inner.placed before) (tokens before ++ rest) =
        continued fuel least (outer.placed before) rest) : IsRead level outer := by
  intro gap before least fuel rest tight stops enough
  have low := Nat.le_trans tight loose
  have tokensLeft := some_token before
  rw [spelled, List.length_append] at enough ⊢
  obtain ⟨left, fuelLeft, readInner⟩ := read gap before fuel low (opens before rest) (by omega)
  obtain ⟨left, rfl⟩ : ∃ less, left = less + 1 := Nat.exists_eq_add_of_le' (by omega)
  refine ⟨left, by omega, ?_⟩
  rw [List.append_assoc]
  exact readInner.trans (step before low (stops.mono (by omega)) (by omega))

/-- A question for null is read behind the expression that it is about. -/
theorem IsRead.is_null {level : Nat} {inner : Expression Operand} (read : IsRead 4 inner)
    (loose : level ≤ 4) : IsRead level (.unary .isNull inner) :=
  read.behind loose (fun _ => [word " " "IS", word " " "NULL"]) (fun _ _ => rfl)
    (fun _ => Nat.two_pos) (fun _ _ => .tight (by simp [infix?_is_null]))
    fun _ _ _ _ low stops enough => continued_is_null low stops enough

/-- So is a question for anything but null. -/
theorem IsRead.is_not_null {level : Nat} {inner : Expression Operand} (read : IsRead 4 inner)
    (loose : level ≤ 4) : IsRead level (.unary .isNotNull inner) :=
  read.behind loose (fun _ => [word " " "IS", word " " "NOT", word " " "NULL"]) (fun _ _ => rfl)
    (fun _ => Nat.succ_pos 2) (fun _ _ => .tight (by simp [infix?_is_not_null]))
    fun _ _ _ _ low stops enough => continued_is_not_null low stops (by simp at enough; omega)

/-- A membership is read behind its target, with a parameter for each candidate. -/
theorem IsRead.one_of {level : Nat} {target : Expression Operand} {candidates : List Operand}
    (read : IsRead 4 target) (loose : level ≤ 4) (nonempty : candidates ≠ []) :
    IsRead level (.oneOf false target candidates) := by
  refine read.behind loose (fun before => word " " "IN" :: sign " " "(" ::
    (spellItems (fun gap before (_ : Operand) => [mark gap (before + 1)]) (fun _ => 1) ""
      (before + target.operands.length) candidates ++ [sign "" ")"])) (fun _ _ => rfl)
    (fun _ => Nat.succ_pos _) (fun _ _ => .tight (by simp [infix?_trailing])) ?_
  intro before least fuel rest low stops enough
  have listed : candidates.length ≤ (spellItems (fun gap before (_ : Operand) =>
      [mark gap (before + 1)]) (fun _ => 1) "" (before + target.operands.length)
        candidates).length :=
    length_le_spell_items fun _ _ _ _ => Nat.one_pos
  simp only [List.length_append, List.length_cons, List.length_nil] at enough
  simp only [List.append_assoc, List.cons_append, List.nil_append]
  exact continued_one_of low (candidates_spell_items nonempty (by omega))

/-- An operation is read between its sides. The left side is read at the level of the operation and
the right side one level tighter, so that a second operation of the level is left to the loop behind
the first. -/
theorem IsRead.binary {level own : Nat} {operator : BinaryOperator}
    {left right : Expression Operand}
    (bound : binds operator = some own) (loose : level ≤ own) (readLeft : IsRead own left)
    (readRight : IsRead (own + 1) right) : IsRead level (.binary operator left right) := by
  intro gap before least fuel rest tight stops enough
  simp only [spell, List.length_append, List.length_cons] at enough ⊢
  have tightOwn := Nat.le_trans tight loose
  have stopsOwn : Stops (own + 1 + 1) rest := stops.mono (by omega)
  obtain ⟨behindLeft, fuelLeft, leftRead⟩ := readLeft gap before fuel tightOwn
    (.operator bound (Nat.lt_succ_self own)) (by omega)
  obtain ⟨behindLeft, rfl⟩ : ∃ less, behindLeft = less + 1 := Nat.exists_eq_add_of_le' (by omega)
  obtain ⟨behindRight, fuelRight, rightRead⟩ := readRight " "
    (before + left.operands.length) behindLeft (Nat.le_refl _) stopsOwn (by omega)
  obtain ⟨behindRight, rfl⟩ : ∃ less, behindRight = less + 1 :=
    Nat.exists_eq_add_of_le' (by omega)
  rw [Stops.continued (stops.mono (by omega))] at rightRead
  refine ⟨behindLeft, by omega, ?_⟩
  rw [List.append_assoc, List.cons_append, leftRead,
    continued_infix (infix?_token bound) tightOwn rightRead]
  cases operator <;> first | (cases bound; done) | rfl

/-- An expression in brackets is read at the loosest level. -/
theorem IsRead.grouped {inner : Expression Operand} (read : IsRead 0 inner) (level : Nat) :
    IsRead level (.grouped inner) := by
  intro gap before least fuel rest tight stops enough
  simp only [spell, List.length_append, List.length_cons, List.length_nil] at enough ⊢
  obtain ⟨fuel, rfl⟩ : ∃ less, fuel = less + 2 := Nat.exists_eq_add_of_le' (by omega)
  obtain ⟨left, fuelLeft, readInner⟩ := read "" before fuel (Nat.le_refl 0)
    (.sign (.inl rfl) : Stops 1 (sign "" ")" :: rest)) (by omega)
  obtain ⟨left, rfl⟩ : ∃ less, left = less + 1 := Nat.exists_eq_add_of_le' (by omega)
  rw [Stops.continued (.sign (.inl rfl))] at readInner
  refine ⟨fuel + 1, by omega, ?_⟩
  rw [List.cons_append, List.append_assoc]
  exact expression_operand (operand_grouped readInner)

/-- A match is read behind its column, with a parameter for its pattern. -/
theorem matching_is_read {level : Nat} (loose : level ≤ 4) {source : Option String} {name : String}
    (named : AreNames source name) (pattern : Operand) :
    IsRead level (.matching source name pattern) := by
  intro gap before least fuel rest tight stops enough
  have some_token := length_spell_column_pos gap source name
  simp only [spell, List.length_append, List.length_cons, List.length_nil] at enough ⊢
  obtain ⟨fuel, rfl⟩ : ∃ less, fuel = less + 3 := Nat.exists_eq_add_of_le' (by omega)
  refine ⟨fuel + 1, by omega, ?_⟩
  rw [List.append_assoc]
  exact (expression_operand (operand_column named rfl rfl)).trans
    (continued_matching (Nat.le_trans tight loose))

/-- What was spelled is read with a parameter for each operand, and reading goes on behind it. The
induction is on how the expression was written, with one lemma for each way. -/
theorem Written.reads {level : Nat} {expression : Expression Operand}
    (written : Written level expression) : IsRead level expression := by
  induction written with
  | operand value => exact operand_is_read _ value
  | column named => exact column_is_read _ named
  | isNull loose _ read => exact read.is_null loose
  | isNotNull loose _ read => exact read.is_not_null loose
  | binary bound loose _ _ readLeft readRight => exact .binary bound loose readLeft readRight
  | oneOf loose _ nonempty read => exact read.one_of loose nonempty
  | grouped _ read => exact read.grouped _
  | matching loose named pattern => exact matching_is_read loose named pattern
  | countRows => exact count_rows_is_read _

/-- What was spelled is read where it ends. -/
theorem Written.read {level : Nat} {expression : Expression Operand}
    (written : Written level expression) (gap : String) (before : Nat) {least fuel : Nat}
    {rest : List Token} (tight : least ≤ level) (stops : Stops least rest)
    (enough : (expression.spell gap before).length < fuel) :
    Parser.expression fuel least (expression.spell gap before ++ rest) =
      .ok (expression.placed before, rest) := by
  obtain ⟨left, fuelLeft, read⟩ := written.reads gap before fuel tight
    (stops.mono (Nat.le_succ_of_le tight)) enough
  obtain ⟨left, rfl⟩ : ∃ less, left = less + 1 := Nat.exists_eq_add_of_le' (by omega)
  rw [read, stops.continued]

end Expression

end RecordStore.Sql
