import RecordStore.Sql.Syntax
import RecordStore.Sql.Token

/-!
# Reading statements

A statement from its text. Reading stops at the first token with which no statement could go
on, and names it; where the text ends too early it says so. Words are keywords only where a
keyword is expected, except for a list of words that are never names. What follows the
first statement of a text is not looked at.

What is read is the language of `RecordStore.Sql.Syntax`, which has what a record store writes and
what its callers write beside it. The language of the engine goes on from there. Not read are `OR
FAIL` and `OR ROLLBACK` in changes, `ON CONFLICT` and `RETURNING`; `WITH`, `UNION`, `VALUES` as a
query, subqueries, `CASE`, `EXISTS`, windows, outer joins, `COLLATE` and `GLOB`; functions that are
not listed there; indexes, views, `ALTER`, `ATTACH` and `PRAGMA`. A text with one of these is
refused at the token that starts it. A law about every text thus says of such a text only what it
says of one that is refused.
-/

namespace RecordStore.Sql

/-- Where an operand comes from: a parameter, by its place, or the text itself. -/
inductive Term where
  | parameter (place : Nat)
  | constant (value : Stored)
  deriving DecidableEq, Repr

namespace Parser

/-- A step of reading: the tokens that are left. -/
abbrev Reader (α : Type) := List Token → Except Fault (α × List Token)

/-- Refuses the next token. -/
def refuse {α : Type} : List Token → Except Fault α
  | [] => .error .incompleteInput
  | token :: _ =>
    if token.kind == .illegal then .error (.unrecognizedToken token.written)
    else .error (.syntaxError token.written)

/-- Words that are never names. -/
def neverNames : List String :=
  ["ADD", "ALL", "ALTER", "AND", "AS", "AUTOINCREMENT", "BETWEEN", "CASE", "CHECK", "COLLATE",
   "COMMIT", "CONSTRAINT", "CREATE", "DEFAULT", "DEFERRABLE", "DELETE", "DISTINCT", "DROP",
   "ELSE", "ESCAPE", "EXCEPT", "EXISTS", "FOREIGN", "FROM", "GROUP", "HAVING", "IN", "INDEX",
   "INSERT", "INTERSECT", "INTO", "IS", "ISNULL", "JOIN", "LIMIT", "NOT", "NOTHING", "NOTNULL",
   "NULL", "ON", "OR", "ORDER", "PRIMARY", "REFERENCES", "RETURNING", "SELECT", "SET", "TABLE",
   "THEN", "TO", "TRANSACTION", "UNION", "UNIQUE", "UPDATE", "USING", "VALUES", "WHEN", "WHERE"]

/-- Words that start what can follow a table or a column, and are not taken as an alias. -/
def neverAliases : List String := ["LEFT", "INNER", "CROSS", "NATURAL", "RIGHT", "FULL", "OUTER"]

/-- A text in upper case. -/
def upper (text : String) : String := text.map Char.toUpper

/-- Whether a token is a keyword. -/
def isWord (token : Token) (word : String) : Bool :=
  token.kind == .word && upper token.written == word

/-- Whether a token is a sign. -/
def isSign (token : Token) (sign : String) : Bool :=
  token.kind == .sign && token.written == sign

/-- Whether the next token is a keyword. -/
def startsWord (word : String) : List Token → Bool
  | token :: _ => isWord token word
  | [] => false

/-- Whether tokens start with a sign. -/
def startsSign (sign : String) : List Token → Bool
  | token :: _ => isSign token sign
  | [] => false

/-- Takes a keyword. -/
def takeWord (word : String) : Reader Unit
  | token :: rest => if isWord token word then .ok ((), rest) else refuse (token :: rest)
  | [] => refuse []

/-- Takes keywords one after the other. -/
def takeWords : List String → Reader Unit
  | [], tokens => .ok ((), tokens)
  | word :: words, tokens => do
    let (_, rest) ← takeWord word tokens
    takeWords words rest

/-- Takes a sign. -/
def takeSign (sign : String) : Reader Unit
  | token :: rest => if isSign token sign then .ok ((), rest) else refuse (token :: rest)
  | [] => refuse []

/-- Takes a keyword if it comes next. -/
def skipWord (word : String) (tokens : List Token) : Bool × List Token :=
  match tokens with
  | token :: rest => if isWord token word then (true, rest) else (false, tokens)
  | [] => (false, [])

/-- The name that a token is, if it can be one. -/
def nameOf? (token : Token) : Option String :=
  match token.kind with
  | .word => if neverNames.contains (upper token.written) then none else some token.written
  | .name content => some content
  | .text content => some content
  | _ => none

/-- Takes a name. -/
def takeName : Reader String
  | token :: rest =>
    match nameOf? token with
    | some name => .ok (name, rest)
    | none => refuse (token :: rest)
  | [] => refuse []

/-- Passes the word for a transaction and a name behind it. The name means nothing. -/
def skipTransaction (tokens : List Token) : List Token :=
  match skipWord "TRANSACTION" tokens with
  | (true, token :: rest) => if (nameOf? token).isSome then rest else token :: rest
  | (_, rest) => rest

/-- Reads items with commas between them. -/
def commaSeparated {α : Type} (item : Reader α) : Nat → Reader (List α)
  | 0, tokens => refuse tokens
  | fuel + 1, tokens => do
    let (first, rest) ← item tokens
    if startsSign "," rest then
      let (others, rest) ← commaSeparated item fuel (rest.drop 1)
      return (first :: others, rest)
    return ([first], rest)

/-- Reads something between brackets. -/
def bracketed {α : Type} (inner : Reader α) : Reader α := fun tokens => do
  let (_, rest) ← takeSign "(" tokens
  let (read, rest) ← inner rest
  let (_, rest) ← takeSign ")" rest
  return (read, rest)

/-- A function of one value. -/
def unaryFunction? : String → Option UnaryOperator
  | "LENGTH" => some .length
  | "UPPER" => some .upper
  | "LOWER" => some .lower
  | "TYPEOF" => some .typeOf
  | "ABS" => some .absolute
  | "HEX" => some .hexadecimal
  | "QUOTE" => some .quoted
  | "TRIM" => some .trimmed
  | _ => none

/-- A function of two or more values. -/
def binaryFunction? : String → Option BinaryOperator
  | "COALESCE" => some .coalesce
  | "IFNULL" => some .coalesce
  | "NULLIF" => some .nullIf
  | _ => none

/-- The function over rows of a name, if it is one. -/
def aggregate? : String → Option Aggregate
  | "COUNT" => some .count
  | "SUM" => some .sum
  | "TOTAL" => some .total
  | "AVG" => some .average
  | "MIN" => some .least
  | "MAX" => some .greatest
  | _ => none

/-- The conversion to a declared type. -/
def castOf (words : String) : UnaryOperator :=
  let words := upper words
  if words == "TEXT" then .asText
  else if words == "INTEGER" || words == "INT" then .asInteger
  else if words == "REAL" then .asReal
  else if words == "BLOB" then .asBlob
  else .asNumeric

/-- The constant of a literal token. -/
def constant? (token : Token) : Option Stored :=
  match token.kind with
  | .text content => some (.text content)
  | .blob bytes => some (.blob bytes)
  | .decimal => (NumberText.read? token.written.toList).map fun number => .real number.toReal
  | .integer digits =>
    if (digits : Int) ≤ Int64.maxValue.toInt then some (.integer (Int64.ofNat digits))
    else some (.real (Binary64.ofInt digits))
  | .word => if upper token.written == "NULL" then some .null else none
  | _ => none

/-- The operand that a token is, if it is one. -/
def term? (token : Token) : Option Term :=
  match token.kind with
  | .parameter place => some (.parameter place)
  | _ => (constant? token).map .constant

/-- An expression that is a term: a whole number stays part of the statement. -/
def ofTerm : Term → Expression Term
  | .constant (.integer value) => .number value
  | term => .operand term

/-- Takes a term. -/
def takeTerm : Reader Term
  | token :: rest =>
    match term? token with
    | some term => .ok (term, rest)
    | none => refuse (token :: rest)
  | [] => refuse []

/-- An operation between two expressions: how tight it binds, how many tokens it takes and
what it makes of both sides. -/
structure Infix where
  level : Nat
  width : Nat
  operator : BinaryOperator

/-- The operations that are written as signs, with how tight they bind. -/
def signOperators : List (String × Nat × BinaryOperator) :=
  [("=", 4, .equal), ("==", 4, .equal), ("<>", 4, .unequal), ("!=", 4, .unequal),
   ("<", 5, .less), ("<=", 5, .atMost), (">", 5, .greater), (">=", 5, .atLeast),
   ("+", 7, .add), ("-", 7, .subtract), ("*", 8, .multiply), ("/", 8, .divide),
   ("%", 8, .remainder), ("||", 9, .concatenate)]

/-- The operation that stands between two expressions next, if one does. -/
def infix? (tokens : List Token) : Option Infix :=
  match tokens with
  | token :: rest =>
    match token.kind with
    | .sign =>
      (signOperators.find? fun entry => entry.1 == token.written).map fun entry =>
        ⟨entry.2.1, 1, entry.2.2⟩
    | .word =>
      let word := upper token.written
      if word == "OR" then some ⟨1, 1, .or⟩
      else if word == "AND" then some ⟨2, 1, .and⟩
      else if word == "IS" then
        if startsWord "NOT" rest then some ⟨4, 2, .isNot⟩ else some ⟨4, 1, .is⟩
      else if word == "LIKE" then some ⟨4, 1, .like⟩
      else if word == "NOT" && startsWord "LIKE" rest then some ⟨4, 2, .notLike⟩
      else none
    | _ => none
  | [] => none

/-- An `is` with null asks whether there is a value. -/
def combine (operator : BinaryOperator) (left right : Expression Term) : Expression Term :=
  match operator, right with
  | .is, .operand (.constant .null) => .unary .isNull left
  | .isNot, .operand (.constant .null) => .unary .isNotNull left
  | operator, right => .binary operator left right

/-- The candidates of a membership between brackets. -/
def candidates (fuel : Nat) : Reader (List Term) := fun tokens => do
  let (_, rest) ← takeSign "(" tokens
  if startsSign ")" rest then return ([], rest.drop 1)
  let (terms, rest) ← commaSeparated takeTerm fuel rest
  let (_, rest) ← takeSign ")" rest
  return (terms, rest)

/-- The words of a type, and a length in brackets behind them. -/
def typeWords : Nat → List String → Reader (List String)
  | 0, words, tokens => .ok (words, tokens)
  | fuel + 1, words, tokens =>
    match tokens with
    | token :: rest =>
      match token.kind with
      | .illegal => refuse tokens
      | _ =>
        match nameOf? token with
        | some word =>
          if words.isEmpty || !isTypeEnd token then typeWords fuel (words ++ [word]) rest
          else .ok (words, tokens)
        | none => .ok (words, tokens)
    | [] => .ok (words, [])
where
  isTypeEnd (token : Token) : Bool := isWord token "GENERATED"

mutual

/-- Reads an expression whose operations bind at least as tight as a level. -/
def expression : Nat → Nat → Reader (Expression Term)
  | 0, _, tokens => refuse tokens
  | fuel + 1, level, tokens => do
    let (left, rest) ← operand fuel tokens
    continued fuel level left rest

/-- Reads the operations behind a left side. -/
def continued : Nat → Nat → Expression Term → Reader (Expression Term)
  | 0, _, _, tokens => refuse tokens
  | fuel + 1, level, left, tokens =>
    match infix? tokens with
    | some found =>
      if found.level < level then .ok (left, tokens)
      else do
        let (right, rest) ← expression fuel (found.level + 1) (tokens.drop found.width)
        continued fuel level (combine found.operator left right) rest
    | none =>
      if 4 < level then .ok (left, tokens)
      else
        match tokens with
        | token :: rest =>
          if isWord token "ISNULL" then continued fuel level (.unary .isNull left) rest
          else if isWord token "NOTNULL" then continued fuel level (.unary .isNotNull left) rest
          else if isWord token "IN" then do
            let (terms, rest) ← candidates fuel rest
            continued fuel level (.oneOf false left terms) rest
          else if isWord token "BETWEEN" then do
            let (least, rest) ← expression fuel 5 rest
            let (_, rest) ← takeWord "AND" rest
            let (greatest, rest) ← expression fuel 5 rest
            continued fuel level
              (.grouped (.binary .and (.binary .atLeast left least)
                (.binary .atMost left greatest))) rest
          else if isWord token "MATCH" then do
            let (pattern, rest) ← takeTerm rest
            match left with
            | .column source name => continued fuel level (.matching source name pattern) rest
            | _ => .error .matchOutOfPlace
          else if isWord token "NOT" then
            if startsWord "NULL" rest then
              continued fuel level (.unary .isNotNull left) (rest.drop 1)
            else if startsWord "IN" rest then do
              let (terms, rest) ← candidates fuel (rest.drop 1)
              continued fuel level (.oneOf true left terms) rest
            else refuse rest
          else .ok (left, tokens)
        | [] => .ok (left, [])

/-- Reads an expression before the operations behind it. -/
def operand : Nat → Reader (Expression Term)
  | 0, tokens => refuse tokens
  | fuel + 1, tokens =>
    match tokens with
    | [] => refuse []
    | token :: rest =>
      if isWord token "NOT" then do
        let (inner, rest) ← expression fuel 3 rest
        return (.unary .not inner, rest)
      else if isWord token "CAST" && startsSign "(" rest then do
        let (inner, rest) ← expression fuel 0 (rest.drop 1)
        let (_, rest) ← takeWord "AS" rest
        let (words, rest) ← typeWords fuel [] rest
        let (_, rest) ← takeSign ")" rest
        return (.unary (castOf (String.intercalate " " words)) inner, rest)
      else if isSign token "-" then do
        let (inner, rest) ← expression fuel 10 rest
        match inner with
        | .number value => return (.operand (.constant (.integer (-value))), rest)
        | inner => return (.unary .negative inner, rest)
      else if isSign token "+" then do
        let (inner, rest) ← expression fuel 10 rest
        return (.unary .positive inner, rest)
      else if isSign token "(" then do
        let (inner, rest) ← expression fuel 0 rest
        let (_, rest) ← takeSign ")" rest
        return (.grouped inner, rest)
      else
        match token.kind with
        | .name content => column content rest
        | .word =>
          match term? token with
          | some term => .ok (ofTerm term, rest)
          | none =>
            match nameOf? token with
            | none => refuse tokens
            | some name =>
              if startsSign "(" rest then call fuel name (rest.drop 1) else column name rest
        | _ =>
          match term? token with
          | some term => .ok (ofTerm term, rest)
          | none => refuse tokens

/-- Reads the arguments of a function behind its opening bracket. -/
def call : Nat → String → Reader (Expression Term)
  | 0, _, tokens => refuse tokens
  | fuel + 1, name, tokens => do
    if startsSign "*" tokens then
      let (_, rest) ← takeSign ")" (tokens.drop 1)
      if upper name == "COUNT" then return (.countRows, rest)
      else throw (.wrongArgumentCount name)
    let (distinct, tokens) := skipWord "DISTINCT" tokens
    let (arguments, rest) ←
      if startsSign ")" tokens then pure ([], tokens) else argumentList fuel tokens
    let (_, rest) ← takeSign ")" rest
    match aggregate? (upper name), unaryFunction? (upper name), binaryFunction? (upper name) with
    | some function, _, _ =>
      match arguments with
      | [argument] => return (.aggregate function distinct argument, rest)
      | [] =>
        if function == .count then return (.countRows, rest) else throw (.wrongArgumentCount name)
      | _ => throw (.wrongArgumentCount name)
    | none, some operator, _ =>
      match arguments with
      | [argument] => return (.unary operator argument, rest)
      | _ => throw (.wrongArgumentCount name)
    | none, none, some operator =>
      match arguments.reverse with
      | last :: before :: others =>
        return (others.foldl (fun right left => .binary operator left right)
          (.binary operator before last), rest)
      | _ => throw (.wrongArgumentCount name)
    | none, none, none => throw (.noSuchFunction name)

/-- Reads expressions with commas between them. -/
def argumentList : Nat → Reader (List (Expression Term))
  | 0, tokens => refuse tokens
  | fuel + 1, tokens => do
    let (first, rest) ← expression fuel 0 tokens
    if startsSign "," rest then
      let (others, rest) ← argumentList fuel (rest.drop 1)
      return (first :: others, rest)
    return ([first], rest)

/-- Reads what follows a name that is no function: a point and a further name, if they
come. -/
def column (name : String) : Reader (Expression Term)
  | tokens =>
    if startsSign "." tokens then do
      let (column, rest) ← takeName (tokens.drop 1)
      return (.column (some name) column, rest)
    else .ok (.column none name, tokens)

end

/-- The tokens that were taken from a list to leave a rest. -/
def taken (tokens rest : List Token) : List Token := tokens.take (tokens.length - rest.length)

/-- A name behind the keyword for it, or a plain name that can be no keyword here. -/
def newName? (tokens : List Token) : Except Fault (Option String × List Token) :=
  if startsWord "AS" tokens then do
    let (name, rest) ← takeName (tokens.drop 1)
    return (some name, rest)
  else
    match tokens with
    | token :: rest =>
      match nameOf? token with
      | some name =>
        if token.kind == .word && neverAliases.contains (upper name) then .ok (none, tokens)
        else .ok (some name, rest)
      | none => .ok (none, tokens)
    | [] => .ok (none, [])

/-- Reads a result column. -/
def resultColumn (fuel : Nat) : Reader (ResultColumn Term) := fun tokens =>
  if startsSign "*" tokens then .ok (.everything, tokens.drop 1)
  else
    match tokens with
    | first :: second :: third :: rest =>
      if isSign second "." && isSign third "*" && (nameOf? first).isSome then
        .ok (.everythingOf ((nameOf? first).getD ""), rest)
      else computed tokens
    | tokens => computed tokens
where
  computed (tokens : List Token) : Except Fault (ResultColumn Term × List Token) := do
    let (value, rest) ← expression fuel 0 tokens
    let text := textOf (taken tokens rest)
    let (name, rest) ← newName? rest
    return (.computed value name text, rest)

/-- Reads a table of a query. -/
def sourceTable : Reader Source := fun tokens => do
  let (table, rest) ← takeName tokens
  let (name, rest) ← newName? rest
  return (⟨table, name⟩, rest)

/-- Reads a condition behind a keyword, if the keyword comes next. -/
def clause (fuel : Nat) (word : String) :
    Reader (Option (List (Expression Term))) := fun tokens =>
  if startsWord word tokens then do
    let (condition, rest) ← expression fuel 0 (tokens.drop 1)
    return (some [condition], rest)
  else .ok (none, tokens)

/-- How many tokens join a further table, if they do. -/
def joinWidth? (tokens : List Token) : Option Nat :=
  if startsSign "," tokens || startsWord "JOIN" tokens then some 1
  else if (startsWord "INNER" tokens || startsWord "CROSS" tokens) &&
      startsWord "JOIN" (tokens.drop 1) then some 2
  else none

/-- Reads further tables. -/
def joins : Nat → Reader (List (Join Term))
  | 0, tokens => refuse tokens
  | fuel + 1, tokens =>
    match joinWidth? tokens with
    | none => .ok ([], tokens)
    | some width => do
      let (source, rest) ← sourceTable (tokens.drop width)
      let (conditions, rest) ← clause fuel "ON" rest
      let (others, rest) ← joins fuel rest
      return (⟨source, conditions⟩ :: others, rest)

/-- Reads a key of an ordering. -/
def orderKey (fuel : Nat) : Reader (OrderKey Term) := fun tokens => do
  let (value, rest) ← expression fuel 0 tokens
  if startsWord "ASC" rest then return (⟨value, some .ascending⟩, rest.drop 1)
  else if startsWord "DESC" rest then return (⟨value, some .descending⟩, rest.drop 1)
  else return (⟨value, none⟩, rest)

/-- Reads the tables of a query, if there are some. -/
def querySources (fuel : Nat) : Reader (Option Source × List (Join Term)) := fun tokens =>
  if startsWord "FROM" tokens then do
    let (source, rest) ← sourceTable (tokens.drop 1)
    let (further, rest) ← joins fuel rest
    return ((some source, further), rest)
  else .ok ((none, []), tokens)

/-- Reads items behind two keywords, if the first of them comes next. -/
def itemsBy {α : Type} (item : Reader α) (fuel : Nat) (word : String) :
    Reader (List α) := fun tokens =>
  if startsWord word tokens then do
    let (_, rest) ← takeWord "BY" (tokens.drop 1)
    commaSeparated item fuel rest
  else .ok ([], tokens)

/-- Reads the limit and the offset of a query, if there are some. -/
def window (fuel : Nat) :
    Reader (Option (Expression Term) × Option (Expression Term)) := fun tokens =>
  if startsWord "LIMIT" tokens then do
    let (limit, rest) ← expression fuel 0 (tokens.drop 1)
    if startsWord "OFFSET" rest then
      let (offset, rest) ← expression fuel 0 (rest.drop 1)
      return ((some limit, some offset), rest)
    else if startsSign "," rest then
      let (second, rest) ← expression fuel 0 (rest.drop 1)
      return ((some second, some limit), rest)
    else return ((some limit, none), rest)
  else .ok ((none, none), tokens)

/-- Reads a query behind its first keyword. -/
def query (fuel : Nat) : Reader (Select Term) := fun tokens => do
  let (distinct, tokens) := skipWord "DISTINCT" tokens
  let (_, tokens) := skipWord "ALL" tokens
  let (columns, rest) ← commaSeparated (resultColumn fuel) fuel tokens
  let ((source, further), rest) ← querySources fuel rest
  let (conditions, rest) ← clause fuel "WHERE" rest
  let (grouping, rest) ← itemsBy (expression fuel 0) fuel "GROUP" rest
  let (having, rest) ← clause fuel "HAVING" rest
  let (ordering, rest) ← itemsBy (orderKey fuel) fuel "ORDER" rest
  let ((limit, offset), rest) ← window fuel rest
  return ({ distinct, columns, source, joins := further, conditions, grouping,
            having := having.bind List.head?, ordering, limit, offset }, rest)

/-- Reads what is to happen to rows that offend a constraint. -/
def conflict : Reader Conflict := fun tokens =>
  if startsWord "OR" tokens then
    let rest := tokens.drop 1
    if startsWord "REPLACE" rest then .ok (.replace, rest.drop 1)
    else if startsWord "IGNORE" rest then .ok (.ignore, rest.drop 1)
    else if startsWord "ABORT" rest then .ok (.abort, rest.drop 1)
    else refuse rest
  else .ok (.abort, tokens)

/-- Reads an insertion behind its first keyword. -/
def insertion (fuel : Nat) (conflict : Conflict) : Reader (Change Term) := fun tokens => do
  let (_, rest) ← takeWord "INTO" tokens
  let (table, rest) ← takeName rest
  let (columns, rest) ←
    if startsSign "(" rest then do
      let (columns, rest) ← bracketed (commaSeparated takeName fuel) rest
      pure (some columns, rest)
    else pure (none, rest)
  if startsWord "DEFAULT" rest then
    let (_, rest) ← takeWord "VALUES" (rest.drop 1)
    return (.insert { conflict, table, columns, rows := .defaults }, rest)
  else if startsWord "SELECT" rest then
    let (selected, rest) ← query fuel (rest.drop 1)
    return (.insert { conflict, table, columns, rows := .selected selected }, rest)
  else
    let (_, rest) ← takeWord "VALUES" rest
    let (rows, rest) ← commaSeparated (bracketed (argumentList fuel)) fuel rest
    return (.insert { conflict, table, columns, rows := .values rows }, rest)

/-- Reads an assignment. -/
def assignment (fuel : Nat) : Reader (String × Expression Term) := fun tokens => do
  let (name, rest) ← takeName tokens
  let (_, rest) ← takeSign "=" rest
  let (value, rest) ← expression fuel 0 rest
  return ((name, value), rest)

/-- Reads an update behind its first keyword. -/
def modification (fuel : Nat) : Reader (Change Term) := fun tokens => do
  let (conflict, rest) ← conflict tokens
  let (table, rest) ← takeName rest
  let (_, rest) ← takeWord "SET" rest
  let (assignments, rest) ← commaSeparated (assignment fuel) fuel rest
  let (conditions, rest) ← clause fuel "WHERE" rest
  return (.update { conflict, table, assignments, conditions }, rest)

/-- Reads a deletion behind its first keyword. -/
def deletion (fuel : Nat) : Reader (Change Term) := fun tokens => do
  let (_, rest) ← takeWord "FROM" tokens
  let (table, rest) ← takeName rest
  let (conditions, rest) ← clause fuel "WHERE" rest
  return (.delete { table, conditions }, rest)

/-- Reads a change, if the tokens start one. -/
def change? (fuel : Nat) (tokens : List Token) :
    Option (Except Fault (Change Term × List Token)) :=
  if startsWord "INSERT" tokens then
    some (do
      let (conflict, rest) ← conflict (tokens.drop 1)
      insertion fuel conflict rest)
  else if startsWord "REPLACE" tokens then some (insertion fuel .replace (tokens.drop 1))
  else if startsWord "UPDATE" tokens then some (modification fuel (tokens.drop 1))
  else if startsWord "DELETE" tokens then some (deletion fuel (tokens.drop 1))
  else none

/-- Reads words that state whether a new object may be there already. -/
def ifMissing : Reader Bool := fun tokens =>
  if startsWord "IF" tokens then do
    let (_, rest) ← takeWord "NOT" (tokens.drop 1)
    let (_, rest) ← takeWord "EXISTS" rest
    return (true, rest)
  else .ok (false, tokens)

/-- Reads words that state whether an object may be missing. -/
def ifPresent : Reader Bool := fun tokens =>
  if startsWord "IF" tokens then do
    let (_, rest) ← takeWord "EXISTS" (tokens.drop 1)
    return (true, rest)
  else .ok (false, tokens)

/-- Reads the default of a column. -/
def defaultValue : Reader Stored := fun tokens =>
  match tokens with
  | token :: rest =>
    if isSign token "-" then
      match rest with
      | number :: rest =>
        match constant? number with
        | some (.integer value) => .ok (.integer (-value), rest)
        | some (.real value) => .ok (.real ⟨value.bits ^^^ 0x8000000000000000⟩, rest)
        | _ => refuse (number :: rest)
      | [] => refuse []
    else
      match constant? token with
      | some value => .ok (value, rest)
      | none => refuse tokens
  | [] => refuse []

/-- Reads what a column declares behind its name and its type. -/
def columnConstraints : Nat → ColumnDefinition → Reader ColumnDefinition
  | 0, column, tokens => .ok (column, tokens)
  | fuel + 1, column, tokens =>
    if startsWord "PRIMARY" tokens then do
      let (_, rest) ← takeWord "KEY" (tokens.drop 1)
      let (_, rest) := skipWord "ASC" rest
      let (neverAgain, rest) := skipWord "AUTOINCREMENT" rest
      columnConstraints fuel { column with inlineKey := some neverAgain } rest
    else if startsWord "NOT" tokens then do
      let (_, rest) ← takeWord "NULL" (tokens.drop 1)
      columnConstraints fuel { column with required := some true } rest
    else if startsWord "NULL" tokens then
      columnConstraints fuel { column with required := column.required.or (some false) }
        (tokens.drop 1)
    else if startsWord "UNIQUE" tokens then
      columnConstraints fuel { column with unique := true } (tokens.drop 1)
    else if startsWord "DEFAULT" tokens then do
      let (value, rest) ← defaultValue (tokens.drop 1)
      columnConstraints fuel { column with defaultValue := some value } rest
    else .ok (column, tokens)

/-- Reads the length in brackets behind the words of a type, if there is one. -/
def typeLength (fuel : Nat) : Reader Unit := fun tokens =>
  if startsSign "(" tokens then do
    let (_, rest) ← bracketed (commaSeparated takeTerm fuel) tokens
    return ((), rest)
  else .ok ((), tokens)

/-- Reads the declaration of a column. -/
def columnDefinition (fuel : Nat) : Reader ColumnDefinition := fun tokens => do
  let (name, rest) ← takeName tokens
  let (words, rest) ← typeWords fuel [] rest
  let (_, rest) ← if words.isEmpty then pure ((), rest) else typeLength fuel rest
  columnConstraints fuel { name, typeWords := String.intercalate " " words } rest

/-- What stands between the brackets of a table's creation. -/
structure Parts where
  columns : List ColumnDefinition := []
  keys : List (List String) := []
  uniques : List (List String) := []

/-- Reads the keys behind the columns. -/
def tableConstraints : Nat → Parts → Reader Parts
  | 0, _, tokens => refuse tokens
  | fuel + 1, parts, tokens => do
    let (parts, rest) ←
      if startsWord "PRIMARY" tokens then do
        let (_, rest) ← takeWord "KEY" (tokens.drop 1)
        let (key, rest) ← bracketed (commaSeparated takeName fuel) rest
        pure ({ parts with keys := parts.keys ++ [key] }, rest)
      else if startsWord "UNIQUE" tokens then do
        let (key, rest) ← bracketed (commaSeparated takeName fuel) (tokens.drop 1)
        pure ({ parts with uniques := parts.uniques ++ [key] }, rest)
      else refuse tokens
    if startsSign "," rest then tableConstraints fuel parts (rest.drop 1)
    else return (parts, rest)

/-- Reads the columns of a table and the keys behind them. -/
def tableParts : Nat → Parts → Reader Parts
  | 0, _, tokens => refuse tokens
  | fuel + 1, parts, tokens => do
    let (column, rest) ← columnDefinition fuel tokens
    let parts := { parts with columns := parts.columns ++ [column] }
    if startsSign "," rest then
      if startsWord "PRIMARY" (rest.drop 1) || startsWord "UNIQUE" (rest.drop 1) then
        tableConstraints fuel parts (rest.drop 1)
      else tableParts fuel parts (rest.drop 1)
    else return (parts, rest)

/-- Reads the options of a table behind its brackets. -/
def tableOptions : Reader Bool := fun tokens =>
  if startsWord "WITHOUT" tokens then do
    let (_, rest) ← takeWord "ROWID" (tokens.drop 1)
    return (true, rest)
  else .ok (false, tokens)

/-- Reads a table's creation behind its keywords. -/
def tableDefinition (fuel : Nat) : Reader (Statement Term) := fun tokens => do
  let (missing, rest) ← ifMissing tokens
  let (name, rest) ← takeName rest
  let (parts, rest) ← bracketed (tableParts fuel {}) rest
  let (withoutRowid, rest) ← tableOptions rest
  return (.createTable { name, ifMissing := missing, columns := parts.columns, keys := parts.keys,
                         uniques := parts.uniques, withoutRowid }, rest)

/-- Reads a column of a full-text table. -/
def fullTextColumn : Reader FullTextColumn := fun tokens => do
  let (name, rest) ← takeName tokens
  let (unindexed, rest) := skipWord "UNINDEXED" rest
  return (⟨name, !unindexed⟩, rest)

/-- Reads a full-text table's creation behind its keywords. -/
def fullTextDefinition (fuel : Nat) : Reader (Statement Term) := fun tokens => do
  let (missing, rest) ← ifMissing tokens
  let (name, rest) ← takeName rest
  let (_, rest) ← takeWord "USING" rest
  let (kind, rest) ← takeName rest
  if upper kind != "FTS5" then throw (.noSuchModule kind)
  let (columns, rest) ← bracketed (commaSeparated fullTextColumn fuel) rest
  return (.createFullText { name, ifMissing := missing, columns }, rest)

/-- Reads the steps of a trigger up to its last keyword. -/
def triggerSteps : Nat → Reader (List (Change Term))
  | 0, tokens => refuse tokens
  | fuel + 1, tokens =>
    match change? fuel tokens with
    | none => refuse tokens
    | some read => do
      let (step, rest) ← read
      let (_, rest) ← takeSign ";" rest
      if startsWord "END" rest then return ([step], rest.drop 1)
      let (steps, rest) ← triggerSteps fuel rest
      return (step :: steps, rest)

/-- Reads the event of a trigger. -/
def rowEvent : Reader RowEvent := fun tokens =>
  if startsWord "INSERT" tokens then .ok (.insertion, tokens.drop 1)
  else if startsWord "DELETE" tokens then .ok (.deletion, tokens.drop 1)
  else if startsWord "UPDATE" tokens then .ok (.modification, tokens.drop 1)
  else refuse tokens

/-- Reads a trigger's creation behind its keywords. -/
def triggerDefinition (fuel : Nat) : Reader (Statement Term) := fun tokens => do
  let (missing, rest) ← ifMissing tokens
  let (name, rest) ← takeName rest
  let (_, rest) := skipWord "AFTER" rest
  let (event, rest) ← rowEvent rest
  let (_, rest) ← takeWord "ON" rest
  let (table, rest) ← takeName rest
  let (_, rest) ←
    if startsWord "FOR" rest then takeWords ["FOR", "EACH", "ROW"] rest else pure ((), rest)
  let (_, rest) ← takeWord "BEGIN" rest
  let (body, rest) ← triggerSteps fuel rest
  return (.createTrigger { name, ifMissing := missing, event, table, body }, rest)

/-- Reads the creation of an object behind its first keyword. -/
def creation (fuel : Nat) : Reader (Statement Term) := fun tokens =>
  if startsWord "TABLE" tokens then tableDefinition fuel (tokens.drop 1)
  else if startsWord "VIRTUAL" tokens then do
    let (_, rest) ← takeWord "TABLE" (tokens.drop 1)
    fullTextDefinition fuel rest
  else if startsWord "TRIGGER" tokens then triggerDefinition fuel (tokens.drop 1)
  else refuse tokens

/-- Reads the removal of an object behind its first keyword. -/
def removal : Reader (Statement Term) := fun tokens => do
  if startsWord "TABLE" tokens then
    let (present, rest) ← ifPresent (tokens.drop 1)
    let (name, rest) ← takeName rest
    return (.dropTable name present, rest)
  else if startsWord "TRIGGER" tokens then
    let (present, rest) ← ifPresent (tokens.drop 1)
    let (name, rest) ← takeName rest
    return (.dropTrigger name present, rest)
  else refuse tokens

/-- Reads the start of a transaction behind its first keyword. -/
def beginning : Reader (Statement Term) := fun tokens =>
  let (mode, rest) :=
    if startsWord "IMMEDIATE" tokens then (TransactionMode.immediate, tokens.drop 1)
    else if startsWord "EXCLUSIVE" tokens then (TransactionMode.exclusive, tokens.drop 1)
    else if startsWord "DEFERRED" tokens then (TransactionMode.deferred, tokens.drop 1)
    else (TransactionMode.deferred, tokens)
  .ok (.begin mode, skipTransaction rest)

/-- Reads the end of a transaction behind the keyword that takes it back. -/
def takingBack : Reader (Statement Term) := fun tokens => do
  let rest := skipTransaction tokens
  if startsWord "TO" rest then
    let (_, rest) := skipWord "SAVEPOINT" (rest.drop 1)
    let (name, rest) ← takeName rest
    return (.rollbackTo name, rest)
  else return (.rollback, rest)

/-- Reads a statement. -/
def statement (fuel : Nat) : Reader (Statement Term) := fun tokens =>
  match change? fuel tokens with
  | some read => do
    let (step, rest) ← read
    return (.change step, rest)
  | none =>
    if startsWord "SELECT" tokens then do
      let (selected, rest) ← query fuel (tokens.drop 1)
      return (.select selected, rest)
    else if startsWord "CREATE" tokens then creation fuel (tokens.drop 1)
    else if startsWord "DROP" tokens then removal (tokens.drop 1)
    else if startsWord "BEGIN" tokens then beginning (tokens.drop 1)
    else if startsWord "COMMIT" tokens || startsWord "END" tokens then
      .ok (.commit, skipTransaction (tokens.drop 1))
    else if startsWord "ROLLBACK" tokens then takingBack (tokens.drop 1)
    else if startsWord "SAVEPOINT" tokens then do
      let (name, rest) ← takeName (tokens.drop 1)
      return (.savepoint name, rest)
    else if startsWord "RELEASE" tokens then do
      let (_, rest) := skipWord "SAVEPOINT" (tokens.drop 1)
      let (name, rest) ← takeName rest
      return (.release name, rest)
    else refuse tokens

end Parser

/-- A statement that was read, how many parameters it has, and its text. -/
structure ReadStatement where
  statement : Statement Term
  parameters : Nat
  text : String
  deriving Repr

/-- The largest place of a parameter. -/
def parameterCount (tokens : List Token) : Nat :=
  tokens.foldl (fun count token =>
    match token.kind with
    | .parameter place => max count place
    | _ => count) 0

/-- The first statement of a text. Signs that end a statement may stand in front of it. -/
def parse (text : String) : Except Fault ReadStatement := do
  let all := (tokens text).dropWhile fun token => Parser.isSign token ";"
  if all.isEmpty then throw .noStatement
  let fuel := 16 * all.length + 64
  let (statement, rest) ← Parser.statement fuel all
  match rest with
  | [] => return ⟨statement, parameterCount all, textOf all⟩
  | token :: _ =>
    if Parser.isSign token ";" then
      let taken := Parser.taken all rest
      return ⟨statement, parameterCount taken, textOf taken⟩
    else Parser.refuse rest

end RecordStore.Sql
