import RecordStore.Engine.Fault
import RecordStore.FullText.Pattern

/-!
# Pattern texts

Reading a pattern from its text. Words and quoted texts stand for phrases; a plus joins
phrases, a star asks for beginnings, a caret for the start of a column. Phrases side by
side must all be there. `NOT` binds tighter than `AND`, and `AND` tighter than `OR`; the
three words count only in capitals. `NEAR(…)` groups phrases, and a column name or a braced
list of them before a colon confines what follows.

A text is refused at the first token with which no pattern could go on. A token that cannot
be read is found as soon as the token before it has been taken.
-/

namespace RecordStore.FullText

/-- A piece of a pattern text. -/
inductive Token where
  | opening
  | closing
  | openingBrace
  | closingBrace
  | colon
  | comma
  | plus
  | star
  | minus
  | caret
  | and
  | or
  | not
  | word (text : String)
  /-- A text in quotes: its content, and how it was written. -/
  | quoted (content written : String)
  deriving DecidableEq, Repr

/-- How a token was written. -/
def Token.written : Token → String
  | .opening => "("
  | .closing => ")"
  | .openingBrace => "\x7b"
  | .closingBrace => "\x7d"
  | .colon => ":"
  | .comma => ","
  | .plus => "+"
  | .star => "*"
  | .minus => "-"
  | .caret => "^"
  | .and => "AND"
  | .or => "OR"
  | .not => "NOT"
  | .word text => text
  | .quoted _ written => written

/-- The tokens of a text: each one, then the end or the reason why no further token can be
read. -/
inductive Tokens where
  | finished
  | broken (fault : Fault)
  | next (token : Token) (rest : Tokens)

/-- A character of a word outside of quotes. -/
def isBare (char : Char) : Bool :=
  char.isAlphanum || char == '_' || char.toNat == 0x1A || decide (0x80 ≤ char.toNat)

/-- What a word outside of quotes means. -/
def wordToken (word : String) : Token :=
  if word == "AND" then .and
  else if word == "OR" then .or
  else if word == "NOT" then .not
  else .word word

/-- The token of a single character. -/
def signToken? : Char → Option Token
  | '(' => some .opening
  | ')' => some .closing
  | '\x7b' => some .openingBrace
  | '\x7d' => some .closingBrace
  | ':' => some .colon
  | ',' => some .comma
  | '+' => some .plus
  | '*' => some .star
  | '-' => some .minus
  | '^' => some .caret
  | _ => none

/-- The blanks between the tokens of a pattern. -/
def isPatternBlank (char : Char) : Bool :=
  char == ' ' || char == '\t' || char == '\n' || char == '\r'

/-- The double quote. -/
def quoteChar : Char := Char.ofNat 34

/-- The content of a quoted text behind its opening quote, and what follows; a quote inside
is written twice. -/
def quotedContent : List Char → Option (List Char × List Char)
  | [] => none
  | char :: rest =>
    if char == quoteChar then
      match rest with
      | second :: further =>
        if second == quoteChar then
          (quotedContent further).map fun read => (quoteChar :: read.1, read.2)
        else some ([], second :: further)
      | [] => some ([], [])
    else (quotedContent rest).map fun read => (char :: read.1, read.2)

/-- Reads tokens; the count bounds how many characters are left. -/
def tokenize : Nat → List Char → Tokens
  | 0, _ => .finished
  | fuel + 1, text =>
    match text.dropWhile isPatternBlank with
    | [] => .finished
    | first :: rest =>
      match signToken? first with
      | some token => .next token (tokenize fuel rest)
      | none =>
        if first == quoteChar then
          match quotedContent rest with
          | some (content, further) =>
            let written := (first :: rest).take (rest.length + 1 - further.length)
            .next (.quoted (String.ofList content) (String.ofList written)) (tokenize fuel further)
          | none => .broken .unterminatedString
        else if isBare first then
          .next (wordToken (String.ofList (first :: rest.takeWhile isBare)))
            (tokenize fuel (rest.dropWhile isBare))
        else .broken (.fullTextSyntax (String.singleton first))

/-- A step of reading: the tokens that are left. -/
abbrev Reader (α : Type) := Tokens → Except Fault (α × Tokens)

/-- Refuses the next token. -/
def refuse {α : Type} : Tokens → Except Fault α
  | .finished => .error (.fullTextSyntax "")
  | .broken fault => .error fault
  | .next token _ => .error (.fullTextSyntax token.written)

/-- Finds a token that cannot be read, if it is the next one. -/
def looked : Tokens → Except Fault Unit
  | .broken fault => .error fault
  | _ => .ok ()

/-- The phrase of a word or a quoted text. -/
def phraseOf (text : String) (isBeginning : Bool) : List WordPattern :=
  let found := words text
  found.mapIdx fun index word =>
    ⟨word, isBeginning && index + 1 == found.length⟩

/-- The text of a token that stands for one. -/
def textToken? : Token → Option String
  | .word text => some text
  | .quoted content _ => some content
  | _ => none

/-- Takes a star if one follows. -/
def readStar (tokens : Tokens) : Bool × Tokens :=
  match tokens with
  | .next .star rest => (true, rest)
  | rest => (false, rest)

/-- Reads the rest of a phrase: further texts joined by plus signs. -/
def readPhraseRest : Nat → List WordPattern → Reader (List WordPattern)
  | 0, _, tokens => refuse tokens
  | fuel + 1, words, tokens =>
    match tokens with
    | .next .plus rest =>
      match rest with
      | .next token further =>
        match textToken? token with
        | some text =>
          let (isBeginning, further) := readStar further
          readPhraseRest fuel (words ++ phraseOf text isBeginning) further
        | none => refuse rest
      | rest => refuse rest
    | tokens => do
      looked tokens
      return (words, tokens)

/-- Reads a phrase. -/
def readPhrase (fuel : Nat) : Reader (List WordPattern)
  | .next token rest =>
    match textToken? token with
    | some text =>
      let (isBeginning, rest) := readStar rest
      readPhraseRest fuel (phraseOf text isBeginning) rest
    | none => refuse (.next token rest)
  | tokens => refuse tokens

/-- Adds a phrase to a group; a phrase without words stays only where it is alone. -/
def addPhrase (phrases : List Phrase) (phrase : Phrase) : List Phrase :=
  match phrases.getLast? with
  | none => [phrase]
  | some last =>
    if phrase.words.isEmpty then phrases
    else if last.words.isEmpty then phrases.dropLast ++ [phrase]
    else phrases ++ [phrase]

/-- Reads the phrases of a group up to a comma or a closing bracket. -/
def readPhrases : Nat → List Phrase → Reader (List Phrase)
  | 0, _, tokens => refuse tokens
  | fuel + 1, phrases, tokens => do
    let (words, rest) ← readPhrase fuel tokens
    let phrases := addPhrase phrases ⟨words, false⟩
    match rest with
    | .next .closing _ => return (phrases, rest)
    | .next .comma _ => return (phrases, rest)
    | rest => readPhrases fuel phrases rest

/-- The distance within which phrases are near each other, unless a text says otherwise. -/
def usualDistance : Nat := 10

/-- The distance that a token states. -/
def distanceOf (token : Token) : Except Fault Nat :=
  let written := token.written
  if written.toList.all Char.isDigit then
    .ok (written.toList.foldl (fun value char => value * 10 + (char.toNat - '0'.toNat)) 0)
  else .error (.expectedInteger written)

/-- Reads a group of phrases behind its name and its opening bracket. -/
def readNear (fuel : Nat) (name : Token) : Reader Group := fun tokens => do
  let (phrases, rest) ← readPhrases fuel [] tokens
  let (stated, rest) ← match rest with
    | .next .comma rest =>
      match rest with
      | .next token further =>
        if (textToken? token).isSome then pure (some token, further) else refuse rest
      | rest => refuse rest
    | rest => pure (none, rest)
  match rest with
  | .next .closing rest =>
    looked rest
    if name != .word "NEAR" then throw (.fullTextNearName name.written)
    let distance ← match stated with
      | some token => distanceOf token
      | none => pure usualDistance
    return (⟨phrases, distance, none⟩, rest)
  | rest => refuse rest

/-- Reads a phrase or a group. -/
def readGroup (fuel : Nat) : Reader Group
  | .next .caret rest => do
    let (words, rest) ← readPhrase fuel rest
    return (⟨[⟨words, !words.isEmpty⟩], usualDistance, none⟩, rest)
  | .next token (.next .opening rest) =>
    if (textToken? token).isSome then readNear fuel token rest
    else refuse (.next token (.next .opening rest))
  | tokens => do
    let (words, rest) ← readPhrase fuel tokens
    return (⟨[⟨words, false⟩], usualDistance, none⟩, rest)

/-- ASCII letters in small. -/
def lowered (text : String) : String := text.map Char.toLower

/-- The column of a name, whatever its case. -/
def columnNamed (columns : List String) (name : String) : Except Fault String :=
  match columns.find? fun column => lowered column == lowered name with
  | some column => .ok column
  | none => .error (.noSuchColumn name)

/-- Reads the columns of a braced list. -/
def readBraced (columns : List String) : Nat → List String → Reader (List String)
  | 0, _, tokens => refuse tokens
  | fuel + 1, named, tokens =>
    match tokens with
    | .next token rest =>
      match textToken? token with
      | some text => do
        looked rest
        let column ← columnNamed columns text
        readBraced columns fuel (named ++ [column]) rest
      | none =>
        if token == .closingBrace && !named.isEmpty then .ok (named, rest) else refuse tokens
    | tokens => refuse tokens

/-- The columns that are not in a list. -/
def otherColumns (columns named : List String) : List String :=
  columns.filter fun column => !named.contains column

/-- Reads the columns before a colon, if the tokens start with them. -/
def readColumns? (columns : List String) (fuel : Nat) (tokens : Tokens) :
    Except Fault (Option (List String × Tokens)) :=
  match tokens with
  | .next .minus rest =>
    match rest with
    | .next .openingBrace rest => do
      let (named, rest) ← readBraced columns fuel [] rest
      requireColon (otherColumns columns named) rest
    | .next token rest =>
      match textToken? token with
      | some text => do
        looked rest
        let column ← columnNamed columns text
        requireColon (otherColumns columns [column]) rest
      | none => refuse (.next token rest)
    | rest => refuse rest
  | .next .openingBrace rest => do
    let (named, rest) ← readBraced columns fuel [] rest
    requireColon named rest
  | .next token (.next .colon rest) =>
    match textToken? token with
    | some text => do
      let column ← columnNamed columns text
      looked rest
      return some ([column], rest)
    | none => .ok none
  | _ => .ok none
where
  /-- Takes the colon behind columns. -/
  requireColon (named : List String) (tokens : Tokens) :
      Except Fault (Option (List String × Tokens)) :=
    match tokens with
    | .next .colon rest => do
      looked rest
      return some (named, rest)
    | rest => refuse rest

/-- The pattern of a group; a single phrase without words is found nowhere. -/
def Pattern.ofGroup (group : Group) : Pattern :=
  match group.phrases with
  | [phrase] => if phrase.words.isEmpty then .nothing else .group group
  | _ => .group group

/-- Adds a group to the groups on its left, all of which must be there. A group without
words asks for nothing. -/
def joinGroups (left right : Pattern) : Pattern :=
  match left, right with
  | left, .nothing => left
  | .nothing, right => right
  | left, right => .both left right

/-- Whether a token can start a group. -/
def startsGroup : Tokens → Bool
  | .next token _ =>
    (textToken? token).isSome || token == .caret || token == .minus || token == .openingBrace
  | _ => false

/-- Reads further groups that stand side by side. -/
def readGroups (columns : List String) : Nat → Pattern → Reader Pattern
  | 0, _, tokens => refuse tokens
  | fuel + 1, left, tokens =>
    if startsGroup tokens then do
      match ← readColumns? columns fuel tokens with
      | some (named, rest) =>
        let (group, rest) ← readGroup fuel rest
        readGroups columns fuel (joinGroups left ((Pattern.ofGroup group).confine named)) rest
      | none =>
        let (group, rest) ← readGroup fuel tokens
        readGroups columns fuel (joinGroups left (Pattern.ofGroup group)) rest
    else do
      looked tokens
      return (left, tokens)

mutual

/-- Reads a pattern of parts of which one must be there. -/
def readEither (columns : List String) : Nat → Reader Pattern
  | 0, tokens => refuse tokens
  | fuel + 1, tokens => do
    let (left, rest) ← readBoth columns fuel tokens
    readEitherRest columns fuel left rest

/-- Goes on behind a part with those that follow `OR`. -/
def readEitherRest (columns : List String) : Nat → Pattern → Reader Pattern
  | 0, _, tokens => refuse tokens
  | fuel + 1, left, tokens =>
    match tokens with
    | .next .or rest => do
      let (right, rest) ← readBoth columns fuel rest
      readEitherRest columns fuel (.either left right) rest
    | tokens => .ok (left, tokens)

/-- Reads a pattern of parts that must all be there. -/
def readBoth (columns : List String) : Nat → Reader Pattern
  | 0, tokens => refuse tokens
  | fuel + 1, tokens => do
    let (left, rest) ← readButNot columns fuel tokens
    readBothRest columns fuel left rest

/-- Goes on behind a part with those that follow `AND`. -/
def readBothRest (columns : List String) : Nat → Pattern → Reader Pattern
  | 0, _, tokens => refuse tokens
  | fuel + 1, left, tokens =>
    match tokens with
    | .next .and rest => do
      let (right, rest) ← readButNot columns fuel rest
      readBothRest columns fuel (.both left right) rest
    | tokens => .ok (left, tokens)

/-- Reads a pattern with parts that must not be there. -/
def readButNot (columns : List String) : Nat → Reader Pattern
  | 0, tokens => refuse tokens
  | fuel + 1, tokens => do
    let (left, rest) ← readPart columns fuel tokens
    readButNotRest columns fuel left rest

/-- Goes on behind a part with those that follow `NOT`. -/
def readButNotRest (columns : List String) : Nat → Pattern → Reader Pattern
  | 0, _, tokens => refuse tokens
  | fuel + 1, left, tokens =>
    match tokens with
    | .next .not rest => do
      let (right, rest) ← readPart columns fuel rest
      readButNotRest columns fuel (.butNot left right) rest
    | tokens => .ok (left, tokens)

/-- Reads a bracketed pattern, confined or not, or groups side by side. -/
def readPart (columns : List String) : Nat → Reader Pattern
  | 0, tokens => refuse tokens
  | fuel + 1, tokens =>
    match tokens with
    | .next .opening rest => readBracketed columns fuel none rest
    | tokens => do
      match ← readColumns? columns fuel tokens with
      | some (named, .next .opening rest) => readBracketed columns fuel (some named) rest
      | some (named, rest) =>
        let (group, rest) ← readGroup fuel rest
        readGroups columns fuel ((Pattern.ofGroup group).confine named) rest
      | none =>
        let (group, rest) ← readGroup fuel tokens
        readGroups columns fuel (Pattern.ofGroup group) rest

/-- Reads a pattern behind an opening bracket, with its closing bracket. -/
def readBracketed (columns : List String) : Nat → Option (List String) → Reader Pattern
  | 0, _, tokens => refuse tokens
  | fuel + 1, confinement, tokens => do
    let (pattern, rest) ← readEither columns fuel tokens
    match rest with
    | .next .closing rest =>
      looked rest
      match confinement with
      | some named => return (pattern.confine named, rest)
      | none => return (pattern, rest)
    | rest => refuse rest

end

/-- The words that a text in front of a star can ask of the engine itself. -/
def specialWords : List String := ["reads", "id"]

/-- The pattern of a text, for a table with the given columns. A text ends at its first
null character. A text that starts with a star asks for something other than rows. -/
def Pattern.parse (columns : List String) (text : String) : Except Fault Pattern :=
  let chars := text.toList.takeWhile fun char => char.toNat != 0
  match chars with
  | '*' :: rest =>
    let word := (rest.dropWhile (· == ' ')).takeWhile (· != ' ')
    if specialWords.contains (String.ofList word) then .ok .nothing
    else .error (.unknownSpecialQuery (String.ofList word))
  | chars => do
    let tokens := tokenize (chars.length + 1) chars
    let fuel := 8 * chars.length + 16
    let (pattern, rest) ← readEither columns fuel tokens
    match rest with
    | .finished => return pattern
    | rest => refuse rest

end RecordStore.FullText
