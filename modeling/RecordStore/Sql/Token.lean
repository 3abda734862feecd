import RecordStore.Engine.Fault
import RecordStore.Number.Text

/-!
# Tokens of statements

A statement text as a list of tokens. Each token keeps how it was written and what stood
between it and the token before, so that a part of the text can be given back as it was.
Comments count as blanks. What can be no token becomes an illegal one, which a reader
refuses when it gets there.
-/

namespace RecordStore.Sql

/-- What a token is. -/
inductive TokenKind where
  /-- A word: a name or a keyword. -/
  | word
  /-- A name in quotes, with its content. -/
  | name (content : String)
  /-- A text in single quotes, with its content. -/
  | text (content : String)
  | blob (bytes : List UInt8)
  | integer (digits : Nat)
  | decimal
  /-- A parameter, with its place among the parameters. -/
  | parameter (place : Nat)
  | sign
  | illegal
  deriving DecidableEq, Repr

/-- A piece of a statement text. -/
structure Token where
  kind : TokenKind
  written : String
  /-- The blanks and comments before the token. -/
  gap : String
  deriving DecidableEq, Repr

namespace Lexer

/-- The blanks of a text. -/
def isBlank (char : Char) : Bool :=
  char == ' ' || char == '\t' || char == '\n' || char == '\r' || char.toNat == 12

/-- A character that continues a word. -/
def isWordRest (char : Char) : Bool :=
  char.isAlphanum || char == '_' || char == '$' || decide (0x80 ≤ char.toNat)

/-- A character that starts a word. -/
def isWordStart (char : Char) : Bool :=
  char.isAlpha || char == '_' || decide (0x80 ≤ char.toNat)

/-- The single quote. -/
def single : Char := Char.ofNat 39

/-- The double quote. -/
def double : Char := Char.ofNat 34

/-- The backward quote. -/
def backward : Char := Char.ofNat 96

/-- The text up to the end of a comment that ends with a star and a slash. -/
def blockComment : List Char → List Char × List Char
  | [] => ([], [])
  | '*' :: '/' :: rest => (['*', '/'], rest)
  | char :: rest =>
    let (comment, behind) := blockComment rest
    (char :: comment, behind)

/-- Blanks and comments at the start of a text, and what follows them. -/
def gap : Nat → List Char → List Char × List Char
  | 0, chars => ([], chars)
  | fuel + 1, chars =>
    match chars with
    | '-' :: '-' :: rest =>
      let comment := rest.takeWhile (· != '\n')
      let (more, behind) := gap fuel (rest.dropWhile (· != '\n'))
      ('-' :: '-' :: comment ++ more, behind)
    | '/' :: '*' :: rest =>
      let (comment, behind) := blockComment rest
      let (more, behind) := gap fuel behind
      ('/' :: '*' :: comment ++ more, behind)
    | char :: rest =>
      if isBlank char then
        let (more, behind) := gap fuel rest
        (char :: more, behind)
      else ([], char :: rest)
    | [] => ([], [])

/-- The content of a quoted text behind its opening quote, and what follows; a quote inside
is written twice. -/
def quotedContent (quote : Char) : List Char → Option (List Char × List Char)
  | [] => none
  | char :: rest =>
    if char == quote then
      match rest with
      | second :: further =>
        if second == quote then
          (quotedContent quote further).map fun read => (quote :: read.1, read.2)
        else some ([], second :: further)
      | [] => some ([], [])
    else (quotedContent quote rest).map fun read => (char :: read.1, read.2)

/-- The signs of two characters. -/
def doubleSigns : List (List Char) :=
  [['=', '='], ['<', '='], ['<', '>'], ['<', '<'], ['>', '='], ['>', '>'], ['!', '='],
   ['|', '|'], ['-', '>']]

/-- The signs of one character. -/
def singleSigns : List Char :=
  ['(', ')', ';', ',', '+', '-', '*', '/', '%', '=', '<', '>', '|', '&', '~', '.']

/-- Bytes of pairs of hexadecimal digits. -/
def hexBytes : List Char → Option (List UInt8)
  | [] => some []
  | first :: second :: rest => do
    let first ← digit? first
    let second ← digit? second
    let bytes ← hexBytes rest
    return UInt8.ofNat (first * 16 + second) :: bytes
  | _ => none
where
  digit? (char : Char) : Option Nat :=
    if '0' ≤ char ∧ char ≤ '9' then some (char.toNat - '0'.toNat)
    else if 'a' ≤ char ∧ char ≤ 'f' then some (char.toNat - 'a'.toNat + 10)
    else if 'A' ≤ char ∧ char ≤ 'F' then some (char.toNat - 'A'.toNat + 10)
    else none

/-- A token without what stands before it: its kind, its characters and what follows. -/
abbrev Lexeme := TokenKind × List Char × List Char

/-- A number at the start of a text. A number that runs into a word is no token. -/
def number (chars : List Char) : Lexeme :=
  let whole := chars.takeWhile Char.isDigit
  let rest := chars.dropWhile Char.isDigit
  let (fraction, rest) := match rest with
    | '.' :: rest => ('.' :: rest.takeWhile Char.isDigit, rest.dropWhile Char.isDigit)
    | rest => ([], rest)
  let (exponent, rest) := exponentPart rest
  let written := whole ++ fraction ++ exponent
  let tail := rest.takeWhile isWordRest
  if tail.isEmpty then
    let kind : TokenKind :=
      if fraction.isEmpty && exponent.isEmpty then .integer (NumberText.digitsValue whole)
      else .decimal
    (kind, written, rest)
  else (.illegal, written ++ tail, rest.dropWhile isWordRest)
where
  exponentPart (chars : List Char) : List Char × List Char :=
    match chars with
    | mark :: rest =>
      if mark == 'e' || mark == 'E' then
        let sign := rest.takeWhile fun char => char == '+' || char == '-'
        let digits := (rest.drop (min sign.length 1)).takeWhile Char.isDigit
        if digits.isEmpty || 1 < sign.length then ([], chars)
        else (mark :: sign ++ digits, rest.drop (sign.length + digits.length))
      else ([], chars)
    | [] => ([], [])

/-- A quoted text at the start of a text, behind its opening quote. -/
def quoted (kind : String → TokenKind) (opening closing : Char) (rest : List Char) : Lexeme :=
  match quotedContent closing rest with
  | some (content, behind) =>
    (kind (String.ofList content),
      opening :: rest.take (rest.length - behind.length), behind)
  | none => (.illegal, opening :: rest, [])

/-- A blob at the start of a text, behind its mark and its quote. -/
def blob (mark : Char) (rest : List Char) : Lexeme :=
  let digits := rest.takeWhile (· != single)
  match rest.dropWhile (· != single) with
  | _ :: behind =>
    match hexBytes digits with
    | some bytes => (.blob bytes, mark :: single :: digits ++ [single], behind)
    | none => (.illegal, mark :: single :: digits ++ [single], behind)
  | [] => (.illegal, mark :: single :: rest, [])

/-- The token at the start of a text that is not blank. -/
def lexeme (first : Char) (rest : List Char) : Lexeme :=
  if first == single then quoted .text first first rest
  else if first == double then quoted .name first first rest
  else if first == backward then quoted .name first first rest
  else if first == '[' then
    let content := rest.takeWhile (· != ']')
    match rest.dropWhile (· != ']') with
    | _ :: behind => (.name (String.ofList content), '[' :: content ++ [']'], behind)
    | [] => (.illegal, first :: rest, [])
  else if (first == 'x' || first == 'X') && rest.head? == some single then
    blob first (rest.drop 1)
  else if isWordStart first then
    (.word, first :: rest.takeWhile isWordRest, rest.dropWhile isWordRest)
  else if first.isDigit || (first == '.' && (rest.head?.any Char.isDigit)) then
    number (first :: rest)
  else if first == '?' then
    (.parameter 0, first :: rest.takeWhile Char.isDigit, rest.dropWhile Char.isDigit)
  else if first == ':' || first == '@' || first == '$' then
    let name := rest.takeWhile isWordRest
    if name.isEmpty then (.illegal, [first], rest)
    else (.parameter 0, first :: name, rest.dropWhile isWordRest)
  else
    match rest with
    | second :: behind =>
      if doubleSigns.contains [first, second] then (.sign, [first, second], behind)
      else if singleSigns.contains first then (.sign, [first], rest)
      else (.illegal, [first], rest)
    | [] => if singleSigns.contains first then (.sign, [first], rest) else (.illegal, [first], rest)

/-- The tokens of a text; the count bounds how many characters are left. -/
def tokensOf : Nat → List Char → List Token
  | 0, _ => []
  | fuel + 1, chars =>
    let (before, behind) := gap (chars.length + 1) chars
    match behind with
    | [] => []
    | first :: rest =>
      let (kind, written, rest) := lexeme first rest
      ⟨kind, String.ofList written, String.ofList before⟩ :: tokensOf fuel rest

/-- The place of a parameter: a stated number, the place of the same name before, or the next
place. -/
def placeOf (named : List (String × Nat)) (largest : Nat) (written : String) : Nat :=
  match written.toList with
  | '?' :: digits =>
    if digits.isEmpty then largest + 1 else NumberText.digitsValue digits
  | _ =>
    match named.find? fun entry => entry.1 == written with
    | some entry => entry.2
    | none => largest + 1

/-- Tokens with every parameter at its place. -/
def placeParameters (named : List (String × Nat)) (largest : Nat) : List Token → List Token
  | [] => []
  | token :: rest =>
    match token.kind with
    | .parameter _ =>
      let place := placeOf named largest token.written
      { token with kind := .parameter place } ::
        placeParameters ((token.written, place) :: named) (max largest place) rest
    | _ => token :: placeParameters named largest rest

end Lexer

/-- The tokens of a statement text. -/
def tokens (text : String) : List Token :=
  let chars := text.toList
  Lexer.placeParameters [] 0 (Lexer.tokensOf (chars.length + 1) chars)

/-- The text that tokens were read from, from the first token to the last. -/
def textOf : List Token → String
  | [] => ""
  | first :: rest => rest.foldl (fun text token => text ++ token.gap ++ token.written) first.written

end RecordStore.Sql
