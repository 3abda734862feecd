/-!
# Documents

Reading a JSON text into a tree. The tree keeps what the text says and decides nothing:
a number stays its digits, an object keeps its members in order and may repeat a key, and a
text that names half of a surrogate pair is kept as a text without content. Blanks may
stand between tokens and around the whole, nothing else.
-/

namespace RecordStore

/-- A number as it is written. -/
structure NumberLiteral where
  negative : Bool
  digits : List Char
  /-- Whether a point or an exponent follows the digits. -/
  fractional : Bool
  deriving DecidableEq, Repr

/-- The integer that a number is, when it is written as one. A negative zero is not. -/
def NumberLiteral.integer? (literal : NumberLiteral) : Option Int :=
  let value := literal.digits.foldl (fun value char => value * 10 + (char.toNat - '0'.toNat)) 0
  if literal.fractional then none
  else if literal.negative then if value = 0 then none else some (-(value : Int))
  else some value

/-- A JSON document. -/
inductive Document where
  | null
  | bool (value : Bool)
  | number (literal : NumberLiteral)
  | text (content : Option String)
  | array (items : List Document)
  | object (members : List (Option String × Document))

namespace Document

/-- The blanks that may stand between tokens. -/
def isBlank (char : Char) : Bool :=
  char == ' ' || char == '\t' || char == '\n' || char == '\r'

/-- What is left of a text behind the blanks in front. -/
def skipBlanks (text : List Char) : List Char := text.dropWhile isBlank

/-- The value of a hexadecimal digit of either case. -/
def hexDigit? (char : Char) : Option Nat :=
  if '0' ≤ char ∧ char ≤ '9' then some (char.toNat - '0'.toNat)
  else if 'a' ≤ char ∧ char ≤ 'f' then some (char.toNat - 'a'.toNat + 10)
  else if 'A' ≤ char ∧ char ≤ 'F' then some (char.toNat - 'A'.toNat + 10)
  else none

/-- The code unit of four hexadecimal digits. -/
def codeUnit? (first second third fourth : Char) : Option Nat := do
  let first ← hexDigit? first
  let second ← hexDigit? second
  let third ← hexDigit? third
  let fourth ← hexDigit? fourth
  return ((first * 16 + second) * 16 + third) * 16 + fourth

/-- The first halves of surrogate pairs. -/
def isLeading (unit : Nat) : Bool := decide (0xD800 ≤ unit) && decide (unit < 0xDC00)

/-- The second halves of surrogate pairs. -/
def isTrailing (unit : Nat) : Bool := decide (0xDC00 ≤ unit) && decide (unit < 0xE000)

/-- The character that a letter behind a backslash stands for. -/
def escaped? : Char → Option Char
  | '"' => some '"'
  | '\\' => some '\\'
  | '/' => some '/'
  | 'b' => some (Char.ofNat 8)
  | 'f' => some (Char.ofNat 12)
  | 'n' => some '\n'
  | 'r' => some '\r'
  | 't' => some '\t'
  | _ => none

/-- A text that has been read: its characters, unless half of a pair stood alone, and the
characters behind it. -/
abbrev ReadText := Option (List Char) × List Char

/-- A read text with a character put before it. -/
def before (char : Char) (read : ReadText) : ReadText := (read.1.map (char :: ·), read.2)

/-- A read text in which half of a pair stands alone. -/
def broken (read : ReadText) : ReadText := (none, read.2)

/-- Reads the rest of a text behind its opening quote. -/
def readText : List Char → Option ReadText
  | [] => none
  | '"' :: rest => some (some [], rest)
  | '\\' :: 'u' :: a :: b :: c :: d :: rest =>
    match codeUnit? a b c d with
    | none => none
    | some unit =>
      if isTrailing unit then (readText rest).map broken
      else if isLeading unit then
        match rest with
        | '\\' :: 'u' :: e :: f :: g :: h :: further =>
          match codeUnit? e f g h with
          | none => none
          | some second =>
            if isTrailing second then
              (readText further).map
                (before (Char.ofNat (0x10000 + (unit - 0xD800) * 1024 + (second - 0xDC00))))
            else (readText further).map broken
        | rest => (readText rest).map broken
      else (readText rest).map (before (Char.ofNat unit))
  | '\\' :: letter :: rest =>
    match escaped? letter with
    | some char => (readText rest).map (before char)
    | none => none
  | char :: rest => if char.toNat < 32 then none else (readText rest).map (before char)

/-- Digits behind a point: at least one. -/
def readFraction (text : List Char) : Option (List Char) :=
  match text with
  | char :: rest => if char.isDigit then some (rest.dropWhile Char.isDigit) else none
  | [] => none

/-- An exponent behind its mark: a sign if there is one, and at least one digit. -/
def readExponent (text : List Char) : Option (List Char) :=
  match text with
  | '+' :: rest => readFraction rest
  | '-' :: rest => readFraction rest
  | rest => readFraction rest

/-- Reads what may follow the digits of a number. -/
def readNumberTail (negative : Bool) (digits text : List Char) :
    Option (NumberLiteral × List Char) := do
  let (fraction, afterFraction) ← match text with
    | '.' :: rest => (readFraction rest).map fun rest => (true, rest)
    | rest => some (false, rest)
  match afterFraction with
  | 'e' :: rest => (readExponent rest).map fun rest => (⟨negative, digits, true⟩, rest)
  | 'E' :: rest => (readExponent rest).map fun rest => (⟨negative, digits, true⟩, rest)
  | rest => some (⟨negative, digits, fraction⟩, rest)

/-- Reads a number behind its sign; a zero is followed by no further digit. -/
def readUnsigned (negative : Bool) (text : List Char) : Option (NumberLiteral × List Char) :=
  match text with
  | '0' :: rest =>
    match rest with
    | char :: _ => if char.isDigit then none else readNumberTail negative ['0'] rest
    | [] => readNumberTail negative ['0'] []
  | char :: rest =>
    if char.isDigit then
      readNumberTail negative (char :: rest.takeWhile Char.isDigit) (rest.dropWhile Char.isDigit)
    else none
  | [] => none

/-- Reads a number. -/
def readNumber (text : List Char) : Option (NumberLiteral × List Char) :=
  match text with
  | '-' :: rest => readUnsigned true rest
  | rest => readUnsigned false rest

/-- What is left of a text behind a word that it starts with. -/
def afterWord (word text : List Char) : Option (List Char) :=
  match word, text with
  | [], rest => some rest
  | expected :: word, found :: rest => if expected == found then afterWord word rest else none
  | _ :: _, [] => none

mutual

/-- Reads a value. The count bounds how many values, items and members may follow one
another; the length of the text always suffices. -/
def readValue : Nat → List Char → Option (Document × List Char)
  | 0, _ => none
  | fuel + 1, chars =>
    match skipBlanks chars with
    | '"' :: rest => (readText rest).map fun read => (.text (read.1.map String.ofList), read.2)
    | '[' :: rest =>
      match skipBlanks rest with
      | ']' :: rest => some (.array [], rest)
      | rest => (readItems fuel rest).map fun read => (.array read.1, read.2)
    | '\x7b' :: rest =>
      match skipBlanks rest with
      | '\x7d' :: rest => some (.object [], rest)
      | rest => (readMembers fuel rest).map fun read => (.object read.1, read.2)
    | 't' :: rest => (afterWord ['r', 'u', 'e'] rest).map fun rest => (.bool true, rest)
    | 'f' :: rest => (afterWord ['a', 'l', 's', 'e'] rest).map fun rest => (.bool false, rest)
    | 'n' :: rest => (afterWord ['u', 'l', 'l'] rest).map fun rest => (.null, rest)
    | rest => (readNumber rest).map fun read => (.number read.1, read.2)

/-- Reads the items of an array up to its end. -/
def readItems : Nat → List Char → Option (List Document × List Char)
  | 0, _ => none
  | fuel + 1, chars =>
    match readValue fuel chars with
    | none => none
    | some (item, rest) =>
      match skipBlanks rest with
      | ']' :: rest => some ([item], rest)
      | ',' :: rest => (readItems fuel rest).map fun read => (item :: read.1, read.2)
      | _ => none

/-- Reads the members of an object up to its end. -/
def readMembers : Nat → List Char → Option (List (Option String × Document) × List Char)
  | 0, _ => none
  | fuel + 1, chars =>
    match skipBlanks chars with
    | '"' :: rest =>
      match readText rest with
      | none => none
      | some (key, rest) =>
        match skipBlanks rest with
        | ':' :: rest =>
          match readValue fuel rest with
          | none => none
          | some (value, rest) =>
            let member := (key.map String.ofList, value)
            match skipBlanks rest with
            | '\x7d' :: rest => some ([member], rest)
            | ',' :: rest => (readMembers fuel rest).map fun read => (member :: read.1, read.2)
            | _ => none
        | _ => none
    | _ => none

end

/-- The document that a whole text is. -/
def parse? (text : String) : Option Document :=
  let chars := text.toList
  match readValue (chars.length + 1) chars with
  | some (document, rest) => if (skipBlanks rest).isEmpty then some document else none
  | none => none

/-- A hexadecimal digit in lower case. -/
def hexChar (digit : Nat) : Char := "0123456789abcdef".toList.getD digit '0'

/-- A character inside a written text. -/
def writeChar (char : Char) : List Char :=
  match char with
  | '"' => ['\\', '"']
  | '\\' => ['\\', '\\']
  | '\n' => ['\\', 'n']
  | '\r' => ['\\', 'r']
  | '\t' => ['\\', 't']
  | char =>
    if char.toNat = 8 then ['\\', 'b']
    else if char.toNat = 12 then ['\\', 'f']
    else if char.toNat < 32 then
      ['\\', 'u', '0', '0', hexChar (char.toNat / 16), hexChar (char.toNat % 16)]
    else [char]

/-- A text between quotes, with the quote, the backslash and control characters escaped. -/
def writeText (text : String) : String :=
  "\"" ++ String.ofList (text.toList.flatMap writeChar) ++ "\""

end Document

end RecordStore
