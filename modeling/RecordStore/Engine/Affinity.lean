import RecordStore.Number.Text
import RecordStore.Value.Stored

/-!
# Affinity

A column does not fix the class of what it stores; it prefers one. An affinity says what
becomes of a value when it is stored, and which of two compared values is first brought to
the other's class. Conversion never loses anything: a text that is no number stays a text,
and a real becomes an integer only if it is one.
-/

namespace RecordStore

/-- The storage class that a column prefers. -/
inductive Affinity where
  | text
  | integer
  | real
  | numeric
  | blob
  deriving DecidableEq, Repr, Inhabited

namespace Affinity

/-- Whether an affinity prefers numbers. -/
def isNumeric : Affinity → Bool
  | .integer => true
  | .real => true
  | .numeric => true
  | _ => false

/-- Whether a word occurs in a text. -/
def mentions (word text : List Char) : Bool :=
  match text with
  | [] => word.isEmpty
  | char :: rest => word.isPrefixOf (char :: rest) || mentions word rest

/-- The affinity of a declared type; the first rule that fits decides. -/
def ofTypeWords (words : String) : Affinity :=
  let words := (words.map Char.toUpper).toList
  let has (word : String) : Bool := mentions word.toList words
  if has "INT" then .integer
  else if has "CHAR" || has "CLOB" || has "TEXT" then .text
  else if has "BLOB" || words.isEmpty then .blob
  else if has "REAL" || has "FLOA" || has "DOUB" then .real
  else .numeric

end Affinity

namespace Stored

/-- An integer in sixty-four bits, if it fits. -/
def int64? (value : Int) : Option Int64 :=
  if Int64.minValue.toInt ≤ value ∧ value ≤ Int64.maxValue.toInt then some (Int64.ofInt value)
  else none

/-- The number that a text states, if the text states nothing else. An integer that does not
fit is a real. -/
def numberOfText? (text : String) : Option Stored :=
  match NumberText.read? text.toList with
  | none => none
  | some (.integer value) =>
    match int64? value with
    | some value => some (.integer value)
    | none => some (.real (Binary64.ofInt value))
  | some number => some (.real number.toReal)

/-- A real as an integer, if it is one that lies strictly between the ends of the range. -/
def realAsInteger (value : Binary64) : Stored :=
  match value.toInt? with
  | some whole =>
    if Int64.minValue.toInt < whole ∧ whole < Int64.maxValue.toInt then
      .integer (Int64.ofInt whole)
    else .real value
  | none => .real value

/-- A number as text; other values stay what they are. -/
def numberAsText : Stored → Stored
  | .integer value => .text (toString value.toInt)
  | .real value => .text value.text
  | value => value

/-- A text that states a number as that number; other values stay what they are. -/
def textAsNumber : Stored → Stored
  | .text value => (numberOfText? value).getD (.text value)
  | value => value

/-- A real that is an integer as that integer; other values stay what they are. -/
def wholeAsInteger : Stored → Stored
  | .real value => realAsInteger value
  | value => value

/-- An integer as a real; other values stay what they are. -/
def integerAsReal : Stored → Stored
  | .integer value => .real (Binary64.ofInt value.toInt)
  | value => value

end Stored

namespace Affinity

/-- What a column of an affinity stores for a value. -/
def store (affinity : Affinity) (value : Stored) : Stored :=
  match affinity with
  | .text => value.numberAsText
  | .integer => value.textAsNumber.wholeAsInteger
  | .numeric => value.textAsNumber.wholeAsInteger
  | .real => value.textAsNumber.wholeAsInteger.integerAsReal
  | .blob => value

/-- What a value is compared as, once the affinity of a comparison is known. -/
def compareAs (affinity : Affinity) (value : Stored) : Stored :=
  match affinity with
  | .text => value.numberAsText
  | .blob => value
  | _ => value.textAsNumber

/-- The affinity of a comparison between two sides, each a column with its affinity or
something else. Between two columns numbers win over texts, and otherwise nothing is
converted; a column decides for a side that is no column. -/
def between : Option Affinity → Option Affinity → Affinity
  | some left, some right => if left.isNumeric || right.isNumeric then .numeric else .blob
  | some left, none => left
  | none, some right => right
  | none, none => .blob

end Affinity

end RecordStore
