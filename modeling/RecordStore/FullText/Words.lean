import RecordStore.FullText.Alphanumeric
import RecordStore.FullText.Fold
import RecordStore.Value.Stored

/-!
# Words

A text as the index of words sees it: the longest runs of letters and digits, each of them
folded. A mark continues a word but does not start one.
-/

namespace RecordStore.FullText

/-- A character that continues a word. -/
def continuesWord (char : Char) : Bool := isWordChar char || isMark char

/-- The characters of a word as the index writes them. -/
def foldWord (word : List Char) : String := String.ofList (word.filterMap folded?)

/-- The words of a text, given the characters of the word that is being read, the last of
them first. -/
def wordsFrom : List Char → List Char → List String
  | [], [] => []
  | reading, [] => [foldWord reading.reverse]
  | [], char :: rest =>
    if isWordChar char then wordsFrom [char] rest else wordsFrom [] rest
  | reading, char :: rest =>
    if continuesWord char then wordsFrom (char :: reading) rest
    else foldWord reading.reverse :: wordsFrom [] rest

/-- The words of a text in their order. -/
def words (text : String) : List String := wordsFrom [] text.toList

/-- The text under which a stored value is indexed. -/
def indexText : Stored → String
  | .text value => value
  | .integer value => toString value.toInt
  | _ => ""

/-- The words of one column of a row, with the name of the column. -/
structure ColumnWords where
  column : String
  words : List String
  deriving DecidableEq, Repr

/-- The words of a row, column by column. A column that is only carried has none. -/
abbrev RowWords := List ColumnWords

/-- All sizes of a list together. -/
def total (sizes : List Nat) : Nat := sizes.foldr (· + ·) 0

/-- How many words a row has. -/
def RowWords.size (row : RowWords) : Nat := total (row.map fun column => column.words.length)

end RecordStore.FullText
