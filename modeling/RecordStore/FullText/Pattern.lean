import RecordStore.FullText.Words

/-!
# Patterns

What a row's words are asked for. A phrase is a run of words that follow one another in one
column; its words may be beginnings of words. Phrases of a group stand near each other.
Groups are combined by `and`, `or` and `not`. A group may be confined to some columns.

A place in a row is a column's number and a word's number in it, as one integer, so that
places in different columns are always far apart.
-/

namespace RecordStore.FullText

/-- A word that is asked for, or the beginning of one. -/
structure WordPattern where
  word : String
  isBeginning : Bool
  deriving DecidableEq, Repr

/-- Whether a word is what is asked for. -/
def WordPattern.accepts (wanted : WordPattern) (word : String) : Bool :=
  if wanted.isBeginning then wanted.word.toList.isPrefixOf word.toList else wanted.word == word

/-- Words that follow one another. -/
structure Phrase where
  words : List WordPattern
  /-- Whether the phrase must start its column. -/
  atStart : Bool
  deriving DecidableEq, Repr

/-- Phrases that stand near each other. -/
structure Group where
  phrases : List Phrase
  distance : Nat
  /-- The columns to which the group is confined; all of them if none are given. -/
  columns : Option (List String)
  deriving DecidableEq, Repr

/-- What a row is asked for. -/
inductive Pattern where
  /-- Nothing at all, which no row has. -/
  | nothing
  | group (group : Group)
  | both (left right : Pattern)
  | either (left right : Pattern)
  | butNot (left right : Pattern)
  deriving DecidableEq, Repr

/-- The distance between the places of two columns. -/
def columnSpan : Nat := 4294967296

/-- Whether the first words of a text are those of a phrase. -/
def startsWith : List WordPattern → List String → Bool
  | [], _ => true
  | _ :: _, [] => false
  | wanted :: more, word :: rest => wanted.accepts word && startsWith more rest

/-- Where a phrase stands in a text whose first word has the given number. -/
def phraseStarts (phrase : Phrase) (number : Nat) : List String → List Nat
  | [] => []
  | word :: rest =>
    let later := if phrase.atStart then [] else phraseStarts phrase (number + 1) rest
    if startsWith phrase.words (word :: rest) then number :: later else later

/-- The columns of a row with their numbers. -/
def numbered : Nat → RowWords → List (Nat × ColumnWords)
  | _, [] => []
  | number, column :: rest => (number, column) :: numbered (number + 1) rest

/-- Whether a column is among those that are asked. -/
def isAsked (columns : Option (List String)) (column : String) : Bool :=
  match columns with
  | none => true
  | some columns => columns.contains column

/-- The places of a phrase in a row, in increasing order. A phrase without words is
nowhere. -/
def Phrase.places (phrase : Phrase) (columns : Option (List String)) (row : RowWords) :
    List Nat :=
  if phrase.words.isEmpty then []
  else (numbered 0 row).flatMap fun column =>
    if isAsked columns column.2.column then
      (phraseStarts phrase 0 column.2.words).map (column.1 * columnSpan + ·)
    else []

/-- One phrase of a group while its places are walked: how many words it has, where it
stands now and where it can stand later. -/
structure Walker where
  length : Nat
  here : Nat
  later : List Nat
  deriving DecidableEq, Repr

namespace Walker

/-- The first place of a walk. -/
def start? (phrase : Phrase) (places : List Nat) : Option Walker :=
  match places with
  | [] => none
  | here :: later => some ⟨phrase.words.length, here, later⟩

/-- The walk moved on until it is no longer before a place. -/
def advanceTo? (walker : Walker) (place : Int) : Option Walker :=
  if place ≤ walker.here then some walker
  else
    match walker.later.dropWhile fun (later : Nat) => decide (Int.ofNat later < place) with
    | [] => none
    | here :: later => some ⟨walker.length, here, later⟩

end Walker

/-- Brings all phrases within reach of the farthest one, once around. The result tells the
farthest place and whether any phrase was out of reach. -/
def gatherOnce (distance : Nat) :
    List Walker → Nat → Option (List Walker × Nat × Bool)
  | [], farthest => some ([], farthest, false)
  | walker :: rest, farthest =>
    let reach : Int := (farthest : Int) - walker.length - distance
    if (walker.here : Int) < reach ∨ farthest < walker.here then
      match walker.advanceTo? reach with
      | none => none
      | some moved =>
        (gatherOnce distance rest (max farthest moved.here)).map fun gathered =>
          (moved :: gathered.1, gathered.2.1, true)
    else
      (gatherOnce distance rest farthest).map fun gathered =>
        (walker :: gathered.1, gathered.2.1, gathered.2.2)

/-- Brings all phrases within reach of each other, if their walks allow it. -/
def gather (distance : Nat) : Nat → List Walker → Nat → Option (List Walker)
  | 0, _, _ => none
  | rounds + 1, walkers, farthest =>
    match gatherOnce distance walkers farthest with
    | none => none
    | some (moved, farther, outOfReach) =>
      if outOfReach then gather distance rounds moved farther else some moved

/-- The walk that can move on by the smallest step, as its number. A walk that has ended
comes last. -/
def nextToMove (walkers : List Walker) : Nat :=
  let nexts := walkers.map fun walker => walker.later.head?.getD (columnSpan * columnSpan)
  let least := nexts.foldl min (columnSpan * columnSpan)
  nexts.findIdx (· == least)

/-- Adds the places where the phrases stand now, each only once in a row. -/
def record (walkers : List Walker) (found : List (List Nat)) : List (List Nat) :=
  (walkers.zip found).map fun pair =>
    if pair.2.head? == some pair.1.here then pair.2 else pair.1.here :: pair.2

/-- Enough rounds to bring walks together: each round moves one of them on or moves the
farthest place. -/
def gatherRounds (walkers : List Walker) : Nat :=
  2 * total (walkers.map fun walker => walker.later.length + 1) + 2

/-- Walks all places of a group and collects those where its phrases stand near each other,
the last place first. -/
def collect (distance : Nat) : Nat → List Walker → List (List Nat) → List (List Nat)
  | 0, _, found => found
  | rounds + 1, walkers, found =>
    let farthest := (walkers.head?.map Walker.here).getD 0
    match gather distance (gatherRounds walkers) walkers farthest with
    | none => found
    | some near =>
      let found := record near found
      let moving := nextToMove near
      match (near[moving]?).bind fun walker =>
          walker.later.head?.map fun here => ⟨walker.length, here, walker.later.tail⟩ with
      | none => found
      | some (moved : Walker) => collect distance rounds (near.set moving moved) found

/-- The places of each phrase of a group in a row. Several phrases count only where they
stand near each other. -/
def Group.places (group : Group) (row : RowWords) : List (List Nat) :=
  let places := group.phrases.map fun phrase => phrase.places group.columns row
  match group.phrases with
  | [_] => places
  | phrases =>
    match (phrases.zip places).mapM fun pair => Walker.start? pair.1 pair.2 with
    | none => phrases.map fun _ => []
    | some walkers =>
      let rounds := total (places.map List.length) + 1
      (collect group.distance rounds walkers (phrases.map fun _ => [])).map List.reverse

/-- Whether a row has a group. -/
def Group.holds (group : Group) (row : RowWords) : Bool :=
  (group.places row).any fun places => !places.isEmpty

namespace Pattern

/-- Whether a row has what is asked for. -/
def holds : Pattern → RowWords → Bool
  | .nothing, _ => false
  | .group near, row => near.holds row
  | .both left right, row => left.holds row && right.holds row
  | .either left right, row => left.holds row || right.holds row
  | .butNot left right, row => left.holds row && !right.holds row

/-- The phrases of a pattern in their order, each with the columns it is asked of. -/
def phrases : Pattern → List (Phrase × Option (List String))
  | .nothing => []
  | .group near => near.phrases.map fun phrase => (phrase, near.columns)
  | .both left right => left.phrases ++ right.phrases
  | .either left right => left.phrases ++ right.phrases
  | .butNot left right => left.phrases ++ right.phrases

/-- How often each phrase of a pattern counts in a row. Phrases of a part that the row does
not have count nowhere. -/
def hits : Pattern → RowWords → List Nat
  | .nothing, _ => []
  | .group near, row => (near.places row).map List.length
  | .both left right, row =>
    if left.holds row && right.holds row then left.hits row ++ right.hits row
    else (left.phrases ++ right.phrases).map fun _ => 0
  | .either left right, row => left.hits row ++ right.hits row
  | .butNot left right, row =>
    (if left.holds row && !right.holds row then left.hits row
      else left.phrases.map fun _ => 0) ++ right.phrases.map fun _ => 0

/-- A pattern confined to columns. A group that was confined already is confined to the
columns that both allow. -/
def confine (columns : List String) : Pattern → Pattern
  | .nothing => .nothing
  | .group near =>
    .group { near with
      columns := some (match near.columns with
        | none => columns
        | some allowed => allowed.filter fun column => columns.contains column) }
  | .both left right => .both (left.confine columns) (right.confine columns)
  | .either left right => .either (left.confine columns) (right.confine columns)
  | .butNot left right => .butNot (left.confine columns) (right.confine columns)

end Pattern

end RecordStore.FullText
