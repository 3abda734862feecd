import RecordStore.FullText.Pattern
import RecordStore.Number.Binary64

/-!
# Rank

How well a row answers a pattern, by the usual weighting of words: a phrase counts more the
fewer rows have it, and more the more often a row has it, with less and less gain and
less in long rows. Better rows have smaller ranks. The weighting is the one computation
that is left to the processor's arithmetic.
-/

namespace RecordStore.FullText

/-- The rows of a full-text table as far as ranks depend on them. -/
structure Corpus where
  rows : List RowWords

namespace Corpus

/-- How many words a row has on average. -/
def averageSize (corpus : Corpus) : Float :=
  Float.ofNat (total (corpus.rows.map RowWords.size)) / Float.ofNat corpus.rows.length

/-- How many rows have a phrase. -/
def rowsWith (corpus : Corpus) (phrase : Phrase × Option (List String)) : Nat :=
  (corpus.rows.filter fun row => !(phrase.1.places phrase.2 row).isEmpty).length

/-- How much a phrase says: more the fewer rows have it, and always something. -/
def weight (corpus : Corpus) (phrase : Phrase × Option (List String)) : Float :=
  let having := Float.ofNat (corpus.rowsWith phrase)
  let weight :=
    Float.log ((Float.ofNat corpus.rows.length - having + 0.5) / (having + 0.5))
  if weight ≤ 0.0 then 1e-6 else weight

/-- How fast further places of a phrase lose their worth. -/
def saturation : Float := 1.2

/-- How much the length of a row counts. -/
def lengthShare : Float := 0.75

/-- The part of one phrase in the rank of a row. -/
def part (corpus : Corpus) (size : Float) (weight : Float) (hits : Nat) : Float :=
  let count := Float.ofNat hits
  weight * ((count * (saturation + 1.0)) /
    (count + saturation * (1.0 - lengthShare + lengthShare * size / corpus.averageSize)))

/-- The rank of a row, given how much each phrase says and how often the row has it. -/
def rank (corpus : Corpus) (weights : List Float) (hits : List Nat) (size : Nat) : Binary64 :=
  let score := (weights.zip hits).foldl
    (fun sum pair => sum + corpus.part (Float.ofNat size) pair.1 pair.2) 0.0
  ⟨(-1.0 * score).toBits⟩

/-- The rank of every row for a pattern, in the order of the rows. -/
def ranks (corpus : Corpus) (pattern : Pattern) : List Binary64 :=
  let weights := pattern.phrases.map corpus.weight
  corpus.rows.map fun row => corpus.rank weights (pattern.hits row) row.size

end Corpus

end RecordStore.FullText
