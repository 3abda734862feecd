import RecordStore.Number.Binary64

/-!
# Numbers as text

Writing a real for a text column, and reading a number out of text for a numeric one.
A real is written with at most fifteen significant digits; the sixteenth digit alone
decides the rounding. A number text may carry blanks on both sides, a sign, a point and
an exponent; an integer text has neither point nor exponent.
-/

namespace RecordStore

namespace Binary64

/-- How many decimal places the first significant digit of `units / 2 ^ 1074` stands behind
    the point, for a positive count below one. The count of steps bounds the search; no
    positive number needs more than 324 of them. -/
def leadingPlaces : Nat → Nat → Nat
  | 0, _ => 0
  | steps + 1, scaled =>
    if unitsInOne ≤ scaled * 10 then 1 else leadingPlaces steps (scaled * 10) + 1

/-- The decimal exponent of a positive number: `10 ^ e ≤ value < 10 ^ (e + 1)`. -/
def decimalExponent (units : Nat) : Int :=
  let whole := units / unitsInOne
  if whole = 0 then -(leadingPlaces 330 units : Int)
  else ((Nat.toDigits 10 whole).length : Int) - 1

/-- The power of ten of an exponent. -/
def tenTo (exponent : Nat) : Nat := Nat.pow 10 exponent

/-- The first fifteen significant digits as a number, with the decimal exponent of their
    first digit. -/
def fifteenDigits (units : Nat) : Nat × Int :=
  let exponent := decimalExponent units
  let shift := 15 - exponent
  let sixteen :=
    if 0 ≤ shift then units * tenTo shift.toNat / unitsInOne
    else units / (unitsInOne * tenTo (-shift).toNat)
  let fifteen := (sixteen + 5) / 10
  if fifteen = tenTo 15 then (tenTo 14, exponent + 1) else (fifteen, exponent)

/-- Digits with the zeros at the end left out. -/
def withoutTrailingZeros (digits : List Char) : List Char :=
  (digits.reverse.dropWhile (· == '0')).reverse

/-- Digits after the point; there is always one. -/
def fractionText (digits : List Char) : String :=
  match withoutTrailingZeros digits with
  | [] => "0"
  | kept => String.ofList kept

/-- An exponent with its sign and at least two digits. -/
def exponentText (exponent : Int) : String :=
  let digits := toString exponent.natAbs
  (if exponent < 0 then "-" else "+") ++ (if digits.length < 2 then "0" ++ digits else digits)

/-- The text of a real: fifteen significant digits, positional while the decimal exponent
    lies between -4 and 14, with an exponent otherwise, and always with a point. -/
def text (number : Binary64) : String :=
  if number.isNaN then "NaN"
  else if number.isInfinite then if number.isNegative then "-Inf" else "Inf"
  else if number.magnitudeUnits = 0 then "0.0"
  else
    let (significant, exponent) := fifteenDigits number.magnitudeUnits
    let digits := Nat.toDigits 10 significant
    let sign := if number.isNegative then "-" else ""
    if exponent < -4 ∨ 14 < exponent then
      sign ++ String.ofList (digits.take 1) ++ "." ++ fractionText (digits.drop 1) ++ "e" ++
        exponentText exponent
    else if exponent < 0 then
      sign ++ "0." ++ fractionText (List.replicate (exponent.natAbs - 1) '0' ++ digits)
    else
      let before := exponent.toNat + 1
      sign ++ String.ofList (digits.take before) ++ "." ++ fractionText (digits.drop before)

end Binary64

/-- A number read out of text. -/
inductive NumberText where
  /-- Digits alone. -/
  | integer (value : Int)
  /-- Digits with a point or an exponent: `digits * 10 ^ exponent`. -/
  | decimal (negative : Bool) (digits : Nat) (exponent : Int)
  deriving DecidableEq, Repr

namespace NumberText

/-- The blanks that may stand around a number. -/
def isBlank (char : Char) : Bool :=
  char == ' ' || char == '\t' || char == '\n' || char == '\r' ||
    char == Char.ofNat 11 || char == Char.ofNat 12

/-- The number that decimal digits state. -/
def digitsValue (digits : List Char) : Nat :=
  digits.foldl (fun value char => value * 10 + (char.toNat - '0'.toNat)) 0

/-- The exponents that a text can state; beyond them every number is zero or infinite. -/
def exponentLimit : Nat := 10000

/-- The longest number at the start of a text, and the text behind it. An exponent mark
    without digits belongs to the text behind. -/
def readLeading (text : List Char) : Option (NumberText × List Char) :=
  let text := text.dropWhile isBlank
  let negative := text.head? == some '-'
  let unsigned := if negative || text.head? == some '+' then text.drop 1 else text
  let whole := unsigned.takeWhile Char.isDigit
  let afterWhole := unsigned.dropWhile Char.isDigit
  let pointed := afterWhole.head? == some '.'
  let fraction := if pointed then (afterWhole.drop 1).takeWhile Char.isDigit else []
  let afterFraction := if pointed then (afterWhole.drop 1).dropWhile Char.isDigit else afterWhole
  if whole.isEmpty && fraction.isEmpty then none
  else
    let digits := digitsValue (whole ++ fraction)
    let marked := afterFraction.head? == some 'e' || afterFraction.head? == some 'E'
    let afterMark := if marked then afterFraction.drop 1 else afterFraction
    let signed := afterMark.head? == some '-' || afterMark.head? == some '+'
    let exponentDigits :=
      ((if signed then afterMark.drop 1 else afterMark).takeWhile Char.isDigit)
    if marked && !exponentDigits.isEmpty then
      let size : Int := min (digitsValue exponentDigits) exponentLimit
      let exponent := if afterMark.head? == some '-' then -size else size
      some (.decimal negative digits (exponent - fraction.length),
        (if signed then afterMark.drop 1 else afterMark).dropWhile Char.isDigit)
    else if pointed then some (.decimal negative digits (-(fraction.length : Int)), afterFraction)
    else some (.integer (if negative then -(digits : Int) else digits), afterFraction)

/-- The number that a whole text states, blanks around it aside. -/
def read? (text : List Char) : Option NumberText :=
  match readLeading text with
  | some (number, rest) => if rest.all isBlank then some number else none
  | none => none

/-- The real nearest to a number text. -/
def toReal : NumberText → Binary64
  | .integer value => Binary64.ofInt value
  | .decimal negative digits exponent =>
    if 0 ≤ exponent then Binary64.ofRatio negative (digits * Binary64.tenTo exponent.toNat) 1
    else Binary64.ofRatio negative digits (Binary64.tenTo (-exponent).toNat)

end NumberText

end RecordStore
