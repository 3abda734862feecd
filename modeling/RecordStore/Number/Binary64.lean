/-!
# Double precision numbers

A number is its sixty-four bits, and every finite number is an integer count of the
smallest positive one, `2 ^ -1074`. Comparison, truncation and rounding are therefore
integer arithmetic: nothing here asks the processor, and every result can be computed
inside a proof.

Rounding goes to the nearest number, and a tie to the one with an even last bit.
-/

namespace RecordStore

/-- A double precision number, as its bits. -/
structure Binary64 where
  bits : UInt64
  deriving DecidableEq, Repr, Inhabited

namespace Binary64

/-- The bits of positive infinity; every finite magnitude has smaller bits. -/
def infinityBits : Nat := 0x7FF0000000000000

/-- The bit above the magnitude, set in negative numbers. -/
def signBit : Nat := 0x8000000000000000

/-- The lowest bit of the exponent field, and the leading bit of a full significand. -/
def hiddenBit : Nat := 0x10000000000000

/-- Zero. -/
def zero : Binary64 := ⟨0⟩

/-- Whether the sign is set. -/
def isNegative (number : Binary64) : Bool := decide (signBit ≤ number.bits.toNat)

/-- The bits without the sign. -/
def magnitudeBits (number : Binary64) : Nat := number.bits.toNat % signBit

/-- Whether the bits stand for no number. -/
def isNaN (number : Binary64) : Bool := decide (infinityBits < number.magnitudeBits)

/-- Whether the bits stand for an infinity. -/
def isInfinite (number : Binary64) : Bool := decide (number.magnitudeBits = infinityBits)

/-- Whether the bits stand for a number. -/
def isFinite (number : Binary64) : Bool := decide (number.magnitudeBits < infinityBits)

/-- The size of a finite number, counted in units of `2 ^ -1074`. A zero exponent field
    carries no hidden bit; any other field raises the significand by one less than itself. -/
def magnitudeUnits (number : Binary64) : Nat :=
  let field := number.magnitudeBits / hiddenBit
  let fraction := number.magnitudeBits % hiddenBit
  if field = 0 then fraction else (hiddenBit + fraction) <<< (field - 1)

/-- How many units of `2 ^ -1074` make one. -/
def unitsInOne : Nat := 1 <<< 1074

/-- A finite number as a signed count of units of `2 ^ -1074`; both zeros count none. -/
def units (number : Binary64) : Int :=
  if number.isNegative then -(number.magnitudeUnits : Int) else number.magnitudeUnits

/-- A count of units that no finite number reaches. -/
def unitsBeyond : Nat := 1 <<< 2200

/-- Position of a number that is not a NaN on a line whose two ends are the infinities. -/
def position (number : Binary64) : Int :=
  if number.isInfinite then
    if number.isNegative then -(unitsBeyond : Int) else unitsBeyond
  else number.units

/-- The order of numbers that are not NaNs; the two zeros are equal. -/
def order (left right : Binary64) : Ordering := compare left.position right.position

/-- The order between an integer and a number that is not a NaN, without rounding either. -/
def orderInteger (left : Int) (right : Binary64) : Ordering :=
  compare (left * unitsInOne) right.position

/-- Equality as arithmetic sees it: a NaN differs from everything, the zeros are equal. -/
def sameNumber (left right : Binary64) : Bool :=
  !left.isNaN && !right.isNaN && left.order right == .eq

/-- The bits of the magnitude nearest to `numerator / denominator`, for a positive
    denominator. The quotient is cut to fifty-three bits, the part cut off is compared
    with one half, and because the exponent field lies directly above the fraction a carry
    out of the fraction raises the exponent by itself. -/
def nearestMagnitude (numerator denominator : Nat) : Nat :=
  let scaled := numerator * unitsInOne
  let quotient := scaled / denominator
  let raise := Nat.log2 quotient - 52
  let kept := quotient >>> raise
  let step := denominator <<< raise
  let cut := scaled - kept * step
  let roundsUp := decide (step < 2 * cut) || (decide (step = 2 * cut) && kept % 2 == 1)
  let rounded := if roundsUp then kept + 1 else kept
  min (raise * hiddenBit + rounded) infinityBits

/-- The number nearest to a signed ratio. -/
def ofRatio (negative : Bool) (numerator denominator : Nat) : Binary64 :=
  let magnitude := nearestMagnitude numerator denominator
  ⟨UInt64.ofNat (if negative then signBit + magnitude else magnitude)⟩

/-- The number nearest to an integer. -/
def ofInt (value : Int) : Binary64 := ofRatio (decide (value < 0)) value.natAbs 1

/-- The integer part of a finite number, cut toward zero. -/
def truncated (number : Binary64) : Int := number.units.tdiv unitsInOne

/-- The integer part in sixty-four bits. What does not fit becomes the nearest end of the
    range, and a NaN becomes zero. -/
def toInt64Saturating (number : Binary64) : Int64 :=
  if number.isNaN then 0
  else if number.isInfinite then
    if number.isNegative then Int64.minValue else Int64.maxValue
  else
    let value := number.truncated
    if value < Int64.minValue.toInt then Int64.minValue
    else if Int64.maxValue.toInt < value then Int64.maxValue
    else Int64.ofInt value

/-- The integer that a finite number is, if it is one. -/
def toInt? (number : Binary64) : Option Int :=
  if number.isFinite && number.units % unitsInOne == 0 then some (number.units / unitsInOne)
  else none

end Binary64

end RecordStore
