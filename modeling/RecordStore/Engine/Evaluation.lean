import RecordStore.Engine.Scope
import RecordStore.FullText.Syntax

/-!
# Evaluation

The value of an expression in a scope. A truth value is zero or one, and null where it is
not known; a condition holds only where it is known to be true. Before two values are
compared they are brought to one class, as the affinity of the comparison asks.
-/

namespace RecordStore

open Sql

namespace Stored

/-- Whether a value counts as true, when that is known. -/
def truth? : Stored → Option Bool
  | .null => none
  | .integer value => some (value != 0)
  | .real value => some (value.magnitudeBits != 0)
  | .text value =>
    some (match NumberText.readLeading value.toList with
      | some (number, _) => number.toReal.magnitudeBits != 0
      | none => false)
  | .blob _ => some false

/-- A truth value that may be unknown. -/
def ofTruth : Option Bool → Stored
  | none => .null
  | some value => .ofBool value

/-- The text of a value. -/
def toText : Stored → String
  | .null => ""
  | .integer value => toString value.toInt
  | .real value => value.text
  | .text value => value
  | .blob bytes => String.ofList (bytes.map fun byte => Char.ofNat byte.toNat)

/-- The number that a value counts as in arithmetic. -/
def toNumber : Stored → Stored
  | .text value =>
    match NumberText.readLeading value.toList with
    | some (.integer whole, _) =>
      match int64? whole with
      | some whole => .integer whole
      | none => .real (Binary64.ofInt whole)
    | some (number, _) => .real number.toReal
    | none => .integer 0
  | .blob _ => .integer 0
  | value => value

/-- A number as a real. -/
def toReal : Stored → Binary64
  | .integer value => Binary64.ofInt value.toInt
  | .real value => value
  | _ => Binary64.zero

/-- A finite real of a signed count of units of `2 ^ -1074`, divided. -/
def ofUnits (units : Int) (divisor : Nat) : Stored :=
  .real (Binary64.ofRatio (decide (units < 0)) units.natAbs (Binary64.unitsInOne * divisor))

/-- An integer result, or the nearest real where it does not fit. -/
def ofWhole (value : Int) : Stored :=
  match int64? value with
  | some value => .integer value
  | none => .real (Binary64.ofInt value)

/-- A computation on two numbers: exact for two integers, and rounded once otherwise. -/
def arithmetic (whole : Int → Int → Stored) (units : Int → Int → Stored)
    (left right : Stored) : Stored :=
  match left.toNumber, right.toNumber with
  | .null, _ => .null
  | _, .null => .null
  | .integer left, .integer right => whole left.toInt right.toInt
  | left, right => units left.toReal.units right.toReal.units

/-- A sum. -/
def add (left right : Stored) : Stored :=
  arithmetic (fun a b => ofWhole (a + b)) (fun a b => ofUnits (a + b) 1) left right

/-- A difference. -/
def subtract (left right : Stored) : Stored :=
  arithmetic (fun a b => ofWhole (a - b)) (fun a b => ofUnits (a - b) 1) left right

/-- A product. -/
def multiply (left right : Stored) : Stored :=
  arithmetic (fun a b => ofWhole (a * b))
    (fun a b => ofUnits (a * b) Binary64.unitsInOne) left right

/-- A quotient; nothing is divided by zero. -/
def divide (left right : Stored) : Stored :=
  arithmetic (fun a b => if b = 0 then .null else ofWhole (a.tdiv b))
    (fun a b =>
      if b = 0 then .null
      else ofUnits (if b < 0 then -(a * Binary64.unitsInOne) else a * Binary64.unitsInOne)
        b.natAbs) left right

/-- A remainder of whole parts, with the sign of the left side. -/
def remainder (left right : Stored) : Stored :=
  arithmetic (fun a b => if b = 0 then .null else ofWhole (a.tmod b))
    (fun a b =>
      let a := a.tdiv Binary64.unitsInOne
      let b := b.tdiv Binary64.unitsInOne
      if b = 0 then .null else .real (Binary64.ofInt (a.tmod b))) left right

/-- A value with its sign turned around. -/
def negated (value : Stored) : Stored :=
  match value.toNumber with
  | .integer value => ofWhole (-value.toInt)
  | .real value => .real ⟨value.bits ^^^ 0x8000000000000000⟩
  | _ => .null

/-- Two texts one after the other. -/
def concatenate (left right : Stored) : Stored :=
  if left.isNull || right.isNull then .null else .text (left.toText ++ right.toText)

/-- Whether a text fits a pattern in which a percent sign stands for anything and an
underscore for one character; ASCII letters fit in either case. -/
def likePattern : List Char → List Char → Bool
  | [], chars => chars.isEmpty
  | '%' :: pattern, [] => likePattern pattern []
  | '%' :: pattern, char :: rest =>
    likePattern pattern (char :: rest) || likePattern ('%' :: pattern) rest
  | _ :: _, [] => false
  | wanted :: pattern, char :: rest =>
    (wanted == '_' || wanted.toLower == char.toLower) && likePattern pattern rest
termination_by pattern chars => pattern.length + chars.length

/-- Whether a value is like a pattern, which is unknown if either is null. -/
def like (text pattern : Stored) : Option Bool :=
  if text.isNull || pattern.isNull then none
  else some (likePattern pattern.toText.toList text.toText.toList)

/-- The storage class of a value as a word. -/
def typeWord : Stored → String
  | .null => "null"
  | .integer _ => "integer"
  | .real _ => "real"
  | .text _ => "text"
  | .blob _ => "blob"

/-- Bytes as hexadecimal digits in capitals. -/
def hexText (bytes : List UInt8) : String :=
  let digit (value : Nat) : Char := "0123456789ABCDEF".toList.getD value '0'
  String.ofList (bytes.flatMap fun byte => [digit (byte.toNat / 16), digit (byte.toNat % 16)])

/-- The bytes of a value. -/
def toBytes : Stored → List UInt8
  | .blob bytes => bytes
  | value => value.toText.toUTF8.toList

/-- A value as a literal. -/
def literal : Stored → String
  | .null => "NULL"
  | .text value =>
    "'" ++ String.ofList (value.toList.flatMap fun char =>
      if char.toNat = 39 then [char, char] else [char]) ++ "'"
  | .blob bytes => "X'" ++ hexText bytes ++ "'"
  | value => value.toText

/-- The characters of a text, or the bytes of a blob. -/
def size : Stored → Stored
  | .null => .null
  | .blob bytes => .integer (Int64.ofNat bytes.length)
  | value => .integer (Int64.ofNat (value.toText.toList.takeWhile (·.toNat != 0)).length)

/-- A value forced to be an integer: the whole part at its beginning. -/
def castInteger : Stored → Stored
  | .null => .null
  | .real value => .integer value.toInt64Saturating
  | .integer value => .integer value
  | value =>
    match NumberText.readLeading (value.toText.toList.takeWhile (fun char => char != '.' &&
        char != 'e' && char != 'E')) with
    | some (.integer whole, _) =>
      .integer (if whole < Int64.minValue.toInt then Int64.minValue
        else if Int64.maxValue.toInt < whole then Int64.maxValue else Int64.ofInt whole)
    | _ => .integer 0

/-- Spaces taken from both ends. -/
def trimmed (value : Stored) : Stored :=
  let withoutLeading (text : List Char) : List Char := text.dropWhile (· == ' ')
  .text (String.ofList
    (withoutLeading (withoutLeading value.toText.toList).reverse).reverse)

/-- A function of a value that leaves null alone. -/
def unlessNull (value : Stored) (apply : Stored → Stored) : Stored :=
  if value.isNull then .null else apply value

end Stored

namespace Engine

/-- Two values compared under an affinity. -/
def compareUnder (affinity : Affinity) (left right : Stored) : Ordering :=
  (affinity.compareAs left).order (affinity.compareAs right)

/-- A comparison whose answer is unknown where a side is null. -/
def comparison (affinity : Affinity) (decide : Ordering → Bool) (left right : Stored) : Stored :=
  if left.isNull || right.isNull then .null
  else .ofBool (decide (compareUnder affinity left right))

/-- Whether a value is among candidates: true where it equals one, unknown where a null
stands in the way. -/
def membership (affinity : Affinity) (target : Stored) (candidates : List Stored) :
    Option Bool :=
  if target.isNull then none
  else if candidates.any fun candidate =>
      !candidate.isNull && compareUnder affinity target candidate == .eq then some true
  else if candidates.any Stored.isNull then none
  else some false

/-- What an operation on one side comes to. -/
def unary (operator : UnaryOperator) (value : Stored) : Stored :=
  match operator with
  | .negative => value.negated
  | .positive => value
  | .not => .ofTruth (value.truth?.map (!·))
  | .isNull => .ofBool value.isNull
  | .isNotNull => .ofBool (!value.isNull)
  | .length => value.size
  | .upper => value.unlessNull fun value => .text (value.toText.map Char.toUpper)
  | .lower => value.unlessNull fun value => .text (value.toText.map Char.toLower)
  | .typeOf => .text value.typeWord
  | .absolute =>
    value.unlessNull fun value =>
      match value.toNumber with
      | .integer whole => .ofWhole whole.toInt.natAbs
      | number => .real ⟨number.toReal.bits &&& 0x7FFFFFFFFFFFFFFF⟩
  | .hexadecimal => .text (Stored.hexText value.toBytes)
  | .quoted => .text value.literal
  | .trimmed => value.unlessNull Stored.trimmed
  | .asText => value.unlessNull fun value => .text value.toText
  | .asInteger => value.castInteger
  | .asReal => value.unlessNull fun value => .real value.toNumber.toReal
  | .asNumeric => value.unlessNull fun value => value.toNumber.wholeAsInteger
  | .asBlob => value.unlessNull fun value => .blob value.toBytes

/-- What an operation between two sides comes to. The affinity is that under which a comparison
compares. -/
def binary (operator : BinaryOperator) (affinity : Affinity) (left right : Stored) : Stored :=
  match operator with
  | .equal => comparison affinity (· == .eq) left right
  | .unequal => comparison affinity (· != .eq) left right
  | .less => comparison affinity (· == .lt) left right
  | .atMost => comparison affinity (· != .gt) left right
  | .greater => comparison affinity (· == .gt) left right
  | .atLeast => comparison affinity (· != .lt) left right
  | .is => .ofBool (compareUnder affinity left right == .eq)
  | .isNot => .ofBool (compareUnder affinity left right != .eq)
  | .and =>
    .ofTruth (match left.truth?, right.truth? with
      | some false, _ => some false
      | _, some false => some false
      | some true, some true => some true
      | _, _ => none)
  | .or =>
    .ofTruth (match left.truth?, right.truth? with
      | some true, _ => some true
      | _, some true => some true
      | some false, some false => some false
      | _, _ => none)
  | .add => left.add right
  | .subtract => left.subtract right
  | .multiply => left.multiply right
  | .divide => left.divide right
  | .remainder => left.remainder right
  | .concatenate => left.concatenate right
  | .like => .ofTruth (left.like right)
  | .notLike => .ofTruth ((left.like right).map (!·))
  | .coalesce => if left.isNull then right else left
  | .nullIf =>
    if !left.isNull && !right.isNull && compareUnder affinity left right == .eq then .null
    else left

/-- The affinity of an expression, if it is a column or a conversion. -/
def affinityOf (scope : Scope) : Expression Stored → Option Affinity
  | .column source name => scope.affinity? source name
  | .grouped inner => affinityOf scope inner
  | .unary .positive inner => affinityOf scope inner
  | .unary .asText _ => some .text
  | .unary .asInteger _ => some .integer
  | .unary .asReal _ => some .real
  | .unary .asNumeric _ => some .numeric
  | .unary .asBlob _ => some .blob
  | _ => none

/-- Values without repetition, the first of each kept. -/
def distinctValues : List Stored → List Stored
  | [] => []
  | value :: rest => value :: (distinctValues rest).filter fun other => !other.same value

/-- An aggregate of the values of a group. -/
def aggregate (function : Aggregate) (distinct : Bool) (values : List Stored) : Stored :=
  let known := values.filter fun value => !value.isNull
  let known := if distinct then distinctValues known else known
  let sum := known.foldl Stored.add (.integer 0)
  match function with
  | .count => .integer (Int64.ofNat known.length)
  | .sum => if known.isEmpty then .null else sum
  | .total => .real sum.toReal
  | .average =>
    if known.isEmpty then .null
    else Stored.divide (.real sum.toReal) (.integer (Int64.ofNat known.length))
  | .least =>
    known.foldl (fun least value =>
      if least.isNull || value.order least == .lt then value else least) .null
  | .greatest =>
    known.foldl (fun greatest value =>
      if greatest.isNull || value.order greatest == .gt then value else greatest) .null

/-- Whether a row of a full-text table has what a pattern text asks for. A match by a column's
name asks that column only. -/
def matchesPattern (scope : Scope) (source : Option String) (name : String)
    (pattern : Stored) : Stored :=
  match scope.matched? source name with
  | none => .null
  | some binding =>
    match binding.fullText with
    | none => .null
    | some (table, columns, _) =>
      match FullText.Pattern.parse (columns.map FullTextColumn.name) pattern.toText with
      | .error _ => .null
      | .ok asked =>
        let asked :=
          if sameName name table then asked
          else asked.confine ((columns.map FullTextColumn.name).filter (sameName name))
        .ofBool (asked.holds (FullTextTable.wordsOf columns binding.values))

/-- The value of an expression in a scope. An aggregate is taken over the scopes of a
group. -/
def evaluate (group : List Scope) (scope : Scope) : Expression Stored → Stored
  | .operand value => value
  | .number value => .integer value
  | .column source name => scope.value source name
  | .unary operator inner => unary operator (evaluate group scope inner)
  | .binary operator left right =>
    binary operator (Affinity.between (affinityOf scope left) (affinityOf scope right))
      (evaluate group scope left) (evaluate group scope right)
  | .oneOf negated target candidates =>
    let found := membership ((affinityOf scope target).getD .blob)
      (evaluate group scope target) candidates
    .ofTruth (if negated then found.map (!·) else found)
  | .grouped inner => evaluate group scope inner
  | .matching source name pattern => matchesPattern scope source name pattern
  | .countRows => .integer (Int64.ofNat group.length)
  | .aggregate function distinct argument =>
    aggregate function distinct (group.map fun scope => evaluate [] scope argument)

/-- Whether a condition is known to be true in a scope. -/
def holds (scope : Scope) (condition : Expression Stored) : Bool :=
  (evaluate [] scope condition).truth? == some true

/-- Whether all conditions of a clause are known to be true in a scope. -/
def allHold (scope : Scope) (conditions : Option (List (Expression Stored))) : Bool :=
  (conditions.getD []).all (holds scope)

end Engine

end RecordStore
