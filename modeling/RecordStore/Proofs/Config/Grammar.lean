import RecordStore.Config.Document

/-!
# The grammar of documents

What a JSON text may look like, said without the reader: blanks, the characters between two quotes,
numbers, and values, of which arrays and objects hold others. Blanks may stand around every item,
key and value. The grammar says which characters a text may have and not what they mean; only for
the characters between two quotes `Spells` says which content they have, where they have one.
-/

namespace RecordStore

namespace Document

/-! ### Blanks -/

/-- Characters that may stand between tokens. -/
def IsBlanks (chars : List Char) : Prop := ∀ char ∈ chars, char ∈ [' ', '\t', '\n', '\r']

/-! ### Texts -/

/-- Whether a character is the hexadecimal digit of a value, in either case. -/
def IsHexDigit (char : Char) (value : Nat) : Prop :=
  "0123456789abcdef".toList[value]? = some char ∨ "0123456789ABCDEF".toList[value]? = some char

/-- Whether four characters are the hexadecimal digits of a code unit. -/
def IsUnit (a b c d : Char) (unit : Nat) : Prop :=
  ∃ first second third fourth, IsHexDigit a first ∧ IsHexDigit b second ∧ IsHexDigit c third ∧
    IsHexDigit d fourth ∧ unit = ((first * 16 + second) * 16 + third) * 16 + fourth

/-- The letters that may stand behind a backslash, with what they stand for. -/
def escapes : List (Char × Char) :=
  [('"', '"'), ('\\', '\\'), ('/', '/'), ('b', Char.ofNat 8), ('f', Char.ofNat 12), ('n', '\n'),
    ('r', '\r'), ('t', '\t')]

/-- A character that stands for itself between quotes. -/
def IsPlain (char : Char) : Prop := 32 ≤ char.toNat ∧ char ≠ '"' ∧ char ≠ '\\'

/-- Characters that may stand between quotes. -/
inductive IsBody : List Char → Prop
  | nil : IsBody []
  | plain {char : Char} {rest : List Char} : IsPlain char → IsBody rest → IsBody (char :: rest)
  | escape {letter char : Char} {rest : List Char} :
    (letter, char) ∈ escapes → IsBody rest → IsBody ('\\' :: letter :: rest)
  | unit {a b c d : Char} {unit : Nat} {rest : List Char} :
    IsUnit a b c d unit → IsBody rest → IsBody ('\\' :: 'u' :: a :: b :: c :: d :: rest)

/-- The content of characters between quotes. A code unit that is half of a pair has one only
together with the other half. -/
inductive Spells : List Char → List Char → Prop
  | nil : Spells [] []
  | plain {char : Char} {rest content : List Char} :
    IsPlain char → Spells rest content → Spells (char :: rest) (char :: content)
  | escape {letter char : Char} {rest content : List Char} :
    (letter, char) ∈ escapes → Spells rest content →
      Spells ('\\' :: letter :: rest) (char :: content)
  | unit {a b c d : Char} {unit : Nat} {rest content : List Char} :
    IsUnit a b c d unit → unit < 0xD800 ∨ 0xE000 ≤ unit → Spells rest content →
    Spells ('\\' :: 'u' :: a :: b :: c :: d :: rest) (Char.ofNat unit :: content)
  | pair {a b c d e f g h : Char} {leading trailing : Nat} {rest content : List Char} :
    IsUnit a b c d (0xD800 + leading) → IsUnit e f g h (0xDC00 + trailing) → leading < 1024 →
    trailing < 1024 → Spells rest content →
    Spells ('\\' :: 'u' :: a :: b :: c :: d :: '\\' :: 'u' :: e :: f :: g :: h :: rest)
      (Char.ofNat (0x10000 + leading * 1024 + trailing) :: content)

/-! ### Numbers -/

/-- Digits, at least one. -/
def IsDigits (chars : List Char) : Prop := chars ≠ [] ∧ ∀ char ∈ chars, char.isDigit = true

/-- The digits before a point: a zero alone, or digits that do not start with one. -/
def IsWhole (chars : List Char) : Prop :=
  chars = ['0'] ∨ IsDigits chars ∧ chars.head? ≠ some '0'

/-- What may stand behind the digits of a number: nothing, or a point and digits. -/
def IsFraction (chars : List Char) : Prop :=
  chars = [] ∨ ∃ digits, IsDigits digits ∧ chars = '.' :: digits

/-- What may stand at the end of a number: nothing, or a mark, a sign or none, and digits. -/
def IsExponent (chars : List Char) : Prop :=
  chars = [] ∨ ∃ mark sign digits, mark ∈ ['e', 'E'] ∧ sign ∈ [[], ['+'], ['-']] ∧ IsDigits digits ∧
    chars = mark :: (sign ++ digits)

/-- A number with its parts. -/
structure Numeral where
  negative : Bool
  whole : List Char
  fraction : List Char
  exponent : List Char

namespace Numeral

/-- The characters of a number, part behind part. -/
def chars (numeral : Numeral) : List Char :=
  (if numeral.negative then ['-'] else []) ++
    (numeral.whole ++ (numeral.fraction ++ numeral.exponent))

/-- Whether the parts are what their places ask for. -/
structure IsWritten (numeral : Numeral) : Prop where
  whole : IsWhole numeral.whole
  fraction : IsFraction numeral.fraction
  exponent : IsExponent numeral.exponent

/-- What is read from a number: its whole digits, and whether there is more. -/
def literal (numeral : Numeral) : NumberLiteral :=
  ⟨numeral.negative, numeral.whole, !(numeral.fraction ++ numeral.exponent).isEmpty⟩

end Numeral

/-! ### Values -/

/-- Parts with commas between them. -/
def listed : List (List Char) → List Char
  | [] => []
  | [part] => part
  | part :: other :: rest => part ++ ',' :: listed (other :: rest)

/-- An item of an array, with the blanks around it. -/
structure Item where
  before : List Char
  value : List Char
  after : List Char

namespace Item

/-- The characters of an item with its blanks. -/
def chars (item : Item) : List Char := item.before ++ item.value ++ item.after

/-- Whether only blanks stand around an item. -/
structure IsSpaced (item : Item) : Prop where
  before : IsBlanks item.before
  after : IsBlanks item.after

end Item

/-- A member of an object: the characters of its key, those of its value, and the blanks around
them. -/
structure Member where
  before : List Char
  key : List Char
  beforeColon : List Char
  beforeValue : List Char
  value : List Char
  after : List Char

namespace Member

/-- The characters of a member: its key between quotes, a colon and its value. -/
def chars (member : Member) : List Char :=
  member.before ++ '"' :: (member.key ++ '"' :: (member.beforeColon ++
    ':' :: (member.beforeValue ++ member.value ++ member.after)))

/-- Whether only blanks stand around the parts of a member. -/
structure IsSpaced (member : Member) : Prop where
  before : IsBlanks member.before
  beforeColon : IsBlanks member.beforeColon
  beforeValue : IsBlanks member.beforeValue
  after : IsBlanks member.after

end Member

/-- The characters of a value, without blanks around them. -/
inductive IsValue : List Char → Prop
  | word {chars : List Char} :
    chars ∈ ["null".toList, "true".toList, "false".toList] → IsValue chars
  | number {numeral : Numeral} : numeral.IsWritten → IsValue numeral.chars
  | text {body : List Char} : IsBody body → IsValue ('"' :: (body ++ ['"']))
  | emptyArray {blanks : List Char} : IsBlanks blanks → IsValue ('[' :: (blanks ++ [']']))
  | array {items : List Item} : items ≠ [] → (∀ item ∈ items, item.IsSpaced) →
    (∀ item ∈ items, IsValue item.value) →
    IsValue ('[' :: (listed (items.map Item.chars) ++ [']']))
  | emptyObject {blanks : List Char} : IsBlanks blanks → IsValue ('\x7b' :: (blanks ++ ['\x7d']))
  | object {members : List Member} : members ≠ [] → (∀ member ∈ members, member.IsSpaced) →
    (∀ member ∈ members, IsBody member.key) → (∀ member ∈ members, IsValue member.value) →
    IsValue ('\x7b' :: (listed (members.map Member.chars) ++ ['\x7d']))

end Document

end RecordStore
