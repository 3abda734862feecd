/-!
# Blank text

The characters that leave no mark on paper: the blanks, tabs and line ends of ASCII, the
next-line control, and the spaces and separators of other scripts.
-/

namespace RecordStore

/-- Code points of blank characters, as closed ranges. -/
def blankRanges : List (Nat × Nat) :=
  [(0x09, 0x0D), (0x20, 0x20), (0x85, 0x85), (0xA0, 0xA0), (0x1680, 0x1680), (0x2000, 0x200A),
   (0x2028, 0x2029), (0x202F, 0x202F), (0x205F, 0x205F), (0x3000, 0x3000)]

/-- Whether a character is blank. -/
def isBlankChar (char : Char) : Bool :=
  blankRanges.any fun range => decide (range.1 ≤ char.toNat) && decide (char.toNat ≤ range.2)

/-- Whether a text has no character but blank ones. -/
def isBlankText (text : String) : Bool := text.toList.all isBlankChar

end RecordStore
