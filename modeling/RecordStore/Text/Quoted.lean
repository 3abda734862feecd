import RecordStore.Text.Visible

/-!
# Quoted text

A text between quotes as diagnostic texts show it. Quotes, backslashes and the usual
controls are written with a backslash, and every other character that does not show itself
is written as its code point in braces.
-/

namespace RecordStore

/-- A code point in hexadecimal digits, between braces. -/
def bracedCodePoint (char : Char) : String :=
  "\\u\x7b" ++ String.ofList (Nat.toDigits 16 char.toNat) ++ "\x7d"

/-- A character inside a quoted text. -/
def quotedChar (char : Char) : String :=
  match char with
  | '\t' => "\\t"
  | '\r' => "\\r"
  | '\n' => "\\n"
  | '\'' => "\\'"
  | '"' => "\\\""
  | '\\' => "\\\\"
  | char =>
    if char.toNat = 0 then "\\0"
    else if isVisible char then String.singleton char
    else bracedCodePoint char

/-- A text between quotes. -/
def quoted (text : String) : String :=
  "\"" ++ String.join (text.toList.map quotedChar) ++ "\""

end RecordStore
