import Mathlib.Data.List.DropRight
import RecordStore.Proofs.Config.Grammar

/-!
# Reading texts and numbers

The reader takes every text and every number of the grammar, whatever stands behind it, and leaves
what stands behind it. A text ends at its quote. A number ends where something follows that cannot
belong to it, which is why what may stand behind a value has a name here.

Of two code units that are halves of a pair the reader takes both at once, and one character is
their content. A half alone is read too, but the text then has no content.
-/

namespace RecordStore

namespace Document

/-! ### Blanks -/

/-- The reader and the grammar have the same blanks. -/
theorem is_blank_iff (char : Char) : isBlank char = true ↔ char ∈ [' ', '\t', '\n', '\r'] := by
  simp [isBlank, or_assoc]

/-- Where there are no characters there are only blanks. -/
@[simp] theorem is_blanks_nil : IsBlanks [] := fun _ member => absurd member List.not_mem_nil

/-- One blank is blanks. -/
theorem is_blanks_singleton {char : Char} (blank : char ∈ [' ', '\t', '\n', '\r']) :
    IsBlanks [char] := fun _ member => List.mem_singleton.mp member ▸ blank

/-- Blanks in front are skipped. -/
theorem skip_blanks_append {blanks : List Char} (areBlanks : IsBlanks blanks) (rest : List Char) :
    skipBlanks (blanks ++ rest) = skipBlanks rest :=
  List.dropWhile_append_of_pos fun char member => (is_blank_iff char).mpr (areBlanks char member)

/-- Nothing is skipped before a character that is no blank. -/
theorem skip_blanks_cons {char : Char} (stays : isBlank char = false) (rest : List Char) :
    skipBlanks (char :: rest) = char :: rest := by
  rw [skipBlanks, List.dropWhile_cons_of_neg (by simp [stays])]

/-- What was skipped once is not skipped again. -/
theorem skip_blanks_again (chars : List Char) : skipBlanks (skipBlanks chars) = skipBlanks chars :=
  List.dropWhile_idempotent isBlank chars

/-! ### Texts -/

/-- A digit of the grammar is read as its value. -/
theorem IsHexDigit.hex_digit? {char : Char} {value : Nat} (digit : IsHexDigit char value) :
    Document.hexDigit? char = some value := by
  have lower : ∀ value < 16,
      ("0123456789abcdef".toList[value]?).bind Document.hexDigit? = some value := by decide
  have upper : ∀ value < 16,
      ("0123456789ABCDEF".toList[value]?).bind Document.hexDigit? = some value := by decide
  rcases digit with stands | stands
  · have read := lower value (List.getElem?_eq_some_iff.mp stands).1
    rwa [stands] at read
  · have read := upper value (List.getElem?_eq_some_iff.mp stands).1
    rwa [stands] at read

/-- Four digits of the grammar are read as their code unit. -/
theorem IsUnit.code_unit? {a b c d : Char} {unit : Nat} (digits : IsUnit a b c d unit) :
    Document.codeUnit? a b c d = some unit := by
  obtain ⟨first, second, third, fourth, isFirst, isSecond, isThird, isFourth, rfl⟩ := digits
  simp only [Document.codeUnit?, isFirst.hex_digit?, isSecond.hex_digit?, isThird.hex_digit?,
    isFourth.hex_digit?]
  rfl

/-- A letter that the grammar allows behind a backslash is read as what it stands for, and it is not
the letter of a code unit. -/
theorem escaped?_of_mem {letter char : Char} (among : (letter, char) ∈ escapes) :
    escaped? letter = some char ∧ letter ≠ 'u' := by
  simp only [escapes, List.mem_cons, Prod.mk.injEq, List.not_mem_nil, or_false] at among
  rcases among with ⟨rfl, rfl⟩ | ⟨rfl, rfl⟩ | ⟨rfl, rfl⟩ | ⟨rfl, rfl⟩ | ⟨rfl, rfl⟩ | ⟨rfl, rfl⟩ |
    ⟨rfl, rfl⟩ | ⟨rfl, rfl⟩ <;> exact ⟨rfl, by decide⟩

section Pieces

variable {char letter a b c d e f g h : Char} {unit second : Nat} (rest : List Char)

/-- A quote ends a text. -/
theorem read_text_quote : readText ('"' :: rest) = some (some [], rest) := by
  rw [readText]

example : readText ['a', '"', ','] = some (some ['a'], [',']) := by cbv

/-- A plain character is read as itself. -/
theorem read_text_plain (plain : IsPlain char) :
    readText (char :: rest) = (readText rest).map (before char) := by
  obtain ⟨visible, noQuote, noBackslash⟩ := plain
  rw [readText.eq_def]
  split
  · rename_i none
    cases none
  · rename_i same
    exact absurd (List.cons.inj same).1 noQuote
  · rename_i same
    exact absurd (List.cons.inj same).1 noBackslash
  · rename_i same
    exact absurd (List.cons.inj same).1 noBackslash
  · rename_i same
    obtain ⟨rfl, rfl⟩ := List.cons.inj same
    rw [if_neg (Nat.not_lt.mpr visible)]

/-- A backslash and a letter are read as what they stand for. -/
theorem read_text_escape (among : (letter, char) ∈ escapes) :
    readText ('\\' :: letter :: rest) = (readText rest).map (before char) := by
  obtain ⟨stands, notUnit⟩ := escaped?_of_mem among
  rw [readText]
  · rw [stands]
  · rintro a b c d further rfl
    exact absurd rfl notUnit

/-- A code unit that is no half of a pair is read as its character. -/
theorem read_text_unit (digits : IsUnit a b c d unit) (whole : unit < 0xD800 ∨ 0xE000 ≤ unit) :
    readText ('\\' :: 'u' :: a :: b :: c :: d :: rest) =
      (readText rest).map (before (Char.ofNat unit)) := by
  have trailing : isTrailing unit = false := by
    simp only [isTrailing, Bool.and_eq_false_iff, decide_eq_false_iff_not]
    omega
  have leading : isLeading unit = false := by
    simp only [isLeading, Bool.and_eq_false_iff, decide_eq_false_iff_not]
    omega
  rw [readText, digits.code_unit?]
  simp only [trailing, leading, Bool.false_eq_true, if_false]

/-- The second half of a pair alone breaks a text. -/
theorem read_text_trailing (digits : IsUnit a b c d unit) (trailing : isTrailing unit = true) :
    readText ('\\' :: 'u' :: a :: b :: c :: d :: rest) = (readText rest).map broken := by
  rw [readText, digits.code_unit?]
  simp only [trailing, if_true]

/-- No code unit is both halves of a pair. -/
theorem not_is_trailing (leading : isLeading unit = true) : isTrailing unit = false := by
  simp only [isLeading, Bool.and_eq_true, decide_eq_true_eq] at leading
  simp only [isTrailing, Bool.and_eq_false_iff, decide_eq_false_iff_not]
  omega

/-- Two halves, read one behind the other. -/
theorem read_text_halves (digits : IsUnit a b c d unit) (leading : isLeading unit = true)
    (more : IsUnit e f g h second) :
    readText ('\\' :: 'u' :: a :: b :: c :: d :: '\\' :: 'u' :: e :: f :: g :: h :: rest) =
      if isTrailing second then (readText rest).map
        (before (Char.ofNat (0x10000 + (unit - 0xD800) * 1024 + (second - 0xDC00))))
      else (readText rest).map broken := by
  rw [readText, digits.code_unit?]
  simp only [not_is_trailing leading, leading, more.code_unit?, Bool.false_eq_true,
    if_false, if_true]

/-- Half of a pair alone. -/
theorem read_text_leading (digits : IsUnit a b c d unit) (leading : isLeading unit = true)
    (alone : ∀ e f g h further, rest ≠ '\\' :: 'u' :: e :: f :: g :: h :: further) :
    readText ('\\' :: 'u' :: a :: b :: c :: d :: rest) = (readText rest).map broken := by
  rw [readText, digits.code_unit?]
  simp only [not_is_trailing leading, leading, Bool.false_eq_true, if_false, if_true]

end Pieces

/-- Characters that are read up to a quote behind them, whatever follows the quote. -/
def Closes (body : List Char) (content : Option (List Char)) : Prop :=
  ∀ rest, readText (body ++ '"' :: rest) = some (content, rest)

section Closing

variable {body later : List Char} {content : Option (List Char)} {char : Char}

/-- A text is read up to its quote if it is behind a character that is read. -/
theorem Closes.before (closes : Closes later content)
    (step : ∀ rest, readText (body ++ '"' :: rest) =
      (readText (later ++ '"' :: rest)).map (Document.before char)) :
    Closes body (content.map (char :: ·)) := by
  intro rest
  rw [step, closes]
  rfl

/-- A text is broken if a half of a pair stands before what is read up to the quote. -/
theorem Closes.broken (closes : Closes later content)
    (step : ∀ rest, readText (body ++ '"' :: rest) =
      (readText (later ++ '"' :: rest)).map Document.broken) :
    Closes body none := by
  intro rest
  rw [step, closes]
  rfl

end Closing

/-- A text with a content is read as the content. -/
theorem Spells.closes {body content : List Char} (spells : Spells body content) :
    Closes body (some content) := by
  induction spells with
  | nil => exact read_text_quote
  | plain isPlain _ closes => exact closes.before fun rest => read_text_plain _ isPlain
  | escape among _ closes => exact closes.before fun rest => read_text_escape _ among
  | unit digits whole _ closes => exact closes.before fun rest => read_text_unit _ digits whole
  | @pair _ _ _ _ _ _ _ _ leading trailing _ _ digits more inLeading inTrailing _ closes =>
    have leads : isLeading (0xD800 + leading) = true := by
      simp only [isLeading, Bool.and_eq_true, decide_eq_true_eq]
      omega
    have trails : isTrailing (0xDC00 + trailing) = true := by
      simp only [isTrailing, Bool.and_eq_true, decide_eq_true_eq]
      omega
    refine closes.before fun rest => ?_
    refine (read_text_halves _ digits leads more).trans ?_
    rw [if_pos trails, Nat.add_sub_cancel_left, Nat.add_sub_cancel_left]
    rfl

/-- Every text of the grammar is read up to its quote. The recursion is on the grammar; of two code
units that are read together it goes behind the second. Half of a pair before anything but a code
unit is read alone, as broken. -/
theorem IsBody.closes {body : List Char} (isBody : IsBody body) :
    ∃ content, Closes body content := by
  match isBody with
  | .nil => exact ⟨some [], read_text_quote⟩
  | .plain isPlain later =>
    obtain ⟨content, closes⟩ := later.closes
    exact ⟨_, closes.before fun rest => read_text_plain _ isPlain⟩
  | .escape among later =>
    obtain ⟨content, closes⟩ := later.closes
    exact ⟨_, closes.before fun rest => read_text_escape _ among⟩
  | @IsBody.unit a b c d first behind digits later =>
    obtain ⟨content, closes⟩ := later.closes
    by_cases trailing : isTrailing first = true
    · exact ⟨none, closes.broken fun rest => read_text_trailing _ digits trailing⟩
    by_cases leading : isLeading first = true
    · have alone : (∀ rest e f g h further,
          behind ++ '"' :: rest ≠ '\\' :: 'u' :: e :: f :: g :: h :: further) →
          Closes ('\\' :: 'u' :: a :: b :: c :: d :: behind) none := fun apart =>
        closes.broken fun rest => read_text_leading _ digits leading (apart rest)
      match later with
      | .nil => exact ⟨none, alone fun rest e f g h further same => by cases same⟩
      | .plain isPlain _ =>
        exact ⟨none, alone fun rest e f g h further same => isPlain.2.2 (List.cons.inj same).1⟩
      | .escape among _ =>
        refine ⟨none, alone fun rest e f g h further same => ?_⟩
        exact (escaped?_of_mem among).2 (List.cons.inj (List.cons.inj same).2).1
      | @IsBody.unit _ _ _ _ second _ more further =>
        obtain ⟨content, closes⟩ := further.closes
        by_cases trails : isTrailing second = true
        · exact ⟨_, closes.before fun rest =>
            (read_text_halves _ digits leading more).trans (if_pos trails)⟩
        · exact ⟨none, closes.broken fun rest =>
            (read_text_halves _ digits leading more).trans (if_neg trails)⟩
    · have whole : first < 0xD800 ∨ 0xE000 ≤ first := by
        simp only [isLeading, isTrailing, Bool.and_eq_true, decide_eq_true_eq] at leading trailing
        omega
      exact ⟨_, closes.before fun rest => read_text_unit _ digits whole⟩

/-! ### Numbers -/

/-- What may stand behind a value: a blank, a comma, a closing bracket, or nothing. -/
def Ends (rest : List Char) : Prop :=
  ∀ char ∈ rest.head?, char ∈ [' ', '\t', '\n', '\r', ',', ']', '\x7d']

/-- A value may end where the text ends. -/
@[simp] theorem ends_nil : Ends [] := fun _ member => by cases member

/-- A value may end at a blank, a comma or a closing bracket. -/
theorem ends_cons {char : Char} (closes : char ∈ [' ', '\t', '\n', '\r', ',', ']', '\x7d'])
    (rest : List Char) : Ends (char :: rest) := by
  intro first member
  cases member
  exact closes

/-- Blanks may stand before what ends a value. -/
theorem IsBlanks.ends {blanks rest : List Char} (areBlanks : IsBlanks blanks) (ends : Ends rest) :
    Ends (blanks ++ rest) := by
  cases blanks with
  | nil => exact ends
  | cons char more =>
    refine ends_cons ?_ _
    have blank := areBlanks char List.mem_cons_self
    simp only [List.mem_cons, List.not_mem_nil, or_false] at blank ⊢
    tauto

/-- What follows the end of a value starts with no other character. -/
theorem Ends.head_ne {rest : List Char} (ends : Ends rest) {char : Char}
    (inside : char ∉ [' ', '\t', '\n', '\r', ',', ']', '\x7d']) : rest.head? ≠ some char :=
  fun starts => inside (ends char starts)

/-- Characters of which the first is no digit. -/
def NoDigit (rest : List Char) : Prop := ∀ char ∈ rest.head?, char.isDigit = false

/-- What follows the end of a value starts with no digit. -/
theorem Ends.no_digit {rest : List Char} (ends : Ends rest) : NoDigit rest := by
  intro char member
  have closes := ends char member
  simp only [List.mem_cons, List.not_mem_nil, or_false] at closes
  rcases closes with rfl | rfl | rfl | rfl | rfl | rfl | rfl <;> rfl

/-- A digit is none of characters among which there is no digit. -/
theorem not_mem_of_is_digit {char : Char} (isDigit : char.isDigit = true) {others : List Char}
    (noDigits : others.any Char.isDigit = false) : char ∉ others := by
  intro among
  rw [List.any_eq_false] at noDigits
  exact noDigits char among isDigit

section Digits

variable {digits rest : List Char} (noDigit : NoDigit rest)

include noDigit

/-- Digits before something else are taken whole. -/
theorem take_while_digits (areDigits : ∀ char ∈ digits, char.isDigit = true) :
    (digits ++ rest).takeWhile Char.isDigit = digits := by
  rw [List.takeWhile_append_of_pos areDigits]
  cases rest with
  | nil => simp
  | cons char more => rw [List.takeWhile_cons_of_neg (by simp [noDigit char rfl]), List.append_nil]

/-- Behind them the rest is left. -/
theorem drop_while_digits (areDigits : ∀ char ∈ digits, char.isDigit = true) :
    (digits ++ rest).dropWhile Char.isDigit = rest := by
  rw [List.dropWhile_append_of_pos areDigits]
  cases rest with
  | nil => rfl
  | cons char more => rw [List.dropWhile_cons_of_neg (by simp [noDigit char rfl])]

/-- The digits of a fraction are read up to what follows them. -/
theorem read_fraction_digits (areDigits : IsDigits digits) :
    readFraction (digits ++ rest) = some rest := by
  obtain ⟨some_digit, all⟩ := areDigits
  cases digits with
  | nil => exact absurd rfl some_digit
  | cons first more =>
    obtain ⟨isDigit, others⟩ := List.forall_mem_cons.mp all
    rw [List.cons_append, readFraction, if_pos isDigit, drop_while_digits noDigit others]

/-- An exponent is read with its sign, which is not a digit. -/
theorem read_exponent_signed {sign : List Char} (isSign : sign ∈ [[], ['+'], ['-']])
    (areDigits : IsDigits digits) : readExponent (sign ++ digits ++ rest) = some rest := by
  have read := read_fraction_digits noDigit areDigits
  simp only [List.mem_cons, List.not_mem_nil, or_false] at isSign
  rcases isSign with rfl | rfl | rfl
  · obtain ⟨some_digit, all⟩ := areDigits
    cases digits with
    | nil => exact absurd rfl some_digit
    | cons first more =>
      have isDigit := all first List.mem_cons_self
      rw [List.nil_append, List.cons_append, readExponent]
      · exact read
      · rintro further same
        cases same
        cases isDigit
      · rintro further same
        cases same
        cases isDigit
  · exact read
  · exact read

end Digits

/-- Reads what may follow the fraction of a number. -/
def readMark (negative : Bool) (digits : List Char) (fraction : Bool) :
    List Char → Option (NumberLiteral × List Char)
  | 'e' :: rest => (readExponent rest).map fun rest => (⟨negative, digits, true⟩, rest)
  | 'E' :: rest => (readExponent rest).map fun rest => (⟨negative, digits, true⟩, rest)
  | rest => some (⟨negative, digits, fraction⟩, rest)

section Tails

variable {negative : Bool} {digits fraction exponent rest : List Char}

/-- A point behind the whole digits starts a fraction. -/
theorem read_number_tail_point (rest : List Char) :
    readNumberTail negative digits ('.' :: rest) =
      (readFraction rest).bind (readMark negative digits true) := by
  unfold readNumberTail
  split
  · rename_i same
    cases same
    cases readFraction rest <;> rfl
  · rename_i other
    exact absurd rfl (other rest)

/-- Without a point an exponent or the end follows. -/
theorem read_number_tail_plain (noPoint : rest.head? ≠ some '.') :
    readNumberTail negative digits rest = readMark negative digits false rest := by
  unfold readNumberTail
  split
  · exact absurd rfl noPoint
  · rfl

/-- Where an exponent may stand, the number ends behind it. -/
theorem read_mark_exponent (isExponent : IsExponent exponent) (ends : Ends rest) (more : Bool) :
    readMark negative digits more (exponent ++ rest) =
      some (⟨negative, digits, more || !exponent.isEmpty⟩, rest) := by
  rcases isExponent with rfl | ⟨mark, sign, shown, isMark, isSign, areDigits, rfl⟩
  · rw [List.nil_append, readMark]
    · simp
    · rintro further rfl
      exact ends.head_ne (by decide) rfl
    · rintro further rfl
      exact ends.head_ne (by decide) rfl
  · have read := read_exponent_signed ends.no_digit isSign areDigits
    simp only [List.mem_cons, List.not_mem_nil, or_false] at isMark
    rcases isMark with rfl | rfl
    · rw [List.cons_append, readMark, read]
      simp
    · rw [List.cons_append, readMark, read]
      simp

/-- An exponent starts with no digit, and neither does what follows where there is none. -/
theorem IsExponent.no_digit (isExponent : IsExponent exponent) (ends : Ends rest) :
    NoDigit (exponent ++ rest) := by
  rcases isExponent with rfl | ⟨mark, sign, shown, isMark, -, -, rfl⟩
  · exact ends.no_digit
  · intro char first
    cases first
    simp only [List.mem_cons, List.not_mem_nil, or_false] at isMark
    rcases isMark with rfl | rfl <;> rfl

/-- Behind its whole digits a number is read to its end. -/
theorem read_number_tail_parts (isFraction : IsFraction fraction) (isExponent : IsExponent exponent)
    (ends : Ends rest) :
    readNumberTail negative digits (fraction ++ exponent ++ rest) =
      some (⟨negative, digits, !(fraction ++ exponent).isEmpty⟩, rest) := by
  rcases isFraction with rfl | ⟨shown, areDigits, rfl⟩
  · have noPoint : (exponent ++ rest).head? ≠ some '.' := by
      rcases isExponent with rfl | ⟨mark, sign, shown, isMark, -, -, rfl⟩
      · exact ends.head_ne (by decide)
      · intro first
        cases first
        simp at isMark
    rw [List.nil_append, read_number_tail_plain noPoint, read_mark_exponent isExponent ends]
    rfl
  · rw [List.append_assoc, List.cons_append, read_number_tail_point,
      read_fraction_digits (isExponent.no_digit ends) areDigits]
    refine (read_mark_exponent isExponent ends true).trans ?_
    simp

/-- What follows the whole digits of a number starts with no digit. -/
theorem IsFraction.no_digit (isFraction : IsFraction fraction) (isExponent : IsExponent exponent)
    (ends : Ends rest) : NoDigit (fraction ++ exponent ++ rest) := by
  rcases isFraction with rfl | ⟨shown, -, rfl⟩
  · exact isExponent.no_digit ends
  · intro char first
    cases first
    rfl

end Tails

section Unsigned

variable {negative : Bool} {rest : List Char}

/-- A zero in front is all there is before the point. -/
theorem read_unsigned_zero (noDigit : NoDigit rest) :
    readUnsigned negative ('0' :: rest) = readNumberTail negative ['0'] rest := by
  unfold readUnsigned
  cases rest with
  | nil => rfl
  | cons char more => exact if_neg (by simp [noDigit char rfl])

/-- Digits that do not start with a zero are read up to what follows them. -/
theorem read_unsigned_digits {digits : List Char} (areDigits : IsDigits digits)
    (noZero : digits.head? ≠ some '0') (noDigit : NoDigit rest) :
    readUnsigned negative (digits ++ rest) = readNumberTail negative digits rest := by
  obtain ⟨some_digit, all⟩ := areDigits
  cases digits with
  | nil => exact absurd rfl some_digit
  | cons first more =>
    obtain ⟨isDigit, others⟩ := List.forall_mem_cons.mp all
    rw [List.cons_append, readUnsigned]
    · rw [if_pos isDigit, take_while_digits noDigit others, drop_while_digits noDigit others]
    · rintro rfl
      exact noZero rfl

end Unsigned

/-- A number is read behind its sign. -/
theorem read_unsigned_parts {numeral : Numeral} (written : numeral.IsWritten) {rest : List Char}
    (ends : Ends rest) :
    readUnsigned numeral.negative (numeral.whole ++
      (numeral.fraction ++ numeral.exponent ++ rest)) = some (numeral.literal, rest) := by
  have noDigit := written.fraction.no_digit written.exponent ends
  have shown : readNumberTail numeral.negative numeral.whole
      (numeral.fraction ++ numeral.exponent ++ rest) = some (numeral.literal, rest) :=
    read_number_tail_parts written.fraction written.exponent ends
  rw [← shown]
  rcases written.whole with zero | ⟨areDigits, noZero⟩
  · rw [zero]
    exact read_unsigned_zero noDigit
  · exact read_unsigned_digits areDigits noZero noDigit

/-- A number starts with its sign or with a digit. -/
theorem Numeral.starts {numeral : Numeral} (written : numeral.IsWritten) : ∃ first more,
    numeral.chars = first :: more ∧
      (numeral.negative = true ∧ first = '-' ∨ numeral.negative = false ∧
        first.isDigit = true) := by
  unfold chars
  cases numeral.negative with
  | true => exact ⟨'-', _, rfl, .inl ⟨rfl, rfl⟩⟩
  | false =>
    rcases written.whole with zero | ⟨⟨some_digit, all⟩, -⟩
    · exact ⟨'0', _, by rw [zero]; rfl, .inr ⟨rfl, rfl⟩⟩
    · obtain ⟨first, more, whole⟩ := List.exists_cons_of_ne_nil some_digit
      exact ⟨first, _, by rw [whole]; rfl, .inr ⟨rfl, all first (by simp [whole])⟩⟩

/-- A number of the grammar is read up to its end, as its literal. Proof: its parts one after the
other; what follows each of them is no digit. -/
theorem read_number_chars {numeral : Numeral} (written : numeral.IsWritten) {rest : List Char}
    (ends : Ends rest) : readNumber (numeral.chars ++ rest) = some (numeral.literal, rest) := by
  have unsigned := read_unsigned_parts written ends
  obtain ⟨first, more, starts, sign⟩ := Numeral.starts written
  rcases sign with ⟨negative, rfl⟩ | ⟨positive, isDigit⟩
  · have shape : numeral.chars ++ rest =
        '-' :: (numeral.whole ++ (numeral.fraction ++ numeral.exponent ++ rest)) := by
      simp [Numeral.chars, negative]
    rw [shape, readNumber, ← negative]
    exact unsigned
  · have shape : numeral.chars ++ rest =
        numeral.whole ++ (numeral.fraction ++ numeral.exponent ++ rest) := by
      simp [Numeral.chars, positive]
    rw [positive, ← shape, starts] at unsigned
    rw [starts, readNumber]
    · exact unsigned
    · rintro further same
      cases same
      cases isDigit

end Document

end RecordStore
