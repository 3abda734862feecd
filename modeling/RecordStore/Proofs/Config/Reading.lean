import RecordStore.Proofs.Config.Literals

/-!
# Reading values

The reader takes every value of the grammar, whatever ends it, and leaves what stands behind it.
What it makes of a value depends on the characters of the value alone, so it can be named: the
reading of the value.

The count that bounds the reader need not exceed the length of a value. For the inside of a list it
is one more than its length, since the closing bracket is read in the turn of the last item.
-/

namespace RecordStore

namespace Document

/-! ### Values -/

/-- Blanks before a value are skipped. -/
theorem read_value_blanks {blanks : List Char} (areBlanks : IsBlanks blanks) (fuel : Nat)
    (chars : List Char) : readValue fuel (blanks ++ chars) = readValue fuel chars := by
  cases fuel with
  | zero => rfl
  | succ fuel => rw [readValue, readValue, skip_blanks_append areBlanks]

example : readValue 3 [' ', '[', 't', 'r', 'u', 'e', ']'] = some (.array [.bool true], []) := by cbv

/-- Skipping blanks before a value changes nothing. -/
theorem read_value_skip (fuel : Nat) (chars : List Char) :
    readValue fuel (skipBlanks chars) = readValue fuel chars := by
  cases fuel with
  | zero => rfl
  | succ fuel => rw [readValue, readValue, skip_blanks_again]

/-- Skipping blanks before items changes nothing. -/
theorem read_items_skip (fuel : Nat) (chars : List Char) :
    readItems fuel (skipBlanks chars) = readItems fuel chars := by
  cases fuel with
  | zero => rfl
  | succ fuel => rw [readItems, readItems, read_value_skip]

/-- Skipping blanks before members changes nothing. -/
theorem read_members_skip (fuel : Nat) (chars : List Char) :
    readMembers fuel (skipBlanks chars) = readMembers fuel chars := by
  cases fuel with
  | zero => rfl
  | succ fuel => rw [readMembers, readMembers, skip_blanks_again]

example : readMembers 2 [' ', '"', '"', ':', '0', '\x7d'] =
    some ([(some "", .number ⟨false, ['0'], false⟩)], []) := by cbv

/-- Characters that are read as a document, whatever ends them. -/
def Reads (value : List Char) (document : Document) : Prop :=
  ∀ fuel rest, value.length ≤ fuel → Ends rest →
    readValue fuel (value ++ rest) = some (document, rest)

/-- Values that are not empty are read with at least one turn of the reader. -/
theorem reads_of_succ {first : Char} {more : List Char} {document : Document}
    (reads : ∀ fuel rest, more.length ≤ fuel → Ends rest →
      readValue (fuel + 1) (first :: (more ++ rest)) = some (document, rest)) :
    Reads (first :: more) document := by
  intro fuel rest long ends
  obtain ⟨turns, rfl⟩ : ∃ turns, fuel = turns + 1 :=
    ⟨fuel - 1, by rw [List.length_cons] at long; omega⟩
  exact reads turns rest (Nat.le_of_succ_le_succ long) ends

/-- What starts with none of the characters that other values start with is read as a number. -/
theorem read_value_number {first : Char} (visible : isBlank first = false)
    (other : first ∉ ['"', '[', '\x7b', 't', 'f', 'n']) (fuel : Nat) (rest : List Char) :
    readValue (fuel + 1) (first :: rest) =
      (readNumber (first :: rest)).map fun read => (.number read.1, read.2) := by
  rw [readValue, skip_blanks_cons visible]
  split
  case h_7 => rfl
  all_goals
    rename_i same
    cases same
    simp at other

/-- A number of the grammar is read as its literal. Proof: neither its sign nor a digit is a blank
or starts another value, so the reader of numbers is reached. -/
theorem Numeral.IsWritten.reads {numeral : Numeral} (written : numeral.IsWritten) :
    Reads numeral.chars (.number numeral.literal) := by
  obtain ⟨first, more, starts, sign⟩ := Numeral.starts written
  have apart : first ∉ [' ', '\t', '\n', '\r'] ∧ first ∉ ['"', '[', '\x7b', 't', 'f', 'n'] := by
    rcases sign with ⟨-, rfl⟩ | ⟨-, isDigit⟩
    · decide
    · exact ⟨not_mem_of_is_digit isDigit rfl, not_mem_of_is_digit isDigit rfl⟩
  have visible : isBlank first = false := by
    rw [Bool.eq_false_iff, ne_eq, is_blank_iff]
    exact apart.1
  rw [starts]
  refine reads_of_succ fun fuel rest _ ends => ?_
  have read := read_number_chars written ends
  rw [starts, List.cons_append] at read
  rw [read_value_number visible apart.2, read]
  rfl

/-- The three words are values. -/
theorem read_value_word {word : List Char}
    (isWord : word ∈ ["null".toList, "true".toList, "false".toList]) :
    ∃ document, Reads word document := by
  simp only [List.mem_cons, List.not_mem_nil, or_false] at isWord
  rcases isWord with rfl | rfl | rfl
  · exact ⟨.null, reads_of_succ fun fuel rest _ _ => rfl⟩
  · exact ⟨.bool true, reads_of_succ fun fuel rest _ _ => rfl⟩
  · exact ⟨.bool false, reads_of_succ fun fuel rest _ _ => rfl⟩

/-- A text that is read up to its quote is a value, broken or not. -/
theorem Closes.reads {body : List Char} {content : Option (List Char)}
    (closes : Closes body content) :
    Reads ('"' :: (body ++ ['"'])) (.text (content.map String.ofList)) := by
  refine reads_of_succ fun fuel rest _ _ => ?_
  rw [readValue, skip_blanks_cons rfl, List.append_assoc]
  change (readText (body ++ '"' :: rest)).map _ = _
  rw [closes]
  rfl

/-! ### Lists of values -/

/-- A bracket opens an array, which is empty or has items. -/
theorem read_value_array (fuel : Nat) (rest : List Char) :
    readValue (fuel + 1) ('[' :: rest) = match skipBlanks rest with
      | ']' :: rest => some (.array [], rest)
      | rest => (readItems fuel rest).map fun read => (.array read.1, read.2) := by
  rw [readValue, skip_blanks_cons rfl]
  rfl

/-- A brace opens an object, which is empty or has members. -/
theorem read_value_object (fuel : Nat) (rest : List Char) :
    readValue (fuel + 1) ('\x7b' :: rest) = match skipBlanks rest with
      | '\x7d' :: rest => some (.object [], rest)
      | rest => (readMembers fuel rest).map fun read => (.object read.1, read.2) := by
  rw [readValue, skip_blanks_cons rfl]
  rfl

/-- Lists of parts start as their first part does. -/
theorem listed_cons (part : List Char) (parts : List (List Char)) :
    ∃ more, listed (part :: parts) = part ++ more := by
  cases parts with
  | nil => exact ⟨[], (List.append_nil part).symm⟩
  | cons other rest => exact ⟨_, rfl⟩

/-- The items of an array are read up to the bracket behind them. The induction is on the items;
each turn of the reader goes behind an item and the comma or bracket that follows. -/
theorem read_items_listed {items : List Item} {document : List Char → Document}
    (some_item : items ≠ []) (spaced : ∀ item ∈ items, item.IsSpaced)
    (reads : ∀ item ∈ items, Reads item.value (document item.value)) {fuel : Nat}
    (long : (listed (items.map Item.chars)).length < fuel) (rest : List Char) :
    readItems fuel (listed (items.map Item.chars) ++ ']' :: rest) =
      some (items.map fun item => document item.value, rest) := by
  induction items generalizing fuel with
  | nil => exact absurd rfl some_item
  | cons item others inductionHypothesis =>
    obtain ⟨isSpaced, othersSpaced⟩ := List.forall_mem_cons.mp spaced
    obtain ⟨readsItem, othersRead⟩ := List.forall_mem_cons.mp reads
    obtain ⟨turns, rfl⟩ : ∃ turns, fuel = turns + 1 := ⟨fuel - 1, by omega⟩
    have head : ∀ {mark : Char} (further : List Char), mark ∈ [',', ']'] →
        item.value.length ≤ turns →
        readValue turns (item.chars ++ mark :: further) =
          some (document item.value, item.after ++ mark :: further) := by
      intro mark further isMark short
      have ends : Ends (item.after ++ mark :: further) :=
        isSpaced.after.ends (ends_cons (by simp at isMark ⊢; tauto) further)
      rw [Item.chars, List.append_assoc, List.append_assoc, read_value_blanks isSpaced.before]
      exact readsItem turns _ short ends
    cases others with
    | nil =>
      change item.chars.length < turns + 1 at long
      have short : item.value.length ≤ turns := by
        simp only [Item.chars, List.length_append] at long
        omega
      change readItems (turns + 1) (item.chars ++ ']' :: rest) = _
      rw [readItems, head rest (by simp) short]
      simp only [skip_blanks_append isSpaced.after,
        skip_blanks_cons (show isBlank ']' = false from rfl)]
      rfl
    | cons other more =>
      have shape : listed ((item :: other :: more).map Item.chars) =
        item.chars ++ ',' :: listed ((other :: more).map Item.chars) := rfl
      rw [shape, List.length_append, List.length_cons] at long
      have short : item.value.length ≤ turns := by
        simp only [Item.chars, List.length_append] at long
        omega
      rw [shape, List.append_assoc, List.cons_append, readItems, head _ (by simp) short]
      simp only [skip_blanks_append isSpaced.after,
        skip_blanks_cons (show isBlank ',' = false from rfl)]
      rw [inductionHypothesis (List.cons_ne_nil other more) othersSpaced othersRead (by omega)]
      rfl

/-- What a member of an object states when its key and its value are read. -/
structure Member.States (member : Member) (said : Option String × Document) : Prop where
  key : ∃ content, Closes member.key content ∧ said.1 = content.map String.ofList
  value : Reads member.value said.2

/-- What is read behind a member: the brace behind the last one, or a comma and the other
members. -/
def readBehindMember (fuel : Nat) (said : Option String × Document) :
    List Char → Option (List (Option String × Document) × List Char)
  | '\x7d' :: rest => some ([said], rest)
  | ',' :: rest => (readMembers fuel rest).map fun read => (said :: read.1, read.2)
  | _ => none

/-- A member is read up to the comma or brace behind it. -/
theorem Member.States.read_members {member : Member} {said : Option String × Document}
    (states : member.States said) (isSpaced : member.IsSpaced) {fuel : Nat}
    (short : member.value.length ≤ fuel) {mark : Char} (isMark : mark ∈ [',', '\x7d'])
    (further : List Char) :
    Document.readMembers (fuel + 1) (member.chars ++ mark :: further) =
      readBehindMember fuel said (skipBlanks (mark :: further)) := by
  obtain ⟨content, closes, key⟩ := states.key
  have ends : Ends (member.after ++ mark :: further) :=
    isSpaced.after.ends (ends_cons (by simp at isMark ⊢; tauto) further)
  have value : readValue fuel (member.beforeValue ++
      (member.value ++ (member.after ++ mark :: further))) =
      some (said.2, member.after ++ mark :: further) := by
    rw [read_value_blanks isSpaced.beforeValue]
    exact states.value fuel _ short ends
  have shape : member.chars ++ mark :: further = member.before ++ '"' :: (member.key ++ '"' ::
      (member.beforeColon ++ ':' :: (member.beforeValue ++
        (member.value ++ (member.after ++ mark :: further))))) := by
    simp [Member.chars]
  rw [shape, Document.readMembers, skip_blanks_append isSpaced.before, skip_blanks_cons rfl]
  simp only [closes _, skip_blanks_append isSpaced.beforeColon,
    skip_blanks_cons (show isBlank ':' = false from rfl), value,
    skip_blanks_append isSpaced.after, ← key]
  rfl

/-- The members of an object are read up to the brace behind them, as the items of an array are. -/
theorem read_members_listed {members : List Member} {said : Member → Option String × Document}
    (some_member : members ≠ []) (spaced : ∀ member ∈ members, member.IsSpaced)
    (reads : ∀ member ∈ members, member.States (said member)) {fuel : Nat}
    (long : (listed (members.map Member.chars)).length < fuel) (rest : List Char) :
    readMembers fuel (listed (members.map Member.chars) ++ '\x7d' :: rest) =
      some (members.map said, rest) := by
  induction members generalizing fuel with
  | nil => exact absurd rfl some_member
  | cons member others inductionHypothesis =>
    obtain ⟨isSpaced, othersSpaced⟩ := List.forall_mem_cons.mp spaced
    obtain ⟨readsMember, othersRead⟩ := List.forall_mem_cons.mp reads
    obtain ⟨turns, rfl⟩ : ∃ turns, fuel = turns + 1 := ⟨fuel - 1, by omega⟩
    cases others with
    | nil =>
      change member.chars.length < turns + 1 at long
      have short : member.value.length ≤ turns := by
        simp only [Member.chars, List.length_append, List.length_cons] at long
        omega
      refine (readsMember.read_members isSpaced short (by simp) rest).trans ?_
      rw [skip_blanks_cons rfl]
      rfl
    | cons other more =>
      have shape : listed ((member :: other :: more).map Member.chars) =
        member.chars ++ ',' :: listed ((other :: more).map Member.chars) := rfl
      rw [shape, List.length_append, List.length_cons] at long
      have short : member.value.length ≤ turns := by
        simp only [Member.chars, List.length_append, List.length_cons] at long
        omega
      rw [shape, List.append_assoc, List.cons_append,
        readsMember.read_members isSpaced short (by simp), skip_blanks_cons rfl, readBehindMember,
        inductionHypothesis (List.cons_ne_nil other more) othersSpaced othersRead (by omega)]
      rfl

/-! ### All values -/

/-- A value starts with a character that is no blank and closes no array. -/
theorem IsValue.starts {value : List Char} (isValue : IsValue value) : ∃ first more,
    value = first :: more ∧ isBlank first = false ∧ first ≠ ']' := by
  cases isValue with
  | word isWord =>
    simp only [List.mem_cons, List.not_mem_nil, or_false] at isWord
    rcases isWord with rfl | rfl | rfl <;> exact ⟨_, _, rfl, rfl, by decide⟩
  | number written =>
    obtain ⟨first, more, starts, ⟨-, rfl⟩ | ⟨-, isDigit⟩⟩ := Numeral.starts written
    · exact ⟨'-', more, starts, rfl, by decide⟩
    · have apart : first ∉ [' ', '\t', '\n', '\r', ']'] := not_mem_of_is_digit isDigit rfl
      refine ⟨first, more, starts, ?_, fun closes => apart (by simp [closes])⟩
      rw [Bool.eq_false_iff, ne_eq, is_blank_iff]
      exact fun blank => apart (List.mem_append_left [']'] blank)
  | text _ => exact ⟨'"', _, rfl, rfl, by decide⟩
  | emptyArray _ => exact ⟨'[', _, rfl, rfl, by decide⟩
  | array _ _ _ => exact ⟨'[', _, rfl, rfl, by decide⟩
  | emptyObject _ => exact ⟨'\x7b', _, rfl, rfl, by decide⟩
  | object _ _ _ _ => exact ⟨'\x7b', _, rfl, rfl, by decide⟩

/-- What is read from the characters of a value. -/
def reading (value : List Char) : Document :=
  ((readValue value.length value).map Prod.fst).getD .null

/-- What is read from the characters of a key. -/
def keyReading (key : List Char) : Option String :=
  ((readText (key ++ ['"'])).bind Prod.fst).map String.ofList

/-- What is read from a member. -/
def Member.reading (member : Member) : Option String × Document :=
  (keyReading member.key, Document.reading member.value)

/-- Read by itself a value is what it is read as within a text. -/
theorem Reads.reading_eq {value : List Char} {document : Document} (reads : Reads value document) :
    reading value = document := by
  have read := reads value.length [] (Nat.le_refl _) ends_nil
  rw [List.append_nil] at read
  rw [reading, read]
  rfl

/-- Read by itself a key is what it is read as within a text. -/
theorem Closes.key_reading_eq {key : List Char} {content : Option (List Char)}
    (closes : Closes key content) : keyReading key = content.map String.ofList := by
  rw [keyReading, closes []]
  rfl

/-- A member whose key and value are read states what they are read as. -/
theorem Closes.states {member : Member} {content : Option (List Char)}
    (closes : Closes member.key content)
    (reads : Reads member.value (Document.reading member.value)) : member.States member.reading :=
  ⟨⟨content, closes, closes.key_reading_eq⟩, reads⟩

/-- Blanks between brackets are the empty array. -/
theorem reads_empty_array {blanks : List Char} (areBlanks : IsBlanks blanks) :
    Reads ('[' :: (blanks ++ [']'])) (.array []) := by
  refine reads_of_succ fun fuel rest _ _ => ?_
  rw [List.append_assoc, List.singleton_append, read_value_array, skip_blanks_append areBlanks,
    skip_blanks_cons rfl]
  rfl

/-- Blanks between braces are the empty object. -/
theorem reads_empty_object {blanks : List Char} (areBlanks : IsBlanks blanks) :
    Reads ('\x7b' :: (blanks ++ ['\x7d'])) (.object []) := by
  refine reads_of_succ fun fuel rest _ _ => ?_
  rw [List.append_assoc, List.singleton_append, read_value_object, skip_blanks_append areBlanks,
    skip_blanks_cons rfl]
  rfl

/-- Members whose keys and values are read make an object that is read. -/
theorem reads_object {members : List Member} (some_member : members ≠ [])
    (spaced : ∀ member ∈ members, member.IsSpaced)
    (states : ∀ member ∈ members, member.States member.reading) :
    Reads ('\x7b' :: (listed (members.map Member.chars) ++ ['\x7d']))
      (.object (members.map Member.reading)) := by
  refine reads_of_succ fun fuel rest long _ => ?_
  have inside : (listed (members.map Member.chars)).length < fuel := by
    rw [List.length_append, List.length_singleton] at long
    omega
  have read := read_members_listed some_member spaced states inside rest
  rw [List.append_assoc, List.singleton_append, read_value_object]
  split
  · rename_i closes
    obtain ⟨member, others, rfl⟩ := List.exists_cons_of_ne_nil some_member
    obtain ⟨more, starts⟩ := listed_cons member.chars (others.map Member.chars)
    rw [List.map_cons, starts, Member.chars, List.append_assoc, List.append_assoc,
      skip_blanks_append (spaced member List.mem_cons_self).before, List.cons_append,
      skip_blanks_cons rfl] at closes
    cases closes
  · rw [read_members_skip, read]
    rfl

/-- Values between brackets, with commas between them, are the array of what they are read as. -/
theorem reads_array {items : List Item} (some_item : items ≠ [])
    (spaced : ∀ item ∈ items, item.IsSpaced) (values : ∀ item ∈ items, IsValue item.value)
    (reads : ∀ item ∈ items, Reads item.value (reading item.value)) :
    Reads ('[' :: (listed (items.map Item.chars) ++ [']']))
      (.array (items.map fun item => reading item.value)) := by
  refine reads_of_succ fun fuel rest long _ => ?_
  have inside : (listed (items.map Item.chars)).length < fuel := by
    rw [List.length_append, List.length_singleton] at long
    omega
  have read := read_items_listed some_item spaced reads inside rest
  rw [List.append_assoc, List.singleton_append, read_value_array]
  split
  · rename_i closes
    obtain ⟨item, others, rfl⟩ := List.exists_cons_of_ne_nil some_item
    obtain ⟨more, starts⟩ := listed_cons item.chars (others.map Item.chars)
    obtain ⟨first, behind, value, visible, noBracket⟩ := (values item List.mem_cons_self).starts
    rw [List.map_cons, starts, Item.chars, List.append_assoc, List.append_assoc, List.append_assoc,
      skip_blanks_append (spaced item List.mem_cons_self).before, value, List.cons_append,
      skip_blanks_cons visible] at closes
    exact absurd (List.cons.inj closes).1 noBracket
  · rw [read_items_skip, read]
    rfl

/-- Every value of the grammar is read. -/
theorem IsValue.reads {value : List Char} (isValue : IsValue value) :
    Reads value (reading value) := by
  suffices some_document : ∃ document, Reads value document by
    obtain ⟨document, reads⟩ := some_document
    rwa [reads.reading_eq]
  induction isValue with
  | word isWord => exact read_value_word isWord
  | number written => exact ⟨_, written.reads⟩
  | text isBody =>
    obtain ⟨content, closes⟩ := isBody.closes
    exact ⟨_, closes.reads⟩
  | emptyArray areBlanks => exact ⟨_, reads_empty_array areBlanks⟩
  | emptyObject areBlanks => exact ⟨_, reads_empty_object areBlanks⟩
  | array some_item spaced values inductionHypothesis =>
    refine ⟨_, reads_array some_item spaced values fun item member => ?_⟩
    obtain ⟨document, reads⟩ := inductionHypothesis item member
    rwa [reads.reading_eq]
  | object some_member spaced bodies _ inductionHypothesis =>
    refine ⟨_, reads_object some_member spaced fun member among => ?_⟩
    obtain ⟨document, reads⟩ := inductionHypothesis member among
    obtain ⟨content, closes⟩ := (bodies member among).closes
    exact closes.states (by rwa [reads.reading_eq])

/-- A text is its value with blanks around it. -/
theorem parse?_of_reads {text : String} {before value after : List Char} {document : Document}
    (reads : Reads value document) (shape : text.toList = before ++ (value ++ after))
    (isBefore : IsBlanks before) (isAfter : IsBlanks after) : parse? text = some document := by
  have read := reads (text.toList.length + 1) after
    (by rw [shape, List.length_append, List.length_append]; omega)
    (List.append_nil after ▸ isAfter.ends ends_nil)
  have nothing : skipBlanks after = [] := by
    have skipped := skip_blanks_append isAfter []
    rwa [List.append_nil] at skipped
  unfold parse?
  rw [← read_value_blanks isBefore, ← shape] at read
  simp only [read, nothing, List.isEmpty_nil, if_true]

end Document

end RecordStore
