import RecordStore.Config.Basic
import RecordStore.Proofs.Config.Reading

/-!
# Configurations as documents

The document that is written for a configuration is read as that configuration. So is every text
that states the same members in another way: in another order, with blanks between the tokens, with
members under other keys among them, and without those that have the value of the default.

What makes it hold is that the reader looks at each of its keys alone. Among the members it finds
one under the key, or none, and then the default is what the configuration has.
-/

namespace RecordStore

namespace Document

/-! ### Objects -/

/-- What stands between the braces of an object: blanks alone, or its members. -/
inductive IsInside : List Member → List Char → Prop
  | blanks {chars : List Char} : IsBlanks chars → IsInside [] chars
  | members {members : List Member} : members ≠ [] → (∀ member ∈ members, member.IsSpaced) →
    IsInside members (listed (members.map Member.chars))

/-- A text that is an object of some members, with blanks around it. -/
def IsObjectText (text : String) (members : List Member) : Prop :=
  ∃ before inside after, IsBlanks before ∧ IsInside members inside ∧ IsBlanks after ∧
    text.toList = before ++ (('\x7b' :: (inside ++ ['\x7d'])) ++ after)

/-- An object is read as what its members state, in their order. -/
theorem IsObjectText.parse? {text : String} {members : List Member}
    (shape : IsObjectText text members)
    (states : ∀ member ∈ members, member.States member.reading) :
    parse? text = some (.object (members.map Member.reading)) := by
  obtain ⟨before, inside, after, isBefore, isInside, isAfter, characters⟩ := shape
  refine parse?_of_reads ?_ characters isBefore isAfter
  cases isInside with
  | blanks areBlanks => exact reads_empty_object areBlanks
  | members some_member spaced => exact reads_object some_member spaced states

/-! ### Written texts and numbers -/

/-- A digit below sixteen is written as one. -/
theorem is_hex_digit_hex_char {digit : Nat} (bounded : digit < 16) :
    IsHexDigit (hexChar digit) digit := by
  have all : ∀ digit < 16, "0123456789abcdef".toList[digit]? = some (hexChar digit) := by decide
  exact .inl (all digit bounded)

/-- A written character has that character as its content. -/
theorem spells_write_char (char : Char) {rest content : List Char} (spells : Spells rest content) :
    Spells (writeChar char ++ rest) (char :: content) := by
  unfold writeChar
  split
  · exact .escape (by decide) spells
  · exact .escape (by decide) spells
  · exact .escape (by decide) spells
  · exact .escape (by decide) spells
  · exact .escape (by decide) spells
  · rename_i noQuote noBackslash _ _ _
    by_cases backspace : char.toNat = 8
    · rw [if_pos backspace, ← Char.ofNat_toNat char, backspace]
      exact .escape (by decide) spells
    by_cases feed : char.toNat = 12
    · rw [if_neg backspace, if_pos feed, ← Char.ofNat_toNat char, feed]
      exact .escape (by decide) spells
    rw [if_neg backspace, if_neg feed]
    by_cases control : char.toNat < 32
    · rw [if_pos control]
      have digits : IsUnit '0' '0' (hexChar (char.toNat / 16)) (hexChar (char.toNat % 16))
          char.toNat :=
        ⟨0, 0, _, _, .inl rfl, .inl rfl, is_hex_digit_hex_char (by omega),
          is_hex_digit_hex_char (by omega), by omega⟩
      have written := Spells.unit digits (.inl (by omega)) spells
      rwa [Char.ofNat_toNat] at written
    · rw [if_neg control]
      exact .plain ⟨Nat.not_lt.mp control, noQuote, noBackslash⟩ spells

/-- What is written between quotes for a text has the text as its content. -/
theorem spells_written (content : List Char) : Spells (content.flatMap writeChar) content := by
  induction content with
  | nil => exact .nil
  | cons char more inductionHypothesis =>
    rw [List.flatMap_cons]
    exact spells_write_char char inductionHypothesis

/-- A text that is written is read as the text, whatever its characters. -/
theorem reads_write_text (text : String) : Reads (writeText text).toList (.text (some text)) := by
  have shape : (writeText text).toList = '"' :: (text.toList.flatMap writeChar ++ ['"']) := by
    simp [writeText]
  have reads := (spells_written text.toList).closes.reads
  rw [shape]
  rwa [Option.map_some, String.ofList_toList] at reads

/-- The digits of a number start with a zero only if the number is zero. -/
theorem head_to_digits (number : Nat) (positive : 0 < number) :
    (Nat.toDigits 10 number).head? ≠ some '0' := by
  induction number using Nat.strongRecOn with
  | ind number inductionHypothesis =>
    by_cases small : number < 10
    · rw [Nat.toDigits_of_lt_base small]
      intro zero
      exact Nat.ne_of_gt positive (Nat.digitChar_eq_zero.mp (Option.some.inj zero))
    · rw [Nat.toDigits_of_base_le (by decide) (Nat.not_lt.mp small),
        List.head?_append_of_ne_nil _ Nat.toDigits_ne_nil]
      exact inductionHypothesis (number / 10) (by omega) (by omega)

/-- A number that is written without a sign. -/
def unsigned (number : Nat) : Numeral := ⟨false, Nat.toDigits 10 number, [], []⟩

/-- A natural number is written as the grammar of numbers asks. -/
theorem unsigned_is_written (number : Nat) : (unsigned number).IsWritten where
  whole := by
    rcases Nat.eq_zero_or_pos number with rfl | positive
    · exact .inl (Nat.toDigits_zero 10)
    · exact .inr ⟨⟨Nat.toDigits_ne_nil, fun char member =>
        Nat.isDigit_of_mem_toDigits (by decide) (Nat.le_refl 10) member⟩,
        head_to_digits number positive⟩
  fraction := .inl rfl
  exponent := .inl rfl

/-- Its characters are its decimal digits. -/
theorem unsigned_chars (number : Nat) : (unsigned number).chars = (toString number).toList := by
  simp [unsigned, Numeral.chars]

/-- It is read as the integer that it is. -/
theorem integer?_unsigned (number : Nat) : (unsigned number).literal.integer? =
    some (number : Int) := by
  have value : (Nat.toDigits 10 number).foldl
      (fun value char => value * 10 + (char.toNat - '0'.toNat)) 0 = number := by
    have read := Nat.ofDigitChars_ten_toDigits (n := number)
    rw [Nat.ofDigitChars_eq_foldl] at read
    simpa only [Nat.mul_comm 10] using read
  unfold NumberLiteral.integer? unsigned Numeral.literal
  simp only [value]
  rfl

end Document

namespace Config

open Document

/-! ### Members of a configuration -/

/-- The file of a configuration as its document has it. -/
def fileText (config : Config) : String :=
  match config.dbFile with
  | some path => writeText path
  | none => "null"

/-- The keys and values of a configuration's document. -/
def entries (config : Config) : List (List Char × List Char) :=
  [(fileKey.toList, config.fileText.toList),
    (pageKey.toList, (toString config.maxPageSize.toInt).toList),
    (timeoutKey.toList, (toString config.busyTimeout.toNat).toList)]

/-- A member under a key that means nothing for a configuration, with a value of any kind. -/
structure IsStranger (member : Member) : Prop where
  key : ∃ content, Spells member.key content ∧
    String.ofList content ∉ [fileKey, pageKey, timeoutKey]
  value : IsValue member.value

/-- Members that state a configuration, in any order: those of its document, of which those may be
left out that have the value of the default, and strangers. -/
def IsStatedBy (config : Config) (members : List Member) : Prop :=
  ∃ kept strangers : List Member, members.Perm (kept ++ strangers) ∧
    (kept.map fun member => (member.key, member.value)).Sublist config.entries ∧
    (∀ entry ∈ config.entries, entry ∉ kept.map (fun member => (member.key, member.value)) →
      entry ∈ inMemory.entries) ∧
    ∀ stranger ∈ strangers, IsStranger stranger

/-- The keys of a configuration are spelled by their own characters. -/
theorem spells_keys : Spells fileKey.toList fileKey.toList ∧ Spells pageKey.toList pageKey.toList ∧
    Spells timeoutKey.toList timeoutKey.toList :=
  ⟨spells_written fileKey.toList, spells_written pageKey.toList, spells_written timeoutKey.toList⟩

/-- A key that spells a content is read as that content. -/
theorem key_reading_of_spells {key content : List Char} (spells : Spells key content) :
    keyReading key = some (String.ofList content) := by
  rw [spells.closes.key_reading_eq, Option.map_some]

variable {config : Config}

/-- The text of the file is read as the file, or as null where there is none. -/
theorem reads_file_text (config : Config) :
    Reads config.fileText.toList (match config.dbFile with
      | some path => .text (some path)
      | none => .null) := by
  unfold fileText
  cases config.dbFile with
  | some path => exact reads_write_text path
  | none => exact reads_of_succ fun fuel rest _ _ => rfl

/-- A positive size of pages is a natural number. -/
theorem to_nat_page (positive : 0 < config.maxPageSize) :
    config.maxPageSize.toInt = (config.maxPageSize.toInt.toNat : Int) := by
  have above : 0 < config.maxPageSize.toInt := Int64.lt_iff_toInt_lt.mp positive
  omega

/-- The text of the size of pages is read as a number. -/
theorem reads_page_text (positive : 0 < config.maxPageSize) :
    Reads (toString config.maxPageSize.toInt).toList
      (.number (unsigned config.maxPageSize.toInt.toNat).literal) := by
  have written := (unsigned_is_written config.maxPageSize.toInt.toNat).reads
  rw [unsigned_chars] at written
  rw [to_nat_page positive]
  exact written

/-- The text of the waiting time is read as a number. -/
theorem reads_timeout_text (config : Config) :
    Reads (toString config.busyTimeout.toNat).toList
      (.number (unsigned config.busyTimeout.toNat).literal) := by
  have written := (unsigned_is_written config.busyTimeout.toNat).reads
  rwa [unsigned_chars] at written

/-- What is read for the file is the file of the configuration. -/
theorem read_file?_reading (config : Config) :
    readFile? (reading config.fileText.toList) = some config.dbFile := by
  rw [(reads_file_text config).reading_eq]
  cases config.dbFile with
  | some path => rfl
  | none => rfl

/-- What is read for the size of pages is that of the configuration, if it is positive. -/
theorem read_page?_reading (positive : 0 < config.maxPageSize) :
    readPage? (reading (toString config.maxPageSize.toInt).toList) = some config.maxPageSize := by
  rw [(reads_page_text positive).reading_eq, readPage?, integer?_unsigned, ← to_nat_page positive]
  have inside : Int64.minValue.toInt ≤ config.maxPageSize.toInt ∧
      config.maxPageSize.toInt ≤ Int64.maxValue.toInt :=
    ⟨Int64.minValue_le_toInt _, Int64.toInt_le _⟩
  rw [Option.bind_some, if_pos inside, Int64.ofInt_toInt]

/-- What is read for the waiting time is that of the configuration. -/
theorem read_timeout?_reading (config : Config) :
    readTimeout? (reading (toString config.busyTimeout.toNat).toList) =
      some config.busyTimeout := by
  rw [(reads_timeout_text config).reading_eq, readTimeout?, integer?_unsigned]
  have inside : (0 : Int) ≤ (config.busyTimeout.toNat : Int) ∧
      (config.busyTimeout.toNat : Int) < UInt64.size :=
    ⟨Int.natCast_nonneg _, by exact_mod_cast config.busyTimeout.toNat_lt⟩
  rw [Option.bind_some, if_pos inside, Int.toNat_natCast, UInt64.ofNat_toNat]

/-! ### What the reader finds -/

variable {members : List Member}

/-- What a member is found under. -/
theorem reading_of_entry {entry : List Char × List Char} (member : entry ∈ config.entries) :
    ∃ key ∈ [fileKey, pageKey, timeoutKey], Closes entry.1 (some key.toList) := by
  obtain ⟨file, page, timeout⟩ := spells_keys
  simp only [entries, List.mem_cons, List.not_mem_nil, or_false] at member
  rcases member with rfl | rfl | rfl
  · exact ⟨fileKey, by simp, file.closes⟩
  · exact ⟨pageKey, by simp, page.closes⟩
  · exact ⟨timeoutKey, by simp, timeout.closes⟩

/-- The value of every entry that is written is read. The cases are the three entries. -/
theorem reads_entry (positive : 0 < config.maxPageSize) {entry : List Char × List Char}
    (member : entry ∈ config.entries) : Reads entry.2 (reading entry.2) := by
  simp only [entries, List.mem_cons, List.not_mem_nil, or_false] at member
  rcases member with rfl | rfl | rfl
  · rw [(reads_file_text config).reading_eq]
    exact reads_file_text config
  · rw [(reads_page_text positive).reading_eq]
    exact reads_page_text positive
  · rw [(reads_timeout_text config).reading_eq]
    exact reads_timeout_text config

/-- Every member that states a configuration, or is a stranger, is read, and has a key. -/
theorem IsStatedBy.states (stated : config.IsStatedBy members) (positive : 0 < config.maxPageSize) :
    ∀ member ∈ members, member.States member.reading ∧ member.reading.1.isSome = true := by
  obtain ⟨kept, strangers, order, own, -, strange⟩ := stated
  intro member among
  rcases List.mem_append.mp (order.mem_iff.mp among) with inKept | inStrangers
  · have entry := own.subset (List.mem_map_of_mem inKept)
    obtain ⟨key, -, closes⟩ := reading_of_entry entry
    have named : keyReading member.key = some (String.ofList key.toList) := closes.key_reading_eq
    exact ⟨closes.states (reads_entry positive entry), by rw [Member.reading, named]; rfl⟩
  · obtain ⟨⟨content, spells, -⟩, isValue⟩ := strange member inStrangers
    refine ⟨spells.closes.states isValue.reads, ?_⟩
    rw [Member.reading, key_reading_of_spells spells]
    rfl

/-- Members of a document that are read under a key are members of the configuration: strangers have
other keys. -/
theorem IsStatedBy.filter_kept {key : String} (stated : config.IsStatedBy members)
    (isKey : key ∈ [fileKey, pageKey, timeoutKey]) : ∃ kept : List Member,
    (members.filter fun member => keyReading member.key == some key).Perm
      (kept.filter fun member => keyReading member.key == some key) ∧
    (kept.map fun member => (member.key, member.value)).Sublist config.entries ∧
    ∀ entry ∈ config.entries, entry ∉ (kept.map fun member => (member.key, member.value)) →
      entry ∈ inMemory.entries := by
  obtain ⟨kept, strangers, order, own, omitted, strange⟩ := stated
  have none_strange : strangers.filter (fun member => keyReading member.key == some key) = [] := by
    rw [List.filter_eq_nil_iff]
    intro stranger member
    obtain ⟨⟨content, spells, foreign⟩, -⟩ := strange stranger member
    rw [key_reading_of_spells spells]
    intro same
    have named : String.ofList content = key := by simpa using same
    exact foreign (named ▸ isKey)
  have found := order.filter fun member => keyReading member.key == some key
  rw [List.filter_append, none_strange, List.append_nil] at found
  exact ⟨kept, found, own, omitted⟩

/-- A configuration that left out a key has the text of the default for it. -/
theorem text_of_omitted {key : String} {text : Config → String} {kept : List Member}
    (stands : ∀ config : Config, config.entries.filter
      (fun entry => keyReading entry.1 == some key) = [(key.toList, (text config).toList)])
    (omitted : ∀ entry ∈ config.entries,
      entry ∉ (kept.map fun member => (member.key, member.value)) → entry ∈ inMemory.entries)
    (nothing : (kept.filter fun member => keyReading member.key == some key) = []) :
    (text config).toList = (text inMemory).toList := by
  have stood : (key.toList, (text config).toList) ∈
      config.entries.filter fun entry => keyReading entry.1 == some key := by
    rw [stands]
    exact List.mem_cons_self
  obtain ⟨entry, named⟩ := List.mem_filter.mp stood
  have left : (key.toList, (text config).toList) ∉
      kept.map fun member => (member.key, member.value) := by
    intro inKept
    obtain ⟨member, isKept, same⟩ := List.mem_map.mp inKept
    obtain ⟨sameKey, -⟩ := Prod.mk.inj same
    have inFound : member ∈ kept.filter fun member => keyReading member.key == some key :=
      List.mem_filter.mpr ⟨isKept, by rw [sameKey]; exact named⟩
    rw [nothing] at inFound
    cases inFound
  have same : (key.toList, (text config).toList) ∈
      inMemory.entries.filter fun entry => keyReading entry.1 == some key :=
    List.mem_filter.mpr ⟨omitted _ entry left, named⟩
  rw [stands, List.mem_singleton] at same
  exact (Prod.mk.inj same).2

/-- Under a key of a configuration the reader finds what the configuration has for it. Where it
finds nothing, that is what the default has. -/
theorem IsStatedBy.member? {α : Type} {key : String} {text : Config → String} {field : Config → α}
    {fallback : α} {read : Document → Option α} (stated : config.IsStatedBy members)
    (isKey : key ∈ [fileKey, pageKey, timeoutKey])
    (stands : ∀ config : Config, config.entries.filter
      (fun entry => keyReading entry.1 == some key) = [(key.toList, (text config).toList)])
    (reads : ∀ config : Config, 0 < config.maxPageSize →
      read (reading (text config).toList) = some (field config))
    (default : field inMemory = fallback) (positive : 0 < config.maxPageSize) :
    Config.member? (members.map Member.reading) key fallback read = some (field config) := by
  obtain ⟨kept, found, own, omitted⟩ := stated.filter_kept isKey
  have among : ((kept.filter fun member => keyReading member.key == some key).map
      fun member => (member.key, member.value)).Sublist [(key.toList, (text config).toList)] := by
    have filtered := own.filter fun entry => keyReading entry.1 == some key
    rwa [stands, List.filter_map] at filtered
  have shape : (members.map Member.reading).filter (fun member => member.1 == some key) =
      (members.filter fun member => keyReading member.key == some key).map Member.reading := by
    rw [List.filter_map]
    rfl
  unfold Config.member?
  rw [shape]
  rcases List.sublist_singleton.mp among with nothing | one
  · have none := List.map_eq_nil_iff.mp nothing
    rw [none] at found
    rw [found.eq_nil]
    have value := reads config positive
    rw [text_of_omitted stands omitted none, reads inMemory (by decide), default] at value
    exact value
  · obtain ⟨member, filtered, entry⟩ := List.map_eq_singleton_iff.mp one
    rw [filtered] at found
    rw [List.perm_singleton.mp found]
    obtain ⟨-, sameText⟩ := Prod.mk.inj entry
    change read (reading member.value) = _
    rw [sameText]
    exact reads config positive

/-- The keys of a configuration are read as themselves. -/
theorem key_reading_keys : keyReading fileKey.toList = some fileKey ∧
    keyReading pageKey.toList = some pageKey ∧ keyReading timeoutKey.toList = some timeoutKey := by
  obtain ⟨file, page, timeout⟩ := spells_keys
  rw [key_reading_of_spells file, key_reading_of_spells page, key_reading_of_spells timeout]
  simp only [String.ofList_toList, and_self]

/-- A document has one entry under each key. -/
theorem filter_entries (config : Config) {key : String} {value : List Char}
    (member : (key.toList, value) ∈ config.entries) :
    config.entries.filter (fun entry => keyReading entry.1 == some key) =
      [(key.toList, value)] := by
  obtain ⟨file, page, timeout⟩ := key_reading_keys
  have apart : fileKey ≠ pageKey ∧ fileKey ≠ timeoutKey ∧ pageKey ≠ timeoutKey := by decide
  simp only [entries, List.mem_cons, List.not_mem_nil, or_false, Prod.mk.injEq,
    String.toList_inj] at member
  rcases member with ⟨rfl, rfl⟩ | ⟨rfl, rfl⟩ | ⟨rfl, rfl⟩
  · simp [entries, file, page, timeout, Ne.symm apart.1, Ne.symm apart.2.1]
  · simp [entries, file, page, timeout, apart, Ne.symm apart.2.2]
  · simp [entries, file, page, timeout, apart]

/-- Members that state a configuration are read as the configuration. -/
theorem IsStatedBy.of_document? (stated : config.IsStatedBy members)
    (positive : 0 < config.maxPageSize) :
    ofDocument? (.object (members.map Member.reading)) = some config := by
  have named : (members.map Member.reading).any (fun member => member.1.isNone) = false := by
    rw [List.any_eq_false]
    intro said among
    obtain ⟨member, inMembers, rfl⟩ := List.mem_map.mp among
    have key := (stated.states positive member inMembers).2
    simp [Option.isSome_iff_ne_none.mp key]
  have file : Config.member? (members.map Member.reading) fileKey none readFile? =
      some config.dbFile :=
    stated.member? (by simp) (fun config => config.filter_entries (by simp [entries]))
      (fun config _ => read_file?_reading config) rfl positive
  have page : Config.member? (members.map Member.reading) pageKey inMemory.maxPageSize readPage? =
      some config.maxPageSize :=
    stated.member? (by simp) (fun config => config.filter_entries (by simp [entries]))
      (fun config positive => read_page?_reading positive) rfl positive
  have timeout : Config.member? (members.map Member.reading) timeoutKey inMemory.busyTimeout
      readTimeout? = some config.busyTimeout :=
    stated.member? (by simp) (fun config => config.filter_entries (by simp [entries]))
      (fun config _ => read_timeout?_reading config) rfl positive
  rw [Config.ofDocument?, named, file, page, timeout]
  rfl

/-- A text that states a configuration is read as the configuration. -/
theorem IsStatedBy.parse (stated : config.IsStatedBy members) (positive : 0 < config.maxPageSize)
    {text : String} (shape : IsObjectText text members) : parse text = .ok config := by
  have read := shape.parse? fun member among => (stated.states positive member among).1
  have valid : config.validate = .ok () := if_neg (Int64.not_le.mpr positive)
  unfold Config.parse
  simp only [read, Option.bind_some, stated.of_document? positive, valid]
  rfl

/-! ### The document that is written -/

/-- The members of a configuration's document, without blanks. -/
def ownMembers (config : Config) : List Member :=
  config.entries.map fun entry => ⟨[], entry.1, [], [], entry.2, []⟩

/-- What is written for a configuration is an object with the members of the configuration. -/
theorem render_is_object_text (config : Config) : IsObjectText config.render config.ownMembers := by
  refine ⟨[], listed (config.ownMembers.map Member.chars), [], is_blanks_nil, .members ?_ ?_,
    is_blanks_nil, ?_⟩
  · exact List.cons_ne_nil _ _
  · intro member among
    obtain ⟨entry, -, rfl⟩ := List.mem_map.mp among
    exact ⟨is_blanks_nil, is_blanks_nil, is_blanks_nil, is_blanks_nil⟩
  · have keys : (writeText fileKey).toList = '"' :: (fileKey.toList ++ ['"']) ∧
        (writeText pageKey).toList = '"' :: (pageKey.toList ++ ['"']) ∧
        (writeText timeoutKey).toList = '"' :: (timeoutKey.toList ++ ['"']) := by decide
    obtain ⟨file, page, timeout⟩ := keys
    have shape : config.render = "\x7b" ++ writeText fileKey ++ ":" ++ config.fileText ++ "," ++
        writeText pageKey ++ ":" ++ toString config.maxPageSize.toInt ++ "," ++
        writeText timeoutKey ++ ":" ++ toString config.busyTimeout.toNat ++ "\x7d" := rfl
    rw [shape]
    simp [ownMembers, entries, listed, Member.chars, file, page, timeout]

/-- Its own members state a configuration. -/
theorem is_stated_by_own_members (config : Config) : config.IsStatedBy config.ownMembers := by
  have same : (config.ownMembers.map fun member => (member.key, member.value)) =
    config.entries := by
    rw [ownMembers, List.map_map]
    exact List.map_id _
  refine ⟨config.ownMembers, [], by rw [List.append_nil], ?_, ?_, fun _ member => by cases member⟩
  · rw [same]
  · intro entry member left
    rw [same] at left
    exact absurd member left

/-- A configuration survives its document. What is written for it is read as it, and so is every
text that states it: the members in any order, with blanks between the tokens, with strangers among
them, and without those members that have the value of the default.

Proof: what is written is an object with the members of the configuration, and every object that
states a configuration is read as it, member by member. -/
theorem document_states_config (config : Config) (positive : 0 < config.maxPageSize) :
    parse config.render = .ok config ∧
      ∀ members text, config.IsStatedBy members → IsObjectText text members →
        parse text = .ok config :=
  ⟨config.is_stated_by_own_members.parse positive config.render_is_object_text,
    fun _ _ stated shape => stated.parse positive shape⟩

end Config

/-! ### A document with a note -/

namespace Noted

open Document

/-- A file with a line break in its name, and a short wait. -/
def config : Config := { dbFile := some "a\nb", busyTimeout := 100 }

/-- The member that names the file, with an escape in its text. -/
def file : Member := ⟨[], Config.fileKey.toList, [], [], "\"a\\nb\"".toList, []⟩

/-- The member with the waiting time, between blanks. -/
def timeout : Member := ⟨[], Config.timeoutKey.toList, [], [' '], "100".toList, [' ']⟩

/-- An object with a null, behind a blank. -/
def nested : Member := ⟨[], "\\u00e9".toList, [], [], "null".toList, []⟩

/-- The items of the note: a number and an object. -/
def items : List Item :=
  [⟨[], ['1'], []⟩, ⟨[' '], '\x7b' :: (listed [nested.chars] ++ ['\x7d']), []⟩]

/-- A list of a number and an object, under a key that means nothing. -/
def note : Member :=
  ⟨[' '], "note".toList, [' '], [' '], '[' :: (listed (items.map Item.chars) ++ [']']), []⟩

/-- The text as a whole, with blanks around and in it. -/
def text : String :=
  "\x7b \"note\" : [1, \x7b\"\\u00e9\":null\x7d],\"busy_timeout_ms\": 100 ,\"db_file\":\"a\\nb\"\x7d\n"

/-- The object in the note is a value of the grammar. -/
theorem nested_is_value : IsValue ('\x7b' :: (listed [nested.chars] ++ ['\x7d'])) := by
  have key : IsBody nested.key :=
    .unit ⟨0, 0, 14, 9, .inl rfl, .inl rfl, .inl rfl, .inl rfl, rfl⟩ .nil
  have spaced : nested.IsSpaced := ⟨is_blanks_nil, is_blanks_nil, is_blanks_nil, is_blanks_nil⟩
  exact IsValue.object (List.cons_ne_nil nested []) (by simp [spaced]) (by simp [key])
    fun member among => List.mem_singleton.mp among ▸ .word (by decide)

/-- The note is under no key of a configuration, and its value is one of the grammar. -/
theorem note_is_stranger : Config.IsStranger note := by
  have one : IsValue (Numeral.chars ⟨false, ['1'], [], []⟩) :=
    .number ⟨.inr ⟨⟨List.cons_ne_nil _ _, List.forall_mem_singleton.mpr rfl⟩, by decide⟩,
      .inl rfl, .inl rfl⟩
  refine ⟨⟨"note".toList, spells_written "note".toList, by decide⟩, ?_⟩
  refine IsValue.array (List.cons_ne_nil _ _) ?_ ?_
  · exact List.forall_mem_cons.mpr ⟨⟨is_blanks_nil, is_blanks_nil⟩,
      List.forall_mem_singleton.mpr ⟨is_blanks_singleton (by decide), is_blanks_nil⟩⟩
  · exact List.forall_mem_cons.mpr ⟨one, List.forall_mem_singleton.mpr nested_is_value⟩

/-- The members state the configuration in another order. The only one that was left out has the
size that a page has by default. -/
theorem is_stated_by : config.IsStatedBy [note, timeout, file] := by
  have kept : [file, timeout].map (fun member => (member.key, member.value)) =
      [(Config.fileKey.toList, config.fileText.toList),
        (Config.timeoutKey.toList, (toString config.busyTimeout.toNat).toList)] := by
    decide +kernel
  refine ⟨[file, timeout], [note], List.reverse_perm [file, timeout, note], ?_, ?_,
    List.forall_mem_singleton.mpr note_is_stranger⟩
  · rw [kept]
    exact ((List.Sublist.refl _).cons _).cons_cons _
  · rw [kept]
    intro entry member left
    simp only [Config.entries, List.mem_cons, List.not_mem_nil, or_false, not_or] at member left ⊢
    rcases member with rfl | rfl | rfl
    · exact absurd rfl left.1
    · exact .inr (.inl rfl)
    · exact absurd rfl left.2

/-- The text is an object with these members. -/
theorem is_object_text : IsObjectText text [note, timeout, file] := by
  refine ⟨[], _, ['\n'], is_blanks_nil, .members (List.cons_ne_nil _ _) ?_,
    is_blanks_singleton (by decide), by decide +kernel⟩
  have space : IsBlanks [' '] := is_blanks_singleton (by decide)
  exact List.forall_mem_cons.mpr ⟨⟨space, space, space, is_blanks_nil⟩,
    List.forall_mem_cons.mpr ⟨⟨is_blanks_nil, is_blanks_nil, space, space⟩,
      List.forall_mem_singleton.mpr ⟨is_blanks_nil, is_blanks_nil, is_blanks_nil, is_blanks_nil⟩⟩⟩

end Noted

open Noted in
/-- A text with a note and with blanks, in another order and without the size of a page, is read as
the configuration of the file and the wait, as is the document that is written for it. -/
theorem Config.document_states_noted :
    0 < Noted.config.maxPageSize ∧ Config.parse Noted.config.render = .ok Noted.config ∧
      Noted.config.IsStatedBy [note, timeout, file] ∧
      Document.IsObjectText text [note, timeout, file] ∧
      Config.parse text = .ok Noted.config := by
  have positive : 0 < Noted.config.maxPageSize := by decide
  obtain ⟨written, restated⟩ := Config.document_states_config Noted.config positive
  exact ⟨positive, written, is_stated_by, is_object_text, restated _ _ is_stated_by is_object_text⟩

end RecordStore
