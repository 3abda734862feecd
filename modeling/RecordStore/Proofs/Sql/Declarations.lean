import RecordStore.Proofs.Sql.Lines
import RecordStore.Proofs.Sql.Reading

/-!
# Reading declarations back

The text that creates a table lays out its columns and its keys one to a line, without any quotes.
It is read as the table that it was made of, as long as each name is a word of its own and each
column says whether it may be empty: then no part of a column is taken for the next one, and no key
for a column.
-/

namespace RecordStore.Sql

open RecordStore.Sql.Parser Token

/-! ### Tokens of declarations -/

/-- The words of which declarations are made. -/
def declarationWords : List String :=
  ["CREATE", "TABLE", "PRIMARY", "KEY", "AUTOINCREMENT", "NOT", "NULL", "WITHOUT", "ROWID"]

/-- They are written in capitals. -/
theorem upper_declaration_word {keyword : String} (member : keyword ∈ declarationWords) :
    upper keyword = keyword := by
  have all : ∀ keyword ∈ declarationWords, upper keyword = keyword := by decide +kernel
  exact all keyword member

/-- Groups of tokens with commas between them. -/
def commaList : List (List Token) → List Token
  | [] => []
  | [only] => only
  | first :: rest => first ++ sign "" "," :: commaList rest

namespace ColumnDefinition

/-- The words that make a column the key of its table. -/
def keyWords : Option Bool → List Token
  | none => []
  | some false => [word " " "PRIMARY", word " " "KEY"]
  | some true => [word " " "PRIMARY", word " " "KEY", word " " "AUTOINCREMENT"]

/-- The words that say whether a column may be empty. -/
def requiredWords : Option Bool → List Token
  | none => []
  | some true => [word " " "NOT", word " " "NULL"]
  | some false => [word " " "NULL"]

/-- The tokens of a column on a line of its own. -/
def spell (column : ColumnDefinition) : List Token :=
  word "\n" column.name :: word " " column.typeWords ::
    (keyWords column.inlineKey ++ requiredWords column.required)

/-- A column that is read back from its text. -/
structure Written (column : ColumnDefinition) : Prop where
  named : IsName column.name
  typed : IsName column.typeWords
  required : column.required.isSome = true
  unique : column.unique = false
  noDefault : column.defaultValue = none

end ColumnDefinition

/-- The tokens of a key on a line of its own. -/
def spellKey (key : List String) : List Token :=
  word "\n" "PRIMARY" :: word " " "KEY" :: sign " " "(" ::
    (commaList (key.map fun name => [word "" name]) ++ [sign "" ")"])

namespace TableDefinition

/-- The lines between the brackets of a table's creation. -/
def spellLines (definition : TableDefinition) : List (List Token) :=
  definition.columns.map ColumnDefinition.spell ++ definition.keys.map spellKey

/-- The words that have a table kept by its key. -/
def optionWords (definition : TableDefinition) : List Token :=
  if definition.withoutRowid then [word " " "WITHOUT", word " " "ROWID"] else []

/-- The tokens of a table's creation. -/
def spell (definition : TableDefinition) : List Token :=
  word "" "CREATE" :: word " " "TABLE" :: word " " definition.name :: sign " " "(" ::
    (commaList definition.spellLines ++ sign "\n" ")" :: definition.optionWords)

/-- A table that is read back from its text. -/
structure Written (definition : TableDefinition) : Prop where
  named : IsName definition.name
  /-- A name in this place is not taken for the start of a condition. -/
  unconditional : upper definition.name ≠ "IF"
  certain : definition.ifMissing = false
  some_column : definition.columns ≠ []
  columns : ∀ column ∈ definition.columns, column.Written
  keys : ∀ key ∈ definition.keys, key ≠ [] ∧ ∀ name ∈ key, IsName name
  uniques : definition.uniques = []

end TableDefinition

/-- Groups between commas start with the first group. -/
theorem comma_list_starts (first : List Token) (groups : List (List Token)) (rest : List Token) :
    ∃ more, commaList (first :: groups) ++ rest = first ++ more := by
  cases groups with
  | nil => exact ⟨rest, rfl⟩
  | cons second others => exact ⟨_, List.append_assoc first _ rest⟩

/-! ### What is laid out -/

/-- Groups that are laid apart stay so with commas between them. -/
theorem comma_list_laid {groups : List (List Token)} (laid : ∀ group ∈ groups, IsLaid group) :
    IsLaid (commaList groups) := by
  induction groups with
  | nil => exact .nil
  | cons first rest inductionHypothesis =>
    obtain ⟨here, later⟩ := List.forall_mem_cons.mp laid
    cases rest with
    | nil => exact here
    | cons second others =>
      exact here.append_bracket "" "," (by decide) (by decide) (inductionHypothesis later)

/-- The tokens of a column are laid apart. -/
theorem ColumnDefinition.Written.laid {column : ColumnDefinition} (written : column.Written) :
    IsLaid column.spell := by
  have keyWords : ∀ inline, ∀ token ∈ keyWords inline, token.IsSpaced := by
    rintro (_ | _ | _) <;> decide
  have requiredWords : ∀ required, ∀ token ∈ requiredWords required, token.IsSpaced := by
    rintro (_ | _ | _) <;> decide
  have named := is_spaced_word (by decide : "\n" ≠ "") (by decide) written.named.1
  have typed := is_spaced_word (by decide : " " ≠ "") (by decide) written.typed.1
  refine .of_spaced (List.forall_mem_cons.mpr ⟨named, List.forall_mem_cons.mpr ⟨typed, ?_⟩⟩)
  intro token member
  rcases List.mem_append.mp member with isKey | isRequired
  · exact keyWords _ token isKey
  · exact requiredWords _ token isRequired

/-- The tokens of a key are laid apart. -/
theorem spell_key_laid {key : List String} (named : ∀ name ∈ key, IsName name) :
    IsLaid (spellKey key) := by
  have names : IsLaid (commaList (key.map fun name => [word "" name])) := by
    refine comma_list_laid fun group member => ?_
    obtain ⟨name, among, rfl⟩ := List.mem_map.mp member
    exact .singleton (.word (by decide) (named name among).1)
  have closed := names.append_bracket "" ")" (by decide) (by decide) .nil
  have opened : IsLaid (sign " " "(" :: _) := .bracket_cons (by decide) (by decide) closed
  have bracket : (sign " " "(").IsParted := is_parted_bracket (by decide)
  have keyed : IsLaid (word " " "KEY" :: _) := .word_cons (by decide) (by decide) bracket opened
  exact .word_cons (by decide) (by decide) (is_parted_word _ (by decide)) keyed

/-- The tokens of a table's creation are laid apart. -/
theorem TableDefinition.Written.laid {definition : TableDefinition} (written : definition.Written) :
    IsLaid definition.spell := by
  have lines : IsLaid (commaList definition.spellLines) := by
    refine comma_list_laid fun group member => ?_
    rcases List.mem_append.mp member with isColumn | isKey
    · obtain ⟨column, among, rfl⟩ := List.mem_map.mp isColumn
      exact (written.columns column among).laid
    · obtain ⟨key, among, rfl⟩ := List.mem_map.mp isKey
      exact spell_key_laid (written.keys key among).2
  have options : IsLaid definition.optionWords := by
    refine .of_spaced ?_
    unfold optionWords
    cases definition.withoutRowid <;> decide
  have closed := lines.append_bracket "\n" ")" (by decide) (by decide) options
  have opened : IsLaid (sign " " "(" :: _) := .bracket_cons (by decide) (by decide) closed
  have bracket : (sign " " "(").IsParted := is_parted_bracket (by decide)
  have spaced : ∀ written, (word " " written).IsParted := fun written =>
    is_parted_word written (by decide)
  have named : IsLaid (word " " definition.name :: _) :=
    .word_cons (by decide) written.named.1 bracket opened
  have table : IsLaid (word " " "TABLE" :: _) := .word_cons (by decide) (by decide) (spaced _) named
  exact .word_cons (by decide) (by decide) (spaced _) table

/-! ### Characters of declarations -/

/-- A text in front of each item stands in front of all and behind each separator. -/
theorem joined_prefixed (before separator : String) {items : List String} (some_item : items ≠ []) :
    joined separator (items.map (before ++ ·)) = before ++ joined (separator ++ before) items := by
  induction items with
  | nil => exact absurd rfl some_item
  | cons first rest inductionHypothesis =>
    cases rest with
    | nil => rfl
    | cons second others =>
      have later := inductionHypothesis (List.cons_ne_nil second others)
      simp only [joined, List.map_cons, String.intercalate_cons_cons] at later ⊢
      rw [later]
      simp only [String.append_assoc]

/-- The characters of groups with commas between them. -/
theorem comma_list_chars (groups : List (List Token)) :
    (commaList groups).flatMap chars =
      (joined "," (groups.map fun group => String.ofList (group.flatMap chars))).toList := by
  induction groups with
  | nil => rfl
  | cons first rest inductionHypothesis =>
    cases rest with
    | nil => simp [commaList, joined]
    | cons second others =>
      simp only [joined, List.map_cons, String.intercalate_cons_cons] at inductionHypothesis ⊢
      simp [commaList, inductionHypothesis]

/-- The tokens of a column are its text, on a line of its own. -/
theorem ColumnDefinition.Written.chars {column : ColumnDefinition} (written : column.Written) :
    String.ofList (column.spell.flatMap chars) = "\n" ++ column.render := by
  have typed : column.typeWords.isEmpty = false := by
    obtain ⟨first, rest, shape, -⟩ := plain_word_cases written.typed.1
    simp [← String.toList_eq_nil_iff, shape]
  rw [← String.toList_inj]
  rcases inline : column.inlineKey with _ | _ | _ <;>
    rcases required : column.required with _ | _ | _ <;>
    simp [spell, render, keyWords, requiredWords, inline, required, typed, written.unique]

/-- The tokens of a key are its text, on a line of its own. -/
theorem spell_key_chars (key : List String) :
    String.ofList ((spellKey key).flatMap chars) =
      "\n" ++ ("PRIMARY KEY (" ++ joined "," key ++ ")") := by
  have names : ((key.map fun name => [word "" name]).map
      fun group => String.ofList (group.flatMap chars)) = key := by
    simp [Function.comp_def]
  rw [← String.toList_inj]
  simp [spellKey, comma_list_chars, names]

/-- The text of a table's creation is made of its tokens. -/
theorem TableDefinition.Written.made {definition : TableDefinition} (written : definition.Written) :
    definition.render.toList = definition.spell.flatMap chars := by
  have some_line : definition.columns.map ColumnDefinition.render ++
      definition.keys.map (fun key => "PRIMARY KEY (" ++ joined "," key ++ ")") ≠ [] := by
    simp [written.some_column]
  have lines : definition.spellLines.map (fun group => String.ofList (group.flatMap chars)) =
      (definition.columns.map ColumnDefinition.render ++
        definition.keys.map fun key => "PRIMARY KEY (" ++ joined "," key ++ ")").map
          ("\n" ++ ·) := by
    simp only [TableDefinition.spellLines, List.map_append, List.map_map]
    congr 1
    · exact List.map_congr_left fun column member => (written.columns column member).chars
    · exact List.map_congr_left fun key _ => spell_key_chars key
  have joinedLines := joined_prefixed "\n" "," some_line
  have between : (commaList definition.spellLines).flatMap chars =
      ("\n" ++ joined ",\n" (definition.columns.map ColumnDefinition.render ++
        definition.keys.map fun key => "PRIMARY KEY (" ++ joined "," key ++ ")")).toList := by
    rw [comma_list_chars, lines, joinedLines]
    rfl
  have options : definition.optionWords.flatMap chars =
      (if definition.withoutRowid then " WITHOUT ROWID" else "").toList := by
    unfold optionWords
    cases definition.withoutRowid <;> rfl
  unfold render spell
  rw [written.certain, written.uniques]
  simp [between, options]

/-! ### How long declarations are -/

/-- There are at least as many tokens as groups. -/
theorem length_le_comma_list {groups : List (List Token)}
    (some_token : ∀ group ∈ groups, group ≠ []) : groups.length ≤ (commaList groups).length := by
  induction groups with
  | nil => exact Nat.le_refl _
  | cons first rest inductionHypothesis =>
    obtain ⟨here, later⟩ := List.forall_mem_cons.mp some_token
    have long := List.length_pos_iff.mpr here
    have behind := inductionHypothesis later
    cases rest with
    | nil =>
      rw [commaList]
      exact long
    | cons second others =>
      simp only [commaList, List.length_append, List.length_cons] at behind ⊢
      omega

/-- There are more tokens of a key than columns of it. -/
theorem length_lt_spell_key (key : List String) : key.length < (spellKey key).length := by
  have names : (key.map fun name => [word "" name]).length ≤ _ :=
    length_le_comma_list (by simp)
  simp only [spellKey, List.length_cons, List.length_append, List.length_map] at names ⊢
  omega

/-! ### Reading names and columns -/

section Reading

variable {fuel : Nat} {gap closing : String} {rest : List Token}

/-- A name is taken. -/
theorem IsName.take_name {name : String} (named : IsName name) (gap : String) (rest : List Token) :
    takeName (word gap name :: rest) = .ok (name, rest) := by
  simp only [Parser.takeName, named.name_of?_word]

/-- Names with commas between them are read one after the other. -/
theorem comma_separated_names (gap : String) (rest : List Token) {names : List String}
    (some_name : names ≠ []) (named : ∀ name ∈ names, IsName name) (closes : closing ≠ ",")
    (enough : names.length ≤ fuel) :
    commaSeparated Parser.takeName fuel
        (commaList (names.map fun name => [word "" name]) ++ sign gap closing :: rest) =
      .ok (names, sign gap closing :: rest) := by
  induction names generalizing fuel with
  | nil => exact absurd rfl some_name
  | cons first others inductionHypothesis =>
    obtain ⟨fuel, rfl⟩ := Nat.exists_eq_succ_of_ne_zero (Nat.ne_of_gt (Nat.zero_lt_of_lt enough))
    obtain ⟨here, later⟩ := List.forall_mem_cons.mp named
    cases others with
    | nil =>
      simp [commaList, commaSeparated, here.take_name, closes, bind, Except.bind, pure, Except.pure]
    | cons second more =>
      have behind := inductionHypothesis (List.cons_ne_nil second more) later
        (Nat.le_of_succ_le_succ enough)
      simp only [List.map_cons] at behind ⊢
      simp [commaList, commaSeparated, here.take_name, behind, bind, Except.bind, pure, Except.pure]

/-- A key behind its line break is read between its brackets. -/
theorem bracketed_key (rest : List Token) {key : List String} (some_name : key ≠ [])
    (named : ∀ name ∈ key, IsName name) (enough : key.length ≤ fuel) :
    bracketed (commaSeparated Parser.takeName fuel)
        (sign " " "(" :: (commaList (key.map fun name => [word "" name]) ++ sign "" ")" :: rest)) =
      .ok (key, rest) := by
  have read := comma_separated_names "" rest some_name named (by decide : ")" ≠ ",") enough
  simp [bracketed, takeSign, read, bind, Except.bind, pure, Except.pure]

/-- The word of a type is read up to the next keyword. -/
theorem type_words_name {type keyword : String} (typed : IsName type)
    (never : upper keyword ∈ neverNames) :
    typeWords (fuel + 2) [] (word " " type :: word " " keyword :: rest) =
      .ok ([type], word " " keyword :: rest) := by
  have isWord : ∀ written, (word " " written).kind = .word := fun _ => rfl
  have noName : nameOf? (word " " keyword) = none := by
    change (if neverNames.contains (upper keyword) then none else some keyword) = none
    rw [List.contains_iff_mem.mpr never, if_pos rfl]
  simp [typeWords, typed.name_of?_word, noName, isWord]

namespace ColumnDefinition

/-- A bracket or a comma ends what a column declares. -/
theorem column_constraints_ends (column : ColumnDefinition) :
    columnConstraints fuel column (sign gap closing :: rest) =
      .ok (column, sign gap closing :: rest) := by
  cases fuel with
  | zero => rfl
  | succ fuel => simp [columnConstraints]

/-- What a column says of being empty is read. -/
theorem column_constraints_required {column : ColumnDefinition} (unstated : column.required = none)
    {required : Option Bool} (states : required.isSome = true) :
    columnConstraints (fuel + 1) column (requiredWords required ++ sign gap closing :: rest) =
      .ok ({ column with required := required }, sign gap closing :: rest) := by
  have upperNot : upper "NOT" = "NOT" := upper_declaration_word (by decide)
  have upperNull : upper "NULL" = "NULL" := upper_declaration_word (by decide)
  rcases required with _ | _ | _
  · cases states
  · simp [requiredWords, columnConstraints, upperNull, column_constraints_ends, unstated]
  · simp [requiredWords, columnConstraints, upperNot, upperNull, takeWord, column_constraints_ends,
      bind, Except.bind]

/-- A keyword that is not there is not skipped. -/
theorem skip_word_absent {keyword : String} {tokens : List Token}
    (absent : startsWord keyword tokens = false) : skipWord keyword tokens = (false, tokens) := by
  cases tokens with
  | nil => rfl
  | cons token others =>
    rw [starts_word_cons] at absent
    simp [skipWord, absent]

/-- What makes a column the key is read up to what it says of being empty. -/
theorem column_constraints_key {column : ColumnDefinition} (numbered : Bool) {tokens : List Token}
    (noOrder : startsWord "ASC" tokens = false)
    (noNumbers : startsWord "AUTOINCREMENT" tokens = false) :
    columnConstraints (fuel + 1) column (keyWords (some numbered) ++ tokens) =
      columnConstraints fuel { column with inlineKey := some numbered } tokens := by
  have upperPrimary : upper "PRIMARY" = "PRIMARY" := upper_declaration_word (by decide)
  have upperKey : upper "KEY" = "KEY" := upper_declaration_word (by decide)
  have upperAuto : upper "AUTOINCREMENT" = "AUTOINCREMENT" := upper_declaration_word (by decide)
  cases numbered with
  | false =>
    simp [keyWords, columnConstraints, takeWord, upperPrimary, upperKey, skip_word_absent noOrder,
      skip_word_absent noNumbers, bind, Except.bind]
  | true =>
    simp [keyWords, columnConstraints, takeWord, skipWord, upperPrimary, upperKey, upperAuto, bind,
      Except.bind]

/-- What says whether a column may be empty starts with `NOT` or `NULL`. -/
theorem required_words_starts {required : Option Bool} (states : required.isSome = true)
    (rest : List Token) : ∃ keyword more, (keyword = "NOT" ∨ keyword = "NULL") ∧
      requiredWords required ++ rest = word " " keyword :: more := by
  rcases required with _ | _ | _
  · cases states
  · exact ⟨"NULL", rest, .inr rfl, rfl⟩
  · exact ⟨"NOT", word " " "NULL" :: rest, .inl rfl, rfl⟩

/-- Behind its name and its type a column is read as it was. -/
theorem Written.read_constraints {column : ColumnDefinition} (written : column.Written)
    (fuel : Nat) (gap closing : String) (rest : List Token) :
    columnConstraints (fuel + 2) { name := column.name, typeWords := column.typeWords }
        (keyWords column.inlineKey ++
          (requiredWords column.required ++ sign gap closing :: rest)) =
      .ok (column, sign gap closing :: rest) := by
  obtain ⟨name, type, inline, required, unique, default⟩ := column
  obtain ⟨-, -, states, rfl, rfl⟩ := written
  cases inline with
  | none => exact column_constraints_required rfl states
  | some numbered =>
    obtain ⟨keyword, more, known, starts⟩ := required_words_starts states (sign gap closing :: rest)
    have capitals : upper keyword = keyword := by
      rcases known with rfl | rfl <;> exact upper_declaration_word (by decide)
    rw [column_constraints_key numbered, column_constraints_required rfl states]
    · rcases known with rfl | rfl <;> simp [starts, capitals]
    · rcases known with rfl | rfl <;> simp [starts, capitals]

/-- The word behind the type of a column is a keyword. -/
theorem Written.constraints_start {column : ColumnDefinition} (written : column.Written)
    (rest : List Token) : ∃ keyword more, upper keyword ∈ neverNames ∧
      keyWords column.inlineKey ++ (requiredWords column.required ++ rest) =
        word " " keyword :: more := by
  obtain ⟨keyword, more, known, starts⟩ := required_words_starts written.required rest
  rcases column.inlineKey with _ | _ | _
  · refine ⟨keyword, more, ?_, starts⟩
    rcases known with rfl | rfl <;> decide +kernel
  · exact ⟨"PRIMARY", _, by decide +kernel, rfl⟩
  · exact ⟨"PRIMARY", _, by decide +kernel, rfl⟩

/-- A column is read up to the comma or the bracket behind it. -/
theorem Written.read {column : ColumnDefinition} (written : column.Written) (gap closing : String)
    (rest : List Token) (enough : 2 ≤ fuel) :
    columnDefinition fuel (column.spell ++ sign gap closing :: rest) =
      .ok (column, sign gap closing :: rest) := by
  obtain ⟨fuel, rfl⟩ : ∃ less, fuel = less + 2 := ⟨fuel - 2, by omega⟩
  obtain ⟨keyword, more, never, starts⟩ := written.constraints_start (sign gap closing :: rest)
  have constraints := written.read_constraints fuel gap closing rest
  rw [starts] at constraints
  simp only [spell, List.cons_append, List.append_assoc, starts]
  simp [columnDefinition, written.named.take_name, type_words_name written.typed never, typeLength,
    constraints, bind, Except.bind]

end ColumnDefinition

/-! ### Reading tables -/

/-- One key is read, and more of them behind a comma. -/
theorem table_constraints_key {key : List String} (some_name : key ≠ [])
    (named : ∀ name ∈ key, IsName name) (enough : key.length ≤ fuel) (parts : Parts) :
    tableConstraints (fuel + 1) parts (spellKey key ++ rest) =
      if startsSign "," rest then
        tableConstraints fuel { parts with keys := parts.keys ++ [key] } (rest.drop 1)
      else .ok ({ parts with keys := parts.keys ++ [key] }, rest) := by
  have upperPrimary : upper "PRIMARY" = "PRIMARY" := upper_declaration_word (by decide)
  have upperKey : upper "KEY" = "KEY" := upper_declaration_word (by decide)
  have read := bracketed_key rest some_name named enough
  simp [spellKey, tableConstraints, upperPrimary, upperKey, takeWord, read, bind, Except.bind, pure,
    Except.pure]

/-- Keys behind the columns are read one after the other. -/
theorem table_constraints_keys (gap : String) (rest : List Token) {keys : List (List String)}
    (some_key : keys ≠ []) (named : ∀ key ∈ keys, key ≠ [] ∧ ∀ name ∈ key, IsName name)
    (closes : closing ≠ ",")
    (enough : (commaList (keys.map spellKey)).length ≤ fuel) (parts : Parts) :
    tableConstraints fuel parts (commaList (keys.map spellKey) ++ sign gap closing :: rest) =
      .ok ({ parts with keys := parts.keys ++ keys }, sign gap closing :: rest) := by
  induction keys generalizing fuel parts with
  | nil => exact absurd rfl some_key
  | cons key others inductionHypothesis =>
    obtain ⟨⟨some_name, names⟩, later⟩ := List.forall_mem_cons.mp named
    have long := length_lt_spell_key key
    cases others with
    | nil =>
      simp only [List.map_cons, List.map_nil, commaList] at enough ⊢
      obtain ⟨fuel, rfl⟩ : ∃ less, fuel = less + 1 := ⟨fuel - 1, by omega⟩
      rw [table_constraints_key some_name names (by omega)]
      simp [closes]
    | cons second more =>
      simp only [List.map_cons, commaList, List.length_append, List.length_cons] at enough
      obtain ⟨fuel, rfl⟩ : ∃ less, fuel = less + 1 := ⟨fuel - 1, by omega⟩
      have shorter : (commaList ((second :: more).map spellKey)).length ≤ fuel := by
        rw [List.map_cons]
        omega
      have behind := inductionHypothesis (List.cons_ne_nil second more) later shorter
        { parts with keys := parts.keys ++ [key] }
      simp only [List.map_cons, commaList, List.append_assoc, List.cons_append] at behind ⊢
      rw [table_constraints_key some_name names (by omega)]
      simpa using behind

/-- One column is read, and what follows behind a comma: more columns, or the keys. -/
theorem ColumnDefinition.Written.table_parts {column : ColumnDefinition} (written : column.Written)
    (enough : 2 ≤ fuel) (parts : Parts) :
    tableParts (fuel + 1) parts (column.spell ++ sign gap closing :: rest) =
      if closing = "," then
        if startsWord "PRIMARY" rest || startsWord "UNIQUE" rest then
          tableConstraints fuel { parts with columns := parts.columns ++ [column] } rest
        else Parser.tableParts fuel { parts with columns := parts.columns ++ [column] } rest
      else .ok ({ parts with columns := parts.columns ++ [column] }, sign gap closing :: rest) := by
  have read := written.read gap closing rest enough
  simp [Parser.tableParts, read, bind, Except.bind, pure, Except.pure]

/-- No column starts with the word that starts a key. -/
theorem ColumnDefinition.Written.starts_word {column : ColumnDefinition} (written : column.Written)
    (rest : List Token) : (Parser.startsWord "PRIMARY" (column.spell ++ rest) ||
      Parser.startsWord "UNIQUE" (column.spell ++ rest)) = false := by
  have noKey : upper column.name ≠ "PRIMARY" := written.named.upper_ne (by decide)
  have noUnique : upper column.name ≠ "UNIQUE" := written.named.upper_ne (by decide)
  simp [spell, noKey, noUnique]

/-- Keys start with the word that starts a key. -/
theorem starts_word_keys (key : List String) (others : List (List Token)) (rest : List Token) :
    Parser.startsWord "PRIMARY" (commaList (spellKey key :: others) ++ rest) = true := by
  have upperPrimary : upper "PRIMARY" = "PRIMARY" := upper_declaration_word (by decide)
  obtain ⟨more, shape⟩ := comma_list_starts (spellKey key) others rest
  rw [shape]
  simp [spellKey, upperPrimary]

/-- The columns of a table and the keys behind them are read up to the bracket that ends them. By
induction on the columns. -/
theorem table_parts_lines (gap : String) (rest : List Token) {columns : List ColumnDefinition}
    {keys : List (List String)} (some_column : columns ≠ [])
    (written : ∀ column ∈ columns, column.Written)
    (named : ∀ key ∈ keys, key ≠ [] ∧ ∀ name ∈ key, IsName name) (closes : closing ≠ ",")
    (enough : (commaList (columns.map ColumnDefinition.spell ++ keys.map spellKey)).length + 2 ≤
      fuel)
    (parts : Parts) :
    tableParts fuel parts
        (commaList (columns.map ColumnDefinition.spell ++ keys.map spellKey) ++
          sign gap closing :: rest) =
      .ok ({ parts with columns := parts.columns ++ columns, keys := parts.keys ++ keys },
        sign gap closing :: rest) := by
  induction columns generalizing fuel parts with
  | nil => exact absurd rfl some_column
  | cons column others inductionHypothesis =>
    obtain ⟨here, later⟩ := List.forall_mem_cons.mp written
    have long : 2 ≤ column.spell.length := by simp [ColumnDefinition.spell]
    obtain ⟨fuel, rfl⟩ : ∃ less, fuel = less + 1 := ⟨fuel - 1, by omega⟩
    cases others with
    | nil =>
      cases keys with
      | nil =>
        simp only [List.map_cons, List.map_nil, List.append_nil, commaList] at enough ⊢
        rw [here.table_parts (by omega)]
        simp [closes]
      | cons key more =>
        simp only [List.map_cons, List.map_nil, List.cons_append, List.nil_append, commaList,
          List.length_append, List.length_cons] at enough
        have shorter : (commaList ((key :: more).map spellKey)).length ≤ fuel := by
          rw [List.map_cons]
          omega
        have behind := table_constraints_keys gap rest (List.cons_ne_nil key more)
          named closes shorter { parts with columns := parts.columns ++ [column] }
        have starts := starts_word_keys key (more.map spellKey) (sign gap closing :: rest)
        simp only [List.map_cons, List.map_nil, List.cons_append, List.nil_append, commaList,
          List.append_assoc] at behind ⊢
        rw [here.table_parts (by omega)]
        simp [starts, behind]
    | cons second more =>
      simp only [List.map_cons, List.cons_append, commaList, List.length_append,
        List.length_cons] at enough
      have shorter : (commaList ((second :: more).map ColumnDefinition.spell ++
          keys.map spellKey)).length + 2 ≤ fuel := by
        rw [List.map_cons, List.cons_append]
        omega
      have behind := inductionHypothesis (List.cons_ne_nil second more) later shorter
        { parts with columns := parts.columns ++ [column] }
      simp only [List.map_cons, List.cons_append, commaList, List.append_assoc] at behind ⊢
      obtain ⟨others, shape⟩ := comma_list_starts second.spell
        (more.map ColumnDefinition.spell ++ keys.map spellKey) (sign gap closing :: rest)
      have starts := (later second List.mem_cons_self).starts_word others
      rw [← shape] at starts
      rw [here.table_parts (by omega), if_pos rfl, starts]
      simpa using behind

end Reading

namespace TableDefinition

variable {definition : TableDefinition} {fuel : Nat}

/-- The words behind the brackets say whether the table is kept by its key. -/
theorem table_options_words (definition : TableDefinition) :
    tableOptions definition.optionWords = .ok (definition.withoutRowid, []) := by
  have upperWithout : upper "WITHOUT" = "WITHOUT" := upper_declaration_word (by decide)
  have upperRowid : upper "ROWID" = "ROWID" := upper_declaration_word (by decide)
  unfold optionWords
  cases definition.withoutRowid with
  | false => rfl
  | true =>
    simp [tableOptions, upperWithout, upperRowid, takeWord, bind, Except.bind, pure, Except.pure]

/-- A table is read behind the keywords of its creation. -/
theorem Written.read (written : definition.Written) (enough : definition.spell.length ≤ fuel) :
    tableDefinition fuel (definition.spell.drop 2) = .ok (.createTable definition, []) := by
  have long : (commaList definition.spellLines).length + 2 ≤ fuel := by
    simp only [spell, List.length_cons, List.length_append] at enough
    omega
  have lines := table_parts_lines "\n" definition.optionWords written.some_column written.columns
    written.keys (by decide : ")" ≠ ",") long {}
  have options := definition.table_options_words
  obtain ⟨name, missing, columns, keys, uniques, withoutRowid⟩ := definition
  obtain ⟨named, unconditional, rfl, -, -, -, rfl⟩ := written
  simp only [spell, spellLines, List.drop_succ_cons, List.drop_zero]
  simp only [List.nil_append] at lines options unconditional named
  simp [tableDefinition, Parser.ifMissing, unconditional, named.take_name, bracketed,
    takeSign, lines, options, bind, Except.bind, pure, Except.pure]

/-- The text of a table's creation is a statement by itself, and it says that this table is made. -/
theorem Written.parse (written : definition.Written) :
    ∃ text, Sql.parse definition.render = .ok ⟨.createTable definition, 0, text⟩ := by
  have upperCreate : upper "CREATE" = "CREATE" := upper_declaration_word (by decide)
  have upperTable : upper "TABLE" = "TABLE" := upper_declaration_word (by decide)
  have shape : definition.spell = word "" "CREATE" :: word " " "TABLE" :: definition.spell.drop 2 :=
    rfl
  have noEnd : (definition.spell.dropWhile fun token => isSign token ";") = definition.spell := by
    rw [shape, List.dropWhile_cons, is_sign_word]
    rfl
  have some_token : definition.spell.isEmpty = false := rfl
  have enough : definition.spell.length ≤ 16 * definition.spell.length + 64 := by omega
  have read := written.read enough
  have reads : Parser.statement (16 * definition.spell.length + 64) definition.spell =
      .ok (.createTable definition, []) := by
    generalize 16 * definition.spell.length + 64 = fuel at read
    rw [shape]
    simpa [Parser.statement, Parser.change?, creation, upperCreate, upperTable] using read
  refine ⟨textOf definition.spell, ?_⟩
  unfold Sql.parse
  simp only [written.laid.tokens_eq written.made, noEnd, some_token, Bool.false_eq_true, if_false,
    reads, bind, Except.bind, written.laid.parameter_count]
  rfl

end TableDefinition

end RecordStore.Sql
