import Mathlib.Data.List.Chain
import RecordStore.Schema.Identifier
import RecordStore.Sql.Parser

/-!
# Reading tokens back

A text can be made of tokens: plain words, brackets, comparisons and parameter marks, with a blank
before a token or nothing. Read again it gives these tokens, as long as no two of them run
together, and its parameters get the places one, two, three and so on.
-/

namespace RecordStore.Sql

open RecordStore.Sql.Lexer

namespace Token

/-- A word behind a gap. -/
def word (gap written : String) : Token := ⟨.word, written, gap⟩

/-- A sign behind a gap. -/
def sign (gap written : String) : Token := ⟨.sign, written, gap⟩

/-- A question mark behind a gap, with the place of its parameter. -/
def mark (gap : String) (place : Nat) : Token := ⟨.parameter place, "?", gap⟩

/-- The characters of a token, with the gap before it. -/
def chars (token : Token) : List Char := token.gap.toList ++ token.written.toList

/-- A token as it is read first, when parameters have no places yet. -/
def unplaced (token : Token) : Token :=
  match token.kind with
  | .parameter _ => { token with kind := .parameter 0 }
  | _ => token

/-- Signs that can stand next to anything. -/
def brackets : List String := ["(", ")", ",", ".", "*"]

/-- Signs that compare. -/
def comparisons : List String := ["=", "<>", "<", "<=", ">", ">="]

/-- A word of letters, digits and underscores that starts with no digit. -/
def isPlainWord (written : String) : Bool :=
  match written.toList with
  | [] => false
  | first :: rest => isNameStart first && rest.all isNameRest

/-- The tokens of which texts are made here. -/
inductive IsPlain : Token → Prop where
  | word {gap written : String} (blank : gap = "" ∨ gap = " ")
      (plain : isPlainWord written = true) : IsPlain (word gap written)
  | bracket {gap written : String} (blank : gap = "" ∨ gap = " ")
      (member : written ∈ brackets) : IsPlain (sign gap written)
  | comparison {gap written : String} (blank : gap = "" ∨ gap = " ")
      (member : written ∈ comparisons) : IsPlain (sign gap written)
  | mark {gap : String} {place : Nat} (blank : gap = "" ∨ gap = " ") : IsPlain (mark gap place)

/-- Whether a token is a sign that can stand next to anything. -/
def isBracket (token : Token) : Bool := token.kind == .sign && brackets.contains token.written

/-- Whether a token is a sign that compares. -/
def isComparison (token : Token) : Bool :=
  token.kind == .sign && comparisons.contains token.written

/-- Two tokens do not run together: there is a blank between them, or a bracket is one of
them and no comparison is before it. -/
def Meets (left right : Token) : Prop :=
  right.gap = " " ∨ left.isBracket = true ∨
    (right.isBracket = true ∧ left.isComparison = false)

end Token

/-! ### Gaps -/

/-- Characters that end a gap. -/
def EndsGap (char : Char) : Prop := isBlank char = false ∧ char ≠ '-' ∧ char ≠ '/'

/-- Before a character that ends it a gap is empty. -/
theorem gap_nothing (fuel : Nat) {char : Char} (rest : List Char) (ends : EndsGap char) :
    gap (fuel + 1) (char :: rest) = ([], char :: rest) := by
  obtain ⟨visible, noDash, noSlash⟩ := ends
  unfold gap
  split
  all_goals
    rename_i same
    simp_all

/-- One blank before such a character is the whole gap. -/
theorem gap_blank (fuel : Nat) {char : Char} (rest : List Char) (ends : EndsGap char) :
    gap (fuel + 2) (' ' :: char :: rest) = ([' '], char :: rest) := by
  unfold gap
  simp [isBlank, gap_nothing fuel rest ends]

/-- A gap of nothing or of one blank is read as it is written. -/
theorem gap_eq {gap' : String} (blank : gap' = "" ∨ gap' = " ") {char : Char} (rest : List Char)
    (ends : EndsGap char) :
    gap ((gap'.toList ++ char :: rest).length + 1) (gap'.toList ++ char :: rest) =
      (gap'.toList, char :: rest) := by
  rcases blank with rfl | rfl
  · exact gap_nothing _ rest ends
  · exact gap_blank _ rest ends

/-! ### Lexemes -/

/-- What goes on with a name goes on with a word. -/
theorem is_word_rest_of_is_name_rest {char : Char} (inside : isNameRest char = true) :
    isWordRest char = true := by
  unfold isNameRest at inside
  unfold isWordRest
  rcases Bool.or_eq_true _ _ |>.mp inside with alphanumeric | underscore
  · simp [alphanumeric]
  · simp [underscore]

/-- What starts a name starts a word. -/
theorem is_word_start_of_is_name_start {char : Char} (start : isNameStart char = true) :
    isWordStart char = true := by
  unfold isNameStart at start
  unfold isWordStart
  rcases Bool.or_eq_true _ _ |>.mp start with alphabetic | underscore
  · simp [alphabetic]
  · simp [underscore]

/-- A word is read up to the first character that does not continue it. -/
theorem lexeme_word {first : Char} {rest behind : List Char} (start : isNameStart first = true)
    (inside : ∀ char ∈ rest, isNameRest char = true)
    (ends : ∀ char ∈ behind.head?, isWordRest char = false ∧ char ≠ single) :
    lexeme first (rest ++ behind) = (.word, first :: rest, behind) := by
  have differs : ∀ char, isNameStart char = false → (first == char) = false := by
    intro char notStart
    refine beq_eq_false_iff_ne.mpr fun same => ?_
    rw [same, notStart] at start
    cases start
  have noBlob : ((rest ++ behind).head? == some single) = false := by
    refine beq_eq_false_iff_ne.mpr fun same => ?_
    cases rest with
    | nil => exact (ends single same).2 rfl
    | cons next others =>
      have named := inside next List.mem_cons_self
      cases same
      exact absurd named (by decide)
  have read : (rest ++ behind).takeWhile isWordRest = rest ∧
      (rest ++ behind).dropWhile isWordRest = behind := by
    have all : ∀ char ∈ rest, isWordRest char = true :=
      fun char member => is_word_rest_of_is_name_rest (inside char member)
    rw [List.takeWhile_append_of_pos all, List.dropWhile_append_of_pos all]
    cases behind with
    | nil => simp
    | cons next others => simp [(ends next rfl).1]
  unfold lexeme
  rw [differs single (by decide), differs double (by decide), differs backward (by decide),
    differs '[' (by decide), noBlob, is_word_start_of_is_name_start start, read.1, read.2]
  simp

/-- A bracket is a token by itself. -/
theorem lexeme_bracket {char : Char} {behind : List Char}
    (member : String.singleton char ∈ Token.brackets)
    (noDigit : ∀ next ∈ behind.head?, next.isDigit = false) :
    lexeme char behind = (.sign, [char], behind) := by
  have headNoDigit : behind.head?.any Char.isDigit = false := by
    cases behind with
    | nil => rfl
    | cons next others => simpa using noDigit next rfl
  simp only [Token.brackets, List.mem_cons, List.not_mem_nil, or_false] at member
  have known : char = '(' ∨ char = ')' ∨ char = ',' ∨ char = '.' ∨ char = '*' := by
    simpa [← String.toList_inj] using member
  cases behind with
  | nil => rcases known with rfl | rfl | rfl | rfl | rfl <;> rfl
  | cons next others =>
    simp only [List.head?_cons, Option.any_some] at headNoDigit
    rcases known with rfl | rfl | rfl | rfl | rfl <;>
      simp [lexeme, single, double, backward, isWordStart, doubleSigns, singleSigns, headNoDigit]

/-- A comparison is read as a whole where a blank follows. -/
theorem lexeme_comparison {first : Char} {rest behind : List Char}
    (member : String.ofList (first :: rest) ∈ Token.comparisons)
    (blank : ∀ next ∈ behind.head?, next = ' ') :
    lexeme first (rest ++ behind) = (.sign, first :: rest, behind) := by
  simp only [Token.comparisons, List.mem_cons, List.not_mem_nil, or_false] at member
  have known : (first = '=' ∧ rest = []) ∨ (first = '<' ∧ rest = ['>']) ∨
      (first = '<' ∧ rest = []) ∨ (first = '<' ∧ rest = ['=']) ∨
      (first = '>' ∧ rest = []) ∨ (first = '>' ∧ rest = ['=']) := by
    simpa [← String.toList_inj] using member
  cases behind with
  | nil =>
    rcases known with ⟨rfl, rfl⟩ | ⟨rfl, rfl⟩ | ⟨rfl, rfl⟩ | ⟨rfl, rfl⟩ | ⟨rfl, rfl⟩ |
      ⟨rfl, rfl⟩ <;> rfl
  | cons next others =>
    cases blank next rfl
    rcases known with ⟨rfl, rfl⟩ | ⟨rfl, rfl⟩ | ⟨rfl, rfl⟩ | ⟨rfl, rfl⟩ | ⟨rfl, rfl⟩ |
      ⟨rfl, rfl⟩ <;>
      simp [lexeme, single, double, backward, isWordStart, doubleSigns, singleSigns]

/-- A question mark without a digit behind it is a parameter without a number. -/
theorem lexeme_mark {behind : List Char}
    (noDigit : ∀ next ∈ behind.head?, next.isDigit = false) :
    lexeme '?' behind = (.parameter 0, ['?'], behind) := by
  cases behind with
  | nil => rfl
  | cons next others =>
    have headNoDigit := noDigit next rfl
    simp [lexeme, single, double, backward, isWordStart, headNoDigit]

/-! ### Tokens -/

/-- A name starts with a letter or an underscore. -/
theorem name_start_cases {char : Char} (start : isNameStart char = true) :
    (65 ≤ char.val ∧ char.val ≤ 90) ∨ (97 ≤ char.val ∧ char.val ≤ 122) ∨ char = '_' := by
  have known : (decide (65 ≤ char.val ∧ char.val ≤ 90) ||
      (decide (97 ≤ char.val) && decide (char.val ≤ 122)) || char == '_') = true := start
  simpa [or_assoc] using known

/-- What starts a name ends a gap. -/
theorem ends_gap_of_is_name_start {char : Char} (start : isNameStart char = true) :
    EndsGap char := by
  refine ⟨?_, ?_, ?_⟩
  · by_contra blank
    rw [Bool.not_eq_false] at blank
    have known : char = ' ' ∨ char = '\t' ∨ char = '\n' ∨ char = '\r' ∨ char.toNat = 12 := by
      simpa [isBlank, or_assoc] using blank
    have wide : 65 ≤ char.toNat := by
      rcases name_start_cases start with upper | lower | rfl
      · exact upper.1
      · exact Nat.le_trans (by decide) lower.1
      · decide
    rcases known with rfl | rfl | rfl | rfl | feed
    · exact absurd wide (by decide)
    · exact absurd wide (by decide)
    · exact absurd wide (by decide)
    · exact absurd wide (by decide)
    · omega
  · rintro rfl
    exact absurd start (by decide)
  · rintro rfl
    exact absurd start (by decide)

namespace Token

/-- What may follow a token: a blank, a bracket unless the token compares, and anything but a
digit if the token is a bracket. -/
def Admits (token : Token) (next : Char) : Prop :=
  next = ' ' ∨ (String.singleton next ∈ brackets ∧ token.isComparison = false) ∨
    (token.isBracket = true ∧ next.isDigit = false)

/-- A lexeme behind its gap is read as the first token. -/
theorem tokens_of_lexeme {gap : String} (blank : gap = "" ∨ gap = " ") {first : Char}
    {rest behind : List Char} {kind : TokenKind} (ends : EndsGap first)
    (read : lexeme first (rest ++ behind) = (kind, first :: rest, behind)) (fuel : Nat) :
    tokensOf (fuel + 1) (gap.toList ++ first :: (rest ++ behind)) =
      ⟨kind, String.ofList (first :: rest), gap⟩ :: tokensOf fuel behind := by
  rw [tokensOf, gap_eq blank _ ends]
  simp only
  rw [read]
  simp

/-- A bracket is one character, which ends a gap and is no digit. -/
theorem bracket_cases {written : String} (member : written ∈ brackets) :
    ∃ char, written = String.singleton char ∧ EndsGap char ∧ char.isDigit = false := by
  simp only [brackets, List.mem_cons, List.not_mem_nil, or_false] at member
  rcases member with rfl | rfl | rfl | rfl | rfl
  · exact ⟨'(', rfl, by simp [EndsGap, isBlank], rfl⟩
  · exact ⟨')', rfl, by simp [EndsGap, isBlank], rfl⟩
  · exact ⟨',', rfl, by simp [EndsGap, isBlank], rfl⟩
  · exact ⟨'.', rfl, by simp [EndsGap, isBlank], rfl⟩
  · exact ⟨'*', rfl, by simp [EndsGap, isBlank], rfl⟩

/-- A comparison starts with such a character, too. -/
theorem comparison_cases {written : String} (member : written ∈ comparisons) :
    ∃ first rest, written = String.ofList (first :: rest) ∧ EndsGap first ∧
      first.isDigit = false := by
  simp only [comparisons, List.mem_cons, List.not_mem_nil, or_false] at member
  rcases member with rfl | rfl | rfl | rfl | rfl | rfl
  · exact ⟨'=', [], rfl, by simp [EndsGap, isBlank], rfl⟩
  · exact ⟨'<', ['>'], rfl, by simp [EndsGap, isBlank], rfl⟩
  · exact ⟨'<', [], rfl, by simp [EndsGap, isBlank], rfl⟩
  · exact ⟨'<', ['='], rfl, by simp [EndsGap, isBlank], rfl⟩
  · exact ⟨'>', [], rfl, by simp [EndsGap, isBlank], rfl⟩
  · exact ⟨'>', ['='], rfl, by simp [EndsGap, isBlank], rfl⟩

/-- A plain word starts as a name does and goes on as one. -/
theorem plain_word_cases {written : String} (plain : isPlainWord written = true) :
    ∃ first rest, written.toList = first :: rest ∧ isNameStart first = true ∧
      ∀ char ∈ rest, isNameRest char = true := by
  unfold isPlainWord at plain
  split at plain
  · cases plain
  · rename_i first rest shape
    simp only [Bool.and_eq_true, List.all_eq_true] at plain
    exact ⟨first, rest, shape, plain⟩

/-- A sign that compares is no bracket. -/
theorem is_bracket_of_comparison {gap written : String} (member : written ∈ comparisons) :
    (sign gap written).isBracket = false := by
  simp only [comparisons, List.mem_cons, List.not_mem_nil, or_false] at member
  simp only [isBracket, sign]
  rcases member with rfl | rfl | rfl | rfl | rfl | rfl <;> decide

/-- A bracket ends a word, and it is no digit. -/
theorem bracket_stops {next : Char} (member : String.singleton next ∈ brackets) :
    isWordRest next = false ∧ next ≠ single ∧ next.isDigit = false := by
  have known : next = '(' ∨ next = ')' ∨ next = ',' ∨ next = '.' ∨ next = '*' := by
    simpa [brackets, ← String.toList_inj] using member
  rcases known with rfl | rfl | rfl | rfl | rfl <;> decide

/-- No token that admits a character admits a digit. -/
theorem Admits.no_digit {token : Token} {next : Char} (admits : token.Admits next) :
    next.isDigit = false := by
  rcases admits with rfl | ⟨bracket, -⟩ | ⟨-, noDigit⟩
  · decide
  · exact (bracket_stops bracket).2.2
  · exact noDigit

/-- A word admits what ends it. -/
theorem Admits.ends_word {gap written : String} {next : Char}
    (admits : (word gap written).Admits next) : isWordRest next = false ∧ next ≠ single := by
  rcases admits with rfl | ⟨bracket, -⟩ | ⟨impossible, -⟩
  · decide
  · exact ⟨(bracket_stops bracket).1, (bracket_stops bracket).2.1⟩
  · cases impossible

/-- A comparison admits nothing but a blank. -/
theorem Admits.blank {gap written : String} {next : Char} (member : written ∈ comparisons)
    (admits : (sign gap written).Admits next) : next = ' ' := by
  have compares : (sign gap written).isComparison = true := by
    simpa [isComparison, sign] using member
  rcases admits with rfl | ⟨-, other⟩ | ⟨bracket, -⟩
  · rfl
  · rw [compares] at other
    cases other
  · rw [is_bracket_of_comparison member] at bracket
    cases bracket

/-- A plain token is read as the first one, if what follows does not run into it. Which characters
those are depends on the kind of the token. -/
theorem tokens_of_chars {token : Token} (plain : token.IsPlain) {behind : List Char}
    (admits : ∀ next ∈ behind.head?, token.Admits next) (fuel : Nat) :
    tokensOf (fuel + 1) (token.chars ++ behind) = token.unplaced :: tokensOf fuel behind := by
  have noDigit : ∀ next ∈ behind.head?, next.isDigit = false :=
    fun next member => (admits next member).no_digit
  cases plain with
  | @word gap written blank named =>
    obtain ⟨first, rest, shape, start, inside⟩ := plain_word_cases named
    have read := tokens_of_lexeme blank (ends_gap_of_is_name_start start)
      (lexeme_word start inside fun next member => (admits next member).ends_word) fuel
    rw [← shape, String.ofList_toList] at read
    simpa [chars, unplaced, word, shape] using read
  | @bracket gap written blank member =>
    obtain ⟨char, rfl, ends, -⟩ := bracket_cases member
    have lexed : lexeme char ([] ++ behind) = (.sign, [char], behind) :=
      lexeme_bracket member noDigit
    have read := tokens_of_lexeme blank ends lexed fuel
    simpa [chars, unplaced, sign] using read
  | @comparison gap written blank member =>
    obtain ⟨first, rest, rfl, ends, -⟩ := comparison_cases member
    have read := tokens_of_lexeme blank ends
      (lexeme_comparison member fun next among => (admits next among).blank member) fuel
    simpa [chars, unplaced, sign] using read
  | @mark gap place blank =>
    have lexed : lexeme '?' ([] ++ behind) = (.parameter 0, ['?'], behind) := lexeme_mark noDigit
    have read := tokens_of_lexeme blank (by simp [EndsGap, isBlank]) lexed fuel
    simpa [chars, unplaced, mark] using read

/-- Before a token of these texts is nothing or one blank. -/
theorem IsPlain.blank {token : Token} (plain : token.IsPlain) :
    token.gap = "" ∨ token.gap = " " := by
  cases plain <;> assumption

/-- A plain token starts with no digit, and a bracket is one character. -/
theorem IsPlain.first {token : Token} (plain : token.IsPlain) :
    ∃ first rest, token.written.toList = first :: rest ∧ first.isDigit = false ∧
      (token.isBracket = true → String.singleton first ∈ brackets) := by
  cases plain with
  | word blank named =>
    obtain ⟨first, rest, shape, start, -⟩ := plain_word_cases named
    refine ⟨first, rest, shape, ?_, fun bracket => by cases bracket⟩
    by_contra digit
    rw [Bool.not_eq_false] at digit
    simp only [Char.isDigit, Bool.and_eq_true, decide_eq_true_eq] at digit
    rcases name_start_cases start with upper | lower | rfl
    · exact absurd (UInt32.le_trans upper.1 digit.2) (by decide)
    · exact absurd (UInt32.le_trans lower.1 digit.2) (by decide)
    · exact absurd digit (by decide)
  | bracket blank member =>
    obtain ⟨char, rfl, -, noDigit⟩ := bracket_cases member
    exact ⟨char, [], by simp [sign], noDigit, fun _ => member⟩
  | comparison blank member =>
    obtain ⟨first, rest, rfl, -, noDigit⟩ := comparison_cases member
    refine ⟨first, rest, by simp [sign], noDigit, fun bracket => ?_⟩
    rw [is_bracket_of_comparison member] at bracket
    cases bracket
  | mark blank => exact ⟨'?', [], by simp [Token.mark], rfl, fun bracket => by cases bracket⟩

/-- A token admits what another one starts with, if the two do not run together. -/
theorem Meets.admits {left right : Token} (meets : left.Meets right) (plain : right.IsPlain)
    (behind : List Char) : ∀ next ∈ (right.chars ++ behind).head?, left.Admits next := by
  intro next member
  rcases plain.blank with gapless | blank
  · obtain ⟨first, rest, shape, noDigit, bracket⟩ := plain.first
    have same : next = first := by
      simpa [chars, gapless, shape, eq_comm] using member
    rw [same]
    rcases meets with blank | leftBracket | ⟨rightBracket, noComparison⟩
    · rw [gapless] at blank
      exact absurd blank (by decide)
    · exact .inr (.inr ⟨leftBracket, noDigit⟩)
    · exact .inr (.inl ⟨bracket rightBracket, noComparison⟩)
  · refine .inl ?_
    simpa [chars, blank, eq_comm] using member

/-- Tokens that do not run together are read back from their characters. -/
theorem tokens_of_flat_map {tokens : List Token} (plain : ∀ token ∈ tokens, token.IsPlain)
    (apart : tokens.IsChain Meets) {fuel : Nat} (enough : tokens.length ≤ fuel) :
    tokensOf fuel (tokens.flatMap chars) = tokens.map unplaced := by
  induction tokens generalizing fuel with
  | nil =>
    cases fuel with
    | zero => rfl
    | succ fuel => simp [tokensOf, Lexer.gap]
  | cons token rest inductionHypothesis =>
    cases fuel with
    | zero => cases enough
    | succ fuel =>
      obtain ⟨meets, apartRest⟩ := List.isChain_cons.mp apart
      have plainRest : ∀ later ∈ rest, later.IsPlain :=
        fun later member => plain later (List.mem_cons_of_mem token member)
      have admits : ∀ next ∈ (rest.flatMap chars).head?, token.Admits next := by
        cases rest with
        | nil => exact fun next member => by cases member
        | cons later others =>
          rw [List.flatMap_cons]
          exact (meets later rfl).admits (plainRest later List.mem_cons_self) _
      rw [List.flatMap_cons, tokens_of_chars (plain token List.mem_cons_self) admits,
        inductionHypothesis plainRest apartRest (by simpa using enough), List.map_cons]

/-! ### Places of parameters -/

/-- Whether a token is a parameter. -/
def isMark (token : Token) : Bool :=
  match token.kind with
  | .parameter _ => true
  | _ => false

/-- How many parameters there are. -/
def marks (tokens : List Token) : Nat := tokens.countP isMark

/-- Parameters have the places that follow a place, one after the other. -/
def Numbered : Nat → List Token → Prop
  | _, [] => True
  | before, token :: rest =>
    match token.kind with
    | .parameter place => place = before + 1 ∧ Numbered (before + 1) rest
    | _ => Numbered before rest

/-- Parameters of two texts are numbered one after the other if those of the second go on where
those of the first end. -/
theorem numbered_append {before : Nat} {left right : List Token} :
    Numbered before (left ++ right) ↔
      Numbered before left ∧ Numbered (before + marks left) right := by
  induction left generalizing before with
  | nil => simp [Numbered, marks]
  | cons token rest inductionHypothesis =>
    rw [List.cons_append]
    cases kind : token.kind with
    | parameter place =>
      have counted : marks (token :: rest) = marks rest + 1 := by
        simp [marks, isMark, kind]
      simp only [Numbered, kind, inductionHypothesis, counted, and_assoc]
      rw [Nat.add_right_comm, Nat.add_assoc]
    | _ =>
      have counted : marks (token :: rest) = marks rest := by
        simp [marks, isMark, kind]
      simp only [Numbered, kind, inductionHypothesis, counted]

/-- Placing the parameters of numbered tokens gives back their places. The induction is on the
tokens. -/
theorem place_parameters_unplaced {tokens : List Token}
    (plain : ∀ token ∈ tokens, token.IsPlain) (named : List (String × Nat)) {before : Nat}
    (numbered : Numbered before tokens) :
    placeParameters named before (tokens.map unplaced) = tokens := by
  induction tokens generalizing named before with
  | nil => rfl
  | cons token rest inductionHypothesis =>
    have plainRest : ∀ later ∈ rest, later.IsPlain :=
      fun later member => plain later (List.mem_cons_of_mem token member)
    cases plain token List.mem_cons_self with
    | word blank _ => exact congrArg _ (inductionHypothesis plainRest named numbered)
    | bracket blank _ => exact congrArg _ (inductionHypothesis plainRest named numbered)
    | comparison blank _ => exact congrArg _ (inductionHypothesis plainRest named numbered)
    | @mark gap place blank =>
      obtain ⟨rfl, numberedRest⟩ := numbered
      have placed : placeOf named before "?" = before + 1 := by simp [placeOf]
      have next : max before (before + 1) = before + 1 := Nat.max_eq_right (Nat.le_succ before)
      have later := inductionHypothesis plainRest (("?", before + 1) :: named) numberedRest
      simp only [List.map_cons, unplaced, mark, placeParameters, placed, next, later]

/-- Every token has a character. -/
theorem length_le_chars {tokens : List Token} (plain : ∀ token ∈ tokens, token.IsPlain) :
    tokens.length ≤ (tokens.flatMap chars).length := by
  induction tokens with
  | nil => exact Nat.le_refl _
  | cons token rest inductionHypothesis =>
    obtain ⟨first, written, shape, -⟩ := (plain token List.mem_cons_self).first
    have later := inductionHypothesis fun other member =>
      plain other (List.mem_cons_of_mem token member)
    simp only [List.flatMap_cons, List.length_cons, List.length_append, chars, shape]
    omega

/-- A text that is made of tokens has these tokens. -/
theorem tokens_of_written {tokens : List Token} (plain : ∀ token ∈ tokens, token.IsPlain)
    (apart : tokens.IsChain Meets) (numbered : Numbered 0 tokens) {text : String}
    (made : text.toList = tokens.flatMap chars) : Sql.tokens text = tokens := by
  unfold Sql.tokens
  simp only [made]
  rw [tokens_of_flat_map plain apart (Nat.le_succ_of_le (length_le_chars plain)),
    place_parameters_unplaced plain [] numbered]

/-- The largest place is the number of parameters. -/
theorem parameter_count_numbered {tokens : List Token} (numbered : Numbered 0 tokens) :
    parameterCount tokens = marks tokens := by
  have counting : ∀ (tokens : List Token) (before : Nat), Numbered before tokens →
      tokens.foldl (fun count token =>
        match token.kind with
        | .parameter place => max count place
        | _ => count) before = before + marks tokens := by
    intro tokens
    induction tokens with
    | nil => exact fun before _ => by simp [marks]
    | cons token rest inductionHypothesis =>
      intro before numbered
      rw [List.foldl_cons]
      cases kind : token.kind with
      | parameter place =>
        simp only [Numbered, kind] at numbered
        obtain ⟨rfl, numberedRest⟩ := numbered
        have counted : marks (token :: rest) = marks rest + 1 := by
          simp [marks, isMark, kind]
        simp only [Nat.max_eq_right (Nat.le_succ before)]
        rw [inductionHypothesis _ numberedRest, counted]
        omega
      | _ =>
        simp only [Numbered, kind] at numbered
        have counted : marks (token :: rest) = marks rest := by
          simp [marks, isMark, kind]
        rw [counted]
        exact inductionHypothesis before numbered
  exact (counting tokens 0 numbered).trans (Nat.zero_add _)

end Token

end RecordStore.Sql
