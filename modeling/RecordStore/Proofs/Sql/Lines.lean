import Mathlib.Data.List.Chain
import RecordStore.Proofs.Sql.Lexing

/-!
# Tokens on several lines

A text of words and brackets alone may be laid out with any blanks, line breaks among them. It is
read as its tokens, each behind the blanks that stand before it, as long as no two words run
together.
-/

namespace RecordStore.Sql

open RecordStore.Sql.Lexer

/-- Blanks and nothing else. -/
def IsBlanks (gap : String) : Prop := ∀ char ∈ gap.toList, isBlank char = true

/-- Whether a gap is of blanks can be decided. -/
instance (gap : String) : Decidable (IsBlanks gap) :=
  decidable_of_iff (gap.toList.all isBlank = true) List.all_eq_true

/-- There are five blanks. -/
theorem blank_cases {char : Char} (blank : isBlank char = true) :
    char = ' ' ∨ char = '\t' ∨ char = '\n' ∨ char = '\r' ∨ char = Char.ofNat 12 := by
  have known : char = ' ' ∨ char = '\t' ∨ char = '\n' ∨ char = '\r' ∨ char.toNat = 12 := by
    simpa [isBlank, or_assoc] using blank
  refine known.imp_right (.imp_right (.imp_right (.imp_right fun feed => ?_)))
  rw [← feed, Char.ofNat_toNat]

/-- Blanks end a word and are no digits. -/
theorem blank_stops {char : Char} (blank : isBlank char = true) :
    isWordRest char = false ∧ char ≠ single ∧ char.isDigit = false := by
  rcases blank_cases blank with rfl | rfl | rfl | rfl | rfl <;> decide

/-- Blanks are read up to the first character that is none. -/
theorem gap_blanks {blanks : List Char} (blank : ∀ char ∈ blanks, isBlank char = true)
    {char : Char} (rest : List Char) (ends : EndsGap char) {fuel : Nat}
    (enough : blanks.length < fuel) :
    Lexer.gap fuel (blanks ++ char :: rest) = (blanks, char :: rest) := by
  induction blanks generalizing fuel with
  | nil =>
    obtain ⟨fuel, rfl⟩ := Nat.exists_eq_succ_of_ne_zero (Nat.ne_of_gt enough)
    exact gap_nothing fuel rest ends
  | cons first others inductionHypothesis =>
    obtain ⟨fuel, rfl⟩ := Nat.exists_eq_succ_of_ne_zero (Nat.ne_of_gt (Nat.zero_lt_of_lt enough))
    have behind := inductionHypothesis (fun later member => blank later (.tail _ member))
      (Nat.lt_of_succ_lt_succ enough)
    have here := blank first List.mem_cons_self
    have noDash : first ≠ '-' := by
      rintro rfl
      exact absurd here (by decide)
    have noSlash : first ≠ '/' := by
      rintro rfl
      exact absurd here (by decide)
    simp [Lexer.gap, noDash, noSlash, here, behind]

namespace Token

/-- Words and brackets behind any blanks. -/
inductive IsLoose : Token → Prop where
  | word {gap written : String} (blank : IsBlanks gap) (plain : isPlainWord written = true) :
    IsLoose (word gap written)
  | bracket {gap written : String} (blank : IsBlanks gap) (member : written ∈ brackets) :
    IsLoose (sign gap written)

/-- A token that no word before it runs into. -/
def IsParted (token : Token) : Prop := token.gap ≠ "" ∨ token.isBracket = true

/-- A word behind a gap runs into nothing. -/
theorem is_parted_word {gap : String} (written : String) (parted : gap ≠ "") :
    (word gap written).IsParted := .inl parted

/-- A bracket is a bracket behind every gap. -/
theorem is_bracket_sign {gap written : String} (member : written ∈ brackets) :
    (sign gap written).isBracket = true := by
  simpa [isBracket, sign] using member

/-- A bracket runs into nothing. -/
theorem is_parted_bracket {gap written : String} (member : written ∈ brackets) :
    (sign gap written).IsParted := .inr (is_bracket_sign member)

/-- Two tokens that do not run together. -/
def IsApart (left right : Token) : Prop := left.isBracket = true ∨ right.IsParted

variable {token : Token} {behind : List Char} {tokens : List Token}

/-- What can stand behind a word: a blank or a bracket. -/
def StopsWord (char : Char) : Prop := isBlank char = true ∨ String.singleton char ∈ brackets

/-- What stops a word is no character of one, no quote and no digit. -/
theorem StopsWord.stops {char : Char} (stops : StopsWord char) :
    isWordRest char = false ∧ char ≠ single ∧ char.isDigit = false := by
  rcases stops with blank | bracket
  · exact blank_stops blank
  · have known : char = '(' ∨ char = ')' ∨ char = ',' ∨ char = '.' ∨ char = '*' := by
      simpa [brackets, ← String.toList_inj] using bracket
    rcases known with rfl | rfl | rfl | rfl | rfl <;> decide

/-- A lexeme behind blanks is read as the first token. -/
theorem tokens_of_behind {gap : String} (blank : IsBlanks gap) {first : Char} {rest : List Char}
    {kind : TokenKind} (ends : EndsGap first)
    (read : lexeme first (rest ++ behind) = (kind, first :: rest, behind)) (fuel : Nat) :
    tokensOf (fuel + 1) (gap.toList ++ first :: (rest ++ behind)) =
      ⟨kind, String.ofList (first :: rest), gap⟩ :: tokensOf fuel behind := by
  have enough : gap.toList.length < (gap.toList ++ first :: (rest ++ behind)).length + 1 := by
    rw [List.length_append]
    omega
  rw [tokensOf, gap_blanks blank _ ends enough]
  simp [read]

/-- A word needs an end, and a bracket no digit behind it. -/
theorem IsLoose.tokens_of_chars (loose : token.IsLoose)
    (noDigit : ∀ next ∈ behind.head?, next.isDigit = false)
    (stops : token.isBracket = false → ∀ next ∈ behind.head?, StopsWord next) (fuel : Nat) :
    tokensOf (fuel + 1) (token.chars ++ behind) = token :: tokensOf fuel behind := by
  cases loose with
  | @word gap written blank plain =>
    obtain ⟨first, rest, shape, start, inside⟩ := plain_word_cases plain
    have ends : ∀ next ∈ behind.head?, isWordRest next = false ∧ next ≠ single := by
      intro next member
      obtain ⟨noRest, noQuote, -⟩ := (stops rfl next member).stops
      exact ⟨noRest, noQuote⟩
    have read := tokens_of_behind blank (ends_gap_of_is_name_start start)
      (lexeme_word start inside ends) fuel
    rw [← shape, String.ofList_toList] at read
    simpa [chars, Token.word, shape] using read
  | @bracket gap written blank member =>
    obtain ⟨char, rfl, ends, -⟩ := bracket_cases member
    have lexed : lexeme char ([] ++ behind) = (.sign, [char], behind) :=
      lexeme_bracket member noDigit
    simpa [chars, sign] using tokens_of_behind blank ends lexed fuel

/-- What a token starts with: a blank of its gap, else what is written. -/
theorem IsLoose.starts (loose : token.IsLoose) (more : List Char) :
    ∃ next, (token.chars ++ more).head? = some next ∧ next.isDigit = false ∧
      (token.IsParted → StopsWord next) := by
  have blankFirst : ∀ gap written : String, IsBlanks gap → gap ≠ "" →
      ∃ next, (gap.toList ++ written.toList ++ more).head? = some next ∧ isBlank next = true := by
    intro gap written blank some
    obtain ⟨next, others, shape⟩ := List.exists_cons_of_ne_nil (mt String.toList_eq_nil_iff.mp some)
    exact ⟨next, by simp [shape], blank next (by simp [shape])⟩
  cases loose with
  | @word gap written blank plain =>
    by_cases gapless : gap = ""
    · obtain ⟨first, rest, shape, start, -⟩ := plain_word_cases plain
      obtain ⟨other, rest', shape', noDigit, -⟩ := (IsPlain.word (.inl rfl) plain).first
      obtain ⟨rfl, rfl⟩ := List.cons.inj (shape.symm.trans shape')
      refine ⟨first, by simp [chars, Token.word, gapless, shape], noDigit, ?_⟩
      rintro (gap | bracket)
      · exact absurd gapless gap
      · cases bracket
    · obtain ⟨next, head, isBlank⟩ := blankFirst gap written blank gapless
      exact ⟨next, head, (blank_stops isBlank).2.2, fun _ => .inl isBlank⟩
  | @bracket gap written blank member =>
    by_cases gapless : gap = ""
    · obtain ⟨char, rfl, -, noDigit⟩ := bracket_cases member
      exact ⟨char, by simp [chars, sign, gapless], noDigit, fun _ => .inr member⟩
    · obtain ⟨next, head, isBlank⟩ := blankFirst gap written blank gapless
      exact ⟨next, head, (blank_stops isBlank).2.2, fun _ => .inl isBlank⟩

/-- Words and brackets of which no two run together. -/
structure IsLaid (tokens : List Token) : Prop where
  loose : ∀ token ∈ tokens, token.IsLoose
  apart : tokens.IsChain IsApart

/-- A word of its own, behind some blanks. -/
structure IsSpaced (token : Token) : Prop where
  isWord : token.kind = .word
  parted : token.gap ≠ ""
  blank : IsBlanks token.gap
  plain : isPlainWord token.written = true

/-- Whether a token is a word of its own can be decided. -/
instance (token : Token) : Decidable token.IsSpaced :=
  decidable_of_iff
    (token.kind = .word ∧ token.gap ≠ "" ∧ IsBlanks token.gap ∧ isPlainWord token.written = true)
    ⟨fun ⟨isWord, parted, blank, plain⟩ => ⟨isWord, parted, blank, plain⟩,
      fun spaced => ⟨spaced.isWord, spaced.parted, spaced.blank, spaced.plain⟩⟩

/-- A plain word behind blanks is a word of its own. -/
theorem is_spaced_word {gap written : String} (parted : gap ≠ "") (blank : IsBlanks gap)
    (plain : isPlainWord written = true) : (word gap written).IsSpaced :=
  ⟨rfl, parted, blank, plain⟩

/-- Such a word is loose. -/
theorem IsSpaced.is_loose (spaced : token.IsSpaced) : token.IsLoose := by
  have shape : token = word token.gap token.written := by
    rw [word, ← spaced.isWord]
  rw [shape]
  exact .word spaced.blank spaced.plain

namespace IsLaid

variable {left right : List Token}

/-- An empty list of tokens is laid apart. -/
theorem nil : IsLaid [] := ⟨nofun, .nil⟩

/-- What is laid out stands behind anything else that is, as long as no word runs into it. -/
theorem append (first : IsLaid left) (second : IsLaid right)
    (parted : ∀ head ∈ right.head?, head.IsParted) : IsLaid (left ++ right) where
  loose token member := (List.mem_append.mp member).elim (first.loose token) (second.loose token)
  apart := List.isChain_append.mpr
    ⟨first.apart, second.apart, fun _ _ head member => .inr (parted head member)⟩

/-- One loose token is laid apart. -/
theorem singleton (loose : token.IsLoose) : IsLaid [token] := ⟨by simpa using loose, .singleton _⟩

/-- A word can stand in front of what no word runs into. -/
theorem word_cons {gap written : String} (blank : IsBlanks gap) (plain : isPlainWord written = true)
    (parted : token.IsParted) (behind : IsLaid (token :: tokens)) :
    IsLaid (word gap written :: token :: tokens) := by
  refine (singleton (.word blank plain)).append behind ?_
  rintro _ ⟨⟩
  exact parted

/-- Anything can stand behind a bracket. -/
theorem bracket_cons {gap written : String} (blank : IsBlanks gap) (member : written ∈ brackets)
    (behind : IsLaid tokens) : IsLaid (sign gap written :: tokens) where
  loose := List.forall_mem_cons.mpr ⟨.bracket blank member, behind.loose⟩
  apart := List.isChain_cons.mpr ⟨fun _ _ => .inl (is_bracket_sign member), behind.apart⟩

/-- A bracket can stand behind anything. -/
theorem append_bracket (first : IsLaid left) (gap written : String) (blank : IsBlanks gap)
    (member : written ∈ brackets) (behind : IsLaid right) :
    IsLaid (left ++ sign gap written :: right) := by
  refine first.append (.bracket_cons blank member behind) ?_
  rintro _ ⟨⟩
  exact is_parted_bracket member

/-- Words of their own are laid apart. -/
theorem of_spaced (spaced : ∀ token ∈ tokens, token.IsSpaced) : IsLaid tokens := by
  induction tokens with
  | nil => exact .nil
  | cons token rest inductionHypothesis =>
    have later : ∀ other ∈ rest, other.IsSpaced := fun other member => spaced other (.tail _ member)
    have here := (spaced token List.mem_cons_self).is_loose
    exact (singleton here).append (inductionHypothesis later) fun head member =>
      .inl (later head (List.mem_of_mem_head? member)).parted

/-- What is laid out is read back from its characters. -/
theorem tokens_of_eq (laid : IsLaid tokens) {fuel : Nat} (enough : tokens.length ≤ fuel) :
    tokensOf fuel (tokens.flatMap chars) = tokens := by
  induction tokens generalizing fuel with
  | nil =>
    cases fuel with
    | zero => rfl
    | succ fuel => simp [tokensOf, Lexer.gap]
  | cons token rest inductionHypothesis =>
    cases fuel with
    | zero => cases enough
    | succ fuel =>
      obtain ⟨meets, apartRest⟩ := List.isChain_cons.mp laid.apart
      obtain ⟨loose, looseRest⟩ := List.forall_mem_cons.mp laid.loose
      have read := inductionHypothesis ⟨looseRest, apartRest⟩ (Nat.le_of_succ_le_succ enough)
      have next : ∀ char ∈ (rest.flatMap chars).head?, char.isDigit = false ∧
          (token.isBracket = false → StopsWord char) := by
        intro char among
        cases rest with
        | nil => cases among
        | cons later others =>
          obtain ⟨first, head, noDigit, stops⟩ :=
            (looseRest later List.mem_cons_self).starts (others.flatMap chars)
          rw [List.flatMap_cons, head] at among
          cases among
          refine ⟨noDigit, fun noBracket => stops ?_⟩
          rcases meets later rfl with isBracket | parted
          · rw [noBracket] at isBracket
            cases isBracket
          · exact parted
      have here := loose.tokens_of_chars (fun char among => (next char among).1)
        (fun noBracket char among => (next char among).2 noBracket) fuel
      rw [List.flatMap_cons, here, read]

end IsLaid

/-- A loose token has a character. -/
theorem IsLoose.chars_ne_nil (loose : token.IsLoose) : token.chars ≠ [] := by
  obtain ⟨next, head, -⟩ := loose.starts []
  intro none
  simp [none] at head

/-- There are no more loose tokens than characters. -/
theorem length_le_chars_of_loose (loose : ∀ token ∈ tokens, token.IsLoose) :
    tokens.length ≤ (tokens.flatMap chars).length := by
  induction tokens with
  | nil => exact Nat.le_refl _
  | cons token rest inductionHypothesis =>
    have later := inductionHypothesis fun other member => loose other (.tail _ member)
    have some := List.length_pos_iff.mpr (loose token List.mem_cons_self).chars_ne_nil
    rw [List.flatMap_cons, List.length_append, List.length_cons]
    omega

/-- There is no parameter among words and brackets. -/
theorem numbered_loose (loose : ∀ token ∈ tokens, token.IsLoose) :
    Numbered 0 tokens ∧ marks tokens = 0 := by
  induction tokens with
  | nil => exact ⟨trivial, rfl⟩
  | cons token rest inductionHypothesis =>
    obtain ⟨here, later⟩ := List.forall_mem_cons.mp loose
    obtain ⟨numbered, marked⟩ := inductionHypothesis later
    have counted : marks (token :: rest) = marks rest := by
      cases here <;> simp [marks, isMark, word, sign]
    cases here <;> exact ⟨numbered, counted.trans marked⟩

/-- Loose tokens have no parameters to be placed. -/
theorem place_parameters_loose (loose : ∀ token ∈ tokens, token.IsLoose)
    (named : List (String × Nat)) (before : Nat) :
    placeParameters named before tokens = tokens := by
  induction tokens with
  | nil => rfl
  | cons token rest inductionHypothesis =>
    have later := inductionHypothesis fun other member => loose other (.tail _ member)
    cases loose token List.mem_cons_self <;>
      exact congrArg _ later

namespace IsLaid

/-- A text that is laid out in words and brackets has these tokens, and no parameters. -/
theorem tokens_eq (laid : IsLaid tokens) {text : String}
    (made : text.toList = tokens.flatMap chars) : Sql.tokens text = tokens := by
  have enough : tokens.length ≤ (tokens.flatMap chars).length + 1 :=
    Nat.le_succ_of_le (length_le_chars_of_loose laid.loose)
  simp only [Sql.tokens, made, laid.tokens_of_eq enough, place_parameters_loose laid.loose]

/-- Tokens that are laid apart have no parameters. -/
theorem parameter_count (laid : IsLaid tokens) : parameterCount tokens = 0 := by
  obtain ⟨numbered, marked⟩ := numbered_loose laid.loose
  exact (parameter_count_numbered numbered).trans marked

end IsLaid

end Token

end RecordStore.Sql
