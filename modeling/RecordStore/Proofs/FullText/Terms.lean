import Mathlib.Data.List.TakeWhile
import RecordStore.Proofs.FullText.Words

/-!
# Terms of words

A term of ASCII letters, digits and blanks is read as an expression over its words. Words that stand
side by side must all be found, in whatever columns and in whatever order. The words `NOT`, `AND`
and `OR` in capitals stand for operators, and they bind in this order. A row meets the term exactly
if its words satisfy the expression; nothing is asked about the term as a whole.

The tokens of such a term are those of its words, one for each.
-/

namespace RecordStore.FullText

/-! ### What a term says -/

/-- A term of ASCII letters and digits, and blanks. -/
def IsPlainTerm (term : String) : Prop :=
  ∀ char ∈ term.toList, char.isAlphanum = true ∨ char = ' '

/-- Whether a term is plain can be decided. -/
instance (term : String) : Decidable (IsPlainTerm term) :=
  List.decidableBAll _ _

/-- The stretches between the blanks of a text, without the empty ones. -/
def unblanked (text : List Char) : List (List Char) :=
  (text.splitOn ' ').filter fun stretch => !stretch.isEmpty

/-- The words of a term in their order. -/
def termWords (term : String) : List String := (unblanked term.toList).map String.ofList

/-- The words that stand for operators. -/
def operatorWords : List String := ["NOT", "AND", "OR"]

section Meaning

variable (has : String → Bool) (words : List String)

/-- Whether there are words, and all of them are there. -/
def meetsWords : Bool := !words.isEmpty && words.all has

/-- Whether the words before the first `NOT` are there, and of those behind each `NOT` one is
missing. -/
def meetsButNot : Bool :=
  match words.splitOn "NOT" with
  | [] => false
  | wanted :: unwanted => meetsWords has wanted && unwanted.all fun part => !meetsWords has part

/-- Whether all parts between `AND` are met. -/
def meetsBoth : Bool := (words.splitOn "AND").all (meetsButNot has)

/-- Whether one of the parts between `OR` is met. -/
def meetsTerm : Bool := (words.splitOn "OR").any (meetsBoth has)

end Meaning

/-- Whether one of the columns of a row has a word, whatever its case. -/
def RowWords.has (row : RowWords) (word : String) : Bool :=
  row.any fun column => column.words.contains (lowered word)

/-! ### Tokens of words -/

/-- A word of ASCII letters and digits. -/
structure IsPlainWord (word : String) : Prop where
  nonempty : word.toList ≠ []
  plain : ∀ char ∈ word.toList, char.isAlphanum = true

/-- The tokens of words, one for each. -/
def wordTokens (words : List String) : Tokens :=
  words.foldr (fun word rest => .next (wordToken word) rest) .finished

/-- Words without operators are met if all of them are there. -/
theorem meets_term_of_not_mem {has : String → Bool} {words : List String}
    (named : ∀ word ∈ words, word ∉ operatorWords) :
    meetsTerm has words = meetsWords has words := by
  have absent : ∀ operator ∈ operatorWords, operator ∉ words :=
    fun operator known member => named operator member known
  simp [meetsTerm, meetsBoth, meetsButNot, List.splitOn_eq_singleton (absent "NOT" (by decide)),
    List.splitOn_eq_singleton (absent "AND" (by decide)),
    List.splitOn_eq_singleton (absent "OR" (by decide))]

/-- A single word that is met is there: an operator alone is not met. -/
theorem has_of_meets_term {has : String → Bool} {word : String}
    (met : meetsTerm has [word] = true) : has word = true := by
  by_cases operator : word ∈ operatorWords
  · simp only [operatorWords, List.mem_cons, List.not_mem_nil, or_false] at operator
    rcases operator with rfl | rfl | rfl <;> cases met
  · rw [meets_term_of_not_mem (by simpa using operator)] at met
    simpa [meetsWords] using met

/-- A word that is no operator is a word to the reader, too. -/
theorem word_token_of_not_mem {word : String} (named : word ∉ operatorWords) :
    wordToken word = .word word := by
  simp only [operatorWords, List.mem_cons, List.not_mem_nil, or_false, not_or] at named
  simp [wordToken, named]

/-- The token of a word is one of the operators, or the word itself. -/
theorem word_token_cases (word : String) :
    (word = "NOT" ∧ wordToken word = .not) ∨ (word = "AND" ∧ wordToken word = .and) ∨
      (word = "OR" ∧ wordToken word = .or) ∨
        (word ∉ operatorWords ∧ wordToken word = .word word) := by
  by_cases operator : word ∈ operatorWords
  · simp only [operatorWords, List.mem_cons, List.not_mem_nil, or_false] at operator
    rcases operator with rfl | rfl | rfl
    · exact .inl ⟨rfl, by decide⟩
    · exact .inr (.inl ⟨rfl, by decide⟩)
    · exact .inr (.inr (.inl ⟨rfl, by decide⟩))
  · exact .inr (.inr (.inr ⟨operator, word_token_of_not_mem operator⟩))

/-- The tokens that no word stands for. -/
def signTokens : List Token :=
  [.opening, .closing, .openingBrace, .closingBrace, .colon, .comma, .plus, .star, .minus, .caret]

/-- The token of a word is no sign. -/
theorem word_token_not_mem_sign_tokens (word : String) : wordToken word ∉ signTokens := by
  obtain ⟨-, token⟩ | ⟨-, token⟩ | ⟨-, token⟩ | ⟨-, token⟩ := word_token_cases word <;>
    simp [token, signTokens]

/-- The first token of words is that of the first word. -/
theorem word_tokens_next {words : List String} {token : Token} {rest : Tokens}
    (shape : wordTokens words = .next token rest) :
    ∃ word more, words = word :: more ∧ token = wordToken word ∧ rest = wordTokens more := by
  cases words with
  | nil => cases shape
  | cons word more =>
    cases shape
    exact ⟨word, more, rfl, rfl, rfl⟩

/-- No sign stands among the tokens of words. -/
theorem word_tokens_ne {words : List String} {token : Token} {rest : Tokens}
    (sign : token ∈ signTokens) : wordTokens words ≠ .next token rest := by
  intro shape
  obtain ⟨word, -, -, rfl, -⟩ := word_tokens_next shape
  exact word_token_not_mem_sign_tokens word sign

/-- Nor does one stand behind the first of them. -/
theorem word_tokens_ne_second {words : List String} {token second : Token} {rest : Tokens}
    (sign : second ∈ signTokens) : wordTokens words ≠ .next token (.next second rest) := by
  intro shape
  obtain ⟨-, more, -, -, behind⟩ := word_tokens_next shape
  exact word_tokens_ne sign behind.symm

section Tokenize

variable {text run rest : List Char}

/-- A blank in front starts no stretch. -/
theorem unblanked_blank (text : List Char) : unblanked (' ' :: text) = unblanked text := by
  have splits : (' ' :: text).splitOn ' ' = [] :: text.splitOn ' ' :=
    List.splitOn_append_cons_self [] text
  rw [unblanked, splits]
  rfl

/-- A run without blanks is a stretch of its own if a blank or nothing follows. -/
theorem unblanked_run (nonempty : run ≠ []) (joined : ' ' ∉ run)
    (ends : rest = [] ∨ ∃ further, rest = ' ' :: further) :
    unblanked (run ++ rest) = run :: unblanked rest := by
  have alone : run.splitOn ' ' = [run] := List.splitOn_eq_singleton joined
  have keeps : ∀ others : List (List Char),
      (run :: others).filter (fun stretch => !stretch.isEmpty) =
        run :: others.filter fun stretch => !stretch.isEmpty := fun others =>
    List.filter_cons_of_pos (by simpa using nonempty)
  rcases ends with rfl | ⟨further, rfl⟩
  · rw [List.append_nil, unblanked, alone, keeps]
    rfl
  · rw [unblanked_blank, unblanked, List.splitOn_append_cons_self, alone]
    exact keeps _

/-- Skipping blanks in front changes no stretch. -/
theorem unblanked_drop_while (plain : ∀ char ∈ text, char.isAlphanum = true ∨ char = ' ') :
    unblanked (text.dropWhile isPatternBlank) = unblanked text := by
  induction text with
  | nil => rfl
  | cons first rest inductionHypothesis =>
    obtain ⟨starts, others⟩ := List.forall_mem_cons.mp plain
    rw [List.dropWhile_cons]
    split
    · rename_i blank
      rcases starts with letter | rfl
      · exact absurd blank (by
          simp only [isPatternBlank, Bool.or_eq_true, beq_iff_eq, not_or]
          refine ⟨⟨⟨?_, ?_⟩, ?_⟩, ?_⟩ <;> rintro rfl <;> exact absurd letter (by decide))
      · rw [unblanked_blank, inductionHypothesis others]
    · rfl

/-- Among letters, digits and blanks the characters of words are those that are no blanks. -/
theorem is_bare_iff {char : Char} (plain : char.isAlphanum = true ∨ char = ' ') :
    isBare char = true ↔ char ≠ ' ' := by
  rcases plain with letter | rfl
  · refine iff_of_true (by simp [isBare, letter]) ?_
    rintro rfl
    exact absurd letter (by decide)
  · exact iff_of_false (by decide) (fun other => other rfl)

/-- The first stretch of a plain text that starts with a letter is the run of bare characters. -/
theorem unblanked_letter {first : Char} (letter : first.isAlphanum = true)
    (plain : ∀ char ∈ rest, char.isAlphanum = true ∨ char = ' ') :
    unblanked (first :: rest) =
      (first :: rest.takeWhile isBare) :: unblanked (rest.dropWhile isBare) := by
  conv_lhs => rw [← List.takeWhile_append_dropWhile (p := isBare) (l := rest)]
  rw [← List.cons_append]
  refine unblanked_run (List.cons_ne_nil _ _) ?_ ?_
  · rw [List.mem_cons, not_or]
    constructor
    · rintro rfl
      exact absurd letter (by decide)
    · intro member
      exact (is_bare_iff (.inr rfl)).mp (List.mem_takeWhile_imp member) rfl
  · cases behind : rest.dropWhile isBare with
    | nil => exact .inl rfl
    | cons second further =>
      have stops : isBare second = false := by
        have head := List.head?_dropWhile_not isBare rest
        rw [behind] at head
        exact head
      have member : second ∈ rest :=
        (List.dropWhile_sublist isBare).subset (behind ▸ List.mem_cons_self)
      have blank : second = ' ' := by
        by_contra other
        rw [(is_bare_iff (plain second member)).mpr other] at stops
        cases stops
      exact .inr ⟨further, by rw [blank]⟩

/-- A letter or a digit is no sign. -/
theorem sign_token?_of_is_alphanum {char : Char} (plain : char.isAlphanum = true) :
    signToken? char = none := by
  unfold signToken?
  split <;> first | rfl | exact absurd plain (by decide)

/-- The tokens of a plain text are those of its words. The count of the tokenizer bounds the length
of the text. -/
theorem tokenize_plain {fuel : Nat} (plain : ∀ char ∈ text, char.isAlphanum = true ∨ char = ' ')
    (enough : text.length < fuel) :
    tokenize fuel text = wordTokens ((unblanked text).map String.ofList) := by
  induction fuel generalizing text with
  | zero => omega
  | succ fuel inductionHypothesis =>
    have shorter := (List.dropWhile_sublist isPatternBlank (l := text)).length_le
    have still : ∀ char ∈ text.dropWhile isPatternBlank, char.isAlphanum = true ∨ char = ' ' :=
      fun char member => plain char ((List.dropWhile_sublist _).subset member)
    rw [← unblanked_drop_while plain, tokenize]
    cases shape : text.dropWhile isPatternBlank with
    | nil => rfl
    | cons first rest =>
      have head := List.head?_dropWhile_not isPatternBlank text
      rw [shape] at still shorter head
      obtain ⟨starts, others⟩ := List.forall_mem_cons.mp still
      have letter : first.isAlphanum = true := by
        rcases starts with letter | rfl
        · exact letter
        · cases head
      have notQuote : (first == quoteChar) = false := by
        rw [beq_eq_false_iff_ne]
        rintro rfl
        exact absurd letter (by decide)
      have later := (List.dropWhile_sublist isBare (l := rest)).length_le
      rw [List.length_cons] at shorter
      simp only [sign_token?_of_is_alphanum letter, notQuote, Bool.false_eq_true, if_false]
      rw [if_pos (by simp [isBare, letter]), unblanked_letter letter others, inductionHypothesis
        (fun char member => others char ((List.dropWhile_sublist _).subset member)) (by omega)]
      rfl

end Tokenize
/-- What stands between separators is part of the list, without a separator. -/
theorem mem_of_mem_split_on {α : Type} [BEq α] [LawfulBEq α] {separator item : α}
    {items part : List α} (split : part ∈ items.splitOn separator) (member : item ∈ part) :
    item ∈ items ∧ item ≠ separator := by
  induction items generalizing part with
  | nil =>
    cases List.mem_singleton.mp split
    cases member
  | cons first rest inductionHypothesis =>
    rw [List.splitOn_cons_eq_if_modifyHead] at split
    split at split
    · rcases List.mem_cons.mp split with rfl | behind
      · cases member
      · exact ⟨List.mem_cons_of_mem _ (inductionHypothesis behind member).1,
          (inductionHypothesis behind member).2⟩
    · rename_i other
      obtain ⟨head, tail, shape⟩ := List.exists_cons_of_ne_nil (List.splitOn_ne_nil separator rest)
      rw [shape] at inductionHypothesis split
      rcases List.mem_cons.mp split with rfl | behind
      · rcases List.mem_cons.mp member with rfl | later
        · exact ⟨List.mem_cons_self, by simpa using other⟩
        · exact ⟨List.mem_cons_of_mem _ (inductionHypothesis List.mem_cons_self later).1,
            (inductionHypothesis List.mem_cons_self later).2⟩
      · exact ⟨List.mem_cons_of_mem _ (inductionHypothesis (.tail _ behind) member).1,
          (inductionHypothesis (.tail _ behind) member).2⟩

/-- A term without blanks is one word, unless there is nothing of it. -/
theorem term_words_of_not_mem {term : String} (joined : ' ' ∉ term.toList) :
    termWords term = if term.toList = [] then [] else [term] := by
  rw [termWords, unblanked, List.splitOn_eq_singleton joined]
  split
  · rename_i nothing
    rw [nothing]
    rfl
  · rename_i something
    rw [List.filter_cons_of_pos (by simpa using something), List.filter_nil, List.map_singleton,
      String.ofList_toList]

/-- The words of a plain term are made of letters and digits. -/
theorem is_plain_word_of_mem_term_words {term word : String} (plain : IsPlainTerm term)
    (member : word ∈ termWords term) : IsPlainWord word := by
  obtain ⟨stretch, among, rfl⟩ := List.mem_map.mp member
  obtain ⟨part, nonempty⟩ := List.mem_filter.mp among
  refine ⟨by simpa using nonempty, fun char inside => ?_⟩
  rw [String.toList_ofList] at inside
  obtain ⟨written, other⟩ := mem_of_mem_split_on part inside
  exact (plain char written).resolve_right other

end RecordStore.FullText
