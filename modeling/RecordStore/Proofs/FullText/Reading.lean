import RecordStore.Proofs.Engine.Objects
import RecordStore.Proofs.FullText.Terms

/-!
# What a term is read as

The parser is followed from its innermost reader outwards. Each reader that answers has taken the
first few words, and the pattern that it answers means what these words say. So a plain term that
can be read is met by the rows whose words satisfy its expression.
-/

namespace RecordStore.FullText

open Engine

/-! ### A single word -/

/-- The group of a single word. -/
def wordGroup (word : String) : Group := ⟨[⟨phraseOf word false, false⟩], usualDistance, none⟩

/-- The phrase of a plain word is the word in lower case. -/
theorem phrase_of_word {word : String} (plain : IsPlainWord word) :
    phraseOf word false = [⟨lowered word, false⟩] := by
  rw [phraseOf, words_of_is_alphanum plain.nonempty plain.plain]
  rfl

/-- The pattern of a group of one plain word is the group. -/
theorem of_group_word {word : String} (plain : IsPlainWord word) :
    Pattern.ofGroup (wordGroup word) = .group (wordGroup word) := by
  rw [Pattern.ofGroup, wordGroup, phrase_of_word plain]
  rfl

/-- A phrase of one word starts nowhere in a text exactly if the text lacks the word. -/
theorem phrase_starts_word (word : String) (number : Nat) (text : List String) :
    phraseStarts ⟨[⟨word, false⟩], false⟩ number text = [] ↔ word ∉ text := by
  induction text generalizing number with
  | nil => simp [phraseStarts]
  | cons first rest inductionHypothesis =>
    rw [phraseStarts, List.mem_cons, not_or, ← inductionHypothesis (number + 1)]
    by_cases same : word = first
    · simp [startsWith, WordPattern.accepts, same]
    · simp [startsWith, WordPattern.accepts, same]

/-- Numbering the columns of a row changes nothing else about them. -/
theorem numbered_map (number : Nat) (row : RowWords) :
    (numbered number row).map Prod.snd = row := by
  induction row generalizing number with
  | nil => rfl
  | cons column rest inductionHypothesis => rw [numbered, List.map_cons, inductionHypothesis]

/-- A row has the group of a word if it has the word. -/
theorem word_group_holds {word : String} (plain : IsPlainWord word) (row : RowWords) :
    (wordGroup word).holds row = row.has word := by
  have places : (wordGroup word).places row =
      [(numbered 0 row).flatMap fun column =>
        (phraseStarts ⟨[⟨lowered word, false⟩], false⟩ 0 column.2.words).map
          (column.1 * columnSpan + ·)] := by
    rw [wordGroup, phrase_of_word plain]
    simp [Group.places, Phrase.places, isAsked]
  rw [Group.holds, places, Bool.eq_iff_iff]
  simp only [List.any_cons, List.any_nil, Bool.or_false, Bool.not_eq_true',
    List.isEmpty_eq_false_iff, ne_eq, List.flatMap_eq_nil_iff, List.map_eq_nil_iff,
    phrase_starts_word]
  conv_rhs => rw [RowWords.has, ← numbered_map 0 row, List.any_map]
  simp

/-! ### Readers of words -/

section Readers

variable {columns : List String} {fuel : Nat} {words : List String}

/-- A refusal is no answer. -/
theorem refuse_ne_ok {α : Type} (tokens : Tokens) (result : α) : refuse tokens ≠ .ok result := by
  cases tokens <;> exact nofun

/-- Before the tokens of words there are no columns. -/
theorem read_columns?_word_tokens (columns : List String) (fuel : Nat) (words : List String) :
    readColumns? columns fuel (wordTokens words) = .ok none := by
  unfold readColumns?
  split
  · exact absurd ‹_› (word_tokens_ne (by decide))
  · exact absurd ‹_› (word_tokens_ne (by decide))
  · exact absurd ‹_› (word_tokens_ne_second (by decide))
  · rfl

/-- No star follows a word. -/
theorem read_star_word_tokens (words : List String) :
    readStar (wordTokens words) = (false, wordTokens words) := by
  unfold readStar
  split
  · exact absurd ‹_› (word_tokens_ne (by decide))
  · rfl

/-- A phrase ends before the token of a word. -/
theorem read_phrase_rest_ok {phrase read : List WordPattern} {rest : Tokens}
    (answered : readPhraseRest fuel phrase (wordTokens words) = .ok (read, rest)) :
    read = phrase ∧ rest = wordTokens words := by
  cases fuel with
  | zero => exact absurd answered (refuse_ne_ok _ _)
  | succ fuel =>
    unfold readPhraseRest at answered
    split at answered
    · exact absurd ‹_› (word_tokens_ne (by decide))
    · obtain ⟨-, -, ended⟩ := bind_ok answered
      cases ended
      exact ⟨rfl, rfl⟩

/-- A phrase that is read is a single word, and no operator. Proof: an operator starts no phrase. -/
theorem read_phrase_ok {phrase : List WordPattern} {rest : Tokens}
    (read : readPhrase fuel (wordTokens words) = .ok (phrase, rest)) :
    ∃ word more, words = word :: more ∧ word ∉ operatorWords ∧ phrase = phraseOf word false ∧
      rest = wordTokens more := by
  cases words with
  | nil => cases read
  | cons word more =>
    change readPhrase fuel (.next (wordToken word) (wordTokens more)) = _ at read
    obtain ⟨-, token⟩ | ⟨-, token⟩ | ⟨-, token⟩ | ⟨named, token⟩ := word_token_cases word <;>
      rw [token] at read
    · cases read
    · cases read
    · cases read
    · simp only [readPhrase, textToken?, read_star_word_tokens] at read
      obtain ⟨rfl, rfl⟩ := read_phrase_rest_ok read
      exact ⟨word, more, rfl, named, rfl, rfl⟩

/-- Before the tokens of words a group is a phrase. -/
theorem read_group_word_tokens (fuel : Nat) (words : List String) :
    readGroup fuel (wordTokens words) = (readPhrase fuel (wordTokens words) >>= fun read =>
      .ok (⟨[⟨read.1, false⟩], usualDistance, none⟩, read.2)) := by
  unfold readGroup
  split
  · exact absurd ‹_› (word_tokens_ne (by decide))
  · exact absurd ‹_› (word_tokens_ne_second (by decide))
  · rfl

/-- So a group that is read is a single word. -/
theorem read_group_ok {group : Group} {rest : Tokens}
    (read : readGroup fuel (wordTokens words) = .ok (group, rest)) :
    ∃ word more, words = word :: more ∧ word ∉ operatorWords ∧ group = wordGroup word ∧
      rest = wordTokens more := by
  rw [read_group_word_tokens] at read
  obtain ⟨⟨phrase, behind⟩, phraseRead, ended⟩ := bind_ok read
  obtain ⟨word, more, rfl, named, rfl, rfl⟩ := read_phrase_ok phraseRead
  cases ended
  exact ⟨word, more, rfl, named, rfl, rfl⟩

/-! ### Patterns of words -/

/-- A reader that answers took the first few words, and what it read means them. -/
def Takes (outcome : Except Fault (Pattern × Tokens)) (words : List String)
    (Means : List String → Pattern → Prop) : Prop :=
  ∀ pattern rest, outcome = .ok (pattern, rest) → ∃ taken others,
    words = taken ++ others ∧ rest = wordTokens others ∧ Means taken pattern

/-- A pattern that means words side by side. -/
structure MeansWords (taken : List String) (pattern : Pattern) : Prop where
  nonempty : taken ≠ []
  named : ∀ word ∈ taken, word ∉ operatorWords
  something : pattern ≠ .nothing
  holds : ∀ row, pattern.holds row = meetsWords row.has taken

/-- A pattern that means words around `NOT`. -/
structure MeansButNot (taken : List String) (pattern : Pattern) : Prop where
  noAnd : "AND" ∉ taken
  noOr : "OR" ∉ taken
  holds : ∀ row, pattern.holds row = meetsButNot row.has taken

/-- A pattern that means words around `AND`. -/
structure MeansBoth (taken : List String) (pattern : Pattern) : Prop where
  noOr : "OR" ∉ taken
  holds : ∀ row, pattern.holds row = meetsBoth row.has taken

/-- A pattern that means words around `OR`. -/
structure MeansTerm (taken : List String) (pattern : Pattern) : Prop where
  holds : ∀ row, pattern.holds row = meetsTerm row.has taken

/-- A reader that refuses takes nothing, so it takes what it should. -/
theorem refuse_takes (tokens : Tokens) (words : List String)
    (Means : List String → Pattern → Prop) : Takes (refuse tokens) words Means :=
  fun _ _ read => absurd read (refuse_ne_ok _ _)

/-- The group of a single word means the word, unless it is an operator. -/
theorem MeansWords.word {word : String} (plain : IsPlainWord word) (named : word ∉ operatorWords) :
    MeansWords [word] (.group (wordGroup word)) where
  nonempty := List.cons_ne_nil _ _
  named _ member := List.mem_singleton.mp member ▸ named
  something := nofun
  holds row := by
    simp [Pattern.holds, word_group_holds plain, meetsWords]

/-- Joined with the group of one more word, a pattern that means words means that one as well. -/
theorem MeansWords.join {taken : List String} {left : Pattern} (means : MeansWords taken left)
    {word : String} (plain : IsPlainWord word) (named : word ∉ operatorWords) :
    MeansWords (taken ++ [word]) (joinGroups left (.group (wordGroup word))) := by
  have both : joinGroups left (.group (wordGroup word)) = .both left (.group (wordGroup word)) := by
    cases left with
    | nothing => exact absurd rfl means.something
    | _ => rfl
  rw [both]
  refine ⟨by simp, fun other member => ?_, nofun, fun row => ?_⟩
  · rcases List.mem_append.mp member with before | last
    · exact means.named other before
    · exact List.mem_singleton.mp last ▸ named
  · obtain ⟨first, rest, rfl⟩ := List.exists_cons_of_ne_nil means.nonempty
    rw [Pattern.holds, means.holds, (MeansWords.word plain named).holds]
    simp [meetsWords, Bool.and_assoc]

/-- Groups side by side are words side by side. The words that were read before stay in front. -/
theorem read_groups_takes (plain : ∀ word ∈ words, IsPlainWord word) {before : List String}
    {left : Pattern} (means : MeansWords before left) :
    Takes (readGroups columns fuel left (wordTokens words)) words
      fun taken => MeansWords (before ++ taken) := by
  induction fuel generalizing before left words with
  | zero => exact refuse_takes _ _ _
  | succ fuel inductionHypothesis =>
    intro pattern rest read
    rw [readGroups] at read
    split at read
    · rw [read_columns?_word_tokens] at read
      obtain ⟨-, ⟨⟩, read⟩ := bind_ok read
      obtain ⟨⟨group, behind⟩, groupRead, read⟩ := bind_ok read
      obtain ⟨word, more, rfl, named, rfl, rfl⟩ := read_group_ok groupRead
      obtain ⟨first, others⟩ := List.forall_mem_cons.mp plain
      change readGroups columns fuel (joinGroups left (Pattern.ofGroup (wordGroup word)))
        _ = _ at read
      rw [of_group_word first] at read
      obtain ⟨taken, further, rfl, rfl, all⟩ :=
        inductionHypothesis others (means.join first named) pattern rest read
      exact ⟨word :: taken, further, rfl, rfl, by simpa using all⟩
    · obtain ⟨-, -, ended⟩ := bind_ok read
      cases ended
      exact ⟨[], words, rfl, rfl, by simpa using means⟩

/-- What stands between operators is read as a pattern that means its words. The induction is on the
words that are left. -/
theorem read_part_takes (plain : ∀ word ∈ words, IsPlainWord word) :
    Takes (readPart columns fuel (wordTokens words)) words MeansWords := by
  cases fuel with
  | zero => exact refuse_takes _ _ _
  | succ fuel =>
    intro pattern rest read
    have unbracketed : readPart columns (fuel + 1) (wordTokens words) =
        (readGroup fuel (wordTokens words) >>= fun group =>
          readGroups columns fuel (Pattern.ofGroup group.1) group.2) := by
      rw [readPart, read_columns?_word_tokens]
      · rfl
      · exact fun _ => word_tokens_ne (by decide)
    rw [unbracketed] at read
    obtain ⟨⟨group, behind⟩, groupRead, read⟩ := bind_ok read
    obtain ⟨word, more, rfl, named, rfl, rfl⟩ := read_group_ok groupRead
    obtain ⟨first, others⟩ := List.forall_mem_cons.mp plain
    rw [of_group_word first] at read
    obtain ⟨taken, further, rfl, rfl, means⟩ :=
      read_groups_takes others (.word first named) pattern rest read
    exact ⟨word :: taken, further, rfl, rfl, means⟩

/-! ### Operators -/

/-- The token of a word is written as the word. -/
theorem written_word_token (word : String) : (wordToken word).written = word := by
  obtain ⟨rfl, token⟩ | ⟨rfl, token⟩ | ⟨rfl, token⟩ | ⟨-, token⟩ := word_token_cases word <;>
    rw [token] <;> rfl

/-- A reader of items around an operator: it reads one item, and then another one behind each
operator that follows. -/
structure IsChain (item whole : Nat → Reader Pattern) (rest : Nat → Pattern → Reader Pattern)
    (token : Token) (combine : Pattern → Pattern → Pattern) : Prop where
  refuses : ∀ tokens, whole 0 tokens = refuse tokens
  starts : ∀ fuel tokens, whole (fuel + 1) tokens =
    (item fuel tokens >>= fun left => rest fuel left.1 left.2)
  ends : ∀ left tokens, rest 0 left tokens = refuse tokens
  goesOn : ∀ fuel left more, rest (fuel + 1) left (.next token more) =
    (item fuel more >>= fun right => rest fuel (combine left right.1) right.2)
  stops : ∀ fuel left tokens, (∀ more, tokens ≠ .next token more) →
    rest (fuel + 1) left tokens = .ok (left, tokens)

namespace IsChain

variable {item whole : Nat → Reader Pattern} {rest : Nat → Pattern → Reader Pattern} {token : Token}
  {combine : Pattern → Pattern → Pattern} {operator : String}
  {Item Means : List String → Pattern → Prop}

/-- Behind what was read the chain goes on with each operator and stops at any other word. The words
that were read before stay in front. -/
theorem rest_takes (chain : IsChain item whole rest token combine)
    (written : wordToken operator = token)
    (items : ∀ {fuel words}, (∀ word ∈ words, IsPlainWord word) →
      Takes (item fuel (wordTokens words)) words Item)
    (joins : ∀ {before left taken right}, Means before left → Item taken right →
      Means (before ++ operator :: taken) (combine left right))
    {before : List String} {left : Pattern} (means : Means before left)
    (plain : ∀ word ∈ words, IsPlainWord word) :
    Takes (rest fuel left (wordTokens words)) words fun taken => Means (before ++ taken) := by
  induction fuel generalizing before left words with
  | zero =>
    rw [chain.ends]
    exact refuse_takes _ _ _
  | succ fuel inductionHypothesis =>
    intro pattern behind read
    by_cases further : ∃ more, words = operator :: more
    · obtain ⟨more, rfl⟩ := further
      have plainMore := (List.forall_mem_cons.mp plain).2
      have tokens : wordTokens (operator :: more) = .next token (wordTokens more) :=
        congrArg (Tokens.next · (wordTokens more)) written
      rw [tokens, chain.goesOn] at read
      obtain ⟨⟨right, after⟩, itemRead, read⟩ := bind_ok read
      obtain ⟨taken, others, rfl, rfl, itemMeans⟩ := items plainMore right after itemRead
      obtain ⟨later, last, rfl, rfl, all⟩ := inductionHypothesis (joins means itemMeans)
        (fun word member => plainMore word (List.mem_append_right _ member)) pattern behind read
      exact ⟨operator :: (taken ++ later), last, by simp, rfl, by simpa using all⟩
    · rw [chain.stops] at read
      · cases read
        exact ⟨[], words, rfl, rfl, by simpa using means⟩
      · intro more same
        obtain ⟨word, others, rfl, head, -⟩ := word_tokens_next same
        have named := congrArg Token.written (written.trans head)
        rw [written_word_token, written_word_token] at named
        exact further ⟨others, by rw [named]⟩

/-- What a chain reads means the words that it took, if each item does and the operator joins
them. -/
theorem takes (chain : IsChain item whole rest token combine)
    (written : wordToken operator = token)
    (items : ∀ {fuel words}, (∀ word ∈ words, IsPlainWord word) →
      Takes (item fuel (wordTokens words)) words Item)
    (alone : ∀ {taken pattern}, Item taken pattern → Means taken pattern)
    (joins : ∀ {before left taken right}, Means before left → Item taken right →
      Means (before ++ operator :: taken) (combine left right))
    (plain : ∀ word ∈ words, IsPlainWord word) :
    Takes (whole fuel (wordTokens words)) words Means := by
  cases fuel with
  | zero =>
    rw [chain.refuses]
    exact refuse_takes _ _ _
  | succ fuel =>
    intro pattern behind read
    rw [chain.starts] at read
    obtain ⟨⟨left, after⟩, itemRead, read⟩ := bind_ok read
    obtain ⟨taken, others, rfl, rfl, itemMeans⟩ := items plain left after itemRead
    obtain ⟨later, last, rfl, rfl, all⟩ := chain.rest_takes written items joins (alone itemMeans)
      (fun word member => plain word (List.mem_append_right _ member)) pattern behind read
    exact ⟨taken ++ later, last, by simp, rfl, all⟩

end IsChain

/-- The reader of parts around `NOT` reads one item and then the others. -/
theorem read_but_not_is_chain (columns : List String) :
    IsChain (readPart columns) (readButNot columns) (readButNotRest columns) .not .butNot where
  refuses tokens := by rw [readButNot]
  starts fuel tokens := by rw [readButNot]
  ends left tokens := by rw [readButNotRest]
  goesOn fuel left more := by rw [readButNotRest]
  stops fuel left tokens other := by rw [readButNotRest]; exact other

/-- The reader of parts around `AND` does, too. -/
theorem read_both_is_chain (columns : List String) :
    IsChain (readButNot columns) (readBoth columns) (readBothRest columns) .and .both where
  refuses tokens := by rw [readBoth]
  starts fuel tokens := by rw [readBoth]
  ends left tokens := by rw [readBothRest]
  goesOn fuel left more := by rw [readBothRest]
  stops fuel left tokens other := by rw [readBothRest]; exact other

/-- So does the reader of parts around `OR`. -/
theorem read_either_is_chain (columns : List String) :
    IsChain (readBoth columns) (readEither columns) (readEitherRest columns) .or .either where
  refuses tokens := by rw [readEither]
  starts fuel tokens := by rw [readEither]
  ends left tokens := by rw [readEitherRest]
  goesOn fuel left more := by rw [readEitherRest]
  stops fuel left tokens other := by rw [readEitherRest]; exact other

/-! ### What words around operators mean -/

section Joins

variable {before taken : List String} {left right : Pattern}

/-- A word that is no operator, or is another one, stays out of words that are joined. -/
theorem not_mem_joined {word operator : String} (other : word ≠ operator) (absent : word ∉ before)
    (further : word ∉ taken) : word ∉ before ++ operator :: taken := by
  simp [other, absent, further]

/-- Words side by side are a part without `NOT`. -/
theorem MeansWords.but_not (means : MeansWords taken left) : MeansButNot taken left where
  noAnd member := means.named _ member (by decide)
  noOr member := means.named _ member (by decide)
  holds row := by
    rw [means.holds, meetsButNot,
      List.splitOn_eq_singleton fun member => means.named _ member (by decide)]
    simp

/-- Behind `NOT` words are left out of what was meant before. -/
theorem MeansButNot.join (means : MeansButNot before left) (further : MeansWords taken right) :
    MeansButNot (before ++ "NOT" :: taken) (.butNot left right) where
  noAnd := not_mem_joined (by decide) means.noAnd fun member => further.named _ member (by decide)
  noOr := not_mem_joined (by decide) means.noOr fun member => further.named _ member (by decide)
  holds row := by
    obtain ⟨wanted, unwanted, shape⟩ :=
      List.exists_cons_of_ne_nil (List.splitOn_ne_nil "NOT" before)
    rw [Pattern.holds, means.holds, further.holds, meetsButNot, meetsButNot,
      List.splitOn_append_cons_self,
      List.splitOn_eq_singleton fun member => further.named _ member (by decide)]
    simp [shape, Bool.and_assoc]

/-- A part around `NOT` is one without `AND`. -/
theorem MeansButNot.both (means : MeansButNot taken left) : MeansBoth taken left where
  noOr := means.noOr
  holds row := by
    rw [means.holds, meetsBoth, List.splitOn_eq_singleton means.noAnd, List.all_cons, List.all_nil,
      Bool.and_true]

/-- Behind `AND` a part must be met as well. -/
theorem MeansBoth.join (means : MeansBoth before left) (further : MeansButNot taken right) :
    MeansBoth (before ++ "AND" :: taken) (.both left right) where
  noOr := not_mem_joined (by decide) means.noOr further.noOr
  holds row := by
    rw [Pattern.holds, means.holds, further.both.holds, meetsBoth, meetsBoth, meetsBoth,
      List.splitOn_append_cons_self, List.all_append]

/-- A part around `AND` is a term without `OR`. -/
theorem MeansBoth.term (means : MeansBoth taken left) : MeansTerm taken left where
  holds row := by
    rw [means.holds, meetsTerm, List.splitOn_eq_singleton means.noOr, List.any_cons, List.any_nil,
      Bool.or_false]

/-- Behind `OR` a part may be met instead. -/
theorem MeansTerm.join (means : MeansTerm before left) (further : MeansBoth taken right) :
    MeansTerm (before ++ "OR" :: taken) (.either left right) where
  holds row := by
    rw [Pattern.holds, means.holds, further.term.holds, meetsTerm, meetsTerm, meetsTerm,
      List.splitOn_append_cons_self, List.any_append]

end Joins

/-- The reader of parts around `NOT` takes words and means them. -/
theorem read_but_not_takes (plain : ∀ word ∈ words, IsPlainWord word) :
    Takes (readButNot columns fuel (wordTokens words)) words MeansButNot :=
  (read_but_not_is_chain columns).takes (by decide)
    read_part_takes MeansWords.but_not MeansButNot.join plain

/-- The reader of parts around `AND` takes words and means them. -/
theorem read_both_takes (plain : ∀ word ∈ words, IsPlainWord word) :
    Takes (readBoth columns fuel (wordTokens words)) words MeansBoth :=
  (read_both_is_chain columns).takes (by decide)
    read_but_not_takes MeansButNot.both MeansBoth.join plain

/-- The reader of parts around `OR` takes words and means them. -/
theorem read_either_takes (plain : ∀ word ∈ words, IsPlainWord word) :
    Takes (readEither columns fuel (wordTokens words)) words MeansTerm :=
  (read_either_is_chain columns).takes (by decide)
    read_both_takes MeansBoth.term MeansTerm.join plain

end Readers

/-! ### Terms -/

/-- A plain term that can be read is met by the rows whose words satisfy its expression. Proof: the
pattern is answered only if no word is left, so the whole term is the expression. -/
theorem Pattern.holds_of_parse {columns : List String} {term : String} {pattern : Pattern}
    (plain : IsPlainTerm term) (parsed : Pattern.parse columns term = .ok pattern)
    (row : RowWords) : pattern.holds row = meetsTerm row.has (termWords term) := by
  have whole : (term.toList.takeWhile fun char => char.toNat != 0) = term.toList := by
    rw [List.takeWhile_eq_self_iff]
    intro char member
    rcases plain char member with letter | rfl
    · rw [bne_iff_ne]
      intro none
      have same : char = Char.ofNat 0 := by rw [← none, Char.ofNat_toNat]
      rw [same] at letter
      exact absurd letter (by decide)
    · decide
  have unstarred : ∀ rest, term.toList ≠ '*' :: rest := by
    intro rest starred
    have star := plain '*' (starred ▸ List.mem_cons_self)
    exact absurd star (by decide)
  rw [Pattern.parse, whole] at parsed
  split at parsed
  · rename_i rest starred
    exact absurd starred (unstarred rest)
  · rw [tokenize_plain plain (Nat.lt_succ_self _)] at parsed
    obtain ⟨⟨found, rest⟩, read, ended⟩ := bind_ok parsed
    obtain ⟨taken, others, words, rfl, means⟩ := read_either_takes
      (fun word member => is_plain_word_of_mem_term_words plain member) found rest read
    cases others with
    | cons word more => exact absurd ended (refuse_ne_ok _ _)
    | nil =>
      cases ended
      rw [means.holds, words, List.append_nil]

/-- `NOT` binds tighter than `OR`. -/
example : meetsTerm (fun word => word == "rust") (termWords "rust NOT book OR whales") = true := by
  decide +kernel

end RecordStore.FullText
