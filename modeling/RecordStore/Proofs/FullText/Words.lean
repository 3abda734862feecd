import Mathlib.Data.List.Infix
import RecordStore.FullText.Syntax

/-!
# Words of a text

Each word of a text is a stretch of the text, as it is folded. The folding leaves ASCII characters
what they are but for their case, so a word of ASCII characters alone is the only word of its text.
A text in which no other character folds to an ASCII character contains its ASCII words literally,
if the case does not matter.
-/

namespace RecordStore.FullText

/-! ### Folding -/

/-- Letters and digits of ASCII are ASCII characters. -/
theorem to_nat_lt_of_is_alphanum {char : Char} (plain : char.isAlphanum = true) :
    char.toNat < 0x80 := by
  have bounded : ∀ {last : UInt32}, char.val ≤ last → last.toNat < 0x80 → char.toNat < 0x80 :=
    fun upTo small => Nat.lt_of_le_of_lt (UInt32.le_iff_toNat_le.mp upTo) small
  rcases Bool.or_eq_true_iff.mp plain with letter | digit
  · rcases Bool.or_eq_true_iff.mp letter with upper | lower
    · exact bounded (of_decide_eq_true upper).2 (by decide)
    · exact bounded (of_decide_eq_true (Bool.and_eq_true_iff.mp lower).2) (by decide)
  · exact bounded (of_decide_eq_true (Bool.and_eq_true_iff.mp digit).2) (by decide)

/-- Of an ASCII character only the case is folded. -/
theorem folded?_of_ascii {char : Char} (ascii : char.toNat < 0x80) :
    folded? char = some char.toLower := by
  have each : ∀ code < 0x80, folded? (Char.ofNat code) = some (Char.ofNat code).toLower := by
    decide +kernel
  have folds := each char.toNat ascii
  rwa [Char.ofNat_toNat] at folds

/-- Folding a stretch of ASCII characters puts them into lower case and drops none. -/
theorem filter_map_folded? {stretch : List Char} (ascii : ∀ char ∈ stretch, char.toNat < 0x80) :
    stretch.filterMap folded? = stretch.map Char.toLower := by
  induction stretch with
  | nil => rfl
  | cons char rest inductionHypothesis =>
    obtain ⟨first, others⟩ := List.forall_mem_cons.mp ascii
    rw [List.filterMap_cons, folded?_of_ascii first, inductionHypothesis others, List.map_cons]

/-- A text in which only ASCII characters fold to ASCII characters. -/
def IsUnaccented (text : List Char) : Prop :=
  ∀ char ∈ text, char.toNat < 0x80 ∨ ∃ small, folded? char = some small ∧ 0x80 ≤ small.toNat

/-- A stretch of such a text that folds to ASCII characters is made of ASCII characters. -/
theorem IsUnaccented.filter_map_folded? {stretch : List Char} (unaccented : IsUnaccented stretch)
    (ascii : ∀ char ∈ stretch.filterMap folded?, char.toNat < 0x80) :
    stretch.filterMap folded? = stretch.map Char.toLower := by
  refine FullText.filter_map_folded? fun char member => ?_
  rcases unaccented char member with plain | ⟨small, folds, large⟩
  · exact plain
  · have bounded := ascii small (List.mem_filterMap.mpr ⟨char, member, folds⟩)
    omega

/-- A text has a stretch that is a word as it is folded. -/
def ContainsFolded (text word : String) : Prop :=
  ∃ stretch, stretch <:+: text.toList ∧ stretch.filterMap folded? = word.toList.map Char.toLower

/-- A text contains a word, whatever the case of ASCII letters. -/
def ContainsIgnoringCase (text word : String) : Prop :=
  word.toList.map Char.toLower <:+: text.toList.map Char.toLower

/-- Whether a text contains a word can be decided. -/
instance (text word : String) : Decidable (ContainsIgnoringCase text word) :=
  inferInstanceAs (Decidable (_ <:+: _))

/-- In a text in which nothing is accented an ASCII word stands literally. -/
theorem ContainsFolded.ignoring_case {text word : String} (contains : ContainsFolded text word)
    (unaccented : IsUnaccented text.toList) (ascii : ∀ char ∈ word.toList, char.toNat < 0x80) :
    ContainsIgnoringCase text word := by
  obtain ⟨stretch, inside, folds⟩ := contains
  have small : ∀ code < 0x80, (Char.ofNat code).toLower.toNat < 0x80 := by decide +kernel
  have literally : stretch.filterMap folded? = stretch.map Char.toLower := by
    refine IsUnaccented.filter_map_folded? (fun char member =>
      unaccented char (inside.subset member)) ?_
    intro char member
    rw [folds] at member
    obtain ⟨written, among, rfl⟩ := List.mem_map.mp member
    have bounded := small written.toNat (ascii written among)
    rwa [Char.ofNat_toNat] at bounded
  rw [ContainsIgnoringCase, ← folds, literally]
  exact inside.map Char.toLower

/-! ### Words -/

/-- Each word is a stretch of the text, as it is folded. The induction is on the characters that are
left, with those of the word that is being read. -/
theorem stretch_of_mem_words_from {word : String} {reading rest : List Char}
    (member : word ∈ wordsFrom reading rest) :
    ∃ stretch, stretch <:+: reading.reverse ++ rest ∧ foldWord stretch = word := by
  fun_induction wordsFrom reading rest with
  | case1 => cases member
  | case2 reading _ =>
    cases List.mem_singleton.mp member
    exact ⟨reading.reverse, ⟨[], [], by simp⟩, rfl⟩
  | case3 char rest _ inductionHypothesis =>
    obtain ⟨stretch, inside, folds⟩ := inductionHypothesis member
    exact ⟨stretch, by simpa using inside, folds⟩
  | case4 char rest _ inductionHypothesis =>
    obtain ⟨stretch, inside, folds⟩ := inductionHypothesis member
    exact ⟨stretch, inside.trans ⟨[char], [], by simp⟩, folds⟩
  | case5 reading char rest _ _ inductionHypothesis =>
    obtain ⟨stretch, inside, folds⟩ := inductionHypothesis member
    exact ⟨stretch, by simpa using inside, folds⟩
  | case6 reading char rest _ _ inductionHypothesis =>
    rcases List.mem_cons.mp member with rfl | later
    · exact ⟨reading.reverse, ⟨[], char :: rest, by simp⟩, rfl⟩
    · obtain ⟨stretch, inside, folds⟩ := inductionHypothesis later
      exact ⟨stretch, inside.trans ⟨reading.reverse ++ [char], [], by simp⟩, folds⟩

/-- A word of a text is a stretch of it, folded. -/
theorem stretch_of_mem_words {word text : String} (member : word ∈ words text) :
    ∃ stretch, stretch <:+: text.toList ∧ foldWord stretch = word :=
  stretch_of_mem_words_from member

/-- A text that has a word contains it as it is folded. -/
theorem contains_folded_of_mem_words {word text : String} (member : lowered word ∈ words text) :
    ContainsFolded text word := by
  obtain ⟨stretch, inside, folds⟩ := stretch_of_mem_words member
  refine ⟨stretch, inside, ?_⟩
  have letters := congrArg String.toList folds
  rwa [foldWord, String.toList_ofList, lowered, String.toList_map] at letters

/-- A text of letters and digits goes on as one word. -/
theorem words_from_continues {reading rest : List Char} (started : reading ≠ [])
    (continues : ∀ char ∈ rest, continuesWord char = true) :
    wordsFrom reading rest = [foldWord (reading.reverse ++ rest)] := by
  induction rest generalizing reading with
  | nil =>
    obtain ⟨last, before, rfl⟩ := List.exists_cons_of_ne_nil started
    rw [wordsFrom, List.append_nil]
    exact started
  | cons char rest inductionHypothesis =>
    obtain ⟨first, others⟩ := List.forall_mem_cons.mp continues
    rw [wordsFrom, if_pos first, inductionHypothesis (List.cons_ne_nil _ _) others]
    · simp
    · exact started

/-- A word of ASCII letters and digits is the only word of its text. -/
theorem words_of_is_alphanum {text : String} (nonempty : text.toList ≠ [])
    (plain : ∀ char ∈ text.toList, char.isAlphanum = true) : words text = [lowered text] := by
  have isWord : ∀ char ∈ text.toList, isWordChar char = true := by
    intro char member
    rw [isWordChar, if_pos (to_nat_lt_of_is_alphanum (plain char member)), plain char member]
  have folds : foldWord text.toList = lowered text := by
    rw [foldWord, filter_map_folded? fun char member =>
      to_nat_lt_of_is_alphanum (plain char member),
      lowered, ← String.toList_map, String.ofList_toList]
  obtain ⟨first, rest, shape⟩ := List.exists_cons_of_ne_nil nonempty
  rw [← folds, words, shape]
  rw [shape] at isWord
  obtain ⟨starts, others⟩ := List.forall_mem_cons.mp isWord
  rw [wordsFrom, if_pos starts, words_from_continues (List.cons_ne_nil _ _) fun char member => by
    rw [continuesWord, others char member, Bool.true_or]]
  rfl

end RecordStore.FullText
