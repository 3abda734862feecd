import Mathlib.Algebra.Ring.Nat
import RecordStore.Proofs.Sql.Lexing
import RecordStore.Sql.Parameters
import RecordStore.Sql.Render

/-!
# Spelling queries

The tokens of which the text of a query is made, with the places that its parameters get when the
parameters before it are counted. Joined they are the text, they do not run together, and their
parameters are numbered in the order of the operands.
-/

namespace RecordStore.Sql

open Token

/-- Tokens that start behind a gap, do not run together, and number so many parameters behind the
parameters before. -/
structure IsSpelled (gap : String) (before count : Nat) (tokens : List Token) : Prop where
  starts : ∃ first rest, tokens = first :: rest ∧ first.gap = gap
  plain : ∀ token ∈ tokens, token.IsPlain
  apart : tokens.IsChain Meets
  ends : ∀ token ∈ tokens.getLast?, token.isComparison = false
  numbered : Numbered before tokens
  marked : marks tokens = count

namespace IsSpelled

variable {gap next : String} {before count more : Nat} {left right : List Token} {token : Token}

/-- A plain word behind nothing or a blank is spelled. -/
theorem of_word {written : String} (blank : gap = "" ∨ gap = " ")
    (plain : isPlainWord written = true) : IsSpelled gap before 0 [word gap written] where
  starts := ⟨_, _, rfl, rfl⟩
  plain := by simpa using IsPlain.word blank plain
  apart := .singleton _
  ends := by simp [word, isComparison]
  numbered := trivial
  marked := rfl

/-- So is a bracket. -/
theorem of_bracket {written : String} (blank : gap = "" ∨ gap = " ")
    (member : written ∈ brackets) : IsSpelled gap before 0 [sign gap written] where
  starts := ⟨_, _, rfl, rfl⟩
  plain := by simpa using IsPlain.bracket blank member
  apart := .singleton _
  ends := by
    simp only [brackets, List.mem_cons, List.not_mem_nil, or_false] at member
    rcases member with rfl | rfl | rfl | rfl | rfl <;> simp [sign, isComparison, comparisons]
  numbered := trivial
  marked := rfl

/-- So is a question mark with the next place. -/
theorem of_mark (blank : gap = "" ∨ gap = " ") :
    IsSpelled gap before 1 [mark gap (before + 1)] where
  starts := ⟨_, _, rfl, rfl⟩
  plain := by simpa using IsPlain.mark blank
  apart := .singleton _
  ends := by simp [mark, isComparison]
  numbered := ⟨rfl, trivial⟩
  marked := rfl

/-- Tokens stand behind others if the last and the first of them do not run together. -/
theorem join (first : IsSpelled gap before count left)
    (second : IsSpelled next (before + count) more right)
    (meets : ∀ last ∈ left.getLast?, ∀ head ∈ right.head?, last.Meets head) :
    IsSpelled gap before (count + more) (left ++ right) where
  starts := by
    obtain ⟨head, rest, rfl, start⟩ := first.starts
    exact ⟨head, rest ++ right, rfl, start⟩
  plain := by
    intro token member
    rcases List.mem_append.mp member with earlier | later
    · exact first.plain token earlier
    · exact second.plain token later
  apart := List.isChain_append.mpr ⟨first.apart, second.apart, meets⟩
  ends := by
    obtain ⟨head, rest, rfl, -⟩ := second.starts
    rw [List.getLast?_append_of_ne_nil _ (List.cons_ne_nil head rest)]
    exact second.ends
  numbered := numbered_append.mpr ⟨first.numbered, first.marked ▸ second.numbered⟩
  marked := by simp [marks, List.countP_append, ← first.marked, ← second.marked]

/-- Tokens behind a blank can stand behind any others. -/
theorem append (first : IsSpelled gap before count left)
    (second : IsSpelled " " (before + count) more right) :
    IsSpelled gap before (count + more) (left ++ right) := by
  refine first.join second fun last _ head starts => ?_
  obtain ⟨start, rest, rfl, blank⟩ := second.starts
  cases starts
  exact .inl blank

/-- A bracket can stand behind anything that ends with no comparison. -/
theorem append_bracket {written : String} (first : IsSpelled gap before count left)
    (member : written ∈ brackets) :
    IsSpelled gap before count (left ++ [sign "" written]) := by
  refine first.join (of_bracket (.inl rfl) member) fun last among head starts => ?_
  cases starts
  exact .inr (.inr ⟨by simpa [isBracket, sign] using member, first.ends last among⟩)

/-- Anything can stand behind a bracket. -/
theorem bracket_cons {written : String} (blank : gap = "" ∨ gap = " ")
    (member : written ∈ brackets) (second : IsSpelled next before more right) :
    IsSpelled gap before more (sign gap written :: right) := by
  have alone : IsSpelled gap before 0 [sign gap written] := of_bracket blank member
  have behind : IsSpelled next (before + 0) more right := second
  have joined := alone.join behind fun last among head _ => ?_
  · simpa using joined
  · cases among
    exact .inr (.inl (by simpa [isBracket, sign] using member))

/-- Tokens behind a blank can stand behind a comparison. -/
theorem comparison_cons {written : String} (member : written ∈ comparisons)
    (second : IsSpelled " " before more right) :
    IsSpelled " " before more (sign " " written :: right) where
  starts := ⟨_, _, rfl, rfl⟩
  plain := by
    intro token among
    rcases List.mem_cons.mp among with rfl | later
    · exact .comparison (.inr rfl) member
    · exact second.plain token later
  apart := by
    obtain ⟨start, rest, rfl, blank⟩ := second.starts
    exact List.isChain_cons_cons.mpr ⟨.inl blank, second.apart⟩
  ends := by
    obtain ⟨start, rest, rfl, -⟩ := second.starts
    rw [List.getLast?_cons_cons]
    exact second.ends
  numbered := second.numbered
  marked := by simpa [marks, isMark, sign] using second.marked

/-- Tokens behind a blank can stand behind a word. -/
theorem word_cons {written : String} (blank : gap = "" ∨ gap = " ")
    (plain : isPlainWord written = true) (second : IsSpelled " " before more right) :
    IsSpelled gap before more (word gap written :: right) := by
  have alone : IsSpelled gap before 0 [word gap written] := of_word blank plain
  have behind : IsSpelled " " (before + 0) more right := second
  simpa using alone.append behind

end IsSpelled

variable {Operand : Type}

/-! ### Expressions -/

/-- A column, with the name of its source before it when one is given. -/
def spellColumn (gap : String) (source : Option String) (name : String) : List Token :=
  match source with
  | some source => [word gap source, sign "" ".", word "" name]
  | none => [word gap name]

/-- Items with commas between them; each has so many operands. -/
def spellItems {α : Type} (spell : String → Nat → α → List Token) (width : α → Nat) :
    String → Nat → List α → List Token
  | _, _, [] => []
  | gap, before, [only] => spell gap before only
  | gap, before, first :: rest =>
    spell gap before first ++ sign "" "," :: spellItems spell width " " (before + width first) rest

/-- The token of an operation that stands between its operands. -/
def BinaryOperator.token (operator : BinaryOperator) : Token :=
  match operator with
  | .and => word " " "AND"
  | operator => sign " " operator.symbol

namespace Expression

/-- The tokens of an expression behind a gap, when so many parameters come before it. -/
def spell : Expression Operand → String → Nat → List Token
  | .operand _, gap, before => [mark gap (before + 1)]
  | .column source name, gap, _ => spellColumn gap source name
  | .unary .isNull inner, gap, before =>
    inner.spell gap before ++ [word " " "IS", word " " "NULL"]
  | .unary .isNotNull inner, gap, before =>
    inner.spell gap before ++ [word " " "IS", word " " "NOT", word " " "NULL"]
  | .binary operator left right, gap, before =>
    left.spell gap before ++ operator.token :: right.spell " " (before + left.operands.length)
  | .oneOf _ target candidates, gap, before =>
    target.spell gap before ++ word " " "IN" :: sign " " "(" ::
      (spellItems (fun gap before _ => [mark gap (before + 1)]) (fun _ => 1) ""
        (before + target.operands.length) candidates ++ [sign "" ")"])
  | .grouped inner, gap, before => sign gap "(" :: (inner.spell "" before ++ [sign "" ")"])
  | .matching source name _, gap, before =>
    spellColumn gap source name ++ [word " " "MATCH", mark " " (before + 1)]
  | .countRows, gap, _ => [word gap "COUNT", sign "" "(", sign "" "*", sign "" ")"]
  | _, _, _ => []

/-- How tight an operation between two operands binds. -/
def binds : BinaryOperator → Option Nat
  | .and => some 2
  | .equal | .unequal => some 4
  | .less | .atMost | .greater | .atLeast => some 5
  | _ => none

end Expression

/-- A name that is read as one. -/
def IsName (name : String) : Prop :=
  isPlainWord name = true ∧ Parser.neverNames.contains (Parser.upper name) = false

/-- A source and the name of a column that are read as such. -/
def AreNames (source : Option String) (name : String) : Prop :=
  (∀ given ∈ source, IsName given) ∧ IsName name

namespace Expression

/-- Expressions that are read back from their text where operations are read that bind at least
as tight as a level. -/
inductive Written : Nat → Expression Operand → Prop where
  | operand {level : Nat} (value : Operand) : Written level (.operand value)
  | column {level : Nat} {source : Option String} {name : String} (named : AreNames source name) :
      Written level (.column source name)
  | isNull {level : Nat} {inner : Expression Operand} (loose : level ≤ 4)
      (written : Written 4 inner) : Written level (.unary .isNull inner)
  | isNotNull {level : Nat} {inner : Expression Operand} (loose : level ≤ 4)
      (written : Written 4 inner) : Written level (.unary .isNotNull inner)
  | binary {level own : Nat} {operator : BinaryOperator} {left right : Expression Operand}
      (bound : binds operator = some own) (loose : level ≤ own) (before : Written own left)
      (behind : Written (own + 1) right) : Written level (.binary operator left right)
  | oneOf {level : Nat} {target : Expression Operand} {candidates : List Operand}
      (loose : level ≤ 4) (written : Written 4 target) (nonempty : candidates ≠ []) :
      Written level (.oneOf false target candidates)
  | grouped {level : Nat} {inner : Expression Operand} (written : Written 0 inner) :
      Written level (.grouped inner)
  | matching {level : Nat} {source : Option String} {name : String} (loose : level ≤ 4)
      (named : AreNames source name) (pattern : Operand) :
      Written level (.matching source name pattern)
  | countRows {level : Nat} : Written level .countRows

/-- What is read back among tighter operations is read back among looser ones. -/
theorem Written.mono {level higher : Nat} {expression : Expression Operand}
    (written : expression.Written higher) (le : level ≤ higher) : expression.Written level := by
  cases written with
  | operand value => exact .operand value
  | column named => exact .column named
  | isNull loose inner => exact .isNull (le.trans loose) inner
  | isNotNull loose inner => exact .isNotNull (le.trans loose) inner
  | binary bound loose before behind => exact .binary bound (le.trans loose) before behind
  | oneOf loose target nonempty => exact .oneOf (le.trans loose) target nonempty
  | grouped inner => exact .grouped inner
  | matching loose named pattern => exact .matching (le.trans loose) named pattern
  | countRows => exact .countRows

end Expression

/-! ### What is spelled -/

section Spelled

variable {gap : String} {before : Nat}

/-- The characters of a word are its gap and what is written. -/
@[simp] theorem chars_word (gap written : String) :
    (word gap written).chars = gap.toList ++ written.toList := rfl

/-- Those of a sign are, too. -/
@[simp] theorem chars_sign (gap written : String) :
    (sign gap written).chars = gap.toList ++ written.toList := rfl

/-- Those of a question mark are its gap and the mark. -/
@[simp] theorem chars_mark (gap : String) (place : Nat) :
    (mark gap place).chars = gap.toList ++ "?".toList := rfl

/-- The tokens of a column are its text. -/
theorem spell_column_chars (gap : String) (source : Option String) (name : String) :
    (spellColumn gap source name).flatMap chars = gap.toList ++ (qualified source name).toList := by
  cases source <;> simp [spellColumn, qualified]

/-- They do not run together and have no parameter. -/
theorem spell_column_spelled (blank : gap = "" ∨ gap = " ") {source : Option String} {name : String}
    (named : AreNames source name) : IsSpelled gap before 0 (spellColumn gap source name) := by
  cases source with
  | none => exact .of_word blank named.2.1
  | some given =>
    have owner : IsSpelled gap before 0 ([word gap given] ++ [sign "" "."]) :=
      (IsSpelled.of_word blank (named.1 given rfl).1).append_bracket (by simp [brackets])
    have field : IsSpelled "" (before + 0) 0 [word "" name] := .of_word (.inl rfl) named.2.1
    refine owner.join field fun last among head _ => ?_
    cases among
    exact .inr (.inl (by simp [isBracket, sign, brackets]))

/-- Items are spelled if each of them is. -/
theorem spell_items_spelled {α : Type} {spell : String → Nat → α → List Token} {width : α → Nat}
    {items : List α} (blank : gap = "" ∨ gap = " ") (nonempty : items ≠ [])
    (each : ∀ item ∈ items, ∀ gap before, (gap = "" ∨ gap = " ") →
      IsSpelled gap before (width item) (spell gap before item)) :
    IsSpelled gap before ((items.map width).sum) (spellItems spell width gap before items) := by
  induction items generalizing gap before with
  | nil => exact absurd rfl nonempty
  | cons first rest inductionHypothesis =>
    have start := each first List.mem_cons_self gap before blank
    cases rest with
    | nil => simpa [spellItems] using start
    | cons second others =>
      have later : IsSpelled " " (before + width first) (((second :: others).map width).sum) _ :=
        inductionHypothesis (.inr rfl) (List.cons_ne_nil second others)
          fun item member => each item (List.mem_cons_of_mem first member)
      have comma := (start.append_bracket (by simp [brackets] : "," ∈ brackets)).append later
      simpa [spellItems] using comma

/-- The tokens of items are their texts with commas between them. -/
theorem spell_items_chars {α : Type} {spell : String → Nat → α → List Token} {width : α → Nat}
    {render : α → String} (items : List α)
    (each : ∀ item ∈ items, ∀ gap before,
      (spell gap before item).flatMap chars = gap.toList ++ (render item).toList)
    (gap : String) (before : Nat) (nonempty : items ≠ []) :
    (spellItems spell width gap before items).flatMap chars =
      gap.toList ++ (joined ", " (items.map render)).toList := by
  induction items generalizing gap before with
  | nil => exact absurd rfl nonempty
  | cons first rest inductionHypothesis =>
    have start := each first List.mem_cons_self gap before
    cases rest with
    | nil => simpa [spellItems, joined] using start
    | cons second others =>
      have later := inductionHypothesis
        (fun item member => each item (List.mem_cons_of_mem first member)) " "
        (before + width first) (List.cons_ne_nil second others)
      simp only [joined] at later
      simp [spellItems, start, later, joined, String.intercalate_cons_cons]

namespace Expression

/-- The tokens of an expression are its text, by induction on how it is written. -/
theorem Written.chars {level : Nat} {expression : Expression Operand}
    (written : Written level expression) (gap : String) (before : Nat) :
    (expression.spell gap before).flatMap chars = gap.toList ++ expression.render.toList := by
  induction written generalizing gap before with
  | operand value => simp [spell, render]
  | column named => exact spell_column_chars gap _ _
  | isNull _ _ inductionHypothesis =>
    simp [spell, render, UnaryOperator.apply, inductionHypothesis]
  | isNotNull _ _ inductionHypothesis =>
    simp [spell, render, UnaryOperator.apply, inductionHypothesis]
  | @binary _ _ operator _ _ bound _ _ _ leftHypothesis rightHypothesis =>
    cases operator <;> first
      | (cases bound; done)
      | simp [spell, render, BinaryOperator.apply, BinaryOperator.token, BinaryOperator.symbol,
          leftHypothesis, rightHypothesis]
  | @oneOf _ target candidates _ _ nonempty inductionHypothesis =>
    have marks : (spellItems (fun gap before (_ : Operand) => [mark gap (before + 1)])
        (fun _ => 1) "" (before + target.operands.length) candidates).flatMap Token.chars =
        "".toList ++ (joined ", " (candidates.map fun _ => "?")).toList :=
      spell_items_chars candidates (fun _ _ gap before => by simp) "" _ nonempty
    simp [spell, render, inductionHypothesis, marks]
  | grouped _ inductionHypothesis => simp [spell, render, inductionHypothesis]
  | matching _ named pattern => simp [spell, render, spell_column_chars]
  | countRows => simp [spell, render]

/-- An operator is spelled before what stands behind it. -/
theorem operator_spelled {operator : BinaryOperator} {own before count : Nat}
    {behind : List Token} (bound : binds operator = some own)
    (spelled : IsSpelled " " before count behind) :
    IsSpelled " " before count (operator.token :: behind) := by
  cases operator <;> first
    | (cases bound; done)
    | exact .comparison_cons (by simp [comparisons, BinaryOperator.symbol]) spelled
    | exact .word_cons (.inr rfl) (by decide) spelled

/-- A list of candidates in brackets has one parameter for each of them. -/
theorem candidates_spelled {candidates : List Operand} (nonempty : candidates ≠ [])
    (before : Nat) :
    IsSpelled " " before ((candidates.map fun _ => 1).sum)
      (sign " " "(" :: (spellItems (fun gap before _ => [mark gap (before + 1)]) (fun _ => 1) ""
        before candidates ++ [sign "" ")"])) := by
  have marks : IsSpelled "" before ((candidates.map fun _ => 1).sum)
      (spellItems (fun gap before _ => [mark gap (before + 1)]) (fun _ => 1) "" before
        candidates) :=
    spell_items_spelled (.inl rfl) nonempty fun _ _ _ _ blank => .of_mark blank
  exact (marks.append_bracket (by simp [brackets])).bracket_cons (.inr rfl) (by simp [brackets])

/-- The count of the rows is spelled. -/
theorem count_rows_spelled {gap : String} (before : Nat) (blank : gap = "" ∨ gap = " ") :
    IsSpelled gap before 0 (([word gap "COUNT"] ++ [sign "" "("]) ++ ([sign "" "*"] ++
      [sign "" ")"])) := by
  have closed : IsSpelled "" before 0 ([sign "" "*"] ++ [sign "" ")"]) :=
    (IsSpelled.of_bracket (.inl rfl) (by simp [brackets])).append_bracket (by simp [brackets])
  have named : IsSpelled gap before 0 ([word gap "COUNT"] ++ [sign "" "("]) :=
    (IsSpelled.of_word blank (by decide)).append_bracket (by simp [brackets])
  refine named.join closed fun last among head _ => ?_
  cases among
  exact .inr (.inl (by simp [isBracket, sign, brackets]))

/-- They do not run together and have a parameter for each operand, in their order. By induction on
how the expression is written. -/
theorem Written.spelled {level : Nat} {expression : Expression Operand}
    (written : Written level expression) {gap : String} (before : Nat)
    (blank : gap = "" ∨ gap = " ") :
    IsSpelled gap before expression.operands.length (expression.spell gap before) := by
  induction written generalizing gap before with
  | operand value => exact .of_mark blank
  | column named => exact spell_column_spelled blank named
  | isNull _ _ inductionHypothesis =>
    have whole := (inductionHypothesis before blank).append
      (.word_cons (.inr rfl) (by decide : isPlainWord "IS" = true)
        (.of_word (.inr rfl) (by decide : isPlainWord "NULL" = true)))
    simpa [operands, spell] using whole
  | isNotNull _ _ inductionHypothesis =>
    have whole := (inductionHypothesis before blank).append
      (.word_cons (.inr rfl) (by decide : isPlainWord "IS" = true)
        (.word_cons (.inr rfl) (by decide : isPlainWord "NOT" = true)
          (.of_word (.inr rfl) (by decide : isPlainWord "NULL" = true))))
    simpa [operands, spell] using whole
  | @binary _ _ operator left right bound _ _ _ leftHypothesis rightHypothesis =>
    have behind := rightHypothesis (before + left.operands.length) (.inr rfl)
    have whole := (leftHypothesis before blank).append (operator_spelled bound behind)
    simpa [operands, spell] using whole
  | @oneOf _ target candidates _ _ nonempty inductionHypothesis =>
    have opened := candidates_spelled nonempty (before + target.operands.length)
    have whole := (inductionHypothesis before blank).append
      (.word_cons (.inr rfl) (by decide : isPlainWord "IN" = true) opened)
    simpa [operands, spell] using whole
  | grouped _ inductionHypothesis =>
    have closed := (inductionHypothesis before (.inl rfl)).append_bracket
      (by simp [brackets] : ")" ∈ brackets)
    exact .bracket_cons blank (by simp [brackets]) closed
  | matching _ named pattern =>
    have pattern : IsSpelled " " (before + 0) 1 [mark " " (before + 1)] := .of_mark (.inr rfl)
    exact (spell_column_spelled blank named).append (.word_cons (.inr rfl) (by decide) pattern)
  | countRows => exact count_rows_spelled before blank

end Expression

end Spelled

end RecordStore.Sql
