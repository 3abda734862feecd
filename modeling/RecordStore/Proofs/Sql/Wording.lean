import Mathlib.Data.List.Forall2
import RecordStore.Proofs.Sql.Chains

/-!
# Wordings

A wording of a statement says which parts of its text are words and which are question marks, and
for each question mark the clause that it belongs to and the value that it stands for. If no words
have a question mark in them, the question marks of the text are those of the wording, in the same
order.
-/

namespace RecordStore.Sql

/-- The part of a statement that a question mark belongs to. -/
inductive Clause where
  /-- A column that an insertion fills or an update writes. -/
  | column (name : String)
  /-- An attribute of a partition. -/
  | attribute (column : String)
  /-- An operand of an entry of criteria, by the key of the entry and its place behind the
  column. -/
  | operand (key : String) (place : Nat)
  | term
  | limit
  | offset
  deriving DecidableEq, Repr

/-- A question mark: where it belongs and what it stands for. -/
structure Mark where
  clause : Clause
  value : Stored
  deriving DecidableEq, Repr

/-- A piece of a text. -/
inductive Piece where
  | words (text : String)
  | mark (mark : Mark)
  deriving DecidableEq, Repr

/-- The text of a piece. -/
def Piece.text : Piece → String
  | .words written => written
  | .mark _ => "?"

/-- The question mark of a piece, if it is one. -/
def Piece.mark? : Piece → Option Mark
  | .words _ => none
  | .mark given => some given

/-- The pieces of a text, in order. -/
abbrev Wording := List Piece

/-- A text without a question mark. -/
def IsUnmarked (text : String) : Prop := '?' ∉ text.toList

/-- Whether a text has no question mark can be decided. -/
instance (text : String) : Decidable (IsUnmarked text) := inferInstanceAs (Decidable (¬ _))

/-- Two texts without question marks have none together. -/
theorem IsUnmarked.append {left right : String} (first : IsUnmarked left)
    (second : IsUnmarked right) : IsUnmarked (left ++ right) := by
  unfold IsUnmarked at *
  simp [first, second]

namespace Wording

/-- The text of a wording. -/
def text : Wording → String
  | [] => ""
  | piece :: rest => piece.text ++ text rest

/-- The question marks of a wording. -/
def marks (wording : Wording) : List Mark := wording.filterMap Piece.mark?

/-- Wordings with words between them. -/
def separated (separator : String) : List Wording → Wording
  | [] => []
  | [only] => only
  | first :: second :: rest =>
    first ++ .words separator :: separated separator (second :: rest)

/-- Wordings of conditions that must all hold, as the wording of one condition: nothing for none,
and in parentheses for more than one. -/
def grouped? : List Wording → Option Wording
  | [] => none
  | [only] => some only
  | wordings => some (.words "(" :: separated " AND " wordings ++ [.words ")"])

/-- No words have a question mark in them. -/
def IsPlain (wording : Wording) : Prop := ∀ words, .words words ∈ wording → IsUnmarked words

/-- The text of two wordings is that of one behind that of the other. -/
@[simp] theorem text_append (first second : Wording) :
    text (first ++ second) = text first ++ text second := by
  induction first with
  | nil => simp [text]
  | cons piece rest inductionHypothesis => simp [text, inductionHypothesis, String.append_assoc]

/-- Their question marks are those of one and then those of the other. -/
@[simp] theorem marks_append (first second : Wording) :
    marks (first ++ second) = marks first ++ marks second := List.filterMap_append

/-- Words have no question mark. -/
@[simp] theorem marks_words (words : String) (rest : Wording) :
    marks (.words words :: rest) = marks rest := rfl

/-- A question mark stands before those behind it. -/
@[simp] theorem marks_mark (mark : Mark) (rest : Wording) :
    marks (.mark mark :: rest) = mark :: marks rest := rfl

/-- The text of separated wordings is that of each, with the separator between them. -/
theorem text_separated (separator : String) (wordings : List Wording) :
    text (separated separator wordings) = joined separator (wordings.map text) := by
  induction wordings with
  | nil => rfl
  | cons first rest inductionHypothesis =>
    cases rest with
    | nil => simp [separated, joined]
    | cons second others =>
      simp only [List.map_cons] at inductionHypothesis
      simp [separated, joined, String.intercalate_cons_cons, text, Piece.text,
        inductionHypothesis, String.append_assoc]

/-- Their question marks are those of each, if the separator is of words. -/
theorem marks_separated (separator : String) (wordings : List Wording) :
    marks (separated separator wordings) = wordings.flatMap marks := by
  induction wordings with
  | nil => rfl
  | cons first rest inductionHypothesis =>
    cases rest with
    | nil => simp [separated]
    | cons second others => simp [separated, inductionHypothesis]

/-- Two plain wordings are plain together. -/
theorem IsPlain.append {first second : Wording} (one : IsPlain first) (other : IsPlain second) :
    IsPlain (first ++ second) := by
  intro words member
  rcases List.mem_append.mp member with inside | inside
  · exact one words inside
  · exact other words inside

/-- Plain wordings are plain with plain words between them. -/
theorem IsPlain.separated {separator : String} {wordings : List Wording}
    (unmarked : IsUnmarked separator) (each : ∀ wording ∈ wordings, IsPlain wording) :
    IsPlain (separated separator wordings) := by
  induction wordings with
  | nil => nofun
  | cons first rest inductionHypothesis =>
    have head := each first List.mem_cons_self
    have tail := inductionHypothesis fun wording member => each wording (.tail _ member)
    cases rest with
    | nil => exact head
    | cons second others =>
      refine head.append fun words member => ?_
      rcases List.mem_cons.mp member with same | later
      · cases same
        exact unmarked
      · exact tail words later

/-- The text has as many question marks as the wording. -/
theorem IsPlain.count_text {wording : Wording} (plain : IsPlain wording) :
    (text wording).toList.count '?' = (marks wording).length := by
  induction wording with
  | nil => rfl
  | cons piece rest inductionHypothesis =>
    have tail := inductionHypothesis fun words member => plain words (.tail _ member)
    cases piece with
    | words words =>
      have none : words.toList.count '?' = 0 :=
        List.count_eq_zero.mpr (plain words List.mem_cons_self)
      simp [text, Piece.text, none, tail]
    | mark mark =>
      have one : "?".toList.count '?' = 1 := by decide
      simp only [text, Piece.text, String.toList_append, List.count_append, one, tail, marks_mark,
        List.length_cons]
      exact Nat.add_comm _ _

/-- Where a question mark of a wording stands. -/
theorem exists_mark {wording : Wording} {place : Nat} {mark : Mark}
    (found : (marks wording)[place]? = some mark) :
    ∃ before after, wording = before ++ .mark mark :: after ∧ (marks before).length = place := by
  induction wording generalizing place with
  | nil => cases found
  | cons piece rest inductionHypothesis =>
    cases piece with
    | words words =>
      obtain ⟨before, after, rfl, length⟩ := inductionHypothesis found
      exact ⟨.words words :: before, after, rfl, length⟩
    | mark first =>
      cases place with
      | zero =>
        cases found
        exact ⟨[], rest, rfl, rfl⟩
      | succ place =>
        obtain ⟨before, after, rfl, length⟩ := inductionHypothesis found
        exact ⟨.mark first :: before, after, rfl, congrArg Nat.succ length⟩

end Wording

open Wording

namespace Fragment

/-- A fragment is the text of a wording with the values of its question marks. -/
structure IsWorded (fragment : Fragment) (wording : Wording) : Prop where
  text : fragment.text = Wording.text wording
  operands : fragment.operands = (marks wording).map Mark.value
  plain : IsPlain wording

/-- The question marks of a fragment line up with its operands as a wording says: there are as many
of one as of the other, and each question mark stands in the part of the text that belongs to its
clause, behind as many others as there are operands before its own. -/
structure LinesUp (fragment : Fragment) (wording : Wording) : Prop where
  text : fragment.text = Wording.text wording
  operands : fragment.operands = (marks wording).map Mark.value
  counts : fragment.text.toList.count '?' = fragment.operands.length
  stands : ∀ place mark, (marks wording)[place]? = some mark →
    ∃ before after, wording = before ++ .mark mark :: after ∧
      fragment.text = Wording.text before ++ "?" ++ Wording.text after ∧
      (Wording.text before).toList.count '?' = place ∧
      fragment.operands[place]? = some mark.value

namespace IsWorded

variable {fragment other : Fragment} {wording further : Wording}

/-- The question marks of a fragment with a wording line up with its operands. -/
theorem lines_up (worded : fragment.IsWorded wording) : fragment.LinesUp wording where
  text := worded.text
  operands := worded.operands
  counts := by
    rw [worded.text, worded.plain.count_text, worded.operands, List.length_map]
  stands place mark found := by
    obtain ⟨before, after, rfl, length⟩ := exists_mark found
    have plain : IsPlain before := fun words member =>
      worded.plain words (List.mem_append_left _ member)
    refine ⟨before, after, rfl, ?_, plain.count_text.trans length, ?_⟩
    · rw [worded.text, text_append, String.append_assoc]
      rfl
    · rw [worded.operands, List.getElem?_map, found]
      rfl

/-- A text without question marks has the wording of its words. -/
theorem words {text : String} (unmarked : IsUnmarked text) :
    IsWorded ⟨text, []⟩ [.words text] where
  text := by simp [Wording.text, Piece.text]
  operands := rfl
  plain words member := by
    cases List.mem_singleton.mp member
    exact unmarked

/-- A single question mark has the wording of its value. -/
theorem mark (clause : Clause) (value : Stored) :
    IsWorded ⟨"?", [value]⟩ [.mark ⟨clause, value⟩] where
  text := by simp [Wording.text, Piece.text]
  operands := rfl
  plain words member := by cases List.mem_singleton.mp member

/-- Fragments one behind the other have their wordings one behind the other. -/
theorem append (first : fragment.IsWorded wording) (second : other.IsWorded further) :
    IsWorded ⟨fragment.text ++ other.text, fragment.operands ++ other.operands⟩
      (wording ++ further) where
  text := by rw [text_append, first.text, second.text]
  operands := by rw [marks_append, List.map_append, first.operands, second.operands]
  plain := first.plain.append second.plain

/-- Fragments with a separator between them. -/
theorem separated {separator : String} {fragments : List Fragment} {wordings : List Wording}
    (unmarked : IsUnmarked separator) (each : List.Forall₂ IsWorded fragments wordings) :
    IsWorded ⟨joined separator (fragments.map Fragment.text), fragments.flatMap Fragment.operands⟩
      (Wording.separated separator wordings) where
  text := by
    have texts : fragments.map Fragment.text = wordings.map Wording.text := by
      induction each with
      | nil => rfl
      | cons head _ inductionHypothesis =>
        rw [List.map_cons, List.map_cons, head.text, inductionHypothesis]
    rw [text_separated, texts]
  operands := by
    have operands : fragments.flatMap Fragment.operands =
        (wordings.flatMap marks).map Mark.value := by
      induction each with
      | nil => rfl
      | cons head _ inductionHypothesis =>
        rw [List.flatMap_cons, List.flatMap_cons, List.map_append, head.operands,
          inductionHypothesis]
    rw [marks_separated, ← operands]
  plain := .separated unmarked fun wording member => by
    induction each with
    | nil => cases member
    | cons head _ inductionHypothesis =>
      rcases List.mem_cons.mp member with rfl | later
      · exact head.plain
      · exact inductionHypothesis later

/-- The conditions of a clause. -/
theorem chain {conditions : List (Expression Stored)} {wordings : List Wording}
    (each : List.Forall₂ (fun condition wording => condition.fragment.IsWorded wording) conditions
      wordings) :
    IsWorded ⟨renderConditions conditions, conditions.flatMap Expression.operands⟩
      (Wording.separated " AND " wordings) := by
  have all := separated (by decide : IsUnmarked " AND ") (List.forall₂_map_left_iff.mpr each)
  rw [List.map_map, List.flatMap_map] at all
  exact all

/-- Conditions that must all hold, as one condition. -/
theorem conjunction? {conditions : List (Expression Stored)} {wordings : List Wording}
    (each : List.Forall₂ (fun condition wording => condition.fragment.IsWorded wording) conditions
      wordings) :
    Option.Rel (fun whole wording => whole.fragment.IsWorded wording)
      (Expression.conjunction? conditions) (grouped? wordings) := by
  match conditions, wordings, each with
  | [], [], _ => exact .none
  | [_], [_], .cons only .nil => exact .some only
  | first :: second :: rest, _ :: _ :: _, each =>
    have whole := ((words (by decide : IsUnmarked "(")).append (chain each)).append
      (words (by decide : IsUnmarked ")"))
    refine .some ⟨?_, ?_, whole.plain⟩
    · refine Eq.trans ?_ whole.text
      change "(" ++ (Expression.chain first (second :: rest)).render ++ ")" = _
      rw [Expression.render_chain]
    · refine Eq.trans ?_ whole.operands
      change (Expression.chain first (second :: rest)).operands = _
      rw [Expression.operands_chain, List.append_nil, List.nil_append]

end IsWorded

end Fragment

end RecordStore.Sql
