import Mathlib.Data.List.Pairwise
import RecordStore.Engine.Definitions
import RecordStore.Proofs.Engine.Attributes

/-!
# Names with prefixes and suffixes

The engine compares names letter by letter, whatever their case. So names under one prefix, or with
one suffix, are the same exactly if they are the same without it, and names are told apart by the
last letters of their suffixes or by their lengths. What is derived from a name in these ways is
thereby told apart from the name and from whatever is derived in another way.
-/

namespace RecordStore.Engine

/-- The letters by which the engine compares names. -/
def letters (name : String) : List Char := name.toList.map Char.toLower

/-- The engine does not tell names apart exactly if they have the same letters. -/
theorem same_name_iff {left right : String} :
    sameName left right = true ↔ letters left = letters right := by
  unfold sameName letters
  rw [beq_iff_eq, ← String.toList_inj, String.toList_map, String.toList_map]

/-- The letters of two names together are those of one behind those of the other. -/
theorem letters_append (left right : String) :
    letters (left ++ right) = letters left ++ letters right := by
  simp [letters]

/-- Names of different lengths are told apart. -/
theorem apart_of_length {left right : String} (differs : left.toList.length ≠ right.toList.length) :
    sameName left right = false := by
  by_contra same
  have lengths := congrArg List.length (same_name_iff.mp (by simpa using same))
  exact differs (by simpa [letters] using lengths)

/-- Behind one prefix names are the same exactly if they are without it. -/
@[simp] theorem same_name_prefixed (start left right : String) :
    sameName (start ++ left) (start ++ right) = sameName left right := by
  rw [Bool.eq_iff_iff, same_name_iff, same_name_iff, letters_append, letters_append,
    List.append_cancel_left_eq]

/-- Before one suffix names are the same exactly if they are without it. -/
@[simp] theorem same_name_suffixed (left right suffix : String) :
    sameName (left ++ suffix) (right ++ suffix) = sameName left right := by
  rw [Bool.eq_iff_iff, same_name_iff, same_name_iff, letters_append, letters_append,
    List.append_cancel_right_eq]

/-- A name with something behind it is another name. -/
theorem same_name_suffix_self {name suffix : String} (nonempty : suffix.toList ≠ []) :
    sameName name (name ++ suffix) = false := by
  refine apart_of_length ?_
  have positive := List.length_pos_iff.mpr nonempty
  rw [String.toList_append, List.length_append]
  omega

/-- A name with something before it is another name. -/
theorem same_name_prefix_self {name start : String} (nonempty : start.toList ≠ []) :
    sameName name (start ++ name) = false := by
  refine apart_of_length ?_
  have positive := List.length_pos_iff.mpr nonempty
  rw [String.toList_append, List.length_append]
  omega

/-! ### Suffixes with endings of their own -/

/-- Suffixes of which no two end with the same letter. -/
def EndApart (suffixes : List String) : Prop :=
  (∀ suffix ∈ suffixes, letters suffix ≠ []) ∧
    suffixes.Pairwise fun left right => (letters left).getLast? ≠ (letters right).getLast?

/-- Whether suffixes end apart can be decided. -/
instance (suffixes : List String) : Decidable (EndApart suffixes) :=
  inferInstanceAs (Decidable (_ ∧ _))

/-- A name with such a suffix is the same as another one exactly if both its parts are. -/
theorem EndApart.same_name {suffixes : List String} (ends : EndApart suffixes)
    {left right first second : String} (firstMember : first ∈ suffixes)
    (secondMember : second ∈ suffixes) :
    sameName (left ++ first) (right ++ second) = true ↔
      first = second ∧ sameName left right = true := by
  constructor
  · intro same
    have equal : first = second := by
      by_contra different
      have last := congrArg List.getLast? (same_name_iff.mp same)
      rw [letters_append, letters_append, List.getLast?_append, List.getLast?_append] at last
      have symmetric : Std.Symm fun left right : String =>
          (letters left).getLast? ≠ (letters right).getLast? := ⟨fun _ _ => Ne.symm⟩
      have distinct := ends.2.forall firstMember secondMember different
      cases firstLast : (letters first).getLast? with
      | none => exact ends.1 first firstMember (List.getLast?_eq_none_iff.mp firstLast)
      | some letter =>
        cases secondLast : (letters second).getLast? with
        | none => exact ends.1 second secondMember (List.getLast?_eq_none_iff.mp secondLast)
        | some other =>
          rw [firstLast, secondLast] at last distinct
          exact distinct last
    subst equal
    exact ⟨rfl, by rwa [same_name_suffixed] at same⟩
  · rintro ⟨rfl, same⟩
    rwa [same_name_suffixed]

/-- One name with different suffixes gives names that are told apart. -/
theorem EndApart.told_apart {suffixes : List String} (ends : EndApart suffixes) (name : String) :
    ToldApart (suffixes.map (name ++ ·)) := by
  refine List.pairwise_map.mpr (ends.2.imp_of_mem fun {left right} leftMember rightMember differs =>
    ?_)
  by_contra same
  have equal := ((ends.same_name leftMember rightMember).mp (eq_true_of_ne_false same)).1
  exact differs (by rw [equal])

/-! ### Parts of full-text tables -/

/-- What the names of the parts of a full-text table end with. -/
def partSuffixes : List String := ["_data", "_idx", "_content", "_docsize", "_config"]

/-- The parts of a full-text table are named by its name and a suffix. -/
theorem part_names_eq (name : String) : FullTextTable.partNames name =
    partSuffixes.map (name ++ ·) :=
  rfl

/-- No two of these suffixes end with the same letter. -/
theorem part_suffixes_end_apart : EndApart partSuffixes := by decide +kernel

/-- A name of a part is the name of the table with one of the suffixes. -/
theorem mem_part_names {name part : String} :
    part ∈ FullTextTable.partNames name ↔ ∃ suffix ∈ partSuffixes, part = name ++ suffix := by
  rw [part_names_eq, List.mem_map]
  exact exists_congr fun suffix => and_congr_right fun _ => eq_comm

/-- No part has the name of its full-text table. -/
theorem same_name_part_self (name : String) {suffix : String} (member : suffix ∈ partSuffixes) :
    sameName name (name ++ suffix) = false := by
  have nonempty : ∀ suffix ∈ partSuffixes, suffix.toList ≠ [] := by decide
  exact same_name_suffix_self (nonempty suffix member)

/-! ### Names that the engine keeps for itself -/

/-- The engine keeps the names for itself that start with `sqlite_`, in whichever case. -/
theorem is_internal_name_iff {name : String} :
    isInternalName name = true ↔ "sqlite_".toList <+: letters name := by
  unfold isInternalName letters
  rw [String.toList_map, List.isPrefixOf_iff_prefix]

/-- Whether a name is kept does not depend on how it is written. -/
theorem is_internal_name_congr {left right : String} (same : sameName left right = true) :
    isInternalName left = isInternalName right := by
  rw [Bool.eq_iff_iff, is_internal_name_iff, is_internal_name_iff, same_name_iff.mp same]

/-- The table in which numbers are remembered has such a name. -/
theorem is_internal_name_sequence : isInternalName sequenceName = true := by decide +kernel

/-- The engine keeps no name for itself that starts like that of a full-text table. -/
theorem is_internal_name_shadow (name : String) : isInternalName ("fts_" ++ name) = false := by
  by_contra internal
  have start := is_internal_name_iff.mp (by simpa using internal)
  rw [letters_append] at start
  have letter : ('s' : Char) = 'f' := by
    have here : "sqlite_".toList = ['s', 'q', 'l', 'i', 't', 'e', '_'] := by decide
    have there : letters "fts_" = ['f', 't', 's', '_'] := by decide
    rw [here, there] at start
    exact (List.cons_prefix_cons.mp start).1
  exact absurd letter (by decide)

end RecordStore.Engine
