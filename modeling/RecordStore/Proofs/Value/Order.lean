import RecordStore.Engine.Relation

/-!
# The order of stored values

Numbers stand on one line, whether they are stored as integers or as reals; texts and blobs
have orders of their own, and the storage class comes first. The order is total: it can be
turned around and it is transitive, though two different values can be equal in it.
-/

namespace RecordStore

open Std

namespace Stored

/-- Where a number stands on the line on which reals are counted. -/
def position : Stored → Int
  | .integer value => value.toInt * Binary64.unitsInOne
  | .real value => value.position
  | _ => 0

/-- Scaling both sides leaves how integers compare. -/
theorem compare_scaled (left right scale : Int) (positive : 0 < scale) :
    compare left right = compare (left * scale) (right * scale) := by
  have less : left < right ↔ left * scale < right * scale :=
    (Int.mul_lt_mul_right positive).symm
  have equal : left = right ↔ left * scale = right * scale :=
    (Int.mul_eq_mul_right_iff (Int.ne_of_gt positive)).symm
  simp only [compare, compareOfLessAndEq, less, equal]

/-- There are units in one. -/
theorem units_in_one_positive : (0 : Int) < Binary64.unitsInOne := by
  rw [Binary64.unitsInOne, Nat.one_shiftLeft]
  exact Int.natCast_pos.mpr (Nat.two_pow_pos 1074)

/-- Numbers are ordered by where they stand. -/
theorem order_of_numbers {left right : Stored} (leftNumber : left.classRank = 1)
    (rightNumber : right.classRank = 1) :
    left.order right = compare left.position right.position := by
  cases left with
  | integer left =>
    cases right with
    | integer right => exact compare_scaled left.toInt right.toInt _ units_in_one_positive
    | real right => rfl
    | _ => cases rightNumber
  | real left =>
    cases right with
    | integer right =>
      exact OrientedCmp.eq_swap.symm
    | real right => rfl
    | _ => cases rightNumber
  | _ => cases leftNumber

/-- Values of different classes are ordered by their classes. -/
theorem order_of_classes {left right : Stored} (different : left.classRank ≠ right.classRank) :
    left.order right = compare left.classRank right.classRank := by
  cases left <;> cases right <;> first | rfl | exact absurd rfl different

/-- Only null is in the first class. -/
theorem eq_null_of_class {value : Stored} (inClass : value.classRank = 0) : value = .null := by
  cases value <;> first | rfl | cases inClass

/-- Only texts are in the class of texts. -/
theorem eq_text_of_class {value : Stored} (inClass : value.classRank = 2) :
    ∃ text, value = .text text := by
  cases value <;> first | exact ⟨_, rfl⟩ | cases inClass

/-- Only blobs are in the class of blobs. -/
theorem eq_blob_of_class {value : Stored} (inClass : value.classRank = 3) :
    ∃ bytes, value = .blob bytes := by
  cases value <;> first | exact ⟨_, rfl⟩ | cases inClass

/-- The classes that tell their values apart in ways of their own. -/
theorem class_cases (value : Stored) :
    value.classRank = 0 ∨ value.classRank = 1 ∨ value.classRank = 2 ∨ value.classRank = 3 := by
  cases value <;> simp [classRank]

/-- The order of stored values turns around with its sides. -/
theorem order_swap (left right : Stored) : left.order right = (right.order left).swap := by
  by_cases same : left.classRank = right.classRank
  · rcases class_cases left with null | number | text | blob
    · have rightNull : right = .null := eq_null_of_class (same ▸ null)
      rw [eq_null_of_class null, rightNull]
      rfl
    · rw [order_of_numbers number (same ▸ number), order_of_numbers (same ▸ number) number]
      exact OrientedCmp.eq_swap
    · obtain ⟨leftText, rfl⟩ := eq_text_of_class text
      obtain ⟨rightText, rfl⟩ := eq_text_of_class (same ▸ text)
      change compare leftText rightText = (compare rightText leftText).swap
      exact OrientedCmp.eq_swap
    · obtain ⟨leftBytes, rfl⟩ := eq_blob_of_class blob
      obtain ⟨rightBytes, rfl⟩ := eq_blob_of_class (same ▸ blob)
      change compare leftBytes rightBytes = (compare rightBytes leftBytes).swap
      exact OrientedCmp.eq_swap
  · rw [order_of_classes same, order_of_classes (Ne.symm same)]
    exact OrientedCmp.eq_swap

/-- What is at most another value is so in its class. -/
theorem class_rank_le_of_order {left right : Stored} (isLE : (left.order right).isLE = true) :
    left.classRank ≤ right.classRank := by
  by_cases same : left.classRank = right.classRank
  · exact Nat.le_of_eq same
  · rw [order_of_classes same] at isLE
    exact Nat.isLE_compare.mp isLE

/-- The order of stored values is transitive. Proof: by the classes, and inside of a class by its
own order. -/
theorem order_trans {first second third : Stored} (left : (first.order second).isLE = true)
    (right : (second.order third).isLE = true) : (first.order third).isLE = true := by
  have below := class_rank_le_of_order left
  have above := class_rank_le_of_order right
  by_cases same : first.classRank = third.classRank
  · have middle : first.classRank = second.classRank := by omega
    have last : first.classRank = third.classRank := same
    rcases class_cases first with null | number | text | blob
    · have thirdNull : third = .null := eq_null_of_class (last ▸ null)
      rw [eq_null_of_class null, thirdNull]
      rfl
    · rw [order_of_numbers number (middle ▸ number)] at left
      rw [order_of_numbers (middle ▸ number) (last ▸ number)] at right
      rw [order_of_numbers number (last ▸ number)]
      exact TransCmp.isLE_trans left right
    · obtain ⟨firstText, rfl⟩ := eq_text_of_class text
      obtain ⟨secondText, rfl⟩ := eq_text_of_class (middle ▸ text)
      obtain ⟨thirdText, rfl⟩ := eq_text_of_class (last ▸ text)
      change (compare firstText secondText).isLE = true at left
      change (compare secondText thirdText).isLE = true at right
      change (compare firstText thirdText).isLE = true
      exact TransCmp.isLE_trans left right
    · obtain ⟨firstBytes, rfl⟩ := eq_blob_of_class blob
      obtain ⟨secondBytes, rfl⟩ := eq_blob_of_class (middle ▸ blob)
      obtain ⟨thirdBytes, rfl⟩ := eq_blob_of_class (last ▸ blob)
      change (compare firstBytes secondBytes).isLE = true at left
      change (compare secondBytes thirdBytes).isLE = true at right
      change (compare firstBytes thirdBytes).isLE = true
      exact TransCmp.isLE_trans left right
  · rw [order_of_classes same]
    exact Nat.isLE_compare.mpr (by omega)

/-- Stored values are ordered both ways alike. -/
instance : OrientedCmp order := ⟨order_swap _ _⟩

/-- The order of stored values is transitive. -/
instance : TransCmp order := ⟨order_trans⟩

/-- Every value equals itself in the order, a not-a-number too. -/
@[simp] theorem order_self (value : Stored) : value.order value = .eq := ReflCmp.compare_self

/-- A value that equals a null in the order is null. -/
theorem is_null_of_order {left right : Stored} (same : left.order right = .eq) :
    left.isNull = right.isNull := by
  cases left <;> cases right <;> first | rfl | cases same

end Stored

namespace Engine.Relation

/-! ### The order of keys -/

/-- A key stands at its own place. -/
@[simp] theorem key_order_self (key : List Stored) : keyOrder key key = .eq := by
  induction key with
  | nil => rfl
  | cons value rest inductionHypothesis => simp [keyOrder, inductionHypothesis]

/-- The order of keys turns around with its sides. -/
theorem key_order_swap (left right : List Stored) :
    keyOrder left right = (keyOrder right left).swap := by
  induction left generalizing right with
  | nil => cases right <;> rfl
  | cons value rest inductionHypothesis =>
    cases right with
    | nil => rfl
    | cons other others =>
      simp only [keyOrder, Ordering.swap_then, ← inductionHypothesis, ← Stored.order_swap]

/-- That two keys stand at the same place does not depend on their order. -/
theorem key_order_eq_comm (left right : List Stored) :
    keyOrder left right = .eq ↔ keyOrder right left = .eq := by
  rw [key_order_swap left right]
  cases keyOrder right left <;> simp

/-- Of two keys that are equal in the order, both have a null or none has. -/
theorem any_is_null_of_key_order {left right : List Stored} (same : keyOrder left right = .eq) :
    left.any Stored.isNull = right.any Stored.isNull := by
  induction left generalizing right with
  | nil =>
    cases right with
    | nil => rfl
    | cons other others => cases same
  | cons value rest inductionHypothesis =>
    cases right with
    | nil => cases same
    | cons other others =>
      obtain ⟨first, later⟩ := Ordering.then_eq_eq.mp same
      rw [List.any_cons, List.any_cons, Stored.is_null_of_order first, inductionHypothesis later]

/-- Nor does whether two keys are the same. -/
theorem same_key_comm (left right : List Stored) : sameKey left right = sameKey right left := by
  unfold sameKey
  by_cases same : keyOrder left right = .eq
  · rw [any_is_null_of_key_order same, same, (key_order_eq_comm left right).mp same]
  · have back : keyOrder right left ≠ .eq := fun turned => same ((key_order_eq_comm _ _).mpr turned)
    rw [beq_eq_false_iff_ne.mpr same, beq_eq_false_iff_ne.mpr back, Bool.and_false, Bool.and_false]

/-- Keys of the same columns are equal exactly when they are equal column by column. -/
theorem key_order_map_eq {Item : Type} (left right : Item → Stored) (items : List Item) :
    keyOrder (items.map left) (items.map right) = .eq ↔
      ∀ item ∈ items, (left item).order (right item) = .eq := by
  induction items with
  | nil => simp
  | cons item rest inductionHypothesis =>
    simp [keyOrder, Ordering.then_eq_eq, inductionHypothesis]

end Engine.Relation

end RecordStore
