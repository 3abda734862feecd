import Mathlib.Data.List.Pairwise
import RecordStore.Engine.Changes
import RecordStore.Proofs.Engine.Relations

/-!
# Rows that stand apart

Two rows stand apart if they stand at different places and share no set of unique columns. The rows
of a relation do so in pairs, and each of them has all values that it must have. Taking rows out
leaves that alone. A row that is put in was made room for: it offends nothing, or the rows that were
in its way have been taken out. Conflicts decide which of the two it is, and never that rows are put
together that do not stand apart.
-/

namespace RecordStore.Engine.Relation

open Sql (Conflict)

variable {relation admitted : Relation} {row left right : Row}

/-- Two rows that a relation can hold beside each other. -/
structure Apart (relation : Relation) (left right : Row) : Prop where
  places : relation.rowOrder left right ≠ .eq
  uniques : ∀ columns ∈ relation.uniques,
    sameKey (relation.project columns left) (relation.project columns right) = false

/-- That two rows can stand beside each other does not depend on their order. -/
theorem Apart.symm (apart : relation.Apart left right) : relation.Apart right left where
  places same := apart.places ((row_order_eq_comm relation right left).mp same)
  uniques columns unique := by
    rw [same_key_comm]
    exact apart.uniques columns unique

/-- Which rows are held does not matter. -/
theorem Apart.among (apart : relation.Apart left right) (rows : List Row) :
    ({ relation with rows } : Relation).Apart left right := ⟨apart.places, apart.uniques⟩

/-- A row that offends nothing has all values that it must have, and stands apart from the rows that
are there. -/
theorem apart_of_fault?_none (admits : relation.fault? row = none) :
    relation.missing? row = none ∧ ∀ other ∈ relation.rows, relation.Apart row other := by
  refine ⟨?_, fun other member => ⟨fun same => ?_, fun columns unique => ?_⟩⟩
  · unfold fault? at admits
    split at admits
    · cases admits
    · assumption
  · exact row_order_of_fault?_none admits member ((row_order_eq_comm relation _ _).mp same)
  · exact same_key_of_fault?_none admits unique member

/-- A key tells rows apart that stand apart, unless it is a set of unique columns with a null in
them. -/
theorem Apart.key_order {key : List String} (apart : relation.Apart left right)
    (keyed : relation.IsKeyedBy key)
    (numbered : ∀ column again, relation.identity = .shown column again →
      relation.value left column = .integer left.number ∧
        relation.value right column = .integer right.number)
    (present : relation.identity = .hidden → relation.HasKey key left) :
    keyOrder (relation.project key left) (relation.project key right) ≠ .eq := by
  rcases keyed with keptBy | ⟨column, again, rfl, shown⟩ | ⟨hidden, unique⟩
  · simpa only [rowOrder, keptBy] using apart.places
  · obtain ⟨leftNumber, rightNumber⟩ := numbered column again shown
    simpa only [rowOrder, shown, project, List.map_cons, List.map_nil,
      Relation.keyOrder, leftNumber, rightNumber, Stored.order, ne_eq, Ordering.then_eq_eq,
      and_true] using apart.places
  · intro same
    have different := apart.uniques key unique
    simp [sameKey, same, (present hidden).any_is_null] at different

/-! ### Relations of such rows -/

/-- A relation whose rows have all values that they must have and stand apart in pairs. -/
structure IsSound (relation : Relation) : Prop where
  complete : ∀ row ∈ relation.rows, relation.missing? row = none
  apart : relation.rows.Pairwise relation.Apart

/-- Fewer rows leave a relation sound. -/
theorem IsSound.fewer (sound : relation.IsSound) {rows : List Row}
    (fewer : rows.Sublist relation.rows) : ({ relation with rows } : Relation).IsSound where
  complete row member := sound.complete row (fewer.subset member)
  apart := (sound.apart.sublist fewer).imp fun apart => apart.among rows

/-- A sound relation stays sound without one of its rows. -/
theorem IsSound.drop (sound : relation.IsSound) (row : Row) : (relation.drop row).IsSound :=
  sound.fewer List.filter_sublist

/-- Of the rows that are there, taking one out leaves all others. -/
theorem IsSound.drop_perm (sound : relation.IsSound) (member : row ∈ relation.rows) :
    relation.rows.Perm (row :: (relation.drop row).rows) := by
  obtain ⟨before, after, split⟩ := List.append_of_mem member
  have apart := sound.apart
  rw [split, List.pairwise_append, List.pairwise_cons] at apart
  obtain ⟨-, ⟨behind, -⟩, ahead⟩ := apart
  have stays : ∀ other ∈ before ++ after, (relation.rowOrder other row != .eq) = true := by
    intro other among
    rw [bne_iff_ne]
    rcases List.mem_append.mp among with earlier | later
    · exact (ahead other earlier row List.mem_cons_self).places
    · exact (behind other later).symm.places
  have left : (relation.drop row).rows = before ++ after := by
    unfold Relation.drop
    simp only [split, List.filter_append, List.filter_cons, row_order_self, bne_self_eq_false,
      Bool.false_eq_true, if_false]
    rw [← List.filter_append, List.filter_eq_self.mpr stays]
  rw [left, split]
  exact List.perm_middle

/-- Rows of a sound relation that stand at one place are one row. -/
theorem IsSound.eq_of_row_order (sound : relation.IsSound) (leftMember : left ∈ relation.rows)
    (rightMember : right ∈ relation.rows) (same : relation.rowOrder left right = .eq) :
    left = right := by
  by_contra different
  have symmetric : Std.Symm relation.Apart := ⟨fun _ _ apart => apart.symm⟩
  exact (sound.apart.forall leftMember rightMember different).places same

/-- Where a row stands, no other row does. -/
theorem IsSound.standing? (sound : relation.IsSound) (member : row ∈ relation.rows) :
    relation.standing? row = some row := by
  have search : (relation.standing? row).isSome = true := by
    rw [Relation.standing?, List.find?_isSome]
    exact ⟨row, member, by simp [row_order_self]⟩
  obtain ⟨found, finds⟩ := Option.isSome_iff_exists.mp search
  have same : relation.rowOrder found row = .eq := by simpa using List.find?_some finds
  rw [finds, sound.eq_of_row_order (mem_of_standing? finds) member same]

/-- A row that has all its values and stands apart from the others leaves a relation sound. -/
theorem IsSound.put (sound : relation.IsSound) (complete : relation.missing? row = none)
    (apart : ∀ other ∈ relation.rows, relation.Apart row other) : (relation.put row).IsSound where
  complete other member := by
    rcases mem_put.mp member with rfl | old
    · exact complete
    · exact sound.complete other old
  apart := by
    have symmetric : ∀ {left right}, relation.Apart left right → relation.Apart right left :=
      fun apart => apart.symm
    have placed : (relation.put row).rows.Pairwise relation.Apart := by
      rw [(relation.put_rows row).pairwise_iff symmetric, List.pairwise_cons]
      exact ⟨apart, sound.apart⟩
    exact placed.imp fun apart => apart.among _

/-! ### Making room -/

/-- Rows that are taken out one after the other. -/
theorem drop_all (relation : Relation) (rivals : List Row) :
    rivals.foldl drop relation = { relation with
      rows := relation.rows.filter fun other =>
        rivals.all fun rival => relation.rowOrder other rival != .eq } := by
  induction rivals generalizing relation with
  | nil => simp
  | cons rival rest inductionHypothesis =>
    have both : ((relation.drop rival).rows.filter fun other =>
        rest.all fun later => relation.rowOrder other later != .eq) =
          relation.rows.filter fun other =>
            (rival :: rest).all fun later => relation.rowOrder other later != .eq := by
      simp only [drop, List.filter_filter, List.all_cons, Bool.and_comm]
    rw [List.foldl_cons, inductionHypothesis, ← both]
    rfl

/-- Taking the rows of a kind out one after the other leaves the rows that are not of the kind. -/
theorem IsSound.drop_filter (sound : relation.IsSound) (goes : Row → Bool) :
    (relation.rows.filter goes).foldl Relation.drop relation =
      { relation with rows := relation.rows.filter fun row => !goes row } := by
  have stays : ∀ other ∈ relation.rows,
      ((relation.rows.filter goes).all fun rival => relation.rowOrder other rival != .eq) =
        !goes other := by
    intro other member
    cases kind : goes other with
    | true =>
      rw [Bool.not_true, List.all_eq_false]
      exact ⟨other, List.mem_filter.mpr ⟨member, kind⟩, by simp⟩
    | false =>
      rw [Bool.not_false, List.all_eq_true]
      intro rival among
      obtain ⟨rivalMember, goesToo⟩ := List.mem_filter.mp among
      rw [bne_iff_ne]
      intro same
      cases sound.eq_of_row_order member rivalMember same
      cases kind.symm.trans goesToo
  rw [drop_all, List.filter_congr stays]

/-- A row is left out only where conflicts are ignored. -/
theorem room_for_none {conflict : Conflict} (room : roomFor relation row conflict = .ok none) :
    conflict = .ignore := by
  unfold roomFor at room
  split at room
  · cases room
  · cases conflict with
    | abort => cases room
    | ignore => rfl
    | replace =>
      simp only at room
      split at room <;> cases room

/-- The rows beside which a row is put in were there before, all of them unless it replaces others,
and it stands apart from them. Proof: a row that is left is no rival, since a rival stands where it
stands itself. -/
theorem room_for_ok {conflict : Conflict} (room :
    roomFor relation row conflict = .ok (some admitted)) :
    ∃ rows, rows.Sublist relation.rows ∧ (conflict ≠ .replace → rows = relation.rows) ∧
      admitted = { relation with rows } ∧ relation.missing? row = none ∧
      ∀ other ∈ rows, relation.Apart row other := by
  unfold roomFor at room
  cases offends : relation.fault? row with
  | none =>
    rw [offends] at room
    cases room
    exact ⟨relation.rows, .refl _, fun _ => rfl, rfl, apart_of_fault?_none offends⟩
  | some fault =>
    rw [offends] at room
    cases conflict with
    | abort => cases room
    | ignore => cases room
    | replace =>
      simp only at room
      split at room
      · cases room
      · rename_i complete
        cases room
        refine ⟨_, List.filter_sublist, fun keeps => absurd rfl keeps, drop_all relation _,
          by simpa using complete, ?_⟩
        intro other member
        obtain ⟨inRelation, kept⟩ := List.mem_filter.mp member
        have noRival : other ∉ relation.rivals row := by
          intro rival
          have elsewhere := List.all_eq_true.mp kept other rival
          simp at elsewhere
        simp only [rivals, List.mem_filter, inRelation, true_and, Bool.or_eq_true, beq_iff_eq,
          List.any_eq_true, not_or, not_exists, not_and, Bool.not_eq_true] at noRival
        exact ⟨fun same => noRival.1 ((row_order_eq_comm relation _ _).mp same), noRival.2⟩

end RecordStore.Engine.Relation
