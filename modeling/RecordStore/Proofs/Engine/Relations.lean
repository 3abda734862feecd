import RecordStore.Proofs.Engine.Attributes
import RecordStore.Proofs.Value.Affinity
import RecordStore.Proofs.Value.Order

/-!
# Rows of a relation

Putting a row in adds it and nothing else; taking a row out leaves the rows that stand
elsewhere. A row that fits its relation has a value for each attribute, each of them settled
in its column, and shows its number where the relation has a column for it.

A key tells the rows of a relation apart when two rows have the same key exactly where they
stand at the same place. A relation that is kept by its key, or whose key shows the numbers of
the rows, has no other choice. In any other relation the key is a set of unique columns, and
it tells rows apart as long as none of them is null.
-/

namespace RecordStore.Engine.Relation

variable {relation : Relation}

/-! ### Putting in and taking out -/

/-- Placing a row among others adds it. -/
theorem place_perm (relation : Relation) (row : Row) (rows : List Row) :
    (relation.place row rows).Perm (row :: rows) := by
  induction rows with
  | nil => exact .refl _
  | cons next rest inductionHypothesis =>
    unfold place
    split
    · exact .refl _
    · exact (inductionHypothesis.cons next).trans (.swap row next rest)

/-- A row that is put in comes to the rows that were there. -/
theorem put_rows (relation : Relation) (row : Row) :
    (relation.put row).rows.Perm (row :: relation.rows) :=
  relation.place_perm row relation.rows

/-- After it was put in the rows are that row and those that were there. -/
theorem mem_put {row other : Row} : other ∈ (relation.put row).rows ↔
    other = row ∨ other ∈ relation.rows := by
  rw [(relation.put_rows row).mem_iff, List.mem_cons]

/-- After a row was taken out the rows are those that stand elsewhere. -/
theorem mem_drop {row other : Row} : other ∈ (relation.drop row).rows ↔
    other ∈ relation.rows ∧ relation.rowOrder other row ≠ .eq := by
  simp [drop]

/-- A row stands where it stands. -/
@[simp] theorem row_order_self (relation : Relation) (row : Row) :
    relation.rowOrder row row = .eq := by
  unfold rowOrder
  split
  · exact key_order_self _
  · exact Std.ReflCmp.compare_self

/-- That two rows stand at the same place does not depend on their order. -/
theorem row_order_eq_comm (relation : Relation) (left right : Row) :
    relation.rowOrder left right = .eq ↔ relation.rowOrder right left = .eq := by
  unfold rowOrder
  split
  · exact key_order_eq_comm _ _
  · exact ⟨Std.OrientedCmp.eq_symm, Std.OrientedCmp.eq_symm⟩

/-- The row that stands at a place is one of the rows. -/
theorem mem_of_standing? {row found : Row} (standing : relation.standing? row = some found) :
    found ∈ relation.rows := List.mem_of_find?_eq_some standing

/-- A row that offends nothing stands where no other row stands. -/
theorem row_order_of_fault?_none {row other : Row} (admitted : relation.fault? row = none)
    (member : other ∈ relation.rows) : relation.rowOrder other row ≠ .eq := by
  unfold fault? at admitted
  split at admitted
  · cases admitted
  · split at admitted
    · cases admitted
    · rename_i free
      intro same
      refine free ?_
      unfold standing?
      rw [List.find?_isSome]
      exact ⟨other, member, by simp [same]⟩

/-- A row that offends nothing shares no set of unique columns with another row. -/
theorem same_key_of_fault?_none {row other : Row} {columns : List String}
    (admitted : relation.fault? row = none) (unique : columns ∈ relation.uniques)
    (member : other ∈ relation.rows) :
    sameKey (relation.project columns row) (relation.project columns other) = false := by
  unfold fault? at admitted
  split at admitted
  · cases admitted
  · split at admitted
    · cases admitted
    · split at admitted
      · cases admitted
      · rename_i none
        have apart := List.find?_eq_none.mp none columns unique
        unfold sharing? at apart
        simp only [List.find?_isSome, not_exists, not_and, Bool.not_eq_true] at apart
        exact apart other member

/-! ### Rows that fit -/

/-- A value for each attribute, each settled in its column, and the number where a column shows
it. -/
structure Fits (relation : Relation) (row : Row) : Prop where
  settled : List.Forall₂ (fun attr value => attr.affinity.Settled value) relation.attributes
    row.values
  numbered : ∀ column neverAgain, relation.identity = .shown column neverAgain →
    relation.value row column = .integer row.number

/-- A row that fits has a value for each attribute. -/
theorem Fits.lengths {row : Row} (fits : relation.Fits row) :
    row.values.length = relation.attributes.length := fits.settled.length_eq.symm

/-- What stands under a name is settled in the attribute that the name means. -/
theorem settled_value_in {attributes : List Attribute} {values : List Stored} {name : String}
    {attr : Attribute}
    (settled : List.Forall₂ (fun attr value => attr.affinity.Settled value) attributes values)
    (means : meant? attributes name = some attr) :
    attr.affinity.Settled (valueIn attributes values name) := by
  induction settled with
  | nil => cases means
  | @cons first value attrs values settles rest inductionHypothesis =>
    by_cases same : sameName first.name name = true
    · obtain rfl : first = attr := by simpa [meant?, same] using means
      simpa [valueIn, same] using settles
    · simp only [meant?, List.find?_cons, same] at means
      simpa [valueIn, same] using inductionHypothesis means

/-! ### Keys that tell rows apart -/

/-- Two rows have the same key exactly where they stand at the same place. -/
def KeyTells (relation : Relation) (key : List String) (rows : List Row) : Prop :=
  ∀ left ∈ rows, ∀ right ∈ rows,
    relation.rowOrder left right = .eq ↔
      keyOrder (relation.project key left) (relation.project key right) = .eq

/-- How the key of a table tells the rows of its relation apart. -/
def IsKeyedBy (relation : Relation) (key : List String) : Prop :=
  relation.identity = .keyed key ∨
    (∃ column neverAgain, key = [column] ∧ relation.identity = .shown column neverAgain) ∨
    (relation.identity = .hidden ∧ key ∈ relation.uniques)

/-- A key that tells rows apart tells fewer of them apart. -/
theorem KeyTells.subset {key : List String} {rows fewer : List Row}
    (tells : relation.KeyTells key rows) (included : fewer ⊆ rows) :
    relation.KeyTells key fewer :=
  fun left leftMember right rightMember =>
    tells left (included leftMember) right (included rightMember)

/-- A key that keeps the rows or shows their numbers tells rows apart. -/
theorem key_tells_of_identity {key : List String} {rows : List Row}
    (keyed : relation.identity = .keyed key ∨
      ∃ column neverAgain, key = [column] ∧ relation.identity = .shown column neverAgain)
    (fit : ∀ row ∈ rows, relation.Fits row) : relation.KeyTells key rows := by
  intro left leftMember right rightMember
  rcases keyed with keptBy | ⟨column, neverAgain, rfl, shown⟩
  · simp only [rowOrder, keptBy]
  · have leftNumber := (fit left leftMember).numbered column neverAgain shown
    have rightNumber := (fit right rightMember).numbered column neverAgain shown
    simp only [rowOrder, shown, project, List.map_cons, List.map_nil, keyOrder, leftNumber,
      rightNumber, Stored.order, Ordering.then_eq_eq, and_true]

/-- No column of a key is null. -/
def HasKey (relation : Relation) (key : List String) (row : Row) : Prop :=
  ∀ column ∈ key, (relation.value row column).isNull = false

/-- Where a row has a key none of the values of the key is null. -/
theorem HasKey.any_is_null {key : List String} {row : Row} (present : relation.HasKey key row) :
    (relation.project key row).any Stored.isNull = false := by
  simp only [project, List.any_map, List.any_eq_false, Function.comp_apply]
  intro column member
  simp [present column member]

/-- The key of a relation still tells its rows apart after a row was put in that offends
nothing. -/
theorem key_tells_put {key : List String} {row : Row} (keyed : relation.IsKeyedBy key)
    (fit : ∀ other ∈ relation.rows, relation.Fits other) (fits : relation.Fits row)
    (present : relation.HasKey key row) (admitted : relation.fault? row = none)
    (tells : relation.KeyTells key relation.rows) :
    relation.KeyTells key (relation.put row).rows := by
  rcases keyed with keptBy | shown | ⟨hidden, unique⟩
  · refine key_tells_of_identity (.inl keptBy) fun other member => ?_
    rcases mem_put.mp member with rfl | old
    · exact fits
    · exact fit other old
  · refine key_tells_of_identity (.inr shown) fun other member => ?_
    rcases mem_put.mp member with rfl | old
    · exact fits
    · exact fit other old
  · have apart : ∀ other ∈ relation.rows,
        relation.rowOrder other row ≠ .eq ∧
          keyOrder (relation.project key row) (relation.project key other) ≠ .eq := by
      intro other member
      refine ⟨row_order_of_fault?_none admitted member, fun same => ?_⟩
      have different := same_key_of_fault?_none admitted unique member
      simp [sameKey, same, present.any_is_null] at different
    intro left leftMember right rightMember
    rcases mem_put.mp leftMember with rfl | leftOld
    · rcases mem_put.mp rightMember with rfl | rightOld
      · simp
      · obtain ⟨elsewhere, otherKey⟩ := apart right rightOld
        rw [row_order_eq_comm]
        exact ⟨fun same => absurd same elsewhere, fun same => absurd same otherKey⟩
    · rcases mem_put.mp rightMember with rfl | rightOld
      · obtain ⟨elsewhere, otherKey⟩ := apart left leftOld
        rw [key_order_eq_comm]
        exact ⟨fun same => absurd same elsewhere, fun same => absurd same otherKey⟩
      · exact tells left leftOld right rightOld

end RecordStore.Engine.Relation
