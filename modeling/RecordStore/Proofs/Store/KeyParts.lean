import RecordStore.Proofs.Schema.Names
import RecordStore.Proofs.Store.OverwrittenRows

/-!
# The parts of a key

A key of several columns is given in parts, each under the name of its column. A part is looked up
by that name, so the parts may stand in any order as long as no column has two of them; of two parts
for one column the first one counts, and the other is passed over. A key of one column can be given
as its value alone, and a key of several columns cannot.
-/

namespace RecordStore

open Engine Sql

/-! ### Looking up a part -/

/-- Parts of different columns are looked up alike in any order. -/
theorem find?_part_perm {left right : List (String × Value)} (perm : left.Perm right)
    (distinct : (left.map Prod.fst).Nodup) (column : String) :
    (left.find? fun part => part.1 == column) = right.find? fun part => part.1 == column := by
  have distinctToo : (right.map Prod.fst).Nodup := (perm.map Prod.fst).nodup distinct
  refine Option.ext fun part => ?_
  rw [find?_entry_iff distinct, find?_entry_iff distinctToo, perm.mem_iff]

/-! ### Keys that are accepted -/

namespace Key

/-- A key from which criteria for a table can be made. -/
def IsAccepted (key : Key) (table : Table) : Prop := ∃ criteria, key.criteria table = .ok criteria

/-- One part for each key column and no other part. -/
structure NamesKeyOnce (parts : List (String × Value)) (table : Table) : Prop where
  once : ∀ column ∈ table.primaryKey, (parts.map Prod.fst).count column = 1
  only : ∀ part ∈ parts, part.1 ∈ table.primaryKey

variable {table : Table}

/-- The criteria of a key in parts whose columns are all key columns. -/
theorem criteria_composite {parts : List (String × Value)} (keyed : table.primaryKey ≠ [])
    (only : ∀ part ∈ parts, part.1 ∈ table.primaryKey) :
    (composite parts).criteria table =
      table.primaryKey.foldlM (Criteria.withPart parts) Criteria.empty := by
  have some : table.primaryKey.isEmpty = false := by simpa using keyed
  have known : (parts.find? fun part => !table.primaryKey.contains part.1) = none := by
    rw [List.find?_eq_none]
    intro part member
    simpa using only part member
  simp only [criteria, some, known, Bool.false_eq_true, if_false]
  rfl

/-- The parts become criteria if there is one for each column. -/
theorem with_parts_ok {parts : List (String × Value)} {columns : List String}
    (named : ∀ column ∈ columns, ∃ part ∈ parts, part.1 = column) (before : Criteria) :
    ∃ criteria, columns.foldlM (Criteria.withPart parts) before = .ok criteria := by
  induction columns generalizing before with
  | nil => exact ⟨before, rfl⟩
  | cons column rest inductionHypothesis =>
    obtain ⟨part, -, -, found⟩ := exists_find?_entry (named column List.mem_cons_self)
    have step : Criteria.withPart parts before column = .ok (before.equals column part.2) := by
      rw [Criteria.withPart, found]
    rw [List.foldlM_cons, step]
    exact inductionHypothesis (fun other later => named other (.tail _ later)) _

/-- A key in parts is accepted exactly if each key column has a part and each part has a key
column. -/
theorem is_accepted_composite {parts : List (String × Value)} (keyed : table.primaryKey ≠ []) :
    (composite parts).IsAccepted table ↔
      (∀ column ∈ table.primaryKey, ∃ part ∈ parts, part.1 = column) ∧
        ∀ part ∈ parts, part.1 ∈ table.primaryKey := by
  constructor
  · rintro ⟨made, accepts⟩
    have only : ∀ part ∈ parts, part.1 ∈ table.primaryKey := by
      by_contra foreign
      have search : (parts.find? fun part => !table.primaryKey.contains part.1).isSome = true := by
        rw [List.find?_isSome]
        simpa using foreign
      obtain ⟨part, found⟩ := Option.isSome_iff_exists.mp search
      have some : table.primaryKey.isEmpty = false := by simpa using keyed
      simp only [criteria, some, found, Bool.false_eq_true, if_false] at accepts
      cases accepts
    rw [criteria_composite keyed only] at accepts
    refine ⟨fun column inKey => ?_, only⟩
    have found := Criteria.with_parts_named accepts column inKey
    exact ⟨_, List.mem_of_find?_eq_some found, rfl⟩
  · rintro ⟨named, only⟩
    rw [IsAccepted, criteria_composite keyed only]
    exact with_parts_ok named _

/-- For parts of different columns these are one part for each key column and no other part. -/
theorem is_accepted_iff_names_key_once {parts : List (String × Value)}
    (keyed : table.primaryKey ≠ []) (distinct : (parts.map Prod.fst).Nodup) :
    (composite parts).IsAccepted table ↔ NamesKeyOnce parts table := by
  rw [is_accepted_composite keyed]
  constructor
  · rintro ⟨named, only⟩
    refine ⟨fun column inKey => ?_, only⟩
    obtain ⟨part, member, rfl⟩ := named column inKey
    exact List.count_eq_one_of_mem distinct (List.mem_map_of_mem member)
  · rintro ⟨once, only⟩
    refine ⟨fun column inKey => ?_, only⟩
    have among : column ∈ parts.map Prod.fst := by
      rw [← List.count_pos_iff, once column inKey]
      exact Nat.one_pos
    exact List.mem_map.mp among

/-- Parts that are looked up alike make the same criteria. -/
theorem criteria_congr {left right : List (String × Value)} (keyed : table.primaryKey ≠ [])
    (onlyLeft : ∀ part ∈ left, part.1 ∈ table.primaryKey)
    (onlyRight : ∀ part ∈ right, part.1 ∈ table.primaryKey)
    (alike : ∀ column, (left.find? fun part => part.1 == column) =
      right.find? fun part => part.1 == column) :
    (composite left).criteria table = (composite right).criteria table := by
  have same : Criteria.withPart left = Criteria.withPart right := by
    funext criteria column
    simp only [Criteria.withPart, alike column]
  rw [criteria_composite keyed onlyLeft, criteria_composite keyed onlyRight, same]

/-- A value alone is refused exactly for a key of several columns. -/
theorem is_accepted_single (value : Value) (keyed : table.primaryKey ≠ []) :
    ¬ (single value).IsAccepted table ↔ 1 < table.primaryKey.length := by
  have some : table.primaryKey.isEmpty = false := by simpa using keyed
  match columns : table.primaryKey with
  | [] => exact absurd columns keyed
  | [column] =>
    have accepted : (single value).IsAccepted table := by
      refine ⟨Criteria.empty.equals column value, ?_⟩
      simp [criteria, columns]
    simpa using accepted
  | first :: second :: rest =>
    have refused : ¬ (single value).IsAccepted table := by
      rintro ⟨made, accepts⟩
      simp [criteria, columns] at accepts
    simpa using refused

/-! ### Statements of a key -/

/-- The statement that removes the row of a key. -/
def removal (key : Key) (table : Table) : Except StoreError (Change Stored) := do
  let criteria ← key.criteria table
  let condition ← criteria.condition table "remove"
  return table.deletion condition

/-- The query for the row of a key. -/
def finding (key : Key) (table : Table) : Except StoreError (Select Stored) := do
  let criteria ← key.criteria table
  Request.findingOne table criteria

/-- The statements of an accepted key can be made. -/
theorem IsAccepted.compiles {key : Key} (accepts : key.IsAccepted table)
    (faultless : table.fault? = none) :
    (∃ change, key.removal table = .ok change) ∧ ∃ query, key.finding table = .ok query := by
  obtain ⟨made, criteria⟩ := accepts
  obtain ⟨distinct, known⟩ := Table.primary_key_plain (Table.is_admitted_of_fault? faultless)
    (Table.column_names_nodup faultless)
  obtain ⟨keyed, rfl⟩ := Key.criteria_ok distinct criteria
  obtain ⟨⟨conditions, stated⟩, -⟩ := Criteria.equating_compiles key.value keyed known
  obtain ⟨condition, compiled⟩ := Criteria.condition_of_stated stated "remove"
  constructor
  · refine ⟨table.deletion condition, ?_⟩
    simp only [removal, criteria, bind, Except.bind, compiled]
    rfl
  · refine ⟨table.firstQuery (Expression.conjunction? conditions), ?_⟩
    simp only [finding, criteria, bind, Except.bind, Request.finding_one_ok stated]

end Key

section Calls

variable {model : Model} {handle : Handle model} {left right : Key}

/-- Outcomes one after the other are operations one after the other. -/
theorem Operation.of_except_bind {α β : Type} (first : Except StoreError α)
    (next : α → Except StoreError β) :
    ofExcept (first >>= next) = ofExcept first >>= fun found => ofExcept (next found) := by
  cases first <;> rfl

/-- Removing runs the statement of the key. -/
theorem Operation.remove_eq (handle : Handle model) (key : Key) :
    remove handle key =
      ofExcept (key.removal handle.table) >>= fun change => executing (.change change) := by
  simp only [remove, Key.removal, of_except_bind, bind_assoc]
  rfl

/-- Finding runs the query of the key. -/
theorem Operation.find_one_eq (handle : Handle model) (key : Key) :
    findOne handle key = ofExcept (key.finding handle.table) >>= fun query =>
      fetching handle.table query >>= fun found => pure found.head? := by
  simp only [findOne, Key.finding, of_except_bind, bind_assoc]

/-- Two keys mean the same: they are removed by the same statement with the same operands and found
by the same query with the same operands, or refused alike, and so the calls are the same. -/
structure Key.ReadAlike (handle : Handle model) (left right : Key) : Prop where
  removal : left.removal handle.table = right.removal handle.table
  finding : left.finding handle.table = right.finding handle.table
  remove : Operation.remove handle left = Operation.remove handle right
  findOne : Operation.findOne handle left = Operation.findOne handle right

/-- Keys with the same criteria mean the same. -/
theorem Key.read_alike_of_criteria
    (same : left.criteria handle.table = right.criteria handle.table) :
    Key.ReadAlike handle left right := by
  have removal : left.removal handle.table = right.removal handle.table := by
    rw [Key.removal, Key.removal, same]
  have finding : left.finding handle.table = right.finding handle.table := by
    rw [Key.finding, Key.finding, same]
  refine ⟨removal, finding, ?_, ?_⟩
  · rw [Operation.remove_eq, Operation.remove_eq, removal]
  · rw [Operation.find_one_eq, Operation.find_one_eq, finding]

end Calls

/-- Keys are read by the names of their parts. For every table with a key: a key in parts is
accepted exactly if each key column has a part and each part has a key column, which for parts of
different columns is one part for each key column and no other part; accepted parts of different
columns mean the same in any order; on a key of one column its part and its value alone mean the
same; and a value alone is refused exactly for a key of several columns. For a table without faults
the statements of an accepted key can be made.

Proof: the criteria of a key are built from the key columns, each with its part, so they depend on
which part is found for a column. Parts of different columns are found in any order. -/
theorem keys_are_read_in_any_order {model : Model} (handle : Handle model)
    (keyed : handle.table.primaryKey ≠ []) :
    (∀ parts, (Key.composite parts).IsAccepted handle.table ↔
      (∀ column ∈ handle.table.primaryKey, ∃ part ∈ parts, part.1 = column) ∧
        ∀ part ∈ parts, part.1 ∈ handle.table.primaryKey) ∧
    (∀ parts, (parts.map Prod.fst).Nodup →
      ((Key.composite parts).IsAccepted handle.table ↔ Key.NamesKeyOnce parts handle.table)) ∧
    (∀ left right, (Key.composite left).IsAccepted handle.table → left.Perm right →
      (left.map Prod.fst).Nodup → Key.ReadAlike handle (.composite left) (.composite right)) ∧
    (∀ column value, handle.table.primaryKey = [column] →
      Key.ReadAlike handle (.composite [(column, value)]) (.single value)) ∧
    (∀ value, ¬ (Key.single value).IsAccepted handle.table ↔
      1 < handle.table.primaryKey.length) ∧
    (handle.table.fault? = none → ∀ key : Key, key.IsAccepted handle.table →
      (∃ change, key.removal handle.table = .ok change) ∧
        ∃ query, key.finding handle.table = .ok query) := by
  refine ⟨fun parts => Key.is_accepted_composite keyed,
    fun parts distinct => Key.is_accepted_iff_names_key_once keyed distinct, ?_, ?_,
    fun value => Key.is_accepted_single value keyed,
    fun faultless key accepts => accepts.compiles faultless⟩
  · intro left right accepts perm distinct
    have only := ((Key.is_accepted_composite keyed).mp accepts).2
    refine Key.read_alike_of_criteria (Key.criteria_congr keyed only ?_ ?_)
    · exact fun part member => only part (perm.mem_iff.mpr member)
    · exact find?_part_perm perm distinct
  · intro column value alone
    refine Key.read_alike_of_criteria ?_
    rw [Key.criteria_composite keyed (by simp [alone])]
    simp [Key.criteria, alone, Criteria.withPart]

/-! ### A club -/

namespace Club

/-- The town of a member. -/
def town : Column := { name := "town", type := .string, primaryKey := true }

/-- The number of the member there. -/
def number : Column := { name := "number", type := .integer, primaryKey := true }

/-- The members of a club with their towns and numbers. -/
def model : Model := ⟨"member", [⟨.text, town⟩, ⟨.integer, number⟩]⟩

/-- The handle of the members. -/
def handle : Handle model := ⟨model.table, rfl⟩

/-- The first member in a town, by the number first. -/
def parts : List (String × Value) := [("number", .integer 1), ("town", .text "Ulm")]

/-- A member of two towns. -/
def moved : List (String × Value) :=
  [("town", .text "Ulm"), ("town", .text "Bonn"), ("number", .integer 1)]

/-- The same with the towns the other way round. -/
def movedBack : List (String × Value) :=
  [("town", .text "Bonn"), ("town", .text "Ulm"), ("number", .integer 1)]

end Club

open Club in
/-- A member is found by town and number as by number and town, and not by the number alone. -/
theorem members_are_read_in_any_order :
    handle.table.primaryKey ≠ [] ∧ (Key.composite parts).IsAccepted handle.table ∧
      Key.NamesKeyOnce parts handle.table ∧
      Key.ReadAlike handle (.composite parts) (.composite parts.reverse) ∧
      (∃ change, (Key.composite parts).removal handle.table = .ok change) ∧
      ¬ (Key.single (.integer 1)).IsAccepted handle.table := by
  have keyed : handle.table.primaryKey ≠ [] := by decide
  have distinct : (parts.map Prod.fst).Nodup := by decide
  obtain ⟨accepts, once, order, -, alone, compiles⟩ := keys_are_read_in_any_order handle keyed
  have accepted : (Key.composite parts).IsAccepted handle.table := (accepts parts).mpr (by decide)
  exact ⟨keyed, accepted, (once parts distinct).mp accepted,
    order parts parts.reverse accepted (List.reverse_perm parts).symm distinct,
    (compiles (by decide +kernel) _ accepted).1, (alone (.integer 1)).mpr (by decide)⟩

open Club in
/-- A key that names a column twice is accepted, although it has two parts for one key column, and
in another order it means another row. -/
theorem member_of_two_towns_is_accepted :
    (Key.composite moved).IsAccepted handle.table ∧ ¬ Key.NamesKeyOnce moved handle.table ∧
      moved.Perm movedBack ∧
      ¬ Key.ReadAlike handle (.composite moved) (.composite movedBack) := by
  refine ⟨(Key.is_accepted_composite (by decide)).mpr (by decide), ?_, ?_, ?_⟩
  · rintro ⟨once, -⟩
    exact absurd (once "town" (by decide)) (by decide)
  · exact .swap _ _ _
  · intro alike
    have operands : ((Key.composite moved).removal handle.table).toOption.map Change.operands ≠
        ((Key.composite movedBack).removal handle.table).toOption.map Change.operands := by
      decide +kernel
    exact operands (by rw [alike.removal])

end RecordStore
