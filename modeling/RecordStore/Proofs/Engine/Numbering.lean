import RecordStore.Proofs.Engine.Steps

/-!
# Numbers that are never given again

A database remembers the largest number that it gave to a row of a relation whose numbers are never
given again. No change makes it forget: whatever the change and its triggers do, the number that is
remembered never gets smaller. The next number is larger than the one that is remembered, and larger
than the last one among the rows.
-/

namespace RecordStore.Engine

open Sql

/-- The greater one of two numbers is the greater one of two integers. -/
theorem to_int_max (left right : Int64) : (max left right).toInt = max left.toInt right.toInt := by
  change (if left ≤ right then right else left).toInt = _
  split
  · rename_i least
    have ordered := Int64.le_iff_toInt_le.mp least
    omega
  · rename_i greater
    have ordered := mt Int64.le_iff_toInt_le.mpr greater
    omega

/-! ### Numbers that are remembered -/

namespace Database

/-- The number that is remembered does not depend on how the name is written. -/
theorem given_number_congr {left right : String} (same : sameName left right = true)
    (database : Database) : database.givenNumber left = database.givenNumber right := by
  unfold givenNumber
  simp only [same_name_congr_right same]

/-- The number that is remembered under a name after one was given. -/
theorem given_number_give_number (database : Database) (name other : String) (number : Int64) :
    (database.giveNumber name number).givenNumber other =
      if sameName name other then max (database.givenNumber name) number
      else database.givenNumber other := by
  have entries : ∀ entry : String × Int64, sameName entry.1 other = true →
      sameName entry.1 name = sameName name other := by
    intro entry found
    rw [same_name_congr found, same_name_comm]
  by_cases known : database.given.any (fun entry => sameName entry.1 name) = true
  · unfold giveNumber
    simp only [known, if_true]
    generalize max (database.givenNumber name) number = largest
    unfold givenNumber
    simp only [List.find?_map]
    have names : ((fun entry : String × Int64 => sameName entry.1 other) ∘ fun entry =>
        if sameName entry.1 name then (entry.1, largest) else entry) =
          fun entry => sameName entry.1 other := by
      funext entry
      by_cases same : sameName entry.1 name = true <;> simp [same]
    rw [names]
    cases found : database.given.find? fun entry => sameName entry.1 other with
    | some entry =>
      have same := entries entry (by simpa using List.find?_some found)
      by_cases here : sameName name other = true <;> simp [same, here]
    | none =>
      obtain ⟨entry, member, same⟩ := List.any_eq_true.mp known
      have different := List.find?_eq_none.mp found entry member
      rw [same_name_congr same] at different
      simp [different]
  · unfold giveNumber
    simp only [known, if_false, Bool.false_eq_true]
    generalize max (database.givenNumber name) number = largest
    unfold givenNumber
    simp only [List.find?_append, List.find?_singleton]
    by_cases here : sameName name other = true
    · have missing : database.given.find? (fun entry => sameName entry.1 other) = none := by
        refine List.find?_eq_none.mpr fun entry member same => known ?_
        exact List.any_eq_true.mpr ⟨entry, member, (entries entry same).trans here⟩
      simp [missing, here]
    · simp [here]

/-- A number that was given is remembered, or a larger one is. -/
theorem le_given_number_give_number (database : Database) (name : String) (number : Int64) :
    number ≤ (database.giveNumber name number).givenNumber name := by
  rw [given_number_give_number, if_pos (same_name_refl name), Int64.le_iff_toInt_le, to_int_max]
  omega

/-- Giving a number makes none that is remembered smaller. -/
theorem given_number_le_give_number (database : Database) (name other : String) (number : Int64) :
    database.givenNumber other ≤ (database.giveNumber name number).givenNumber other := by
  rw [given_number_give_number]
  split
  · rename_i same
    rw [← given_number_congr same, Int64.le_iff_toInt_le, to_int_max]
    omega
  · exact Int64.le_refl _

/-- Of the numbers that a database remembers, another one remembers none smaller. -/
def Remembers (database after : Database) : Prop :=
  ∀ name, database.givenNumber name ≤ after.givenNumber name

/-- A database remembers its own numbers. -/
theorem Remembers.refl (database : Database) : database.Remembers database :=
  fun _ => Int64.le_refl _

/-- What remembers no smaller numbers does so one after the other. -/
theorem Remembers.trans {database middle after : Database} (first : database.Remembers middle)
    (second : middle.Remembers after) : database.Remembers after :=
  fun name => Int64.le_trans (first name) (second name)

/-- No step of a change makes a database remember smaller numbers. -/
theorem kept_by_steps_remembers (base : Database) :
    KeptBySteps (fun _ => True) base.Remembers where
  congr _ _ := trivial
  withRelation _ remembers := remembers
  withFullText _ remembers := remembers
  noteNumber relation row remembers := by
    unfold noteNumber
    split
    · exact remembers.trans (given_number_le_give_number _ relation.name · row.number)
    · exact remembers

/-- No change makes a database forget a number. -/
theorem change_remembers {database : Database} {change : Change Stored} {effect : Effect}
    (done : database.change change = .ok effect) : database.Remembers effect.database :=
  change_keeps (kept_by_steps_remembers database) (fun _ _ _ _ _ _ _ _ _ => trivial) trivial
    (.refl database) done

/-- Neither does what follows a row. -/
theorem follow_remembers (database : Database) (depth : Nat) (running : List String)
    (name : String) : (follow depth running name).Keeps database.Remembers :=
  follow_keeps (kept_by_steps_remembers database) (fun _ _ _ _ _ _ _ _ _ => trivial) depth running
    fun _ _ _ _ _ _ _ => trivial

end Database

/-! ### The next number -/

/-- The next number of a relation whose numbers are never given again is larger than the one that
is remembered, and than that of the last row. -/
theorem next_number_ok {database : Database} {relation : Relation} {number : Int64}
    (again : Database.neverAgain relation = true)
    (made : nextNumber database relation = .ok number) :
    database.givenNumber relation.name < number ∧ relation.lastNumber?.getD 0 < number := by
  unfold nextNumber at made
  simp only [again, if_true, Bool.not_true, Bool.and_false, Bool.false_eq_true, if_false] at made
  split at made
  · cases made
  · rename_i room
    cases made
    have largest := to_int_max (relation.lastNumber?.getD 0) (database.givenNumber relation.name)
    generalize max (relation.lastNumber?.getD 0) (database.givenNumber relation.name) = last at *
    have fits : last.toInt ≠ 2 ^ 63 - 1 := fun full =>
      room (Int64.toInt_inj.mp (full.trans Int64.toInt_maxValue.symm))
    have next : (last + 1).toInt = last.toInt + 1 := by
      have above := last.toInt_lt
      have below := last.le_toInt
      rw [Int64.toInt_add, Int64.toInt_one, Int.bmod_eq_of_le (by omega) (by omega)]
    simp only [Int64.lt_iff_toInt_lt, next]
    omega

end RecordStore.Engine
