import RecordStore.Proofs.Engine.Definitions
import RecordStore.Proofs.Engine.Namesakes

/-!
# Names that are taken

A database lists the names of its tables and of its triggers. A new object can come beside them if
its names are free. What is made on such a condition, and refused with a fault about a name
otherwise, can be made step by step: all steps are made exactly if the conditions of all of them
hold.
-/

namespace RecordStore

open Engine

/-- Whether a fault is about a name that is taken or cannot be used. -/
def Fault.isNaming : Fault → Bool
  | .reservedName _ | .tableExists _ | .duplicateColumn _ | .reservedFullTextColumn _
  | .partExists _ | .constructorFailed _ => true
  | _ => false

namespace Engine

/-! ### Results that hang on a condition -/

/-- A database that is reached exactly on a condition, with a fault about names otherwise. -/
inductive IsMadeIf (condition : Prop) (Reached : Database → Prop) :
    Except Fault Database → Prop where
  | made {after : Database} (holds : condition) (reached : Reached after) :
      IsMadeIf condition Reached (.ok after)
  | refused {fault : Fault} (fails : ¬ condition) (naming : fault.isNaming = true) :
      IsMadeIf condition Reached (.error fault)

namespace IsMadeIf

variable {condition further other : Prop} {Reached Final : Database → Prop}
  {result : Except Fault Database}

/-- What is made on a condition is made on every condition that is the same, with what follows from
it. -/
theorem imp (made : IsMadeIf condition Reached result) (same : condition ↔ other)
    (final : ∀ after, condition → Reached after → Final after) : IsMadeIf other Final result := by
  cases made with
  | made holds reached => exact .made (same.mp holds) (final _ holds reached)
  | refused fails naming => exact .refused (mt same.mpr fails) naming

/-- One step after the other is made if the conditions of both hold. -/
theorem bind {next : Database → Except Fault Database} (first : IsMadeIf condition Reached result)
    (second : ∀ middle, condition → Reached middle → IsMadeIf further Final (next middle)) :
    IsMadeIf (condition ∧ further) Final (result >>= next) := by
  cases first with
  | made holds reached =>
    exact (second _ holds reached).imp (and_iff_right holds).symm fun _ _ final => final
  | refused fails naming => exact .refused (fun both => fails both.1) naming

end IsMadeIf

/-! ### Names that a database lists -/

/-- Whether a name is told apart from all that are taken. -/
def IsFree (names : List String) (name : String) : Prop :=
  ∀ taken ∈ names, sameName name taken = false

/-- A name is free exactly if it is none of the names that are taken. -/
theorem is_free_iff {names : List String} {name : String} :
    IsFree names name ↔ names.any (sameName name) = false := by
  simp [IsFree]

/-- A name is free among two lists exactly if it is free among each. -/
theorem is_free_append {names others : List String} {name : String} :
    IsFree (names ++ others) name ↔ IsFree names name ∧ IsFree others name := by
  simp only [IsFree, List.forall_mem_append]

/-- Two lists are told apart exactly if each of them is, and no name of one is taken in the
other. -/
theorem told_apart_append {names others : List String} :
    ToldApart (names ++ others) ↔
      ToldApart names ∧ ToldApart others ∧ ∀ name ∈ others, IsFree names name := by
  unfold ToldApart IsFree
  rw [List.pairwise_append]
  refine and_congr_right fun _ => and_congr_right fun _ => ?_
  constructor
  · intro apart name member taken among
    rw [same_name_comm]
    exact apart taken among name member
  · intro apart taken among name member
    rw [same_name_comm]
    exact apart name member taken among

/-- A database that has tables of these names, and triggers of those. What the engine keeps for
itself is left out. -/
structure Database.Lists (names triggers : List String) (database : Database) : Prop where
  tables : ∀ name, isInternalName name = false →
    database.hasTable name = names.any (sameName name)
  triggers : ∀ name, (database.trigger? name).isSome = triggers.any (sameName name)

namespace Database

variable {database : Database} {names triggers : List String}

/-- A database without objects has no names. -/
theorem lists_of_empty (empty : database.objects = []) : database.Lists [] [] := by
  constructor
  · intro name _
    simp [hasTable, empty]
  · intro name
    simp [trigger?, empty]

/-- With one more object the tables are those that were there and those of the object. -/
theorem has_table_push_eq (database : Database) (object : Object) (name : String) :
    (database.push object).hasTable name =
      (database.hasTable name || object.tableNames.any (sameName name)) := by
  simp [hasTable, push]

/-- No other object changes which trigger is found. -/
theorem trigger?_push_other {object : Object} (other : ∀ trigger, object ≠ .trigger trigger)
    (database : Database) (name : String) :
    (database.push object).trigger? name = database.trigger? name := by
  unfold trigger? push
  rw [List.findSome?_append]
  cases object with
  | trigger trigger => exact absurd rfl (other trigger)
  | _ => simp

/-- With one more trigger the triggers are those that were there and that one. -/
theorem trigger?_push_trigger (database : Database) (trigger : Trigger) (name : String) :
    ((database.push (.trigger trigger)).trigger? name).isSome =
      ((database.trigger? name).isSome || sameName name trigger.name) := by
  unfold trigger? push
  rw [List.findSome?_append, Option.isSome_or, same_name_comm name]
  by_cases same : sameName trigger.name name = true <;> simp [same]

namespace Lists

/-- A plain name is free among those that a database lists exactly if no table has it. -/
theorem is_free_iff (lists : database.Lists names triggers) {name : String}
    (plain : isInternalName name = false) :
    IsFree names name ↔ database.hasTable name = false := by
  rw [lists.tables name plain, Engine.is_free_iff]

/-- An object that is no trigger adds the names that it takes from tables. -/
theorem push_table (lists : database.Lists names triggers) (object : Object)
    (other : ∀ trigger, object ≠ .trigger trigger) :
    (database.push object).Lists (names ++ object.tableNames) triggers where
  tables name plain := by rw [has_table_push_eq, lists.tables name plain, List.any_append]
  triggers name := by rw [trigger?_push_other other, lists.triggers]

/-- The table of given numbers has a name that the engine keeps for itself. -/
theorem push_sequence (lists : database.Lists names triggers) :
    (database.push .sequence).Lists names triggers where
  tables name plain := by
    have other : sameName name sequenceName = false := by
      by_contra same
      have internal := is_internal_name_congr (eq_true_of_ne_false same)
      rw [plain, is_internal_name_sequence] at internal
      cases internal
    simp [has_table_push_eq, lists.tables name plain, Object.tableNames, other]
  triggers name := by
    rw [trigger?_push_other (fun _ same => by cases same), lists.triggers]

/-- A database to which a trigger is added lists its name with the others. -/
theorem push_trigger (lists : database.Lists names triggers) (trigger : Trigger) :
    (database.push (.trigger trigger)).Lists names (triggers ++ [trigger.name]) where
  tables name plain := by
    rw [has_table_push_eq, lists.tables name plain]
    simp [Object.tableNames]
  triggers name := by
    rw [trigger?_push_trigger, lists.triggers]
    simp

end Lists

end Database

/-- The engine finds no duplicate exactly if the names are told apart. -/
theorem has_duplicate_iff {names : List String} : hasDuplicate names = false ↔ ToldApart names := by
  induction names with
  | nil => simp [hasDuplicate, ToldApart]
  | cons name rest inductionHypothesis =>
    unfold ToldApart at inductionHypothesis ⊢
    rw [List.pairwise_cons, ← inductionHypothesis, hasDuplicate, Bool.or_eq_false_iff]
    exact and_congr_left' (by simp)

end Engine

end RecordStore
