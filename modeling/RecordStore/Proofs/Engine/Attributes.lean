import Mathlib.Data.List.Forall2
import Mathlib.Tactic.ByContra
import RecordStore.Engine.Changes

/-!
# Names and values

A value belongs to an attribute by its place, and a name means the first attribute that the
engine does not tell apart from it. Reading, replacing and arranging values by names
therefore agree with their places as long as the names are told apart.
-/

namespace RecordStore.Engine

/-! ### Names that are told apart -/

/-- Every name is its own. -/
@[simp] theorem same_name_refl (name : String) : sameName name name = true := by
  simp [sameName]

/-- Comparing names does not depend on their order. -/
theorem same_name_comm (left right : String) : sameName left right = sameName right left := by
  simp [sameName, Bool.beq_comm]

/-- Names that are the same as a third one are the same. -/
theorem same_name_trans {first second third : String} (left : sameName first second = true)
    (right : sameName second third = true) : sameName first third = true := by
  simp only [sameName, beq_iff_eq] at *
  exact left.trans right

/-- A name that is the same as another one is the same as exactly what the other is. -/
theorem same_name_congr {left right : String} (same : sameName left right = true)
    (name : String) : sameName left name = sameName right name := by
  simp only [sameName, beq_iff_eq] at *
  rw [same]

/-- Names that are the same are the same as the same names. -/
theorem same_name_congr_right {left right : String} (same : sameName left right = true)
    (name : String) : sameName name left = sameName name right := by
  rw [same_name_comm name, same_name_comm name, same_name_congr same]

/-- Attributes whose names the engine tells apart. -/
def ToldApart (names : List String) : Prop :=
  names.Pairwise fun left right => sameName left right = false

/-- Names that the engine tells apart are different letter by letter. -/
theorem ToldApart.nodup {names : List String} (apart : ToldApart names) : names.Nodup :=
  apart.imp fun different same => by simp [same] at different

/-- Under names that are told apart, a name of the list is the same as no other one. -/
theorem ToldApart.eq_of_same {names : List String} (apart : ToldApart names)
    {left right : String} (leftMember : left ∈ names) (rightMember : right ∈ names)
    (same : sameName left right = true) : left = right := by
  induction names with
  | nil => cases leftMember
  | cons name rest inductionHypothesis =>
    obtain ⟨first, later⟩ := List.pairwise_cons.mp apart
    rcases List.mem_cons.mp leftMember with rfl | leftLater
    · rcases List.mem_cons.mp rightMember with rfl | rightLater
      · rfl
      · simp [first right rightLater] at same
    · rcases List.mem_cons.mp rightMember with rfl | rightLater
      · rw [same_name_comm] at same
        simp [first left leftLater] at same
      · exact inductionHypothesis later leftLater rightLater

namespace Relation

/-! ### Reading a value -/

/-- What is read depends on the name only as far as the engine tells names apart. -/
theorem value_in_congr {left right : String} (same : sameName left right = true)
    (attributes : List Attribute) (values : List Stored) :
    valueIn attributes values left = valueIn attributes values right := by
  induction attributes generalizing values with
  | nil => cases values <;> rfl
  | cons attr attrs inductionHypothesis =>
    cases values with
    | nil => rfl
    | cons value values =>
      simp only [valueIn, same_name_congr_right same, inductionHypothesis]

/-- Values that were read by name are read again under the same names. -/
theorem value_in_map (read : String → Stored)
    (congr : ∀ left right, sameName left right = true → read left = read right)
    {attributes : List Attribute} {name : String}
    (named : name ∈ attributes.map Attribute.name) :
    valueIn attributes ((attributes.map Attribute.name).map read) name = read name := by
  induction attributes with
  | nil => cases named
  | cons attr rest inductionHypothesis =>
    by_cases same : sameName attr.name name = true
    · simp [valueIn, same, congr attr.name name same]
    · have later : name ∈ rest.map Attribute.name := by
        rcases List.mem_cons.mp named with rfl | later
        · exact absurd (same_name_refl _) same
        · exact later
      simp only [List.map_cons, valueIn, same, if_false, Bool.false_eq_true]
      exact inductionHypothesis later

/-- The attribute that a name means: the first one that the engine does not tell apart from
it. -/
def meant? (attributes : List Attribute) (name : String) : Option Attribute :=
  attributes.find? fun attr => sameName attr.name name

/-- The name of an attribute means an attribute. -/
theorem meant?_is_some {attributes : List Attribute} {name : String}
    (named : name ∈ attributes.map Attribute.name) :
    ∃ attr, meant? attributes name = some attr := by
  obtain ⟨attr, member, rfl⟩ := List.mem_map.mp named
  refine Option.isSome_iff_exists.mp ?_
  unfold meant?
  rw [List.find?_isSome]
  exact ⟨attr, member, same_name_refl attr.name⟩

/-- Where names are told apart, the name of an attribute means the attribute. -/
theorem meant?_of_mem {attributes : List Attribute}
    (apart : ToldApart (attributes.map Attribute.name)) {attr : Attribute}
    (member : attr ∈ attributes) : meant? attributes attr.name = some attr := by
  induction attributes with
  | nil => cases member
  | cons first rest inductionHypothesis =>
    obtain ⟨here, later⟩ := List.pairwise_cons.mp apart
    rcases List.mem_cons.mp member with rfl | behind
    · simp [meant?]
    · have other := here attr.name (List.mem_map_of_mem behind)
      simp only [meant?, List.find?_cons, other]
      exact inductionHypothesis later behind

/-- Names that are the same mean the same attribute. -/
theorem meant?_congr {left right : String} (same : sameName left right = true)
    (attributes : List Attribute) : meant? attributes left = meant? attributes right := by
  unfold meant?
  simp only [same_name_congr_right same]

/-- A name stands for the value of the attribute that it means, with its affinity. -/
theorem among_eq {name : String} {attributes : List Attribute} {values : List Stored}
    {attr : Attribute} (lengths : values.length = attributes.length)
    (means : meant? attributes name = some attr) :
    Binding.among name attributes values =
      some (some attr.affinity, valueIn attributes values name) := by
  induction attributes generalizing values with
  | nil => cases means
  | cons first rest inductionHypothesis =>
    cases values with
    | nil => cases lengths
    | cons value values =>
      by_cases same : sameName first.name name = true
      · obtain rfl : first = attr := by simpa [meant?, same] using means
        simp [Binding.among, valueIn, same]
      · simp only [meant?, List.find?_cons, same] at means
        simp only [Binding.among, valueIn, same, if_false, Bool.false_eq_true]
        exact inductionHypothesis (by simpa using lengths) means

/-! ### Replacing a value -/

/-- Putting a value under a name leaves the number of values. -/
@[simp] theorem replace_in_length (attributes : List Attribute) (values : List Stored)
    (name : String) (value : Stored) :
    (replaceIn attributes values name value).length = values.length := by
  induction attributes generalizing values with
  | nil => cases values <;> rfl
  | cons attr attrs inductionHypothesis =>
    cases values with
    | nil => rfl
    | cons old values =>
      by_cases same : sameName attr.name name = true
      · simp [replaceIn, same]
      · simp [replaceIn, same, inductionHypothesis]

/-- A value stays where another name is replaced. -/
theorem value_in_replace_in_of_ne {name other : String} (different : sameName name other = false)
    (attributes : List Attribute) (values : List Stored) (value : Stored) :
    valueIn attributes (replaceIn attributes values name value) other =
      valueIn attributes values other := by
  induction attributes generalizing values with
  | nil => cases values <;> rfl
  | cons attr attrs inductionHypothesis =>
    cases values with
    | nil => rfl
    | cons old values =>
      by_cases same : sameName attr.name name = true
      · have apart : sameName attr.name other = false := by
          rw [same_name_congr same]
          exact different
        simp [replaceIn, valueIn, same, apart]
      · simp [replaceIn, valueIn, same, inductionHypothesis]

/-- The value under a name after it was replaced. -/
theorem value_in_replace_in_self (name : String) (attributes : List Attribute)
    (values : List Stored) (value : Stored) (lengths : values.length = attributes.length)
    {attr : Attribute} (means : meant? attributes name = some attr) :
    valueIn attributes (replaceIn attributes values name value) name = value := by
  induction attributes generalizing values with
  | nil => cases means
  | cons first rest inductionHypothesis =>
    cases values with
    | nil => cases lengths
    | cons old values =>
      by_cases same : sameName first.name name = true
      · simp [replaceIn, valueIn, same]
      · simp only [meant?, List.find?_cons, same] at means
        simp only [replaceIn, valueIn, same, Bool.false_eq_true, if_false]
        exact inductionHypothesis values (by simpa using lengths) means

/-- Values that each suit their attribute still do after one of them was replaced by a value
that suits every attribute. -/
theorem replace_in_suits {Suits : Attribute → Stored → Prop} {value : Stored}
    (always : ∀ attr, Suits attr value) (name : String) {attributes : List Attribute}
    {values : List Stored} (suit : List.Forall₂ Suits attributes values) :
    List.Forall₂ Suits attributes (replaceIn attributes values name value) := by
  induction suit with
  | nil => exact .nil
  | @cons attr old attrs values suits rest inductionHypothesis =>
    by_cases same : sameName attr.name name = true
    · simpa [replaceIn, same] using ⟨always attr, rest⟩
    · simpa [replaceIn, same] using ⟨suits, inductionHypothesis⟩

/-! ### Storing values -/

/-- A row that conforms to attributes has as many values as there are attributes. -/
@[simp] theorem conform_length (attributes : List Attribute) (values : List Stored)
    (lengths : values.length = attributes.length) :
    (conform attributes values).length = attributes.length := by
  induction attributes generalizing values with
  | nil => rfl
  | cons attr attrs inductionHypothesis =>
    cases values with
    | nil => cases lengths
    | cons value values =>
      simp [conform, inductionHypothesis values (by simpa using lengths)]

/-- Stored values suit their attributes, if whatever an attribute stores suits it. -/
theorem conform_suits {Suits : Attribute → Stored → Prop}
    (stores : ∀ attr value, Suits attr (attr.affinity.store value))
    (attributes : List Attribute) (values : List Stored)
    (lengths : values.length = attributes.length) :
    List.Forall₂ Suits attributes (conform attributes values) := by
  induction attributes generalizing values with
  | nil => exact .nil
  | cons attr attrs inductionHypothesis =>
    cases values with
    | nil => cases lengths
    | cons value values =>
      exact .cons (stores attr value) (inductionHypothesis values (by simpa using lengths))

/-- What is stored under a name is what an affinity makes of the value under that name, and
nothing where there is none. -/
theorem value_in_conform (attributes : List Attribute) (values : List Stored) (name : String) :
    ∃ affinity : Affinity, valueIn attributes (conform attributes values) name =
      affinity.store (valueIn attributes values name) := by
  induction attributes generalizing values with
  | nil => exact ⟨.blob, by cases values <;> rfl⟩
  | cons attr attrs inductionHypothesis =>
    cases values with
    | nil => exact ⟨.blob, rfl⟩
    | cons value values =>
      by_cases same : sameName attr.name name = true
      · exact ⟨attr.affinity, by simp [conform, valueIn, same]⟩
      · obtain ⟨affinity, stored⟩ := inductionHypothesis values
        exact ⟨affinity, by simp [conform, valueIn, same, stored]⟩

end Relation

/-! ### Arranging values -/

/-- Replacing under names leaves the head alone when none of them means it. -/
theorem replace_all_cons (attr : Attribute) (attrs : List Attribute) (value : Stored)
    (values : List Stored) (entries : List (String × Stored))
    (apart : ∀ entry ∈ entries, sameName attr.name entry.1 = false) :
    entries.foldl (fun row entry => Relation.replaceIn (attr :: attrs) row entry.1 entry.2)
        (value :: values) =
      value :: entries.foldl (fun row entry => Relation.replaceIn attrs row entry.1 entry.2)
        values := by
  induction entries generalizing values with
  | nil => rfl
  | cons entry rest inductionHypothesis =>
    have different := apart entry List.mem_cons_self
    have step : Relation.replaceIn (attr :: attrs) (value :: values) entry.1 entry.2 =
        value :: Relation.replaceIn attrs values entry.1 entry.2 := by
      simp [Relation.replaceIn, different]
    simp only [List.foldl_cons, step]
    exact inductionHypothesis _ fun other member => apart other (List.mem_cons_of_mem entry member)

/-- Values that are given under all names of the attributes, in their order, become the row. -/
theorem arranged_all (attributes : List Attribute) (values : List Stored)
    (apart : ToldApart (attributes.map Attribute.name))
    (lengths : values.length = attributes.length) :
    arranged attributes (some (attributes.map Attribute.name)) values = values := by
  unfold arranged
  induction attributes generalizing values with
  | nil => simpa [eq_comm] using lengths
  | cons attr attrs inductionHypothesis =>
    cases values with
    | nil => cases lengths
    | cons value values =>
      obtain ⟨first, rest⟩ := List.pairwise_cons.mp apart
      have step : Relation.replaceIn (attr :: attrs)
          (attr.defaultValue :: attrs.map Attribute.defaultValue) attr.name value =
          value :: attrs.map Attribute.defaultValue := by
        simp [Relation.replaceIn]
      simp only [List.map_cons, List.zip_cons_cons, List.foldl_cons, step]
      rw [replace_all_cons]
      · exact congrArg _ (inductionHypothesis values rest (by simpa using lengths))
      · intro entry member
        exact first entry.1 (List.of_mem_zip member).1

/-- Putting values under names, one after the other, leaves the number of values. -/
theorem replace_all_length (attributes : List Attribute) (entries : List (String × Stored))
    (values : List Stored) :
    (entries.foldl (fun row entry => Relation.replaceIn attributes row entry.1 entry.2)
      values).length = values.length := by
  induction entries generalizing values with
  | nil => rfl
  | cons entry rest inductionHypothesis => simp [inductionHypothesis]

/-- Values under names fill a whole row. -/
theorem arranged_length (attributes : List Attribute) (columns : List String)
    (values : List Stored) :
    (arranged attributes (some columns) values).length = attributes.length := by
  simp [arranged, replace_all_length]

end RecordStore.Engine
