import Mathlib.Data.List.Dedup
import RecordStore.Proofs.Query.Enforced
import RecordStore.Proofs.Query.Keys

/-!
# What builders hold

Criteria and partitions are built by putting values under keys, one after the other. However they
are put, what is held afterwards is decided by the pairs alone: under each key stands the value that
was put there last, and the keys stand in the order in which they were put for the first time. So no
two entries share a key, and putting a pair that is held already changes nothing.
-/

namespace RecordStore

/-! ### Pairs that are put one after the other -/

section Entries

variable {α : Type} {key : String} {value : α} {entries put : List (String × α)}

/-- A pair that was put, and behind which nothing was put under its key. -/
def IsLastPut (put : List (String × α)) (entry : String × α) : Prop :=
  ∃ earlier later, put = earlier ++ entry :: later ∧ entry.1 ∉ later.map Prod.fst

/-- Entries that hold what was put: for each key the last value, at the place where the key was put
first. -/
structure HoldsPut (put entries : List (String × α)) : Prop where
  holds : ∀ entry, entry ∈ entries ↔ IsLastPut put entry
  ordered : (entries.map Prod.fst).Pairwise fun left right =>
    (put.map Prod.fst).idxOf left < (put.map Prod.fst).idxOf right

/-- Entries after pairs were put into them. -/
def putAll (entries put : List (String × α)) : List (String × α) :=
  put.foldl (fun held entry => putEntry entry.1 entry.2 held) entries

/-- A pair that was put is the last one of its key exactly if it is the pair that was put last, or
was the last one before and has another key. -/
theorem is_last_put_concat {entry : String × α} :
    IsLastPut (put ++ [(key, value)]) entry ↔
      entry = (key, value) ∨ (IsLastPut put entry ∧ entry.1 ≠ key) := by
  constructor
  · rintro ⟨earlier, later, shape, last⟩
    cases later using List.reverseRecOn with
    | nil =>
      obtain ⟨-, same⟩ := List.append_inj' shape rfl
      exact .inl (List.singleton_inj.mp same).symm
    | append_singleton later final =>
      rw [← List.cons_append, ← List.append_assoc] at shape
      obtain ⟨before, same⟩ := List.append_inj' shape rfl
      cases List.singleton_inj.mp same
      rw [List.map_append, List.mem_append, not_or] at last
      exact .inr ⟨⟨earlier, later, before, last.1⟩, by simpa using last.2⟩
  · rintro (rfl | ⟨⟨earlier, later, rfl, last⟩, other⟩)
    · exact ⟨put, [], rfl, List.not_mem_nil⟩
    · refine ⟨earlier, later ++ [(key, value)], by simp, ?_⟩
      rw [List.map_append, List.mem_append, not_or]
      exact ⟨last, by simpa using other⟩

/-- A key has a last pair if it was put at all. -/
theorem exists_is_last_put : (∃ value, IsLastPut put (key, value)) ↔ key ∈ put.map Prod.fst := by
  induction put using List.reverseRecOn with
  | nil => simp [IsLastPut]
  | append_singleton put entry inductionHypothesis =>
    obtain ⟨other, last⟩ := entry
    rw [List.map_append, List.mem_append, ← inductionHypothesis]
    simp only [is_last_put_concat, List.map_cons, List.map_nil, List.mem_singleton]
    by_cases same : key = other
    · exact iff_of_true ⟨last, .inl (by rw [same])⟩ (.inr same)
    · simp [same]

/-- Putting under a key leaves the keys as they are, or adds the key behind them. -/
theorem put_entry_keys (key : String) (value : α) (entries : List (String × α)) :
    (putEntry key value entries).map Prod.fst =
      if key ∈ entries.map Prod.fst then entries.map Prod.fst
      else entries.map Prod.fst ++ [key] := by
  induction entries with
  | nil => rfl
  | cons entry rest inductionHypothesis =>
    by_cases same : entry.1 = key
    · simp [putEntry, same]
    · have other : key ≠ entry.1 := Ne.symm same
      rw [putEntry, if_neg (by simpa using same), List.map_cons, inductionHypothesis, List.map_cons]
      by_cases held : key ∈ rest.map Prod.fst
      · rw [if_pos held, if_pos (List.mem_cons_of_mem _ held)]
      · rw [if_neg held, if_neg (by simp only [List.mem_cons, not_or]; exact ⟨other, held⟩)]
        rfl

/-- A pair that is held already can be put again without any change. -/
theorem put_entry_held (distinct : (entries.map Prod.fst).Nodup) (held : (key, value) ∈ entries) :
    putEntry key value entries = entries := by
  induction entries with
  | nil => exact absurd held List.not_mem_nil
  | cons entry rest inductionHypothesis =>
    rw [List.map_cons, List.nodup_cons] at distinct
    rcases List.mem_cons.mp held with rfl | behind
    · simp [putEntry]
    · have other : entry.1 ≠ key := by
        rintro rfl
        exact distinct.1 (List.mem_map.mpr ⟨_, behind, rfl⟩)
      rw [putEntry, if_neg (by simpa using other), inductionHypothesis distinct.2 behind]

namespace HoldsPut

/-- The keys of the entries are told apart, since they have different places. -/
theorem distinct (holdsPut : HoldsPut put entries) : (entries.map Prod.fst).Nodup :=
  holdsPut.ordered.imp fun before same => by
    rw [same] at before
    exact Nat.lt_irrefl _ before

/-- They are the keys that were put. -/
theorem keys (holdsPut : HoldsPut put entries) :
    key ∈ entries.map Prod.fst ↔ key ∈ put.map Prod.fst := by
  refine Iff.trans ?_ exists_is_last_put
  simp only [List.mem_map, ← holdsPut.holds]
  constructor
  · rintro ⟨entry, member, rfl⟩
    exact ⟨entry.2, member⟩
  · rintro ⟨value, member⟩
    exact ⟨_, member, rfl⟩

/-- There are as many entries as keys were put. -/
theorem length (holdsPut : HoldsPut put entries) :
    entries.length = (put.map Prod.fst).dedup.length := by
  have perm : (entries.map Prod.fst).Perm (put.map Prod.fst).dedup := by
    rw [List.perm_ext_iff_of_nodup holdsPut.distinct (List.nodup_dedup _)]
    intro key
    rw [holdsPut.keys, List.mem_dedup]
  rw [← perm.length_eq, List.length_map]

/-- A key is looked up as the value that was put there last. -/
theorem find? (holdsPut : HoldsPut put entries) :
    (entries.find? fun held => held.1 == key).map Prod.snd = some value ↔
      IsLastPut put (key, value) := by
  rw [← holdsPut.holds, Option.map_eq_some_iff]
  constructor
  · rintro ⟨entry, found, rfl⟩
    obtain ⟨member, rfl⟩ := (find?_entry_iff holdsPut.distinct).mp found
    exact member
  · intro member
    exact ⟨_, (find?_entry_iff holdsPut.distinct).mpr ⟨member, rfl⟩, rfl⟩

/-- What holds what was put holds one more pair after it is put. Proof: the places of the keys that
were put before stay, and a new key has the place behind them. -/
theorem step (holdsPut : HoldsPut put entries) (key : String) (value : α) :
    HoldsPut (put ++ [(key, value)]) (putEntry key value entries) where
  holds entry := by
    rw [(put_entry_perm value holdsPut.distinct).mem_iff, is_last_put_concat, ← holdsPut.holds]
    simp only [List.mem_append, List.mem_filter, bne_iff_ne, List.mem_singleton]
    exact or_comm
  ordered := by
    have stays : ∀ other ∈ entries.map Prod.fst,
        ((put ++ [(key, value)]).map Prod.fst).idxOf other = (put.map Prod.fst).idxOf other := by
      intro other member
      rw [List.map_append, List.idxOf_append_of_mem (holdsPut.keys.mp member)]
    have kept : (entries.map Prod.fst).Pairwise fun left right =>
        ((put ++ [(key, value)]).map Prod.fst).idxOf left <
          ((put ++ [(key, value)]).map Prod.fst).idxOf right :=
      holdsPut.ordered.imp_of_mem fun leftMember rightMember before => by
        rwa [stays _ leftMember, stays _ rightMember]
    rw [put_entry_keys]
    split
    · exact kept
    · rename_i new
      refine List.pairwise_append.mpr ⟨kept, List.pairwise_singleton _ _,
        fun left member right last => ?_⟩
      cases List.mem_singleton.mp last
      rw [stays left member, List.map_append,
        List.idxOf_append_of_notMem (fun old => new (holdsPut.keys.mpr old))]
      have inside : (put.map Prod.fst).idxOf left < (put.map Prod.fst).length :=
        List.idxOf_lt_length_iff.mpr (holdsPut.keys.mp member)
      omega

end HoldsPut

/-- Whatever pairs are put one after the other, the entries hold what was put. -/
theorem holds_put_put_all (put : List (String × α)) : HoldsPut put (putAll [] put) := by
  induction put using List.reverseRecOn with
  | nil => exact ⟨by simp [putAll, IsLastPut], .nil⟩
  | append_singleton put entry inductionHypothesis =>
    unfold putAll
    rw [List.foldl_concat]
    exact inductionHypothesis.step entry.1 entry.2

end Entries

/-! ### Criteria -/

/-- A step in which criteria are built: an entry is put as it is, or a call puts one. -/
inductive Criteria.Step where
  | insert (key : String) (argument : Argument)
  | call (made : Criteria.Call)
  deriving DecidableEq

namespace Criteria

/-- The entry that a step puts. -/
def Step.entry : Step → String × Argument
  | .insert key argument => (key, argument)
  | .call made => made.entry

/-- The criteria after a step. -/
def Step.apply (criteria : Criteria) : Step → Criteria
  | .insert key argument => criteria.insert key argument
  | .call made => made.apply criteria

/-- A step puts its entry and does nothing else. -/
theorem Step.apply_entries (criteria : Criteria) (step : Step) :
    (step.apply criteria).entries = putEntry step.entry.1 step.entry.2 criteria.entries := by
  cases step with
  | insert key argument => rfl
  | call made =>
    rw [apply, Call.apply_eq]
    rfl

/-- The criteria that steps build from those of plain pairs. Without pairs they start empty. -/
def built (pairs : List (String × Value)) (steps : List Step) : Criteria :=
  steps.foldl Step.apply (ofList pairs)

/-- The entries that are put when criteria are built: first those of the pairs, then those of the
steps. -/
def putIn (pairs : List (String × Value)) (steps : List Step) : List (String × Argument) :=
  pairs.map (fun pair => (pair.1, .scalar pair.2)) ++ steps.map Step.entry

/-- The entries of criteria are those that were put, one after the other. -/
theorem built_entries (pairs : List (String × Value)) (steps : List Step) :
    (built pairs steps).entries = putAll [] (putIn pairs steps) := by
  have collects : ∀ (pairs : List (String × Value)) (criteria : Criteria),
      (pairs.foldl (fun criteria entry => criteria.equals entry.1 entry.2) criteria).entries =
        putAll criteria.entries (pairs.map fun pair => (pair.1, .scalar pair.2)) := by
    intro pairs
    induction pairs with
    | nil => exact fun _ => rfl
    | cons pair rest inductionHypothesis => exact fun _ => inductionHypothesis _
  have goesOn : ∀ (steps : List Step) (criteria : Criteria),
      (steps.foldl Step.apply criteria).entries =
        putAll criteria.entries (steps.map Step.entry) := by
    intro steps
    induction steps with
    | nil => exact fun _ => rfl
    | cons step rest inductionHypothesis =>
      intro criteria
      rw [List.foldl_cons, inductionHypothesis, Step.apply_entries]
      rfl
  have started : (ofList pairs).entries = _ := collects pairs empty
  rw [built, goesOn, started, putIn]
  exact (List.foldl_append ..).symm

end Criteria

/-! ### Partitions -/

/-- The partition that pairs of a column and a value build. -/
def Partition.built (pairs : List (String × Value)) : Partition :=
  pairs.foldl (fun partition pair => partition.insert pair.1 pair.2) empty

/-- The attributes of a partition are the pairs that were put, one after the other. -/
theorem Partition.built_attributes (pairs : List (String × Value)) :
    (built pairs).attributes = putAll [] pairs := by
  have goesOn : ∀ (pairs : List (String × Value)) (partition : Partition),
      (pairs.foldl (fun partition pair => partition.insert pair.1 pair.2) partition).attributes =
        putAll partition.attributes pairs := by
    intro pairs
    induction pairs with
    | nil => exact fun _ => rfl
    | cons pair rest inductionHypothesis => exact fun _ => inductionHypothesis _
  exact goesOn pairs empty

/-- Builders hold the last value of each key at the place of its first. Criteria that are built from
pairs and by any steps, and partitions that are built from pairs, hold exactly the last entry of
each key, and no two entries share one. The keys stand in the order in which they were put for the
first time, and there are as many entries as different keys. A column of a partition is looked up as
the value that was put last. What is built depends on nothing but the entries that were put, and an
entry that is held can be put again without any change.

Proof: putting a pair keeps that the entries hold what was put, with one more pair; the induction is
on the pairs. -/
theorem builders_hold_what_was_put :
    (Criteria.built [] [] = Criteria.empty ∧
      ∀ (pairs : List (String × Value)) (steps : List Criteria.Step),
        let put := Criteria.putIn pairs steps
        let criteria := Criteria.built pairs steps
        (criteria.entries.map Prod.fst).Nodup ∧ HoldsPut put criteria.entries ∧
        criteria.size = (put.map Prod.fst).dedup.length ∧
        (∀ otherPairs otherSteps, Criteria.putIn otherPairs otherSteps = put →
          Criteria.built otherPairs otherSteps = criteria) ∧
        ∀ entry ∈ criteria.entries, criteria.insert entry.1 entry.2 = criteria) ∧
    ∀ pairs : List (String × Value),
      let partition := Partition.built pairs
      (partition.attributes.map Prod.fst).Nodup ∧ HoldsPut pairs partition.attributes ∧
      partition.attributes.length = (pairs.map Prod.fst).dedup.length ∧
      (∀ column value, partition.get? column = some value ↔ IsLastPut pairs (column, value)) ∧
      ∀ held ∈ partition.attributes, partition.insert held.1 held.2 = partition := by
  refine ⟨⟨rfl, fun pairs steps => ?_⟩, fun pairs => ?_⟩
  · have holdsPut : HoldsPut (Criteria.putIn pairs steps) (Criteria.built pairs steps).entries := by
      rw [Criteria.built_entries]
      exact holds_put_put_all _
    refine ⟨holdsPut.distinct, holdsPut, holdsPut.length, fun otherPairs otherSteps same => ?_,
      fun entry held => ?_⟩
    · have entries : (Criteria.built otherPairs otherSteps).entries =
          (Criteria.built pairs steps).entries := by
        rw [Criteria.built_entries, Criteria.built_entries, same]
      exact congrArg Criteria.mk entries
    · exact congrArg Criteria.mk (put_entry_held holdsPut.distinct held)
  · have holdsPut : HoldsPut pairs (Partition.built pairs).attributes := by
      rw [Partition.built_attributes]
      exact holds_put_put_all _
    exact ⟨holdsPut.distinct, holdsPut, holdsPut.length, fun column value => holdsPut.find?,
      fun held member => congrArg Partition.mk (put_entry_held holdsPut.distinct member)⟩

/-- A state that is asked for twice stands where it was first, with the value that was put last, and
putting it once more changes nothing. -/
theorem builders_hold_the_last_state :
    let criteria := Criteria.built [("state", .text "draft")]
      [.call (.compare .greater "age" (.integer 3)), .call (.equals "state" (.text "published"))]
    criteria.entries = [("state", .scalar (.text "published")),
      ("$gt", .list [.text "age", .integer 3])] ∧
    criteria.insert "state" (.scalar (.text "published")) = criteria :=
  ⟨by decide, (builders_hold_what_was_put.1.2 _ _).2.2.2.2
    ("state", .scalar (.text "published")) (by decide)⟩

end RecordStore
