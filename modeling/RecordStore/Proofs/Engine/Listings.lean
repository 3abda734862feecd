import RecordStore.Engine.Query
import RecordStore.Proofs.Value.Order

/-!
# Listings

A query that does not group answers with a window of a listing: the scopes on which its conditions
hold, sorted by its keys. The listing does not depend on the window. A query that only counts
answers with the number of these scopes.
-/

namespace RecordStore.Engine

open Sql Std

/-! ### Sorting by keys with directions -/

/-- The order of two values in a direction. -/
def directed (direction : Option Direction) (left right : Stored) : Ordering :=
  if direction == some .descending then (left.order right).swap else left.order right

/-- The order in a direction turns around with its sides. -/
instance orientedCmp_directed (direction : Option Direction) :
    OrientedCmp (directed direction) where
  eq_swap {left right} := by
    unfold directed
    split <;> rw [Stored.order_swap left right]

/-- The order in a direction is transitive, for each direction. -/
instance transCmp_directed (direction : Option Direction) : TransCmp (directed direction) where
  isLE_trans {first second third} left right := by
    unfold directed at *
    by_cases descending : (direction == some .descending) = true
    · simp only [descending, if_true, ← Stored.order_swap] at left right ⊢
      exact Stored.order_trans right left
    · simp only [descending, if_false, Bool.false_eq_true] at left right ⊢
      exact Stored.order_trans left right

/-- Items in the order of their first difference under keys, each key in its direction. -/
def keysOrder {Key Item : Type} (direction : Key → Option Direction) (value : Key → Item → Stored) :
    List Key → Item → Item → Ordering
  | [] => fun _ _ => .eq
  | key :: rest =>
    compareLex (fun left right => directed (direction key) (value key left) (value key right))
      (keysOrder direction value rest)

section Keys

variable {Key Item : Type} {direction : Key → Option Direction} {value : Key → Item → Stored}

/-- The order of the first difference is transitive, by induction on the keys. -/
instance transCmp_keysOrder (keys : List Key) : TransCmp (keysOrder direction value keys) := by
  induction keys with
  | nil => exact { eq_swap := rfl, isLE_trans := fun _ _ => rfl }
  | cons key rest inductionHypothesis =>
    have first : TransCmp fun left right : Item =>
        directed (direction key) (value key left) (value key right) :=
      { eq_swap := OrientedCmp.eq_swap, isLE_trans := TransCmp.isLE_trans }
    exact inferInstanceAs (TransCmp (compareLex _ _))

/-- The order of the engine on the keys of two items is the order of their first difference. -/
theorem directed_order_map (keys : List Key) (left right : Item) :
    directedOrder (keys.map direction) (keys.map (value · left)) (keys.map (value · right)) =
      keysOrder direction value keys left right := by
  induction keys with
  | nil => rfl
  | cons key rest inductionHypothesis =>
    simp only [List.map_cons, directedOrder, inductionHypothesis]
    rfl

/-- The order depends on nothing but the values under the keys. -/
theorem keys_order_congr {Other : Type} {otherValue : Key → Other → Stored} {keys : List Key}
    {left right : Item} {otherLeft otherRight : Other}
    (lefts : ∀ key ∈ keys, value key left = otherValue key otherLeft)
    (rights : ∀ key ∈ keys, value key right = otherValue key otherRight) :
    keysOrder direction value keys left right =
      keysOrder direction otherValue keys otherLeft otherRight := by
  induction keys with
  | nil => rfl
  | cons key rest inductionHypothesis =>
    simp only [keysOrder, compareLex, lefts key List.mem_cons_self, rights key List.mem_cons_self,
      inductionHypothesis (fun key member => lefts key (List.mem_cons_of_mem _ member))
        fun key member => rights key (List.mem_cons_of_mem _ member)]

/-- Items that are not told apart have equal values under every key. -/
theorem keys_order_eq {keys : List Key} {left right : Item}
    (equal : keysOrder direction value keys left right = .eq) :
    ∀ key ∈ keys, (value key left).order (value key right) = .eq := by
  induction keys with
  | nil => nofun
  | cons key rest inductionHypothesis =>
    obtain ⟨first, later⟩ := Ordering.then_eq_eq.mp equal
    refine List.forall_mem_cons.mpr ⟨?_, inductionHypothesis later⟩
    unfold directed at first
    split at first
    · exact Ordering.swap_eq_eq.mp first
    · exact first

/-- Keys that are images are compared as what they are images of. -/
theorem keys_order_map {Other : Type} (image : Other → Key) (keys : List Other) :
    keysOrder direction value (keys.map image) =
      keysOrder (fun key => direction (image key)) (fun key => value (image key)) keys := by
  induction keys with
  | nil => rfl
  | cons key rest inductionHypothesis => simp only [List.map_cons, keysOrder, inductionHypothesis]

end Keys

/-- Items in an order, those that it does not tell apart as they come. -/
def inOrder {Item : Type} (order : Item → Item → Ordering) (items : List Item) : List Item :=
  items.mergeSort fun left right => order left right != .gt

section InOrder

variable {Item : Type} {order : Item → Item → Ordering}

/-- Sorting drops nothing and adds nothing. -/
theorem in_order_perm (items : List Item) : (inOrder order items).Perm items :=
  List.mergeSort_perm _ _

/-- What is sorted stands in order. -/
theorem in_order_sorted [TransCmp order] (items : List Item) :
    (inOrder order items).Pairwise fun left right => order left right ≠ .gt := by
  have notGreater : ∀ ordering : Ordering, (ordering != .gt) = ordering.isLE := by
    intro ordering
    cases ordering <;> rfl
  have trans : ∀ first second third, (order first second != .gt) = true →
      (order second third != .gt) = true → (order first third != .gt) = true := by
    intro first second third left right
    rw [notGreater] at *
    exact TransCmp.isLE_trans left right
  have total : ∀ left right, (order left right != .gt || order right left != .gt) = true := by
    intro left right
    have swapped : order left right = (order right left).swap := OrientedCmp.eq_swap
    rw [swapped]
    cases order right left <;> rfl
  exact (List.pairwise_mergeSort trans total items).imp fun le => by simpa using le

/-- Where all items are alike they stay as they come. -/
theorem in_order_eq_self (always : ∀ left right, order left right = .eq) (items : List Item) :
    inOrder order items = items := by
  refine List.mergeSort_of_pairwise (List.pairwise_of_forall fun left right => ?_)
  rw [always]
  rfl

/-- Images are sorted as what they are images of, if they are ordered alike. -/
theorem map_in_order {Image : Type} (image : Item → Image) {imageOrder : Image → Image → Ordering}
    (same : ∀ left right, order left right = imageOrder (image left) (image right))
    (items : List Item) :
    (inOrder order items).map image = inOrder imageOrder (items.map image) :=
  List.map_mergeSort fun left _ right _ => by rw [same]

end InOrder

/-! ### Queries without groups -/

section Listing

variable {database : Database} {query : Select Stored}

/-- The order of scopes under the keys of a query. -/
def scopeOrder (query : Select Stored) : Scope → Scope → Ordering :=
  keysOrder OrderKey.direction (fun key scope => evaluate [] scope key.expression) query.ordering

/-- The order of scopes under a query is transitive. -/
instance transCmp_scopeOrder (query : Select Stored) : TransCmp (scopeOrder query) :=
  transCmp_keysOrder query.ordering

/-- Without groups the rows are put into the order of their scopes. -/
theorem ordered_map (query : Select Stored) (scopes : List Scope) :
    ordered query (scopes.map fun scope => ⟨[], scope⟩) =
      (inOrder (scopeOrder query) scopes).map fun scope => ⟨[], scope⟩ := by
  unfold ordered
  by_cases unsorted : query.ordering.isEmpty = true
  · rw [if_pos unsorted, in_order_eq_self]
    intro left right
    rw [scopeOrder, List.isEmpty_iff.mp unsorted]
    rfl
  · let keyed (scope : Scope) : List Stored × Grouped :=
      (keyOf (query.ordering.map OrderKey.expression) ⟨[], scope⟩, ⟨[], scope⟩)
    let keyedOrder (left right : List Stored × Grouped) : Ordering :=
      directedOrder (query.ordering.map OrderKey.direction) left.1 right.1
    have same : ∀ left right, scopeOrder query left right =
        keyedOrder (keyed left) (keyed right) := by
      intro left right
      simp only [keyedOrder, keyed, keyOf, List.map_map]
      exact (directed_order_map query.ordering left right).symm
    have sorted := map_in_order keyed same scopes
    rw [if_neg unsorted, List.map_map]
    change (inOrder keyedOrder (scopes.map keyed)).map Prod.snd = _
    rw [← sorted, List.map_map]
    rfl

/-- A query whose keys are columns that no result column renames means what it says. -/
theorem resolved_eq (grouping : query.grouping = [])
    (plain : ∀ column ∈ query.columns, ∃ expression text, column = .computed expression none text)
    (keys : ∀ key ∈ query.ordering, ∃ source name, key.expression = .column source name) :
    resolved database query = query := by
  obtain ⟨isAlias, noAlias, resolves⟩ : ∃ isAlias : String → Bool, (∀ name, isAlias name = false) ∧
      resolved database query = { query with
        grouping := query.grouping.map (resolveKey (resultColumns database query) fun name =>
          (declaredName? database query none name).isSome)
        ordering := query.ordering.map fun key => ⟨resolveKey (resultColumns database query)
          (fun name => !isAlias name) key.expression, key.direction⟩ } := by
    refine ⟨_, fun name => List.any_eq_false.mpr fun column member => ?_, rfl⟩
    obtain ⟨expression, text, rfl⟩ := plain column member
    exact Bool.false_ne_true
  let meant (key : OrderKey Stored) : OrderKey Stored :=
    ⟨resolveKey (resultColumns database query) (fun name => !isAlias name) key.expression,
      key.direction⟩
  have ordering : query.ordering.map meant = query.ordering := by
    refine (List.map_congr_left fun key member => ?_).trans (List.map_id _)
    obtain ⟨source, name, column⟩ := keys key member
    obtain ⟨expression, direction⟩ := key
    cases column
    cases source with
    | none => simp [meant, resolveKey, noAlias]
    | some source => rfl
  have grouped : query.grouping.map (resolveKey (resultColumns database query) fun name =>
      (declaredName? database query none name).isSome) = query.grouping := by
    rw [grouping]
    rfl
  rw [resolves, grouped]
  change { query with grouping := query.grouping, ordering := query.ordering.map meant } = query
  rw [ordering]

/-- The window of an answer. -/
theorem windowed_some {α : Type} {limit offset : Int} (notNegative : 0 ≤ limit) (rows : List α) :
    windowed (some limit) (some offset) rows = (rows.drop offset.toNat).take limit.toNat := by
  simp [windowed, Int.not_lt.mpr notNegative]

/-- The values that a query computes for a scope. -/
def valuesFor (database : Database) (query : Select Stored) (scope : Scope) : List Stored :=
  (resultColumns database query).map fun column => evaluate [] scope column.2

/-- A query that does not group answers with the window of its listing. -/
theorem select_listing {found : List Scope} {limit offset : Option Int}
    (keys : resolved database query = query) (ungrouped : answersForGroups query = false)
    (all : query.distinct = false) (scopesFound : scopes database query = .ok found)
    (limited : query.limit.mapM bound = .ok limit)
    (shifted : query.offset.mapM bound = .ok offset) :
    select database query = .ok ⟨(resultColumns database query).map Prod.fst,
      windowed limit offset
        ((inOrder (scopeOrder query) found).map (valuesFor database query))⟩ := by
  have noHaving : query.having = none := by
    unfold answersForGroups at ungrouped
    cases having : query.having with
    | none => rfl
    | some condition => simp [having] at ungrouped
  have rows : grouped query found = found.map fun scope => ⟨[], scope⟩ := by
    simp [grouped, ungrouped]
  unfold select
  simp only [keys, scopesFound, limited, shifted, noHaving, all, rows, bind, Except.bind, pure,
    Except.pure, Bool.false_eq_true, if_false, ordered_map, List.map_map]
  rfl

/-- A query whose scopes cannot be found answers with what keeps them from being found. -/
theorem select_error {fault : Fault} (keys : resolved database query = query)
    (failed : scopes database query = .error fault) : select database query = .error fault := by
  unfold select
  simp only [keys, failed]
  rfl

/-- Behind its listing a query answers with no rows. -/
theorem select_behind {found : List Scope} {limit : Option Int} {offset : Int} {answer : Answer}
    (keys : resolved database query = query) (ungrouped : answersForGroups query = false)
    (all : query.distinct = false) (scopesFound : scopes database query = .ok found)
    (limited : query.limit.mapM bound = .ok limit)
    (shifted : query.offset.mapM bound = .ok (some offset)) (behind : found.length ≤ offset.toNat)
    (answered : select database query = .ok answer) : answer.rows = [] := by
  have listed := select_listing keys ungrouped all scopesFound limited shifted
  cases listed.symm.trans answered
  have short : ((inOrder (scopeOrder query) found).map (valuesFor database query)).length ≤
      offset.toNat := by
    rw [List.length_map, (in_order_perm found).length_eq]
    exact behind
  simp only [windowed, Option.getD_some, List.drop_eq_nil_of_le short]
  cases limit with
  | none => rfl
  | some limit => simp

/-- The keys of a query for nothing but the number of rows mean what they say: it has none. -/
theorem resolved_of_count {text : String}
    (counts : query.columns = [.computed .countRows none text]) (grouping : query.grouping = [])
    (unsorted : query.ordering = []) : resolved database query = query := by
  refine resolved_eq grouping (fun column member => ?_) (fun key member => ?_)
  · rw [counts] at member
    exact ⟨.countRows, text, List.mem_singleton.mp member⟩
  · rw [unsorted] at member
    cases member

/-- A query for nothing but the number of rows answers with the number of its scopes. -/
theorem select_count {found : List Scope} {text : String} (all : query.distinct = false)
    (counts : query.columns = [.computed .countRows none text]) (grouping : query.grouping = [])
    (having : query.having = none) (unsorted : query.ordering = []) (unlimited : query.limit = none)
    (unshifted : query.offset = none) (scopesFound : scopes database query = .ok found) :
    select database query = .ok ⟨[text], [[.integer (Int64.ofNat found.length)]]⟩ := by
  have keys : resolved database query = query := resolved_of_count counts grouping unsorted
  have columns : resultColumns database query = [(text, .countRows)] := by
    simp [resultColumns, counts]
  have groups : answersForGroups query = true := by
    simp [answersForGroups, rowExpressions, counts, isAggregated]
  have rows : grouped query found = [⟨found, found.headD []⟩] := by
    simp [grouped, groups, grouping]
  unfold select
  simp only [keys, scopesFound, having, all, columns, unlimited, unshifted]
  simp [rows, ordered, unsorted, evaluate, windowed, bind, Except.bind, pure, Except.pure]

/-- What such a query answers is the number of scopes that were found. -/
theorem select_count_ok {text : String} {answer : Answer}
    (answered : select database query = .ok answer) (all : query.distinct = false)
    (counts : query.columns = [.computed .countRows none text]) (grouping : query.grouping = [])
    (having : query.having = none) (unsorted : query.ordering = []) (unlimited : query.limit = none)
    (unshifted : query.offset = none) :
    ∃ found, scopes database query = .ok found ∧
      answer = ⟨[text], [[.integer (Int64.ofNat found.length)]]⟩ := by
  cases read : scopes database query with
  | error fault =>
    cases (select_error (resolved_of_count counts grouping unsorted) read).symm.trans answered
  | ok found =>
    have counted := select_count all counts grouping having unsorted unlimited unshifted read
    cases counted.symm.trans answered
    exact ⟨found, rfl, rfl⟩

end Listing

end RecordStore.Engine
