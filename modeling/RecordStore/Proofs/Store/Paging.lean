import Mathlib
import RecordStore.Proofs.Store.Isolation
import RecordStore.Proofs.Store.Searching

/-!
# Pages of what a request finds

Whoever searches for one page after another until a page is empty gets what the request finds, in
the order in which it sorts, each row once, and every page says how many rows there are in all. An
order that lists every column of the key leaves no choice of a listing. So the pages are windows of
the same list although each of them is queried for itself, and counting, which decides whether there
is a page to query, finds the same rows.
-/

namespace RecordStore

open Engine Sql

/-! ### The page at an offset -/

/-- A positive number is a positive integer. -/
theorem Int64.to_int_pos {number : Int64} (positive : 0 < number) : 0 < number.toInt :=
  Int64.lt_iff_toInt_lt.mp positive

namespace Request

/-- The request for the page of a size behind some rows. -/
def pageAt (request : Request) (limit offset : Int64) : Request :=
  { request with limit := some limit, offset := some offset }

/-- A page of a size that the driver allows is resolved as it is asked for. -/
theorem resolve_page_at (request : Request) {limit offset largest : Int64} (positive : 0 < limit)
    (allowed : limit ≤ largest) (notNegative : 0 ≤ offset.toInt) :
    Page.resolve (request.pageAt limit offset).limit (request.pageAt limit offset).offset largest =
      .ok ⟨limit, offset⟩ := by
  have size := Int64.to_int_pos positive
  rw [Int64.le_iff_toInt_le] at allowed
  have zero : Int64.toInt 0 = 0 := rfl
  have limitLeast : ¬ limit < 0 := by
    rw [Int64.lt_iff_toInt_lt]
    omega
  have limitMost : ¬ largest < limit := by
    rw [Int64.lt_iff_toInt_lt]
    omega
  have offsetLeast : ¬ offset < 0 := by
    rw [Int64.lt_iff_toInt_lt]
    omega
  simp [Page.resolve, pageAt, limitLeast, limitMost, offsetLeast]

end Request

/-- The offset behind a page is the next multiple of the size, as long as the page begins among rows
that there can be. Proof: either this is the first page, or the size is at most what lies before. -/
theorem Int64.to_int_add_page {limit offset : Int64} {before : Nat} (positive : 0 < limit)
    (begins : offset.toInt = before) (aligned : limit.toInt.toNat ∣ before)
    (few : before < 2 ^ 62) : (offset + limit).toInt = ↑(before + limit.toInt.toNat) := by
  have size : (limit.toInt.toNat : Int) = limit.toInt :=
    Int.toNat_of_nonneg (Int.le_of_lt (Int64.to_int_pos positive))
  have small : before + limit.toInt.toNat < 2 ^ 63 := by
    rcases Nat.eq_zero_or_pos before with none | some
    · have most := limit.toInt_lt
      omega
    · have least := Nat.le_of_dvd some aligned
      omega
  rw [Int64.toInt_add, begins, ← size, Int.bmod_eq_of_le (by omega) (by omega)]
  rfl

variable {model : Model} {handle : Handle model} {request : Request} {store : Store}
  {entities : List (Entity model)}

/-- A store that answers a request with entities: counting answers with their number, and finding a
page with the window of them that the page is. -/
structure Store.Offers (handle : Handle model) (request : Request) (entities : List (Entity model))
    (store : Store) : Prop where
  undisturbed : store.host.outages = []
  few : entities.length < 2 ^ 62
  counts : ((Operation.count handle request).apply store).1 = .ok (Int64.ofNat entities.length)
  pages : ∀ page : Page, 0 ≤ page.limit.toInt →
    ((Operation.findPage handle request page).apply store).1 =
      .ok ((entities.drop page.offset.toInt.toNat).take page.limit.toInt.toNat)

namespace Store.Offers

/-- So does a twin. -/
theorem twin {other : Store} (offers : store.Offers handle request entities)
    (twins : store.Twins other) : other.Offers handle request entities where
  undisturbed := by rw [← twins.outages, offers.undisturbed]
  few := offers.few
  counts := by
    have blind : Operation.IsBlindTo Store.Twins (Operation.count handle request) :=
      .bind (.of_except _) fun _ => .bind (Operation.answering_twins _) fun _ => .pure _
    rw [← (blind store other twins).1, offers.counts]
  pages page notNegative := by
    rw [← (Operation.find_page_twins page store other twins).1, offers.pages page notNegative]

/-- A search answers with the window at its offset, with the number of all entities, and with the
page as it was asked for. It leaves a twin. -/
theorem search (offers : store.Offers handle request entities) {limit offset : Int64}
    (positive : 0 < limit) (allowed : limit ≤ store.driver.config.maxPageSize)
    (notNegative : 0 ≤ offset.toInt) : ∃ after,
      (Operation.search handle (request.pageAt limit offset)).apply store =
        (.ok ⟨(entities.drop offset.toInt.toNat).take limit.toInt.toNat,
          Int64.ofNat entities.length, offset, limit⟩, after) ∧ store.Twins after := by
  refine ⟨_, Prod.ext ?_ rfl, Operation.search_keeps
    (Operation.answering_keeps_twins offers.undisturbed) handle _ store ⟨⟨rfl, rfl, rfl⟩, rfl⟩⟩
  have counts : ((Operation.count handle (request.pageAt limit offset)).apply store).1 = _ :=
    offers.counts
  rw [Operation.search_apply offers.undisturbed,
    request.resolve_page_at positive allowed notNegative, counts]
  simp only [Except.bind]
  have few : entities.length < 2 ^ 63 := by
    have := offers.few
    omega
  split
  · rename_i behind
    rw [Int64.le_iff_toInt_le, Int64.toInt_ofNat_of_lt few] at behind
    rw [List.drop_eq_nil_of_le (by omega), List.take_nil]
  · have found : ((Operation.find handle (request.pageAt limit offset)).apply store).1 =
        .ok ((entities.drop offset.toInt.toNat).take limit.toInt.toNat) := by
      rw [Operation.find, Operation.page_of_bind,
        request.resolve_page_at positive allowed notNegative]
      exact offers.pages ⟨limit, offset⟩ (Int.le_of_lt (Int64.to_int_pos positive))
    rw [found]
    rfl

end Store.Offers

/-! ### One page after another -/

/-- Leafing through what a request finds from an offset on: searching for the page there and for one
page after another behind it, until a page is empty. -/
inductive Store.LeafsThrough (handle : Handle model) (request : Request) (limit : Int64) :
    Int64 → Store → List (SearchPage model) → Store → Prop
  | last {offset : Int64} {store after : Store} {page : SearchPage model}
      (searched : (Operation.search handle (request.pageAt limit offset)).apply store =
        (.ok page, after))
      (empty : page.entities = []) : LeafsThrough handle request limit offset store [page] after
  | next {offset : Int64} {store after last : Store} {page : SearchPage model}
      {pages : List (SearchPage model)}
      (searched : (Operation.search handle (request.pageAt limit offset)).apply store =
        (.ok page, after))
      (nonempty : page.entities ≠ [])
      (rest : LeafsThrough handle request limit (offset + limit) after pages last) :
      LeafsThrough handle request limit offset store (page :: pages) last

namespace Store.Offers

variable {limit offset : Int64} {before : Nat}

/-- A search leaves a store that offers the same, with the same largest page. -/
theorem search_step (offers : store.Offers handle request entities) (positive : 0 < limit)
    (allowed : limit ≤ store.driver.config.maxPageSize) (begins : offset.toInt = before) :
    ∃ after, (Operation.search handle (request.pageAt limit offset)).apply store =
        (.ok ⟨(entities.drop before).take limit.toInt.toNat, Int64.ofNat entities.length, offset,
          limit⟩, after) ∧
      after.Offers handle request entities ∧ limit ≤ after.driver.config.maxPageSize := by
  obtain ⟨after, ran, twins⟩ := offers.search positive allowed (by omega : 0 ≤ offset.toInt)
  rw [begins, Int.toNat_natCast] at ran
  exact ⟨after, ran, offers.twin twins, twins.config ▸ allowed⟩

/-- Where a window begins among the entities there is one in it. -/
theorem window_ne_nil (positive : 0 < limit) (inside : before < entities.length) :
    (entities.drop before).take limit.toInt.toNat ≠ [] := by
  have size := Int64.to_int_pos positive
  rw [Ne, List.take_eq_nil_iff, List.drop_eq_nil_iff]
  omega

/-- From every offset that is a multiple of the size the request can be leafed through. The
induction is on how many entities lie behind the offset; every page but the last leaves fewer. -/
theorem exists_leafs_through (offers : store.Offers handle request entities) (positive : 0 < limit)
    (allowed : limit ≤ store.driver.config.maxPageSize) (begins : offset.toInt = before)
    (aligned : limit.toInt.toNat ∣ before) :
    ∃ pages last, Store.LeafsThrough handle request limit offset store pages last := by
  induction remaining : entities.length - before using Nat.strong_induction_on
    generalizing store offset before with
  | _ number inductionHypothesis =>
  obtain ⟨after, ran, offersToo, allowedToo⟩ := offers.search_step positive allowed begins
  by_cases inside : before < entities.length
  · have nonempty := window_ne_nil positive inside
    have advances := Int64.to_int_add_page positive begins aligned (by have := offers.few; omega)
    have size := Int64.to_int_pos positive
    obtain ⟨pages, last, rest⟩ := inductionHypothesis _ (by omega) offersToo allowedToo advances
      (Nat.dvd_add_self_right.mpr aligned) rfl
    exact ⟨_, last, .next ran nonempty rest⟩
  · have empty : (entities.drop before).take limit.toInt.toNat = [] := by
      rw [List.drop_eq_nil_of_le (by omega), List.take_nil]
    exact ⟨_, after, .last ran empty⟩

/-- The pages that are leafed through are the windows at the offset and behind it, and together they
are all that lies behind the offset. -/
theorem leafed {last : Store} {pages : List (SearchPage model)}
    (leafs : Store.LeafsThrough handle request limit offset store pages last)
    (offers : store.Offers handle request entities) (positive : 0 < limit)
    (allowed : limit ≤ store.driver.config.maxPageSize) (begins : offset.toInt = before)
    (aligned : limit.toInt.toNat ∣ before) :
    pages.flatMap SearchPage.entities = entities.drop before ∧
      ∀ index (within : index < pages.length),
        pages[index].entities =
            (entities.drop (before + index * limit.toInt.toNat)).take limit.toInt.toNat ∧
          pages[index].total = Int64.ofNat entities.length ∧
          pages[index].offset.toInt = ↑(before + index * limit.toInt.toNat) ∧
          pages[index].pageSize = limit := by
  induction leafs generalizing before with
  | last searched empty =>
    obtain ⟨after, ran, -⟩ := offers.search_step positive allowed begins
    cases searched.symm.trans ran
    have behind : entities.length ≤ before := by
      by_contra inside
      exact window_ne_nil positive (by omega) empty
    refine ⟨?_, fun index within => ?_⟩
    · rw [List.flatMap_singleton, List.drop_eq_nil_of_le behind, List.take_nil]
    · obtain rfl : index = 0 := by simpa using within
      simpa using begins
  | next searched nonempty rest inductionHypothesis =>
    obtain ⟨after, ran, offersToo, allowedToo⟩ := offers.search_step positive allowed begins
    cases searched.symm.trans ran
    have inside : before < entities.length := by
      by_contra behind
      refine nonempty ?_
      rw [List.drop_eq_nil_of_le (by omega), List.take_nil]
    have advances := Int64.to_int_add_page positive begins aligned (by have := offers.few; omega)
    obtain ⟨together, windows⟩ := inductionHypothesis offersToo allowedToo advances
      (Nat.dvd_add_self_right.mpr aligned)
    refine ⟨?_, fun index within => ?_⟩
    · rw [List.flatMap_cons, together, ← List.drop_drop, List.take_append_drop]
    · cases index with
      | zero => simpa using begins
      | succ index =>
        have next : before + (index + 1) * limit.toInt.toNat =
            before + limit.toInt.toNat + index * limit.toInt.toNat := by
          rw [Nat.add_one_mul]
          omega
        rw [List.getElem_cons_succ, next]
        exact windows index (Nat.lt_of_succ_lt_succ within)

end Store.Offers

/-! ### What is offered -/

namespace Request.IsAskedIn

variable {relation : Relation} {pattern : Option FullText.Pattern}

/-- No two rows of a table with a key hold the same values. -/
theorem nodup {table : Table} {database : Database}
    (asked : request.IsAskedIn table database relation) :
    (relation.rows.map Row.values).Nodup := by
  refine List.pairwise_map.mpr (asked.unique.imp fun {left right} apart same => apart ?_)
  have projected : relation.project table.primaryKey left =
      relation.project table.primaryKey right := by
    unfold Relation.project Relation.value
    rw [same]
  rw [projected]
  exact Relation.key_order_self _

/-- A sorted listing of such rows is sorted strictly. -/
theorem strictly_sorted {table : Table} {database : Database}
    (asked : request.IsAskedIn table database relation) (sorts : request.SortsByKey table)
    {listing : List (List Stored)} (distinct : listing.Nodup)
    (members : ∀ values ∈ listing, values ∈ relation.rows.map Row.values)
    (sorted : listing.Pairwise fun left right => request.rowsOrder table left right ≠ .gt) :
    listing.Pairwise fun left right => request.rowsOrder table left right = .lt := by
  refine (distinct.and sorted).imp_of_mem fun {left right} leftMember rightMember ordered => ?_
  obtain ⟨different, notAfter⟩ := ordered
  cases order : request.rowsOrder table left right with
  | lt => rfl
  | gt => exact absurd order notAfter
  | eq =>
    have swapped : request.rowsOrder table right left =
        (request.rowsOrder table left right).swap :=
      (transCmp_keysOrder request.sortPairs).eq_swap
    have notBefore : request.rowsOrder table right left ≠ .gt := by
      rw [swapped, order]
      nofun
    exact absurd (asked.eq_of_rows_order sorts (members left leftMember)
      (members right rightMember) notAfter notBefore) different

section Offered

variable (asked : request.IsAskedIn handle.table store.visible relation)
  (faultless : handle.table.fault? = none) (undisturbed : store.host.outages = [])
  (reads : store.mayRead? = some true) (parsed : request.pattern handle.table = .ok pattern)

include asked faultless undisturbed reads parsed

/-- Counting answers with the number of the rows that the request finds. -/
theorem count_found (accepts : (request.counting handle.table).isOk = true) :
    ((Operation.count handle request).apply store).1 = .ok (Int64.ofNat
      ((relation.rows.map Row.values).filter (request.findsIn handle.table pattern)).length) := by
  obtain ⟨query, made⟩ := exists_of_is_ok accepts
  obtain ⟨access, opened, granted⟩ := Option.map_eq_some_iff.mp reads
  obtain ⟨held, granted⟩ := exists_of_is_ok granted
  rw [Store.visible_of_access? opened] at asked
  rw [Operation.count_apply made,
    Operation.answering_outcome query (Store.quiet_of_undisturbed undisturbed) opened,
    asked.counts_found faultless made, granted, parsed]
  rfl

/-- Finding a page answers with the entities of a window of the one listing of these rows. Proof:
the order tells the rows apart, so the query lists them in the same way for every page. -/
theorem find_page_found (sorts : request.SortsByKey handle.table) {listing : List (List Stored)}
    {query : Select Stored} {page : Page}
    (perm : listing.Perm
      ((relation.rows.map Row.values).filter (request.findsIn handle.table pattern)))
    (sorted : listing.Pairwise fun left right =>
      request.rowsOrder handle.table left right ≠ .gt)
    (made : request.finding handle.table page = .ok query) (notNegative : 0 ≤ page.limit.toInt) :
    ((Operation.findPage handle request page).apply store).1 =
      ((listing.drop page.offset.toInt.toNat).take page.limit.toInt.toNat).mapM
        (Entity.load handle.table) := by
  obtain ⟨access, opened, granted⟩ := Option.map_eq_some_iff.mp reads
  obtain ⟨held, granted⟩ := exists_of_is_ok granted
  rw [Store.visible_of_access? opened] at asked
  obtain ⟨other, listed, answered⟩ := asked.pages_found faultless notNegative made
  obtain ⟨otherPerm, otherSorted⟩ := listed pattern parsed
  have one : listing = other := asked.listing_eq sorts (perm.trans otherPerm.symm)
    (fun values member => (List.mem_filter.mp (perm.subset member)).1) sorted
    (otherSorted sorts.isSome)
  rw [granted, parsed] at answered
  rw [one]
  exact Operation.find_page_apply made
    (Operation.answering_run (Store.quiet_of_undisturbed undisturbed) opened answered)

/-- The rows that a request finds have one listing, and the entities of the listing are what the
store offers. -/
theorem offers (few : relation.rows.length < 2 ^ 62)
    (loads : ∀ row ∈ relation.rows, ∃ entity : Entity model,
      Entity.load handle.table row.values = .ok entity)
    (accepts : (request.counting handle.table).isOk = true)
    (sorts : request.SortsByKey handle.table)
    (valid : (request.ordering handle.table).isOk = true) :
    ∃ (listing : List (List Stored)) (entities : List (Entity model)),
      listing.Perm
        ((relation.rows.map Row.values).filter (request.findsIn handle.table pattern)) ∧
      listing.Pairwise (fun left right =>
        request.rowsOrder handle.table left right = .lt) ∧
      listing.mapM (Entity.load handle.table) = .ok entities ∧
      store.Offers handle request entities := by
  have finds : ∀ page, ∃ query, request.finding handle.table page = .ok query := by
    intro page
    obtain ⟨keys, ordered⟩ := exists_of_is_ok valid
    obtain ⟨counting, made⟩ := exists_of_is_ok accepts
    obtain ⟨rows, rowsMade, -⟩ := Request.counting_ok made
    rw [Request.finding_of_rows rowsMade, ordered]
    exact ⟨_, rfl⟩
  obtain ⟨first, made⟩ := finds ⟨0, 0⟩
  obtain ⟨access, opened, -⟩ := Option.map_eq_some_iff.mp reads
  have seen := asked
  rw [Store.visible_of_access? opened] at seen
  have least : 0 ≤ (⟨0, 0⟩ : Page).limit.toInt := Int.le_refl 0
  obtain ⟨listing, listed, -⟩ := seen.pages_found faultless least made
  obtain ⟨perm, sorted⟩ := listed pattern parsed
  have members : ∀ values ∈ listing, values ∈ relation.rows.map Row.values :=
    fun values member => (List.mem_filter.mp (perm.subset member)).1
  obtain ⟨entities, loaded⟩ : ∃ entities : List (Entity model),
      listing.mapM (Entity.load handle.table) = .ok entities := by
    refine exists_of_is_ok ?_
    rw [is_ok_map_m, List.all_eq_true]
    intro values member
    obtain ⟨row, among, rfl⟩ := List.mem_map.mp (members values member)
    obtain ⟨entity, loaded⟩ := loads row among
    rw [loaded]
    rfl
  have lengths : listing.length = entities.length := (map_m_ok loaded).length_eq
  refine ⟨listing, entities, perm, ?_, loaded, undisturbed, ?_, ?_, fun page notNegative => ?_⟩
  · exact asked.strictly_sorted sorts (perm.nodup_iff.mpr (asked.nodup.filter _)) members
      (sorted sorts.isSome)
  · rw [← lengths, perm.length_eq]
    refine Nat.lt_of_le_of_lt (List.length_filter_le _ _) ?_
    rwa [List.length_map]
  · rw [asked.count_found faultless undisturbed reads parsed accepts, ← perm.length_eq, lengths]
  · obtain ⟨query, made⟩ := finds page
    rw [asked.find_page_found faultless undisturbed reads parsed sorts perm
      (sorted sorts.isSome) made notNegative]
    exact map_m_of_forall₂ (List.forall₂_take _ (List.forall₂_drop _ (map_m_ok loaded)))

end Offered

/-- A term that is no pattern is refused at every offset. -/
theorem search_refused {limit offset : Int64} {fault : Fault}
    (asked : request.IsAskedIn handle.table store.visible relation)
    (faultless : handle.table.fault? = none) (undisturbed : store.host.outages = [])
    (reads : store.mayRead? = some true) (refused : request.pattern handle.table = .error fault)
    (accepts : (request.counting handle.table).isOk = true) (positive : 0 < limit)
    (allowed : limit ≤ store.driver.config.maxPageSize) (notNegative : 0 ≤ offset.toInt) :
    ∃ statement, ((Operation.search handle (request.pageAt limit offset)).apply store).1 =
      .error (.engine fault statement) := by
  obtain ⟨query, made⟩ := exists_of_is_ok accepts
  obtain ⟨access, opened, granted⟩ := Option.map_eq_some_iff.mp reads
  obtain ⟨held, granted⟩ := exists_of_is_ok granted
  rw [Store.visible_of_access? opened] at asked
  have fails : ((Operation.count handle (request.pageAt limit offset)).apply store).1 = _ :=
    Operation.count_apply made
  rw [Operation.answering_outcome query (Store.quiet_of_undisturbed undisturbed) opened,
    asked.counts_found faultless made, granted, refused] at fails
  refine ⟨(Statement.select query).render, ?_⟩
  rw [Operation.search_apply undisturbed, request.resolve_page_at positive allowed notNegative,
    fails]
  rfl

end Request.IsAskedIn

/-- The pages of a request tile what it finds. In an order that lists every column of the key the
rows that the request finds have one strictly sorted listing, each of them once. Whoever leafs
through the request, with pages of any size that the driver allows, comes to an empty page, and the
pages before it hold the entities of the listing, one after another. Every page, the empty one too,
says how many there are in all, and holds as many as there are behind its offset, and at most its
size. A term that is no pattern is refused at every offset. The number of rows is bounded far above
what a file of the engine can hold, so that every offset that is reached is a number of the engine.

Proof: all pages are windows of one listing, since the order tells the rows apart. Leafing
goes from each window to the one behind it until one is empty; the induction is on how many
entities are left. -/
theorem pages_tile_what_is_found {tables : List Table} {schema : Schema} {relation : Relation}
    {limit : Int64} (accepted : Schema.ofTables tables = .ok schema)
    (member : handle.table ∈ schema.tables) (undisturbed : store.host.outages = [])
    (reads : store.mayRead? = some true)
    (asked : request.IsAskedIn handle.table store.visible relation)
    (few : relation.rows.length < 2 ^ 62)
    (loads : ∀ row ∈ relation.rows, ∃ entity : Entity model,
      Entity.load handle.table row.values = .ok entity)
    (accepts : (request.counting handle.table).isOk = true)
    (sorts : request.SortsByKey handle.table)
    (valid : (request.ordering handle.table).isOk = true) (positive : 0 < limit)
    (allowed : limit ≤ store.driver.config.maxPageSize) :
    (∀ pattern, request.pattern handle.table = .ok pattern →
      ∃ (listing : List (List Stored)) (entities : List (Entity model)),
        listing.Perm
          ((relation.rows.map Row.values).filter (request.findsIn handle.table pattern)) ∧
        listing.Pairwise (fun left right =>
          request.rowsOrder handle.table left right = .lt) ∧
        listing.mapM (Entity.load handle.table) = .ok entities ∧
        (∃ pages last, Store.LeafsThrough handle request limit 0 store pages last) ∧
        ∀ pages last, Store.LeafsThrough handle request limit 0 store pages last →
          pages.flatMap SearchPage.entities = entities ∧
          ∀ index (within : index < pages.length),
            pages[index].total.toInt = entities.length ∧
              pages[index].offset.toInt = index * limit.toInt ∧
              pages[index].pageSize = limit ∧
              (pages[index].entities.length : Int) = max 0 (min limit.toInt
                (pages[index].total.toInt - pages[index].offset.toInt))) ∧
    ∀ fault, request.pattern handle.table = .error fault → ∀ offset : Int64, 0 ≤ offset.toInt →
      ∃ statement, ((Operation.search handle (request.pageAt limit offset)).apply store).1 =
        .error (.engine fault statement) := by
  have faultless := Schema.of_tables_fault? accepted handle.table member
  refine ⟨fun pattern parsed => ?_, fun fault refused offset notNegative =>
    asked.search_refused faultless undisturbed reads refused accepts positive allowed notNegative⟩
  obtain ⟨listing, entities, perm, sorted, loaded, offers⟩ :=
    asked.offers faultless undisturbed reads parsed few loads accepts sorts valid
  refine ⟨listing, entities, perm, sorted, loaded,
    offers.exists_leafs_through positive allowed rfl (Nat.dvd_zero _), fun pages last leafs => ?_⟩
  obtain ⟨together, windows⟩ := Store.Offers.leafed leafs offers positive allowed
    (show Int64.toInt 0 = (0 : Nat) from rfl) (Nat.dvd_zero _)
  refine ⟨together, fun index within => ?_⟩
  obtain ⟨window, total, offset, size⟩ := windows index within
  have totalIs : pages[index].total.toInt = entities.length := by
    rw [total, Int64.toInt_ofNat_of_lt (by have := offers.few; omega)]
  have sizeIs : (limit.toInt.toNat : Int) = limit.toInt :=
    Int.toNat_of_nonneg (Int.le_of_lt (Int64.to_int_pos positive))
  have offsetIs : pages[index].offset.toInt = index * limit.toInt := by
    rw [offset, Nat.zero_add, Int.natCast_mul, sizeIs]
  refine ⟨totalIs, offsetIs, size, ?_⟩
  rw [totalIs, offset, window, List.length_take, List.length_drop]
  omega

/-! ### Books about ships -/

namespace Library

/-- Books about a ship, by their titles. -/
def ships : Request :=
  { term := some "ship", sort := some ⟨[("title", .descending), ("shelf", .ascending)]⟩ }

end Library

open Library in
/-- Two books are about a ship. Whoever leafs through them one by one gets them on pages that all
say so. -/
theorem two_books_are_leafed_through :
    let store := stocked books copies
    store.host.outages = [] ∧ store.mayRead? = some true ∧
      ships.IsAskedIn book store.visible books ∧ ships.SortsByKey book ∧
      ships.pattern book = .ok (some ship) ∧
      ∃ pages last, Store.LeafsThrough reader ships 1 0 store pages last ∧
        (pages.flatMap SearchPage.entities).length = 2 ∧
        ∀ index (within : index < pages.length),
          pages[index].total.toInt = 2 ∧ pages[index].offset.toInt = index := by
  intro store
  have reads : store.mayRead? = some true := by decide +kernel
  have asked : ships.IsAskedIn book store.visible books := stocked_asked ships
  have sorts : ships.SortsByKey book := ⟨rfl, by decide +kernel⟩
  have parsed : ships.pattern book = .ok (some ship) := by decide +kernel
  have loads : ∀ row ∈ books.rows, ∃ entity : Entity bookModel,
      Entity.load reader.table row.values = .ok entity := by
    have each : ∀ row ∈ books.rows,
        (Entity.load book row.values : Except StoreError (Entity bookModel)).isOk = true := by
      decide +kernel
    exact fun row member => exists_of_is_ok (each row member)
  have found : ((books.rows.map Row.values).filter
      (ships.findsIn reader.table (some ship))).length = 2 := by decide +kernel
  have single : (1 : Int64) ≤ store.driver.config.maxPageSize := by decide +kernel
  obtain ⟨finds, -⟩ := pages_tile_what_is_found book_accepted
    (show reader.table ∈ [book] from List.mem_cons_self) rfl reads asked (by decide) loads
    (by decide +kernel) sorts (by decide +kernel) (by decide) single
  obtain ⟨listing, entities, perm, -, loaded, ⟨pages, last, leafs⟩, tile⟩ := finds _ parsed
  obtain ⟨together, each⟩ := tile pages last leafs
  have number : entities.length = 2 := by
    rw [← (map_m_ok loaded).length_eq, perm.length_eq, found]
  refine ⟨rfl, reads, asked, sorts, parsed, pages, last, leafs, by rw [together, number],
    fun index within => ?_⟩
  obtain ⟨total, offset, -, -⟩ := each index within
  rw [total, offset, number]
  exact ⟨rfl, Int.mul_one _⟩

end RecordStore
