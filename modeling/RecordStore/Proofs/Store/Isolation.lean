import RecordStore.Proofs.Query.Asked
import RecordStore.Proofs.Store.Reading

/-!
# Tenants do not see one another

A request with a partition is answered from the rows that have the attributes of the partition, and
from nothing else. Two stores that hold the same such rows, and whatever other rows, answer it
alike: when it counts, and when it finds or searches in an order that tells the rows apart.
-/

namespace RecordStore

open Engine Sql

/-- The values of the rows of a relation that have the attributes of a partition. -/
def Partition.share (partition : Partition) (table : Table) (relation : Relation) :
    List (List Stored) :=
  (relation.rows.map Row.values).filter fun values => partition.isMetIn table values

namespace Request

variable {request : Request} {partition : Partition} {table : Table}

/-- A request that says how to sort, and sorts by every column of the key of a table, in whatever
order and directions. -/
structure SortsByKey (request : Request) (table : Table) : Prop where
  isSome : request.sort.isSome = true
  lists : ∀ key ∈ table.primaryKey, key ∈ request.sortPairs.map Prod.fst

/-- The rows that a request means have the attributes of its partition. -/
theorem filter_means_share (confined : request.partition = some partition)
    (pattern : Option FullText.Pattern) (relation : Relation) :
    (relation.rows.map Row.values).filter (request.means table pattern) =
      (partition.share table relation).filter (request.means table pattern) := by
  rw [Partition.share, List.filter_filter]
  refine List.filter_congr fun values _ => ?_
  unfold means isMetIn
  rw [confined, Option.all_some]
  cases partition.isMetIn table values <;> simp

/-- Where a partition suits the table whenever there is a term, every partition of the request
does. -/
theorem suits_of_confined (confined : request.partition = some partition)
    (suits : request.term.isSome = true → partition.Suits table) :
    request.term.isSome = true → ∀ given ∈ request.partition, given.Suits table := by
  intro searches given member
  cases confined.symm.trans member
  exact suits searches

namespace IsAskedIn

variable {database : Database} {relation : Relation}

/-- An order that lists every column of the key tells the rows apart. -/
theorem eq_of_rows_order (asked : request.IsAskedIn table database relation)
    (sorts : request.SortsByKey table) {left right : List Stored}
    (leftMember : left ∈ relation.rows.map Row.values)
    (rightMember : right ∈ relation.rows.map Row.values)
    (notAfter : request.rowsOrder table left right ≠ .gt)
    (notBefore : request.rowsOrder table right left ≠ .gt) : left = right := by
  obtain ⟨leftRow, leftAmong, rfl⟩ := List.mem_map.mp leftMember
  obtain ⟨rightRow, rightAmong, rfl⟩ := List.mem_map.mp rightMember
  have held : table.IsReadIn database relation := asked.held.is_read_in asked.found
  have equal : request.rowsOrder table leftRow.values rightRow.values = .eq := by
    have swapped : request.rowsOrder table leftRow.values rightRow.values =
        (request.rowsOrder table rightRow.values leftRow.values).swap :=
      (transCmp_keysOrder request.sortPairs).eq_swap
    cases order : request.rowsOrder table rightRow.values leftRow.values with
    | lt => exact absurd (by rw [swapped, order]; rfl) notAfter
    | eq => rw [swapped, order]; rfl
    | gt => exact absurd order notBefore
  have sameKey : Relation.keyOrder (relation.project table.primaryKey leftRow)
      (relation.project table.primaryKey rightRow) = .eq := by
    refine (Relation.key_order_map_eq _ _ _).mpr fun key inKey => ?_
    obtain ⟨pair, among, rfl⟩ := List.mem_map.mp (sorts.lists key inKey)
    rw [held.value, held.value]
    exact keys_order_eq equal pair among
  rw [Table.one_of_key asked.unique leftAmong rightAmong sameKey]

/-- Two listings of the same rows in such an order are the same listing. -/
theorem listing_eq (asked : request.IsAskedIn table database relation)
    (sorts : request.SortsByKey table) {left right : List (List Stored)} (perm : left.Perm right)
    (members : ∀ values ∈ left, values ∈ relation.rows.map Row.values)
    (leftSorted : left.Pairwise fun first second => request.rowsOrder table first second ≠ .gt)
    (rightSorted : right.Pairwise fun first second => request.rowsOrder table first second ≠ .gt) :
    left = right :=
  perm.eq_of_pairwise (fun first second firstMember secondMember notAfter notBefore =>
    asked.eq_of_rows_order sorts (members first firstMember)
      (members second (perm.symm.subset secondMember)) notAfter notBefore) leftSorted rightSorted

end IsAskedIn

end Request

/-! ### Stores that hold the same rows of a tenant -/

/-- Two stores that are alike and of which a request can be asked, with the same rows that have the
attributes of a partition, in whatever order and beside whatever others. -/
structure Store.AgreeOn (request : Request) (partition : Partition) (table : Table)
    (left right : Store) : Prop extends left.Alike right where
  rows : ∃ leftRelation rightRelation, request.IsAskedIn table left.visible leftRelation ∧
    request.IsAskedIn table right.visible rightRelation ∧
    (partition.share table leftRelation).Perm (partition.share table rightRelation)

namespace Operation

variable {model : Model} {handle : Handle model} {request : Request} {partition : Partition}

/-- A query leaves agreeing stores agreeing, so it is blind to where they differ if its answer
is. -/
theorem answering_blind {table : Table} {query : Select Stored}
    (answers : ∀ (leftAccess rightAccess : Access) (leftRelation rightRelation : Relation),
      request.IsAskedIn table leftAccess.visible leftRelation →
      request.IsAskedIn table rightAccess.visible rightRelation →
      (partition.share table leftRelation).Perm (partition.share table rightRelation) → ∃ outcome,
        (leftAccess.run (.select query)).answer = (leftAccess.forReading.bind fun _ => outcome) ∧
          (rightAccess.run (.select query)).answer =
            rightAccess.forReading.bind fun _ => outcome) :
    IsBlindTo (Store.AgreeOn request partition table) (answering (.select query)) := by
  intro left right agree
  obtain ⟨leftRelation, rightRelation, leftAsked, rightAsked, same⟩ := agree.rows
  have leftRead := answering_is_read_to query left
  have rightRead := answering_is_read_to query right
  refine ⟨answering_alike agree.toAlike query
    fun leftAccess leftOpened rightAccess rightOpened reads =>
    ?_, agree.toAlike.read leftRead rightRead, leftRelation, rightRelation, ?_, ?_, same⟩
  · rw [Store.visible_of_access? leftOpened] at leftAsked
    rw [Store.visible_of_access? rightOpened] at rightAsked
    obtain ⟨outcome, leftAnswers, rightAnswers⟩ :=
      answers leftAccess rightAccess leftRelation rightRelation leftAsked rightAsked same
    rw [leftAnswers, rightAnswers, Access.for_reading_bind reads]
  · rw [leftRead.visible]
    exact leftAsked
  · rw [rightRead.visible]
    exact rightAsked

section Blind

variable (faultless : handle.table.fault? = none) (confined : request.partition = some partition)
  (suits : request.term.isSome = true → partition.Suits handle.table)

include faultless confined suits

/-- Counting is blind to the rows of others. -/
theorem count_blind :
    IsBlindTo (Store.AgreeOn request partition handle.table) (count handle request) := by
  refine .of_except_bind fun query made => .bind (answering_blind ?_) fun _ => .pure _
  intro leftAccess rightAccess leftRelation rightRelation leftAsked rightAsked same
  have suitsAll := Request.suits_of_confined confined suits
  refine ⟨(request.pattern handle.table).map fun pattern => ⟨["COUNT(*)"], [[.integer (Int64.ofNat
    ((partition.share handle.table leftRelation).filter
      (request.means handle.table pattern)).length)]]⟩, ?_, ?_⟩
  · rw [leftAsked.counts faultless suitsAll made]
    simp only [Request.filter_means_share confined]
  · rw [rightAsked.counts faultless suitsAll made]
    simp only [Request.filter_means_share confined, (same.filter _).length_eq]

/-- Finding a page is, in an order that tells the rows apart. -/
theorem find_page_blind (sorts : request.SortsByKey handle.table) {page : Page}
    (notNegative : 0 ≤ page.limit.toInt) :
    IsBlindTo (Store.AgreeOn request partition handle.table) (findPage handle request page) := by
  refine .of_except_bind fun query made => .bind (answering_blind ?_) fun _ => .of_except _
  intro leftAccess rightAccess leftRelation rightRelation leftAsked rightAsked same
  have suitsAll := Request.suits_of_confined confined suits
  obtain ⟨left, leftListed, leftAnswers⟩ := leftAsked.pages faultless suitsAll notNegative made
  obtain ⟨right, rightListed, rightAnswers⟩ := rightAsked.pages faultless suitsAll notNegative made
  rw [leftAnswers, rightAnswers]
  cases parsed : request.pattern handle.table with
  | error fault => exact ⟨.error fault, rfl, rfl⟩
  | ok pattern =>
    obtain ⟨leftPerm, leftSorted⟩ := leftListed pattern parsed
    obtain ⟨rightPerm, rightSorted⟩ := rightListed pattern parsed
    have members : ∀ values ∈ left, values ∈ leftRelation.rows.map Row.values :=
      fun values member => (List.mem_filter.mp (leftPerm.subset member)).1
    rw [Request.filter_means_share confined] at leftPerm rightPerm
    have one : left = right := leftAsked.listing_eq sorts
      ((leftPerm.trans (same.filter _)).trans rightPerm.symm) members (leftSorted sorts.isSome)
      (rightSorted sorts.isSome)
    exact ⟨_, rfl, by rw [one]⟩

/-- So is finding the page that the request asks for. -/
theorem find_blind (sorts : request.SortsByKey handle.table) :
    IsBlindTo (Store.AgreeOn request partition handle.table) (find handle request) := by
  intro left right agree
  rw [find, page_of_bind, page_of_bind, agree.config]
  cases resolved : Page.resolve request.limit request.offset right.driver.config.maxPageSize with
  | error problem => exact ⟨rfl, agree⟩
  | ok page =>
    exact find_page_blind faultless confined suits sorts
      (Page.resolve_ok resolved).1 left right agree

/-- So is searching: whether there is a page to find depends on the number of the rows. -/
theorem search_blind (sorts : request.SortsByKey handle.table) :
    IsBlindTo (Store.AgreeOn request partition handle.table) (search handle request) := by
  intro left right agree
  rw [search, page_of_bind, page_of_bind, agree.config]
  cases resolved : Page.resolve request.limit request.offset right.driver.config.maxPageSize with
  | error problem => exact ⟨rfl, agree⟩
  | ok page =>
    refine IsBlindTo.bind (count_blind faultless confined suits) (fun total => ?_) left right agree
    by_cases behind : total ≤ page.offset
    · simp only [behind, if_true]
      exact .bind (.pure _) fun _ => .pure _
    · simp only [behind, if_false]
      exact .bind (find_page_blind faultless confined suits sorts (Page.resolve_ok resolved).1)
        fun _ => .pure _

end Blind

/-! ### What is answered -/

/-- What is found on a page are entities of rows that the request finds. -/
theorem find_page_found (faultless : handle.table.fault? = none) {store : Store}
    {relation : Relation}
    (asked : request.IsAskedIn handle.table store.visible relation) {page : Page}
    (notNegative : 0 ≤ page.limit.toInt) {entities : List (Entity model)}
    (found : ((findPage handle request page).apply store).1 = .ok entities) :
    ∃ access pattern, store.access? = some access ∧ request.pattern handle.table = .ok pattern ∧
      ∀ entity ∈ entities,
        ∃ values ∈ (relation.rows.map Row.values).filter (request.findsIn handle.table pattern),
          Entity.load handle.table values = .ok entity := by
  obtain ⟨query, answer, made, answered, loads⟩ := find_page_ok found
  obtain ⟨access, opened, ran⟩ := answering_ok answered
  rw [Store.visible_of_access? opened] at asked
  obtain ⟨listing, listed, answers⟩ := asked.pages_found faultless notNegative made
  rw [answers] at ran
  obtain ⟨held, -, ran⟩ := bind_ok ran
  obtain ⟨pattern, parsed, rfl⟩ := map_ok ran
  refine ⟨access, pattern, opened, parsed, fun entity member => ?_⟩
  obtain ⟨values, among, loaded⟩ := exists_of_map_m_ok loads entity member
  have inListing : values ∈ listing := List.mem_of_mem_drop (List.mem_of_mem_take among)
  exact ⟨values, (listed pattern parsed).1.subset inListing, loaded⟩

section Answered

variable (faultless : handle.table.fault? = none) (confined : request.partition = some partition)
  (suits : request.term.isSome = true → partition.Suits handle.table) {store : Store}
  {relation : Relation} (asked : request.IsAskedIn handle.table store.visible relation)

include faultless confined suits asked

/-- What is counted are rows of the tenant. -/
theorem count_share {total : Int64} (counted : ((count handle request).apply store).1 = .ok total) :
    ∃ rows : List (List Stored), rows.Sublist (partition.share handle.table relation) ∧
      total = Int64.ofNat rows.length := by
  obtain ⟨query, answer, made, answered, rfl⟩ := count_ok counted
  obtain ⟨access, opened, ran⟩ := answering_ok answered
  rw [Store.visible_of_access? opened] at asked
  rw [asked.counts faultless (Request.suits_of_confined confined suits) made] at ran
  obtain ⟨held, -, ran⟩ := bind_ok ran
  obtain ⟨pattern, -, rfl⟩ := map_ok ran
  refine ⟨(partition.share handle.table relation).filter (request.means handle.table pattern),
    List.filter_sublist, ?_⟩
  rw [← Request.filter_means_share confined]
  rfl

/-- What is found on a page are entities of rows of the tenant. -/
theorem find_page_share {page : Page} (notNegative : 0 ≤ page.limit.toInt)
    {entities : List (Entity model)}
    (found : ((findPage handle request page).apply store).1 = .ok entities) :
    ∀ entity ∈ entities, ∃ values ∈ partition.share handle.table relation,
      Entity.load handle.table values = .ok entity := by
  obtain ⟨access, pattern, opened, -, each⟩ := find_page_found faultless asked notNegative found
  rw [Store.visible_of_access? opened] at asked
  intro entity member
  obtain ⟨values, among, loaded⟩ := each entity member
  rw [asked.filter_means (Request.suits_of_confined confined suits),
    Request.filter_means_share confined] at among
  exact ⟨values, (List.mem_filter.mp among).1, loaded⟩

/-- What a request finds are entities of rows of the tenant. -/
theorem find_share {entities : List (Entity model)}
    (found : ((find handle request).apply store).1 = .ok entities) :
    ∀ entity ∈ entities, ∃ values ∈ partition.share handle.table relation,
      Entity.load handle.table values = .ok entity := by
  obtain ⟨page, resolved, onPage⟩ := find_ok found
  exact find_page_share faultless confined suits asked (Page.resolve_ok resolved).1 onPage

/-- What it searches too. -/
theorem search_share {answer : SearchPage model}
    (found : ((search handle request).apply store).1 = .ok answer) :
    ∀ entity ∈ answer.entities, ∃ values ∈ partition.share handle.table relation,
      Entity.load handle.table values = .ok entity := by
  rcases search_ok found with none | ⟨page, counted, resolved, sight, onPage⟩
  · rw [none]
    nofun
  · rw [← sight] at asked
    exact find_page_share faultless confined suits asked (Page.resolve_ok resolved).1 onPage

end Answered

end Operation

/-- Tenants do not see one another. Two stores that hold the same rows with the attributes of a
partition, and whatever other rows, answer every request with that partition alike: when it counts,
and when it finds or searches in an order that lists every column of the key. What is counted are
rows of the tenant, and what is found are entities of rows of the tenant.

Proof: what is counted and found depends on the rows that meet the request, and those have the
attributes of the partition. An order that lists the key has one sorted listing of them, wherever
they stand. -/
theorem tenants_do_not_see_one_another {model : Model} {handle : Handle model} {tables : List Table}
    {schema : Schema} {request : Request} {partition : Partition} {left right : Store}
    {leftRelation rightRelation : Relation}
    (accepted : Schema.ofTables tables = .ok schema) (member : handle.table ∈ schema.tables)
    (confined : request.partition = some partition)
    (suits : request.term.isSome = true → partition.Suits handle.table) (alike : left.Alike right)
    (leftAsked : request.IsAskedIn handle.table left.visible leftRelation)
    (rightAsked : request.IsAskedIn handle.table right.visible rightRelation)
    (same : (partition.share handle.table leftRelation).Perm
      (partition.share handle.table rightRelation)) :
    ((Operation.count handle request).apply left).1 =
        ((Operation.count handle request).apply right).1 ∧
      (request.SortsByKey handle.table →
        ((Operation.find handle request).apply left).1 =
            ((Operation.find handle request).apply right).1 ∧
          ((Operation.search handle request).apply left).1 =
            ((Operation.search handle request).apply right).1) ∧
      (∀ total, ((Operation.count handle request).apply left).1 = .ok total →
        ∃ rows : List (List Stored),
          rows.Sublist (partition.share handle.table leftRelation) ∧
            total = Int64.ofNat rows.length) ∧
      (∀ entities, ((Operation.find handle request).apply left).1 = .ok entities →
        ∀ entity ∈ entities, ∃ values ∈ partition.share handle.table leftRelation,
          Entity.load handle.table values = .ok entity) ∧
      ∀ answer, ((Operation.search handle request).apply left).1 = .ok answer →
        ∀ entity ∈ answer.entities, ∃ values ∈ partition.share handle.table leftRelation,
          Entity.load handle.table values = .ok entity := by
  have faultless := Schema.of_tables_fault? accepted handle.table member
  have agree : left.AgreeOn request partition handle.table right :=
    ⟨alike, leftRelation, rightRelation, leftAsked, rightAsked, same⟩
  refine ⟨(Operation.count_blind faultless confined suits left right agree).1, fun sorts =>
    ⟨(Operation.find_blind faultless confined suits sorts left right agree).1,
      (Operation.search_blind faultless confined suits sorts left right agree).1⟩, ?_, ?_, ?_⟩
  · exact fun total => Operation.count_share faultless confined suits leftAsked
  · exact fun entities => Operation.find_share faultless confined suits leftAsked
  · exact fun answer => Operation.search_share faultless confined suits leftAsked

/-! ### Two libraries -/

namespace Library

/-- A book under the model of the library. -/
def bookModel : Model := ⟨"book", book.columns.map fun column => ⟨.text, column⟩⟩

/-- The handle of the readers. -/
def reader : Handle bookModel := ⟨book, rfl⟩

/-- A store with books and their copies in memory. -/
def stocked (books : Relation) (copies : FullTextTable) : Store :=
  ⟨{ config := {}, connection := some { number := 0, location := .memory 0 } },
    { disk := { volumes :=
      [(.memory 0, { content := { objects := [.relation books, .fullText copies] } })] } }⟩

/-- Every request can be asked of a stocked library. -/
theorem stocked_asked (request : Request) :
    request.IsAskedIn book (stocked books copies).visible books :=
  ⟨by decide +kernel, books_mirrored.held, books_mirrored.unique, fun _ =>
    ⟨copies, by decide +kernel, by decide +kernel, books_mirrored⟩⟩

/-- The same books on the northern shelf, in another order, and other ones on the southern. -/
def otherBooks : Relation :=
  { books with rows := [⟨0, [.text "south", .text "Ants", .text "a ship of ants, a ship of bees"]⟩,
    whales, ⟨0, [.text "north", .text "Dunes", .text "worms under sand"]⟩] }

/-- Their copies. -/
def otherCopies : FullTextTable :=
  { copies with rows := [⟨1, [.text "north", .text "Dunes", .text "worms under sand"]⟩,
    ⟨2, [.text "south", .text "Ants", .text "a ship of ants, a ship of bees"]⟩,
    ⟨5, whales.values⟩] }

/-- The northern shelf. -/
def north : Partition := ⟨[("shelf", .text "north")]⟩

/-- Books about a ship on the northern shelf, by their titles. -/
def byTitle : Request :=
  { northern with sort := some ⟨[("title", .descending), ("shelf", .ascending)]⟩ }

end Library

open Library in
/-- A search on the northern shelf does not see what stands on the southern one. -/
theorem northern_readers_do_not_see_the_south :
    let left := stocked books copies
    let right := stocked otherBooks otherCopies
    Schema.ofTables [book] = .ok ⟨[book]⟩ ∧ byTitle.partition = some north ∧ north.Suits book ∧
      left.Alike right ∧ byTitle.IsAskedIn book left.visible books ∧
      byTitle.IsAskedIn book right.visible otherBooks ∧
      (north.share book books).Perm (north.share book otherBooks) ∧
      byTitle.SortsByKey book ∧
      ((Operation.count reader byTitle).apply left).1 =
        ((Operation.count reader byTitle).apply right).1 ∧
      ((Operation.find reader byTitle).apply left).1 =
        ((Operation.find reader byTitle).apply right).1 ∧
      ((Operation.search reader byTitle).apply left).1 =
        ((Operation.search reader byTitle).apply right).1 := by
  intro left right
  have suits : north.Suits book := by
    intro held member
    cases List.mem_singleton.mp member
    have carried : "shelf" ∈ book.carriedColumns := by decide +kernel
    exact ⟨carried, by rintro _ ⟨⟩; rfl⟩
  have rightStored : ∀ row ∈ otherBooks.rows, ∀ attr ∈ otherBooks.attributes,
      otherBooks.value row attr.name = attr.affinity.store (otherBooks.value row attr.name) := by
    decide +kernel
  have rightPresent : ∀ row ∈ otherBooks.rows, ∀ key ∈ book.primaryKey,
      (otherBooks.value row key).isNull = false := by decide +kernel
  have rightMirrored : book.MirroredBy otherBooks otherCopies := {
    held := ⟨"", { books with rows := [] }, by decide +kernel, rfl, by decide⟩
    stored := fun row member attr among => ⟨_, rightStored row member attr among⟩
    present := rightPresent
    unique := by decide +kernel
    carried := by decide +kernel
    copies := by decide +kernel }
  have leftAsked : byTitle.IsAskedIn book left.visible books := stocked_asked byTitle
  have rightAsked : byTitle.IsAskedIn book right.visible otherBooks :=
    ⟨by decide +kernel, rightMirrored.held, rightMirrored.unique, fun _ =>
      ⟨otherCopies, by decide +kernel, by decide +kernel, rightMirrored⟩⟩
  have same : (north.share book books).Perm (north.share book otherBooks) := by decide +kernel
  have alike : left.Alike right := ⟨rfl, rfl, by decide +kernel⟩
  have sorts : byTitle.SortsByKey book := ⟨rfl, by decide +kernel⟩
  obtain ⟨counts, finds, -, -, -⟩ := tenants_do_not_see_one_another book_accepted
    (show reader.table ∈ [book] from List.mem_cons_self) rfl (fun _ => suits)
      alike leftAsked rightAsked same
  exact ⟨book_accepted, rfl, suits, alike, leftAsked, rightAsked, same, sorts, counts,
    (finds sorts).1, (finds sorts).2⟩

end RecordStore
