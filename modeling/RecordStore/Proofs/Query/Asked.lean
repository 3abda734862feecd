import RecordStore.Proofs.Query.Merged
import RecordStore.Proofs.Query.Search

/-!
# What a request is answered

A request is asked of a database that has its table, with keys that tell the rows apart, and with a
full-text table that mirrors the table if the request has a term. Its queries, run as they stand,
are answered by the rows that the request means: with their number, or with the page of one listing.
A term that is no pattern is refused, and nothing else about the rows decides that.
-/

namespace RecordStore

open Engine Sql

/-! ### Queries that are run as they stand -/

section Run

variable {table : Table} {access : Access} {relation : Relation} {query : Select Stored}

/-- A query of a table answers as its text does. -/
theorem Table.IsAskedBy.run_run_text {condition : Option Condition}
    (asked : table.IsAskedBy condition query) (faultless : table.fault? = none)
    (held : table.IsReadIn access.visible relation)
    (within : ∀ whole ∈ condition, whole.Within (table.NamesUnder none))
    (readBack : ∀ whole ∈ condition, whole.Written 0) :
    (access.run (.select query)).answer =
      (access.runText query.fragment.text query.fragment.operands).answer := by
  have merged : query.merged = query := by
    have conditions : query.conditions.map merge = query.conditions := by
      rw [asked.conditions]
      cases condition <;> rfl
    unfold Select.merged
    rw [conditions, asked.joins]
    exact congrArg (fun joins => { query with joins }) asked.joins.symm
  refine Access.run_select_run_text ?_ fun replace => ?_
  · rw [merged]
    exact asked.written faultless readBack
  · rw [merged]
    refine (asked.map_operands replace).checked held fun whole member => ?_
    obtain ⟨before, among, rfl⟩ := Option.map_eq_some_iff.mp member
    exact (Expression.within_map_operands _ before).mpr (within before among)

/-- So does a query that searches. -/
theorem Table.IsSearchedBy.run_run_text {belonging confined : List Condition} {term : Stored}
    {shadow : FullTextTable} (asked : table.IsSearchedBy belonging confined term query.merged)
    (faultless : table.fault? = none) (held : table.IsSearchedIn access.visible relation shadow)
    (nonempty : belonging ≠ [])
    (within : ∀ condition ∈ belonging ++ confined, condition.Within table.NamesSearched)
    (readBack : ∀ condition ∈ belonging ++ confined, condition.Written 3) :
    (access.run (.select query)).answer =
      (access.runText query.fragment.text query.fragment.operands).answer := by
  refine Access.run_select_run_text (asked.written faultless nonempty readBack) fun replace => ?_
  refine (asked.map_operands replace).checked held ?_
  rw [← List.map_append]
  exact Expression.within_map _ within

end Run

/-! ### Requests and their rows -/

namespace Request

/-- The pattern that a request asks for, if it has a term. -/
def pattern (request : Request) (table : Table) : Except Fault (Option FullText.Pattern) :=
  match request.term with
  | none => .ok none
  | some term => (FullText.Pattern.parse table.carriedColumns term).map some

/-- Whether a request means a row: the row meets it and has what its pattern asks for. -/
def means (request : Request) (table : Table) (pattern : Option FullText.Pattern)
    (values : List Stored) : Bool :=
  request.isMetIn table values && pattern.all fun pattern => table.answers pattern values

/-- Whether a request finds a row: the row meets it and has what its pattern asks for. A request
with a term asks the copy of the row for the partition. -/
def findsIn (request : Request) (table : Table) (pattern : Option FullText.Pattern)
    (values : List Stored) : Bool :=
  (if request.term.isSome then request.isMetInSearch table values
    else request.isMetIn table values) &&
    pattern.all fun pattern => table.answers pattern values

/-- A database of which a request can be asked: it has the table, with keys that tell its rows
apart, and if the request has a term, a full-text table that mirrors it. -/
structure IsAskedIn (request : Request) (table : Table) (database : Database)
    (relation : Relation) : Prop where
  found : database.relation? table.name = some relation
  held : table.IsHeldAs relation
  unique : relation.rows.Pairwise fun left right => Relation.keyOrder
    (relation.project table.primaryKey left) (relation.project table.primaryKey right) ≠ .eq
  mirrored : request.term.isSome = true → ∃ shadow,
    database.fullText? table.shadowName = some shadow ∧
      database.relation? table.shadowName = none ∧ table.MirroredBy relation shadow

variable {request : Request} {table : Table}

/-- A request without a term has no pattern. -/
theorem pattern_of_plain (plain : request.term = none) : request.pattern table = .ok none := by
  unfold pattern
  rw [plain]

/-- A request with a term has the pattern that is read from it. -/
theorem pattern_of_term {term : String} (asks : request.term = some term) :
    request.pattern table = (FullText.Pattern.parse table.carriedColumns term).map some := by
  unfold pattern
  rw [asks]

/-- The rows that a request finds are those that meet it and have what its pattern asks for. -/
theorem filter_finds_in (request : Request) (table : Table) (pattern : Option FullText.Pattern)
    (rows : List Row) :
    (rows.map Row.values).filter (request.findsIn table pattern) =
      ((rows.filter fun row => if request.term.isSome then request.isMetInSearch table row.values
          else request.isMetIn table row.values).filter fun row =>
        pattern.all fun pattern => table.answers pattern row.values).map Row.values := by
  rw [List.filter_map, List.filter_filter]
  refine congrArg _ (List.filter_congr fun row _ => ?_)
  exact Bool.and_comm _ _

/-- A request with a term that counts can search. -/
theorem can_search_of_counting {term : String} (asks : request.term = some term)
    {query : Select Stored} (made : request.counting table = .ok query) :
    table.isAnalyzed = true ∧ request.CanSearch table term := by
  obtain ⟨rows, rowsMade, -⟩ := counting_ok made
  rw [rows_asking asks] at rowsMade
  obtain ⟨analyzed, words, asked, confined, askedMade, confinedMade, -⟩ := matched_rows_ok rowsMade
  refine ⟨analyzed, asks, words, fun criteria given => ?_, (shadow_conditions_ok confinedMade).2⟩
  rw [given] at askedMade
  have accepted : criteria.conditions table (some tableAlias) = .ok asked := askedMade
  rw [criteria.conditions_is_ok table none (some tableAlias), accepted]
  rfl

/-- A request that finds counts, and its order compiles. -/
theorem counting_of_finding {page : Page} {query : Select Stored}
    (made : request.finding table page = .ok query) :
    (∃ counting, request.counting table = .ok counting) ∧
      (request.ordering table).isOk = true := by
  obtain ⟨rows, keys, rowsMade, keysMade, -⟩ := finding_ok made
  rw [counting_eq, rowsMade, keysMade]
  exact ⟨⟨_, rfl⟩, rfl⟩

/-- A plain request that counts finds, if it does not sort. -/
theorem unsorted_finding (plain : request.term = none) {query : Select Stored}
    (made : request.counting table = .ok query) (page : Page) :
    ∃ found, Request.finding { request with sort := none } table page = .ok found := by
  obtain ⟨rows, rowsMade, -⟩ := counting_ok made
  rw [rows_plain plain] at rowsMade
  have unsortedMade : Request.rows { request with sort := none } table = .ok rows :=
    (rows_plain plain).trans rowsMade
  have unsorted : Request.ordering { request with sort := none } table = .ok [] :=
    ordering_plain rfl plain
  rw [finding_of_rows unsortedMade, unsorted]
  exact ⟨_, rfl⟩

/-- The number of the rows that meet a request without a term is what counting answers. -/
theorem plain_counts {access : Access} {relation : Relation} {query : Select Stored}
    (plain : request.term = none) (faultless : table.fault? = none)
    (read : table.IsReadIn access.visible relation) (made : request.counting table = .ok query) :
    (access.run (.select query)).answer = access.forReading.bind fun _ =>
      .ok ⟨["COUNT(*)"], [[.integer (Int64.ofNat
        (relation.rows.filter fun row => request.isMetIn table row.values).length)]]⟩ := by
  obtain ⟨found, finds⟩ := unsorted_finding plain made ⟨0, 0⟩
  have unsorted : Request.term { request with sort := none } = none := plain
  have counts : Request.counting { request with sort := none } table = .ok query := made
  obtain ⟨listing, perm, -, -, counting, countingMade, answered⟩ :=
    plain_answers faultless read unsorted finds
  obtain ⟨conditions, stated, -, -, countsToo⟩ := plain_compiles unsorted finds
  cases counts.symm.trans countsToo
  obtain ⟨demands, compiled, -⟩ := stated_conditions_compiled stated
  obtain ⟨within, readBack⟩ := Table.compiled_condition faultless compiled
  cases made.symm.trans countingMade
  rw [Table.count_query_asked.run_run_text faultless read within readBack, answered, perm.length_eq]
  rfl

namespace IsAskedIn

variable {access : Access} {relation : Relation} {query : Select Stored}

/-- A database of which a request can be asked holds the table of the request. -/
theorem is_read_in (asked : request.IsAskedIn table access.visible relation) :
    table.IsReadIn access.visible relation := asked.held.is_read_in asked.found

/-- The full-text table that a request with a term is asked of. -/
theorem searched (asked : request.IsAskedIn table access.visible relation) {term : String}
    (asks : request.term = some term) : ∃ shadow,
      table.IsSearchedIn access.visible relation shadow ∧ table.MirroredBy relation shadow := by
  obtain ⟨shadow, shadowed, unrelated, mirrored⟩ := asked.mirrored (by rw [asks]; rfl)
  exact ⟨shadow, ⟨asked.is_read_in, shadowed, unrelated, mirrored.carried⟩, mirrored⟩

/-- The queries of a request answer as their texts do. -/
theorem run_run_text (asked : request.IsAskedIn table access.visible relation)
    (faultless : table.fault? = none)
    (made : request.counting table = .ok query ∨ ∃ page, request.finding table page = .ok query) :
    (access.run (.select query)).answer =
      (access.runText query.fragment.text query.fragment.operands).answer := by
  obtain ⟨-, nonempty, -⟩ := Table.identifiers_of_fault? faultless
  have counts : ∃ counting, request.counting table = .ok counting := by
    rcases made with counting | ⟨page, finding⟩
    · exact ⟨query, counting⟩
    · exact (counting_of_finding finding).1
  obtain ⟨counting, countingMade⟩ := counts
  cases asks : request.term with
  | none =>
    obtain ⟨found, finds⟩ := unsorted_finding asks countingMade ⟨0, 0⟩
    have plain : Request.term { request with sort := none } = none := asks
    obtain ⟨conditions, stated, -, -, countsToo⟩ := plain_compiles plain finds
    obtain ⟨demands, compiled, -⟩ := stated_conditions_compiled stated
    obtain ⟨within, readBack⟩ := Table.compiled_condition faultless compiled
    rcases made with counting | ⟨page, finding⟩
    · cases counting.symm.trans countsToo
      exact Table.count_query_asked.run_run_text faultless asked.is_read_in within readBack
    · obtain ⟨others, statedToo, known, pages, -⟩ := plain_compiles asks finding
      cases stated.symm.trans statedToo
      cases finding.symm.trans (pages page)
      exact (Table.page_query_asked nonempty known).run_run_text faultless asked.is_read_in within
        readBack
  | some term =>
    obtain ⟨analyzed, searches⟩ := can_search_of_counting asks countingMade
    obtain ⟨shadow, held, -⟩ := asked.searched asks
    obtain ⟨requested, confined, under, countsToo, finds⟩ := searches.compiles analyzed
    have keyed : table.primaryKey ≠ [] := (Table.is_admitted_of_fault? faultless).keyed analyzed
    have belongs : table.belonging requested ≠ [] := by
      simp [Table.belonging, keyConditions, keyed]
    have within := under.within searches.carried
    have readBack := under.written faultless
    rcases made with counting | ⟨page, finding⟩
    · cases counting.symm.trans countsToo
      exact Table.found_count_query_searched.run_run_text faultless held belongs within readBack
    · rw [finds page] at finding
      cases order : request.ordering table with
      | error problem =>
        rw [order] at finding
        cases finding
      | ok keys =>
        rw [order] at finding
        cases finding
        exact (Table.found_query_searched nonempty (searches.ordering_named order)
          page).run_run_text faultless held belongs within readBack

/-- The number of the rows that a request finds is what counting answers. -/
theorem counts_found (asked : request.IsAskedIn table access.visible relation)
    (faultless : table.fault? = none) (made : request.counting table = .ok query) :
    (access.run (.select query)).answer = access.forReading.bind fun _ =>
      (request.pattern table).map fun pattern => ⟨["COUNT(*)"], [[.integer (Int64.ofNat
        ((relation.rows.map Row.values).filter (request.findsIn table pattern)).length)]]⟩ := by
  simp only [filter_finds_in, List.length_map]
  cases asks : request.term with
  | none =>
    rw [plain_counts asks faultless asked.is_read_in made, pattern_of_plain asks]
    simp only [Except.map, Option.all_none, List.filter_true]
    rfl
  | some term =>
    obtain ⟨analyzed, searches⟩ := can_search_of_counting asks made
    obtain ⟨shadow, held, mirrored⟩ := asked.searched asks
    cases parsed : FullText.Pattern.parse table.carriedColumns term with
    | error fault =>
      obtain ⟨counting, countingMade, answered⟩ :=
        (searches.is_refused_with faultless analyzed held parsed).counts
      cases made.symm.trans countingMade
      rw [asked.run_run_text faultless (.inl made), answered, pattern_of_term asks, parsed]
      rfl
    | ok pattern =>
      obtain ⟨found, perm, -, answeredBy⟩ :=
        searches.is_answered_by faultless analyzed held mirrored parsed
      obtain ⟨counting, countingMade, answered⟩ := answeredBy.counts
      cases made.symm.trans countingMade
      rw [asked.run_run_text faultless (.inl made), answered, pattern_of_term asks, parsed,
        perm.length_eq]
      rfl

/-- A page of one listing of the rows that a request finds is what finding answers. The listing is
sorted if the request says how. -/
theorem pages_found (asked : request.IsAskedIn table access.visible relation)
    (faultless : table.fault? = none) {page : Page} (notNegative : 0 ≤ page.limit.toInt)
    (made : request.finding table page = .ok query) :
    ∃ listing : List (List Stored),
      (∀ pattern, request.pattern table = .ok pattern →
        listing.Perm ((relation.rows.map Row.values).filter (request.findsIn table pattern)) ∧
          (request.sort.isSome = true → listing.Pairwise
            fun left right => request.rowsOrder table left right ≠ .gt)) ∧
      (access.run (.select query)).answer = access.forReading.bind fun _ =>
        (request.pattern table).map fun _ => ⟨table.columnNames,
          (listing.drop page.offset.toInt.toNat).take page.limit.toInt.toNat⟩ := by
  rw [asked.run_run_text faultless (.inr ⟨page, made⟩)]
  simp only [filter_finds_in]
  cases asks : request.term with
  | none =>
    rw [pattern_of_plain asks]
    obtain ⟨listing, perm, sorted, pages, -⟩ :=
      plain_answers faultless asked.is_read_in asks made
    obtain ⟨same, sameMade, answered⟩ := pages page notNegative
    cases made.symm.trans sameMade
    refine ⟨listing.map Row.values, ?_, ?_⟩
    · rintro _ ⟨⟩
      simp only [Option.all_none, List.filter_true, List.pairwise_map]
      exact ⟨perm.map _, fun _ => sorted⟩
    · rw [answered, List.map_take, List.map_drop]
      rfl
  | some term =>
    obtain ⟨⟨counting, countingMade⟩, sorts⟩ := counting_of_finding made
    obtain ⟨analyzed, searches⟩ := can_search_of_counting asks countingMade
    obtain ⟨shadow, held, mirrored⟩ := asked.searched asks
    rw [pattern_of_term asks]
    cases parsed : FullText.Pattern.parse table.carriedColumns term with
    | error fault =>
      exact ⟨[], nofun, (searches.is_refused_with faultless analyzed held parsed).pages
        page query made⟩
    | ok pattern =>
      obtain ⟨found, perm, sorted, answeredBy⟩ :=
        searches.is_answered_by faultless analyzed held mirrored parsed
      refine ⟨found.map Row.values, ?_, ?_⟩
      · rintro _ ⟨⟩
        simp only [Option.all_some, List.pairwise_map]
        exact ⟨perm.map _, fun isSorted => sorted isSorted sorts⟩
      · rw [answeredBy.pages page query notNegative made, List.map_take, List.map_drop]
        rfl

/-- If the partition of a request with a term suits the table, what the request finds is what it
means. -/
theorem filter_means (asked : request.IsAskedIn table access.visible relation)
    (suits : request.term.isSome = true → ∀ partition ∈ request.partition, partition.Suits table)
    (pattern : Option FullText.Pattern) :
    (relation.rows.map Row.values).filter (request.findsIn table pattern) =
      (relation.rows.map Row.values).filter (request.means table pattern) := by
  refine List.filter_congr fun values member => ?_
  obtain ⟨row, among, rfl⟩ := List.mem_map.mp member
  unfold findsIn means
  split
  · rename_i searches
    obtain ⟨shadow, -, -, mirrored⟩ := asked.mirrored searches
    rw [mirrored.is_met_in_search asked.is_read_in (suits searches) among]
  · rfl

/-- The number of the rows that a request means is what counting answers. -/
theorem counts (asked : request.IsAskedIn table access.visible relation)
    (faultless : table.fault? = none)
    (suits : request.term.isSome = true → ∀ partition ∈ request.partition, partition.Suits table)
    (made : request.counting table = .ok query) :
    (access.run (.select query)).answer = access.forReading.bind fun _ =>
      (request.pattern table).map fun pattern => ⟨["COUNT(*)"], [[.integer (Int64.ofNat
        ((relation.rows.map Row.values).filter (request.means table pattern)).length)]]⟩ := by
  simp only [asked.counts_found faultless made, asked.filter_means suits]

/-- A page of one listing of the rows that a request means is what finding answers. The listing is
sorted if the request says how. -/
theorem pages (asked : request.IsAskedIn table access.visible relation)
    (faultless : table.fault? = none)
    (suits : request.term.isSome = true → ∀ partition ∈ request.partition, partition.Suits table)
    {page : Page} (notNegative : 0 ≤ page.limit.toInt)
    (made : request.finding table page = .ok query) : ∃ listing : List (List Stored),
      (∀ pattern, request.pattern table = .ok pattern →
        listing.Perm ((relation.rows.map Row.values).filter (request.means table pattern)) ∧
          (request.sort.isSome = true → listing.Pairwise
            fun left right => request.rowsOrder table left right ≠ .gt)) ∧
      (access.run (.select query)).answer = access.forReading.bind fun _ =>
        (request.pattern table).map fun _ => ⟨table.columnNames,
          (listing.drop page.offset.toInt.toNat).take page.limit.toInt.toNat⟩ := by
  obtain ⟨listing, listed, answered⟩ := asked.pages_found faultless notNegative made
  simp only [asked.filter_means suits] at listed
  exact ⟨listing, listed, answered⟩

end IsAskedIn

end Request

end RecordStore
