import RecordStore.Proofs.Query.Pairs

/-!
# What a request with a term means

Where the full-text table mirrors its table, a request with a term means the rows that the request
means without it and that have what the term asks for in their analyzed columns.
-/

namespace RecordStore

open Engine Sql Request

/-! ### What is found -/

section Found

variable {table : Table} {database : Database} {relation : Relation} {shadow : FullTextTable}
  {request : Request} {asked confined : List Condition} {term : String}
  {pattern : FullText.Pattern}

/-- Whether a row has what a pattern asks for in its analyzed columns. -/
def Table.answers (table : Table) (pattern : FullText.Pattern) (values : List Stored) : Bool :=
  pattern.holds (table.wordsIn values)

/-- Whether a pair is one of those that a query that searches is about. -/
def Table.isPaired (table : Table) (relation : Relation) (shadow : FullTextTable)
    (asked confined : List Condition) (term : String) (pair : (Row × Stored) × Row) : Bool :=
  allHold (pairScope shadow relation pair)
      (some (merge (confined.map (Expression.mapOperands Stored.bound) ++
        [table.matching (.text term)]))) &&
    allHold (pairScope shadow relation pair)
      (some (merge ((table.belonging asked).map (Expression.mapOperands Stored.bound))))

/-- The rows of the pairs are the rows that meet the request apart from its term and have what the
term asks for. -/
theorem Table.MirroredBy.paired_perm (mirrored : table.MirroredBy relation shadow)
    (held : table.IsSearchedIn database relation shadow)
    (carried : ∀ partition ∈ request.partition, partition.IsCarriedIn table)
    (under : request.SearchesUnder table asked confined)
    (parsed : FullText.Pattern.parse table.carriedColumns term = .ok pattern)
    (query : Select Stored) :
    ((pairs (table.isPaired relation shadow asked confined term) (shadow.ranked pattern)
      (rowsRead query relation)).map Prod.snd).Perm
      ((relation.rows.filter fun row => request.isMetInSearch table row.values).filter fun row =>
        table.answers pattern row.values) := by
  obtain ⟨demands, compiled, met⟩ := under.asked
  have decides : ∀ pair : (Row × Stored) × Row, ∀ own ∈ relation.rows, pair.2 ∈ relation.rows →
      pair.1.1.values = relation.project table.carriedColumns own →
      table.isPaired relation shadow asked confined term pair =
        ((request.partition.all (Partition.isMetInCopy table own.values) &&
          table.answers pattern own.values) &&
        ((Relation.keyOrder (relation.project table.primaryKey own)
          (relation.project table.primaryKey pair.2) == .eq) &&
            request.criteria.all (Criteria.isMetIn table pair.2.values))) := by
    intro pair own ownMember member copies
    rw [isPaired, held.confined carried under.confined parsed copies,
      mirrored.belongs held compiled ownMember member copies, met]
    rfl
  have perm := mirrored.pairs_perm (rows_read_perm query relation) (shadow.ranked_rows pattern)
    (table.isPaired relation shadow asked confined term)
    (fun own => request.partition.all (Partition.isMetInCopy table own.values) &&
      table.answers pattern own.values)
    (fun row => request.criteria.all (Criteria.isMetIn table row.values)) decides
  refine perm.trans (.of_eq ?_)
  rw [List.filter_filter]
  refine List.filter_congr fun row _ => ?_
  rw [Request.isMetInSearch, Bool.and_comm (request.partition.all _), Bool.and_assoc]

/-- The scopes of a query that searches are its pairs. -/
theorem Table.IsSearchedBy.scopes_paired {query : Select Stored}
    (searched : table.IsSearchedBy
      ((table.belonging asked).map (Expression.mapOperands Stored.bound))
      (confined.map (Expression.mapOperands Stored.bound)) (.text term) query)
    (held : table.IsSearchedIn database relation shadow)
    (within : ∀ condition ∈ table.belonging asked ++ confined,
      condition.Within table.NamesSearched) :
    Engine.scopes database query =
      (FullText.Pattern.parse table.carriedColumns term).map fun pattern =>
        (pairs (table.isPaired relation shadow asked confined term) (shadow.ranked pattern)
          (rowsRead query relation)).map (pairScope shadow relation) := by
  have bound : ∀ condition ∈ (table.belonging asked).map (Expression.mapOperands Stored.bound) ++
      confined.map (Expression.mapOperands Stored.bound), condition.Within table.NamesSearched := by
    rw [← List.map_append]
    exact Expression.within_map _ within
  rw [searched.scopes held bound, searched.conditions]
  rfl

/-- The query for a page of what is found as the engine runs it, with its operands bound. -/
def Table.boundFound (table : Table) (asked confined : List Condition) (term : String)
    (keys : List (OrderKey Stored)) (page : Page) : Select Stored :=
  (table.foundQuery asked confined term keys page).merged.mapOperands Stored.bound

/-- It searches with these operands, if it sorts by columns that it may name. -/
theorem Table.bound_found_searched (nonempty : table.columns ≠ [])
    (asked confined : List Condition) (term : String) {keys : List (OrderKey Stored)}
    (named : ∀ key ∈ keys, ∃ source name,
      table.NamesSearched source name ∧ key.expression = .column source name) (page : Page) :
    table.IsSearchedBy ((table.belonging asked).map (Expression.mapOperands Stored.bound))
      (confined.map (Expression.mapOperands Stored.bound)) (.text term)
      (table.boundFound asked confined term keys page) :=
  (found_query_searched nonempty named page).map_operands Stored.bound

/-- The pairs that such a query is about. Its window takes no part in them, so they are those of the
query for an empty page. -/
def Table.foundPairs (table : Table) (relation : Relation) (shadow : FullTextTable)
    (asked confined : List Condition) (term : String) (pattern : FullText.Pattern)
    (keys : List (OrderKey Stored)) : List ((Row × Stored) × Row) :=
  pairs (table.isPaired relation shadow asked confined term) (shadow.ranked pattern)
    (rowsRead (table.boundFound asked confined term keys ⟨0, 0⟩) relation)

/-- The order of two pairs in the answer, which is that of their scopes. -/
def Table.pairOrder (table : Table) (relation : Relation) (shadow : FullTextTable)
    (asked confined : List Condition) (term : String) (keys : List (OrderKey Stored))
    (left right : (Row × Stored) × Row) : Ordering :=
  scopeOrder (table.boundFound asked confined term keys ⟨0, 0⟩)
    (pairScope shadow relation left) (pairScope shadow relation right)

/-- The order of pairs is transitive, as the order of scopes is. -/
instance transCmp_pairOrder (keys : List (OrderKey Stored)) :
    Std.TransCmp (table.pairOrder relation shadow asked confined term keys) where
  eq_swap := (transCmp_scopeOrder (table.boundFound asked confined term keys ⟨0, 0⟩)).eq_swap
  isLE_trans := (transCmp_scopeOrder (table.boundFound asked confined term keys ⟨0, 0⟩)).isLE_trans

/-- The pairs in the order of the answer show rows of the table. -/
theorem Table.MirroredBy.found_pairs_mem (mirrored : table.MirroredBy relation shadow)
    (held : table.IsSearchedIn database relation shadow)
    (carried : ∀ partition ∈ request.partition, partition.IsCarriedIn table)
    (under : request.SearchesUnder table asked confined)
    (parsed : FullText.Pattern.parse table.carriedColumns term = .ok pattern)
    (keys : List (OrderKey Stored)) :
    ∀ pair ∈ table.foundPairs relation shadow asked confined term pattern keys,
      pair.2 ∈ relation.rows := by
  intro pair member
  have paired := mirrored.paired_perm held carried under parsed
    (table.boundFound asked confined term keys ⟨0, 0⟩)
  have among := paired.subset (List.mem_map_of_mem member)
  exact (List.mem_filter.mp (List.mem_filter.mp among).1).1

/-- A query that sorts by columns of the table sorts the rows of its pairs by them. -/
theorem Table.IsSearchedIn.pairs_sorted (held : table.IsSearchedIn database relation shadow)
    {found : List ((Row × Stored) × Row)} (inRelation : ∀ pair ∈ found, pair.2 ∈ relation.rows)
    {sorts : List (String × Direction)} (known : ∀ pair ∈ sorts, table.hasColumn pair.1 = true)
    {keys : List (OrderKey Stored)}
    (ordered : keys = sorts.map fun pair => ⟨.column (some tableAlias) pair.1, some pair.2⟩) :
    ((inOrder (table.pairOrder relation shadow asked confined term keys) found).map
      Prod.snd).Pairwise fun left right => table.rowsOrder sorts left.values
        right.values ≠ .gt := by
  let order := table.pairOrder relation shadow asked confined term keys
  have ordering : (table.boundFound asked confined term keys ⟨0, 0⟩).ordering =
      sorts.map fun pair => ⟨.column (some tableAlias) pair.1, some pair.2⟩ := by
    change keys.map _ = _
    rw [ordered, List.map_map]
    rfl
  have shows : ∀ pair ∈ inOrder order found,
      (pairScope shadow relation pair).Shows (some tableAlias) table pair.2.values :=
    fun pair member => held.shows (inRelation pair ((in_order_perm found).subset member))
  rw [List.pairwise_map]
  refine (in_order_sorted found).imp_of_mem fun {left right} leftMember rightMember sorted => ?_
  have same : order left right = table.rowsOrder sorts left.2.values right.2.values :=
    Table.scope_order_eq ordering known (shows left leftMember) (shows right rightMember)
  rwa [← same]

/-- A page of what is found is the window of its pairs in order. -/
theorem Table.MirroredBy.select_bound_found (mirrored : table.MirroredBy relation shadow)
    (held : table.IsSearchedIn database relation shadow) (nonempty : table.columns ≠ [])
    (carried : ∀ partition ∈ request.partition, partition.IsCarriedIn table)
    (under : request.SearchesUnder table asked confined)
    (within : ∀ condition ∈ table.belonging asked ++ confined,
      condition.Within table.NamesSearched)
    (parsed : FullText.Pattern.parse table.carriedColumns term = .ok pattern)
    {keys : List (OrderKey Stored)} (named : ∀ key ∈ keys, ∃ source name,
      table.NamesSearched source name ∧ key.expression = .column source name)
    {page : Page} (notNegative : 0 ≤ page.limit.toInt) :
    select database (table.boundFound asked confined term keys page) =
      .ok ⟨table.columnNames,
        (((inOrder (table.pairOrder relation shadow asked confined term keys)
            (table.foundPairs relation shadow asked confined term pattern keys)).map Prod.snd).drop
          page.offset.toInt.toNat |>.take page.limit.toInt.toNat).map Row.values⟩ := by
  let query := table.boundFound asked confined term keys page
  have searched := Table.bound_found_searched nonempty asked confined term named page
  have inRelation := mirrored.found_pairs_mem held carried under parsed keys
  have scopes : Engine.scopes database query =
      .ok ((table.foundPairs relation shadow asked confined term pattern keys).map
        (pairScope shadow relation)) := by
    rw [searched.scopes_paired held within, parsed]
    rfl
  have columns : Engine.resultColumns database query =
      table.columnNames.map fun name => (name, .column (some tableAlias) name) := by
    have shape : Engine.sources query = [⟨table.shadowName, some shadowAlias⟩] ++
        ⟨table.name, some tableAlias⟩ :: [] := searched.sources
    refine held.result_columns (result_columns_map_operands table _ _) shape
      (fun earlier member => ?_) (same_name_refl tableAlias)
    cases List.mem_singleton.mp member
    exact aliases_apart.1
  have ungrouped : answersForGroups query = false := by
    have columnsOnly : .computed .countRows none "COUNT(*)" ∉ query.columns := by
      change _ ∉ (resultColumns table (some tableAlias)).map _
      rw [result_columns_map_operands]
      exact count_rows_not_mem table (some tableAlias)
    exact searched.ungrouped columnsOnly (Expression.within_map _ fun condition member =>
      within condition (List.mem_append_right _ member))
  have listed := held.select_rows searched.resolved ungrouped rfl columns Prod.snd scopes inRelation
    (fun pair member => held.shows (inRelation pair member)) rfl rfl
  rw [windowed_some notNegative] at listed
  rw [List.map_take, List.map_drop, List.map_map]
  exact listed

/-- A page of what is found is a window of one listing, which does not depend on the page and is
sorted as the query sorts by columns of the table. The listing is that of the pairs in order, of
which the rows remain. -/
theorem Table.MirroredBy.select_found (mirrored : table.MirroredBy relation shadow)
    (held : table.IsSearchedIn database relation shadow) (nonempty : table.columns ≠ [])
    (carried : ∀ partition ∈ request.partition, partition.IsCarriedIn table)
    (under : request.SearchesUnder table asked confined)
    (within : ∀ condition ∈ table.belonging asked ++ confined,
      condition.Within table.NamesSearched)
    (parsed : FullText.Pattern.parse table.carriedColumns term = .ok pattern)
    {keys : List (OrderKey Stored)} (named : ∀ key ∈ keys, ∃ source name,
      table.NamesSearched source name ∧ key.expression = .column source name) :
    ∃ listing : List Row,
      listing.Perm ((relation.rows.filter fun row => request.isMetInSearch table row.values).filter
        fun row => table.answers pattern row.values) ∧
      (∀ sorts : List (String × Direction), (∀ pair ∈ sorts, table.hasColumn pair.1 = true) →
        keys = sorts.map (fun pair => ⟨.column (some tableAlias) pair.1, some pair.2⟩) →
        listing.Pairwise fun left right =>
          table.rowsOrder sorts left.values right.values ≠ .gt) ∧
      ∀ page : Page, 0 ≤ page.limit.toInt →
        select database
            ((table.foundQuery asked confined term keys page).merged.mapOperands Stored.bound) =
          .ok ⟨table.columnNames, ((listing.drop page.offset.toInt.toNat).take
            page.limit.toInt.toNat).map Row.values⟩ := by
  have paired := mirrored.paired_perm held carried under parsed
    (table.boundFound asked confined term keys ⟨0, 0⟩)
  have inRelation := mirrored.found_pairs_mem held carried under parsed keys
  refine ⟨(inOrder (table.pairOrder relation shadow asked confined term keys)
    (table.foundPairs relation shadow asked confined term pattern keys)).map Prod.snd,
    ((in_order_perm _).map Prod.snd).trans paired,
    fun sorts known ordered => held.pairs_sorted inRelation known ordered,
    fun page notNegative => mirrored.select_bound_found held nonempty carried under within parsed
      named notNegative⟩

/-- Counting what is found answers with its number. -/
theorem Table.MirroredBy.select_found_count (mirrored : table.MirroredBy relation shadow)
    (held : table.IsSearchedIn database relation shadow)
    (carried : ∀ partition ∈ request.partition, partition.IsCarriedIn table)
    (under : request.SearchesUnder table asked confined)
    (within : ∀ condition ∈ table.belonging asked ++ confined,
      condition.Within table.NamesSearched)
    (parsed : FullText.Pattern.parse table.carriedColumns term = .ok pattern) :
    select database
        ((table.foundCountQuery asked confined term).merged.mapOperands Stored.bound) =
      .ok ⟨["COUNT(*)"], [[.integer (Int64.ofNat
        ((relation.rows.filter fun row => request.isMetInSearch table row.values).filter fun row =>
          table.answers pattern row.values).length)]]⟩ := by
  let query := (table.foundCountQuery asked confined term).merged.mapOperands Stored.bound
  have searched : table.IsSearchedBy
      ((table.belonging asked).map (Expression.mapOperands Stored.bound))
      (confined.map (Expression.mapOperands Stored.bound)) (.text term) query :=
    found_count_query_searched.map_operands Stored.bound
  have scopes := searched.scopes_paired held within
  rw [parsed] at scopes
  have counted := select_count rfl rfl rfl rfl rfl rfl rfl scopes
  have perm := mirrored.paired_perm held carried under parsed query
  rw [List.length_map, ← List.length_map Prod.snd, perm.length_eq] at counted
  exact counted

/-- A term that is no pattern is refused. -/
theorem Table.IsSearchedBy.select_refused {query : Select Stored} {fault : Fault}
    (searched : table.IsSearchedBy (table.belonging asked) confined (.text term) query)
    (held : table.IsSearchedIn database relation shadow)
    (within : ∀ condition ∈ table.belonging asked ++ confined,
      condition.Within table.NamesSearched)
    (refused : FullText.Pattern.parse table.carriedColumns term = .error fault) :
    select database (query.mapOperands Stored.bound) = .error fault := by
  have bound := searched.map_operands Stored.bound
  refine select_error bound.resolved ?_
  have scopes := bound.scopes_paired held within
  rwa [refused] at scopes

end Found

/-! ### Requests and their answers -/

namespace Request

/-- A request is answered by a listing: counting answers with its length, and every page for which
the request compiles with the window of the listing that the page is. -/
structure IsAnsweredBy (request : Request) (table : Table) (access : Access) (listing : List Row) :
    Prop where
  counts : ∃ query, request.counting table = .ok query ∧
    (access.runText query.fragment.text query.fragment.operands).answer =
      access.forReading.map fun _ =>
        ⟨["COUNT(*)"], [[.integer (Int64.ofNat listing.length)]]⟩
  pages : ∀ (page : Page) (query : Select Stored), 0 ≤ page.limit.toInt →
    request.finding table page = .ok query →
    (access.runText query.fragment.text query.fragment.operands).answer =
      access.forReading.map fun _ => ⟨table.columnNames,
        ((listing.drop page.offset.toInt.toNat).take page.limit.toInt.toNat).map Row.values⟩

/-- A request is refused with a fault, whether it counts or finds. -/
structure IsRefusedWith (request : Request) (table : Table) (access : Access) (fault : Fault) :
    Prop where
  counts : ∃ query, request.counting table = .ok query ∧
    (access.runText query.fragment.text query.fragment.operands).answer =
      access.forReading.bind fun _ => .error fault
  pages : ∀ (page : Page) (query : Select Stored), request.finding table page = .ok query →
    (access.runText query.fragment.text query.fragment.operands).answer =
      access.forReading.bind fun _ => .error fault

namespace CanSearch

variable {request : Request} {table : Table} {term : String} {access : Access}
  {relation : Relation} {shadow : FullTextTable}

/-- Without its term the request is answered by the rows that meet it. Counting does not sort, so
only the listing depends on the order. -/
theorem plain_is_answered_by (searches : request.CanSearch table term)
    (faultless : table.fault? = none) (held : table.IsReadIn access.visible relation) :
    ∃ plain : List Row,
      plain.Perm (relation.rows.filter fun row => request.isMetIn table row.values) ∧
      request.plain.IsAnsweredBy table access plain := by
  cases sorts : (request.plain.ordering table).isOk with
  | true =>
    obtain ⟨query, compiled⟩ := exists_of_is_ok
      ((searches.plain_finding_is_ok ⟨0, 0⟩).trans sorts)
    obtain ⟨plain, perm, -, pages, counts⟩ := plain_answers faultless held rfl compiled
    refine ⟨plain, perm, counts, fun page query notNegative made => ?_⟩
    obtain ⟨other, madeToo, answered⟩ := pages page notNegative
    cases made.symm.trans madeToo
    exact answered
  | false =>
    let unsorted : Request := { request with sort := none }
    have searchesToo : unsorted.CanSearch table term :=
      ⟨searches.asks, searches.words, searches.accepted, searches.carried⟩
    obtain ⟨query, compiled⟩ := exists_of_is_ok
      ((searchesToo.plain_finding_is_ok ⟨0, 0⟩).trans rfl)
    obtain ⟨plain, perm, -, -, counts⟩ := plain_answers faultless held rfl compiled
    refine ⟨plain, perm, counts, fun page query _ made => ?_⟩
    have refused := searches.plain_finding_is_ok page
    rw [made, sorts] at refused
    cases refused

/-- The text of what the request compiles to answers with what the query selects. -/
theorem run_text (searches : request.CanSearch table term) (faultless : table.fault? = none)
    (analyzed : table.isAnalyzed = true)
    (held : table.IsSearchedIn access.visible relation shadow) {asked confined : List Condition}
    (under : request.SearchesUnder table asked confined) {query : Select Stored}
    (searched : table.IsSearchedBy (table.belonging asked) confined (.text term) query.merged) :
    (access.runText query.fragment.text query.fragment.operands).answer =
      access.forReading.bind fun _ =>
        select access.visible (query.merged.mapOperands Stored.bound) := by
  have keyed : table.primaryKey ≠ [] := (Table.is_admitted_of_fault? faultless).keyed analyzed
  have nonempty : table.belonging asked ≠ [] := by
    simp [Table.belonging, keyConditions, keyed]
  exact searched.run_text faultless held nonempty (under.within searches.carried)
    (under.written faultless)

/-- A request whose term is a pattern is answered by the rows that meet the request apart from its
term and have what the pattern asks for. -/
theorem is_answered_by (searches : request.CanSearch table term) (faultless : table.fault? = none)
    (analyzed : table.isAnalyzed = true)
    (held : table.IsSearchedIn access.visible relation shadow)
    (mirrored : table.MirroredBy relation shadow) {pattern : FullText.Pattern}
    (parsed : FullText.Pattern.parse table.carriedColumns term = .ok pattern) :
    ∃ found : List Row,
      found.Perm ((relation.rows.filter fun row => request.isMetInSearch table row.values).filter
        fun row => table.answers pattern row.values) ∧
      (request.sort.isSome = true → (request.ordering table).isOk = true → found.Pairwise
        fun left right => request.rowsOrder table left.values right.values ≠ .gt) ∧
      request.IsAnsweredBy table access found := by
  obtain ⟨-, nonempty, -⟩ := Table.identifiers_of_fault? faultless
  obtain ⟨asked, confined, under, counts, finds⟩ := searches.compiles analyzed
  have within := under.within searches.carried
  have counted : ∀ found : List Row, found.Perm ((relation.rows.filter fun row =>
      request.isMetInSearch table row.values).filter fun row => table.answers pattern row.values) →
      ∃ query, request.counting table = .ok query ∧
        (access.runText query.fragment.text query.fragment.operands).answer =
          access.forReading.map fun _ =>
            ⟨["COUNT(*)"], [[.integer (Int64.ofNat found.length)]]⟩ := by
    intro found perm
    refine ⟨_, counts, ?_⟩
    rw [searches.run_text faultless analyzed held under Table.found_count_query_searched,
      mirrored.select_found_count held searches.carried under within parsed, perm.length_eq]
    rfl
  cases order : request.ordering table with
  | error problem =>
    refine ⟨_, .refl _, (by nofun), counted _ (.refl _), fun page query _ made => ?_⟩
    rw [finds page, order] at made
    cases made
  | ok keys =>
    have named := searches.ordering_named order
    obtain ⟨found, perm, sorted, pages⟩ :=
      mirrored.select_found held nonempty searches.carried under within parsed named
    refine ⟨found, perm, fun sorts _ => ?_, counted found perm,
      fun page query notNegative made => ?_⟩
    · obtain ⟨sort, given⟩ := Option.isSome_iff_exists.mp sorts
      obtain ⟨known, same⟩ := searches.order_keys_ok given order
      exact sorted request.sortPairs known same
    rw [finds page, order] at made
    cases made
    rw [searches.run_text faultless analyzed held under
      (Table.found_query_searched nonempty named page), pages page notNegative]
    rfl

/-- A request whose term is no pattern is refused. -/
theorem is_refused_with (searches : request.CanSearch table term) (faultless : table.fault? = none)
    (analyzed : table.isAnalyzed = true)
    (held : table.IsSearchedIn access.visible relation shadow) {fault : Fault}
    (refused : FullText.Pattern.parse table.carriedColumns term = .error fault) :
    request.IsRefusedWith table access fault := by
  obtain ⟨-, nonempty, -⟩ := Table.identifiers_of_fault? faultless
  obtain ⟨asked, confined, under, counts, finds⟩ := searches.compiles analyzed
  have within := under.within searches.carried
  refine ⟨⟨_, counts, ?_⟩, fun page query made => ?_⟩
  · have searched : table.IsSearchedBy (table.belonging asked) confined (.text term) _ :=
      Table.found_count_query_searched
    rw [searches.run_text faultless analyzed held under searched,
      searched.select_refused held within refused]
  · cases order : request.ordering table with
    | error problem =>
      rw [finds page, order] at made
      cases made
    | ok keys =>
      rw [finds page, order] at made
      cases made
      have searched : table.IsSearchedBy (table.belonging asked) confined (.text term) _ :=
        Table.found_query_searched nonempty (searches.ordering_named order) page
      rw [searches.run_text faultless analyzed held under searched,
        searched.select_refused held within refused]

end CanSearch

/-- If its partition suits the table, these are the rows that meet the request without its term. -/
theorem Searches.is_answered_by {request : Request} {table : Table} {term : String}
    {access : Access}
    {relation : Relation} {shadow : FullTextTable} (searches : request.Searches table term)
    (faultless : table.fault? = none) (analyzed : table.isAnalyzed = true)
    (held : table.IsSearchedIn access.visible relation shadow)
    (mirrored : table.MirroredBy relation shadow) {pattern : FullText.Pattern}
    (parsed : FullText.Pattern.parse table.carriedColumns term = .ok pattern) :
    ∃ found : List Row,
      found.Perm ((relation.rows.filter fun row => request.isMetIn table row.values).filter
        fun row => table.answers pattern row.values) ∧
      request.IsAnsweredBy table access found := by
  obtain ⟨found, perm, -, answered⟩ :=
    searches.can_search.is_answered_by faultless analyzed held mirrored parsed
  refine ⟨found, perm.trans (.of_eq (congrArg _ ?_)), answered⟩
  exact List.filter_congr fun row member =>
    mirrored.is_met_in_search held.toIsReadIn searches.suits member

end Request

/-- Searching narrows the plain answer. Where the full-text table mirrors its table, a request with
a term compiles whenever it does without the term. If the term is a pattern, the request is answered
by the rows that answer it without the term and that have what the pattern asks for in their
analyzed columns, each of them once. If the term is no pattern, the request is refused.

Proof: without the term the request is answered by the rows that meet it, and with the term by the
pairs of a copy and a row. A row has one copy, so the pairs are the rows, filtered by what the
pattern asks for. -/
theorem search_narrows_the_plain_answer {tables : List Table} {schema : Schema} {table : Table}
    {request : Request} {term : String} {access : Access} {relation : Relation}
    {shadow : FullTextTable}
    (accepted : Schema.ofTables tables = .ok schema) (member : table ∈ schema.tables)
    (analyzed : table.isAnalyzed = true)
    (found : access.visible.relation? table.name = some relation)
    (shadowed : access.visible.fullText? table.shadowName = some shadow)
    (unrelated : access.visible.relation? table.shadowName = none)
    (mirrored : table.MirroredBy relation shadow) (searches : request.Searches table term) :
    (∀ page, (request.finding table page).isOk = (request.plain.finding table page).isOk) ∧
    (∀ pattern, FullText.Pattern.parse table.carriedColumns term = .ok pattern →
      ∃ plain found : List Row, request.plain.IsAnsweredBy table access plain ∧
        request.IsAnsweredBy table access found ∧
        plain.Perm (relation.rows.filter fun row => request.isMetIn table row.values) ∧
        found.Perm (plain.filter fun row => table.answers pattern row.values)) ∧
    ∀ fault, FullText.Pattern.parse table.carriedColumns term = .error fault →
      request.IsRefusedWith table access fault := by
  have faultless := Schema.of_tables_fault? accepted table member
  have held : table.IsSearchedIn access.visible relation shadow :=
    ⟨mirrored.held.is_read_in found, shadowed, unrelated, mirrored.carried⟩
  refine ⟨searches.can_search.finding_is_ok analyzed, fun pattern parsed => ?_, fun fault refused =>
    searches.can_search.is_refused_with faultless analyzed held refused⟩
  obtain ⟨plain, plainPerm, plainAnswered⟩ :=
    searches.can_search.plain_is_answered_by faultless held.toIsReadIn
  obtain ⟨found, foundPerm, answered⟩ :=
    searches.is_answered_by faultless analyzed held mirrored parsed
  exact ⟨plain, found, plainAnswered, answered, plainPerm,
    foundPerm.trans (plainPerm.filter _).symm⟩

/-! ### A shelf of books -/

namespace Library

/-- Books on shelves, with summaries to be searched. -/
def book : Table :=
  ⟨"book", [{ name := "shelf", type := .string, primaryKey := true },
    { name := "title", type := .string, primaryKey := true },
    { name := "summary", type := .string, nullable := true, analyzed := true }]⟩

/-- A book about a whale. -/
def whales : Row := ⟨0, [.text "north", .text "Whales", .text "a ship and a whale"]⟩

/-- Three books on two shelves. -/
def books : Relation where
  name := "book"
  attributes := book.attributes
  identity := .keyed ["shelf", "title"]
  uniques := []
  rows := [⟨0, [.text "north", .text "Dunes", .text "worms under sand"]⟩, whales,
    ⟨0, [.text "south", .text "Waves", .text "ships and a ship"]⟩]
  text := ""

/-- The copies stand in another order than the books. -/
def copies : FullTextTable where
  name := "fts_book"
  columns := [⟨"shelf", false⟩, ⟨"title", false⟩, ⟨"summary", true⟩]
  rows := [⟨1, [.text "south", .text "Waves", .text "ships and a ship"]⟩, ⟨2, whales.values⟩,
    ⟨3, [.text "north", .text "Dunes", .text "worms under sand"]⟩]
  text := ""

/-- An access to the books and their copies. -/
def access : Access :=
  ⟨{ number := 0, location := .memory 0 },
    { volumes := [(.memory 0,
      { content := { objects := [.relation books, .fullText copies] } })] }⟩

/-- Books about a ship on the northern shelf. -/
def northern : Request where
  criteria := some ⟨[("$ne", .list [.text "summary", .null])]⟩
  partition := some ⟨[("shelf", .text "north")]⟩
  term := some "ship"

/-- What is asked of the summaries: to have the word `ship`. -/
def ship : FullText.Pattern := .group ⟨[⟨[⟨"ship", false⟩], false⟩], 10, none⟩

/-- The books are a table of a schema. -/
theorem book_accepted : Schema.ofTables [book] = .ok ⟨[book]⟩ :=
  Schema.of_tables_ok (by decide +kernel) (by decide +kernel)

/-- The copies belong to the books. -/
theorem books_mirrored : book.MirroredBy books copies := by
  have kept : ∀ row ∈ books.rows, ∀ attr ∈ books.attributes,
      books.value row attr.name = attr.affinity.store (books.value row attr.name) := by
    decide +kernel
  have present : ∀ row ∈ books.rows, ∀ key ∈ book.primaryKey,
      (books.value row key).isNull = false := by decide +kernel
  exact {
    held := ⟨"", { books with rows := [] }, by decide +kernel, rfl, by decide⟩
    stored := fun row member attr among => ⟨_, kept row member attr among⟩
    present := present
    unique := by decide +kernel
    carried := by decide +kernel
    copies := by decide +kernel }

end Library

open Library in
/-- One book on the northern shelf is about a ship. -/
theorem search_narrows_to_the_whales :
    Schema.ofTables [book] = .ok ⟨[book]⟩ ∧ book.isAnalyzed = true ∧
      access.visible.relation? book.name = some books ∧
      access.visible.fullText? book.shadowName = some copies ∧
      access.visible.relation? book.shadowName = none ∧ book.MirroredBy books copies ∧
      northern.Searches book "ship" ∧
      (∃ query, northern.finding book ⟨10, 0⟩ = .ok query ∧
        (access.runText query.fragment.text query.fragment.operands).answer =
          .ok ⟨["shelf", "title", "summary"], [whales.values]⟩) ∧
      ∃ query, northern.counting book = .ok query ∧
        (access.runText query.fragment.text query.fragment.operands).answer =
          .ok ⟨["COUNT(*)"], [[.integer 1]]⟩ := by
  have mirrored := books_mirrored
  have searches : northern.Searches book "ship" := {
    asks := rfl
    words := by decide +kernel
    accepted := by rintro _ ⟨⟩; decide +kernel
    suits := by
      rintro _ ⟨⟩ held member
      cases List.mem_singleton.mp member
      have carried : "shelf" ∈ book.carriedColumns := by decide +kernel
      exact ⟨carried, by rintro _ ⟨⟩; rfl⟩ }
  have analyzed : book.isAnalyzed = true := by decide +kernel
  have found : access.visible.relation? book.name = some books := by decide +kernel
  have shadowed : access.visible.fullText? book.shadowName = some copies := by decide +kernel
  have unrelated : access.visible.relation? book.shadowName = none := by decide +kernel
  have parsed : FullText.Pattern.parse book.carriedColumns "ship" = .ok ship := by decide +kernel
  have met : ((books.rows.filter fun row => northern.isMetIn book row.values).filter fun row =>
      book.answers ship row.values) = [whales] := by decide +kernel
  obtain ⟨-, patterns, -⟩ := search_narrows_the_plain_answer book_accepted
    List.mem_cons_self analyzed found shadowed unrelated mirrored searches
  obtain ⟨plain, listing, -, answered, plainPerm, perm⟩ := patterns ship parsed
  have only := perm.trans (plainPerm.filter _)
  rw [met] at only
  cases List.perm_singleton.mp only
  obtain ⟨query, compiled⟩ := exists_of_is_ok
    (show (northern.finding book ⟨10, 0⟩).isOk = true by decide +kernel)
  exact ⟨book_accepted, analyzed, found, shadowed, unrelated, mirrored, searches,
    ⟨query, compiled, answered.pages ⟨10, 0⟩ query (by decide) compiled⟩, answered.counts⟩

end RecordStore
