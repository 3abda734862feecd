import RecordStore.Proofs.Query.Plain

/-!
# The meaning of a compiled request

The rows that meet a plain request have one listing, sorted as the request sorts, that does not
depend on the page. Every page that can be resolved answers with its window of the listing, and
counting answers with the length of the listing. The values travel beside the text of the query, as
the values of its parameters.
-/

namespace RecordStore

open Engine Sql

/-- A page that resolves has neither a negative size nor a negative offset. -/
theorem Page.resolve_ok {limit offset : Option Int64} {largest : Int64} {page : Page}
    (resolved : Page.resolve limit offset largest = .ok page) :
    0 ≤ page.limit.toInt ∧ 0 ≤ page.offset.toInt := by
  have notNegative : ∀ number : Int64, ¬ number < 0 → 0 ≤ number.toInt := by
    intro number least
    rw [Int64.lt_iff_toInt_lt] at least
    exact Int.not_lt.mp least
  unfold Page.resolve at resolved
  dsimp only at resolved
  split at resolved
  · cases resolved
  · rename_i limitLeast
    split at resolved
    · cases resolved
    · split at resolved
      · cases resolved
      · rename_i offsetLeast
        cases resolved
        exact ⟨notNegative _ limitLeast, notNegative _ offsetLeast⟩

/-- A relation that is what the engine makes of a table, with whatever rows: each has a value for
each column. -/
def Table.IsHeldAs (table : Table) (relation : Relation) : Prop :=
  ∃ text made, relationOf table.definition text = .ok made ∧
    relation = { made with rows := relation.rows } ∧
    ∀ row ∈ relation.rows, row.values.length = table.columns.length

/-- A database that holds what is made of a table holds the table. -/
theorem Table.IsHeldAs.is_read_in {table : Table} {database : Database} {relation : Relation}
    (held : table.IsHeldAs relation) (found : database.relation? table.name = some relation) :
    table.IsReadIn database relation := by
  obtain ⟨text, made, definition, same, full⟩ := held
  obtain ⟨-, -, attributes, apart, -⟩ := relation_of_definition definition
  have attributesAre : relation.attributes = table.attributes := by rw [same, attributes]
  refine ⟨found, attributesAre, apart, fun row member => ?_⟩
  rw [full row member, attributesAre, attributes_length]

/-- Rows in the order that a request asks for. -/
def Request.rowsOrder (request : Request) (table : Table) : List Stored → List Stored → Ordering :=
  table.rowsOrder request.sortPairs

/-- The condition of a plain query is about columns of the table and is read back. -/
theorem Table.compiled_condition {table : Table} {conditions : List Condition}
    {demands : List Demand} (faultless : table.fault? = none)
    (compiled : CompiledAll table none demands conditions) :
    (∀ whole ∈ Expression.conjunction? conditions, whole.Within (table.NamesUnder none)) ∧
      ∀ whole ∈ Expression.conjunction? conditions, whole.Written 0 := by
  obtain ⟨-, -, named⟩ := identifiers_of_fault? faultless
  refine ⟨Expression.within_conjunction? fun condition member => ?_, fun whole among =>
    (written_conjunction? (fun condition member => ?_) whole among).mono (Nat.zero_le 3)⟩
  · obtain ⟨demand, -, known, made⟩ := compiled.each condition member
    exact made.within ⟨rfl, known⟩
  · obtain ⟨demand, -, known, made⟩ := compiled.each condition member
    exact made.written ⟨nofun, named _ (mem_column_names_of_has_column known)⟩

/-- What a request without a term states, with its operands as they reach the engine, is one
condition about columns of the table, which holds of the rows that meet the request. -/
theorem Request.condition_decides (request : Request) {table : Table} {conditions : List Condition}
    {database : Database} {relation : Relation} (faultless : table.fault? = none)
    (held : table.IsReadIn database relation)
    (stated : statedConditions request.criteria request.partition table none = .ok conditions) :
    (∀ whole ∈ (Expression.conjunction? conditions).map (Expression.mapOperands Stored.bound),
      whole.Within (table.NamesUnder none)) ∧
    ∀ row ∈ relation.rows,
      ((Expression.conjunction? conditions).map (Expression.mapOperands Stored.bound)).all
        (holds [relation.binding table.name row]) = request.isMetIn table row.values := by
  obtain ⟨demands, compiled, met⟩ := Request.stated_conditions_compiled stated
  obtain ⟨within, -⟩ := Table.compiled_condition faultless compiled
  refine ⟨fun whole among => ?_, fun row among => ?_⟩
  · obtain ⟨before, here, rfl⟩ := Option.map_eq_some_iff.mp among
    exact (Expression.within_map_operands _ before).mpr (within before here)
  · rw [Expression.conjunction?_map_operands, holds_conjunction?,
      compiled.holds fun column columnKnown =>
        Scope.lookup?_first (held.lookup? table.name among columnKnown), met]

section Answers

variable {table : Table} {relation : Relation} {access : Access} {condition : Option Condition}
  {query : Select Stored} {answer : Answer}

/-- The text of a query of a table, run with the values of its operands, answers with what the
query selects. -/
theorem Table.IsAskedBy.run_text (asked : table.IsAskedBy condition query)
    (faultless : table.fault? = none) (held : table.IsReadIn access.visible relation)
    (within : ∀ whole ∈ condition, whole.Within (table.NamesUnder none))
    (readBack : ∀ whole ∈ condition, whole.Written 0)
    (selected : select access.visible (query.mapOperands Stored.bound) = .ok answer) :
    (access.runText query.fragment.text query.fragment.operands).answer =
      access.forReading.map fun _ => answer := by
  have checked : access.check (.select (query.mapOperands fun _ => .null)) = .ok () := by
    refine (asked.map_operands _).checked held fun whole member => ?_
    obtain ⟨before, among, rfl⟩ := Option.map_eq_some_iff.mp member
    exact (Expression.within_map_operands _ before).mpr (within before among)
  rw [Access.run_text_render (asked.written faultless readBack) checked]
  refine Access.run_select_answer ?_ selected
  rw [(asked.map_operands Stored.bound).source]
  rfl

/-- A page of the rows that meet a condition is a window of their listing. Proof: no part of the
query that decides about rows depends on the window. -/
theorem Table.select_page_query {database : Database} (held : table.IsReadIn database relation)
    (nonempty : table.columns ≠ [])
    (within : ∀ whole ∈ condition, whole.Within (table.NamesUnder none)) {meets : Row → Bool}
    (decides : ∀ row ∈ relation.rows,
      condition.all (holds [relation.binding table.name row]) = meets row)
    {pairs : List (String × Direction)}
    (known : ∀ pair ∈ pairs, table.hasColumn pair.1 = true) :
    ∃ listing : List Row, listing.Perm (relation.rows.filter meets) ∧
      listing.Pairwise
        (fun left right => table.rowsOrder pairs left.values right.values ≠ .gt) ∧
      ∀ limit offset : Int64, 0 ≤ limit.toInt →
        select database (table.pageQuery condition pairs (.integer limit) (.integer offset)) =
          .ok ⟨table.columnNames,
            ((listing.drop offset.toInt.toNat).take limit.toInt.toNat).map Row.values⟩ := by
  let binding (row : Row) : Scope := [relation.binding table.name row]
  let query := table.pageQuery condition pairs .null .null
  let order (left right : Row) : Ordering := scopeOrder query (binding left) (binding right)
  have perm : (inOrder order ((rowsRead query relation).filter meets)).Perm
      (relation.rows.filter meets) :=
    (in_order_perm _).trans ((rows_read_perm query relation).filter meets)
  have shows : ∀ row ∈ relation.rows, (binding row).Shows none table row.values :=
    fun row member column columnKnown =>
      Scope.lookup?_first (held.lookup? table.name member columnKnown)
  have inRelation : ∀ row ∈ inOrder order ((rowsRead query relation).filter meets),
      row ∈ relation.rows := fun row member => (List.mem_filter.mp (perm.subset member)).1
  have transitive : Std.TransCmp order :=
    { eq_swap := (transCmp_scopeOrder query).eq_swap
      isLE_trans := (transCmp_scopeOrder query).isLE_trans }
  refine ⟨inOrder order ((rowsRead query relation).filter meets), perm, ?_, ?_⟩
  · refine (in_order_sorted _).imp_of_mem fun {left right} leftMember rightMember sorted => ?_
    have same : order left right = table.rowsOrder pairs left.values right.values :=
      scope_order_eq rfl known (shows left (inRelation left leftMember))
        (shows right (inRelation right rightMember))
    rwa [same] at sorted
  · intro limit offset notNegative
    let page := table.pageQuery condition pairs (.integer limit) (.integer offset)
    have asked : table.IsAskedBy condition page := page_query_asked nonempty known
    have alone : Engine.sources page = [] ++ [⟨table.name, none⟩] := asked.sources
    have columns : Engine.resultColumns database page =
        table.columnNames.map fun name => (name, .column none name) :=
      held.result_columns rfl alone nofun rfl
    have read : ∀ row ∈ (rowsRead page relation).filter meets, row ∈ relation.rows :=
      fun row member => inRelation row ((in_order_perm _).symm.subset member)
    have listed := held.select_rows asked.resolved
      (asked.ungrouped (Request.count_rows_not_mem table none) within) rfl columns
      (fun row => row) (asked.scopes held decides) read
        (fun row member => shows row (read row member)) rfl rfl
    rw [listed, windowed_some notNegative, List.map_take, List.map_drop]
    rfl

/-- Counting the rows that meet a condition answers with their number. -/
theorem Table.select_count_query {database : Database} (held : table.IsReadIn database relation)
    {meets : Row → Bool}
    (decides : ∀ row ∈ relation.rows,
      condition.all (holds [relation.binding table.name row]) = meets row) :
    select database (table.countQuery condition) =
      .ok ⟨["COUNT(*)"], [[.integer (Int64.ofNat (relation.rows.filter meets).length)]]⟩ := by
  have perm := (rows_read_perm (table.countQuery condition) relation).filter meets
  have counted := select_count rfl rfl rfl rfl rfl rfl rfl
    ((count_query_asked : table.IsAskedBy condition _).scopes held decides)
  rw [counted, List.length_map, perm.length_eq]

end Answers

/-- A plain request that compiles for one page has a listing of the rows that meet it, sorted as
it sorts. The text of the query for a page, run with the values of its operands, answers with the
window of the listing that the page is, and the text of the query that counts answers with the
length of the listing. -/
theorem Request.plain_answers {table : Table} {request : Request} {access : Access}
    {relation : Relation} (faultless : table.fault? = none)
    (held : table.IsReadIn access.visible relation) (plain : request.term = none) {first : Page}
    {query : Select Stored} (compiles : request.finding table first = .ok query) :
    ∃ listing : List Row,
      listing.Perm (relation.rows.filter fun row => request.isMetIn table row.values) ∧
      listing.Pairwise
        (fun left right => request.rowsOrder table left.values right.values ≠ .gt) ∧
      (∀ page : Page, 0 ≤ page.limit.toInt → ∃ query, request.finding table page = .ok query ∧
        (access.runText query.fragment.text query.fragment.operands).answer =
          access.forReading.map fun _ => ⟨table.columnNames,
            ((listing.drop page.offset.toInt.toNat).take page.limit.toInt.toNat).map
              Row.values⟩) ∧
      ∃ query, request.counting table = .ok query ∧
        (access.runText query.fragment.text query.fragment.operands).answer =
          access.forReading.map fun _ =>
            ⟨["COUNT(*)"], [[.integer (Int64.ofNat listing.length)]]⟩ := by
  obtain ⟨-, nonempty, -⟩ := Table.identifiers_of_fault? faultless
  obtain ⟨conditions, stated, known, finds, counts⟩ := Request.plain_compiles plain compiles
  obtain ⟨demands, compiled, -⟩ := Request.stated_conditions_compiled stated
  obtain ⟨within, readBack⟩ := Table.compiled_condition faultless compiled
  obtain ⟨boundWithin, decides⟩ := request.condition_decides faultless held stated
  obtain ⟨listing, perm, sorted, pages⟩ :=
    Table.select_page_query held nonempty boundWithin decides known
  refine ⟨listing, perm, sorted, fun page notNegative => ?_, ?_⟩
  · refine ⟨_, finds page, Table.IsAskedBy.run_text
      (Table.page_query_asked nonempty known) faultless held within readBack ?_⟩
    rw [Table.page_query_map_operands]
    exact pages page.limit page.offset notNegative
  · refine ⟨_, counts, Table.count_query_asked.run_text faultless held within readBack ?_⟩
    rw [Table.count_query_map_operands, perm.length_eq]
    exact Table.select_count_query held decides

/-- A plain request compiles to queries that mean it. Whatever rows a table has, those that meet the
request have one listing, sorted as the request sorts. Every page that can be resolved answers with
the window of the listing that the page is, and counting answers with the length of the listing;
only a hold of somebody else can keep them from reading.

Proof: the text is read back as the query that was compiled, the engine runs it on the relation of
the table, and its conditions hold on a row exactly if the row meets the request. The listing is the
same for every page because no condition depends on the window. -/
theorem compiled_queries_mean_the_request {tables : List Table} {schema : Schema} {table : Table}
    {request : Request} {access : Access} {relation : Relation} {firstPage : Page}
    {firstQuery : Select Stored}
    (accepted : Schema.ofTables tables = .ok schema) (member : table ∈ schema.tables)
    (found : access.visible.relation? table.name = some relation)
    (held : table.IsHeldAs relation) (plain : request.term = none)
    (compiles : request.finding table firstPage = .ok firstQuery) :
    ∃ listing : List Row,
      listing.Perm (relation.rows.filter fun row => request.isMetIn table row.values) ∧
      listing.Pairwise
        (fun left right => request.rowsOrder table left.values right.values ≠ .gt) ∧
      (∀ limit offset largest page, Page.resolve limit offset largest = .ok page →
        ∃ query, request.finding table page = .ok query ∧
          (access.runText query.fragment.text query.fragment.operands).answer =
            access.forReading.map fun _ => ⟨table.columnNames,
              ((listing.drop page.offset.toInt.toNat).take page.limit.toInt.toNat).map
                Row.values⟩) ∧
      ∃ query, request.counting table = .ok query ∧
        (access.runText query.fragment.text query.fragment.operands).answer =
          access.forReading.map fun _ =>
            ⟨["COUNT(*)"], [[.integer (Int64.ofNat listing.length)]]⟩ := by
  obtain ⟨listing, perm, sorted, pages, count⟩ := Request.plain_answers
    (Schema.of_tables_fault? accepted table member) (held.is_read_in found) plain compiles
  exact ⟨listing, perm, sorted,
    fun limit offset largest page resolved => pages page (Page.resolve_ok resolved).1, count⟩

/-! ### A pantry -/

namespace Pantry

/-- Jars with their contents and weights. A jar need not be weighed. -/
def jar : Table :=
  ⟨"jar", [{ name := "content", type := .string, primaryKey := true },
    { name := "grams", type := .integer, nullable := true }]⟩

/-- A jar of figs. -/
def figs : Row := ⟨2, [.text "figs", .integer 450]⟩

/-- Three jars, one of them not weighed. -/
def jars : Relation where
  name := "jar"
  attributes := jar.attributes
  identity := .hidden
  uniques := [["content"]]
  rows := [⟨1, [.text "plums", .integer 300]⟩, figs, ⟨3, [.text "pears", .null]⟩]
  text := ""

/-- An access to the jars. -/
def access : Access :=
  ⟨{ number := 0, location := .memory 0 },
    { volumes := [(.memory 0, { content := { objects := [.relation jars] } })] }⟩

/-- The request for the heavy jars, the heaviest first. -/
def heavy : Request where
  criteria := some ⟨[("$gt", .list [.text "grams", .integer 400])]⟩
  sort := some ⟨[("grams", .descending)]⟩

/-- The jars are a table of a schema. -/
theorem jar_accepted : Schema.ofTables [jar] = .ok ⟨[jar]⟩ :=
  Schema.of_tables_ok (by decide +kernel) (by decide +kernel)

/-- The jars stand in the database as the engine makes their table. -/
theorem jars_held : access.visible.relation? jar.name = some jars ∧ jar.IsHeldAs jars :=
  ⟨by decide +kernel, "", { jars with rows := [] }, by decide +kernel, rfl, by decide⟩

end Pantry

open Pantry in
/-- The heavy jars are the jar of figs; the jar that was not weighed is not one of them. -/
theorem compiled_queries_mean_the_heavy_jars :
    Schema.ofTables [jar] = .ok ⟨[jar]⟩ ∧ access.visible.relation? jar.name = some jars ∧
      jar.IsHeldAs jars ∧ heavy.term = none ∧
      (∃ query, heavy.finding jar ⟨10, 0⟩ = .ok query ∧
        (access.runText query.fragment.text query.fragment.operands).answer =
          .ok ⟨["content", "grams"], [figs.values]⟩) ∧
      ∃ query, heavy.counting jar = .ok query ∧
        (access.runText query.fragment.text query.fragment.operands).answer =
          .ok ⟨["COUNT(*)"], [[.integer 1]]⟩ := by
  obtain ⟨found, held⟩ := jars_held
  have met : (jars.rows.filter fun row => heavy.isMetIn jar row.values) = [figs] := by
    decide +kernel
  have compiles : ((heavy.finding jar ⟨10, 0⟩).toOption).isSome = true := by decide +kernel
  obtain ⟨firstQuery, compiled⟩ : ∃ query, heavy.finding jar ⟨10, 0⟩ = .ok query := by
    cases made : heavy.finding jar ⟨10, 0⟩ with
    | error problem =>
      rw [made] at compiles
      cases compiles
    | ok query => exact ⟨query, rfl⟩
  obtain ⟨listing, perm, -, pages, count⟩ := compiled_queries_mean_the_request jar_accepted
    List.mem_cons_self found held rfl compiled
  rw [met] at perm
  cases List.perm_singleton.mp perm
  obtain ⟨query, finds, answered⟩ := pages (some 10) none 1000 ⟨10, 0⟩ (by rfl)
  exact ⟨jar_accepted, found, held, rfl, ⟨query, finds, answered⟩, count⟩

end RecordStore
