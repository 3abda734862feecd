import RecordStore.Proofs.Query.Terms
import RecordStore.Proofs.Query.Wordings
import RecordStore.Proofs.Store.Drafts

/-!
# Question marks and operands

In everything that is compiled for a table the question marks line up with the operands: the
queries that count, find a page and find one row, and the changes that put a row in, write over it
and take it out.
-/

namespace RecordStore

open Engine Sql Wording

/-! ### Queries -/

namespace Request

variable {request : Request} {table : Table} {query : Select Stored}

/-- A query that has nothing but the rows that it is about. -/
def IsBare (query : Select Stored) : Prop :=
  ∃ source joins conditions, query = { columns := [], source, joins, conditions }

/-- What a plain request compiles to before its result columns has the wording of its partition and
criteria. -/
theorem plain_rows_worded (unmarked : table.HasUnmarkedNames) (plain : request.term = none)
    (made : request.plainRows table = .ok query) :
    IsBare query ∧
      Fragment.IsWorded ⟨query.renderRows, query.rowOperands⟩ (request.rowsWording table) := by
  obtain ⟨condition, stated, ended⟩ := bind_ok made
  cases ended
  have named : ∀ given ∈ (none : Option String), IsUnmarked given := nofun
  have worded := stated_condition?_worded unmarked named stated
  have whole := (Fragment.IsWorded.words ((by decide :
    IsUnmarked " FROM ").append unmarked.name)).append
    (clause_worded (by decide : IsUnmarked (" " ++ "WHERE" ++ " ")) worded)
  unfold rowsWording
  rw [plain]
  refine ⟨⟨_, _, _, rfl⟩, Eq.trans ?_ whole.text, Eq.trans ?_ whole.operands, whole.plain⟩
  · simp [Select.renderRows, Source.render, String.join]
  · simp [Select.rowOperands]

/-- The conditions under which a row belongs to a copy. -/
theorem belonging_worded {asked : List Condition} (unmarked : table.HasUnmarkedNames)
    (made : (request.criteria.elim (.ok []) fun criteria =>
      criteria.conditions table (some tableAlias)) = .ok asked) :
    List.Forall₂ (fun condition wording => condition.fragment.IsWorded wording)
      (table.belonging asked)
      (table.primaryKey.map (fun key => [.words ("a." ++ key ++ " = b." ++ key)]) ++
        (grouped? (request.criteria.elim [] fun criteria =>
          criteria.wordings (some "b"))).toList) := by
  have named : ∀ given ∈ some tableAlias, IsUnmarked given := by
    rintro _ ⟨⟩
    decide
  have asks := Fragment.IsWorded.conjunction? (Criteria.elim_worded unmarked named made)
  refine List.rel_append ?_ ?_
  · refine List.forall₂_map_left_iff.mpr (List.forall₂_map_right_iff.mpr ?_)
    refine List.forall₂_same.mpr fun key inKey => ?_
    have plain := unmarked.columns key (table.primary_key_subset inKey)
    have worded := Fragment.IsWorded.words
      ((((by decide : IsUnmarked "a.").append plain).append (by decide : IsUnmarked " = b.")).append
        plain)
    refine ⟨Eq.trans ?_ worded.text, worded.operands, worded.plain⟩
    have opening : "a." = "a" ++ "." := by decide
    have between : " = b." = " " ++ "=" ++ " " ++ "b" ++ "." := by decide
    rw [opening, between]
    simp only [Expression.fragment, Expression.render, BinaryOperator.apply,
      BinaryOperator.symbol, qualified, shadowAlias, tableAlias, String.append_assoc]
  · exact forall₂_to_list asks

/-- So has what a request with a term compiles to, with the wording of the term. -/
theorem matched_rows_worded (unmarked : table.HasUnmarkedNames) {term : String}
    (searches : request.term = some term) (made : request.matchedRows table term = .ok query) :
    IsBare query ∧
      Fragment.IsWorded ⟨query.renderRows, query.rowOperands⟩ (request.rowsWording table) := by
  obtain ⟨-, -, asked, confined, askedMade, confinedMade, rfl⟩ := matched_rows_ok made
  obtain ⟨confinedMade, -⟩ := shadow_conditions_ok confinedMade
  have named : ∀ given ∈ some shadowAlias, IsUnmarked given := by
    rintro _ ⟨⟩
    decide
  have on := Fragment.IsWorded.chain (belonging_worded unmarked askedMade)
  have matching : (table.matching (.text term)).fragment.IsWorded
      [.words ("a." ++ table.shadowName ++ " MATCH "), .mark ⟨.term, .text term⟩] := by
    have worded := (Fragment.IsWorded.words
      (((by decide : IsUnmarked "a.").append unmarked.shadowName).append
        (by decide : IsUnmarked " MATCH "))).append (.mark .term (.text term))
    refine ⟨Eq.trans ?_ worded.text, worded.operands, worded.plain⟩
    have opening : "a." = "a" ++ "." := by decide
    have behind : " MATCH ?" = " MATCH " ++ "?" := by decide
    rw [opening]
    simp only [Expression.fragment, Table.matching, Expression.render, qualified, shadowAlias,
      behind, String.append_assoc]
  have filter := Fragment.IsWorded.chain (List.rel_append
    (Partition.elim_worded unmarked named confinedMade) (.cons matching .nil))
  have sources := Fragment.IsWorded.words
    (((((by decide : IsUnmarked " FROM ").append unmarked.shadowName).append
      (by decide : IsUnmarked " a INNER JOIN ")).append unmarked.name).append
        (by decide : IsUnmarked " b ON "))
  have whole := (sources.append on).append
    ((Fragment.IsWorded.words (by decide : IsUnmarked " WHERE ")).append filter)
  unfold rowsWording
  rw [searches]
  refine ⟨⟨_, _, _, rfl⟩, Eq.trans ?_ whole.text, Eq.trans ?_ whole.operands, whole.plain⟩
  · have opening : " a INNER JOIN " = " " ++ "a" ++ " INNER JOIN " := by decide
    have before : " b ON " = " " ++ "b" ++ " " ++ "ON" ++ " " := by decide
    have between : " WHERE " = " " ++ "WHERE" ++ " " := by decide
    rw [opening, before, between]
    simp only [Select.renderRows, Table.pairsQuery, Source.render, Join.render, String.join,
      List.map_cons, List.map_nil, List.foldl_cons, List.foldl_nil, renderClause, shadowAlias,
      tableAlias, String.append_assoc, String.empty_append]
  · simp [Select.rowOperands, Table.pairsQuery, conditionOperands]

/-- Whatever a request compiles to has the wording that says which rows it means. -/
theorem rows_worded (unmarked : table.HasUnmarkedNames) (made : request.rows table = .ok query) :
    IsBare query ∧
      Fragment.IsWorded ⟨query.renderRows, query.rowOperands⟩ (request.rowsWording table) := by
  cases asks : request.term with
  | none =>
    rw [rows_plain asks] at made
    exact plain_rows_worded unmarked asks made
  | some term =>
    rw [rows_asking asks] at made
    exact matched_rows_worded unmarked asks made

/-- The name of a source has no question mark. -/
theorem source_unmarked (request : Request) : ∀ given ∈ request.source, IsUnmarked given := by
  intro given member
  obtain ⟨term, -, rfl⟩ := Option.map_eq_some_iff.mp member
  decide

/-- The order of a request has no operands, and its words say it. -/
theorem ordering_render {keys : List (OrderKey Stored)} (made : request.ordering table = .ok keys) :
    (if keys.isEmpty then "" else " ORDER BY " ++ joined ", " (keys.map OrderKey.render)) =
        request.orderingWords ∧
      keys.flatMap (fun key => key.expression.operands) = [] := by
  unfold orderingWords
  obtain ⟨sort, sorts, nonempty, -, rfl⟩ | ⟨unsorted, ⟨term, asks⟩, rfl⟩ | ⟨unsorted, plain, rfl⟩ :=
    ordering_ok made
  · rw [sorts]
    refine ⟨?_, ?_⟩
    · rw [if_neg (by simpa using nonempty), List.map_map]
      rfl
    · rw [List.flatMap_map]
      simp [Expression.operands]
  · simp only [unsorted, asks]
    exact ⟨by decide, rfl⟩
  · rw [unsorted, plain]
    exact ⟨rfl, rfl⟩

/-- There is no mark among these words. -/
theorem ordering_worded (unmarked : table.HasUnmarkedNames) {keys : List (OrderKey Stored)}
    (made : request.ordering table = .ok keys) : IsUnmarked request.orderingWords := by
  unfold orderingWords
  obtain ⟨sort, sorts, -, known, -⟩ | ⟨unsorted, ⟨term, asks⟩, -⟩ | ⟨unsorted, plain, -⟩ :=
    ordering_ok made
  · rw [sorts]
    refine .append (by decide) (is_unmarked_joined (by decide) fun text member => ?_)
    obtain ⟨pair, among, rfl⟩ := List.mem_map.mp member
    have column := is_unmarked_qualified request.source_unmarked
      (unmarked.columns _ (Table.mem_column_names_of_has_column (known pair among)))
    refine (column.append (by decide)).append ?_
    cases pair.2 <;> decide
  · rw [unsorted, asks]
    exact (by decide : IsUnmarked " ORDER BY a.rank")
  · rw [unsorted, plain]
    exact (by decide : IsUnmarked "")

/-- The columns of a query for all columns of a table. -/
theorem result_columns_render (table : Table) (source : Option String) :
    "SELECT " ++ joined ", " ((resultColumns table source).map ResultColumn.render) =
      columnWords table source := by
  unfold columnWords resultColumns
  rw [List.map_map]
  rfl

/-- The columns that are asked for have no operands. -/
theorem result_columns_operands (table : Table) (source : Option String) :
    (resultColumns table source).flatMap ResultColumn.operands = [] := by
  simp [resultColumns, ResultColumn.operands, Expression.operands]

/-- The query for the number of rows has its wording, mark by mark. -/
theorem counting_worded (unmarked : table.HasUnmarkedNames)
    (made : request.counting table = .ok query) :
    query.fragment.IsWorded (request.countingWording table) := by
  obtain ⟨rows, rowsMade, ended⟩ := bind_ok made
  cases ended
  obtain ⟨⟨source, joins, conditions, rfl⟩, worded⟩ := rows_worded unmarked rowsMade
  have whole := (Fragment.IsWorded.words (by decide : IsUnmarked "SELECT COUNT(*)")).append worded
  refine ⟨Eq.trans ?_ whole.text, Eq.trans ?_ whole.operands, whole.plain⟩
  · simp [Select.fragment, Select.render, joined, ResultColumn.render, Expression.render,
      Select.renderRows, Select.renderGrouping, Select.renderOrdering, Select.renderWindow,
      String.append_assoc]
  · simp [Select.fragment, Select.operands, ResultColumn.operands, Expression.operands,
      Select.rowOperands]

/-- The query for a page has its wording, with the window at its end. -/
theorem finding_worded (unmarked : table.HasUnmarkedNames) {page : Page}
    (made : request.finding table page = .ok query) :
    query.fragment.IsWorded (request.findingWording table page) := by
  obtain ⟨rows, rowsMade, made⟩ := bind_ok made
  obtain ⟨keys, keysMade, ended⟩ := bind_ok made
  cases ended
  obtain ⟨⟨source, joins, conditions, rfl⟩, worded⟩ := rows_worded unmarked rowsMade
  obtain ⟨order, noOperands⟩ := ordering_render keysMade
  have ordered := ordering_worded unmarked keysMade
  have columns := Fragment.IsWorded.words (unmarked.column_words request.source_unmarked)
  have limit := (Fragment.IsWorded.words (by decide : IsUnmarked " LIMIT ")).append
    (.mark .limit (.integer page.limit))
  have offset := (Fragment.IsWorded.words (by decide : IsUnmarked " OFFSET ")).append
    (.mark .offset (.integer page.offset))
  have whole := (columns.append worded).append
    ((Fragment.IsWorded.words ordered).append (limit.append offset))
  refine ⟨Eq.trans ?_ whole.text, Eq.trans ?_ whole.operands, whole.plain⟩
  · rw [← order, ← result_columns_render]
    simp only [Select.fragment, Select.render, Select.renderRows, Select.renderGrouping,
      Select.renderOrdering, Select.renderWindow, Expression.render, List.isEmpty_nil,
      Bool.false_eq_true, if_false, if_true, String.append_assoc, String.empty_append]
  · simp only [Select.fragment, Select.operands, Select.rowOperands, result_columns_operands,
      noOperands, Expression.operands, Option.map_some, Option.map_none, Option.getD_some,
      Option.getD_none, List.flatMap_nil, List.append_nil, List.nil_append, List.append_assoc]

/-- The query for the first row has its wording. -/
theorem finding_one_worded (unmarked : table.HasUnmarkedNames) {criteria : Criteria}
    (made : findingOne table criteria = .ok query) :
    query.fragment.IsWorded (findingOneWording table criteria) := by
  obtain ⟨rows, rowsMade, ended⟩ := bind_ok made
  cases ended
  obtain ⟨⟨source, joins, conditions, rfl⟩, worded⟩ := plain_rows_worded unmarked rfl rowsMade
  have named : ∀ given ∈ (none : Option String), IsUnmarked given := nofun
  have whole := ((Fragment.IsWorded.words (unmarked.column_words named)).append
    worded).append (.words (by decide : IsUnmarked " LIMIT 1"))
  refine ⟨Eq.trans ?_ whole.text, Eq.trans ?_ whole.operands, whole.plain⟩
  · have first : " LIMIT " ++ toString (1 : Int64).toInt = " LIMIT 1" := by decide
    rw [← result_columns_render]
    simp only [Select.fragment, Select.render, Select.renderRows, Select.renderGrouping,
      Select.renderOrdering, Select.renderWindow, Expression.render, List.isEmpty_nil,
      Bool.false_eq_true, if_false, if_true, String.append_assoc, String.append_empty, first]
  · simp only [Select.fragment, Select.operands, Select.rowOperands, result_columns_operands,
      Expression.operands, Option.map_some, Option.map_none, Option.getD_some,
      Option.getD_none, List.flatMap_nil, List.append_nil, List.nil_append]

end Request

/-! ### Changes -/

namespace Table

variable {table : Table} {values : List (Column × Value)}

/-- The row of drawn values. -/
def storedValues (values : List (Column × Value)) : List (String × Stored) :=
  values.map fun entry => (entry.1.name, entry.2.stored)

/-- An insertion has a mark for each value that was drawn. -/
theorem insertion_worded (unmarked : table.HasUnmarkedNames)
    (known : ∀ entry ∈ values, entry.1 ∈ table.columns) :
    (table.insertion (storedValues values)).fragment.IsWorded (table.insertionWording values) := by
  have opening := (by decide : IsUnmarked "INSERT INTO ").append unmarked.name
  unfold insertionWording
  cases values with
  | nil =>
    have whole := Fragment.IsWorded.words (opening.append
      (by decide : IsUnmarked " DEFAULT VALUES"))
    refine ⟨Eq.trans ?_ whole.text, whole.operands, whole.plain⟩
    have into : "INSERT INTO " = "INSERT " ++ "" ++ "INTO " := by decide
    rw [into]
    simp only [Change.fragment, insertion, storedValues, Change.render, Conflict.render,
      Change.renderRows, List.map_nil, List.isEmpty_nil, if_true, String.append_assoc,
      String.empty_append]
  | cons first rest =>
    have names : IsUnmarked (joined ", " ((first :: rest).map fun entry => entry.1.name)) :=
      is_unmarked_joined (by decide) fun text member => by
        obtain ⟨entry, among, rfl⟩ := List.mem_map.mp member
        exact unmarked.columns _ (List.mem_map_of_mem (known entry among))
    have each : List.Forall₂ Fragment.IsWorded
        ((first :: rest).map fun entry => ⟨"?", [entry.2.stored]⟩)
        ((first :: rest).map fun entry => [.mark ⟨.column entry.1.name, entry.2.stored⟩]) :=
      List.forall₂_map_left_iff.mpr (List.forall₂_map_right_iff.mpr
        (List.forall₂_same.mpr fun entry _ => .mark _ _))
    have whole := ((Fragment.IsWorded.words (((opening.append (by decide : IsUnmarked " (")).append
      names).append (by decide : IsUnmarked ") VALUES ("))).append
        (.separated (by decide : IsUnmarked ", ") each)).append
          (.words (by decide : IsUnmarked ")"))
    refine ⟨Eq.trans ?_ whole.text, Eq.trans ?_ whole.operands, whole.plain⟩
    · have into : "INSERT INTO " = "INSERT " ++ "" ++ "INTO " := by decide
      have between : ") VALUES (" = ")" ++ " VALUES " ++ "(" := by decide
      rw [into, between]
      simp only [Change.fragment, insertion, storedValues, Change.render, Conflict.render,
        Change.renderRows, Change.renderRow, joined, String.intercalate_singleton, List.map_map,
        List.map_cons, List.map_nil, List.isEmpty_cons, Bool.false_eq_true, if_false,
        String.append_assoc, String.empty_append, Function.comp_def, Expression.render]
    · simp only [Change.fragment, insertion, storedValues, Change.operands, Change.rowOperands,
        List.map_map, List.flatMap_map, List.map_cons, List.isEmpty_cons, Bool.false_eq_true,
        if_false, Expression.operands, List.flatMap_cons, List.flatMap_nil, List.append_nil,
        List.nil_append, Function.comp_def]

/-- The condition to which criteria compile has their wording. -/
theorem condition_worded (unmarked : table.HasUnmarkedNames) {criteria : Criteria}
    {condition : Condition} {action : String}
    (made : criteria.condition table action = .ok condition) :
    Fragment.IsWorded ⟨renderClause "WHERE" (some [condition]),
      conditionOperands (some [condition])⟩
      (clause " WHERE " (grouped? (criteria.wordings none))) := by
  obtain ⟨whole, stated, ended⟩ := bind_ok made
  cases whole with
  | none => cases ended
  | some given =>
    cases ended
    have named : ∀ given ∈ (none : Option String), IsUnmarked given := nofun
    exact clause_worded (by decide : IsUnmarked (" " ++ "WHERE" ++ " "))
      (stated_condition?_worded unmarked named stated)

/-- An update has a mark for each value that was drawn, and then those of its criteria. -/
theorem modification_worded (unmarked : table.HasUnmarkedNames) {criteria : Criteria}
    {condition : Condition} {action : String}
    (known : ∀ entry ∈ values, entry.1 ∈ table.columns)
    (made : criteria.condition table action = .ok condition) :
    (table.modification (storedValues values) condition).fragment.IsWorded
      (table.modificationWording values criteria) := by
  have each : List.Forall₂ Fragment.IsWorded
      (values.map fun entry => ⟨entry.1.name ++ " = " ++ "?", [entry.2.stored]⟩)
      (values.map fun entry =>
        [.words (entry.1.name ++ " = "), .mark ⟨.column entry.1.name, entry.2.stored⟩]) := by
    refine List.forall₂_map_left_iff.mpr (List.forall₂_map_right_iff.mpr
      (List.forall₂_same.mpr fun entry member => ?_))
    have column := unmarked.columns _ (List.mem_map_of_mem (known entry member))
    exact (Fragment.IsWorded.words (column.append (by decide : IsUnmarked " = "))).append
      (.mark _ _)
  have whole := ((Fragment.IsWorded.words
    (((by decide : IsUnmarked "UPDATE ").append unmarked.name).append
      (by decide : IsUnmarked " SET "))).append
        (.separated (by decide : IsUnmarked ", ") each)).append (condition_worded unmarked made)
  refine ⟨Eq.trans ?_ whole.text, Eq.trans ?_ whole.operands, whole.plain⟩
  · have opening : "UPDATE " = "UPDATE " ++ "" := by decide
    rw [opening]
    simp only [Change.fragment, modification, storedValues, Change.render, Conflict.render,
      List.map_map, Function.comp_def, Expression.render, String.append_assoc, String.empty_append]
  · simp only [Change.fragment, modification, storedValues, Change.operands, List.flatMap_map,
      Expression.operands, List.nil_append]

/-- A deletion has the marks of its criteria. -/
theorem deletion_worded (unmarked : table.HasUnmarkedNames) {criteria : Criteria}
    {condition : Condition} {action : String}
    (made : criteria.condition table action = .ok condition) :
    (table.deletion condition).fragment.IsWorded (table.deletionWording criteria) :=
  (Fragment.IsWorded.words ((by decide : IsUnmarked "DELETE FROM ").append unmarked.name)).append
    (condition_worded unmarked made)

end Table

/-- What an entity writes is drawn for columns of the table. -/
theorem Entity.row_drawn {model : Model} {table : Table} {isUpdate : Bool} {entity : Entity model}
    {count : Nat} {row : List (String × Stored)}
    (written : (entity.row table isUpdate count).outcome = .ok row) :
    ∃ values, (draw (rowColumns table isUpdate) entity count).outcome = .ok values ∧
      row = Table.storedValues values ∧ ∀ entry ∈ values, entry.1 ∈ table.columns := by
  obtain ⟨values, drawn, -, rfl⟩ := row_ok written
  refine ⟨values, drawn, rfl, fun entry member => ?_⟩
  have column : entry.1 ∈ rowColumns table isUpdate := by
    rw [← draw_columns drawn]
    exact List.mem_map_of_mem member
  exact (List.mem_filter.mp column).1

/-- Question marks line up with operands. Whatever is compiled for a table of a schema (the
conditions that criteria and a partition state, the queries that count, that find a page and that
find one row, with a term or without, and the insertion, the update and the deletion of a row) has
as many question marks in its text as it has operands, and each question mark belongs to the clause
whose value is the operand at its place.

Proof: each part of a query has a wording of its own, in which every mark has its clause and its
value, and putting parts one behind the other puts their wordings one behind the other. -/
theorem marks_line_up_with_operands {tables : List Table} {schema : Schema} {table : Table}
    (accepted : Schema.ofTables tables = .ok schema) (member : table ∈ schema.tables) :
    (∀ criteria partition source condition, (∀ given ∈ source, IsUnmarked given) →
      statedCondition? criteria partition table source = .ok (some condition) →
      ∃ wording ∈ grouped? (statedWordings criteria partition source),
        condition.fragment.LinesUp wording) ∧
    (∀ request query, Request.counting request table = .ok query →
      query.fragment.LinesUp (request.countingWording table)) ∧
    (∀ request page query, Request.finding request table page = .ok query →
      query.fragment.LinesUp (request.findingWording table page)) ∧
    (∀ criteria query, Request.findingOne table criteria = .ok query →
      query.fragment.LinesUp (Request.findingOneWording table criteria)) ∧
    (∀ (model : Model) (entity : Entity model) count row,
      (entity.row table false count).outcome = .ok row →
      ∃ values, (Entity.draw (Entity.rowColumns table false) entity count).outcome = .ok values ∧
        (table.insertion row).fragment.LinesUp (table.insertionWording values)) ∧
    (∀ (model : Model) (entity : Entity model) count row criteria condition,
      (entity.row table true count).outcome = .ok row →
      (entity.key table).criteria table = .ok criteria →
      criteria.condition table "update" = .ok condition →
      ∃ values, (Entity.draw (Entity.rowColumns table true) entity count).outcome = .ok values ∧
        (table.modification row condition).fragment.LinesUp
          (table.modificationWording values criteria)) ∧
    ∀ key criteria condition, Key.criteria key table = .ok criteria →
      criteria.condition table "remove" = .ok condition →
      (table.deletion condition).fragment.LinesUp (table.deletionWording criteria) := by
  have unmarked := Table.has_unmarked_names_of_fault?
    (Schema.of_tables_fault? accepted table member)
  refine ⟨fun criteria partition source condition named stated => ?_,
    fun request query made => (Request.counting_worded unmarked made).lines_up,
    fun request page query made => (Request.finding_worded unmarked made).lines_up,
    fun criteria query made => (Request.finding_one_worded unmarked made).lines_up,
    fun model entity count row written => ?_,
    fun model entity count row criteria condition written _ made => ?_,
    fun key criteria condition _ made => (Table.deletion_worded unmarked made).lines_up⟩
  · cases worded : grouped? (statedWordings criteria partition source) with
    | none =>
      have related := stated_condition?_worded unmarked named stated
      rw [worded] at related
      cases related
    | some wording =>
      have related := stated_condition?_worded unmarked named stated
      rw [worded] at related
      cases related with
      | some whole => exact ⟨wording, rfl, whole.lines_up⟩
  · obtain ⟨values, drawn, rfl, known⟩ := Entity.row_drawn written
    exact ⟨values, drawn, (Table.insertion_worded unmarked known).lines_up⟩
  · obtain ⟨values, drawn, rfl, known⟩ := Entity.row_drawn written
    exact ⟨values, drawn, (Table.modification_worded unmarked known made).lines_up⟩

/-! ### Letters -/

namespace Correspondence

/-- The letters of senders in their years, with bodies to be searched. -/
def letter : Table :=
  ⟨"letter", [{ name := "sender", type := .string, primaryKey := true },
    { name := "year", type := .integer, primaryKey := true },
    { name := "body", type := .string, analyzed := true }]⟩

/-- What a sender wrote about the harbour in one of two years. -/
def harbour : Request where
  criteria := some ⟨[("$in", .list [.text "year", .integer 1901, .integer 1905])]⟩
  partition := some ⟨[("sender", .text "Ada")]⟩
  term := some "harbour"

/-- The letters are a table of a schema. -/
theorem letter_accepted : Schema.ofTables [letter] = .ok ⟨[letter]⟩ :=
  Schema.of_tables_ok (by decide +kernel) (by decide +kernel)

end Correspondence

open Correspondence in
/-- The years stand before the sender, for they are asked of the table. -/
theorem marks_line_up_in_the_letters :
    Schema.ofTables [letter] = .ok ⟨[letter]⟩ ∧ letter ∈ [letter] ∧
      ∃ query, harbour.finding letter ⟨10, 20⟩ = .ok query ∧
        query.fragment.text =
          "SELECT b.sender, b.year, b.body FROM fts_letter a INNER JOIN letter b " ++
          "ON a.sender = b.sender AND a.year = b.year AND b.year IN (?, ?) " ++
          "WHERE a.sender = ? AND a.fts_letter MATCH ? ORDER BY a.rank LIMIT ? OFFSET ?" ∧
        marks (harbour.findingWording letter ⟨10, 20⟩) =
          [⟨.operand "$in" 0, .integer 1901⟩, ⟨.operand "$in" 1, .integer 1905⟩,
            ⟨.attribute "sender", .text "Ada"⟩, ⟨.term, .text "harbour"⟩,
            ⟨.limit, .integer 10⟩, ⟨.offset, .integer 20⟩] ∧
        query.fragment.LinesUp (harbour.findingWording letter ⟨10, 20⟩) := by
  obtain ⟨query, compiled⟩ := exists_of_is_ok
    (show (harbour.finding letter ⟨10, 20⟩).isOk = true by decide +kernel)
  obtain ⟨-, -, finds, -⟩ := marks_line_up_with_operands letter_accepted List.mem_cons_self
  have lines := finds harbour ⟨10, 20⟩ query compiled
  refine ⟨letter_accepted, List.mem_cons_self, query, compiled, ?_, by decide +kernel, lines⟩
  rw [lines.text]
  decide +kernel

end RecordStore
