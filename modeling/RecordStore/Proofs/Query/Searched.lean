import RecordStore.Proofs.Query.Plain
import RecordStore.Proofs.Shadow.Copies

/-!
# Queries that search

A request with a term is a query of the full-text table of its table, joined to the table. What
belongs to one copy in the join is asked of both, what confines the copies is asked of the
full-text table, and so is the term. The rows of the query are pairs of a copy and a row.
-/

namespace RecordStore

open Engine Sql Request

namespace Table

/-- The columns that a query that searches may name: the carried columns and the rank of the
full-text table, and the columns of the table. -/
def NamesSearched (table : Table) (source : Option String) (name : String) : Prop :=
  (source = some shadowAlias ∧ (name ∈ table.carriedColumns ∨ name = rankName)) ∨
    table.NamesUnder (some tableAlias) source name

/-- The condition that a copy has what a term asks for. -/
def matching (table : Table) (term : Stored) : Condition :=
  .matching (some shadowAlias) table.shadowName term

/-- A query that searches, its clauses merged: with the conditions under which a row belongs to a
copy, and those that confine the copies. -/
structure IsSearchedBy (table : Table) (belonging confined : List Condition) (term : Stored)
    (query : Select Stored) : Prop extends query.IsOver table.NamesSearched where
  source : query.source = some ⟨table.shadowName, some shadowAlias⟩
  joins : query.joins = [⟨⟨table.name, some tableAlias⟩, some (merge belonging)⟩]
  conditions : query.conditions = some (merge (confined ++ [table.matching term]))

/-- A database in which a table can be searched: it has the table and its full-text table. -/
structure IsSearchedIn (table : Table) (database : Database) (relation : Relation)
    (shadow : FullTextTable) : Prop extends table.IsReadIn database relation where
  shadowed : database.fullText? table.shadowName = some shadow
  unrelated : database.relation? table.shadowName = none
  carried : shadow.columns = table.shadowDefinition.columns

namespace IsSearchedIn

variable {table : Table} {database : Database} {relation : Relation} {shadow : FullTextTable}

/-- The full-text table is not taken for a relation, nor for one that shows the database. -/
theorem shadow_readable? (held : table.IsSearchedIn database relation shadow) :
    database.readable? table.shadowName = none := by
  have different : ∀ name ∈ sequenceName :: Database.catalogNames,
      sameName table.shadowName name = false := by
    intro name member
    simp only [sequenceName, Database.catalogNames, List.mem_cons, List.not_mem_nil,
      or_false] at member
    rcases member with rfl | rfl | rfl <;>
      simp [sameName, Table.shadowName, ← String.toList_inj]
  have catalogs : Database.catalogNames.any (sameName table.shadowName) = false :=
    List.any_eq_false.mpr fun name member => by
      simp [different name (List.mem_cons_of_mem _ member)]
  unfold Database.readable?
  rw [held.unrelated]
  simp [catalogs, different sequenceName List.mem_cons_self]

/-- A carried column stands for its value in a copy, as it is. -/
theorem shadow_lookup? (held : table.IsSearchedIn database relation shadow) (name : String)
    (rank : Stored) {copy : Row} (full : copy.values.length = table.carriedColumns.length)
    {column : String} (carried : column ∈ table.carriedColumns) :
    (shadow.binding name copy rank).lookup? column =
      some (some .blob, Relation.valueIn shadow.attributes copy.values column) := by
  have names := shadow_names_of_carried held.carried
  have named : column ∈ shadow.attributes.map Attribute.name := names.symm ▸ carried
  obtain ⟨attr, means⟩ := Relation.meant?_is_some named
  have lengths : copy.values.length = shadow.attributes.length := by
    rw [full, ← names, List.length_map]
  rw [shadow.lookup?_binding name rank lengths means, FullTextTable.affinity_of_meant? means]

end IsSearchedIn

/-- The names of the two sources are told apart. -/
theorem aliases_apart : sameName shadowAlias tableAlias = false ∧
    sameName tableAlias shadowAlias = false := by
  simp [sameName, shadowAlias, tableAlias, ← String.toList_inj]

/-- The alias of the full-text table is one that a query may give. -/
theorem is_alias_shadow_alias : IsAlias shadowAlias :=
  ⟨⟨by decide, by decide +kernel⟩, by decide +kernel⟩

/-- So is the alias of the table. -/
theorem is_alias_table_alias : IsAlias tableAlias :=
  ⟨⟨by decide, by decide +kernel⟩, by decide +kernel⟩

namespace IsSearchedBy

variable {table : Table} {belonging confined : List Condition} {term : Stored}
  {query : Select Stored} {database : Database} {relation : Relation} {shadow : FullTextTable}

/-- Other operands leave it a query that searches. -/
theorem map_operands (asked : table.IsSearchedBy belonging confined term query)
    (replace : Stored → Stored) :
    table.IsSearchedBy (belonging.map (Expression.mapOperands replace))
      (confined.map (Expression.mapOperands replace)) (replace term)
      (query.mapOperands replace) where
  toIsOver := asked.toIsOver.map_operands replace
  source := asked.source
  joins := by
    simp only [Select.mapOperands, asked.joins, List.map_cons, List.map_nil, mapConditions,
      Option.map_some, merge_map_operands]
  conditions := by
    simp only [Select.mapOperands, asked.conditions, mapConditions, Option.map_some,
      merge_map_operands, List.map_append, List.map_cons, List.map_nil]
    rfl

/-- Such a query joins the full-text table and the table, under their aliases. -/
theorem sources (asked : table.IsSearchedBy belonging confined term query) :
    Engine.sources query =
      [⟨table.shadowName, some shadowAlias⟩, ⟨table.name, some tableAlias⟩] := by
  simp [Engine.sources, asked.source, asked.joins]

/-- The names that such a query can be checked against: those of the copies and those of the
rows. -/
def names (shadow : FullTextTable) (relation : Relation) : List Binding :=
  [shadow.names shadowAlias, relation.names tableAlias]

/-- Of these the first are meant by the name of the full-text table in the query. -/
theorem names_shadow (shadow : FullTextTable) (relation : Relation) :
    ((names shadow relation).filter fun binding => sameName binding.name shadowAlias) =
      [shadow.names shadowAlias] := by
  simp [names, FullTextTable.names, Relation.names, emptyBinding, aliases_apart.2]

/-- The second are meant by the name of the table in the query. -/
theorem names_table (shadow : FullTextTable) (relation : Relation) :
    ((names shadow relation).filter fun binding => sameName binding.name tableAlias) =
      [relation.names tableAlias] := by
  simp [names, FullTextTable.names, Relation.names, emptyBinding, aliases_apart.1]

/-- Behind its columns a copy has its rank, and the name of its table for matches. -/
theorem hidden_lookup? {name : String}
    (special : sameName name rankName = true ∨ sameName name shadow.name = true) :
    ((shadow.names shadowAlias).lookup? name).isSome = true := by
  have behind : ((shadow.names shadowAlias).behind name).isSome = true := by
    simp only [Binding.behind, FullTextTable.names, emptyBinding]
    split
    · rfl
    · rename_i other
      rw [if_pos (special.resolve_left other)]
      rfl
  unfold Binding.lookup?
  cases Binding.among name (shadow.names shadowAlias).attributes
    (shadow.names shadowAlias).values with
  | none => exact behind
  | some found => rfl

/-- The columns that such a query may name are known. -/
theorem accepts_names (held : table.IsSearchedIn database relation shadow) :
    Accepts (names shadow relation) table.NamesSearched := by
  rintro _ name (⟨rfl, carried | rfl⟩ | ⟨rfl, known⟩)
  · have named : name ∈ shadow.attributes.map Attribute.name :=
      (shadow_names_of_carried held.carried).symm ▸ carried
    obtain ⟨attr, means⟩ := Relation.meant?_is_some named
    exact check_column_named (names_shadow shadow relation) (lookup?_empty_binding means)
  · exact check_column_named (names_shadow shadow relation)
      (hidden_lookup? (.inl (same_name_refl _)))
  · exact check_column_named (names_table shadow relation) (held.names_lookup? tableAlias known)

/-- The match is accepted, since the full-text table is the first source. -/
theorem matching_checked (held : table.IsSearchedIn database relation shadow) (term : Stored) :
    checkCondition (names shadow relation) (table.matching term) = .ok () := by
  have named : ((shadow.names shadowAlias).lookup? table.shadowName).isSome = true :=
    hidden_lookup? (.inr (by
      rw [same_name_comm]
      exact Database.full_text?_name held.shadowed))
  refine check_condition_matching (check_column_named (names_shadow shadow relation) named) ?_
  have first : ((shadow.names shadowAlias).fullText.isSome &&
      sameName (shadow.names shadowAlias).name shadowAlias &&
      ((shadow.names shadowAlias).lookup? table.shadowName).isSome) = true := by
    rw [named, Bool.and_true]
    simp [FullTextTable.names, emptyBinding]
  unfold Scope.matched? names
  rw [List.find?_cons]
  simp only [first]
  rfl

/-- The query is accepted if what is asked of copies and rows is about their columns. -/
theorem checked (asked : table.IsSearchedBy belonging confined term query)
    (held : table.IsSearchedIn database relation shadow)
    (within : ∀ condition ∈ belonging ++ confined, condition.Within table.NamesSearched) :
    checkSelect database query = .ok () := by
  have accepts := accepts_names held
  have found : (Engine.sources query).mapM (sourceNames database) =
    .ok (names shadow relation) := by
    rw [asked.sources]
    simp [sourceNames, held.readable?, held.shadow_readable?, held.shadowed, Source.name, names,
      bind, Except.bind, pure, Except.pure]
  refine asked.toIsOver.checked found accepts (fun join member => ?_) ?_
  · rw [asked.joins] at member
    cases List.mem_singleton.mp member
    exact check_conditions_merge fun condition among =>
      check_condition_ok accepts (within condition (List.mem_append_left _ among))
  · rw [asked.conditions]
    refine check_conditions_merge fun condition member => ?_
    rcases List.mem_append.mp member with among | last
    · exact check_condition_ok accepts (within condition (List.mem_append_right _ among))
    · cases List.mem_singleton.mp last
      exact matching_checked held term

/-- The query is read back from its text if what is asked of copies and rows is. -/
theorem written (asked : table.IsSearchedBy belonging confined term query)
    (faultless : table.fault? = none) (nonempty : belonging ≠ [])
    (readBack : ∀ condition ∈ belonging ++ confined, condition.Written 3) : query.Written := by
  obtain ⟨identifier, -, named⟩ := identifiers_of_fault? faultless
  have copies := is_alias_shadow_alias
  have rows := is_alias_table_alias
  have rank : IsName rankName := ⟨by decide, by decide +kernel⟩
  have shadowNamed := is_name_shadow_name identifier
  refine asked.toIsOver.written ?_ ⟨_, asked.source, shadowNamed, ?_⟩ (fun join member => ?_) ?_
  · rintro _ name (⟨rfl, carried | rfl⟩ | ⟨rfl, known⟩)
    · exact ⟨by rintro _ ⟨⟩; exact copies.1, named name (table.carried_subset carried)⟩
    · exact ⟨by rintro _ ⟨⟩; exact copies.1, rank⟩
    · exact ⟨by rintro _ ⟨⟩; exact rows.1, named name (mem_column_names_of_has_column known)⟩
  · rintro _ ⟨⟩
    exact copies
  · rw [asked.joins] at member
    cases List.mem_singleton.mp member
    refine ⟨⟨is_name_of_is_identifier identifier, ?_⟩, written_merge nonempty
      fun condition among => readBack condition (List.mem_append_left _ among)⟩
    rintro _ ⟨⟩
    exact rows
  · rw [asked.conditions]
    refine written_merge (by simp) fun condition member => ?_
    rcases List.mem_append.mp member with among | last
    · exact readBack condition (List.mem_append_right _ among)
    · cases List.mem_singleton.mp last
      exact .matching (by decide) ⟨by rintro _ ⟨⟩; exact copies.1, shadowNamed⟩ _

/-- Without the number of rows the query is not about groups of rows. -/
theorem ungrouped (asked : table.IsSearchedBy belonging confined term query)
    (columns : .computed .countRows none "COUNT(*)" ∉ query.columns)
    (within : ∀ condition ∈ confined, condition.Within table.NamesSearched) :
    answersForGroups query = false := by
  refine asked.toIsOver.ungrouped columns fun part member => ?_
  rw [asked.conditions, clause_conjuncts_merge] at member
  obtain ⟨condition, among, inside⟩ := List.mem_flatMap.mp member
  rcases List.mem_append.mp among with confines | last
  · exact within_not_aggregated (within_conjuncts (within condition confines) part inside)
  · cases List.mem_singleton.mp last
    cases List.mem_singleton.mp inside
    rfl

end IsSearchedBy

end Table

/-- The text of a query that searches, run with the values of its operands, answers with what the
query selects with its clauses merged. -/
theorem Table.IsSearchedBy.run_text {table : Table} {belonging confined : List Condition}
    {term : Stored} {query : Select Stored} {access : Access} {relation : Relation}
    {shadow : FullTextTable}
    (asked : table.IsSearchedBy belonging confined term query.merged)
    (faultless : table.fault? = none) (held : table.IsSearchedIn access.visible relation shadow)
    (nonempty : belonging ≠ [])
    (within : ∀ condition ∈ belonging ++ confined, condition.Within table.NamesSearched)
    (readBack : ∀ condition ∈ belonging ++ confined, condition.Written 3) :
    (access.runText query.fragment.text query.fragment.operands).answer =
      access.forReading.bind fun _ =>
        select access.visible (query.merged.mapOperands Stored.bound) := by
  have checked : access.check (.select (query.merged.mapOperands fun _ => .null)) = .ok () := by
    refine (asked.map_operands _).checked held ?_
    rw [← List.map_append]
    exact Expression.within_map _ within
  rw [← query.fragment_merged,
    Access.run_text_render (asked.written faultless nonempty readBack) checked]
  refine Access.run_select_reads access ?_
  rw [(asked.map_operands Stored.bound).source]
  rfl

/-! ### Pairs of a copy and a row -/

namespace Engine

/-- The rows of a full-text table, each with its rank for a pattern. -/
def FullTextTable.ranked (table : FullTextTable) (pattern : FullText.Pattern) :
    List (Row × Stored) :=
  let corpus : FullText.Corpus := ⟨table.rows.map table.words⟩
  (table.rows.zip (corpus.ranks pattern)).map fun ranked => (ranked.1, .real ranked.2)

/-- Ranking the rows of a full-text table drops none of them. -/
theorem FullTextTable.ranked_rows (table : FullTextTable) (pattern : FullText.Pattern) :
    (table.ranked pattern).map Prod.fst = table.rows := by
  unfold ranked
  rw [List.map_map]
  exact List.map_fst_zip (by simp [FullText.Corpus.ranks])

/-- A copy with its rank and a row, as a query that searches knows them. -/
def pairScope (shadow : FullTextTable) (relation : Relation) (pair : (Row × Stored) × Row) :
    Scope :=
  [shadow.binding shadowAlias pair.1.1 pair.1.2, relation.binding tableAlias pair.2]

/-- The pairs of a copy and a row that belong together. -/
def pairs (belongs : (Row × Stored) × Row → Bool) (copies : List (Row × Stored)) (rows : List Row) :
    List ((Row × Stored) × Row) :=
  copies.flatMap fun copy => (rows.map (Prod.mk copy)).filter belongs

/-- A match is decided by the pattern and the words of the copy. -/
theorem holds_matching {scope : Scope} {table : Table} {shadow : FullTextTable} {copy : Row}
    {rank : Stored} {term : String} {pattern : FullText.Pattern}
    (matched : scope.matched? (some shadowAlias) table.shadowName =
      some (shadow.binding shadowAlias copy rank))
    (named : sameName table.shadowName shadow.name = true)
    (parsed : FullText.Pattern.parse shadow.columnNames term = .ok pattern) :
    holds scope (table.matching (.text term)) = pattern.holds (shadow.words copy) := by
  have parsedToo : FullText.Pattern.parse (shadow.columns.map FullTextColumn.name) term =
      .ok pattern := parsed
  simp only [holds, Table.matching, evaluate, matchesPattern, matched, FullTextTable.binding,
    Stored.toText, parsedToo, named, if_true, truth?_of_bool]
  change (some (pattern.holds (shadow.words copy)) == some true) = pattern.holds (shadow.words copy)
  cases pattern.holds (shadow.words copy) <;> rfl

end Engine

namespace Table

variable {table : Table} {belonging confined : List Condition} {term : String}
  {query : Select Stored} {database : Database} {relation : Relation} {shadow : FullTextTable}

/-- The columns of the full-text table are those that the table carries. -/
theorem IsSearchedIn.column_names (held : table.IsSearchedIn database relation shadow) :
    shadow.columnNames = table.carriedColumns := by
  simp only [FullTextTable.columnNames, held.carried, shadowDefinition, List.map_map]
  exact List.map_id _

/-- The full-text table is found under the name that the table gives to it. -/
theorem IsSearchedIn.named (held : table.IsSearchedIn database relation shadow) :
    sameName table.shadowName shadow.name = true := by
  rw [same_name_comm]
  exact Database.full_text?_name held.shadowed

/-- In a pair the full-text table is the one that can be asked for a match. -/
theorem IsSearchedIn.matched? (held : table.IsSearchedIn database relation shadow)
    (pair : (Row × Stored) × Row) :
    (pairScope shadow relation pair).matched? (some shadowAlias) table.shadowName =
      some (shadow.binding shadowAlias pair.1.1 pair.1.2) := by
  have behind : ((shadow.binding shadowAlias pair.1.1 pair.1.2).behind table.shadowName).isSome =
      true := by
    simp only [Binding.behind, FullTextTable.binding, held.named, if_true]
    split <;> rfl
  have found : ((shadow.binding shadowAlias pair.1.1 pair.1.2).lookup? table.shadowName).isSome =
      true := by
    unfold Binding.lookup?
    split
    · rfl
    · exact behind
  have first : ((shadow.binding shadowAlias pair.1.1 pair.1.2).fullText.isSome &&
      sameName (shadow.binding shadowAlias pair.1.1 pair.1.2).name shadowAlias &&
      ((shadow.binding shadowAlias pair.1.1 pair.1.2).lookup? table.shadowName).isSome) = true := by
    rw [found, Bool.and_true]
    simp [FullTextTable.binding]
  unfold Scope.matched? pairScope
  rw [List.find?_cons]
  simp only [first]

namespace IsSearchedBy

/-- The query asks its full-text table for the term, and for nothing else. Proof: the conditions
over columns hold no match, so the only one is the term. -/
theorem asked_of (asked : table.IsSearchedBy belonging confined (.text term) query)
    (held : table.IsSearchedIn database relation shadow)
    (within : ∀ condition ∈ belonging ++ confined, condition.Within table.NamesSearched) :
    Engine.askedOf query ⟨table.shadowName, some shadowAlias⟩ shadow =
      (FullText.Pattern.parse table.carriedColumns term).map some := by
  have clauses : clauseConjuncts query.conditions ++
      query.joins.flatMap (fun join => clauseConjuncts join.conditions) =
      confined.flatMap conjuncts ++ [table.matching (.text term)] ++
        belonging.flatMap conjuncts := by
    rw [asked.conditions, asked.joins, clause_conjuncts_merge, List.flatMap_singleton,
      clause_conjuncts_merge]
    simp [clauseConjuncts, matching, conjuncts]
  have patterns : patternsAsked query ⟨table.shadowName, some shadowAlias⟩ =
      [(table.shadowName, .text term)] := by
    have passed : ∀ (conditions : List Condition) (asks : Condition → Option (String × Stored)),
        (∀ condition ∈ conditions, condition.Within table.NamesSearched) →
        (∀ part : Condition, part.Within table.NamesSearched → asks part = none) →
        (conditions.flatMap conjuncts).filterMap asks = [] := by
      intro conditions asks columns none
      refine List.filterMap_eq_nil_iff.mpr fun part member => ?_
      obtain ⟨condition, among, inside⟩ := List.mem_flatMap.mp member
      exact none part (within_conjuncts (columns condition among) part inside)
    unfold patternsAsked
    dsimp only
    rw [clauses, List.filterMap_append, List.filterMap_append,
      passed confined _ (fun condition among => within condition (List.mem_append_right _ among)),
      passed belonging _ (fun condition among => within condition (List.mem_append_left _ among))]
    · simp [matching, Source.name]
    · intro part columns
      cases part <;> first | rfl | exact columns.elim
    · intro part columns
      cases part <;> first | rfl | exact columns.elim
  unfold Engine.askedOf
  rw [patterns]
  simp only [List.foldlM_cons, List.foldlM_nil, held.column_names, held.named, if_true,
    Stored.toText]
  cases FullText.Pattern.parse table.carriedColumns term <;> rfl

/-- The rows of the full-text table come with their ranks, if the term is a pattern. -/
theorem bindings_shadow (asked : table.IsSearchedBy belonging confined (.text term) query)
    (held : table.IsSearchedIn database relation shadow)
    (within : ∀ condition ∈ belonging ++ confined, condition.Within table.NamesSearched) :
    bindings database query ⟨table.shadowName, some shadowAlias⟩ =
      (FullText.Pattern.parse table.carriedColumns term).map fun pattern =>
        (shadow.ranked pattern).map fun copy => shadow.binding shadowAlias copy.1 copy.2 := by
  unfold bindings
  simp only [held.shadow_readable?, held.shadowed, asked.asked_of held within]
  cases FullText.Pattern.parse table.carriedColumns term with
  | error fault => rfl
  | ok pattern =>
    simp only [Except.map, bind, Except.bind, pure, Except.pure, rankedBindings,
      FullTextTable.ranked, List.map_map]
    rfl

/-- The scopes of the query are the pairs that belong together, if the term is a pattern. -/
theorem scopes (asked : table.IsSearchedBy belonging confined (.text term) query)
    (held : table.IsSearchedIn database relation shadow)
    (within : ∀ condition ∈ belonging ++ confined, condition.Within table.NamesSearched) :
    Engine.scopes database query =
      (FullText.Pattern.parse table.carriedColumns term).map fun pattern =>
        (pairs (fun pair => allHold (pairScope shadow relation pair) query.conditions &&
            allHold (pairScope shadow relation pair) (some (merge belonging)))
          (shadow.ranked pattern) (rowsRead query relation)).map (pairScope shadow relation) := by
  have rows : bindings database query ⟨table.name, some tableAlias⟩ =
      .ok ((rowsRead query relation).map (relation.binding tableAlias)) := by
    unfold bindings
    rw [held.readable?]
    rfl
  unfold Engine.scopes
  rw [asked.source, asked.joins]
  simp only [asked.bindings_shadow held within, List.foldlM_cons, List.foldlM_nil, rows]
  cases FullText.Pattern.parse table.carriedColumns term with
  | error fault => rfl
  | ok pattern =>
    simp only [Except.map, bind, Except.bind, pure, Except.pure, joinScopes, List.map_map,
      List.flatMap_map, List.filter_flatMap, pairs, List.map_flatMap]
    refine congrArg _ (List.flatMap_congr fun copy _ => ?_)
    have joined : (rowsRead query relation).map
      ((fun row => [shadow.binding shadowAlias copy.1 copy.2]
        ++ [row]) ∘ relation.binding tableAlias) =
          ((rowsRead query relation).map (Prod.mk copy)).map (pairScope shadow relation) := by
      rw [List.map_map]
      rfl
    rw [List.filter_filter]
    exact (congrArg _ joined).trans List.filter_map

end IsSearchedBy

end Table

end RecordStore
