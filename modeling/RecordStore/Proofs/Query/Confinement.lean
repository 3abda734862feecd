import RecordStore.Proofs.Query.Search

/-!
# Partitions of rows and of copies

A partition confines a request without a term by the rows of the table, and a request with a term by
their copies in the full-text table. Both compare with the same operands, since the type of a column
takes no part in how an operand is encoded. What a row's column would convert before it compares is
converted by no column of a copy, though. So the copies that a partition admits are those of the
rows that it admits, unless a column converts one of its values: then it admits no copy at all.
-/

namespace RecordStore

open Engine Sql Request

namespace Table

variable {table : Table} {database : Database} {relation : Relation} {shadow : FullTextTable}
  {partition : Partition}

/-- Every row has a copy. -/
theorem MirroredBy.exists_copy (mirrored : table.MirroredBy relation shadow) {row : Row}
    (member : row ∈ relation.rows) :
    ∃ copy ∈ shadow.rows, copy.values = relation.project table.carriedColumns row :=
  List.mem_map.mp (mirrored.copies.symm.subset (List.mem_map_of_mem member))

/-- What a partition states of the table holds of the rows that have its attributes. -/
theorem IsReadIn.stated_hold (held : table.IsReadIn database relation) {stated : List Condition}
    (made : partition.conditions table none = .ok stated) {row : Row}
    (member : row ∈ relation.rows) :
    (stated.map (Expression.mapOperands Stored.bound)).all
        (holds [relation.binding table.name row]) = partition.isMetIn table row.values :=
  (Partition.conditions_compiled made).holds fun _ known =>
    Scope.lookup?_first (held.lookup? table.name member known)

/-- What it states of the full-text table holds of the copies that have its attributes. -/
theorem IsSearchedIn.confined_hold (held : table.IsSearchedIn database relation shadow)
    (carried : partition.IsCarriedIn table) {confined : List Condition}
    (made : partition.conditions table (some shadowAlias) = .ok confined) {row : Row}
    {pair : (Row × Stored) × Row}
    (copies : pair.1.1.values = relation.project table.carriedColumns row) :
    (confined.map (Expression.mapOperands Stored.bound)).all
        (holds (pairScope shadow relation pair)) = partition.isMetInCopy table row.values := by
  refine (Partition.conditions_compiled made).holds_lookup? (fun _ => .blob)
    (table.valueOf row.values) fun demand demanded => ?_
  obtain ⟨entry, among, rfl⟩ := List.mem_map.mp demanded
  exact held.lookup?_copy copies (carried entry among)

end Table

namespace Request

variable {request : Request} {table : Table} {query : Select Stored} {partition : Partition}

/-- A request without a term asks first what its partition states of the table. -/
theorem plain_rows_conditions (given : request.partition = some partition)
    {stated : List Condition} (made : partition.conditions table none = .ok stated)
    (compiled : request.plainRows table = .ok query) :
    ∃ asked, query.conditions =
      (Expression.conjunction? (stated ++ asked)).map fun whole => [whole] := by
  obtain ⟨conditions, all, rfl⟩ := plain_rows_ok compiled
  obtain ⟨confined, asked, rfl, confinedMade, -⟩ := stated_conditions_ok all
  rw [given] at confinedMade
  cases made.symm.trans confinedMade
  exact ⟨asked, rfl⟩

/-- A request with a term asks what its partition states of the full-text table, and then for the
term. -/
theorem matched_rows_conditions (given : request.partition = some partition)
    (carried : partition.IsCarriedIn table) {confined : List Condition}
    (made : partition.conditions table (some shadowAlias) = .ok confined) {term : String}
    (compiled : request.matchedRows table term = .ok query) :
    query.conditions = some (confined ++ [table.matching (.text term)]) := by
  obtain ⟨-, -, asked, others, -, othersMade, rfl⟩ := matched_rows_ok compiled
  rw [shadow_conditions_of_carried fun other same => ?_, given] at othersMade
  · cases made.symm.trans othersMade
    rfl
  · rw [given] at same
    cases same
    exact carried

end Request

/-- A partition confines copies as it confines rows, but for values that a column converts. What a
partition by carried columns states of the table is asked by every request with it that has no term,
and what it states of the full-text table by every one that has. Every row has a copy, and of the
copy, with whatever rank and beside whatever row it stands, the latter holds exactly if the former
holds of the row and no column converts the value that the partition asks for there.

Proof: the values of a copy are those of its row. What the table compares is the value after the
column converted the operand, and what the full-text table compares is the operand as it is. -/
theorem partition_confines_copies_as_rows {table : Table} {database : Database}
    {relation : Relation} {shadow : FullTextTable} {partition : Partition}
    (found : database.relation? table.name = some relation)
    (shadowed : database.fullText? table.shadowName = some shadow)
    (unrelated : database.relation? table.shadowName = none)
    (mirrored : table.MirroredBy relation shadow) (carried : partition.IsCarriedIn table) :
    ∃ stated confined : List Condition,
      partition.conditions table none = .ok stated ∧
      partition.conditions table (some shadowAlias) = .ok confined ∧
      (∀ (request : Request) (query : Select Stored), request.partition = some partition →
        request.rows table = .ok query →
          (request.term = none → ∃ asked, query.conditions =
            (Expression.conjunction? (stated ++ asked)).map fun whole => [whole]) ∧
          ∀ term, request.term = some term →
            query.conditions = some (confined ++ [table.matching (.text term)])) ∧
      ∀ row ∈ relation.rows,
        (∃ copy ∈ shadow.rows, copy.values = relation.project table.carriedColumns row) ∧
        ∀ copy ∈ shadow.rows, copy.values = relation.project table.carriedColumns row →
          ∀ rank beside,
            (confined.map (Expression.mapOperands Stored.bound)).all
                (holds (pairScope shadow relation ((copy, rank), beside))) =
              ((stated.map (Expression.mapOperands Stored.bound)).all
                (holds [relation.binding table.name row]) && !partition.isConverted table) := by
  have held : table.IsSearchedIn database relation shadow :=
    ⟨mirrored.held.is_read_in found, shadowed, unrelated, mirrored.carried⟩
  obtain ⟨stated, statedMade⟩ := exists_of_is_ok (carried.conditions_ok none)
  obtain ⟨confined, confinedMade⟩ := exists_of_is_ok (carried.conditions_ok (some shadowAlias))
  refine ⟨stated, confined, statedMade, confinedMade, fun request query given compiled => ?_,
    fun row member => ⟨mirrored.exists_copy member, fun copy _ copies rank beside => ?_⟩⟩
  · constructor
    · intro plain
      rw [Request.rows_plain plain] at compiled
      exact Request.plain_rows_conditions given statedMade compiled
    · intro term searches
      rw [Request.rows_asking searches] at compiled
      exact Request.matched_rows_conditions given carried confinedMade compiled
  · rw [held.stated_hold statedMade member, held.confined_hold carried confinedMade copies,
      mirrored.is_met_in_copy_eq held.toIsReadIn carried member]

namespace Library

/-- A book on a shelf with a number, which the shelf of a book keeps as a text. -/
def fifth : Row := ⟨0, [.text "5", .text "Whales", .text "a ship and a whale"]⟩

/-- The copy of this book. -/
def fifthCopy : Row := ⟨1, fifth.values⟩

/-- The books, of which there is only this one. -/
def numbered : Relation := { books with rows := [fifth] }

/-- Their copies. -/
def numberedCopies : FullTextTable := { copies with rows := [fifthCopy] }

/-- An access to them. -/
def numberedAccess : Access :=
  ⟨{ number := 0, location := .memory 0 },
    { volumes := [(.memory 0,
      { content := { objects := [.relation numbered, .fullText numberedCopies] } })] }⟩

/-- The copies belong to the books. -/
theorem numbered_mirrored : book.MirroredBy numbered numberedCopies := by
  have kept : ∀ row ∈ numbered.rows, ∀ attr ∈ numbered.attributes,
      numbered.value row attr.name = attr.affinity.store (numbered.value row attr.name) := by
    decide +kernel
  have present : ∀ row ∈ numbered.rows, ∀ key ∈ book.primaryKey,
      (numbered.value row key).isNull = false := by decide +kernel
  exact {
    held := ⟨"", { books with rows := [] }, by decide +kernel, rfl, by decide⟩
    stored := fun row member attr among => ⟨_, kept row member attr among⟩
    present := present
    unique := by decide +kernel
    carried := by decide +kernel
    copies := by decide +kernel }

/-- The books on a shelf. -/
def onShelf (shelf : Value) : Partition := ⟨[("shelf", shelf)]⟩

/-- The shelf of a book is carried by its copy. -/
theorem on_shelf_carried (shelf : Value) : (onShelf shelf).IsCarriedIn book := by
  intro held member
  cases List.mem_singleton.mp member
  have carried : "shelf" ∈ book.carriedColumns := by decide +kernel
  exact carried

end Library

open Library in
/-- The book on the fifth shelf is on the shelf that is called by its number, but its copy is not.
By its text both are there. -/
theorem copy_is_on_the_shelf_by_its_text :
    numberedAccess.visible.relation? book.name = some numbered ∧
      numberedAccess.visible.fullText? book.shadowName = some numberedCopies ∧
      numberedAccess.visible.relation? book.shadowName = none ∧
      book.MirroredBy numbered numberedCopies ∧
      ∀ shelf, shelf = .text "5" ∨ shelf = .integer 5 → ∃ stated confined : List Condition,
        (onShelf shelf).conditions book none = .ok stated ∧
        (onShelf shelf).conditions book (some shadowAlias) = .ok confined ∧
        (stated.map (Expression.mapOperands Stored.bound)).all
          (holds [numbered.binding book.name fifth]) = true ∧
        (confined.map (Expression.mapOperands Stored.bound)).all
            (holds (pairScope numberedCopies numbered ((fifthCopy, .null), fifth))) =
          decide (shelf = .text "5") := by
  have found : numberedAccess.visible.relation? book.name = some numbered := by decide +kernel
  have shadowed : numberedAccess.visible.fullText? book.shadowName = some numberedCopies := by
    decide +kernel
  have unrelated : numberedAccess.visible.relation? book.shadowName = none := by decide +kernel
  refine ⟨found, shadowed, unrelated, numbered_mirrored, fun shelf called => ?_⟩
  obtain ⟨stated, confined, statedMade, confinedMade, -, each⟩ := partition_confines_copies_as_rows
    found shadowed unrelated numbered_mirrored (on_shelf_carried shelf)
  obtain ⟨-, copied⟩ := each fifth List.mem_cons_self
  have asCopied := copied fifthCopy List.mem_cons_self (by decide +kernel) .null fifth
  have holdsOfRow : (stated.map (Expression.mapOperands Stored.bound)).all
      (holds [numbered.binding book.name fifth]) = true := by
    rcases called with rfl | rfl <;>
    · cases statedMade
      decide +kernel
  refine ⟨stated, confined, statedMade, confinedMade, holdsOfRow, ?_⟩
  rw [asCopied, holdsOfRow]
  rcases called with rfl | rfl <;> decide +kernel

open Library in
/-- Copies are not confined as rows are if a shelf with a text is called by a number. -/
theorem copy_is_not_on_the_shelf_by_its_number :
    book.MirroredBy numbered numberedCopies ∧ (onShelf (.integer 5)).IsCarriedIn book ∧
      fifth ∈ numbered.rows ∧ fifthCopy ∈ numberedCopies.rows ∧
      fifthCopy.values = numbered.project book.carriedColumns fifth ∧
      ∃ stated confined : List Condition,
        (onShelf (.integer 5)).conditions book none = .ok stated ∧
        (onShelf (.integer 5)).conditions book (some shadowAlias) = .ok confined ∧
        (stated.map (Expression.mapOperands Stored.bound)).all
          (holds [numbered.binding book.name fifth]) = true ∧
        (confined.map (Expression.mapOperands Stored.bound)).all
          (holds (pairScope numberedCopies numbered ((fifthCopy, .null), fifth))) = false :=
  ⟨numbered_mirrored, on_shelf_carried _, List.mem_cons_self, List.mem_cons_self,
    by decide +kernel, _, _, rfl, rfl, by decide +kernel, by decide +kernel⟩

/-- So a search in a partition answers with the rows of the partition that have what the term asks
for, unless a column converts a value of the partition: then it finds none of them. -/
theorem search_is_empty_in_a_converted_partition {tables : List Table} {schema : Schema}
    {table : Table} {request : Request} {term : String} {access : Access} {relation : Relation}
    {shadow : FullTextTable}
    (accepted : Schema.ofTables tables = .ok schema) (member : table ∈ schema.tables)
    (analyzed : table.isAnalyzed = true)
    (found : access.visible.relation? table.name = some relation)
    (shadowed : access.visible.fullText? table.shadowName = some shadow)
    (unrelated : access.visible.relation? table.shadowName = none)
    (mirrored : table.MirroredBy relation shadow) (searches : request.CanSearch table term)
    {pattern : FullText.Pattern}
    (parsed : FullText.Pattern.parse table.carriedColumns term = .ok pattern) :
    ∃ plain listing : List Row, request.plain.IsAnsweredBy table access plain ∧
      request.IsAnsweredBy table access listing ∧
      listing.Perm (if request.partition.any (Partition.isConverted table) then []
        else plain.filter fun row => table.answers pattern row.values) := by
  have faultless := Schema.of_tables_fault? accepted table member
  have held : table.IsSearchedIn access.visible relation shadow :=
    ⟨mirrored.held.is_read_in found, shadowed, unrelated, mirrored.carried⟩
  obtain ⟨plain, plainPerm, plainAnswers⟩ := searches.plain_is_answered_by faultless held.toIsReadIn
  obtain ⟨listing, perm, -, answers⟩ :=
    searches.is_answered_by faultless analyzed held mirrored parsed
  have met : ∀ row ∈ relation.rows, request.isMetInSearch table row.values =
      (request.isMetIn table row.values &&
        !request.partition.any (Partition.isConverted table)) := fun row among =>
    mirrored.is_met_in_search_eq held.toIsReadIn searches.carried among
  refine ⟨plain, listing, plainAnswers, answers, perm.trans ?_⟩
  rw [List.filter_congr met]
  split
  · rename_i converted
    simp [converted]
  · rename_i unconverted
    simp only [unconverted, Bool.not_false, Bool.and_true]
    exact (plainPerm.filter _).symm

end RecordStore
