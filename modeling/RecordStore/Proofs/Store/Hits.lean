import RecordStore.Proofs.FullText.Reading
import RecordStore.Proofs.Store.Handles
import RecordStore.Proofs.Store.Isolation

/-!
# Hits

What a request with a term finds. The term is read as an expression over words, so a hit has the
words that the expression asks for, in whatever analyzed columns they stand. Only a term of one word
is contained in a hit as a whole: where nothing is accented literally, whatever the case, and
elsewhere as it is folded. A term of several words need not be contained in any column.
-/

namespace RecordStore

open Engine

variable {model : Model}

/-! ### Words of an entity -/

namespace Entity

/-- The texts that an entity holds in the analyzed columns. -/
def analyzedTexts (table : Table) (entity : Entity model) : List String :=
  (table.columns.filter Column.analyzed).filterMap fun column =>
    match entity.get column.name with
    | .text text => some text
    | _ => none

/-- Whether one of these texts has a word, whatever its case. -/
def hasWord (table : Table) (entity : Entity model) (word : String) : Bool :=
  (entity.analyzedTexts table).any fun text =>
    (FullText.words text).contains (FullText.lowered word)

variable {table : Table} {entity : Entity model} {values : List Stored} {word text : String}

/-- The texts of an entity are those that it holds in the analyzed columns. -/
theorem mem_analyzed_texts : text ∈ entity.analyzedTexts table ↔
    ∃ column ∈ table.columns, column.analyzed = true ∧ entity.get column.name = .text text := by
  simp only [analyzedTexts, List.mem_filterMap, List.mem_filter, and_assoc]
  refine exists_congr fun column => and_congr_right fun _ => and_congr_right fun _ => ?_
  cases entity.get column.name <;> simp

/-- A text that a text column holds is loaded as it is, and nothing else but null is loaded from
there. -/
theorem receive_string {column : Column} {stored : Stored} {value : Value}
    (string : column.type = .string) (received : model.receive column stored = .ok value) :
    (stored = .null ∧ value = .null) ∨ ∃ text, stored = .text text ∧ value = .text text := by
  obtain ⟨loaded, read, taken⟩ := bind_ok received
  rw [string] at read
  unfold Model.take at taken
  cases typed : model.typeOf? column.name with
  | none =>
    rw [typed] at taken
    cases taken
  | some type =>
    rw [typed] at taken
    cases stored with
    | null =>
      cases read
      cases taken
      exact .inl ⟨rfl, rfl⟩
    | text text =>
      cases read
      cases type <;> cases taken <;> exact .inr ⟨text, rfl, rfl⟩
    | _ => cases read

/-- What stands in the analyzed columns of a row is loaded as it is, and it is text or nothing. -/
theorem load_analyzed (admitted : table.IsAdmitted) (apart : ToldApart table.columnNames)
    (full : values.length = table.attributes.length)
    (loaded : Entity.load table values = .ok entity) :
    ∀ column ∈ table.columns, column.analyzed = true →
      (table.valueOf values column.name = .null ∧ entity.get column.name = .null) ∨
        ∃ text, table.valueOf values column.name = .text text ∧
          entity.get column.name = .text text := by
  intro column member analyzed
  have lengths : values.length = table.columns.length := by
    have names := congrArg List.length table.attributes_names
    rw [List.length_map, Table.columnNames, List.length_map] at names
    exact full.trans names
  obtain ⟨stored, among, received⟩ := (Entity.load_holds apart.nodup lengths loaded).1 column member
  rw [Table.zip_columns (Table.map_value_of apart full)] at among
  obtain ⟨other, -, same⟩ := List.mem_map.mp among
  cases same
  exact receive_string ((admitted.columns column member).analyzed analyzed) received

/-- An entity has the words of the row that it was loaded from. -/
theorem has_words_in (admitted : table.IsAdmitted) (apart : ToldApart table.columnNames)
    (full : values.length = table.attributes.length)
    (loaded : Entity.load table values = .ok entity) (word : String) :
    (table.wordsIn values).has word = entity.hasWord table word := by
  have stands := load_analyzed admitted apart full loaded
  rw [Bool.eq_iff_iff, FullText.RowWords.has, hasWord, List.any_eq_true, List.any_eq_true]
  simp only [List.contains_iff_mem, Table.wordsIn, List.mem_map, mem_analyzed_texts]
  constructor
  · rintro ⟨_, ⟨name, -, rfl⟩, found⟩
    split at found
    · rename_i analyzed
      obtain ⟨column, search, isAnalyzed⟩ := (Option.any_eq_true _ _).mp analyzed
      have member := List.mem_of_find?_eq_some search
      have named : column.name = name := by simpa using List.find?_some search
      rw [← named] at found
      rcases stands column member isAnalyzed with ⟨nothing, -⟩ | ⟨text, stored, held⟩
      · rw [nothing] at found
        cases found
      · rw [stored] at found
        exact ⟨text, ⟨column, member, isAnalyzed, held⟩, found⟩
    · cases found
  · rintro ⟨text, ⟨column, member, isAnalyzed, held⟩, found⟩
    have carried : column.name ∈ table.carriedColumns := Table.mem_carried_columns.mpr
      (.inr (List.mem_map_of_mem (List.mem_filter.mpr ⟨member, isAnalyzed⟩)))
    refine ⟨_, ⟨column.name, carried, rfl⟩, ?_⟩
    have search : table.column? column.name = some column := Table.column?_of_mem apart member
    rw [search, if_pos (by simpa using isAnalyzed)]
    rcases stands column member isAnalyzed with ⟨-, nothing⟩ | ⟨other, stored, holds⟩
    · cases nothing.symm.trans held
    · cases holds.symm.trans held
      rw [stored]
      exact found

/-- An entity that has a word holds a text that contains it as it is folded. -/
theorem exists_text_of_has_word (has : entity.hasWord table word = true) :
    ∃ text ∈ entity.analyzedTexts table, FullText.ContainsFolded text word := by
  obtain ⟨text, member, found⟩ := List.any_eq_true.mp has
  exact ⟨text, member, FullText.contains_folded_of_mem_words (List.contains_iff_mem.mp found)⟩

end Entity

/-! ### Hits of a term -/

/-- What a request finds or searches in a store. -/
def Store.Hits (store : Store) (handle : Handle model) (request : Request) (entity : Entity model) :
    Prop :=
  (∃ entities, ((Operation.find handle request).apply store).1 = .ok entities ∧ entity ∈ entities) ∨
    ∃ answer, ((Operation.search handle request).apply store).1 = .ok answer ∧
      entity ∈ answer.entities

section Hits

variable {handle : Handle model} {request : Request} {store : Store} {relation : Relation}
  {term : String} {entity : Entity model}

/-- A hit on a page was loaded from a row that has what the pattern of the term asks for. -/
theorem Operation.find_page_answers (faultless : handle.table.fault? = none)
    (asked : request.IsAskedIn handle.table store.visible relation)
    (searches : request.term = some term)
    {page : Page} (notNegative : 0 ≤ page.limit.toInt) {entities : List (Entity model)}
    (found : ((findPage handle request page).apply store).1 = .ok entities)
    (member : entity ∈ entities) :
    ∃ pattern, FullText.Pattern.parse handle.table.carriedColumns term = .ok pattern ∧
      ∃ row ∈ relation.rows, handle.table.answers pattern row.values = true ∧
        Entity.load handle.table row.values = .ok entity := by
  obtain ⟨-, pattern?, -, parsed, each⟩ := find_page_found faultless asked notNegative found
  obtain ⟨values, among, loaded⟩ := each entity member
  rw [Request.pattern_of_term searches] at parsed
  obtain ⟨inRows, finds⟩ := List.mem_filter.mp among
  obtain ⟨row, rowMember, rfl⟩ := List.mem_map.mp inRows
  cases read : FullText.Pattern.parse handle.table.carriedColumns term with
  | error fault =>
    rw [read] at parsed
    cases parsed
  | ok pattern =>
    rw [read] at parsed
    cases parsed
    rw [Request.findsIn, Bool.and_eq_true] at finds
    exact ⟨pattern, rfl, row, rowMember, finds.2, loaded⟩

/-- So was every hit. -/
theorem Store.Hits.answers (hit : store.Hits handle request entity)
    (faultless : handle.table.fault? = none)
    (asked : request.IsAskedIn handle.table store.visible relation)
    (searches : request.term = some term) :
    ∃ pattern, FullText.Pattern.parse handle.table.carriedColumns term = .ok pattern ∧
      ∃ row ∈ relation.rows, handle.table.answers pattern row.values = true ∧
        Entity.load handle.table row.values = .ok entity := by
  rcases hit with ⟨entities, found, member⟩ | ⟨answer, found, member⟩
  · obtain ⟨page, resolved, onPage⟩ := Operation.find_ok found
    exact Operation.find_page_answers faultless asked searches
      (Page.resolve_ok resolved).1 onPage member
  · rcases Operation.search_ok found with none | ⟨page, counted, resolved, sight, onPage⟩
    · rw [none] at member
      cases member
    · rw [← sight] at asked
      exact Operation.find_page_answers faultless asked searches (Page.resolve_ok resolved).1 onPage
        member

/-- The words of a hit satisfy the expression that a plain term is read as. -/
theorem Store.Hits.meets_term (hit : store.Hits handle request entity)
    (faultless : handle.table.fault? = none)
    (asked : request.IsAskedIn handle.table store.visible relation)
    (searches : request.term = some term) (plain : FullText.IsPlainTerm term) :
    FullText.meetsTerm (entity.hasWord handle.table) (FullText.termWords term) = true := by
  obtain ⟨pattern, parsed, row, member, answers, loaded⟩ := hit.answers faultless asked searches
  have read := asked.held.is_read_in asked.found
  have full : row.values.length = handle.table.attributes.length := by
    rw [← read.attributes]
    exact read.full row member
  have words : (handle.table.wordsIn row.values).has = entity.hasWord handle.table :=
    funext (Entity.has_words_in (Table.is_admitted_of_fault? faultless) read.apart full loaded)
  rw [Table.answers, FullText.Pattern.holds_of_parse plain parsed, words] at answers
  exact answers

end Hits

/-- Hits meet the term, and the term alone is not asked for. A plain term is read as an expression
over its words, and the words of the analyzed columns of each hit satisfy it. So each word of a term
without operators stands in some analyzed column, as it is folded; where nothing is accented it
stands there literally, but for the case. The term as a whole stands in one column if it is a single
word.

Proof: the term is read as a pattern that means its words, and what is found has what the pattern
asks for in the copy of its row, of which the words are those of the analyzed columns. -/
theorem hits_meet_the_term {model : Model} {handle : Handle model} {tables : List Table}
    {schema : Schema} {store : Store} {request : Request} {relation : Relation} {term : String}
    {entity : Entity model} (accepted : Schema.ofTables tables = .ok schema)
    (member : handle.table ∈ schema.tables)
    (asked : request.IsAskedIn handle.table store.visible relation)
    (searches : request.term = some term) (plain : FullText.IsPlainTerm term)
    (hit : store.Hits handle request entity) :
    FullText.meetsTerm (entity.hasWord handle.table) (FullText.termWords term) = true ∧
      ((∀ word ∈ FullText.termWords term, word ∉ FullText.operatorWords) →
        ∀ word ∈ FullText.termWords term, ∃ text ∈ entity.analyzedTexts handle.table,
          FullText.ContainsFolded text word ∧
            (FullText.IsUnaccented text.toList → FullText.ContainsIgnoringCase text word)) ∧
      (' ' ∉ term.toList → ∃ text ∈ entity.analyzedTexts handle.table,
        FullText.ContainsFolded text term ∧
          (FullText.IsUnaccented text.toList → FullText.ContainsIgnoringCase text term)) := by
  have faultless := Schema.of_tables_fault? accepted handle.table member
  have met := hit.meets_term faultless asked searches plain
  have stands : ∀ word ∈ FullText.termWords term, entity.hasWord handle.table word = true →
      ∃ text ∈ entity.analyzedTexts handle.table, FullText.ContainsFolded text word ∧
        (FullText.IsUnaccented text.toList → FullText.ContainsIgnoringCase text word) := by
    intro word among has
    obtain ⟨text, inside, contains⟩ := Entity.exists_text_of_has_word has
    refine ⟨text, inside, contains, fun unaccented => contains.ignoring_case unaccented ?_⟩
    exact fun char letter => FullText.to_nat_lt_of_is_alphanum
      ((FullText.is_plain_word_of_mem_term_words plain among).plain char letter)
  refine ⟨met, fun named word among => stands word among ?_, fun joined => ?_⟩
  · rw [FullText.meets_term_of_not_mem named, FullText.meetsWords, Bool.and_eq_true] at met
    exact List.all_eq_true.mp met.2 word among
  · have words := FullText.term_words_of_not_mem joined
    split at words
    · rw [words] at met
      cases met
    · rw [words] at met stands
      exact stands term (List.mem_singleton_self term) (FullText.has_of_meets_term met)

/-! ### Books about whales -/

namespace Library

/-- Books about a term. -/
def about (term : String) : Request := { term := some term }

/-- The books that are found for a term, if the term can be read. -/
def foundFor (term : String) : List (Entity bookModel) :=
  (((Operation.find reader (about term)).apply (stocked books copies)).1.toOption).getD []

/-- What is found for a term is a hit of the store with these books. -/
theorem hit_of_mem_found_for {term : String} {entity : Entity bookModel}
    (member : entity ∈ foundFor term) : (stocked books copies).Hits reader (about term) entity := by
  unfold foundFor at member
  cases found : ((Operation.find reader (about term)).apply (stocked books copies)).1 with
  | error problem =>
    rw [found] at member
    cases member
  | ok entities =>
    rw [found] at member
    exact .inl ⟨entities, found, member⟩

end Library

open Library in
/-- A book about whales is a hit for `Whale`, and its summary contains the term. -/
theorem whale_stands_in_its_hit :
    Schema.ofTables [book] = .ok ⟨[book]⟩ ∧ FullText.IsPlainTerm "Whale" ∧
      ∃ entity : Entity bookModel, (stocked books copies).Hits reader (about "Whale") entity ∧
        FullText.meetsTerm (entity.hasWord book) ["Whale"] = true ∧
        ∃ text ∈ entity.analyzedTexts book, FullText.ContainsFolded text "Whale" := by
  have plain : FullText.IsPlainTerm "Whale" := by decide
  have some : foundFor "Whale" ≠ [] := by
    rw [← List.isEmpty_eq_false_iff]
    decide +kernel
  obtain ⟨entity, member⟩ := List.exists_mem_of_ne_nil _ some
  have hit := hit_of_mem_found_for member
  obtain ⟨met, -, whole⟩ := hits_meet_the_term book_accepted
    (show reader.table ∈ [book] from List.mem_cons_self) (stocked_asked (about "Whale"))
      rfl plain hit
  obtain ⟨text, among, contains, -⟩ := whole (by decide)
  exact ⟨book_accepted, plain, entity, hit, met, text, among, contains⟩

open Library in
/-- A book about a ship and a whale is a hit for `whale ship`, and none of its columns contains the
term. -/
theorem scattered_words_are_a_hit :
    Schema.ofTables [book] = .ok ⟨[book]⟩ ∧ book.isAnalyzed = true ∧
      FullText.IsPlainTerm "whale ship" ∧
      (about "whale ship").IsAskedIn book (stocked books copies).visible books ∧
      ∃ entity : Entity bookModel, (stocked books copies).Hits reader (about "whale ship") entity ∧
        ∀ text ∈ entity.analyzedTexts book, ¬ FullText.ContainsIgnoringCase text "whale ship" := by
  have scattered : ((foundFor "whale ship").any fun entity =>
      (entity.analyzedTexts book).all fun text =>
        !decide (FullText.ContainsIgnoringCase text "whale ship")) = true := by
    decide +kernel
  obtain ⟨entity, member, without⟩ := List.any_eq_true.mp scattered
  refine ⟨book_accepted, by decide, by decide, stocked_asked _, entity, hit_of_mem_found_for member,
    fun text among => ?_⟩
  simpa using List.all_eq_true.mp without text among

end RecordStore
