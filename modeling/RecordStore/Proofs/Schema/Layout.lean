import Mathlib.Data.List.Nodup
import RecordStore.Proofs.Engine.Namesakes
import RecordStore.Proofs.Engine.Objects
import RecordStore.Proofs.Engine.Relations
import RecordStore.Schema.Definition

/-!
# The relation of a table

The relation that the engine makes for a table has one attribute for each column, in the order
of the columns. Its names are told apart, for the engine refuses a definition in which they are
not, and the primary key of the table tells its rows apart.
-/

namespace RecordStore

open Engine Sql

/-- The affinity of the columns of a type. -/
def ColumnType.affinity : ColumnType → Affinity
  | .string => .text
  | .integer => .integer
  | .float => .real
  | .blob => .blob
  | .bit => .integer
  | .date => .integer

/-- The engine gives a column the affinity of its type. -/
theorem ColumnType.affinity_of_type_word (type : ColumnType) :
    Affinity.ofTypeWords type.typeWord = type.affinity := by
  cases type <;> decide +kernel

/-- The types whose single key shows the numbers of the rows are those of integers. -/
theorem ColumnType.is_number_type_type_word (type : ColumnType) :
    isNumberType type.typeWord = decide (type.affinity = .integer) := by
  rw [Bool.eq_iff_iff, isNumberType, same_name_iff, decide_eq_true_iff]
  cases type <;> decide

/-- The attribute that the engine makes for a column by itself. -/
def Column.attribute (column : Column) : Attribute :=
  ⟨column.name, column.type.affinity, !column.nullable, .null⟩

/-- The attributes of the relation of a table. A key of several columns needs all of them. -/
def Table.attributes (table : Table) : List Attribute :=
  if table.hasCompositeKey then
    requireKey table.primaryKey (table.columns.map Column.attribute)
  else table.columns.map Column.attribute

/-- The key of a table as the engine declares it, with the mark that its numbers are not given
twice. -/
def Table.declaredKey? (table : Table) : Option (List String × Bool) :=
  if table.primaryKey = [] then none
  else some (table.primaryKey, table.autoincrementKey?.isSome)

/-- Whether a column shows the numbers of the rows when it is the whole key. -/
def Table.showsNumbers (table : Table) (name : String) : Bool :=
  table.columns.any fun column =>
    sameName column.name name && decide (column.type.affinity = .integer)

/-- The relation of a table before it has rows. A key of several columns keeps the rows; a single
one of integers shows their numbers, and any other single one is told apart beside hidden
numbers. -/
def Table.newRelation (table : Table) (text : String) : Relation where
  name := table.name
  attributes := table.attributes
  identity := match table.primaryKey with
    | [] => .hidden
    | [column] =>
      if table.showsNumbers column then .shown column table.autoincrementKey?.isSome else .hidden
    | key => .keyed key
  uniques := match table.primaryKey with
    | [column] => if table.showsNumbers column then [] else [[column]]
    | _ => []
  rows := []
  text

namespace Table

/-- Requiring the columns of a key leaves the names of all columns. -/
theorem require_key_names (key : List String) (attributes : List Attribute) :
    (requireKey key attributes).map Attribute.name = attributes.map Attribute.name := by
  simp only [requireKey, List.map_map]
  refine List.map_congr_left fun attr _ => ?_
  simp only [Function.comp_apply]
  split <;> rfl

/-- The attributes of a relation are named as the columns. -/
@[simp] theorem attributes_names (table : Table) :
    table.attributes.map Attribute.name = table.columnNames := by
  unfold attributes columnNames
  split
  · rw [require_key_names, List.map_map]
    rfl
  · rw [List.map_map]
    rfl

/-- There is an attribute for each column. -/
@[simp] theorem attributes_length (table : Table) :
    table.attributes.length = table.columns.length := by
  unfold attributes requireKey
  split <;> simp

/-- No column of a table has a default. -/
theorem attributes_default_value (table : Table) :
    ∀ attr ∈ table.attributes, attr.defaultValue = .null := by
  have plain : ∀ attr ∈ table.columns.map Column.attribute, attr.defaultValue = .null := by
    intro attr member
    obtain ⟨column, -, rfl⟩ := List.mem_map.mp member
    rfl
  unfold attributes
  split
  · intro attr member
    obtain ⟨before, among, rfl⟩ := List.mem_map.mp member
    split
    · exact plain before among
    · exact plain before among
  · exact plain

/-- The attribute of a column has its name and the affinity of its type. -/
theorem attributes_get_elem? (table : Table) (index : Nat) :
    (table.attributes[index]?).map (fun attr => (attr.name, attr.affinity)) =
      (table.columns[index]?).map fun column => (column.name, column.type.affinity) := by
  have plain : ∀ attributes : List Attribute, ∀ key,
      ((requireKey key attributes)[index]?).map (fun attr => (attr.name, attr.affinity)) =
        (attributes[index]?).map fun attr => (attr.name, attr.affinity) := by
    intro attributes key
    simp only [requireKey, List.getElem?_map, Option.map_map]
    congr 1
    funext attr
    simp only [Function.comp_apply]
    split <;> rfl
  unfold attributes
  split
  · rw [plain, List.getElem?_map, Option.map_map]
    rfl
  · rw [List.getElem?_map, Option.map_map]
    rfl

/-- The key names the columns that are marked for it. -/
theorem mem_primary_key {table : Table} {name : String} :
    name ∈ table.primaryKey ↔
      ∃ column ∈ table.columns, column.primaryKey = true ∧ column.name = name := by
  simp [primaryKey, and_assoc]

/-- The columns of the key are columns of the table. -/
theorem primary_key_subset (table : Table) : table.primaryKey ⊆ table.columnNames := by
  intro name member
  obtain ⟨column, among, -, named⟩ := mem_primary_key.mp member
  exact List.mem_map.mpr ⟨column, among, named⟩

/-- Under names that are told apart, a name belongs to one column. -/
theorem column_eq_of_name {table : Table} (apart : ToldApart table.columnNames)
    {left right : Column} (leftMember : left ∈ table.columns) (rightMember : right ∈ table.columns)
    (named : left.name = right.name) : left = right := by
  have distinct : table.columnNames.Nodup := apart.nodup
  exact List.inj_on_of_nodup_map distinct leftMember rightMember named

/-- The column of a single key shows the numbers of the rows exactly if it is of integers. -/
theorem shows_numbers_of_mem {table : Table} (apart : ToldApart table.columnNames) {column : Column}
    (member : column ∈ table.columns) :
    table.showsNumbers column.name = decide (column.type.affinity = .integer) := by
  rw [showsNumbers, Bool.eq_iff_iff, List.any_eq_true]
  constructor
  · rintro ⟨other, otherMember, is⟩
    obtain ⟨same, integer⟩ := Bool.and_eq_true_iff.mp is
    have named : other.name = column.name := apart.eq_of_same (List.mem_map_of_mem otherMember)
      (List.mem_map_of_mem member) same
    rwa [← column_eq_of_name apart otherMember member named]
  · intro integer
    exact ⟨column, member, by simp [integer]⟩

/-- A column is found under its name, if no other column has it. -/
theorem column?_of_nodup {table : Table} (distinct : table.columnNames.Nodup) {column : Column}
    (member : column ∈ table.columns) : table.column? column.name = some column := by
  have search : (table.column? column.name).isSome = true := by
    unfold column?
    rw [List.find?_isSome]
    exact ⟨column, member, by simp⟩
  obtain ⟨found, finds⟩ := Option.isSome_iff_exists.mp search
  have named : found.name = column.name := by
    unfold column? at finds
    simpa using List.find?_some finds
  have same := List.inj_on_of_nodup_map distinct (List.mem_of_find?_eq_some finds) member named
  rw [finds, same]

/-- A column is found under its name. -/
theorem column?_of_mem {table : Table} (apart : ToldApart table.columnNames) {column : Column}
    (member : column ∈ table.columns) : table.column? column.name = some column :=
  column?_of_nodup apart.nodup member

end Table

namespace Engine

variable {table : Table}

/-! ### Declaring columns -/

/-- A column that is declared adds its attribute, under a name that is new. A column that the
engine numbers by itself declares the key. -/
theorem declare_column_ok {name : String} {declared next : Declared} {column : Column}
    (accepted : declareColumn name declared column.definition = .ok next) :
    (∀ attr ∈ declared.attributes, sameName attr.name column.name = false) ∧
      next.attributes = declared.attributes ++ [column.attribute] ∧
      next.uniques = declared.uniques ∧
      next.key = (if column.autoincrement && column.primaryKey then some ([column.name], true)
        else declared.key) := by
  unfold declareColumn at accepted
  simp only [Column.definition] at accepted
  by_cases taken : (declared.attributes.any fun attr => sameName attr.name column.name) = true
  · simp only [taken, if_true] at accepted
    cases accepted
  · simp only [taken, if_false, Bool.false_eq_true] at accepted
    have apart : ∀ attr ∈ declared.attributes, sameName attr.name column.name = false := by
      simpa using taken
    have named : column.attribute = ⟨column.name, .ofTypeWords column.type.typeWord,
        (some !column.nullable) == some true, .null⟩ := by
      simp [Column.attribute, ColumnType.affinity_of_type_word]
    rw [named]
    cases keyed : column.autoincrement && column.primaryKey with
    | false =>
      simp only [keyed, if_false, Bool.false_eq_true] at accepted
      cases accepted
      exact ⟨apart, rfl, rfl, rfl⟩
    | true =>
      simp only [keyed, if_true] at accepted
      by_cases second : declared.key.isSome = true
      · simp only [if_true, second] at accepted
        cases accepted
      · by_cases misplaced : (true && !isNumberType column.type.typeWord) = true
        · simp only [second, misplaced] at accepted
          cases accepted
        · simp only [second, misplaced] at accepted
          cases accepted
          exact ⟨apart, rfl, rfl, rfl⟩

/-- The columns of a table, once they are declared: their attributes under names that are told
apart, and the key of the first of them that the engine numbers by itself. -/
theorem declare_columns_ok {name : String} (columns : List Column) {declared last : Declared}
    (apart : ToldApart (declared.attributes.map Attribute.name))
    (accepted : (columns.map Column.definition).foldlM (declareColumn name) declared = .ok last) :
    ToldApart (last.attributes.map Attribute.name) ∧
      last.attributes = declared.attributes ++ columns.map Column.attribute ∧
      last.uniques = declared.uniques ∧
      (last.key = declared.key ∧
          (∀ column ∈ columns, (column.autoincrement && column.primaryKey) = false) ∨
        ∃ column ∈ columns, (column.autoincrement && column.primaryKey) = true ∧
          last.key = some ([column.name], true)) := by
  induction columns generalizing declared with
  | nil =>
    cases accepted
    exact ⟨apart, by simp, rfl, .inl ⟨rfl, nofun⟩⟩
  | cons column rest inductionHypothesis =>
    rw [List.map_cons, List.foldlM_cons] at accepted
    obtain ⟨next, first, later⟩ := bind_ok accepted
    obtain ⟨fresh, attributes, uniques, key⟩ := declare_column_ok first
    have apartNext : ToldApart (next.attributes.map Attribute.name) := by
      rw [attributes, List.map_append]
      refine List.pairwise_append.mpr ⟨apart, List.pairwise_singleton _ _, ?_⟩
      intro left leftMember right rightMember
      obtain ⟨attr, among, rfl⟩ := List.mem_map.mp leftMember
      have named : right = column.name := by simpa [Column.attribute] using rightMember
      rw [named]
      exact fresh attr among
    obtain ⟨apartLast, attributesLast, uniquesLast, keyLast⟩ := inductionHypothesis apartNext later
    refine ⟨apartLast, by simp [attributesLast, attributes], uniquesLast.trans uniques, ?_⟩
    rcases keyLast with ⟨kept, none⟩ | ⟨numbered, among, numbers, found⟩
    · by_cases keyed : (column.autoincrement && column.primaryKey) = true
      · right
        exact ⟨column, List.mem_cons_self, keyed, by rw [kept, key, if_pos keyed]⟩
      · left
        refine ⟨by rw [kept, key, if_neg keyed], ?_⟩
        intro other member
        rcases List.mem_cons.mp member with rfl | later
        · simpa using keyed
        · exact none other later
    · exact .inr ⟨numbered, List.mem_cons_of_mem column among, numbers, found⟩

/-- Columns of a key are found under their names. -/
theorem key_columns_ok {name : String} {attributes : List Attribute}
    (apart : ToldApart (attributes.map Attribute.name)) {names : List String}
    (known : names ⊆ attributes.map Attribute.name) :
    names.mapM (keyColumn name attributes) = .ok names := by
  induction names with
  | nil => rfl
  | cons column rest inductionHypothesis =>
    have found : keyColumn name attributes column = .ok column := by
      have member := known List.mem_cons_self
      unfold keyColumn
      cases search : attributes.find? fun attr => sameName attr.name column with
      | none =>
        obtain ⟨attr, attrMember, named⟩ := List.mem_map.mp member
        have absent := List.find?_eq_none.mp search attr attrMember
        simp [named] at absent
      | some attr =>
        have same := List.find?_some search
        have attrMember := List.mem_map_of_mem (f := Attribute.name)
          (List.mem_of_find?_eq_some search)
        simp only [apart.eq_of_same attrMember member same]
    have others := inductionHypothesis fun other later =>
      known (List.mem_cons_of_mem column later)
    simp only [List.mapM_cons, found, others, bind, Except.bind, pure, Except.pure]

/-- A key behind the columns is declared under the names of its columns. -/
theorem declare_key_ok {name : String} {declared next : Declared} {key : List String}
    (apart : ToldApart (declared.attributes.map Attribute.name))
    (known : key ⊆ declared.attributes.map Attribute.name)
    (accepted : declareKey name declared key = .ok next) :
    next.attributes = declared.attributes ∧ next.uniques = declared.uniques ∧
      next.key = some (key, false) := by
  unfold declareKey at accepted
  split at accepted
  · cases accepted
  · rw [key_columns_ok apart known] at accepted
    cases accepted
    exact ⟨rfl, rfl, rfl⟩

/-- Where the engine numbers the key by itself, the key is a single name, and a column of the name
is declared so. -/
theorem autoincrement_key?_named {key : String} (numbered : table.autoincrementKey? = some key) :
    table.primaryKey = [key] ∧
      ∃ column ∈ table.columns, column.autoincrement = true ∧ column.name = key := by
  unfold Table.autoincrementKey? at numbered
  split at numbered
  · rename_i alone
    split at numbered
    · rename_i declared
      cases numbered
      obtain ⟨column, search, autoincrement⟩ := (Option.any_eq_true _ _).mp declared
      exact ⟨alone, column, List.mem_of_find?_eq_some search, autoincrement,
        by simpa using List.find?_some search⟩
    · cases numbered
  · cases numbered

/-- Under names that are told apart it is the column of the key. -/
theorem autoincrement_key?_column {key : String} (apart : ToldApart table.columnNames)
    (numbered : table.autoincrementKey? = some key) :
    table.primaryKey = [key] ∧
      ∃ column ∈ table.columns, (column.autoincrement && column.primaryKey) = true ∧
        column.name = key := by
  obtain ⟨alone, found, foundMember, autoincrement, foundName⟩ := autoincrement_key?_named numbered
  refine ⟨alone, found, foundMember, ?_, foundName⟩
  obtain ⟨column, among, keyColumn, named⟩ :=
    Table.mem_primary_key.mp (show key ∈ table.primaryKey by simp [alone])
  have same := Table.column_eq_of_name apart among foundMember (named.trans foundName.symm)
  rw [same] at keyColumn
  simp [autoincrement, keyColumn]

/-- The key that the engine knows of a table once all of it is declared. -/
theorem declared_key_ok {declared keyed : Declared} (apart : ToldApart table.columnNames)
    (names : declared.attributes.map Attribute.name = table.columnNames)
    (columnKey : declared.key = none ∧
        (∀ column ∈ table.columns, (column.autoincrement && column.primaryKey) = false) ∨
      ∃ column ∈ table.columns, (column.autoincrement && column.primaryKey) = true ∧
        declared.key = some ([column.name], true))
    (accepted : table.keyConstraints.foldlM (declareKey table.name) declared = .ok keyed) :
    keyed.attributes = declared.attributes ∧ keyed.uniques = declared.uniques ∧
      keyed.key = table.declaredKey? := by
  have inKey : ∀ column ∈ table.columns, (column.autoincrement && column.primaryKey) = true →
      column.name ∈ table.primaryKey := fun column member numbers =>
    Table.mem_primary_key.mpr ⟨column, member, (Bool.and_eq_true_iff.mp numbers).2, rfl⟩
  unfold Table.keyConstraints at accepted
  unfold Table.declaredKey?
  by_cases keyless : table.primaryKey = []
  · simp only [keyless, List.isEmpty_nil, Bool.not_true, Bool.false_and, Bool.false_eq_true,
      if_false, List.foldlM_nil] at accepted
    cases accepted
    refine ⟨rfl, rfl, ?_⟩
    rcases columnKey with ⟨none, -⟩ | ⟨column, member, numbers, -⟩
    · rw [none, if_pos keyless]
    · exact absurd (inKey column member numbers) (by simp [keyless])
  · have some_key : table.primaryKey.isEmpty = false := by simp [keyless]
    rw [if_neg keyless]
    cases numbered : table.autoincrementKey? with
    | none =>
      simp only [some_key, numbered, Bool.not_false, Option.isNone_none, Bool.and_self, if_true,
        List.foldlM_cons, List.foldlM_nil] at accepted
      obtain ⟨next, declaredKey, ended⟩ := bind_ok accepted
      cases ended
      have known : table.primaryKey ⊆ declared.attributes.map Attribute.name := by
        rw [names]
        exact table.primary_key_subset
      exact declare_key_ok (names ▸ apart) known declaredKey
    | some key =>
      simp only [some_key, numbered, Option.isNone_some, Bool.and_false, Bool.false_eq_true,
        if_false, List.foldlM_nil] at accepted
      cases accepted
      refine ⟨rfl, rfl, ?_⟩
      obtain ⟨alone, column, among, numbers, -⟩ := autoincrement_key?_column apart numbered
      rcases columnKey with ⟨-, none⟩ | ⟨other, otherMember, otherNumbers, keyIs⟩
      · rw [none column among] at numbers
        cases numbers
      · have named : other.name = key := by simpa [alone] using inKey other otherMember otherNumbers
        rw [keyIs, named, alone, Option.isSome_some]

/-- The columns of a table that the engine sees declared with a number type are those that show
numbers. -/
theorem declared_numbers (table : Table) (name : String) :
    (table.definition.columns.any fun candidate =>
      sameName candidate.name name && isNumberType candidate.typeWords) =
        table.showsNumbers name := by
  simp only [Table.definition, List.any_map, Table.showsNumbers]
  exact congrArg (table.columns.any ·) (funext fun column => congrArg (_ && ·)
    column.type.is_number_type_type_word)

/-- What the engine makes of a table, under names that are told apart. -/
theorem relation_of_ok {text : String} {relation : Relation}
    (made : relationOf table.definition text = .ok relation) :
    ToldApart table.columnNames ∧ relation = table.newRelation text := by
  unfold relationOf at made
  obtain ⟨declared, declaredColumns, made⟩ := bind_ok made
  have nothing : ToldApart (({} : Declared).attributes.map Attribute.name) := .nil
  obtain ⟨apart, attributes, uniques, columnKey⟩ :=
    declare_columns_ok table.columns nothing declaredColumns
  have names : declared.attributes.map Attribute.name = table.columnNames := by
    rw [attributes]
    simp [Table.columnNames, Column.attribute]
  rw [names] at apart
  refine ⟨apart, ?_⟩
  obtain ⟨keyed, declaredKeys, made⟩ := bind_ok made
  obtain ⟨keyedAttributes, keyedUniques, key⟩ :=
    declared_key_ok apart names columnKey declaredKeys
  obtain ⟨final, declaredUniques, made⟩ := bind_ok made
  cases declaredUniques
  have plain : keyed.attributes = table.columns.map Column.attribute := by
    simpa using keyedAttributes.trans attributes
  have unique : keyed.uniques = [] := keyedUniques.trans uniques
  have withoutRowid : table.definition.withoutRowid = table.hasCompositeKey := rfl
  simp only [key, plain, unique, declared_numbers, withoutRowid, Table.declaredKey?] at made
  unfold Table.newRelation Table.attributes
  match keyColumns : table.primaryKey with
  | [] =>
    simp only [Table.hasCompositeKey, keyColumns] at made ⊢
    cases made
    rfl
  | [column] =>
    have rowid : table.hasCompositeKey = false := by simp [Table.hasCompositeKey, keyColumns]
    simp only [rowid, keyColumns, reduceCtorEq, Bool.false_eq_true, if_false] at made ⊢
    by_cases shown : table.showsNumbers column = true
    · simp only [shown, if_true] at made ⊢
      cases made
      rfl
    · simp only [shown, if_false, Bool.false_eq_true] at made ⊢
      cases made
      rfl
  | first :: second :: others =>
    have composite : table.hasCompositeKey = true := by simp [Table.hasCompositeKey, keyColumns]
    have unnumbered : table.autoincrementKey? = none := by
      simp only [Table.autoincrementKey?, keyColumns]
    simp only [composite, keyColumns, unnumbered] at made ⊢
    cases made
    rfl

/-- What the engine makes of a table: a relation without rows, with the attributes of the table
under names that are told apart. If the table has a key, the key tells the rows apart. -/
theorem relation_of_definition {text : String} {relation : Relation}
    (made : relationOf table.definition text = .ok relation) :
    relation.name = table.name ∧ relation.rows = [] ∧ relation.attributes = table.attributes ∧
      ToldApart table.columnNames ∧
      (table.primaryKey ≠ [] → relation.IsKeyedBy table.primaryKey) := by
  obtain ⟨apart, rfl⟩ := relation_of_ok made
  refine ⟨rfl, rfl, rfl, apart, fun keyed => ?_⟩
  unfold Relation.IsKeyedBy Table.newRelation
  match keyColumns : table.primaryKey with
  | [] => exact absurd keyColumns keyed
  | [column] =>
    cases shown : table.showsNumbers column with
    | true => exact .inr (.inl ⟨column, table.autoincrementKey?.isSome, rfl, by simp [shown]⟩)
    | false => exact .inr (.inr ⟨by simp [shown], by simp [shown]⟩)
  | first :: second :: others => exact .inl rfl

/-- A key of a single column shows the numbers of the rows exactly if its type is one of
integers. -/
theorem relation_of_single {text : String} {relation : Relation} {column : Column}
    (made : relationOf table.definition text = .ok relation) (member : column ∈ table.columns)
    (alone : table.primaryKey = [column.name]) :
    (column.type.affinity = .integer ∧
        relation.identity = .shown column.name table.autoincrementKey?.isSome) ∨
      (column.type.affinity ≠ .integer ∧ relation.identity = .hidden) := by
  obtain ⟨apart, rfl⟩ := relation_of_ok made
  simp only [Table.newRelation, alone, Table.shows_numbers_of_mem apart member, decide_eq_true_eq]
  by_cases integer : column.type.affinity = .integer
  · exact .inl ⟨integer, if_pos integer⟩
  · exact .inr ⟨integer, if_neg integer⟩

/-- Where the rows have numbers that no column shows, the key is a single column and not one of
integers. -/
theorem relation_of_hidden {text : String} {relation : Relation}
    (made : relationOf table.definition text = .ok relation) (keyed : table.primaryKey ≠ [])
    (hidden : relation.identity = .hidden) :
    ∃ column ∈ table.columns, table.primaryKey = [column.name] ∧
      column.type.affinity ≠ .integer := by
  obtain ⟨name, alone⟩ : ∃ name, table.primaryKey = [name] := by
    obtain ⟨-, rfl⟩ := relation_of_ok made
    match keyColumns : table.primaryKey with
    | [] => exact absurd keyColumns keyed
    | [name] => exact ⟨name, rfl⟩
    | first :: second :: others =>
      simp only [Table.newRelation, keyColumns] at hidden
      cases hidden
  obtain ⟨column, member, -, rfl⟩ :=
    Table.mem_primary_key.mp (show name ∈ table.primaryKey by simp [alone])
  refine ⟨column, member, alone, ?_⟩
  rcases relation_of_single made member alone with ⟨-, shown⟩ | ⟨other, -⟩
  · cases hidden.symm.trans shown
  · exact other

end Engine

end RecordStore
