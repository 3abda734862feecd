import RecordStore.Proofs.Engine.Elsewhere
import RecordStore.Proofs.Engine.Scopes
import RecordStore.Proofs.Schema.Layout

/-!
# Copies in the full-text table

The full-text table of a table holds copies of its rows: the values of the carried columns.
A trigger that copies a new row appends its values. A trigger that removes the copy of an old
row removes the copies of all rows with the key of the old one, compared column by column.
Where keys are settled and not null that is the comparison by which the relation itself tells
keys apart, although a full-text table has no affinities of its own.
-/

namespace RecordStore

open Engine Sql

namespace Table

/-! ### Carried columns -/

/-- Gathering names adds those that are not there yet. -/
theorem gathered (names carried : List String) :
    (carried.Nodup → (names.foldl (fun carried name =>
      if name ∈ carried then carried else carried ++ [name]) carried).Nodup) ∧
    ∀ name, name ∈ names.foldl (fun carried name =>
        if name ∈ carried then carried else carried ++ [name]) carried ↔
      name ∈ carried ∨ name ∈ names := by
  induction names generalizing carried with
  | nil => exact ⟨fun distinct => distinct, fun name => by simp⟩
  | cons first rest inductionHypothesis =>
    rw [List.foldl_cons]
    by_cases known : first ∈ carried
    · simp only [known, if_true]
      obtain ⟨distinct, members⟩ := inductionHypothesis carried
      refine ⟨distinct, fun name => (members name).trans ?_⟩
      constructor
      · rintro (old | later)
        · exact .inl old
        · exact .inr (List.mem_cons_of_mem first later)
      · rintro (old | new)
        · exact .inl old
        · rcases List.mem_cons.mp new with rfl | later
          · exact .inl known
          · exact .inr later
    · simp only [known, if_false]
      obtain ⟨distinct, members⟩ := inductionHypothesis (carried ++ [first])
      constructor
      · intro distinctBefore
        refine distinct (List.nodup_append.mpr ⟨distinctBefore, List.nodup_singleton first, ?_⟩)
        rintro left leftMember right rightMember rfl
        exact known (List.mem_singleton.mp rightMember ▸ leftMember)
      · intro name
        rw [members, List.mem_append, List.mem_singleton, List.mem_cons, or_assoc]

/-- The carried columns are the key columns and the analyzed ones. -/
theorem mem_carried_columns {table : Table} {name : String} :
    name ∈ table.carriedColumns ↔ name ∈ table.primaryKey ∨ name ∈ table.analyzedColumns :=
  (gathered table.analyzedColumns table.primaryKey).2 name

/-- A full-text table carries the columns of the key. -/
theorem primary_key_subset_carried (table : Table) : table.primaryKey ⊆ table.carriedColumns :=
  fun _ member => mem_carried_columns.mpr (.inl member)

/-- It carries columns of the table only. -/
theorem carried_subset (table : Table) : table.carriedColumns ⊆ table.columnNames := by
  intro name member
  rcases mem_carried_columns.mp member with inKey | analyzed
  · exact table.primary_key_subset inKey
  · obtain ⟨column, among, named⟩ := List.mem_map.mp analyzed
    exact List.mem_map.mpr ⟨column, (List.mem_filter.mp among).1, named⟩

/-- The carried columns are told apart if the columns of the table are. -/
theorem carried_apart {table : Table} (apart : ToldApart table.columnNames) :
    ToldApart table.carriedColumns := by
  have columns : table.columnNames.Nodup := apart.nodup
  have distinct : table.carriedColumns.Nodup :=
    (gathered table.analyzedColumns table.primaryKey).1
      (columns.sublist (List.filter_sublist.map Column.name))
  refine distinct.imp_of_mem fun leftMember rightMember different => ?_
  by_contra same
  exact different (apart.eq_of_same (table.carried_subset leftMember)
    (table.carried_subset rightMember) (by simpa using same))

/-- The full-text table of a table has the carried columns. -/
theorem shadow_names_of_carried {table : Table} {shadow : FullTextTable}
    (carried : shadow.columns = table.shadowDefinition.columns) :
    shadow.attributes.map Attribute.name = table.carriedColumns := by
  simp only [FullTextTable.attributes, carried, shadowDefinition, List.map_map]
  exact List.map_id _

/-- What follows a change of a row of an analyzed table: one trigger for each event. -/
def followers (table : Table) : RowEvent → List (List (Change Stored))
  | .insertion => [[table.shadowInsertion]]
  | .deletion => [[table.shadowDeletion]]
  | .modification => [[table.shadowDeletion, table.shadowInsertion]]

/-- The tables of an analyzed table. -/
def ownNames (table : Table) : List String := [table.name, table.shadowName]

/-- A database in which an analyzed table has been made with its full-text side, whatever rows
there are. Nothing but its own triggers is about its tables. -/
structure IsShadowed (table : Table) (database : Database) (relation : Relation)
    (shadow : FullTextTable) : Prop where
  made : database.relation? table.name = some relation
  attributes : relation.attributes = table.attributes
  apart : ToldApart table.columnNames
  keyed : relation.IsKeyedBy table.primaryKey
  shadowed : database.fullText? table.shadowName = some shadow
  unrelated : database.relation? table.shadowName = none
  carried : shadow.columns = table.shadowDefinition.columns
  followed : ∀ event, (database.triggersOn table.name event).map Trigger.body =
    table.followers event
  closed : database.ClosedOutside table.ownNames

namespace IsShadowed

variable {table : Table} {database : Database} {relation : Relation} {shadow : FullTextTable}

/-- The full-text table that was made has the carried columns. -/
theorem shadow_names (made : table.IsShadowed database relation shadow) :
    shadow.attributes.map Attribute.name = table.carriedColumns :=
  shadow_names_of_carried made.carried

/-- A database that agrees on the tables is one in which they have been made. -/
theorem agree {after : Database} (made : table.IsShadowed database relation shadow)
    (agreed : database.AgreeOn table.ownNames after) : table.IsShadowed after relation shadow where
  made := (agreed.relations table.name List.mem_cons_self).trans made.made
  attributes := made.attributes
  apart := made.apart
  keyed := made.keyed
  shadowed := (agreed.fullTexts table.shadowName
    (List.mem_cons_of_mem _ List.mem_cons_self)).trans made.shadowed
  unrelated := (agreed.relations table.shadowName
    (List.mem_cons_of_mem _ List.mem_cons_self)).trans made.unrelated
  carried := made.carried
  followed event := by
    rw [agreed.triggers]
    exact made.followed event
  closed name event outside trigger listed := by
    rw [agreed.triggers] at listed
    exact made.closed name event outside trigger listed

/-- The table's relation is not taken for its full-text table. -/
theorem name_ne_shadow (made : table.IsShadowed database relation shadow) :
    sameName table.name table.shadowName = false := by
  by_contra same
  have found := Database.relation?_congr (by simpa using same) database
  rw [made.made, made.unrelated] at found
  cases found

/-- Other rows of the relation leave everything else as it was. -/
theorem with_relation (made : table.IsShadowed database relation shadow) (rows : List Row) :
    table.IsShadowed (database.withRelation { relation with rows }) { relation with rows }
      shadow where
  made := Database.relation?_with_relation made.made rfl
  attributes := made.attributes
  apart := made.apart
  keyed := made.keyed
  shadowed := by
    rw [Database.full_text?_with_relation]
    exact made.shadowed
  unrelated := by
    rw [Database.relation?_with_relation_of_ne]
    · exact made.unrelated
    · have named := Database.relation?_name made.made
      change sameName relation.name _ = false
      rw [same_name_congr named]
      exact made.name_ne_shadow
  carried := made.carried
  followed event := by
    rw [Database.triggers_on_with_relation]
    exact made.followed event
  closed name event outside trigger listed := by
    rw [Database.triggers_on_with_relation] at listed
    exact made.closed name event outside trigger listed

/-- Other rows of the full-text table leave everything else as it was. -/
theorem with_full_text (made : table.IsShadowed database relation shadow) (rows : List Row) :
    table.IsShadowed (database.withFullText { shadow with rows }) relation
      { shadow with rows } where
  made := by
    rw [Database.relation?_with_full_text]
    exact made.made
  attributes := made.attributes
  apart := made.apart
  keyed := made.keyed
  shadowed := Database.full_text?_with_full_text made.shadowed rfl
  unrelated := by
    rw [Database.relation?_with_full_text]
    exact made.unrelated
  carried := made.carried
  followed event := by
    rw [Database.triggers_on_with_full_text]
    exact made.followed event
  closed name event outside trigger listed := by
    rw [Database.triggers_on_with_full_text] at listed
    exact made.closed name event outside trigger listed

/-- The number that was given to a row is not part of any table. -/
theorem note_number (made : table.IsShadowed database relation shadow) (noted : Relation)
    (row : Row) : table.IsShadowed (noteNumber database noted row) relation shadow :=
  made.agree ((Database.AgreeOn.refl _ _).note_number noted row)

end IsShadowed

end Table

namespace Engine

variable {table : Table} {database : Database} {relation : Relation} {shadow : FullTextTable}

/-! ### Rows as triggers know them -/

/-- The name of a full-text table is none of the names of rows in a trigger. -/
theorem shadow_name_ne_old {name : String} (named : sameName name table.shadowName = true) :
    sameName name "old" = false := by
  rw [same_name_congr named]
  simp [sameName, Table.shadowName, ← String.toList_inj]

/-- The names of the two rows that a trigger knows are told apart. -/
theorem old_ne_new : sameName "old" "new" = false := by
  simp [sameName, ← String.toList_inj]

/-- A scope in which a trigger knows the new row: by itself, or behind the old one. -/
def KnowsNew (relation : Relation) (row : Row) (scope : Scope) : Prop :=
  scope = [relation.newRow row] ∨ ∃ old, scope = [relation.oldRow old, relation.newRow row]

/-- Where the new row is known its columns have the values of the row. -/
theorem KnowsNew.value {row : Row} {scope : Scope} {column : String}
    (knows : KnowsNew relation row scope)
    (lengths : row.values.length = relation.attributes.length)
    (named : column ∈ relation.attributes.map Attribute.name) :
    scope.value (some "new") column = relation.value row column := by
  obtain ⟨attr, means⟩ := Relation.meant?_is_some named
  have found := Relation.lookup?_binding "new" lengths means
  have same : sameName (relation.newRow row).name "new" = true := same_name_refl "new"
  rcases knows with rfl | ⟨old, rfl⟩
  · exact Scope.value_of_lookup? (Scope.lookup?_named same found)
  · have other : sameName (relation.oldRow old).name "new" = false := old_ne_new
    have lookedUp : Scope.lookup? [relation.oldRow old, relation.newRow row] (some "new") column =
        some (some attr.affinity, relation.value row column) := by
      rw [Scope.lookup?_skip other]
      exact Scope.lookup?_named same found
    exact Scope.value_of_lookup? lookedUp

/-! ### What the triggers do -/

/-- The full-text table with the copy of a row. -/
def withCopy (table : Table) (relation : Relation) (shadow : FullTextTable) (row : Row) :
    FullTextTable :=
  (insertFullText shadow (relation.project table.carriedColumns row)).1

/-- Copying the new row appends its carried values. -/
theorem run_once_shadow_insertion (made : table.IsShadowed database relation shadow) (fire : Fire)
    {scope : Scope} {row : Row} (knows : KnowsNew relation row scope)
    (lengths : row.values.length = relation.attributes.length) :
    ∃ number, runOnce fire scope database table.shadowInsertion =
      .ok ⟨database.withFullText (withCopy table relation shadow row), 1, some number⟩ := by
  have values : table.carriedColumns.map (fun name =>
      evaluate [] scope (.column (some "new") name)) =
        relation.project table.carriedColumns row := by
    refine List.map_congr_left fun name member => ?_
    refine knows.value lengths ?_
    rw [made.attributes, Table.attributes_names]
    exact table.carried_subset member
  have apart : ToldApart (shadow.attributes.map Attribute.name) := by
    rw [made.shadow_names]
    exact Table.carried_apart made.apart
  have widths : (relation.project table.carriedColumns row).length =
      shadow.attributes.length := by
    rw [← List.length_map Attribute.name, made.shadow_names]
    simp [Relation.project]
  have arranged' : arranged shadow.attributes (some table.carriedColumns)
      (relation.project table.carriedColumns row) =
        relation.project table.carriedColumns row := by
    rw [← made.shadow_names]
    exact arranged_all shadow.attributes _ apart (made.shadow_names ▸ widths)
  refine ⟨(insertFullText shadow (relation.project table.carriedColumns row)).2.number, ?_⟩
  simp only [runOnce, Table.shadowInsertion, runInsert, made.unrelated, made.shadowed,
    insertedRows, List.map_cons, List.map_nil, List.map_map]
  rw [show table.carriedColumns.map (evaluate [] scope ∘ fun name => .column (some "new") name) =
    relation.project table.carriedColumns row from values, arranged']
  simp only [bind, Except.bind, pure, Except.pure, List.foldl_cons, List.foldl_nil, made.shadowed,
    Option.getD_some]
  rfl

/-- A column of a copy and a column of a row are known to be equal where the order does not tell
their values apart: the affinity of the row's column decides, and in it both are settled. -/
theorem holds_equal_columns {scope : Scope} {left right : Option String} {key : String}
    {affinity : Affinity} {copied kept : Stored}
    (leftFound : scope.lookup? left key = some (some .blob, copied))
    (rightFound : scope.lookup? right key = some (some affinity, kept))
    (copiedSettled : affinity.Settled copied) (keptSettled : affinity.Settled kept)
    (copiedPresent : copied.isNull = false) (keptPresent : kept.isNull = false) :
    holds scope (.binary .equal (.column left key) (.column right key)) =
      (copied.order kept == .eq) := by
  simp only [holds, evaluate, affinityOf, Scope.affinity_of_lookup? leftFound,
    Scope.affinity_of_lookup? rightFound, Scope.value_of_lookup? leftFound,
    Scope.value_of_lookup? rightFound, truth?_equal, copiedPresent, keptPresent]
  unfold compareUnder
  rw [Affinity.compare_as_between_of_settled copiedSettled,
    Affinity.compare_as_between_of_settled keptSettled]
  rfl

/-- What must hold of a copy that is removed: its key is that of the old row. -/
def copyConditions (table : Table) : List (Expression Stored) :=
  table.primaryKey.map fun key =>
    .binary .equal (.column none key) (.column (some "old") key)

/-- The full-text table without the copies on which the key condition holds. -/
def withoutCopy (table : Table) (shadow : FullTextTable) (scope : Scope) : FullTextTable :=
  let kept := shadow.rows.filter fun copy =>
    !allHold (shadow.binding shadow.name copy .null :: scope) (some (copyConditions table))
  { shadow with rows := kept }

/-- Removing the copy of the old row removes the copies on which the key condition holds. -/
theorem run_once_shadow_deletion (made : table.IsShadowed database relation shadow) (fire : Fire)
    (scope : Scope) :
    runOnce fire scope database table.shadowDeletion =
      .ok ⟨database.withFullText (withoutCopy table shadow scope),
        shadow.rows.length - (withoutCopy table shadow scope).rows.length, none⟩ := by
  simp only [runOnce, Table.shadowDeletion, runDelete, made.unrelated, made.shadowed]
  rfl

/-- A scope in which a trigger knows the old row: it is the first one. -/
def KnowsOld (relation : Relation) (row : Row) (scope : Scope) : Prop :=
  ∃ rest, scope = relation.oldRow row :: rest

/-- The key condition holds on the copy of a row exactly when the row has the key of the old one, as
the relation itself compares keys. Proof: the name of the key means an attribute of either side. -/
theorem copy_conditions_hold (made : table.IsShadowed database relation shadow) {scope : Scope}
    {copied old : Row} {copy : Row} (knows : KnowsOld relation old scope)
    (copiedFits : relation.Fits copied) (oldFits : relation.Fits old)
    (copiedKey : relation.HasKey table.primaryKey copied)
    (oldKey : relation.HasKey table.primaryKey old)
    (copies : copy.values = relation.project table.carriedColumns copied) :
    allHold (shadow.binding shadow.name copy .null :: scope) (some (copyConditions table)) =
      (Relation.keyOrder (relation.project table.primaryKey copied)
        (relation.project table.primaryKey old) == .eq) := by
  obtain ⟨rest, rfl⟩ := knows
  have each : ∀ key ∈ table.primaryKey,
      holds (shadow.binding shadow.name copy .null :: relation.oldRow old :: rest)
          (.binary .equal (.column none key) (.column (some "old") key)) =
        ((relation.value copied key).order (relation.value old key) == .eq) := by
    intro key inKey
    have carriedKey := table.primary_key_subset_carried inKey
    obtain ⟨attr, means⟩ : ∃ attr, Relation.meant? relation.attributes key = some attr := by
      refine Relation.meant?_is_some ?_
      rw [made.attributes, Table.attributes_names]
      exact table.primary_key_subset inKey
    obtain ⟨blob, meansCopy⟩ : ∃ attr, Relation.meant? shadow.attributes key = some attr := by
      refine Relation.meant?_is_some ?_
      rw [made.shadow_names]
      exact carriedKey
    have copyLengths : copy.values.length = shadow.attributes.length := by
      rw [copies, ← List.length_map Attribute.name, made.shadow_names]
      simp [Relation.project]
    have copyValue : Relation.valueIn shadow.attributes copy.values key =
        relation.value copied key := by
      rw [copies, ← made.shadow_names]
      refine Relation.value_in_map (relation.value copied) ?_ (made.shadow_names ▸ carriedKey)
      exact fun _ _ same => Relation.value_in_congr same _ _
    have left : Scope.lookup? (shadow.binding shadow.name copy .null :: relation.oldRow old :: rest)
        none key = some (some blob.affinity, Relation.valueIn shadow.attributes copy.values key) :=
      Scope.lookup?_first (shadow.lookup?_binding shadow.name .null copyLengths meansCopy)
    have other : sameName (shadow.binding shadow.name copy .null).name "old" = false :=
      shadow_name_ne_old (Database.full_text?_name made.shadowed)
    have right :
        Scope.lookup? (shadow.binding shadow.name copy .null :: relation.oldRow old :: rest)
          (some "old") key = some (some attr.affinity, relation.value old key) := by
      rw [Scope.lookup?_skip other]
      exact Scope.lookup?_named (same_name_refl "old")
        (Relation.lookup?_binding "old" oldFits.lengths means)
    rw [copyValue, FullTextTable.affinity_of_meant? meansCopy] at left
    exact holds_equal_columns left right (Relation.settled_value_in copiedFits.settled means)
      (Relation.settled_value_in oldFits.settled means) (copiedKey key inKey) (oldKey key inKey)
  rw [Bool.eq_iff_iff]
  simp only [allHold, Option.getD_some, copyConditions, List.all_map, List.all_eq_true,
    Function.comp_apply, beq_iff_eq, Relation.project, Relation.key_order_map_eq]
  refine forall₂_congr fun key inKey => ?_
  rw [each key inKey, beq_iff_eq]

end Engine

end RecordStore
