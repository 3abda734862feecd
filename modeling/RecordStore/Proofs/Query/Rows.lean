import RecordStore.Proofs.Engine.Listings
import RecordStore.Proofs.Query.Demands
import RecordStore.Proofs.Schema.Layout
import RecordStore.Query.Request

/-!
# Rows that meet a request

A row of a table meets criteria if it meets what each of their entries demands, and a partition if
each of its attributes has its value. The conditions that are compiled hold exactly where a scope
shows such a row.
-/

namespace RecordStore

open Engine Sql

/-- The affinity of a column of a table. -/
def Table.affinity (table : Table) (column : String) : Affinity :=
  ((table.column? column).map fun column => column.type.affinity).getD .blob

/-- The value under a column in the values of a row. -/
def Table.valueOf (table : Table) (values : List Stored) (column : String) : Stored :=
  Relation.valueIn table.attributes values column

/-- Whether a row meets a demand. -/
def Demand.isMetIn (table : Table) (values : List Stored) (demand : Demand) : Bool :=
  demand.isMetBy (table.affinity demand.column) (table.valueOf values demand.column)

/-- Whether a row meets criteria: what each of their entries demands. -/
def Criteria.isMetIn (table : Table) (values : List Stored) (criteria : Criteria) : Bool :=
  criteria.entries.all fun entry => (Demand.ofEntry? entry).any (Demand.isMetIn table values)

/-- What a partition demands. -/
def Partition.demands (partition : Partition) : List Demand :=
  partition.attributes.map Demand.ofAttribute

/-- Whether a row has the attributes of a partition. -/
def Partition.isMetIn (table : Table) (values : List Stored) (partition : Partition) : Bool :=
  partition.demands.all (Demand.isMetIn table values)

/-- Whether a row meets what a request says apart from its term. -/
def Request.isMetIn (table : Table) (values : List Stored) (request : Request) : Bool :=
  request.partition.all (Partition.isMetIn table values) &&
    request.criteria.all (Criteria.isMetIn table values)

/-! ### Columns of a table -/

namespace Table

variable {table : Table} {column : String}

/-- A column that a table has is one of its names. -/
theorem mem_column_names_of_has_column (known : table.hasColumn column = true) :
    column ∈ table.columnNames := by
  unfold hasColumn column? at known
  rw [List.find?_isSome] at known
  obtain ⟨declared, member, named⟩ := known
  exact List.mem_map.mpr ⟨declared, member, by simpa using named⟩

/-- A column means the attribute with its affinity. Proof: the attribute stands where the column is
declared. -/
theorem meant?_of_has_column (apart : ToldApart table.columnNames)
    (known : table.hasColumn column = true) :
    ∃ attr, Relation.meant? table.attributes column = some attr ∧ attr.name = column ∧
      attr.affinity = table.affinity column := by
  obtain ⟨declared, search⟩ := Option.isSome_iff_exists.mp known
  have declaredMember := List.mem_of_find?_eq_some search
  have declaredName : declared.name = column := by simpa using List.find?_some search
  have inAttributes : column ∈ table.attributes.map Attribute.name := by
    rw [attributes_names]
    exact mem_column_names_of_has_column known
  obtain ⟨attr, means⟩ := Relation.meant?_is_some inAttributes
  have attrMember := List.mem_of_find?_eq_some means
  have same : sameName attr.name column = true := by simpa using List.find?_some means
  have named : attr.name = column := by
    have inNames : attr.name ∈ table.columnNames := by
      rw [← attributes_names]
      exact List.mem_map_of_mem attrMember
    exact apart.eq_of_same inNames (mem_column_names_of_has_column known) same
  refine ⟨attr, means, named, ?_⟩
  obtain ⟨index, inside, here⟩ := List.getElem_of_mem attrMember
  have place := table.attributes_get_elem? index
  rw [List.getElem?_eq_getElem inside, here] at place
  obtain ⟨other, there, pair⟩ := Option.map_eq_some_iff.mp place.symm
  have otherMember := List.mem_of_getElem? there
  have otherName : other.name = declared.name := by
    rw [declaredName, ← named]
    exact congrArg Prod.fst pair
  have one := column_eq_of_name apart otherMember declaredMember otherName
  rw [affinity, search]
  exact (congrArg Prod.snd pair).symm.trans (by rw [one]; rfl)

end Table

/-- A scope shows a row of a table under a source: each column stands for its value there. -/
def Engine.Scope.Shows (scope : Scope) (source : Option String) (table : Table)
    (values : List Stored) : Prop :=
  ∀ column, table.hasColumn column = true → scope.lookup? source column =
    some (some (table.affinity column), table.valueOf values column)

/-! ### Conditions of criteria and partitions -/

namespace Engine

/-- Where all results are there, each item has its own. -/
theorem map_m_ok {ε α β : Type} {make : α → Except ε β} {items : List α} {made : List β}
    (accepted : items.mapM make = .ok made) :
    List.Forall₂ (fun item result => make item = .ok result) items made := by
  induction items generalizing made with
  | nil =>
    cases accepted
    exact .nil
  | cons first rest inductionHypothesis =>
    rw [List.mapM_cons] at accepted
    obtain ⟨head, madeHead, accepted⟩ := bind_ok accepted
    obtain ⟨tail, madeTail, ended⟩ := bind_ok accepted
    cases ended
    exact .cons madeHead (inductionHypothesis madeTail)

/-- Where each item has a result, all results are there. -/
theorem map_m_of_forall₂ {ε α β : Type} {make : α → Except ε β} {items : List α} {made : List β}
    (pairs : List.Forall₂ (fun item result => make item = .ok result) items made) :
    items.mapM make = .ok made := by
  induction pairs with
  | nil => rfl
  | cons head _ inductionHypothesis =>
    rw [List.mapM_cons, head, inductionHypothesis]
    rfl

/-- What is made of items is made of one of them each. -/
theorem exists_of_map_m_ok {ε α β : Type} {make : α → Except ε β} {items : List α} {made : List β}
    (accepted : items.mapM make = .ok made) :
    ∀ result ∈ made, ∃ item ∈ items, make item = .ok result := by
  intro result member
  have pairs := map_m_ok accepted
  clear accepted
  induction pairs with
  | nil => cases member
  | cons head _ inductionHypothesis =>
    rcases List.mem_cons.mp member with rfl | later
    · exact ⟨_, List.mem_cons_self, head⟩
    · obtain ⟨item, among, makes⟩ := inductionHypothesis later
      exact ⟨item, List.mem_cons_of_mem _ among, makes⟩

/-- A conjunction of two holds where both hold. -/
theorem holds_and (scope : Scope) (left right : Expression Stored) :
    holds scope (.binary .and left right) = (holds scope left && holds scope right) := by
  unfold holds
  simp only [evaluate, binary, truth?_of_truth]
  cases (evaluate [] scope left).truth? with
  | none => cases (evaluate [] scope right).truth? with
    | none => rfl
    | some right => cases right <;> rfl
  | some left => cases (evaluate [] scope right).truth? with
    | none => cases left <;> rfl
    | some right => cases left <;> cases right <;> rfl

/-- A chain holds where all its conditions hold. -/
theorem holds_chain (scope : Scope) (first : Expression Stored) (rest : List (Expression Stored)) :
    holds scope (.chain first rest) = (first :: rest).all (holds scope) := by
  induction rest generalizing first with
  | nil => simp [Expression.chain]
  | cons second others inductionHypothesis =>
    refine (inductionHypothesis (.binary .and first second)).trans ?_
    simp only [List.all_cons, holds_and, Bool.and_assoc]

/-- A conjunction holds if all of its parts do. -/
theorem holds_conjunction? (scope : Scope) (conditions : List (Expression Stored)) :
    (Expression.conjunction? conditions).all (holds scope) = conditions.all (holds scope) := by
  match conditions with
  | [] => rfl
  | [condition] => simp [Expression.conjunction?]
  | first :: second :: others => exact holds_chain scope first (second :: others)

/-- So does a clause whose conditions are merged. -/
theorem all_hold_merge (scope : Scope) (conditions : List (Expression Stored)) :
    allHold scope (some (merge conditions)) = conditions.all (holds scope) := by
  cases conditions with
  | nil => rfl
  | cons first rest =>
    simp only [allHold, merge, Option.getD_some, List.all_cons, List.all_nil, Bool.and_true,
      holds_chain]

end Engine

/-- Conditions are compiled for demands of a table, one for each. -/
def CompiledAll (table : Table) (source : Option String) (demands : List Demand)
    (conditions : List Condition) : Prop :=
  List.Forall₂ (fun demand condition =>
    table.hasColumn demand.column = true ∧ demand.Compiled source condition) demands conditions

namespace CompiledAll

variable {table : Table} {source : Option String} {demands others : List Demand}
  {conditions further : List Condition}

/-- Conditions of two lists of demands are conditions of both lists together. -/
theorem append (first : CompiledAll table source demands conditions)
    (second : CompiledAll table source others further) :
    CompiledAll table source (demands ++ others) (conditions ++ further) :=
  List.rel_append first second

/-- Compiled conditions hold in a scope exactly if what their columns stand for there meets the
demands. -/
theorem holds_lookup? (compiled : CompiledAll table source demands conditions) {scope : Scope}
    (affinity : String → Affinity) (value : String → Stored)
    (found : ∀ demand ∈ demands, scope.lookup? source demand.column =
      some (some (affinity demand.column), value demand.column)) :
    (conditions.map (Expression.mapOperands Stored.bound)).all (Engine.holds scope) =
      demands.all fun demand => demand.isMetBy (affinity demand.column) (value demand.column) := by
  induction compiled with
  | nil => rfl
  | cons head _ inductionHypothesis =>
    rw [List.map_cons, List.all_cons, List.all_cons,
      inductionHypothesis fun demand member => found demand (List.mem_cons_of_mem _ member),
      head.2.holds (found _ List.mem_cons_self)]

/-- Every demand for which a condition is compiled is about a column of the table. -/
theorem known (compiled : CompiledAll table source demands conditions) :
    ∀ demand ∈ demands, table.hasColumn demand.column = true := by
  induction compiled with
  | nil => nofun
  | cons head _ inductionHypothesis => exact List.forall_mem_cons.mpr ⟨head.1, inductionHypothesis⟩

/-- Compiled conditions hold in a scope exactly if the row that it shows meets the demands. -/
theorem holds (compiled : CompiledAll table source demands conditions) {scope : Scope}
    {values : List Stored} (shows : scope.Shows source table values) :
    (conditions.map (Expression.mapOperands Stored.bound)).all (Engine.holds scope) =
      demands.all (Demand.isMetIn table values) :=
  compiled.holds_lookup? table.affinity (table.valueOf values) fun demand member =>
    shows _ (compiled.known demand member)

/-- Every condition is compiled for one of the demands. -/
theorem each (compiled : CompiledAll table source demands conditions) :
    ∀ condition ∈ conditions, ∃ demand ∈ demands, table.hasColumn demand.column = true ∧
      demand.Compiled source condition := by
  intro condition member
  induction compiled with
  | nil => cases member
  | cons head _ inductionHypothesis =>
    rcases List.mem_cons.mp member with rfl | later
    · exact ⟨_, List.mem_cons_self, head⟩
    · obtain ⟨demand, among, rest⟩ := inductionHypothesis later
      exact ⟨demand, List.mem_cons_of_mem _ among, rest⟩

end CompiledAll

section Compile

variable {table : Table} {source : Option String} {conditions : List Condition}

/-- Items compile to what they demand if each of them does. -/
theorem CompiledAll.of_map_m {Held : Type} {compile : Held → Except StoreError Condition}
    {demandOf : Held → Option Demand}
    (each : ∀ held condition, compile held = .ok condition → ∃ demand, demandOf held = some demand ∧
      table.hasColumn demand.column = true ∧ demand.Compiled source condition)
    {items : List Held} (accepted : items.mapM compile = .ok conditions) :
    ∃ demands, items.map demandOf = demands.map some ∧
      CompiledAll table source demands conditions := by
  have pairs := map_m_ok accepted
  clear accepted
  induction pairs with
  | nil => exact ⟨[], rfl, .nil⟩
  | cons made _ inductionHypothesis =>
    obtain ⟨demand, demanded, head⟩ := each _ _ made
    obtain ⟨demands, rest, tail⟩ := inductionHypothesis
    exact ⟨demand :: demands, by rw [List.map_cons, List.map_cons, demanded, rest], .cons head tail⟩

/-- Criteria compile to what their entries demand. -/
theorem Criteria.conditions_compiled {criteria : Criteria}
    (accepted : criteria.conditions table source = .ok conditions) :
    ∃ demands, criteria.entries.map Demand.ofEntry? = demands.map some ∧
      CompiledAll table source demands conditions := by
  unfold Criteria.conditions at accepted
  split at accepted
  · cases accepted
  · exact CompiledAll.of_map_m (fun _ _ => Demand.of_entry_compiled) accepted

/-- A partition compiles to what its attributes demand. -/
theorem Partition.conditions_compiled {partition : Partition}
    (accepted : partition.conditions table source = .ok conditions) :
    CompiledAll table source partition.demands conditions := by
  have each : ∀ (held : String × Value) condition,
      Condition.equality table source held.1 held.2 = .ok condition →
      ∃ demand, (some ∘ Demand.ofAttribute) held = some demand ∧
        table.hasColumn demand.column = true ∧ demand.Compiled source condition :=
    fun held condition made => ⟨_, rfl, Demand.equality_compiled made⟩
  obtain ⟨demands, same, compiled⟩ := CompiledAll.of_map_m each accepted
  rw [← List.map_map] at same
  rwa [Partition.demands, (List.map_inj_right fun _ _ => Option.some.inj).mp same]

/-- What a query states is what its partition states, then what its criteria state. -/
theorem stated_conditions_ok {criteria : Option Criteria} {partition : Option Partition}
    (accepted : statedConditions criteria partition table source = .ok conditions) :
    ∃ confined asked, conditions = confined ++ asked ∧
      (partition.elim (.ok []) fun partition => partition.conditions table source) = .ok confined ∧
      (criteria.elim (.ok []) fun criteria => criteria.conditions table source) = .ok asked := by
  unfold statedConditions at accepted
  cases partition with
  | none =>
    cases criteria with
    | none =>
      cases accepted
      exact ⟨[], [], rfl, rfl, rfl⟩
    | some criteria =>
      obtain ⟨_, ⟨⟩, accepted⟩ := bind_ok accepted
      obtain ⟨asked, made, ended⟩ := bind_ok accepted
      cases ended
      exact ⟨[], asked, rfl, rfl, made⟩
  | some partition =>
    obtain ⟨confined, confinedMade, accepted⟩ := bind_ok accepted
    cases criteria with
    | none =>
      cases accepted
      exact ⟨confined, [], rfl, confinedMade, rfl⟩
    | some criteria =>
      obtain ⟨asked, made, ended⟩ := bind_ok accepted
      cases ended
      exact ⟨confined, asked, rfl, confinedMade, made⟩

/-- A row meets what criteria demand exactly if it meets the criteria. -/
theorem Criteria.demands_is_met_in {criteria : Criteria} {demands : List Demand}
    (demanded : criteria.entries.map Demand.ofEntry? = demands.map some) (values : List Stored) :
    demands.all (Demand.isMetIn table values) = criteria.isMetIn table values := by
  have each := congrArg (List.all · (Option.any (Demand.isMetIn table values))) demanded
  simp only [List.all_map] at each
  exact each.symm

/-- A partition that is left out demands nothing. -/
theorem Partition.elim_compiled {partition : Option Partition}
    (accepted : (partition.elim (.ok []) fun partition => partition.conditions table source) =
      .ok conditions) :
    CompiledAll table source (partition.elim [] Partition.demands) conditions := by
  cases partition with
  | none =>
    cases accepted
    exact .nil
  | some partition => exact Partition.conditions_compiled accepted

/-- Criteria that are left out are met by every row. -/
theorem Criteria.elim_compiled {criteria : Option Criteria}
    (accepted : (criteria.elim (.ok []) fun criteria => criteria.conditions table source) =
      .ok conditions) :
    ∃ demands, CompiledAll table source demands conditions ∧
      ∀ values, demands.all (Demand.isMetIn table values) =
        criteria.all (Criteria.isMetIn table values) := by
  cases criteria with
  | none =>
    cases accepted
    exact ⟨[], .nil, fun _ => rfl⟩
  | some criteria =>
    obtain ⟨demands, same, compiled⟩ := Criteria.conditions_compiled accepted
    exact ⟨demands, compiled, Criteria.demands_is_met_in same⟩

/-- Everything that a request without a term states compiles to demands, and a row that meets all
of them is a row that meets the request. -/
theorem Request.stated_conditions_compiled {request : Request}
    (accepted : statedConditions request.criteria request.partition table source = .ok conditions) :
    ∃ demands, CompiledAll table source demands conditions ∧
      ∀ values, demands.all (Demand.isMetIn table values) = request.isMetIn table values := by
  obtain ⟨confined, asked, rfl, confinedMade, askedMade⟩ := stated_conditions_ok accepted
  obtain ⟨others, compiled, met⟩ := Criteria.elim_compiled askedMade
  refine ⟨_, (Partition.elim_compiled confinedMade).append compiled, fun values => ?_⟩
  rw [List.all_append, met, Request.isMetIn]
  cases request.partition <;> rfl

end Compile

end RecordStore
