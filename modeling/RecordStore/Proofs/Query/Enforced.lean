import Mathlib.Data.List.Perm.Basic
import RecordStore.Proofs.Query.Meaning

/-!
# Criteria that are built by calls

A caller builds criteria by calls, each of which asks something of one column. Criteria are a
mapping, so a call replaces what an earlier one put under the same key: the column for an equality,
the operator for a comparison. The calls that last are those whose key no later call has. Criteria
hold one entry for each of them, so each of them is compiled to one condition, and a row that is
selected meets what every one of them demands.
-/

namespace RecordStore

open Engine Sql

/-- A call that adds to criteria. -/
inductive Criteria.Call where
  | equals (column : String) (value : Value)
  | compare (operator : Operator) (column : String) (value : Value)
  | oneOf (column : String) (values : List Value)
  deriving DecidableEq

namespace Criteria.Call

/-- The column that a call is about. -/
def column : Call → String
  | .equals column _ | .compare _ column _ | .oneOf column _ => column

/-- The key under which criteria hold what a call asks for. -/
def key : Call → String
  | .equals column _ => column
  | .compare operator _ _ => operator.key
  | .oneOf _ _ => Operator.oneOf.key

/-- What a call puts under its key. -/
def argument : Call → Argument
  | .equals _ value => .scalar value
  | .compare _ column value => .list [.text column, value]
  | .oneOf column values => .list (.text column :: values)

/-- The entry of a call. -/
def entry (call : Call) : String × Argument := (call.key, call.argument)

/-- What a call demands of its column. -/
def demand : Call → Demand
  | .equals column value => ⟨column, .equal, [value]⟩
  | .compare operator column value => ⟨column, operator, [value]⟩
  | .oneOf column values => ⟨column, .oneOf, values⟩

/-- The criteria after a call. -/
def apply (criteria : Criteria) : Call → Criteria
  | .equals column value => criteria.equals column value
  | .compare operator column value => criteria.compare operator column value
  | .oneOf column values => criteria.oneOf column values

/-- A call inserts its argument under its key. -/
theorem apply_eq (criteria : Criteria) (call : Call) :
    call.apply criteria = criteria.insert call.key call.argument := by
  cases call <;> rfl

end Criteria.Call

/-- The criteria of a chain of calls. -/
def Criteria.ofCalls (calls : List Criteria.Call) : Criteria := calls.foldl Call.apply empty

/-- The calls of a chain that no later call replaces. -/
def Criteria.lasting : List Criteria.Call → List Criteria.Call
  | [] => []
  | call :: later =>
    if later.any fun other => other.key == call.key then lasting later
    else call :: lasting later

/-! ### Entries under keys -/

section Entries

variable {α : Type} {key : String} {entries : List (String × α)}

/-- Putting a value under a key drops what was under the key and adds the value. The induction is on
the entries; behind the one that has the key no other has it, so the others stay. -/
theorem put_entry_perm (value : α) (distinct : (entries.map Prod.fst).Nodup) :
    (putEntry key value entries).Perm
      ((entries.filter fun entry => entry.1 != key) ++ [(key, value)]) := by
  induction entries with
  | nil => exact .refl _
  | cons entry rest inductionHypothesis =>
    rw [List.map_cons, List.nodup_cons] at distinct
    by_cases same : entry.1 = key
    · have others : (rest.filter fun entry => entry.1 != key) = rest := by
        refine List.filter_eq_self.mpr fun other member => ?_
        rw [bne_iff_ne]
        rintro equal
        exact distinct.1 (List.mem_map.mpr ⟨other, member, equal.trans same.symm⟩)
      have dropped : (entry.1 != key) = false := by simpa using same
      rw [putEntry, if_pos (by simpa using same), List.filter_cons, dropped, others]
      exact (List.perm_append_singleton _ _).symm
    · have kept : (entry.1 != key) = true := by simpa using same
      rw [putEntry, if_neg (by simpa using same), List.filter_cons, kept]
      exact (inductionHypothesis distinct.2).cons entry

end Entries

namespace Criteria

variable {calls later : List Call} {call : Call}

/-! ### Calls that last -/

/-- The calls that last are some of the calls, in their order. -/
theorem lasting_sublist (calls : List Call) : (lasting calls).Sublist calls := by
  induction calls with
  | nil => exact .refl _
  | cons call later inductionHypothesis =>
    unfold lasting
    split
    · exact inductionHypothesis.cons call
    · exact inductionHypothesis.cons_cons call

/-- One more call replaces those with its key, and lasts itself. -/
theorem lasting_concat (calls : List Call) (call : Call) :
    lasting (calls ++ [call]) = ((lasting calls).filter fun other => other.key != call.key) ++
      [call] := by
  induction calls with
  | nil => rfl
  | cons first later inductionHypothesis =>
    rw [List.cons_append, lasting, lasting, List.any_append, inductionHypothesis]
    by_cases replaced : (later.any fun other => other.key == first.key) = true
    · rw [replaced, Bool.true_or]
      rfl
    · by_cases same : call.key = first.key
      · simp [replaced, same]
      · have differs : (first.key != call.key) = true := by simpa using Ne.symm same
        simp [replaced, same, differs]

/-- Two calls that last never have the same key. -/
theorem lasting_keys (calls : List Call) : ((lasting calls).map Call.key).Nodup := by
  induction calls with
  | nil => exact .nil
  | cons call later inductionHypothesis =>
    unfold lasting
    split
    · exact inductionHypothesis
    · rename_i unreplaced
      rw [List.map_cons, List.nodup_cons]
      refine ⟨fun member => unreplaced ?_, inductionHypothesis⟩
      obtain ⟨other, among, same⟩ := List.mem_map.mp member
      exact List.any_eq_true.mpr ⟨other, (lasting_sublist later).subset among, by simpa using same⟩

/-- All calls of a chain last if no two of them have the same key. -/
theorem lasting_eq_self (distinct : (calls.map Call.key).Nodup) : lasting calls = calls := by
  induction calls with
  | nil => rfl
  | cons call later inductionHypothesis =>
    rw [List.map_cons, List.nodup_cons] at distinct
    have unreplaced : ¬ (later.any fun other => other.key == call.key) = true := by
      intro replaced
      obtain ⟨other, among, same⟩ := List.any_eq_true.mp replaced
      exact distinct.1 (List.mem_map.mpr ⟨other, among, by simpa using same⟩)
    rw [lasting, if_neg unreplaced, inductionHypothesis distinct.2]

/-- The criteria of a chain hold one entry for each call that lasts. -/
theorem of_calls_perm (calls : List Call) :
    (ofCalls calls).entries.Perm ((lasting calls).map Call.entry) := by
  induction calls using List.reverseRecOn with
  | nil => exact .refl _
  | append_singleton calls call inductionHypothesis =>
    have distinct : ((ofCalls calls).entries.map Prod.fst).Nodup := by
      refine (inductionHypothesis.map Prod.fst).nodup_iff.mpr ?_
      rw [List.map_map]
      exact lasting_keys calls
    have built : (ofCalls (calls ++ [call])).entries =
        putEntry call.key call.argument (ofCalls calls).entries := by
      unfold ofCalls
      rw [List.foldl_concat, Call.apply_eq]
      rfl
    have kept : ((lasting calls).map Call.entry).filter (fun entry => entry.1 != call.key) =
        ((lasting calls).filter fun other => other.key != call.key).map Call.entry :=
      List.filter_map
    rw [built, lasting_concat, List.map_append, ← kept]
    exact (put_entry_perm _ distinct).trans ((inductionHypothesis.filter _).append_right _)

/-! ### What calls compile to -/

variable {table : Table} {source : Option String} {condition : Condition}

/-- An entry under the key of an operator demands what the operator asks for. -/
theorem Call.of_entry?_comparison (operator : Operator) (column : String) (operands : List Value) :
    Demand.ofEntry? (operator.key, .list (.text column :: operands)) =
      some ⟨column, operator, operands⟩ := by
  have named : (Operator.all.find? fun other => other.name == operator.name) = some operator := by
    cases operator <;> decide +kernel
  simp only [Demand.ofEntry?, operator.name_of_key?_key, named, Argument.values]

/-- An entry of an accepted call compiles to what the call demands. A column that starts with the
operator sign is none that an equality can be about: there it reads as a comparison that lacks its
operand. -/
theorem Call.entry_compiled (accepted : Condition.ofEntry table source call.entry = .ok condition) :
    Demand.ofEntry? call.entry = some call.demand ∧
      table.hasColumn call.demand.column = true ∧ call.demand.Compiled source condition := by
  obtain ⟨demand, demanded, known, compiled⟩ := Demand.of_entry_compiled accepted
  have same : Demand.ofEntry? call.entry = some call.demand := by
    cases call with
    | compare operator column value => exact of_entry?_comparison operator column [value]
    | oneOf column values => exact of_entry?_comparison .oneOf column values
    | equals column value =>
      unfold Demand.ofEntry? entry Call.key argument at demanded ⊢
      cases sign : Operator.nameOfKey? column with
      | none => rfl
      | some name =>
        simp only [sign, Argument.values] at demanded
        split at demanded
        · rename_i operator named operands
          cases operands
          cases demanded
          cases compiled
          contradiction
        · cases demanded
  cases demanded.symm.trans same
  exact ⟨same, known, compiled⟩

/-- Criteria that are built by calls compile to one condition for each call that lasts. -/
theorem of_calls_compiled {asked : List Condition}
    (accepted : (ofCalls calls).conditions table source = .ok asked) :
    (∀ call ∈ lasting calls, Demand.ofEntry? call.entry = some call.demand) ∧
      ∃ made, made.Perm asked ∧
        CompiledAll table source ((lasting calls).map Call.demand) made := by
  unfold Criteria.conditions at accepted
  split at accepted
  · cases accepted
  · obtain ⟨made, pairs, perm⟩ :=
      List.perm_comp_forall₂ (of_calls_perm calls).symm (map_m_ok accepted)
    rw [List.forall₂_map_left_iff] at pairs
    refine ⟨?_, made, perm, ?_⟩
    · clear perm
      generalize lasting calls = asking at pairs
      induction pairs with
      | nil => exact List.forall_mem_nil _
      | cons head _ inductionHypothesis =>
        exact List.forall_mem_cons.mpr ⟨(Call.entry_compiled head).1, inductionHypothesis⟩
    · unfold CompiledAll
      rw [List.forall₂_map_left_iff]
      exact pairs.imp fun _ _ made => (Call.entry_compiled made).2

/-- A row meets criteria that are built by calls exactly if it meets what the lasting calls
demand. -/
theorem of_calls_is_met_in (demanded : ∀ call ∈ lasting calls,
    Demand.ofEntry? call.entry = some call.demand) (table : Table) (values : List Stored) :
    (ofCalls calls).isMetIn table values =
      (lasting calls).all fun call => call.demand.isMetIn table values := by
  unfold isMetIn
  rw [(of_calls_perm calls).all_eq, List.all_map, Bool.eq_iff_iff, List.all_eq_true,
    List.all_eq_true]
  refine forall₂_congr fun call member => ?_
  rw [Function.comp_apply, demanded call member, Option.any_some]

end Criteria

/-- No call is lost but those that the caller replaces. If criteria that are built by a chain of
calls are accepted, under whatever partition and source, what is compiled for them is the
conjunction of what the partition demands and of one condition for each call of the chain that
lasts, which is every call if no two have the same key. It holds in a scope exactly if the row that
is shown there meets the partition and every lasting call, and only such rows are on the pages of a
plain query. Proof: what is compiled is a conjunction with one condition for each entry, and the
entries that are left are those of the lasting calls; a page is a part of the listing, whose rows
are those that meet the request. -/
theorem lasting_calls_are_enforced {tables : List Table} {schema : Schema} {table : Table}
    {calls : List Criteria.Call} {partition : Option Partition} {source : Option String}
    {condition : Option Condition}
    (accepted : Schema.ofTables tables = .ok schema) (member : table ∈ schema.tables)
    (compiles : statedCondition? (some (.ofCalls calls)) partition table source = .ok condition) :
    (∃ confined asked made : List Condition,
      condition = Expression.conjunction? (confined ++ asked) ∧ made.Perm asked ∧
      CompiledAll table source (partition.elim [] Partition.demands) confined ∧
      CompiledAll table source ((Criteria.lasting calls).map Criteria.Call.demand) made) ∧
    ((calls.map Criteria.Call.key).Nodup → Criteria.lasting calls = calls) ∧
    (∀ (scope : Scope) (values : List Stored), scope.Shows source table values →
      (condition.map (Expression.mapOperands Stored.bound)).all (holds scope) =
        (partition.all (Partition.isMetIn table values) &&
          (Criteria.lasting calls).all fun call => call.demand.isMetIn table values)) ∧
    ∀ (request : Request) (first : Page) (firstQuery : Select Stored) (access : Access)
      (relation : Relation), request.criteria = some (.ofCalls calls) → request.term = none →
      request.finding table first = .ok firstQuery →
      access.visible.relation? table.name = some relation → table.IsHeldAs relation →
      ∀ limit offset largest page, Page.resolve limit offset largest = .ok page →
        ∃ query, request.finding table page = .ok query ∧
          ∀ answer, (access.runText query.fragment.text query.fragment.operands).answer =
            .ok answer → ∀ values ∈ answer.rows, ∃ row ∈ relation.rows, row.values = values ∧
              ∀ call ∈ Criteria.lasting calls, call.demand.isMetIn table row.values = true := by
  obtain ⟨conditions, stated, ended⟩ := bind_ok compiles
  cases ended
  obtain ⟨confined, asked, rfl, confinedMade, askedMade⟩ := stated_conditions_ok stated
  have confinedCompiled := Partition.elim_compiled confinedMade
  obtain ⟨demanded, made, perm, compiled⟩ := Criteria.of_calls_compiled askedMade
  refine ⟨⟨confined, asked, made, rfl, perm, confinedCompiled, compiled⟩,
    Criteria.lasting_eq_self, fun scope values shows => ?_, ?_⟩
  · have met : (partition.elim [] Partition.demands).all (Demand.isMetIn table values) =
        partition.all (Partition.isMetIn table values) := by cases partition <;> rfl
    rw [Expression.conjunction?_map_operands, holds_conjunction?, List.map_append, List.all_append,
      confinedCompiled.holds shows, met,
      ← (perm.map (Expression.mapOperands Stored.bound)).all_eq, compiled.holds shows, List.all_map]
    rfl
  · intro request first firstQuery access relation built plain finds found held limit offset largest
      page resolved
    obtain ⟨listing, listed, -, pages, -⟩ := Request.plain_answers
      (Schema.of_tables_fault? accepted table member) (held.is_read_in found) plain finds
    obtain ⟨query, compiles, answers⟩ := pages page (Page.resolve_ok resolved).1
    refine ⟨query, compiles, fun answer answered values among => ?_⟩
    rw [answers] at answered
    cases reading : access.forReading with
    | error problem =>
      rw [reading] at answered
      cases answered
    | ok _ =>
      rw [reading] at answered
      cases answered
      obtain ⟨row, inPage, rfl⟩ := List.mem_map.mp among
      have inListing := List.mem_of_mem_drop (List.mem_of_mem_take inPage)
      obtain ⟨stored, meets⟩ := List.mem_filter.mp (listed.subset inListing)
      unfold Request.isMetIn at meets
      rw [built, Option.all_some, Criteria.of_calls_is_met_in demanded, Bool.and_eq_true,
        List.all_eq_true] at meets
      exact ⟨row, stored, rfl, meets.2⟩

namespace Pantry

/-- Three comparisons, of which the last one takes the place of the first one. -/
def calls : List Criteria.Call :=
  [.compare .atLeast "grams" (.integer 400), .compare .atMost "grams" (.integer 400),
    .compare .atLeast "content" (.text "o")]

/-- The request for the rows that meet the criteria of calls. -/
def asking (calls : List Criteria.Call) : Request where
  criteria := some (.ofCalls calls)

end Pantry

open Pantry in
/-- Of the jars, only the plums are not heavier than 400 grams and stand behind the letter o. -/
theorem lasting_calls_are_enforced_on_jars :
    Schema.ofTables [jar] = .ok ⟨[jar]⟩ ∧
      (∃ condition, statedCondition? (some (.ofCalls calls)) none jar none = .ok condition) ∧
      Criteria.lasting calls = calls.drop 1 ∧
      ∃ query, (asking calls).finding jar ⟨10, 0⟩ = .ok query ∧
        ∀ answer, (access.runText query.fragment.text query.fragment.operands).answer =
          .ok answer → ∀ values ∈ answer.rows, values = [.text "plums", .integer 300] := by
  have compiles : statedCondition? (some (.ofCalls calls)) none jar none =
      .ok (some (.grouped (.binary .and
        (.binary .atLeast (.column none "content") (.operand (.text "o")))
        (.binary .atMost (.column none "grams") (.operand (.integer 400)))))) := by decide +kernel
  have lasting : Criteria.lasting calls = calls.drop 1 := by decide +kernel
  obtain ⟨found, held⟩ := jars_held
  obtain ⟨first, finds⟩ : ∃ query, (asking calls).finding jar ⟨10, 0⟩ = .ok query := ⟨_, rfl⟩
  obtain ⟨-, -, -, answers⟩ :=
    lasting_calls_are_enforced jar_accepted List.mem_cons_self compiles
  obtain ⟨query, made, rows⟩ := answers (asking calls) ⟨10, 0⟩
    first access jars rfl rfl finds found held (some 10) none 1000 ⟨10, 0⟩ rfl
  have plums : ∀ row ∈ jars.rows,
      (∀ call ∈ calls.drop 1, call.demand.isMetIn jar row.values = true) →
        row.values = [.text "plums", .integer 300] := by decide +kernel
  refine ⟨jar_accepted, ⟨_, compiles⟩, lasting, query, made, fun answer answered values among => ?_⟩
  obtain ⟨row, stored, rfl, meets⟩ := rows answer answered values among
  rw [lasting] at meets
  exact plums row stored meets

open Pantry in
/-- Two calls that name different columns can still share their key, and then only the later one is
enforced: the plums weigh 300 grams, and the query for what weighs 400 at least and stands behind
the letter o finds them. -/
theorem earlier_comparison_is_lost :
    ((calls.eraseIdx 1).map Criteria.Call.column).Nodup ∧
      statedCondition? (some (.ofCalls (calls.eraseIdx 1))) none jar none =
        .ok (some (.binary .atLeast (.column none "content") (.operand (.text "o")))) ∧
      ∃ row ∈ jars.rows,
        holds [jars.binding jar.name row]
          (.binary .atLeast (.column none "content") (.operand (.text "o"))) = true ∧
        ∃ call ∈ calls.eraseIdx 1, call.demand.isMetIn jar row.values = false := by
  refine ⟨by decide, by decide +kernel, ⟨1, [.text "plums", .integer 300]⟩, by decide, by
    decide +kernel, .compare .atLeast "grams" (.integer 400), List.mem_cons_self, by decide +kernel⟩

end RecordStore
