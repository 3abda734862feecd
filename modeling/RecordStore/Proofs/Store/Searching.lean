import RecordStore.Proofs.Query.Asked
import RecordStore.Proofs.Query.SameRows
import RecordStore.Proofs.Store.Reading

/-!
# Searching is counting and finding

A search counts, and finds a page unless the page lies behind the number that was counted. Reading
changes nothing that is read, so what a search answers is what counting and finding answer in the
store where it starts. Behind the last row finding would answer with no entities too; but what a
request says about its order is looked at by finding alone, so there a search answers although
finding would refuse the order.
-/

namespace RecordStore

open Engine Sql

/-! ### Stores that show the same -/

/-- Two stores that are alike and show the same database. -/
structure Store.Twins (left right : Store) : Prop extends left.Alike right where
  visible : left.visible = right.visible

namespace Operation

variable {model : Model} {handle : Handle model} {request : Request} {store : Store}

/-- No query tells twins apart. -/
theorem answering_twins (query : Select Stored) :
    IsBlindTo Store.Twins (answering (.select query)) := by
  intro left right twins
  have leftRead := answering_is_read_to query left
  have rightRead := answering_is_read_to query right
  refine ⟨answering_alike twins.toAlike query
    fun leftAccess leftOpened rightAccess rightOpened reads =>
    Access.run_select_congr ?_ reads query, twins.toAlike.read leftRead rightRead, ?_⟩
  · rw [← Store.visible_of_access? leftOpened, ← Store.visible_of_access? rightOpened,
      twins.visible]
  · rw [leftRead.visible, rightRead.visible, twins.visible]

/-- Finding a page goes in the same way in twins. -/
theorem find_page_twins (page : Page) : IsBlindTo Store.Twins (findPage handle request page) :=
  .bind (.of_except _) fun _ => .bind (answering_twins _) fun _ => .of_except _

/-- A query leaves a twin of a store that no outage is to strike. -/
theorem answering_keeps_twins (undisturbed : store.host.outages = []) (query : Select Stored) :
    Keeps store.Twins (answering (.select query)) := by
  intro before twins
  have read := answering_is_read_to query before
  have calm : before.host.outages = [] := by rw [← twins.outages, undisturbed]
  refine ⟨⟨by rw [read.config, twins.config], ?_, by rw [read.mayRead?, twins.mayRead?]⟩,
    by rw [read.visible, twins.visible]⟩
  rw [read.outages, calm, undisturbed]
  simp

/-- Counting leaves a twin of such a store. -/
theorem count_twins (undisturbed : store.host.outages = []) :
    store.Twins ((count handle request).apply store).2 :=
  count_keeps (answering_keeps_twins undisturbed) handle request store ⟨⟨rfl, rfl, rfl⟩, rfl⟩

/-! ### What a search answers -/

/-- A search answers with what counting and finding answer, and behind the last row with no
entities. -/
theorem search_apply (undisturbed : store.host.outages = []) :
    ((search handle request).apply store).1 =
      (Page.resolve request.limit request.offset store.driver.config.maxPageSize).bind fun page =>
        ((count handle request).apply store).1.bind fun total =>
          if total ≤ page.offset then .ok ⟨[], total, page.offset, page.limit⟩
          else ((find handle request).apply store).1.map fun entities =>
            ⟨entities, total, page.offset, page.limit⟩ := by
  have twins : store.Twins ((count handle request).apply store).2 := count_twins undisturbed
  rw [search, page_of_bind, find, page_of_bind]
  cases Page.resolve request.limit request.offset store.driver.config.maxPageSize with
  | error problem => rfl
  | ok page =>
    have same : ((findPage handle request page).apply store).1 =
        ((findPage handle request page).apply ((count handle request).apply store).2).1 :=
      (find_page_twins page _ _ twins).1
    simp only [Except.bind]
    rw [same, apply_bind]
    rcases (count handle request).apply store with ⟨counted, after⟩
    cases counted with
    | error problem => rfl
    | ok total =>
      by_cases behind : total ≤ page.offset
      · simp only [behind, if_true]
        rfl
      · simp only [behind, if_false]
        rw [apply_bind]
        rcases (findPage handle request page).apply after with ⟨found, last⟩
        cases found <;> rfl

section Behind

variable {page : Page} {total : Int64}
  (counted : ((count handle request).apply store).1 = .ok total) (behind : total ≤ page.offset)
  (few : ∀ query scopes, request.counting handle.table = .ok query →
    Engine.scopes store.visible (query.mapOperands Stored.bound) = .ok scopes →
      scopes.length < 2 ^ 63)

include counted behind few

/-- Behind the last row the query for a page is answered with no rows, if it is answered. -/
theorem rows_behind (nonempty : handle.table.columns ≠ []) {query : Select Stored} {answer : Answer}
    (made : request.finding handle.table page = .ok query)
    (answered : ((answering (.select query)).apply store).1 = .ok answer) : answer.rows = [] := by
  obtain ⟨counting, counts, countingMade, countAnswered, rfl⟩ := count_ok counted
  obtain ⟨scopes, read, number, empty⟩ := Request.page_behind_is_empty nonempty countingMade made
    (answering_selects countAnswered) (answering_selects answered)
  rw [number, Int64.le_iff_toInt_le,
    Int64.toInt_ofNat_of_lt (few counting scopes countingMade read)] at behind
  exact empty (by omega)

/-- So finding answers there with no entities, if it answers. -/
theorem find_behind
    (resolved : Page.resolve request.limit request.offset store.driver.config.maxPageSize =
      .ok page)
    (nonempty : handle.table.columns ≠ []) {entities : List (Entity model)}
    (found : ((find handle request).apply store).1 = .ok entities) : entities = [] := by
  rw [find, page_of_bind, resolved] at found
  obtain ⟨query, answer, made, answered, loads⟩ := find_page_ok found
  unfold loadAll at loads
  rw [rows_behind counted behind few nonempty made answered] at loads
  cases loads
  rfl

/-- In a database of which the request can be asked finding refuses nothing there but the order.
Proof: whatever let the count be read lets the page be read. -/
theorem find_behind_sorted
    (resolved : Page.resolve request.limit request.offset store.driver.config.maxPageSize =
      .ok page)
    (faultless : handle.table.fault? = none)
    (undisturbed : store.host.outages = []) {relation : Relation}
    (asked : request.IsAskedIn handle.table store.visible relation)
    (suits : request.term.isSome = true →
      ∀ partition ∈ request.partition, partition.Suits handle.table) :
    ((find handle request).apply store).1 = (request.ordering handle.table).map fun _ => [] := by
  obtain ⟨counting, counts, countingMade, countAnswered, -⟩ := count_ok counted
  obtain ⟨rows, rowsMade, -⟩ := Request.counting_ok countingMade
  cases order : request.ordering handle.table with
  | error problem =>
    have refused : request.finding handle.table page = .error problem := by
      rw [Request.finding_of_rows rowsMade, order]
      rfl
    rw [find, page_of_bind, resolved]
    simp only [findPage, refused, apply_bind, apply_of_except]
    rfl
  | ok keys =>
    obtain ⟨finding, findingMade⟩ : ∃ finding, request.finding handle.table page = .ok finding := by
      rw [Request.finding_of_rows rowsMade, order]
      exact ⟨_, rfl⟩
    obtain ⟨access, opened, ran⟩ := answering_ok countAnswered
    have seen := asked
    rw [Store.visible_of_access? opened] at seen
    rw [seen.counts faultless suits countingMade] at ran
    obtain ⟨held, reads, ran⟩ := bind_ok ran
    obtain ⟨pattern, parsed, -⟩ := map_ok ran
    obtain ⟨listing, -, answers⟩ :=
      seen.pages faultless suits (Page.resolve_ok resolved).1 findingMade
    rw [reads, parsed] at answers
    have answered := answering_run (Store.quiet_of_undisturbed undisturbed) opened answers
    obtain ⟨-, nonempty, -⟩ := Table.identifiers_of_fault? faultless
    have found := find_page_apply findingMade answered
    unfold loadAll at found
    rw [rows_behind counted behind few nonempty findingMade answered] at found
    rw [find, page_of_bind, resolved]
    exact found

end Behind

end Operation

/-- Searching is counting and finding. What a search answers is decided by what counting and finding
answer in the same store: the number is what is counted, the entities are what is found, and the
page is the one that both resolve. Only where the page lies behind the last row finding is left out.
There finding would answer with no entities, and in a database of which the request can be asked it
would refuse nothing but the order.

Proof: a search resolves its page, counts, and finds only if the page begins before the last row;
neither of the queries changes what the other one reads. -/
theorem search_is_counting_and_finding {model : Model} {handle : Handle model} {tables : List Table}
    {schema : Schema} {store : Store} (request : Request)
    (accepted : Schema.ofTables tables = .ok schema) (member : handle.table ∈ schema.tables)
    (undisturbed : store.host.outages = []) :
    let resolved := Page.resolve request.limit request.offset store.driver.config.maxPageSize
    let counted := ((Operation.count handle request).apply store).1
    let found := ((Operation.find handle request).apply store).1
    (((Operation.search handle request).apply store).1 =
      resolved.bind fun page => counted.bind fun total =>
        if total ≤ page.offset then .ok ⟨[], total, page.offset, page.limit⟩
        else found.map fun entities => ⟨entities, total, page.offset, page.limit⟩) ∧
    (∀ problem, resolved = .error problem → found = .error problem) ∧
    ∀ page total, resolved = .ok page → counted = .ok total → total ≤ page.offset →
      (∀ query scopes, request.counting handle.table = .ok query →
        Engine.scopes store.visible (query.mapOperands Stored.bound) = .ok scopes →
          scopes.length < 2 ^ 63) →
      (∀ entities, found = .ok entities → entities = []) ∧
        ∀ relation, request.IsAskedIn handle.table store.visible relation →
          (request.term.isSome = true →
            ∀ partition ∈ request.partition, partition.Suits handle.table) →
          found = (request.ordering handle.table).map fun _ => [] := by
  intro resolved counted found
  have faultless := Schema.of_tables_fault? accepted handle.table member
  obtain ⟨-, nonempty, -⟩ := Table.identifiers_of_fault? faultless
  refine ⟨Operation.search_apply undisturbed, fun problem refused => ?_,
    fun page total resolves counts behind few => ⟨fun entities finds => ?_,
      fun relation asked suits => ?_⟩⟩
  · change ((Operation.find handle request).apply store).1 = _
    rw [Operation.find, Operation.page_of_bind, show Page.resolve _ _ _ = _ from refused]
  · exact Operation.find_behind counts behind few resolves nonempty finds
  · exact Operation.find_behind_sorted counts behind few resolves faultless undisturbed asked suits

/-! ### A pantry that is searched -/

namespace Pantry

/-- A jar with its content and its weight. -/
def jarModel : Model :=
  ⟨"jar", [⟨.text, { name := "content", type := .string, primaryKey := true }⟩,
    ⟨.integer, { name := "grams", type := .integer, nullable := true }⟩]⟩

/-- The handle of the jars. -/
def keeper : Handle jarModel := ⟨jar, rfl⟩

/-- A store with jars in memory. -/
def shelved (jars : Relation) : Store :=
  ⟨{ config := {}, connection := some { number := 0, location := .memory 0 } },
    { disk := { volumes := [(.memory 0, { content := { objects := [.relation jars] } })] } }⟩

/-- The heavy jars behind the first five. -/
def beyond : Request := { heavy with offset := some 5 }

/-- The heavy jars by their color, which is not known. -/
def byColor : Request := { heavy with sort := some ⟨[("color", .ascending)]⟩ }

/-- Without limit and offset the page is the first one, of a thousand rows. -/
theorem first_page (relation : Relation) :
    Page.resolve none none (shelved relation).driver.config.maxPageSize = .ok ⟨1000, 0⟩ := by
  have page : Page.resolve none none ({} : Config).maxPageSize = .ok ⟨1000, 0⟩ := by decide +kernel
  exact page

end Pantry

open Pantry in
/-- A search for the heavy jars answers what finding answers, with their number. Behind the first
five there are none. -/
theorem search_for_heavy_jars_is_counting_and_finding :
    let store := shelved jars
    Schema.ofTables [jar] = .ok ⟨[jar]⟩ ∧ store.host.outages = [] ∧
      ((Operation.search keeper heavy).apply store).1 =
        (((Operation.find keeper heavy).apply store).1.map fun entities =>
          ⟨entities, 1, 0, 1000⟩) ∧
      ((Operation.find keeper beyond).apply store).1 = .ok [] := by
  intro store
  have member : keeper.table ∈ [jar] := List.mem_cons_self
  have heavyCounted : ((Operation.count keeper heavy).apply store).1 = .ok 1 := by decide +kernel
  have beyondCounted : ((Operation.count keeper beyond).apply store).1 = .ok 1 := by decide +kernel
  have laterPage : Page.resolve none (some 5) store.driver.config.maxPageSize = .ok ⟨1000, 5⟩ := by
    decide +kernel
  have asked : beyond.IsAskedIn jar store.visible jars :=
    ⟨by decide +kernel, jars_held.2, by decide +kernel, nofun⟩
  have few : ∀ query scopes, beyond.counting jar = .ok query →
      Engine.scopes store.visible (query.mapOperands Stored.bound) = .ok scopes →
        scopes.length < 2 ^ 63 := by
    intro query scopes made read
    have one : (beyond.counting jar).toOption.bind (fun query =>
        (Engine.scopes store.visible (query.mapOperands Stored.bound)).toOption.map List.length) =
          some 1 := by decide +kernel
    rw [made] at one
    change (Engine.scopes store.visible _).toOption.map List.length = _ at one
    rw [read] at one
    have length : scopes.length = 1 := Option.some.inj one
    rw [length]
    decide
  obtain ⟨searches, -, -⟩ := search_is_counting_and_finding heavy jar_accepted member
    (show store.host.outages = [] from rfl)
  obtain ⟨-, -, behind⟩ := search_is_counting_and_finding beyond jar_accepted member
    (show store.host.outages = [] from rfl)
  refine ⟨jar_accepted, rfl, ?_, ?_⟩
  · rw [searches, heavyCounted, show Page.resolve heavy.limit heavy.offset _ =
      _ from first_page jars]
    simp only [Except.bind]
    rw [if_neg (by decide)]
  · exact (behind _ 1 laterPage beyondCounted (by decide) few).2 jars asked nofun

open Pantry in
/-- On an empty shelf a search answers what finding refuses, and with jars on the shelf it refuses
the same request: whether a request is valid depends on how many rows there are. -/
theorem search_answers_what_finding_refuses :
    let bare := shelved { jars with rows := [] }
    ((Operation.count keeper byColor).apply bare).1 = .ok 0 ∧
      ((Operation.find keeper byColor).apply bare).1 = .error (.unknownColumn "jar" "color") ∧
      ((Operation.search keeper byColor).apply bare).1 = .ok ⟨[], 0, 0, 1000⟩ ∧
      ((Operation.search keeper byColor).apply (shelved jars)).1 =
        .error (.unknownColumn "jar" "color") := by
  intro bare
  have refused : ∀ jars, ((Operation.find keeper byColor).apply (shelved jars)).1 =
      .error (.unknownColumn "jar" "color") := by
    intro jars
    rw [Operation.find, Operation.page_of_bind,
      show Page.resolve byColor.limit byColor.offset _ = _ from first_page jars]
    rfl
  have none : ((Operation.count keeper byColor).apply bare).1 = .ok 0 := by decide +kernel
  have one : ((Operation.count keeper byColor).apply (shelved jars)).1 = .ok 1 := by decide +kernel
  refine ⟨none, refused _, ?_, ?_⟩
  · rw [Operation.search_apply rfl, none,
      show Page.resolve byColor.limit byColor.offset _ = _ from first_page _]
    rfl
  · rw [Operation.search_apply rfl, one, refused jars,
      show Page.resolve byColor.limit byColor.offset _ = _ from first_page jars]
    rfl

end RecordStore
