import RecordStore.Proofs.Engine.Insertion
import RecordStore.Proofs.Sql.Places
import RecordStore.Proofs.Store.Sight

/-!
# Stores that are read

A query leaves what a store shows as it was, and whether the store can be read. So two stores that
are configured alike, that meet the same outages and that can both be read, or both not, stay such
stores. An operation that only queries can tell them apart by nothing but what its queries answer.
-/

namespace RecordStore

open Engine Sql

/-! ### Reading again -/

namespace Engine.Access

variable {access held : Access}

/-- Nothing but the hold of somebody else keeps a connection from reading. -/
theorem for_reading_locked {fault : Fault} (refused : access.forReading = .error fault) :
    fault = .locked := by
  unfold forReading at refused
  simp only at refused
  split at refused
  · cases refused
  · split at refused <;> cases refused
    rfl
  · split at refused <;> cases refused
    rfl

/-- Whoever could read can read again. -/
theorem for_reading_again (granted : access.forReading = .ok held) :
    held.forReading = .ok held := by
  rcases for_reading_ok granted with rfl | ⟨busy, rfl⟩
  · exact granted
  · refine for_reading_self (fun idle => ?_) fun _ => ?_
    · cases busy.symm.trans idle
    · change ((access.withVolume _).volume.hold? access.number).isSome = true
      rw [with_volume_volume, hold?_grant]
      rfl

/-- A query leaves a connection where it was, or with its hold for reading. -/
theorem run_of_select_access (access : Access) (query : Select Stored) :
    (access.run (.select query)).access = access ∨
      access.forReading = .ok (access.run (.select query)).access := by
  rcases run_cases access (.select query) with ⟨fault, refused⟩ | performed
  · exact .inl (by rw [refused])
  · rw [performed]
    exact access.run_select_access (query.mapOperands Stored.bound)

/-- A query leaves what is seen as it was, and whether it can be read. -/
theorem run_select_sight (access : Access) (query : Select Stored) :
    (access.run (.select query)).access.visible = access.visible ∧
      (access.run (.select query)).access.forReading.isOk = access.forReading.isOk := by
  rcases access.run_of_select_access query with same | granted
  · rw [same]
    exact ⟨rfl, rfl⟩
  · refine ⟨(for_reading_visible granted).1, ?_⟩
    rw [for_reading_again granted, granted]

/-- What follows the right to read is the same for all who have it, and for all who do not. -/
theorem for_reading_bind {α : Type} {left right : Access}
    (same : left.forReading.isOk = right.forReading.isOk) (outcome : Except Fault α) :
    (left.forReading.bind fun _ => outcome) = right.forReading.bind fun _ => outcome := by
  cases leftReads : left.forReading with
  | ok leftHeld =>
    cases rightReads : right.forReading with
    | ok rightHeld => rfl
    | error fault => simp [leftReads, rightReads, Except.isOk, Except.toBool] at same
  | error leftFault =>
    cases rightReads : right.forReading with
    | ok rightHeld => simp [leftReads, rightReads, Except.isOk, Except.toBool] at same
    | error rightFault =>
      rw [for_reading_locked leftReads, for_reading_locked rightReads]

/-- A query is answered by what is seen and by whether it can be read. -/
theorem run_select_congr {left right : Access} (seen : left.visible = right.visible)
    (reads : left.forReading.isOk = right.forReading.isOk) (query : Select Stored) :
    (left.run (.select query)).answer = (right.run (.select query)).answer := by
  cases checked : checkSelect left.visible (query.mapOperands Stored.bound) with
  | error fault =>
    have refused : ∀ access : Access, access.visible = left.visible →
        access.run (.select query) = ⟨access, .error fault⟩ := by
      intro access same
      have refuses : access.check (.select (query.mapOperands Stored.bound)) = .error fault := by
        change checkSelect access.visible _ = _
        rw [same]
        exact checked
      unfold run
      simp only [Statement.mapOperands, refuses]
    rw [refused left rfl, refused right seen.symm]
  | ok _ =>
    rw [run_select checked, run_select (seen ▸ checked)]
    cases alone : (query.mapOperands Stored.bound).source.isNone with
    | true =>
      unfold runSelect
      rw [alone, seen]
      rfl
    | false =>
      rw [left.run_select_reads alone, right.run_select_reads alone, seen, for_reading_bind reads]

/-- A query that is answered is answered with what it selects. -/
theorem run_select_selects {query : Select Stored} {answer : Answer}
    (ran : (access.run (.select query)).answer = .ok answer) :
    select access.visible (query.mapOperands Stored.bound) = .ok answer := by
  rcases run_cases access (.select query) with ⟨fault, refused⟩ | performed
  · rw [refused] at ran
    cases ran
  · rw [performed] at ran
    change (access.runSelect (query.mapOperands Stored.bound)).answer = .ok answer at ran
    cases alone : (query.mapOperands Stored.bound).source.isNone with
    | true =>
      unfold runSelect at ran
      rwa [alone] at ran
    | false =>
      rw [access.run_select_reads alone] at ran
      exact (bind_ok ran).choose_spec.2

end Engine.Access

/-! ### Stores that only their databases tell apart -/

namespace Store

/-- No outage strikes the next call if none is to come at all. -/
theorem quiet_of_undisturbed {store : Store} (undisturbed : store.host.outages = []) :
    store.host.outage? = none := by
  simp [Host.outage?, undisturbed]

/-- Whether an open store can be read, or whether somebody else keeps it from being read. -/
def mayRead? (store : Store) : Option Bool := store.access?.map fun access => access.forReading.isOk

/-- An open store shows what its access sees. -/
theorem visible_of_access? {store : Store} {access : Access}
    (opened : store.access? = some access) : store.visible = access.visible := by
  simp [visible, opened]

/-- A store is connected exactly if it can be asked whether it may be read. -/
theorem is_connected_eq_may_read? (store : Store) :
    store.driver.isConnected = store.mayRead?.isSome := by
  simp [mayRead?, access?, Driver.isConnected]

/-- What a query leaves of a store: everything but the outage that struck it and the log. -/
structure IsReadTo (store after : Store) : Prop where
  config : after.driver.config = store.driver.config
  visible : after.visible = store.visible
  mayRead? : after.mayRead? = store.mayRead?
  outages : after.host.outages =
    if store.driver.isConnected then store.host.outages.tail else store.host.outages

/-- Two stores that are configured alike, that meet the same outages, and that can both be read or
both not. -/
structure Alike (left right : Store) : Prop where
  config : left.driver.config = right.driver.config
  outages : left.host.outages = right.host.outages
  mayRead? : left.mayRead? = right.mayRead?

/-- They stay alike while they are read. -/
theorem Alike.read {left right leftAfter rightAfter : Store} (alike : left.Alike right)
    (leftRead : left.IsReadTo leftAfter) (rightRead : right.IsReadTo rightAfter) :
    leftAfter.Alike rightAfter where
  config := by rw [leftRead.config, rightRead.config, alike.config]
  outages := by
    rw [leftRead.outages, rightRead.outages, is_connected_eq_may_read?, is_connected_eq_may_read?,
      alike.mayRead?, alike.outages]
  mayRead? := by rw [leftRead.mayRead?, rightRead.mayRead?, alike.mayRead?]

end Store

namespace Operation

variable {α β : Type}

/-- A query leaves a store in which it can be asked again. -/
theorem answering_is_read_to (query : Select Stored) (store : Store) :
    store.IsReadTo ((answering (.select query)).apply store).2 := by
  rcases on_connection_cases (Statement.select query).render
    (Statement.select query).endsTransaction (fun access => access.run (.select query)) store with
    ⟨closed, ran⟩ | ⟨connection, opened, gone⟩
  · rw [answering, ran]
    have connected : store.driver.isConnected = false := by simp [Driver.isConnected, closed]
    exact ⟨rfl, rfl, rfl, by simp [connected]⟩
  · have connected : store.driver.isConnected = true := by simp [Driver.isConnected, opened]
    have access := Store.access?_of_connection opened
    rcases gone with ⟨outage, -, ran⟩ | ⟨execution, -, ran⟩
    · rw [answering, ran]
      refine ⟨rfl, ?_, ?_, by simp [connected, Store.used]⟩
      · rw [Store.used_visible, Store.visible_of_connection opened]
        rfl
      · unfold Store.mayRead?
        rw [access]
        rfl
    · obtain ⟨seen, reads⟩ := (⟨connection, store.host.disk⟩ : Access).run_select_sight query
      rw [answering, ran]
      refine ⟨rfl, ?_, ?_, by simp [connected, Store.used]⟩
      · rw [Store.used_visible, Store.visible_of_connection opened, seen]
      · unfold Store.mayRead?
        rw [access, Option.map_some, ← reads]
        rfl

/-- Stores that are alike answer a query alike if their connections do. -/
theorem answering_alike {left right : Store} (alike : left.Alike right) (query : Select Stored)
    (answers : ∀ leftAccess ∈ left.access?, ∀ rightAccess ∈ right.access?,
      leftAccess.forReading.isOk = rightAccess.forReading.isOk →
        (leftAccess.run (.select query)).answer = (rightAccess.run (.select query)).answer) :
    ((answering (.select query)).apply left).1 = ((answering (.select query)).apply right).1 := by
  have opens : left.driver.isConnected = right.driver.isConnected := by
    rw [left.is_connected_eq_may_read?, right.is_connected_eq_may_read?, alike.mayRead?]
  have cases' := fun store => on_connection_cases (Statement.select query).render
    (Statement.select query).endsTransaction (fun access => access.run (.select query)) store
  have strikes : left.host.outage? = right.host.outage? := by
    unfold Host.outage?
    rw [alike.outages]
  rcases cases' left with ⟨closed, leftRan⟩ | ⟨leftConnection, leftOpened, leftGone⟩
  · rcases cases' right with ⟨-, rightRan⟩ | ⟨connection, opened, -⟩
    · rw [answering, leftRan, rightRan]
    · simp [Driver.isConnected, closed, opened] at opens
  · rcases cases' right with ⟨closed, -⟩ | ⟨rightConnection, rightOpened, rightGone⟩
    · simp [Driver.isConnected, closed, leftOpened] at opens
    · have leftAccess := Store.access?_of_connection leftOpened
      have rightAccess := Store.access?_of_connection rightOpened
      rcases leftGone with ⟨outage, struck, leftRan⟩ | ⟨leftExecution, clear, leftRan⟩
      · rcases rightGone with ⟨other, struckToo, rightRan⟩ | ⟨execution, clear, -⟩
        · cases (strikes.symm.trans struck).symm.trans struckToo
          rw [answering, leftRan, rightRan]
        · cases (strikes.symm.trans struck).symm.trans clear
      · rcases rightGone with ⟨other, struck, -⟩ | ⟨rightExecution, -, rightRan⟩
        · cases (strikes.symm.trans clear).symm.trans struck
        · rw [answering, leftRan, rightRan]
          have reads := alike.mayRead?
          unfold Store.mayRead? at reads
          rw [leftAccess, rightAccess, Option.map_some, Option.map_some, Option.some.injEq] at reads
          simp only [answers _ leftAccess _ rightAccess reads]

/-- A query that a store answers is one that its connection answers. -/
theorem answering_ok {query : Select Stored} {store : Store} {answer : Answer}
    (answered : ((answering (.select query)).apply store).1 = .ok answer) :
    ∃ access ∈ store.access?, (access.run (.select query)).answer = .ok answer := by
  rcases on_connection_cases (Statement.select query).render
    (Statement.select query).endsTransaction (fun access => access.run (.select query)) store with
    ⟨-, ran⟩ | ⟨connection, opened, ⟨outage, -, ran⟩ | ⟨execution, -, ran⟩⟩
  · rw [answering, ran] at answered
    cases answered
  · rw [answering, ran] at answered
    cases answered
  · rw [answering, ran] at answered
    refine ⟨_, Store.access?_of_connection opened, ?_⟩
    cases outcome : ((⟨connection, store.host.disk⟩ : Access).run (.select query)).answer with
    | error fault =>
      simp only [outcome] at answered
      cases answered
    | ok other =>
      simp only [outcome] at answered
      cases answered
      rfl

/-! ### Operations that query -/

/-- What follows the page of a request sees the page that the driver resolves. -/
theorem page_of_bind (request : Request) (next : Page → Operation α) (store : Store) :
    (pageOf request >>= next).apply store =
      match Page.resolve request.limit request.offset store.driver.config.maxPageSize with
      | .ok page => (next page).apply store
      | .error problem => (.error problem, store) := by
  rw [apply_bind, pageOf, apply_bind, apply_get]
  simp only [apply_of_except]
  cases Page.resolve request.limit request.offset store.driver.config.maxPageSize <;> rfl

/-- What is answered behind a page had the page resolved. -/
theorem page_of_bind_ok {request : Request} {next : Page → Operation α} {store : Store} {result : α}
    (answered : ((pageOf request >>= next).apply store).1 = .ok result) :
    ∃ page, Page.resolve request.limit request.offset store.driver.config.maxPageSize = .ok page ∧
      ((next page).apply store).1 = .ok result := by
  rw [page_of_bind] at answered
  cases resolved : Page.resolve request.limit request.offset store.driver.config.maxPageSize with
  | error problem =>
    rw [resolved] at answered
    cases answered
  | ok page =>
    rw [resolved] at answered
    exact ⟨page, rfl, answered⟩

/-- Counting leaves to be seen what was seen. -/
theorem count_visible {model : Model} (handle : Handle model) (request : Request) (store : Store) :
    ((count handle request).apply store).2.visible = store.visible := by
  have keeps : Keeps (fun other => other.visible = store.visible) (count handle request) :=
    count_keeps (fun query before same => (answering_is_read_to query before).visible.trans same)
      handle request
  exact keeps store rfl

section Answered

variable {model : Model} {handle : Handle model} {request : Request} {store : Store}

/-- A query comes out of a store as it comes out of its connection, unless an outage strikes. -/
theorem answering_outcome (query : Select Stored) {access : Access}
    (quiet : store.host.outage? = none) (opened : store.access? = some access) :
    ((answering (.select query)).apply store).1 =
      (access.run (.select query)).answer.mapError fun fault =>
        .engine fault (Statement.select query).render := by
  rcases on_connection_cases (Statement.select query).render
    (Statement.select query).endsTransaction (fun access => access.run (.select query)) store with
    ⟨closed, -⟩ | ⟨connection, connected, ⟨outage, strikes, -⟩ | ⟨execution, -, asked⟩⟩
  · simp [Store.access?, closed] at opened
  · cases quiet.symm.trans strikes
  · cases (Store.access?_of_connection connected).symm.trans opened
    rw [answering, asked]

/-- A query that the engine answers is answered by a store that no outage strikes. -/
theorem answering_run {query : Select Stored} {access : Access} {answer : Answer}
    (quiet : store.host.outage? = none) (opened : store.access? = some access)
    (ran : (access.run (.select query)).answer = .ok answer) :
    ((answering (.select query)).apply store).1 = .ok answer := by
  rw [answering_outcome query quiet opened, ran]
  rfl

/-- A query that a store answers is answered with what it selects. -/
theorem answering_selects {query : Select Stored} {answer : Answer}
    (answered : ((answering (.select query)).apply store).1 = .ok answer) :
    select store.visible (query.mapOperands Stored.bound) = .ok answer := by
  obtain ⟨access, opened, ran⟩ := answering_ok answered
  rw [Store.visible_of_access? opened]
  exact Access.run_select_selects ran

/-- What counting answers is the number in the answer of its query. -/
theorem count_ok {total : Int64} (counted : ((count handle request).apply store).1 = .ok total) :
    ∃ query answer, request.counting handle.table = .ok query ∧
      ((answering (.select query)).apply store).1 = .ok answer ∧ total = answer.number := by
  obtain ⟨query, made, counted⟩ := of_except_bind_ok counted
  obtain ⟨answer, after, answered, ended⟩ := bind_apply_ok counted
  cases ended
  exact ⟨query, answer, made, congrArg Prod.fst answered, rfl⟩

/-- Counting comes out as its query does. -/
theorem count_apply {query : Select Stored} (made : request.counting handle.table = .ok query) :
    ((count handle request).apply store).1 =
      ((answering (.select query)).apply store).1.map Answer.number := by
  rw [count, made, apply_bind, apply_of_except]
  simp only
  rw [apply_bind]
  rcases (answering (.select query)).apply store with ⟨outcome, after⟩
  cases outcome <;> rfl

/-- What finding a page answers are the entities of the answer of its query. -/
theorem find_page_ok {page : Page} {entities : List (Entity model)}
    (found : ((findPage handle request page).apply store).1 = .ok entities) :
    ∃ query answer, request.finding handle.table page = .ok query ∧
      ((answering (.select query)).apply store).1 = .ok answer ∧
      loadAll handle.table answer = .ok entities := by
  obtain ⟨query, made, found⟩ := of_except_bind_ok found
  obtain ⟨answer, after, answered, loads⟩ := bind_apply_ok found
  exact ⟨query, answer, made, congrArg Prod.fst answered, loads⟩

/-- Finding a page loads the rows that its query is answered with. -/
theorem find_page_apply {page : Page} {query : Select Stored} {answer : Answer}
    (made : request.finding handle.table page = .ok query)
    (answered : ((answering (.select query)).apply store).1 = .ok answer) :
    ((findPage handle request page).apply store).1 = loadAll handle.table answer := by
  rw [findPage, made, apply_bind, apply_of_except]
  simp only [fetching]
  rw [apply_bind]
  rcases ran : (answering (.select query)).apply store with ⟨outcome, after⟩
  rw [ran] at answered
  cases answered
  rfl

/-- What finding answers is what finding a page answers. -/
theorem find_ok {entities : List (Entity model)}
    (found : ((find handle request).apply store).1 = .ok entities) :
    ∃ page, Page.resolve request.limit request.offset store.driver.config.maxPageSize = .ok page ∧
      ((findPage handle request page).apply store).1 = .ok entities :=
  page_of_bind_ok found

/-- What searching answers are no entities, or what finding a page answers where the same is
seen. -/
theorem search_ok {answer : SearchPage model}
    (found : ((search handle request).apply store).1 = .ok answer) :
    answer.entities = [] ∨ ∃ page counted,
      Page.resolve request.limit request.offset store.driver.config.maxPageSize = .ok page ∧
      counted.visible = store.visible ∧
      ((findPage handle request page).apply counted).1 = .ok answer.entities := by
  obtain ⟨page, resolved, found⟩ := page_of_bind_ok found
  obtain ⟨total, counted, countRan, found⟩ := bind_apply_ok found
  by_cases behind : total ≤ page.offset
  · simp only [behind, if_true] at found
    cases found
    exact .inl rfl
  · simp only [behind, if_false] at found
    obtain ⟨entities, after, pageRan, ended⟩ := bind_apply_ok found
    cases ended
    refine .inr ⟨page, counted, resolved, ?_, congrArg Prod.fst pageRan⟩
    have kept : ((count handle request).apply store).2.visible = store.visible :=
      count_visible handle request store
    rwa [countRan] at kept

end Answered

/-! ### Operations that cannot tell stores apart -/

/-- An operation is blind to a relation of stores if it goes in the same way in related stores and
leaves related stores. -/
def IsBlindTo (Related : Store → Store → Prop) (operation : Operation α) : Prop :=
  ∀ left right, Related left right →
    (operation.apply left).1 = (operation.apply right).1 ∧
      Related (operation.apply left).2 (operation.apply right).2

namespace IsBlindTo

variable {Related : Store → Store → Prop}

/-- An answer by itself does not see the store. -/
theorem pure (answer : α) : IsBlindTo Related (Pure.pure answer : Operation α) :=
  fun _ _ related => ⟨rfl, related⟩

/-- Neither does an outcome. -/
theorem of_except (outcome : Except StoreError α) :
    IsBlindTo Related (Operation.ofExcept outcome) :=
  fun _ _ related => ⟨rfl, related⟩

/-- Operations that are blind to a relation are blind to it one after the other. -/
theorem bind {first : Operation α} {next : α → Operation β} (begins : IsBlindTo Related first)
    (continues : ∀ answer, IsBlindTo Related (next answer)) :
    IsBlindTo Related (first >>= next) := by
  intro left right related
  obtain ⟨same, relatedAfter⟩ := begins left right related
  rw [apply_bind, apply_bind]
  rcases leftRan : first.apply left with ⟨leftResult, leftAfter⟩
  rcases rightRan : first.apply right with ⟨rightResult, rightAfter⟩
  rw [leftRan, rightRan] at same relatedAfter
  cases same
  cases leftResult with
  | error problem => exact ⟨rfl, relatedAfter⟩
  | ok answer => exact continues answer leftAfter rightAfter relatedAfter

/-- What follows an outcome needs to be blind only if there is one to go on with. -/
theorem of_except_bind {outcome : Except StoreError α} {next : α → Operation β}
    (continues : ∀ answer, outcome = .ok answer → IsBlindTo Related (next answer)) :
    IsBlindTo Related (Operation.ofExcept outcome >>= next) := by
  intro left right related
  rw [apply_bind, apply_bind, apply_of_except, apply_of_except]
  cases outcome with
  | error problem => exact ⟨rfl, related⟩
  | ok answer => exact continues answer rfl left right related

end IsBlindTo

end Operation

end RecordStore
