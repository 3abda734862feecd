import RecordStore.Store.Transaction

/-!
# Laws of operations

What the ways of putting operations together do to a store. An operation that follows
another one runs on the store that the first one left, and only if the first one answered;
nothing is undone by a failure. These laws are all that later proofs know about the monad in
which operations are written.
-/

namespace RecordStore.Operation

variable {α β : Type}

/-- What follows an operation sees its answer and the store that it left. A failure passes
everything that follows. -/
theorem apply_bind (first : Operation α) (next : α → Operation β) (store : Store) :
    (first >>= next).apply store =
      match first.apply store with
      | (.ok answer, after) => (next answer).apply after
      | (.error problem, after) => (.error problem, after) := by
  change (ExceptT.run (first >>= next)).run store = _
  simp only [apply, ExceptT.run_bind, StateT.run_bind]
  rcases (ExceptT.run first).run store with ⟨result, after⟩
  cases result <;> rfl

/-- An answer by itself leaves the store. -/
@[simp] theorem apply_pure (answer : α) (store : Store) :
    (pure answer : Operation α).apply store = (.ok answer, store) := rfl

/-- A refusal by itself leaves the store. -/
@[simp] theorem apply_throw (problem : StoreError) (store : Store) :
    (throw problem : Operation α).apply store = (.error problem, store) := rfl

/-- Reading the store answers with it. -/
@[simp] theorem apply_get (store : Store) :
    (get : Operation Store).apply store = (.ok store, store) := rfl

/-- An operation that is an act on stores acts so. -/
@[simp] theorem apply_of (act : Store → Except StoreError α × Store) (store : Store) :
    (of act).apply store = act store := rfl

/-- An outcome by itself leaves the store. -/
@[simp] theorem apply_of_except (outcome : Except StoreError α) (store : Store) :
    (ofExcept outcome).apply store = (outcome, store) := rfl

/-- Work within another operation is that work. -/
@[simp] theorem apply_within (operation : Operation α) (store : Store) :
    Operation.apply (within operation) store = operation.apply store := rfl

/-- Work that is attempted always answers, be it with its failure. -/
@[simp] theorem apply_attempt (operation : Operation α) (store : Store) :
    Operation.apply (attempt operation) store =
      (Except.ok (operation.apply store).1, (operation.apply store).2) := rfl

/-- An operation with an answer leaves the store behind that it leaves behind. -/
theorem apply_of_answer {operation : Operation α} {store : Store} {answer : α}
    (answered : (operation.apply store).1.toOption = some answer) :
    operation.apply store = (.ok answer, (operation.apply store).2) := by
  rcases ran : operation.apply store with ⟨problem | found, after⟩
  · rw [ran] at answered
    cases answered
  · rw [ran] at answered
    cases answered
    rfl

/-- An operation that has nothing to tell leaves a store behind if it does not fail. -/
theorem apply_of_is_ok {operation : Operation Unit} {store : Store}
    (answered : (operation.apply store).1.isOk = true) :
    operation.apply store = (.ok (), (operation.apply store).2) := by
  rcases ran : operation.apply store with ⟨problem | ⟨⟩, after⟩
  · rw [ran] at answered
    cases answered
  · rfl

/-- A property of stores that both parts of a composition keep is kept by the composition. -/
theorem bind_keeps {Invariant : Store → Prop} {first : Operation α} {next : α → Operation β}
    {store : Store} (kept : Invariant (first.apply store).2)
    (continued : ∀ answer after, first.apply store = (.ok answer, after) → Invariant after →
      Invariant ((next answer).apply after).2) :
    Invariant ((first >>= next).apply store).2 := by
  rw [apply_bind]
  rcases found : first.apply store with ⟨result, after⟩
  rw [found] at kept
  cases result with
  | error problem => exact kept
  | ok answer => exact continued answer after found kept

/-- An operation that follows another one and is answered ran on the store which that one left when
it was answered. -/
theorem bind_answered {first : Operation α} {next : α → Operation β} {store after : Store}
    {result : β} (answered : (first >>= next).apply store = (.ok result, after)) :
    ∃ answer between, first.apply store = (.ok answer, between) ∧
      (next answer).apply between = (.ok result, after) := by
  rw [apply_bind] at answered
  rcases ran : first.apply store with ⟨problem | answer, between⟩
  · rw [ran] at answered
    cases answered
  · rw [ran] at answered
    exact ⟨answer, between, rfl, answered⟩

/-- A failure of two operations is one of the first, or of the second where the first left off. -/
theorem bind_failed {first : Operation α} {next : α → Operation β} {store after : Store}
    {problem : StoreError} (failed : (first >>= next).apply store = (.error problem, after)) :
    first.apply store = (.error problem, after) ∨
    ∃ answer between, first.apply store = (.ok answer, between) ∧
      (next answer).apply between = (.error problem, after) := by
  rw [apply_bind] at failed
  rcases ran : first.apply store with ⟨fault | answer, between⟩
  · rw [ran] at failed
    cases failed
    exact .inl rfl
  · rw [ran] at failed
    exact .inr ⟨answer, between, rfl, failed⟩

/-- What an operation answers that follows an outcome or another operation. -/
theorem bind_apply_ok {first : Operation α} {next : α → Operation β} {store : Store}
    {result : β} (answered : ((first >>= next).apply store).1 = .ok result) :
    ∃ answer after, first.apply store = (.ok answer, after) ∧
      ((next answer).apply after).1 = .ok result := by
  obtain ⟨answer, between, ran, continued⟩ := bind_answered (Prod.ext answered rfl)
  exact ⟨answer, between, ran, congrArg Prod.fst continued⟩

/-- What is answered behind an outcome had its answer first. -/
theorem of_except_bind_ok {outcome : Except StoreError α} {next : α → Operation β}
    {store : Store} {result : β}
    (answered : ((ofExcept outcome >>= next).apply store).1 = .ok result) :
    ∃ answer, outcome = .ok answer ∧ ((next answer).apply store).1 = .ok result := by
  obtain ⟨answer, after, ran, answered⟩ := bind_apply_ok answered
  obtain ⟨same, rfl⟩ := Prod.mk.inj ran
  exact ⟨answer, same, answered⟩

/-! ### Loops -/

section Loops

variable {Item : Type} {work : Item → Operation PUnit} {item : Item} {items : List Item}
  {store after : Store}

/-- A loop that is answered is answered for its first item and then for the others. -/
theorem for_m_cons_answered (answered : ((item :: items).forM work).apply store = (.ok ⟨⟩, after)) :
    ∃ between, (work item).apply store = (.ok ⟨⟩, between) ∧
      (items.forM work).apply between = (.ok ⟨⟩, after) := by
  obtain ⟨⟨⟩, between, first, others⟩ := bind_answered answered
  exact ⟨between, first, others⟩

end Loops

/-! ### Transactions that are begun for work -/

/-- Work in a transaction that is begun for it. -/
def inOwnTransaction (work : Operation α) : Operation α := do
  begin
  match ← attempt work with
  | .ok answer =>
    commit
    return answer
  | .error problem =>
    tryRollback
    throw problem

/-- What comes of the work decides how its transaction ends. -/
theorem apply_in_own_transaction (work : Operation α) (store : Store) :
    (inOwnTransaction work).apply store =
      match begin.apply store with
      | (.error problem, after) => (.error problem, after)
      | (.ok _, opened) =>
        match work.apply opened with
        | (.ok answer, worked) =>
          ((commit.apply worked).1.map fun _ => answer, (commit.apply worked).2)
        | (.error problem, failed) => (.error problem, (tryRollback.apply failed).2) := by
  rw [inOwnTransaction, apply_bind]
  rcases begin.apply store with ⟨problem | ⟨⟩, opened⟩
  · rfl
  · simp only
    rw [apply_bind, apply_attempt]
    rcases work.apply opened with ⟨problem | answer, left⟩
    · rfl
    · simp only
      rw [apply_bind]
      rcases commit.apply left with ⟨problem | ⟨⟩, final⟩ <;> rfl

/-- Work outside of a transaction gets one of its own. -/
theorem atomically_unflagged {store : Store} (unflagged : store.driver.inTransaction = false)
    (work : Operation α) : (atomically work).apply store = (inOwnTransaction work).apply store := by
  rw [atomically, apply_bind]
  simp only [apply_get, unflagged, Bool.false_eq_true, if_false]
  rfl

/-- Work inside of a transaction joins it. -/
theorem atomically_flagged {store : Store} (flagged : store.driver.inTransaction = true)
    (work : Operation α) : (atomically work).apply store = work.apply store := by
  rw [atomically, apply_bind]
  simp only [apply_get, flagged, if_true]

/-- Work that is answered in a transaction of its own was answered inside of it, and then
committed. -/
theorem in_own_transaction_answered {work : Operation α} {store after : Store} {answer : α}
    (answered : (inOwnTransaction work).apply store = (.ok answer, after)) :
    ∃ opened worked, begin.apply store = (.ok (), opened) ∧
      work.apply opened = (.ok answer, worked) ∧ commit.apply worked = (.ok (), after) := by
  rw [apply_in_own_transaction] at answered
  rcases begun : begin.apply store with ⟨problem | ⟨⟩, opened⟩
  · rw [begun] at answered
    cases answered
  · simp only [begun] at answered
    rcases ran : work.apply opened with ⟨problem | given, worked⟩
    · rw [ran] at answered
      cases answered
    · simp only [ran] at answered
      rcases committed : commit.apply worked with ⟨problem | ⟨⟩, final⟩
      · rw [committed] at answered
        cases answered
      · rw [committed] at answered
        cases answered
        exact ⟨opened, worked, rfl, ran, committed⟩

/-- Work that fails in a transaction of its own could not be begun for, failed inside of it, or
could not be committed. -/
theorem in_own_transaction_failed {work : Operation α} {store after : Store} {problem : StoreError}
    (failed : (inOwnTransaction work).apply store = (.error problem, after)) :
    begin.apply store = (.error problem, after) ∨
    ∃ opened, begin.apply store = (.ok (), opened) ∧
      ((∃ worked, work.apply opened = (.error problem, worked) ∧
          after = (tryRollback.apply worked).2) ∨
        ∃ answer worked, work.apply opened = (.ok answer, worked) ∧
          commit.apply worked = (.error problem, after)) := by
  rw [apply_in_own_transaction] at failed
  rcases begun : begin.apply store with ⟨fault | ⟨⟩, opened⟩
  · rw [begun] at failed
    cases failed
    exact .inl rfl
  · refine .inr ⟨opened, rfl, ?_⟩
    simp only [begun] at failed
    rcases ran : work.apply opened with ⟨fault | answer, worked⟩
    · rw [ran] at failed
      cases failed
      exact .inl ⟨worked, rfl, rfl⟩
    · simp only [ran] at failed
      rcases committed : commit.apply worked with ⟨fault | ⟨⟩, final⟩
      · rw [committed] at failed
        cases failed
        exact .inr ⟨answer, worked, rfl, committed⟩
      · rw [committed] at failed
        cases failed

end RecordStore.Operation
