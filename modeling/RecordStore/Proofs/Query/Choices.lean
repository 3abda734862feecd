import RecordStore.Proofs.Query.Enforced
import RecordStore.Proofs.Query.Search
import RecordStore.Proofs.Query.WellFormed

/-!
# Choosing among values

A membership asks whether a column equals one of some values. It finds the rows that equalities with
these values find, one after the other, except for null: an equality with null finds the rows that
have no value there, and a membership finds none of them, whatever is chosen from.
-/

namespace RecordStore

open Engine Sql

namespace Request

/-- The request for the rows whose column is one of some values. -/
def choosing (column : String) (operands : List Value) : Request where
  criteria := some (Criteria.empty.oneOf column operands)

/-- The request for the rows whose column equals a value. -/
def equalling (column : String) (operand : Value) : Request where
  criteria := some (Criteria.empty.compare .equal column operand)

end Request

/-! ### What a row meets -/

/-- A value that is chosen from relates to a row as an equality does, unless it is null. -/
theorem Operator.relates_one_of (column : String) (affinity : Affinity) (value : Stored)
    (operand : Value) :
    Operator.oneOf.relates affinity value operand =
      (!operand.isNull && Demand.isMetBy affinity value ⟨column, .equal, [operand]⟩) := by
  cases operand with
  | null => cases value <;> rfl
  | integer | float | text | blob | bit | date => rfl

example : Operator.oneOf.relates .integer .null .null = false := by decide +kernel

namespace Request

variable {table : Table} {values : List Stored} {column : String} {operands : List Value}

/-- A request for one comparison is met by the rows that meet the comparison. -/
theorem is_met_in_of_comparison (operator : Operator) :
    isMetIn table values { criteria := some ⟨[(operator.key, .list (.text column :: operands))]⟩ } =
      Demand.isMetIn table values ⟨column, operator, operands⟩ := by
  simp [isMetIn, Criteria.isMetIn, Criteria.Call.of_entry?_comparison]

/-- A choice is met if an equality with one of its values is met that is not null. -/
theorem choosing_is_met_in : (choosing column operands).isMetIn table values =
    operands.any fun operand => !operand.isNull &&
      (equalling column operand).isMetIn table values := by
  have equalities : ∀ operand, (equalling column operand).isMetIn table values =
      Demand.isMetIn table values ⟨column, .equal, [operand]⟩ := fun _ =>
        is_met_in_of_comparison .equal
  simp only [equalities]
  exact (is_met_in_of_comparison .oneOf).trans
    (congrArg operands.any (funext (Operator.relates_one_of column _ _)))

/-- What equals null is met by no choice. -/
theorem choosing_is_met_in_of_null
    (missing : (equalling column .null).isMetIn table values = true) :
    (choosing column operands).isMetIn table values = false := by
  have same : (equalling column .null).isMetIn table values =
    (table.valueOf values column).isNull :=
    is_met_in_of_comparison .equal
  have null : (table.valueOf values column).isNull = true := same.symm.trans missing
  refine (is_met_in_of_comparison .oneOf).trans (List.any_eq_false.mpr fun operand _ => ?_)
  simp [Operator.relates, null]

end Request

/-! ### What compiles -/

namespace Request

variable {table : Table} {column : String} {operands : List Value}

/-- A request for one comparison compiles if its column is one of the table and its operands are
such as the comparison takes. -/
theorem finding_of_comparison (plain : table.HasPlainColumns) (operator : Operator) (page : Page) :
    (∃ query, finding { criteria := some ⟨[(operator.key, .list (.text column :: operands))]⟩ }
        table page = .ok query) ↔
      column ∈ table.columnNames ∧ operator.Takes operands := by
  rw [(finding_judges _ plain page).exists_ok_iff]
  constructor
  · intro ⟨wellFormed, _⟩
    have allowed := (wellFormed.criteria _ rfl).2 _ List.mem_cons_self
    obtain ⟨_, _, ⟨⟩, known, takes⟩ := (Table.allows_entry_comparison plain).mp allowed
    exact ⟨known, takes⟩
  · intro ⟨known, takes⟩
    have allowed : table.AllowsEntry (operator.key, .list (.text column :: operands)) :=
      (Table.allows_entry_comparison plain).mpr ⟨column, operands, rfl, known, takes⟩
    refine ⟨⟨?_, nofun, nofun⟩, nofun⟩
    rintro _ ⟨⟩
    exact ⟨List.cons_ne_nil _ _, by simpa using allowed⟩

/-- A choice among some values compiles exactly if the table has its column. -/
theorem choosing_compiles (plain : table.HasPlainColumns) (nonempty : operands ≠ []) (page : Page) :
    (∃ query, (choosing column operands).finding table page = .ok query) ↔
      column ∈ table.columnNames :=
  (finding_of_comparison plain .oneOf page).trans (and_iff_left nonempty)

/-- An equality compiles exactly if the table has its column. -/
theorem equalling_compiles (plain : table.HasPlainColumns) (operand : Value) (page : Page) :
    (∃ query, (equalling column operand).finding table page = .ok query) ↔
      column ∈ table.columnNames :=
  (finding_of_comparison plain .equal page).trans (and_iff_left ⟨operand, rfl⟩)

/-- A plain request that compiles is answered by the rows that meet it. -/
theorem exists_is_answered_by {request : Request} {access : Access} {relation : Relation}
    (faultless : table.fault? = none) (held : table.IsReadIn access.visible relation)
    (plain : request.term = none) {page : Page}
    (compiles : ∃ query, request.finding table page = .ok query) :
    ∃ listing : List Row,
      listing.Perm (relation.rows.filter fun row => request.isMetIn table row.values) ∧
      request.IsAnsweredBy table access listing := by
  obtain ⟨query, compiled⟩ := compiles
  obtain ⟨listing, perm, -, pages, counts⟩ := plain_answers faultless held plain compiled
  refine ⟨listing, perm, counts, fun page query notNegative made => ?_⟩
  obtain ⟨other, madeToo, answered⟩ := pages page notNegative
  cases made.symm.trans madeToo
  exact answered

end Request

/-- Choosing among values joins the equalities with them, but for null. A choice and the equalities
with its values compile for the same columns. The rows that answer the choice are those that answer
the equality with one of the values that is not null. The rows that answer the equality with null
are never among them, so the choice joins all its equalities exactly if null is not one of its
values or there are no such rows.

Proof: both kinds of requests are answered by the rows that meet them. A row meets the choice
exactly if its value equals one of those that are not null, and it meets the equality with null
exactly if its value is null, so it cannot meet both. -/
theorem choosing_joins_equalities {tables : List Table} {schema : Schema} {table : Table}
    {access : Access} {relation : Relation} {column : String} {operands : List Value}
    (accepted : Schema.ofTables tables = .ok schema) (member : table ∈ schema.tables)
    (found : access.visible.relation? table.name = some relation)
    (held : table.IsHeldAs relation) (nonempty : operands ≠ []) :
    (∀ page, (∃ query, (Request.choosing column operands).finding table page = .ok query) ↔
      column ∈ table.columnNames) ∧
    (∀ operand page, (∃ query, (Request.equalling column operand).finding table page = .ok query) ↔
      column ∈ table.columnNames) ∧
    (column ∈ table.columnNames → ∃ (chosen : List Row) (equal : Value → List Row),
      (Request.choosing column operands).IsAnsweredBy table access chosen ∧
      (∀ operand, (Request.equalling column operand).IsAnsweredBy table access (equal operand) ∧
        (equal operand).Perm (relation.rows.filter fun row =>
          (Request.equalling column operand).isMetIn table row.values)) ∧
      chosen.Perm (relation.rows.filter fun row =>
        decide (∃ operand ∈ operands, operand ≠ .null ∧ row ∈ equal operand)) ∧
      (∀ row ∈ equal .null, row ∉ chosen) ∧
      (chosen.Perm (relation.rows.filter fun row =>
          decide (∃ operand ∈ operands, row ∈ equal operand)) ↔
        (.null ∈ operands → equal .null = []))) := by
  have faultless := Schema.of_tables_fault? accepted table member
  have plain := Table.has_plain_columns_of_fault? faultless
  have read := held.is_read_in found
  refine ⟨Request.choosing_compiles plain nonempty, Request.equalling_compiles plain,
    fun known => ?_⟩
  obtain ⟨chosen, chosenPerm, chosenAnswers⟩ := Request.exists_is_answered_by faultless read rfl
    ((Request.choosing_compiles plain nonempty ⟨0, 0⟩).mpr known)
  have each : ∀ operand, _ := fun operand => Request.exists_is_answered_by faultless read rfl
    ((Request.equalling_compiles plain operand ⟨0, 0⟩).mpr known)
  choose equal equalPerm equalAnswers using each
  have memEqual : ∀ operand, ∀ row, row ∈ equal operand ↔ row ∈ relation.rows ∧
      (Request.equalling column operand).isMetIn table row.values = true := fun operand row =>
    (equalPerm operand).mem_iff.trans List.mem_filter
  have joined : chosen.Perm (relation.rows.filter fun row =>
      decide (∃ operand ∈ operands, operand ≠ .null ∧ row ∈ equal operand)) := by
    refine chosenPerm.trans (.of_eq (List.filter_congr fun row among => ?_))
    rw [Request.choosing_is_met_in, Bool.eq_iff_iff, List.any_eq_true, decide_eq_true_iff]
    refine exists_congr fun operand => and_congr_right fun _ => ?_
    rw [memEqual, Bool.and_eq_true, Bool.not_eq_true', ← Bool.not_eq_true, Demand.is_null_iff]
    exact and_congr_right fun _ => (and_iff_right among).symm
  have apart : ∀ row ∈ equal .null, row ∉ chosen := by
    intro row missing choice
    have meets := (List.mem_filter.mp (chosenPerm.mem_iff.mp choice)).2
    rw [Request.choosing_is_met_in_of_null ((memEqual .null row).mp missing).2] at meets
    cases meets
  refine ⟨chosen, equal, chosenAnswers, fun operand => ⟨equalAnswers operand, equalPerm operand⟩,
    joined, apart, fun all given => ?_, fun noneMissing => ?_⟩
  · refine List.eq_nil_iff_forall_not_mem.mpr fun row missing => apart row missing ?_
    refine all.mem_iff.mpr (List.mem_filter.mpr ⟨((memEqual .null row).mp missing).1, ?_⟩)
    exact decide_eq_true ⟨.null, given, missing⟩
  · refine joined.trans (.of_eq (List.filter_congr fun row _ => ?_))
    refine decide_eq_decide.mpr (exists_congr fun operand => and_congr_right fun given => ?_)
    refine ⟨And.right, fun equals => ⟨?_, equals⟩⟩
    rintro rfl
    rw [noneMissing given] at equals
    cases equals

namespace Pantry

/-- The jar that was weighed. -/
def plums : Row := ⟨1, [.text "plums", .integer 300]⟩

/-- The jar that was not weighed. -/
def pears : Row := ⟨3, [.text "pears", .null]⟩

/-- What a request for jars is answered with, if it compiles. -/
def answerTo (request : Request) : Option (Except Fault Answer) :=
  ((request.finding jar ⟨10, 0⟩).toOption).map fun query =>
    (access.runText query.fragment.text query.fragment.operands).answer

/-- A plain request that one jar meets is answered with that jar. -/
theorem answer_to_of_alone {request : Request} {row : Row} (plain : request.term = none)
    (compiles : (request.finding jar ⟨10, 0⟩).isOk = true)
    (alone : (jars.rows.filter fun row => request.isMetIn jar row.values) = [row]) :
    answerTo request = some (.ok ⟨jar.columnNames, [row.values]⟩) := by
  obtain ⟨found, held⟩ := jars_held
  obtain ⟨query, made⟩ := exists_of_is_ok compiles
  obtain ⟨listing, perm, answers⟩ := Request.exists_is_answered_by
    (Schema.of_tables_fault? jar_accepted jar List.mem_cons_self) (held.is_read_in found) plain
      ⟨query, made⟩
  rw [alone] at perm
  obtain rfl := List.perm_singleton.mp perm
  obtain ⟨reading, reads⟩ := exists_of_is_ok (show access.forReading.isOk = true by decide +kernel)
  have answered := answers.pages ⟨10, 0⟩ query (by decide) made
  rw [reads] at answered
  simp only [answerTo, made, Except.toOption, Option.map_some, answered]
  rfl

end Pantry

open Pantry in
/-- The jars of three hundred grams or of none known are the plums alone: the pears are found by
their missing weight, but not chosen by it. -/
theorem jars_are_chosen_by_weight :
    access.visible.relation? jar.name = some jars ∧ jar.IsHeldAs jars ∧
      ∃ (chosen : List Row) (equal : Value → List Row),
        (Request.choosing "grams" [.null, .integer 300]).IsAnsweredBy jar access chosen ∧
        (∀ operand, (Request.equalling "grams" operand).IsAnsweredBy jar access (equal operand)) ∧
        equal .null = [pears] ∧ equal (.integer 300) = [plums] ∧ chosen = [plums] := by
  obtain ⟨found, held⟩ := jars_held
  obtain ⟨-, -, joins⟩ := choosing_joins_equalities jar_accepted List.mem_cons_self found held
    (List.cons_ne_nil .null [.integer 300])
  obtain ⟨chosen, equal, answers, each, joined, -, -⟩ :=
    joins (show "grams" ∈ jar.columnNames by decide)
  have missing : equal .null = [pears] :=
    List.perm_singleton.mp ((each .null).2.trans (.of_eq (by decide +kernel)))
  have weighed : equal (.integer 300) = [plums] :=
    List.perm_singleton.mp ((each (.integer 300)).2.trans (.of_eq (by decide +kernel)))
  refine ⟨found, held, chosen, equal, answers, fun operand => (each operand).1, missing,
    weighed, ?_⟩
  have chosenPlums : (jars.rows.filter fun row => decide (∃ operand ∈ [Value.null, .integer 300],
      operand ≠ .null ∧ row ∈ equal operand)) = [plums] := by
    have alone : ∀ row, (∃ operand ∈ [Value.null, .integer 300],
        operand ≠ .null ∧ row ∈ equal operand) ↔ row = plums := by
      simp [weighed]
    simp only [alone]
    decide +kernel
  rw [chosenPlums] at joined
  exact List.perm_singleton.mp joined

open Pantry in
/-- A choice does not join the equalities with its values if null is one of them. -/
theorem choice_passes_over_the_pears :
    answerTo (Request.equalling "grams" .null) =
        some (.ok ⟨["content", "grams"], [pears.values]⟩) ∧
      answerTo (Request.choosing "grams" [.null, .integer 300]) =
        some (.ok ⟨["content", "grams"], [plums.values]⟩) ∧
      pears.values ∉ [plums.values] :=
  ⟨answer_to_of_alone rfl (by decide +kernel) (by decide +kernel),
    answer_to_of_alone rfl (by decide +kernel) (by decide +kernel), by decide⟩

end RecordStore
