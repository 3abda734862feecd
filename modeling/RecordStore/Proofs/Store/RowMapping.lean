import RecordStore.Proofs.Store.Drafts

/-!
# How an entity becomes a row

Drawing visits the columns of a row one after the other. It asks each generator once, with the count
that the generator before it left, and puts what it gives into the entity. The first value that its
field refuses ends the drawing; nothing behind it is asked or put. A missing value ends nothing: all
columns that must hold a value and have none are named together.

What is said here holds of every table, also of one whose columns share names. There a column
without generator shows what a generator before it put under its name.
-/

namespace RecordStore

variable {model : Model}

/-- What a model holds for a value that is put under a name: what the field of the name makes of it.
A name without field takes nothing. -/
def Model.take (model : Model) (name : String) (value : Value) : Except StoreError Value :=
  match model.typeOf? name with
  | some type => type.convert value
  | none => .error (.unknownColumn model.tableName name)

/-- What the generators of columns give when each is asked once, in the order of the columns and
from a count on, and the count that the last of them leaves. -/
def Column.asked : List Column → Nat → List (Column × Value) × Nat
  | [], count => ([], count)
  | column :: rest, count =>
    match column.generator with
    | none => asked rest count
    | some generator =>
      let later := asked rest (generator count).2
      ((column, (generator count).1) :: later.1, later.2)

namespace Entity

/-- What stands under a name after values were put into an entity one after the other: what the
model made of the last of them that was put under the name, or what the entity held if none was. -/
def Shows (entity : Entity model) (put : List (Column × Value)) (name : String) (held : Value) :
    Prop :=
  (held = entity.get name ∧ ∀ entry ∈ put, entry.1.name ≠ name) ∨
    ∃ earlier entry later, put = earlier ++ entry :: later ∧ entry.1.name = name ∧
      model.take name entry.2 = .ok held ∧ ∀ other ∈ later, other.1.name ≠ name

variable {entity next : Entity model} {put : List (Column × Value)} {name : String}
  {value held : Value}

/-- Nothing was put, so everything stands as it stood. -/
theorem Shows.nothing (entity : Entity model) (name : String) :
    entity.Shows [] name (entity.get name) :=
  .inl ⟨rfl, fun _ member => absurd member List.not_mem_nil⟩

/-- A model takes what the cell of the name takes. -/
theorem take_eq (entity : Entity model) (name : String) (value : Value) :
    model.take name value = match entity.cells.find? fun cell => cell.name == name with
      | some cell => cell.field.type.convert value
      | none => .error (.unknownColumn model.tableName name) := by
  unfold Model.take
  rw [← entity.find?_cell]
  cases entity.cells.find? fun cell => cell.name == name with
  | none => rfl
  | some cell => rfl

/-- An entity takes what its model takes, and holds then what the model makes of it. -/
theorem set_value (entity : Entity model) (name : String) (value : Value) :
    (entity.set name value).map (fun next => next.get name) = model.take name value := by
  have assigned := Cell.assign_value model.tableName name value entity.cells
  rw [take_eq entity]
  unfold set
  split
  · rename_i cells accepted
    rw [accepted] at assigned
    exact assigned
  · rename_i problem refused
    rw [refused] at assigned
    exact assigned

/-- What was put under a name is what the model takes for it. -/
theorem take_of_set (puts : entity.set name value = .ok next) :
    model.take name value = .ok (next.get name) := by
  rw [← set_value entity, puts]
  rfl

/-- What was refused under a name is what the model refuses there. -/
theorem take_of_refused {problem : StoreError} (refused : entity.set name value = .error problem) :
    model.take name value = .error problem := by
  rw [← set_value entity, refused]
  rfl

/-- What stands there after one value was put, and then others. -/
theorem Shows.after {column : Column} (puts : entity.set column.name value = .ok next)
    (shows : next.Shows put name held) : entity.Shows ((column, value) :: put) name held := by
  obtain ⟨-, kept⟩ := set_ok puts
  rcases shows with ⟨rfl, untouched⟩ | ⟨earlier, entry, later, rfl, named, taken, last⟩
  · by_cases here : column.name = name
    · subst here
      exact .inr ⟨[], (column, value), put, rfl, rfl, take_of_set puts, untouched⟩
    · refine .inl ⟨kept name (Ne.symm here), fun entry member => ?_⟩
      rcases List.mem_cons.mp member with rfl | behind
      · exact here
      · exact untouched entry behind
  · exact .inr ⟨(column, value) :: earlier, entry, later, rfl, named, taken, last⟩

end Entity

/-- The value of a column behind others: what its generator gives when it is asked after theirs, or
what stands in the entity when they are done. -/
def Column.IsDrawnAs (column : Column) (before : List Column) (entity : Entity model) (count : Nat)
    (value : Value) : Prop :=
  match column.generator with
  | some generator => value = (generator (Column.asked before count).2).1
  | none => entity.Shows (Column.asked before count).1 column.name value

/-- Values that are drawn for columns: one for each of them, in their order. -/
structure Entity.IsDrawn (entity : Entity model) (columns : List Column) (count : Nat)
    (values : List (Column × Value)) : Prop where
  columns_eq : values.map Prod.fst = columns
  each : ∀ before column after, columns = before ++ column :: after → ∃ value,
    values[before.length]? = some (column, value) ∧ column.IsDrawnAs before entity count value

/-- A draft of an entity that took what generators gave, all of it, and has the count they left. -/
structure Draft.Took {α : Type} (draft : Draft model α) (entity : Entity model)
    (given : List (Column × Value)) (count : Nat) : Prop where
  taken : ∀ entry ∈ given, ∃ held, model.take entry.1.name entry.2 = .ok held
  counts : draft.count = count
  shows : ∀ name, entity.Shows given name (draft.entity.get name)

/-- A draft that ended at one of the columns, the first whose generator gives what the model
refuses. It has the error of the refusal, and nothing was asked or put behind that column. -/
def Draft.Stops {α : Type} (draft : Draft model α) (entity : Entity model) (columns : List Column)
    (count : Nat) : Prop :=
  ∃ before column after generator problem, columns = before ++ column :: after ∧
    column.generator = some generator ∧
    model.take column.name (generator (Column.asked before count).2).1 = .error problem ∧
    draft.outcome = .error problem ∧
    draft.Took entity (Column.asked before count).1 (generator (Column.asked before count).2).2

namespace Column

variable {column : Column} {generator : Generator}

/-- A column without generator is not asked. -/
theorem asked_plain (plain : column.generator = none) (rest : List Column) (count : Nat) :
    asked (column :: rest) count = asked rest count := by
  rw [asked, plain]

/-- A column with a generator is asked before those behind it. -/
theorem asked_generator (generates : column.generator = some generator) (rest : List Column)
    (count : Nat) :
    asked (column :: rest) count = ((column, (generator count).1) ::
    (asked rest (generator count).2).1,
      (asked rest (generator count).2).2) := by
  rw [asked, generates]

/-- Columns behind others are asked from the count that those leave. -/
theorem asked_append (before after : List Column) (count : Nat) :
    asked (before ++ after) count =
      ((asked before count).1 ++ (asked after (asked before count).2).1,
        (asked after (asked before count).2).2) := by
  induction before generalizing count with
  | nil => rfl
  | cons column rest inductionHypothesis =>
    cases generates : column.generator with
    | none =>
      rw [List.cons_append, asked_plain generates, asked_plain generates, inductionHypothesis]
    | some generator =>
      rw [List.cons_append, asked_generator generates, asked_generator generates,
        inductionHypothesis]
      rfl

/-- Only columns with generators are asked. -/
theorem mem_asked {columns : List Column} {count : Nat} {entry : Column × Value}
    (member : entry ∈ (asked columns count).1) :
    entry.1 ∈ columns ∧ entry.1.generator ≠ none := by
  induction columns generalizing count with
  | nil => exact absurd member List.not_mem_nil
  | cons column rest inductionHypothesis =>
    cases generates : column.generator with
    | none =>
      rw [asked_plain generates] at member
      exact (inductionHypothesis member).imp_left (List.mem_cons_of_mem column)
    | some generator =>
      rw [asked_generator generates] at member
      rcases List.mem_cons.mp member with rfl | behind
      · exact ⟨List.mem_cons_self, by simp [generates]⟩
      · exact (inductionHypothesis behind).imp_left (List.mem_cons_of_mem column)

end Column

/-! ### Drawing the columns one after the other -/

namespace Entity

/-- One column was drawn: from the entity and the count that it leaves the columns behind it are
drawn. -/
structure Draws (entity : Entity model) (column : Column) (count : Nat) (value : Value)
    (next : Entity model) (number : Nat) : Prop where
  drawn : column.IsDrawnAs [] entity count value
  behind : ∀ rest, draw (column :: rest) entity count = { draw rest next number with
    outcome := (draw rest next number).outcome.map ((column, value) :: ·) }
  put : ∃ put, (∀ entry ∈ put, ∃ held, model.take entry.1.name entry.2 = .ok held) ∧
    (∀ before, Column.asked (column :: before) count =
      (put ++ (Column.asked before number).1, (Column.asked before number).2)) ∧
    ∀ given name held, next.Shows given name held → entity.Shows (put ++ given) name held

variable {entity next : Entity model} {column : Column} {rest : List Column} {count number : Nat}
  {value : Value}

/-- A column without generator draws what the entity holds. -/
theorem Draws.of_plain (entity : Entity model) (count : Nat) (plain : column.generator = none) :
    entity.Draws column count (entity.get column.name) entity count where
  drawn := by
    rw [Column.IsDrawnAs, plain]
    exact .nothing entity column.name
  behind rest := draw_plain plain rest entity count
  put := ⟨[], fun _ member => absurd member List.not_mem_nil,
    fun before => Column.asked_plain plain before count, fun _ _ _ shows => shows⟩

/-- A column with a generator draws what it gives, and the entity takes it. -/
theorem Draws.of_generator {generator : Generator} (generates : column.generator = some generator)
    (puts : entity.set column.name (generator count).1 = .ok next) :
    entity.Draws column count (generator count).1 next (generator count).2 where
  drawn := by
    rw [Column.IsDrawnAs, generates]
    rfl
  behind rest := draw_taken generates rest puts
  put := by
    refine ⟨[(column, (generator count).1)], fun entry member => ?_,
      fun before => Column.asked_generator generates before count, fun _ _ _ shows =>
        shows.after puts⟩
    rw [List.mem_singleton.mp member]
    exact ⟨_, take_of_set puts⟩

/-- What the columns behind it take, they take behind it. -/
theorem Draws.took (step : entity.Draws column count value next number) {before : List Column}
    {left : Nat} (took : (draw rest next number).Took next (Column.asked before number).1 left) :
    (draw (column :: rest) entity count).Took entity
      (Column.asked (column :: before) count).1 left := by
  obtain ⟨put, taken, asked, shows⟩ := step.put
  rw [step.behind rest, asked before]
  refine ⟨fun entry member => ?_, took.counts, fun name => shows _ name _ (took.shows name)⟩
  rcases List.mem_append.mp member with here | behind
  · exact taken entry here
  · exact took.taken entry behind

/-- As they are drawn behind other columns, they are drawn behind this one and the others. -/
theorem Draws.is_drawn_as (step : entity.Draws column count value next number) {other : Column}
    {before : List Column} {shown : Value} (drawn : other.IsDrawnAs before next number shown) :
    other.IsDrawnAs (column :: before) entity count shown := by
  obtain ⟨put, -, asked, shows⟩ := step.put
  unfold Column.IsDrawnAs at drawn ⊢
  rw [asked before]
  split
  · rename_i generator generates
    rw [generates] at drawn
    exact drawn
  · rename_i plain
    rw [plain] at drawn
    exact shows _ _ _ drawn

/-- A column that was drawn stands before those that are drawn from what it leaves. -/
theorem Draws.is_drawn (step : entity.Draws column count value next number)
    {values : List (Column × Value)} (drawn : next.IsDrawn rest number values) :
    entity.IsDrawn (column :: rest) count ((column, value) :: values) := by
  refine ⟨by rw [List.map_cons, drawn.columns_eq], fun before other after place => ?_⟩
  cases before with
  | nil =>
    cases place
    exact ⟨value, rfl, step.drawn⟩
  | cons first before =>
    cases place
    obtain ⟨shown, stands, isDrawn⟩ := drawn.each before other after rfl
    exact ⟨shown, stands, step.is_drawn_as isDrawn⟩

/-- Where the drawing of the columns behind it stops, the drawing of all stops. -/
theorem Draws.stops (step : entity.Draws column count value next number)
    (stops : (draw rest next number).Stops next rest number) :
    (draw (column :: rest) entity count).Stops entity (column :: rest) count := by
  obtain ⟨before, stopped, after, generator, problem, rfl, generates, refused, ended, took⟩ := stops
  obtain ⟨put, -, asked, -⟩ := step.put
  have left : (Column.asked (column :: before) count).2 = (Column.asked before number).2 := by
    rw [asked before]
  refine ⟨column :: before, stopped, after, generator, problem, rfl, generates, ?_, ?_, ?_⟩
  · rwa [left]
  · rw [step.behind, ended]
    rfl
  · rw [left]
    exact step.took took

/-- Drawing ends early or goes through. It ends early where the model refuses what a generator
gives. Otherwise it gives a value to each column. The induction is on the columns; the entity and
the count are those that the columns before left. Plain or generated, a column that is drawn leaves
an entity and a count from which the rest is drawn. -/
theorem draw_cases (columns : List Column) (entity : Entity model) (count : Nat) :
    (draw columns entity count).Stops entity columns count ∨
    ((draw columns entity count).Took entity (Column.asked columns count).1
        (Column.asked columns count).2 ∧
      ∃ values, (draw columns entity count).outcome = .ok values ∧
        entity.IsDrawn columns count values) := by
  induction columns generalizing entity count with
  | nil =>
    refine .inr ⟨⟨fun _ member => absurd member List.not_mem_nil, rfl, .nothing entity⟩, [],
      rfl, rfl, ?_⟩
    intro before column after place
    exact absurd place.symm (List.append_ne_nil_of_right_ne_nil before
      (List.cons_ne_nil column after))
  | cons column rest inductionHypothesis =>
    have went : ∀ {value : Value} {next : Entity model} {number : Nat},
        entity.Draws column count value next number →
        (draw (column :: rest) entity count).Stops entity (column :: rest) count ∨
        ((draw (column :: rest) entity count).Took entity (Column.asked (column :: rest) count).1
            (Column.asked (column :: rest) count).2 ∧
          ∃ values, (draw (column :: rest) entity count).outcome = .ok values ∧
            entity.IsDrawn (column :: rest) count values) := by
      intro value next number step
      rcases inductionHypothesis next number with stops | ⟨took, values, drawn, isDrawn⟩
      · exact .inl (step.stops stops)
      · obtain ⟨put, -, asked, -⟩ := step.put
        refine .inr ⟨?_, (column, value) :: values, ?_, step.is_drawn isDrawn⟩
        · have whole := step.took took
          rwa [asked rest] at whole ⊢
        · rw [step.behind, drawn]
          rfl
    cases generates : column.generator with
    | none => exact went (.of_plain entity count generates)
    | some generator =>
      cases puts : entity.set column.name (generator count).1 with
      | ok next => exact went (.of_generator generates puts)
      | error problem =>
        refine .inl ⟨[], column, rest, generator, problem, rfl, generates,
          take_of_refused puts, ?_, ?_⟩
        · rw [draw_refused generates rest puts]
        · rw [draw_refused generates rest puts]
          exact ⟨fun _ member => absurd member List.not_mem_nil, rfl, .nothing entity⟩

/-- A row that is drawn changes the entity only under the names of its columns with generators. -/
theorem row_leaves (entity : Entity model) (table : Table) (isUpdate : Bool) (count : Nat)
    (others : ∀ column ∈ rowColumns table isUpdate, column.generator ≠ none → column.name ≠ name) :
    (entity.row table isUpdate count).entity.get name = entity.get name := by
  have shows : ∃ given, entity.Shows given name
    ((entity.row table isUpdate count).entity.get name) ∧
      ∀ entry ∈ given, entry.1 ∈ rowColumns table isUpdate ∧ entry.1.generator ≠ none := by
    rcases draw_cases (rowColumns table isUpdate) entity count with
      ⟨before, column, after, generator, problem, place, -, -, -, took⟩ | ⟨took, -⟩
    · refine ⟨_, took.shows name, fun entry member => ?_⟩
      rw [place]
      exact (Column.mem_asked member).imp_left (List.mem_append_left _)
    · exact ⟨_, took.shows name, fun entry member => Column.mem_asked member⟩
  obtain ⟨given, ⟨held, -⟩ | ⟨earlier, entry, later, rfl, named, -, -⟩, visited⟩ := shows
  · exact held
  · obtain ⟨among, generates⟩ := visited entry (by simp)
    exact absurd named (others entry.1 among generates)

/-- Each entry is drawn behind the entries before it. -/
theorem IsDrawn.is_drawn_as {columns : List Column} {values : List (Column × Value)}
    (drawn : entity.IsDrawn columns count values) {entry : Column × Value}
    (member : entry ∈ values) : ∃ before after, columns = before ++ entry.1 :: after ∧
      entry.1.IsDrawnAs before entity count entry.2 := by
  obtain ⟨column, shown⟩ := entry
  obtain ⟨front, back, rfl⟩ := List.append_of_mem member
  have place : columns = front.map Prod.fst ++ column :: back.map Prod.fst := by
    rw [← drawn.columns_eq, List.map_append, List.map_cons]
  obtain ⟨value, stands, isDrawn⟩ := drawn.each _ _ _ place
  rw [List.length_map, List.getElem?_append_right (Nat.le_refl _), Nat.sub_self] at stands
  cases stands
  exact ⟨_, _, place, isDrawn⟩

/-- Among columns of different names, one without generator is drawn as what the entity holds. -/
theorem IsDrawn.held {columns : List Column} {values : List (Column × Value)}
    (drawn : entity.IsDrawn columns count values) (distinct : (columns.map Column.name).Nodup)
    {entry : Column × Value} (member : entry ∈ values) (plain : entry.1.generator = none) :
    entry.2 = entity.get entry.1.name := by
  obtain ⟨before, after, rfl, isDrawn⟩ := drawn.is_drawn_as member
  rw [Column.IsDrawnAs, plain] at isDrawn
  rcases isDrawn with ⟨held, -⟩ | ⟨earlier, given, later, put, named, -, -⟩
  · exact held
  · have among : given ∈ (Column.asked before count).1 := by simp [put]
    rw [List.map_append, List.map_cons] at distinct
    have apart := List.disjoint_of_nodup_append distinct
      (List.mem_map_of_mem (Column.mem_asked among).1)
    exact absurd (by simp [named]) apart

/-- One with a generator is drawn as what the generator gives when each is asked once. -/
theorem IsDrawn.generated {columns : List Column} {values : List (Column × Value)}
    (drawn : entity.IsDrawn columns count values) {entry : Column × Value} (member : entry ∈ values)
    (generates : entry.1.generator ≠ none) : entry ∈ (Column.asked columns count).1 := by
  obtain ⟨before, after, rfl, isDrawn⟩ := drawn.is_drawn_as member
  obtain ⟨generator, given⟩ := Option.ne_none_iff_exists'.mp generates
  rw [Column.IsDrawnAs, given] at isDrawn
  rw [Column.asked_append, Column.asked_generator given]
  refine List.mem_append_right _ (List.mem_cons.mpr (.inl ?_))
  exact Prod.ext rfl isDrawn

/-- A row that is written has the stored forms of what was drawn, and misses nothing. -/
theorem row_is_drawn {table : Table} {isUpdate : Bool} {row : List (String × Stored)}
    (written : (entity.row table isUpdate count).outcome = .ok row) :
    ∃ values, entity.IsDrawn (rowColumns table isUpdate) count values ∧ missing values = [] ∧
      row = values.map fun entry => (entry.1.name, entry.2.stored) := by
  obtain ⟨values, drawn, complete, rfl⟩ := row_ok written
  rcases draw_cases (rowColumns table isUpdate) entity count with
    ⟨-, -, -, -, problem, -, -, -, ended, -⟩ | ⟨-, others, drawnToo, isDrawn⟩
  · cases ended.symm.trans drawn
  · cases drawnToo.symm.trans drawn
    exact ⟨values, isDrawn, complete, rfl⟩

/-- A row is exactly what was drawn for it. Drawing ends with the first value of a generator that
its field refuses, and with that error. Otherwise every generator was asked once, every column has
its value, and the row is their stored forms, unless columns that must hold a value have none: then
these are named, all of them and no others. Either way the entity holds what the generators that
were asked gave, converted, and nothing else in it changed.

Proof: drawing ends at a column or goes through all of them, by induction on the columns, and the
row is made of what was drawn. -/
theorem row_is_what_was_drawn (entity : Entity model) (table : Table) (isUpdate : Bool)
    (count : Nat) :
    (entity.row table isUpdate count).Stops entity (rowColumns table isUpdate) count ∨
    ((entity.row table isUpdate count).Took entity
      (Column.asked (rowColumns table isUpdate) count).1
        (Column.asked (rowColumns table isUpdate) count).2 ∧
      ∃ values, entity.IsDrawn (rowColumns table isUpdate) count values ∧
        (entity.row table isUpdate count).outcome =
          if missing values = [] then
            .ok (values.map fun entry => (entry.1.name, entry.2.stored))
          else .error (.dataValidation table.name (missing values))) := by
  have shape : (entity.row table isUpdate count).outcome =
      (draw (rowColumns table isUpdate) entity count).outcome.bind (storedRow table) := rfl
  rcases draw_cases (rowColumns table isUpdate) entity count with
    ⟨before, column, after, generator, problem, place, generates, refused, ended, took⟩ |
      ⟨took, values, drawn, isDrawn⟩
  · refine .inl ⟨before, column, after, generator, problem, place, generates, refused, ?_,
      took.taken, took.counts, took.shows⟩
    rw [shape, ended]
    rfl
  · refine .inr ⟨⟨took.taken, took.counts, took.shows⟩, values, isDrawn, ?_⟩
    rw [shape, drawn]
    simp only [Except.bind, storedRow, List.isEmpty_iff]

end Entity

/-! ### A visitors' desk -/

namespace Desk

/-- A column of integers with a generator. -/
def column (name : String) (generator : Generator) : Column :=
  { name, type := .integer, generator := some generator }

/-- A visit with its number, a desk and a turn. -/
def visits : Model :=
  ⟨"visit", [⟨.integer, column "number" .counter⟩,
    ⟨.integer, column "desk" (.constant (.text "none"))⟩, ⟨.integer, column "turn" .counter⟩]⟩

/-- The number of a visit is drawn and kept. Its desk is a word, which no field of integers takes,
so no turn is drawn any more. -/
example :
    let draft := (Entity.blank visits).row visits.table false 7
    draft.entity.toList = [("number", .integer 7), ("desk", .null), ("turn", .null)] ∧
      draft.count = 8 := by
  decide

end Desk

end RecordStore
