import RecordStore.Proofs.Query.Marks
import RecordStore.Proofs.Query.SameRows

/-!
# One filter for counting and finding

The query that counts and the queries for pages are written around one text, with the same operands
in it: where the rows come from and under which conditions. Counting puts the number of rows before
it. Finding puts the columns before it and the order and the page behind it, and no operands before
it. Nothing but the order can keep a request that counts from finding.
-/

namespace RecordStore

open Engine Sql

/-- The text that says which rows a query means, with its operands. -/
def Sql.Select.filter (rows : Select Stored) : Fragment := ⟨rows.renderRows, rows.rowOperands⟩

namespace Request

variable {request : Request} {table : Table} {rows : Select Stored} {page : Page}

/-! ### Around a filter -/

/-- Counting puts the number of rows before the filter. -/
theorem counting_fragment (forRows : rows.IsForRows) :
    Select.fragment { rows with columns := [.computed .countRows none "COUNT(*)"] } =
      ⟨"SELECT COUNT(*)" ++ rows.filter.text, rows.filter.operands⟩ := by
  obtain ⟨distinct, grouping, having, ordering, limit, offset, -⟩ := forRows
  have text : Select.render { rows with columns := [.computed .countRows none "COUNT(*)"] } =
      "SELECT COUNT(*)" ++ rows.renderRows := by
    simp [Select.render, Select.renderGrouping, Select.renderOrdering, Select.renderWindow,
      Select.renderRows, distinct, grouping, having, ordering, limit, offset, joined,
      ResultColumn.render, Expression.render, String.append_assoc]
  have operands : Select.operands { rows with columns := [.computed .countRows none "COUNT(*)"] } =
      rows.rowOperands := by
    simp [Select.operands, Select.rowOperands, grouping, having, ordering, limit, offset,
      ResultColumn.operands, Expression.operands]
  exact congrArg₂ Fragment.mk text operands

/-- Finding puts the columns before the filter, and the order and the page behind it. -/
theorem finding_fragment (forRows : rows.IsForRows) {keys : List (OrderKey Stored)}
    (keysMade : request.ordering table = .ok keys) :
    Select.fragment { rows with
        columns := resultColumns table request.source
        ordering := keys
        limit := some (.operand (.integer page.limit))
        offset := some (.operand (.integer page.offset)) } =
      ⟨columnWords table request.source ++ rows.filter.text ++ request.orderingWords ++
          " LIMIT ? OFFSET ?",
        rows.filter.operands ++ [.integer page.limit, .integer page.offset]⟩ := by
  obtain ⟨distinct, grouping, having, -, -, -, -⟩ := forRows
  obtain ⟨order, noOperands⟩ := ordering_render keysMade
  refine congrArg₂ Fragment.mk ?_ ?_
  · have window : " LIMIT ? OFFSET ?" = " LIMIT " ++ "?" ++ (" OFFSET " ++ "?") := by decide
    rw [← order, ← result_columns_render, window]
    simp only [Select.filter, Select.render, Select.renderRows, Select.renderGrouping,
      Select.renderOrdering, Select.renderWindow, distinct, grouping, having, Expression.render,
      List.isEmpty_nil, Bool.false_eq_true, if_false, if_true, String.append_assoc,
      String.empty_append]
  · simp [Select.filter, Select.operands, Select.rowOperands, grouping, having,
      result_columns_operands, noOperands, Expression.operands]

/-! ### What lets a request count and find -/

/-- An order compiles if there is nothing to sort by, or if the sort is accepted under whatever name
of the table. -/
theorem ordering_is_ok (acceptable : ∀ sort ∈ request.sort, ∃ source,
    (sort.orderKeys table source).isOk = true) : (request.ordering table).isOk = true := by
  cases sorts : request.sort with
  | some sort =>
    obtain ⟨source, accepted⟩ := acceptable sort sorts
    rw [ordering_sorting sorts, sort.order_keys_is_ok table request.source source, accepted]
  | none =>
    cases asks : request.term with
    | some term => rw [ordering_asking sorts asks]; rfl
    | none => rw [ordering_plain sorts asks]; rfl

end Request

/-- Counting and finding share one filter. A request that finds a page counts, and whatever keeps it
from counting keeps it from finding; unless its sort is refused, it finds every page if it counts.
If it counts, there is one text with operands which the query that counts puts behind `SELECT
COUNT(*)`, and which the query for each page puts between the columns of the table and the order and
window of the page. The window brings the last two operands, and nothing else brings any.

Proof: both queries are compiled from the same rows, and differ in result columns, order and window,
which stand before and behind the filter. -/
theorem counting_and_finding_share_one_filter (table : Table) (request : Request) :
    (∀ page, (request.finding table page).isOk = true → (request.counting table).isOk = true) ∧
    ((∀ sort ∈ request.sort, ∃ source, (sort.orderKeys table source).isOk = true) →
      ∀ page, (request.finding table page).isOk = (request.counting table).isOk) ∧
    (∀ problem, request.counting table = .error problem →
      ∀ page, request.finding table page = .error problem) ∧
    ∀ counted, request.counting table = .ok counted → ∃ filter : Fragment,
      counted.fragment = ⟨"SELECT COUNT(*)" ++ filter.text, filter.operands⟩ ∧
      ∀ page found, request.finding table page = .ok found →
        found.fragment =
          ⟨"SELECT " ++ joined ", " (table.columnNames.map (qualified request.source)) ++
              filter.text ++ request.orderingWords ++ " LIMIT ? OFFSET ?",
            filter.operands ++ [.integer page.limit, .integer page.offset]⟩ := by
  refine ⟨fun page finds => ?_, fun acceptable page => ?_, fun problem refused page => ?_,
    fun counted made => ?_⟩
  · rw [request.finding_is_ok_eq, Bool.and_eq_true] at finds
    exact finds.1
  · rw [request.finding_is_ok_eq, Request.ordering_is_ok acceptable, Bool.and_true]
  · exact Request.finding_of_refused refused page
  · obtain ⟨rows, rowsMade, rfl⟩ := Request.counting_ok made
    have forRows := Request.rows_is_for_rows rowsMade
    refine ⟨rows.filter, Request.counting_fragment forRows, fun page found foundMade => ?_⟩
    obtain ⟨others, keys, othersMade, keysMade, rfl⟩ := Request.finding_ok foundMade
    cases rowsMade.symm.trans othersMade
    exact Request.finding_fragment forRows keysMade

open Correspondence in
/-- The letters about the harbour are counted and found under one filter, which stands between the
columns and the order by rank. -/
theorem harbour_letters_share_one_filter :
    harbour.sort = none ∧ ∃ (counted found : Select Stored) (filter : Fragment),
      harbour.counting letter = .ok counted ∧ harbour.finding letter ⟨10, 20⟩ = .ok found ∧
      counted.fragment = ⟨"SELECT COUNT(*)" ++ filter.text, filter.operands⟩ ∧
      counted.fragment.operands =
        [.integer 1901, .integer 1905, .text "Ada", .text "harbour"] ∧
      found.fragment = ⟨"SELECT b.sender, b.year, b.body" ++ filter.text ++ " ORDER BY a.rank" ++
        " LIMIT ? OFFSET ?", filter.operands ++ [.integer 10, .integer 20]⟩ := by
  obtain ⟨-, finds, -, shares⟩ := counting_and_finding_share_one_filter letter harbour
  obtain ⟨counted, counts⟩ := exists_of_is_ok
    (show (harbour.counting letter).isOk = true by decide +kernel)
  have alike := finds nofun ⟨10, 20⟩
  rw [counts] at alike
  obtain ⟨found, findsToo⟩ := exists_of_is_ok alike
  obtain ⟨filter, countedIs, pages⟩ := shares counted counts
  refine ⟨rfl, counted, found, filter, counts, findsToo, countedIs, ?_, ?_⟩
  · have operands : ((harbour.counting letter).toOption.map fun counted =>
        counted.fragment.operands) =
          some [.integer 1901, .integer 1905, .text "Ada", .text "harbour"] := by decide +kernel
    rw [counts] at operands
    exact Option.some.inj operands
  · have columns : "SELECT " ++ joined ", " (letter.columnNames.map (qualified harbour.source)) =
        "SELECT b.sender, b.year, b.body" := by decide +kernel
    rw [pages ⟨10, 20⟩ found findsToo, columns]
    rfl

end RecordStore
