import RecordStore.Error

/-!
# Pages

A page is a window on an answer: how many rows at most, and how many rows before them.
-/

namespace RecordStore

/-- A window on an answer. -/
structure Page where
  limit : Int64
  offset : Int64
  deriving DecidableEq, Repr, Inhabited

namespace Page

/-- The page that a request means. A request without a limit gets the largest page; no
request may ask for a larger one, or for a negative limit or offset. -/
def resolve (limit offset : Option Int64) (largest : Int64) : Except StoreError Page :=
  let limit := limit.getD largest
  let offset := offset.getD 0
  if limit < 0 then
    .error (.invalidQuery ("`limit` cannot be negative, got " ++ toString limit.toInt))
  else if largest < limit then
    .error (.invalidQuery ("`limit` cannot exceed " ++ toString largest.toInt ++ ", got " ++
      toString limit.toInt))
  else if offset < 0 then
    .error (.invalidQuery ("`offset` cannot be negative, got " ++ toString offset.toInt))
  else .ok ⟨limit, offset⟩

end Page

end RecordStore
