import BoundQuery.Value

/-!
# Values by trial

A document that says nothing about its kind is tried as each kind of value in a fixed order, and
the first kind that takes it stays. The kinds overlap: every number is a float, and every document
is a document, so the order decides.
-/
namespace BoundQuery

/-- Every number can be taken as a float. -/
def JsonNumber.toBinary64 : JsonNumber → Binary64
  | .integer n _ _ => Binary64.ofInt n
  | .float x _ => x

namespace Value

/-- What a document can be taken as. -/
inductive Reading where
  | null
  | bool
  | int
  | float
  | text
  | list
  | json
  deriving DecidableEq

/-- The order of trial. -/
def Reading.order : List Reading := [.null, .bool, .int, .float, .text, .list, .json]

/-- Takes a document as a kind of value, if it is one. A list is one when all its items could be
taken as values, which `items` then are. -/
def Reading.take? (items : Option (List Value)) : Reading → Json → Option Value
  | .null, .null => some .null
  | .bool, .bool b => some (.bool b)
  | .int, .number (.integer n _ _) => (Decimal.toInt64? n).map .int
  | .float, .number n => some (.float n.toBinary64)
  | .text, .string s => some (.text s)
  | .list, .array _ => items.map .list
  | .json, document => some (.json document)
  | _, _ => none

/-- The first kind in the order that takes a document. -/
def firstTaken (items : Option (List Value)) (document : Json) : Option Value :=
  Reading.order.findSome? fun reading => reading.take? items document

mutual

/-- The value of a document by trial; the items of a list are tried one by one. -/
def ofTrial? : Json → Option Value
  | .array items => firstTaken (ofTrials? items) (.array items)
  | document => firstTaken none document

def ofTrials? : List Json → Option (List Value)
  | [] => some []
  | d :: ds => (ofTrial? d).bind fun v => (ofTrials? ds).map (v :: ·)

end

/-- Reads a value by trial from JSON text. -/
def tryJson? (text : String) : Option Value := (Json.read? text).bind ofTrial?

end Value

end BoundQuery
