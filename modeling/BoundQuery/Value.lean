import BoundQuery.Decimal
import BoundQuery.Json.Printer
import BoundQuery.Json.Reader
import BoundQuery.Binary64.Reader

/-!
# Dynamic values

The same argument may arrive as an integer or as its decimal text, and a list is one
value. A value is read as an integer, a number, a truth value or a text where it has
such a reading, and it converts to a JSON document and back.
-/
namespace BoundQuery

inductive Value where
  | null
  | bool (b : Bool)
  | int (n : Int64)
  | float (x : Binary64)
  | text (s : String)
  | list (items : List Value)
  | json (document : Json)

namespace Value

/-- The word for a kind of value in messages. -/
def kind : Value → String
  | .null => "null"
  | .bool _ => "bool"
  | .int _ => "int"
  | .float _ => "float"
  | .text _ => "text"
  | .list _ => "array"
  | .json _ => "json"

def isNull : Value → Bool
  | .null => true
  | _ => false

def asList? : Value → Option (List Value)
  | .list items => some items
  | _ => none

def asText? : Value → Option String
  | .text s => some s
  | _ => none

/-- The machine integer a value stands for: itself, a float without fraction, or the text of its
canonical decimal. -/
def asInt? : Value → Option Int64
  | .int n => some n
  | .float x => x.toInt?.bind Decimal.toInt64?
  | .text s => Decimal.int64? s
  | _ => none

def isIntegerLike (v : Value) : Bool := v.asInt?.isSome

/-- The number a value stands for; an integer is rounded. -/
def asFloat? : Value → Option Binary64
  | .int n => some (Binary64.ofInt n.toInt)
  | .float x => some x
  | .text s => Binary64.read? s
  | _ => none

def asBool? : Value → Option Bool
  | .bool b => some b
  | .int n => if n = 0 then some false else if n = 1 then some true else none
  | .text s =>
    if s = "true" ∨ s = "1" then some true
    else if s = "false" ∨ s = "0" then some false
    else none
  | _ => none

/-- The text of a scalar; null and lists have none. -/
def toText? : Value → Option String
  | .bool b => some (if b then "true" else "false")
  | .int n => some (Decimal.ofInt64 n)
  | .float x => some x.text
  | .text s => some s
  | .json document => some document.text
  | .null => none
  | .list _ => none

mutual

/-- Equality by kind; floats compare as numbers, so a NaN differs from itself. -/
def same : Value → Value → Bool
  | .null, .null => true
  | .bool a, .bool b => a == b
  | .int m, .int n => m == n
  | .float x, .float y => x.same y
  | .text s, .text t => s == t
  | .list xs, .list ys => sameItems xs ys
  | .json c, .json d => c.same d
  | _, _ => false

def sameItems : List Value → List Value → Bool
  | [], [] => true
  | x :: xs, y :: ys => x.same y && sameItems xs ys
  | _, _ => false

end

/-! ### JSON documents -/

mutual

/-- The document of a value; a NaN or an infinity becomes null. -/
def toJson : Value → Json
  | .null => .null
  | .bool b => .bool b
  | .int n => .number (.ofInt64 n)
  | .float x =>
    match JsonNumber.ofBinary64? x with
    | some n => .number n
    | none => .null
  | .text s => .string s
  | .list items => .array (toJsonItems items)
  | .json document => document

def toJsonItems : List Value → List Json
  | [] => []
  | v :: vs => v.toJson :: toJsonItems vs

end

@[simp] theorem toJsonItems_eq_map (vs : List Value) : toJsonItems vs = vs.map toJson := by
  induction vs with
  | nil => rfl
  | cons v vs ih => rw [toJsonItems, ih, List.map_cons]

/-- An integer beyond the machine range becomes the nearest float. -/
def ofJsonNumber : JsonNumber → Value
  | .integer n _ _ =>
    match Decimal.toInt64? n with
    | some n => .int n
    | none => .float (Binary64.ofInt n)
  | .float x _ => .float x

mutual

/-- The value of a document; objects are kept as documents at any depth of lists. -/
def ofJson : Json → Value
  | .null => .null
  | .bool b => .bool b
  | .number n => ofJsonNumber n
  | .string s => .text s
  | .array items => .list (ofJsonItems items)
  | .object members => .json (.object members)

def ofJsonItems : List Json → List Value
  | [] => []
  | d :: ds => ofJson d :: ofJsonItems ds

end

@[simp] theorem ofJsonItems_eq_map (ds : List Json) : ofJsonItems ds = ds.map ofJson := by
  induction ds with
  | nil => rfl
  | cons d ds ih => rw [ofJsonItems, ih, List.map_cons]

/-- Reads a value from JSON text. -/
def readJson? (text : String) : Option Value := (Json.read? text).map ofJson

/-! ### Literals -/

/-- A text between quotes, each quote inside written twice. -/
def quote (s : List Char) : List Char :=
  '\'' :: s.flatMap (fun c => if c = '\'' then ['\'', '\''] else [c]) ++ ['\'']

/-- An item of a list literal is quoted whatever its kind; null stays bare. -/
def itemLiteral : Value → List Char
  | .null => "NULL".toList
  | v => quote (v.toText?.getD "").toList

/-- The characters of a value as a literal, for people to read. -/
def literalChars : Value → List Char
  | .null => "NULL".toList
  | .bool true => "TRUE".toList
  | .bool false => "FALSE".toList
  | .int n => (Decimal.ofInt64 n).toList
  | .float x => x.text.toList
  | .text s => quote s.toList
  | .json document => quote document.chars
  | .list items => "ARRAY[".toList ++ [','].intercalate (items.map itemLiteral) ++ [']']

def literal (v : Value) : String := String.ofList v.literalChars

end Value

end BoundQuery
