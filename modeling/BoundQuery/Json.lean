import BoundQuery.Binary64
import BoundQuery.Dictionary

/-!
# JSON documents

A number is an integer of the signed or unsigned 64-bit range, or a finite
double-precision number; the two kinds never agree, whatever their values. The
members of an object are kept in the order of their names.
-/
namespace BoundQuery

-- Powers are those of the core library, whatever other instances are in scope.
attribute [local instance (high)] instPowNat

inductive JsonNumber where
  | integer (n : Int) (lower : -2 ^ (63 : Nat) ≤ n) (upper : n < 2 ^ (64 : Nat))
  | float (x : Binary64) (finite : x.isFinite = true)

namespace JsonNumber

def ofInt? (n : Int) : Option JsonNumber :=
  if h : -2 ^ (63 : Nat) ≤ n ∧ n < 2 ^ (64 : Nat) then some (.integer n h.1 h.2) else none

def ofInt64 (n : Int64) : JsonNumber :=
  .integer n.toInt n.le_toInt (Int.lt_trans n.toInt_lt (by decide))

/-- A document has no NaN and no infinity. -/
def ofBinary64? (x : Binary64) : Option JsonNumber :=
  if h : x.isFinite = true then some (.float x h) else none

def same : JsonNumber → JsonNumber → Bool
  | .integer m _ _, .integer n _ _ => m == n
  | .float x _, .float y _ => x.same y
  | _, _ => false

end JsonNumber

inductive Json where
  | null
  | bool (b : Bool)
  | number (n : JsonNumber)
  | string (s : String)
  | array (items : List Json)
  | object (members : List (String × Json))

namespace Json

mutual

/-- Equality of documents: numbers compare as numbers of their kind, all else by its parts. -/
def same : Json → Json → Bool
  | .null, .null => true
  | .bool a, .bool b => a == b
  | .number m, .number n => m.same n
  | .string s, .string t => s == t
  | .array xs, .array ys => sameItems xs ys
  | .object xs, .object ys => sameMembers xs ys
  | _, _ => false

def sameItems : List Json → List Json → Bool
  | [], [] => true
  | x :: xs, y :: ys => x.same y && sameItems xs ys
  | _, _ => false

def sameMembers : List (String × Json) → List (String × Json) → Bool
  | [], [] => true
  | (m, x) :: xs, (n, y) :: ys => m == n && x.same y && sameMembers xs ys
  | _, _ => false

end

end Json

end BoundQuery
