import BoundQuery.SqlText

/-!
# Placeholder tokens of a text

A text of characters is cut into tokens: a dollar sign together with the longest run
of digits after it, and single characters for all else. Values are put in by replacing
each token whose digits denote an ordinal; a value put in is not looked at again.
-/
namespace BoundQuery

inductive SqlToken where
  | character (c : Char)
  | reference (digits : List Char)
  deriving DecidableEq

namespace SqlToken

def chars : SqlToken → List Char
  | .character c => [c]
  | .reference digits => '$' :: digits

/-- Cuts a text, inside a reference whose digits so far are `digits` reversed, or outside one. -/
def scanFrom : Option (List Char) → List Char → List SqlToken
  | none, [] => []
  | some digits, [] => [.reference digits.reverse]
  | none, c :: rest =>
    if c = '$' then scanFrom (some []) rest else .character c :: scanFrom none rest
  | some digits, c :: rest =>
    if c.isDigit then scanFrom (some (c :: digits)) rest
    else if c = '$' then .reference digits.reverse :: scanFrom (some []) rest
    else .reference digits.reverse :: .character c :: scanFrom none rest

/-- The tokens of a text. -/
def scan (text : List Char) : List SqlToken := scanFrom none text

/-- The ordinal a token denotes; a lone dollar sign denotes none. -/
def ordinal? : SqlToken → Option Nat
  | .character _ => none
  | .reference [] => none
  | .reference (d :: ds) => some (Decimal.valueOf (d :: ds))

/-- The value behind a token. -/
def value? (params : List Value) (token : SqlToken) : Option Value :=
  token.ordinal?.bind fun n => Placeholder.value? params ⟨n⟩

/-- The literal of the value behind a token, or else the token itself. -/
def inline (params : List Value) (token : SqlToken) : List Char :=
  match token.value? params with
  | some v => v.literalChars
  | none => token.chars

/-- The characters of a reference that is still open. -/
def openChars : Option (List Char) → List Char
  | none => []
  | some digits => '$' :: digits.reverse

theorem chars_scanFrom (state : Option (List Char)) (text : List Char) :
    (scanFrom state text).flatMap chars = openChars state ++ text := by
  fun_induction scanFrom state text <;> simp_all [chars, openChars]

/-- Cutting loses nothing. -/
theorem chars_scan (text : List Char) : (scan text).flatMap chars = text := by
  rw [scan, chars_scanFrom]
  rfl

end SqlToken

end BoundQuery
