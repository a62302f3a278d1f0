import BoundQuery.Binary64
import BoundQuery.Decimal

/-!
# Number text

The grammar of a number: an optional sign, then the name of infinity or of a NaN in
any case of ASCII letters, or digits with an optional point that have a digit on at
least one side, then an optional exponent. Nothing else is accepted, neither blanks
nor separators. The number read is the nearest one, whatever the length of the text.
-/
namespace BoundQuery.Binary64

/-- A sign in front of a text: whether it is a minus, and the text after it. -/
def takeSign : List Char → Bool × List Char
  | '-' :: rest => (true, rest)
  | '+' :: rest => (false, rest)
  | rest => (false, rest)

/-- Reads an exponent's digits, which end the text. -/
def readExponent? (text : List Char) : Option Int :=
  let (negative, digits) := takeSign text
  if digits.isEmpty ∨ !digits.all Char.isDigit then none
  else
    let magnitude : Int := Decimal.valueOf digits
    some (if negative then -magnitude else magnitude)

/-- Reads the exponent after a significand: none at all means zero. -/
def readScale? : List Char → Option Int
  | [] => some 0
  | c :: rest => if c = 'e' ∨ c = 'E' then readExponent? rest else none

/-- Reads digits with an optional point and exponent. -/
def readDigits? (negative : Bool) (text : List Char) : Option Binary64 :=
  let whole := text.takeWhile Char.isDigit
  let rest := text.dropWhile Char.isDigit
  let (fraction, rest) :=
    match rest with
    | '.' :: rest => (rest.takeWhile Char.isDigit, rest.dropWhile Char.isDigit)
    | rest => ([], rest)
  if whole.isEmpty ∧ fraction.isEmpty then none
  else
    (readScale? rest).map fun exponent =>
      ofDecimal negative (Decimal.valueOf (whole ++ fraction)) (exponent - fraction.length)

/-- Reads a number from its text. -/
def read? (text : String) : Option Binary64 :=
  let (negative, rest) := takeSign text.toList
  let name := rest.map Char.toLower
  if name = "inf".toList ∨ name = "infinity".toList then some (infinite negative)
  else if name = "nan".toList then some (nan negative)
  else readDigits? negative rest

end BoundQuery.Binary64
