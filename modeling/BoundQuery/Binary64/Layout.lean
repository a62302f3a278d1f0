import BoundQuery.Binary64.Shortest

/-!
# Layout of number text

Both texts of a number show its shortest decimal. The plain text never has an
exponent and drops an empty fraction. The text inside a JSON document always shows
that the number is not an integer: it keeps `.0` or has an exponent.
-/
namespace BoundQuery.Binary64

/-- How a decimal is laid out: which exponents of the first digit are written without an
exponent, whether a whole number ends in `.0`, and where a tie goes. -/
structure Layout where
  positional : Int → Bool
  pointZero : Bool
  tie : Tie

/-- The text of values and literals. -/
def Layout.plain : Layout :=
  ⟨fun _ => true, false, .up⟩

/-- The text inside a JSON document. -/
def Layout.json : Layout :=
  ⟨fun e => decide (-5 ≤ e ∧ e < 16), true, .toEven⟩

def zeros (n : Nat) : List Char := List.replicate n '0'

/-- Digits with the point after the digit that stands for ones. -/
def Layout.writePositional (layout : Layout) (digits : List Char) (exponent : Int) : List Char :=
  let size : Int := digits.length
  if 0 ≤ exponent then
    digits ++ zeros exponent.toNat ++ (if layout.pointZero then ".0".toList else [])
  else if 0 < size + exponent then
    let whole := (size + exponent).toNat
    digits.take whole ++ '.' :: digits.drop whole
  else "0.".toList ++ zeros (-(size + exponent)).toNat ++ digits

/-- One digit, the others after a point, and the exponent with its sign. -/
def writeScientific (digits : List Char) (first : Int) : List Char :=
  let sign := if first < 0 then '-' else '+'
  let significand :=
    match digits with
    | [] => []
    | [d] => [d]
    | d :: rest => d :: '.' :: rest
  significand ++ 'e' :: sign :: Nat.toDigits 10 first.natAbs

/-- The text of a positive decimal. -/
def Layout.writeDecimal (layout : Layout) (d : ShortDecimal) : List Char :=
  let digits := Nat.toDigits 10 d.significand
  let first := d.exponent + digits.length - 1
  if layout.positional first then layout.writePositional digits d.exponent
  else writeScientific digits first

/-- The text of a finite number. -/
def Layout.writeFinite (layout : Layout) (x : Binary64) : List Char :=
  let magnitude :=
    if x.isZero then (if layout.pointZero then "0.0".toList else ['0'])
    else layout.writeDecimal (x.shortest layout.tie)
  if x.isNegative then '-' :: magnitude else magnitude

/-- The text of any number: shortest digits, never an exponent. -/
def text (x : Binary64) : String :=
  if x.isNaN then "NaN"
  else if x.isFinite then String.ofList (Layout.plain.writeFinite x)
  else if x.isNegative then "-inf"
  else "inf"

/-- The text of a finite number inside a JSON document. -/
def jsonText (x : Binary64) : String :=
  String.ofList (Layout.json.writeFinite x)

end BoundQuery.Binary64
