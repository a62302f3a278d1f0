import BoundQuery.Json
import BoundQuery.Binary64.Scaling
import BoundQuery.Decimal

/-!
# JSON tokens

A text splits into punctuation, strings and atoms; blanks between them are dropped.
An atom is a run of letters, digits, signs and points, and it is a token when it is
one of the three names or a number. A string ends at the first quote that is not
escaped; control characters and unpaired surrogates are refused.
-/
namespace BoundQuery.Json

-- Powers are those of the core library, whatever other instances are in scope.
attribute [local instance (high)] instPowNat

inductive Token where
  | openArray
  | closeArray
  | openObject
  | closeObject
  | comma
  | colon
  | null
  | bool (b : Bool)
  | number (n : JsonNumber)
  | string (s : String)

namespace Token

def isBlank (c : Char) : Bool :=
  c = ' ' || c = '\t' || c = '\n' || c = '\r'

def punctuation? (c : Char) : Option Token :=
  match c with
  | '[' => some .openArray
  | ']' => some .closeArray
  | '\x7b' => some .openObject
  | '\x7d' => some .closeObject
  | ',' => some .comma
  | ':' => some .colon
  | _ => none

def isAtomic (c : Char) : Bool :=
  c.isAlphanum || c = '+' || c = '-' || c = '.'

/-! ### Numbers -/

/-- A significand of at most 64 bits and the power of ten it is scaled by. -/
structure Significand where
  value : Nat
  exponent : Int
  full : Bool

/-- Takes a digit before the point. Once a digit does not fit, it and those after it only count
as places. -/
def Significand.pushWhole (s : Significand) (c : Char) : Significand :=
  let value := 10 * s.value + (c.toNat - 48)
  if s.full ∨ 2 ^ (64 : Nat) ≤ value then ⟨s.value, s.exponent + 1, true⟩
  else ⟨value, s.exponent, false⟩

/-- Takes a digit after the point. Once a digit does not fit, it and those after it are dropped. -/
def Significand.pushFraction (s : Significand) (c : Char) : Significand :=
  let value := 10 * s.value + (c.toNat - 48)
  if s.full ∨ 2 ^ (64 : Nat) ≤ value then ⟨s.value, s.exponent, true⟩
  else ⟨value, s.exponent - 1, false⟩

def Significand.ofDigits (whole fraction : List Char) : Significand :=
  let s := whole.foldl Significand.pushWhole ⟨0, 0, false⟩
  fraction.foldl Significand.pushFraction { s with full := false }

/-- Reads the digits of an exponent, with an optional sign, up to the end of an atom. -/
def exponent? (cs : List Char) : Option Int :=
  let (negative, digits) :=
    match cs with
    | '-' :: rest => (true, rest)
    | '+' :: rest => (false, rest)
    | rest => (false, rest)
  if digits.isEmpty ∨ !digits.all Char.isDigit then none
  else
    let magnitude : Int := Decimal.valueOf digits
    some (if negative then -magnitude else magnitude)

/-- A number without point and exponent is an integer when it fits; minus zero is not one. -/
def integer? (negative : Bool) (digits : List Char) : Option JsonNumber :=
  let n : Int := Decimal.valueOf digits
  if negative then (if n = 0 then none else JsonNumber.ofInt? (-n)) else JsonNumber.ofInt? n

def float? (negative : Bool) (whole fraction : List Char) (exponent : Int) :
    Option JsonNumber :=
  let s := Significand.ofDigits whole fraction
  (Binary64.ofScaled? negative s.value (s.exponent + exponent)).bind JsonNumber.ofBinary64?

/-- Reads what follows the digits before the point. -/
def numberRest? (negative : Bool) (whole : List Char) : List Char → Option JsonNumber
  | [] => (integer? negative whole).or (float? negative whole [] 0)
  | '.' :: rest =>
    let fraction := rest.takeWhile Char.isDigit
    if fraction.isEmpty then none
    else
      match rest.dropWhile Char.isDigit with
      | [] => float? negative whole fraction 0
      | c :: rest =>
        if c = 'e' ∨ c = 'E' then
          (exponent? rest).bind (float? negative whole fraction)
        else none
  | c :: rest =>
    if c = 'e' ∨ c = 'E' then (exponent? rest).bind (float? negative whole []) else none

/-- Reads a number that fills an atom. -/
def number? (atom : List Char) : Option JsonNumber :=
  let (negative, rest) :=
    match atom with
    | '-' :: rest => (true, rest)
    | rest => (false, rest)
  let whole := rest.takeWhile Char.isDigit
  if whole.isEmpty ∨ (whole.head? = some '0' ∧ 1 < whole.length) then none
  else numberRest? negative whole (rest.dropWhile Char.isDigit)

def atom? (atom : List Char) : Option Token :=
  if atom = "null".toList then some .null
  else if atom = "true".toList then some (.bool true)
  else if atom = "false".toList then some (.bool false)
  else (number? atom).map .number

/-! ### Strings -/

def hexValue? (c : Char) : Option Nat :=
  if c.isDigit then some (c.toNat - 48)
  else if 'a' ≤ c ∧ c ≤ 'f' then some (c.toNat - 87)
  else if 'A' ≤ c ∧ c ≤ 'F' then some (c.toNat - 55)
  else none

/-- The code unit of four hexadecimal digits. -/
def codeUnit? (a b c d : Char) : Option Nat := do
  let a ← hexValue? a
  let b ← hexValue? b
  let c ← hexValue? c
  let d ← hexValue? d
  return ((a * 16 + b) * 16 + c) * 16 + d

def isHighSurrogate (u : Nat) : Bool := decide (0xd800 ≤ u ∧ u < 0xdc00)

def isLowSurrogate (u : Nat) : Bool := decide (0xdc00 ≤ u ∧ u < 0xe000)

/-- The character that one letter after a backslash stands for. -/
def unescape? (c : Char) : Option Char :=
  match c with
  | '"' => some '"'
  | '\\' => some '\\'
  | '/' => some '/'
  | 'b' => some '\x08'
  | 'f' => some '\x0c'
  | 'n' => some '\n'
  | 'r' => some '\r'
  | 't' => some '\t'
  | _ => none

def push (c : Char) (scanned : List Char × List Char) : List Char × List Char :=
  (c :: scanned.1, scanned.2)

/-- Scans a string after its opening quote: its characters, and the text after its closing quote.
`high` is a surrogate whose partner must come next. -/
def scanString (high : Option Nat) : List Char → Option (List Char × List Char)
  | '\\' :: 'u' :: a :: b :: c :: d :: rest =>
    match codeUnit? a b c d, high with
    | none, _ => none
    | some u, none =>
      if isHighSurrogate u then scanString (some u) rest
      else if isLowSurrogate u then none
      else (scanString none rest).map (push (Char.ofNat u))
    | some u, some h =>
      if isLowSurrogate u then
        (scanString none rest).map
          (push (Char.ofNat (0x10000 + (h - 0xd800) * 0x400 + (u - 0xdc00))))
      else none
  | '\\' :: c :: rest =>
    match high, unescape? c with
    | none, some c => (scanString none rest).map (push c)
    | _, _ => none
  | c :: rest =>
    if high.isSome ∨ c.toNat < 0x20 ∨ c = '\\' then none
    else if c = '"' then some ([], rest)
    else (scanString none rest).map (push c)
  | [] => none

theorem length_push_lt {found : Option (List Char × List Char)} {c : Char}
    {scanned : List Char × List Char} {n : Nat} (h : found.map (push c) = some scanned)
    (shorter : ∀ inner, found = some inner → inner.2.length < n) : scanned.2.length < n := by
  obtain ⟨inner, hinner, rfl⟩ := Option.map_eq_some_iff.mp h
  exact shorter inner hinner

/-- Scanning consumes at least the closing quote. -/
theorem scanString_shorter {high : Option Nat} {text : List Char}
    {scanned : List Char × List Char} (h : scanString high text = some scanned) :
    scanned.2.length < text.length := by
  fun_induction scanString high text generalizing scanned with
  | case1 | case3 | case6 | case8 | case9 | case12 => simp at h
  | case2 _ _ _ _ _ _ _ _ ih =>
    have := ih h
    simp only [List.length_cons]
    omega
  | case4 _ _ _ _ _ _ _ _ _ ih | case5 _ _ _ _ _ _ _ _ _ ih | case7 _ _ _ _ _ ih
    | case11 _ _ _ _ _ _ _ ih =>
    have := length_push_lt h fun _ hinner => ih hinner
    simp only [List.length_cons]
    omega
  | case10 =>
    obtain rfl := Option.some.inj h
    simp

/-! ### Whole texts -/

/-- Splits a text into tokens. -/
def tokens? (text : List Char) : Option (List Token) :=
  match text with
  | [] => some []
  | c :: rest =>
    if isBlank c then tokens? rest
    else
      match punctuation? c with
      | some token => (tokens? rest).map (token :: ·)
      | none =>
        if c = '"' then
          match h : scanString none rest with
          | none => none
          | some (scanned, rest) =>
            have := scanString_shorter h
            (tokens? rest).map (.string (String.ofList scanned) :: ·)
        else if isAtomic c then do
          let token ← atom? (c :: rest.takeWhile isAtomic)
          let tokens ← tokens? (rest.dropWhile isAtomic)
          return token :: tokens
        else none
termination_by text.length
decreasing_by
  all_goals simp_all only [List.length_cons]
  · omega
  · omega
  · omega
  · exact Nat.lt_succ_of_le (List.dropWhile_suffix _).length_le

end Token

end BoundQuery.Json
