import BoundQuery.Json
import BoundQuery.Binary64.Layout

/-!
# Compact JSON text

Text of a document without blanks. In a string only quotes, backslashes and control
characters are escaped; all other characters stand for themselves.
-/
namespace BoundQuery.Json

def hexDigit (n : Nat) : Char := (Nat.toDigits 16 (n % 16)).headD '0'

/-- The text of one character inside a string. -/
def escape (c : Char) : List Char :=
  match c with
  | '"' => ['\\', '"']
  | '\\' => ['\\', '\\']
  | '\n' => ['\\', 'n']
  | '\r' => ['\\', 'r']
  | '\t' => ['\\', 't']
  | '\x08' => ['\\', 'b']
  | '\x0c' => ['\\', 'f']
  | c =>
    if c.toNat < 0x20 then
      ['\\', 'u', '0', '0', hexDigit (c.toNat / 16), hexDigit c.toNat]
    else [c]

def quoted (s : String) : List Char :=
  '"' :: s.toList.flatMap escape ++ ['"']

def numberText : JsonNumber → String
  | .integer n _ _ => toString n
  | .float x _ => x.jsonText

mutual

/-- The characters of a document. -/
def chars : Json → List Char
  | .null => "null".toList
  | .bool true => "true".toList
  | .bool false => "false".toList
  | .number n => (numberText n).toList
  | .string s => quoted s
  | .array [] => ['[', ']']
  | .array (x :: xs) => '[' :: x.chars ++ itemChars xs ++ [']']
  | .object [] => ['\x7b', '\x7d']
  | .object ((name, x) :: rest) =>
    '\x7b' :: quoted name ++ ':' :: x.chars ++ memberChars rest ++ ['\x7d']

/-- The items after the first. -/
def itemChars : List Json → List Char
  | [] => []
  | x :: xs => ',' :: x.chars ++ itemChars xs

/-- The members after the first. -/
def memberChars : List (String × Json) → List Char
  | [] => []
  | (name, x) :: rest => ',' :: quoted name ++ ':' :: x.chars ++ memberChars rest

end

def text (document : Json) : String := String.ofList document.chars

end BoundQuery.Json
