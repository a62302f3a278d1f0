/-!
# Parameter types

A statement's parameter has a type that the server names, with a number of its own.
Of a scalar type only its binary format matters; an array type has the type of its
elements, which may be an array type again.
-/
namespace BoundQuery.Wire

inductive IntegerWidth where
  | two
  | four
  | eight
  deriving DecidableEq

def IntegerWidth.bytes : IntegerWidth → Nat
  | .two => 2
  | .four => 4
  | .eight => 8

/-- How the values of a scalar type are encoded; `unsupported` stands for the types that no
dynamic value is encoded for. -/
inductive Format where
  | boolean
  | integer (width : IntegerWidth)
  | single
  | double
  | json
  | versionedJson
  | text
  | versionedText
  | unsupported
  deriving DecidableEq

inductive ParamType where
  | scalar (name : String) (oid : Nat) (format : Format)
  | array (name : String) (oid : Nat) (lowerBound : Nat) (element : ParamType)

namespace ParamType

def name : ParamType → String
  | .scalar name _ _ => name
  | .array name _ _ _ => name

def oid : ParamType → Nat
  | .scalar _ oid _ => oid
  | .array _ oid _ _ => oid

end ParamType

end BoundQuery.Wire
