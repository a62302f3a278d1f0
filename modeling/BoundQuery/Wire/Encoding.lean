import BoundQuery.Value
import BoundQuery.Wire.ParamType

/-!
# Binary parameters

A value is encoded for the type its parameter has. Integers are big-endian two's
complement of the width of the type. An array is framed by its number of dimensions,
whether it holds a null, the number of its element type, its length and its first
index; each element is preceded by its length, and a null has length minus one.
-/
namespace BoundQuery.Wire

-- Powers are those of the core library, whatever other instances are in scope.
attribute [local instance (high)] instPowNat

/-- Why a value cannot be bound. -/
inductive BindError where
  | mismatch (kind : String) (type : String)
  | tooLarge
  | tooSmall
  deriving DecidableEq

def BindError.message : BindError → String
  | .mismatch kind type => "cannot bind " ++ kind ++ " value to parameter of type " ++ type
  | .tooLarge => "number too large to fit in target type"
  | .tooSmall => "number too small to fit in target type"

/-- The last `width` bytes of a number, the most significant first. -/
def bigEndian : Nat → Nat → List UInt8
  | 0, _ => []
  | width + 1, n => bigEndian width (n / 256) ++ [UInt8.ofNat n]

@[simp] theorem length_bigEndian (width n : Nat) : (bigEndian width n).length = width := by
  induction width generalizing n with
  | zero => rfl
  | succ width ih => simp [bigEndian, ih]

/-- The two's complement of an integer in `width` bytes. -/
def twosComplement (width : Nat) (n : Int) : List UInt8 :=
  bigEndian width (n % 2 ^ (8 * width)).toNat

def encodeText (s : String) : List UInt8 := s.toUTF8.toList

def mismatch {α : Type} (type : String) (v : Value) : Except BindError α :=
  .error (.mismatch v.kind type)

/-- An integer in the signed range of a width. -/
def encodeInteger (width : IntegerWidth) (n : Int) : Except BindError (List UInt8) :=
  let half : Int := 2 ^ (8 * width.bytes - 1)
  if half ≤ n then .error .tooLarge
  else if n < -half then .error .tooSmall
  else .ok (twosComplement width.bytes n)

/-- The document bound for a value: a text that is a document stands for it. -/
def documentOf : Value → Json
  | .text s => (Json.read? s).getD (.string s)
  | v => v.toJson

def expect {α : Type} (type : String) (v : Value) : Option α → Except BindError α
  | some a => .ok a
  | none => mismatch type v

/-- The bytes of a value that is not null, for a scalar type of that name. -/
def encodeScalar (type : String) (format : Format) (v : Value) : Except BindError (List UInt8) :=
  match format with
  | .boolean => (expect type v v.asBool?).map fun b => [if b then 1 else 0]
  | .integer width => (expect type v v.asInt?).bind fun n => encodeInteger width n.toInt
  | .single => (expect type v v.asFloat?).map fun x => bigEndian 4 x.toBinary32.toNat
  | .double => (expect type v v.asFloat?).map fun x => bigEndian 8 x.bits.toNat
  | .json => .ok (encodeText (documentOf v).text)
  | .versionedJson => .ok (1 :: encodeText (documentOf v).text)
  | .text => (expect type v v.toText?).map encodeText
  | .versionedText => (expect type v v.toText?).map fun s => 1 :: encodeText s
  | .unsupported => mismatch type v

/-- An encoded element with its length in front. -/
def frameElement : Option (List UInt8) → List UInt8
  | none => twosComplement 4 (-1)
  | some bytes => bigEndian 4 bytes.length ++ bytes

/-- The one-dimensional array of encoded elements. -/
def frameArray (elementOid lowerBound : Nat) (elements : List (Option (List UInt8))) :
    List UInt8 :=
  bigEndian 4 1 ++ bigEndian 4 (if elements.any Option.isNone then 1 else 0)
    ++ bigEndian 4 elementOid ++ bigEndian 4 elements.length ++ bigEndian 4 lowerBound
    ++ elements.flatMap frameElement

/-- The encoding of a value for a type; nothing stands for a null. -/
def encode : ParamType → Value → Except BindError (Option (List UInt8))
  | _, .null => .ok none
  | .scalar name _ format, v => (encodeScalar name format v).map some
  | .array _ _ lowerBound element, .list items =>
    (items.mapM (encode element)).map fun elements =>
      some (frameArray element.oid lowerBound elements)
  | .array name _ _ _, v => mismatch name v

end BoundQuery.Wire
