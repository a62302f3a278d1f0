import BoundQuery.Client
import BoundQuery.Wire.Encoding

/-!
# Scripted endpoints

Endpoints that keep a record of what they are asked. Two of them only record a call
and have no rows. The third one stands for a server with a script: it infers the same
parameter types and has the same rows for every statement, and it may refuse to parse
or to bind. The values are encoded for it before anything is bound. A text that cannot be
sent never reaches it.
-/
namespace BoundQuery

/-- What an endpoint was asked. -/
inductive Exchange where
  | query (tag : Option String) (sql : String) (count : Nat)
  | simple (sql : String)
  | parse (sql : String)
  | bind (params : List (Option (List UInt8)))

abbrev Record := List Exchange

namespace Endpoint

def note (exchange : Exchange) : StateM Record Unit := modify (· ++ [exchange])

def recordQuery (tag : Option String) (sql : String) (params : List Value) :
    StateM Record Reply := do
  note (.query tag sql params.length)
  return .ok []

/-- Records calls without their tags. -/
def plain : Endpoint Record := .untagged (recordQuery none)

/-- Records calls with their tags. -/
def tagging : Endpoint Record := ⟨recordQuery none, fun tag => recordQuery (some tag)⟩

end Endpoint

/-- Where a scripted server refuses a statement. -/
inductive Refusal where
  | parse
  | bind
  deriving DecidableEq

structure Script where
  types : List Wire.ParamType
  rows : List Row
  refusal : Option Refusal

namespace Script

/-- Encodes values for their types; the first that fails is reported by its place. -/
def encodeAll (place : Nat) :
    List Wire.ParamType → List Value → Except Error (List (Option (List UInt8)))
  | type :: types, v :: vs =>
    match Wire.encode type v with
    | .error _ => .error (.query (.parameter place))
    | .ok bytes => (encodeAll (place + 1) types vs).map (bytes :: ·)
  | _, _ => .ok []

/-- Encodes the values of a statement for the types inferred for it. -/
def encodeParams (types : List Wire.ParamType) (params : List Value) :
    Except Error (List (Option (List UInt8))) :=
  if types.length = params.length then encodeAll 0 types params
  else .error (.query (.parameterCount types.length params.length))

/-- The text of a statement is sent with a null character after it and so may hold none. -/
def isSendable (sql : String) : Bool := !sql.toList.contains '\x00'

def query (script : Script) (sql : String) (params : List Value) : StateM Record Reply := do
  if !isSendable sql then return .error (.query .unsendable)
  Endpoint.note (.parse sql)
  if script.refusal = some .parse then return .error (.query .server)
  match encodeParams script.types params with
  | .error e => return .error e
  | .ok encoded =>
    Endpoint.note (.bind encoded)
    if script.refusal = some .bind then return .error (.query .server)
    return .ok script.rows

def endpoint (script : Script) : Endpoint Record := .untagged script.query

/-- What a transaction sends before its first statement. -/
def transactionStart : Exchange := .simple "START TRANSACTION"

end Script

end BoundQuery
