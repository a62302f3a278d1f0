/-!
# Failures

An error is the answer to an argument, a statement or a row that does not fit, and
the caller can go on. A fault is a broken rule of use, after which there is nothing
to go on with. Each has its cause as data and its wording in one place.
-/
namespace BoundQuery

/-- Why an argument was refused. -/
inductive ArgumentProblem where
  | expectedText
  | expectedNumber
  | expectedBoolean
  | unknownDataType (type : String)
  | expectedState
  | unknownState (name : String)
  | unknownSortKey (key : String)
  | unknownOrder (order : String)

def ArgumentProblem.message : ArgumentProblem → String
  | .expectedText => "expected a text value"
  | .expectedNumber => "expected a number"
  | .expectedBoolean => "expected a boolean"
  | .unknownDataType type => "unknown data type '" ++ type ++ "'"
  | .expectedState => "expected a state name"
  | .unknownState name => "unknown drop state '" ++ name ++ "'"
  | .unknownSortKey key => "unknown sort key '" ++ key ++ "'"
  | .unknownOrder order => "expected 'asc' or 'desc', got '" ++ order ++ "'"

/-- Why a statement could not be run. -/
inductive QueryProblem where
  | unsendable
  | server
  | parameterCount (expected given : Nat)
  | parameter (index : Nat)

def QueryProblem.message : QueryProblem → String
  | .unsendable => "error encoding message to server"
  | .server => "db error"
  | .parameterCount expected given =>
    "expected " ++ toString expected ++ " parameters but got " ++ toString given
  | .parameter index => "error serializing parameter " ++ toString index

/-- An answer to an argument, a statement or a row that does not fit. -/
inductive Error where
  | inputShape (column found : String)
  | invalidArgument (name message : String)
  | query (problem : QueryProblem)
  | notFound (message : String)
  | decode (column message : String)

namespace Error

/-- An argument that was refused, with the wording of its problem. -/
def invalid (name : String) (problem : ArgumentProblem) : Error :=
  .invalidArgument name problem.message

def message : Error → String
  | .inputShape column found =>
    "Input shape error on '" ++ column ++ "': expected a list, got " ++ found
  | .invalidArgument name message => "Invalid argument '" ++ name ++ "': " ++ message
  | .query problem => "Query error: " ++ problem.message
  | .notFound message => "Not found: " ++ message
  | .decode column message => "Decode error on column '" ++ column ++ "': " ++ message

def isInputShape : Error → Bool
  | .inputShape .. => true
  | _ => false

def isInvalidArgument : Error → Bool
  | .invalidArgument .. => true
  | _ => false

def isNotFound : Error → Bool
  | .notFound .. => true
  | _ => false

end Error

/-- A broken rule of use. -/
inductive Fault where
  | subtractionOverflow
  | multiplicationOverflow
  | unseededSubquery
  deriving DecidableEq

def Fault.message : Fault → String
  | .subtractionOverflow => "attempt to subtract with overflow"
  | .multiplicationOverflow => "attempt to multiply with overflow"
  | .unseededSubquery => "subquery must be seeded with the parent's params"

inductive Failure where
  | error (e : Error)
  | fault (f : Fault)

def Failure.message : Failure → String
  | .error e => e.message
  | .fault f => f.message

/-- The outcome of a computation that can only err. -/
def orError {α : Type} (outcome : Except Error α) : Except Failure α :=
  outcome.mapError .error

/-- The outcome of a computation that can only break a rule of use. -/
def orFault {α : Type} (outcome : Except Fault α) : Except Failure α :=
  outcome.mapError .fault

end BoundQuery
