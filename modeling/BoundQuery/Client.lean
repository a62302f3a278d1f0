import BoundQuery.Failure
import BoundQuery.Log

/-!
# Clients

An endpoint runs statements and has a state of its own. A client is an endpoint behind
any number of wrappers; a logging wrapper reports what it is asked to run before it
passes it on. A finished statement goes to the tagged call when it has a tag, and a
logging wrapper sees it as a whole.
-/
namespace BoundQuery

/-- A cell of a row, with the type of its column. -/
inductive Cell where
  | int8 (n : Option Int64)
  | text (s : Option String)
  deriving DecidableEq

abbrev Row := List Cell

abbrev Reply := Except Error (List Row)

/-- What a wrapped client acts on: the state of its endpoint, and the events logged so far. -/
structure Session (σ : Type) where
  state : σ
  events : List Log.Event

abbrev Run (σ α : Type) := StateM (Session σ) α

structure Endpoint (σ : Type) where
  query : String → List Value → StateM σ Reply
  queryTagged : String → String → List Value → StateM σ Reply

/-- An endpoint that does not look at tags. -/
def Endpoint.untagged {σ : Type} (query : String → List Value → StateM σ Reply) : Endpoint σ :=
  ⟨query, fun _ => query⟩

inductive Client (σ : Type) where
  | endpoint (e : Endpoint σ)
  | shared (inner : Client σ)
  | logged (logger : Logger) (inner : Client σ)

namespace Client

variable {σ α : Type}

/-- Runs an action of the endpoint. -/
def onState (action : StateM σ α) : Run σ α := fun session =>
  let (a, state) := action session.state
  (a, { session with state := state })

def emit (event : Log.Event) : Run σ Unit := fun session =>
  ((), { session with events := session.events ++ [event] })

def query : Client σ → String → List Value → Run σ Reply
  | .endpoint e, sql, params => onState (e.query sql params)
  | .shared inner, sql, params => inner.query sql params
  | .logged logger inner, sql, params => do
    emit (logger.event none sql params.length)
    inner.query sql params

def queryTagged : Client σ → String → String → List Value → Run σ Reply
  | .endpoint e, tag, sql, params => onState (e.queryTagged tag sql params)
  | .shared inner, tag, sql, params => inner.queryTagged tag sql params
  | .logged logger inner, tag, sql, params => do
    emit (logger.event (some tag) sql params.length)
    inner.queryTagged tag sql params

/-- Passes a statement on by its parts. -/
def queryParts (client : Client σ) (s : Statement) : Run σ Reply :=
  match s.tag with
  | some tag => client.queryTagged tag s.sql s.params
  | none => client.query s.sql s.params

/-- Runs a finished statement. -/
def queryStatement : Client σ → Statement → Run σ Reply
  | .endpoint e, s => queryParts (.endpoint e) s
  | .shared inner, s => inner.queryStatement s
  | .logged logger inner, s => do
    emit (logger.eventOf s)
    inner.queryParts s

/-- The client inside the outermost logging wrapper. -/
def unwrap : Client σ → Client σ
  | .logged _ inner => inner
  | client => client

end Client

end BoundQuery
