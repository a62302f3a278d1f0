import BoundQuery.Client.Script
import BoundQuery.Proofs.Dialogues

/-!
# What layers of loggers log

A finished statement that runs through several logging wrappers is logged once by each of them.
The outermost one sees the statement as a whole. It passes the statement on by its parts, so those
inside see a tag, a text and a number of values, and cannot put the values in place. Main statement:
`Call.events_of_statement`.
-/
namespace BoundQuery

variable {σ α β : Type}

/-- The logger of a logging wrapper. -/
def Wrapper.logger? : Wrapper → Option Logger
  | .shared => none
  | .logged logger => some logger

/-- The loggers among wrappers, the outermost first. -/
def Wrapper.loggers (wrappers : List Wrapper) : List Logger := wrappers.filterMap logger?

/-- The finished statement that a call runs, for the calls that run one. -/
def Call.statement? : Call β → Option Statement
  | .query _ _ => none
  | .queryTagged _ _ _ => none
  | .queryStatement s => some s
  | .fetchAll s => some s
  | .fetchOne s => some s
  | .fetchOptional s => some s
  | .fetchColumn _ s => some s
  | .fetchScalar _ s => some s
  | .fetchCount s => some s.toCount

namespace Logger

/-- The event of a statement of which only the parts are seen. -/
def eventOfParts (logger : Logger) (s : Statement) : Log.Event :=
  logger.event s.tag s.sql s.params.length

/-- The events of a statement that runs through loggers: one for each, and only the outermost sees
the statement as a whole. -/
def layered (s : Statement) : List Logger → List Log.Event
  | [] => []
  | outermost :: inner => outermost.eventOf s :: inner.map (eventOfParts · s)

/-- Without the statement a logger logs the same exactly if it shows no values, or if what differs
is cut off. -/
theorem eventOfParts_eq_eventOf_iff (logger : Logger) (s : Statement) :
    logger.eventOfParts s = logger.eventOf s ↔
      (logger.inlineValues = true → logger.cut s.inlined = logger.cut s.sql) := by
  unfold eventOfParts eventOf event
  cases logger.inlineValues with
  | false => simp
  | true => simp [eq_comm]

theorem layered_eq_map_iff (s : Statement) (loggers : List Logger) :
    layered s loggers = loggers.map (eventOf · s) ↔
      ∀ inner ∈ loggers.tail, inner.inlineValues = true →
        inner.cut s.inlined = inner.cut s.sql := by
  cases loggers with
  | nil => simp [layered]
  | cons outermost inner =>
    rw [layered, List.map_cons, List.cons.injEq, and_iff_right rfl, List.map_inj_left]
    simp only [eventOfParts_eq_eventOf_iff, List.tail_cons]

end Logger

/-! ### Runs and their events -/

/-- A run logs these events after all that was logged before. -/
def Logs (events : List Log.Event) (run : Run σ α) : Prop :=
  ∀ session, (run session).2.events = session.events ++ events

namespace Logs

variable {events : List Log.Event} {run : Run σ α}

/-- An endpoint logs nothing itself. -/
theorem onState (action : StateM σ α) : Logs [] (Client.onState action) :=
  fun _ => (List.append_nil _).symm

theorem emit (event : Log.Event) (logs : Logs events run) :
    Logs (event :: events) (Client.emit event >>= fun _ => run) := fun session => by
  have later := logs { session with events := session.events ++ [event] }
  rw [List.append_assoc, List.singleton_append] at later
  exact later

/-- What is made of a result logs nothing. -/
theorem map (logs : Logs events run) (f : α → β) :
    Logs events (run >>= fun a => Pure.pure (f a)) := fun session => logs session

end Logs

/-! ### Calls of a wrapped endpoint -/

namespace Client

open Wrapper (loggers)

variable (e : Endpoint σ) (wrappers : List Wrapper)

theorem logs_query (sql : String) (params : List Value) :
    Logs ((loggers wrappers).map fun logger => logger.event none sql params.length)
      ((Client.wrapped e wrappers).query sql params) := by
  induction wrappers with
  | nil => exact .onState _
  | cons wrapper inner ih =>
    cases wrapper with
    | shared => exact ih
    | logged logger => exact ih.emit _

theorem logs_queryTagged (tag sql : String) (params : List Value) :
    Logs ((loggers wrappers).map fun logger => logger.event (some tag) sql params.length)
      ((Client.wrapped e wrappers).queryTagged tag sql params) := by
  induction wrappers with
  | nil => exact .onState _
  | cons wrapper inner ih =>
    cases wrapper with
    | shared => exact ih
    | logged logger => exact ih.emit _

theorem logs_queryParts (s : Statement) :
    Logs ((loggers wrappers).map (Logger.eventOfParts · s))
      ((Client.wrapped e wrappers).queryParts s) := by
  unfold Client.queryParts Logger.eventOfParts
  cases s.tag with
  | none => exact logs_query e wrappers s.sql s.params
  | some tag => exact logs_queryTagged e wrappers tag s.sql s.params

/-- The first logger takes the statement apart; references around it only pass it on. -/
theorem logs_queryStatement (s : Statement) :
    Logs (Logger.layered s (loggers wrappers)) ((Client.wrapped e wrappers).queryStatement s) := by
  induction wrappers with
  | nil => exact logs_queryParts e [] s
  | cons wrapper inner ih =>
    cases wrapper with
    | shared => exact ih
    | logged logger => exact (logs_queryParts e inner s).emit _

theorem logs_call (c : Call β) {s : Statement} (h : c.statement? = some s) :
    Logs (Logger.layered s (loggers wrappers)) (c.run (.wrapped e wrappers)) := by
  have all := logs_queryStatement e wrappers
  have one (s : Statement) : Logs (Logger.layered s (loggers wrappers))
      (s.fetchOne (.wrapped e wrappers)) := (all s).map _
  cases c with
  | query sql params => cases h
  | queryTagged tag sql params => cases h
  | queryStatement t =>
    cases h
    exact all s
  | fetchAll t =>
    cases h
    exact all s
  | fetchOne t =>
    cases h
    exact one s
  | fetchOptional t =>
    cases h
    exact (all s).map _
  | fetchColumn read? t =>
    cases h
    exact (all s).map _
  | fetchScalar read? t =>
    cases h
    exact (one s).map _
  | fetchCount t =>
    cases h
    exact (one t.toCount).map _

end Client

/-- A statement that runs through any wrappers around any endpoint is logged once by every logger.
The outermost logs the statement, those inside log its parts; so each logs what it would log of the
statement exactly if every inner logger shows no values, or cuts off all that they change. -/
theorem Call.events_of_statement (e : Endpoint σ) (wrappers : List Wrapper) (c : Call β)
    (s : Statement) (h : c.statement? = some s) (session : Session σ) :
    let events := (c.run (.wrapped e wrappers) session).2.events
    let loggers := Wrapper.loggers wrappers
    events = session.events ++ Logger.layered s loggers ∧
      (events = session.events ++ loggers.map (Logger.eventOf · s) ↔
        ∀ inner ∈ loggers.tail, inner.inlineValues = true →
          inner.cut s.inlined = inner.cut s.sql) := by
  intro events loggers
  have logged : events = session.events ++ Logger.layered s loggers :=
    Client.logs_call e wrappers c h session
  refine ⟨logged, ?_⟩
  rw [logged, List.append_cancel_left_eq, Logger.layered_eq_map_iff]

/-- A statement about the items of one owner. -/
def byOwner : Statement :=
  (Statement.ofSql "SELECT id FROM items WHERE owner = $1" [.text "alice"]).tagged
    "items.by_owner"

/-- The inner one of two loggers is to show values, and logs a placeholder. -/
theorem Call.events_of_statement_inlining :
    let client := Client.wrapped Endpoint.plain [.logged {}, .logged { inlineValues := true }]
    (Call.fetchAll byOwner).statement? = some byOwner ∧
      ((Call.fetchAll byOwner).run client ⟨[], []⟩).2.events =
        [⟨.debug, "items.by_owner", 1, "SELECT id FROM items WHERE owner = $1"⟩,
          ⟨.debug, "items.by_owner", 1, "SELECT id FROM items WHERE owner = $1"⟩] ∧
      ({ inlineValues := true } : Logger).eventOf byOwner =
        ⟨.debug, "items.by_owner", 1, "SELECT id FROM items WHERE owner = 'alice'"⟩ := by
  have layers := events_of_statement Endpoint.plain
    [.logged {}, .logged { inlineValues := true }] (.fetchAll byOwner) byOwner rfl ⟨[], []⟩
  refine ⟨rfl, layers.1.trans ?_, by decide +kernel⟩
  decide +kernel

end BoundQuery
