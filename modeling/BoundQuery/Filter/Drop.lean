import BoundQuery.Criterion

/-!
# Drop states

A drop is created until it starts, active while it runs with claims left, sold out
when every unit is claimed, and ended when its time is over with claims left. A time
of zero is not set, and a maximum of zero is no limit. Where no time and no number is
negative, the conditions of the states exclude each other and leave out no drop.
-/
namespace BoundQuery.Filter

inductive DropState where
  | created
  | active
  | soldOut
  | ended
  deriving DecidableEq

structure DropColumns where
  startTime : String := "ndrop.start_time"
  endTime : String := "ndrop.end_time"
  maxClaimable : String := "ndrop.max_claimable"
  currentClaimed : String := "ndrop.current_claimed"

namespace DropState

def name : DropState → String
  | .created => "created"
  | .active => "active"
  | .soldOut => "sold_out"
  | .ended => "ended"

def all : List DropState := [.created, .active, .soldOut, .ended]

def ofName (name : String) : Except Error DropState :=
  match all.find? fun state => state.name == name with
  | some state => .ok state
  | none => .error (.invalid "state" (.unknownState name))

/-- Claims are left: there is no limit, or it is not reached. -/
def remaining (c : DropColumns) : Condition :=
  .group (.or (.compare (.column c.maxClaimable) .eq (.number 0))
    (.compare (.column c.currentClaimed) .lt (.column c.maxClaimable)))

def started (c : DropColumns) (now : Placeholder) : Condition :=
  .compareTo c.startTime .le now

/-- The condition of a state at an instant. -/
def condition (c : DropColumns) (now : Placeholder) : DropState → Condition
  | .created => .and (.compareTo c.startTime .gt now) (remaining c)
  | .active =>
    .and (.and (started c now)
      (.group (.or (.compare (.column c.endTime) .eq (.number 0))
        (.compareTo c.endTime .gt now)))) (remaining c)
  | .soldOut =>
    .and (.compare (.column c.maxClaimable) .gt (.number 0))
      (.compare (.column c.currentClaimed) .ge (.column c.maxClaimable))
  | .ended =>
    .and (.and (.and (started c now)
      (.compare (.column c.endTime) .gt (.number 0)))
      (.compareTo c.endTime .le now)) (remaining c)

def ofValue (v : Value) : Except Error DropState :=
  match v.asText? with
  | some name => ofName name
  | none => .error (.invalid "state" .expectedState)

/-- Keeps the first of each repeated state. -/
def distinct (states : List DropState) : List DropState :=
  states.foldl (fun kept state => if state ∈ kept then kept else kept ++ [state]) []

/-- The states asked for, each once, in the order they are named. -/
def requested (args : Arguments) : Except Error (List DropState) :=
  ((args.list "state").mapM ofValue).map distinct

/-- One state is asked for directly, several in parentheses each. -/
def anyOf (c : DropColumns) (now : Placeholder) (first : DropState) :
    List DropState → Condition
  | [] => .group (first.condition c now)
  | rest =>
    .group (.anyOf (.group (first.condition c now))
      (rest.map fun state => .group (state.condition c now)))

/-- Asks for one of some states, the instant being bound once. -/
def require (c : DropColumns) (now : Int64) (states : List DropState) (d : Draft) : Draft :=
  match states with
  | [] => d
  | first :: rest =>
    let (p, d) := d.bind (.int now)
    d.add (anyOf c p first rest)

end DropState

/-- Restricts drops to the states asked for, at an instant in milliseconds. -/
def drop (args : Arguments) (c : DropColumns) (now : Int64) (d : Draft) :
    Except Error Draft :=
  (DropState.requested args).map fun states => DropState.require c now states d

end BoundQuery.Filter
