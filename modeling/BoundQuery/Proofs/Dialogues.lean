import BoundQuery.Client.Fetch
import Mathlib.Tactic

/-!
# Dialogues with a client

A caller makes one call after the other and chooses each by the replies it has seen. What
a dialogue returns, what it does to the state of the endpoint and what the endpoint
receives do not depend on the wrappers around it: a shared client passes everything on,
and a logging one parts a statement as the endpoint itself would. Only the events differ.
-/
namespace BoundQuery

variable {σ τ α β : Type}

/-- A call that can be made of a client, with the type of what it returns. -/
inductive Call : Type → Type 1 where
  | query (sql : String) (params : List Value) : Call Reply
  | queryTagged (tag sql : String) (params : List Value) : Call Reply
  | queryStatement (s : Statement) : Call Reply
  | fetchAll (s : Statement) : Call Reply
  | fetchOne (s : Statement) : Call (Except Error Row)
  | fetchOptional (s : Statement) : Call (Except Error (Option Row))
  | fetchColumn {β : Type} (read? : Cell → Option β) (s : Statement) :
      Call (Except Error (List β))
  | fetchScalar {β : Type} (read? : Cell → Option β) (s : Statement) : Call (Except Error β)
  | fetchCount (s : Statement) : Call (Except Error Int64)

def Call.run (client : Client σ) : Call β → Run σ β
  | .query sql params => client.query sql params
  | .queryTagged tag sql params => client.queryTagged tag sql params
  | .queryStatement s => client.queryStatement s
  | .fetchAll s => s.fetchAll client
  | .fetchOne s => s.fetchOne client
  | .fetchOptional s => s.fetchOptional client
  | .fetchColumn read? s => s.fetchColumn read? client
  | .fetchScalar read? s => s.fetchScalar read? client
  | .fetchCount s => s.fetchCount client

/-- Calls one after the other, each chosen by the replies to those before it. A list of calls
that is settled beforehand is the case in which no choice is made. -/
inductive Dialogue (α : Type) : Type 1 where
  | done (a : α)
  | call {β : Type} (c : Call β) (next : β → Dialogue α)

def Dialogue.run (client : Client σ) : Dialogue α → Run σ α
  | .done a => pure a
  | .call c next => do (next (← c.run client)).run client

/-! ### Wrappers -/

inductive Wrapper where
  | shared
  | logged (logger : Logger)

/-- An endpoint behind wrappers, the outermost first. -/
def Client.wrapped (e : Endpoint σ) : List Wrapper → Client σ
  | [] => .endpoint e
  | .shared :: inner => .shared (wrapped e inner)
  | .logged logger :: inner => .logged logger (wrapped e inner)

/-- Every client is an endpoint behind wrappers. -/
theorem Client.exists_wrapped (client : Client σ) :
    ∃ e wrappers, client = .wrapped e wrappers := by
  induction client with
  | endpoint e => exact ⟨e, [], rfl⟩
  | shared inner ih =>
    obtain ⟨e, wrappers, rfl⟩ := ih
    exact ⟨e, .shared :: wrappers, rfl⟩
  | logged logger inner ih =>
    obtain ⟨e, wrappers, rfl⟩ := ih
    exact ⟨e, .logged logger :: wrappers, rfl⟩

/-! ### Runs seen from the endpoint -/

/-- Two runs that start from the same state of the endpoint give the same result and leave the
endpoint in the same state, whatever either of them logs. The first endpoint may keep more in
its state than the second one; `view` is what they share. -/
def Agree (view : τ → σ) (run : Run τ α) (other : Run σ α) : Prop :=
  ∀ s t, view s.state = t.state →
    (run s).1 = (other t).1 ∧ view (run s).2.state = (other t).2.state

namespace Agree

variable {view : τ → σ}

theorem pure (a : α) : Agree view (Pure.pure a) (Pure.pure a) := fun _ _ same => ⟨rfl, same⟩

theorem bind {run : Run τ α} {other : Run σ α} {next : α → Run τ β} {next' : α → Run σ β}
    (first : Agree view run other) (rest : ∀ a, Agree view (next a) (next' a)) :
    Agree view (run >>= next) (other >>= next') := by
  intro s t same
  have step := first s t same
  -- both first results are opened, so that one name stands for the result they share
  cases left : run s with | mk a s' =>
  cases right : other t with | mk b t' =>
  rw [left, right] at step
  obtain ⟨result, state⟩ := step
  cases result
  simpa only [Bind.bind, StateT.bind, left, right] using rest a s' t' state

/-- What is logged first does not matter. -/
theorem emit {run : Run τ α} {other : Run σ α} (event : Log.Event) (agree : Agree view run other) :
    Agree view (Client.emit event >>= fun _ => run) other :=
  fun s t same => agree { s with events := s.events ++ [event] } t same

end Agree

/-- One endpoint answers as another one does, as far as the state of the other one tells. -/
structure Endpoint.Follows (view : τ → σ) (f : Endpoint τ) (e : Endpoint σ) : Prop where
  query : ∀ sql params,
    Agree view (Client.onState (f.query sql params)) (Client.onState (e.query sql params))
  queryTagged : ∀ tag sql params,
    Agree view (Client.onState (f.queryTagged tag sql params))
      (Client.onState (e.queryTagged tag sql params))

namespace Endpoint.Follows

theorem refl (e : Endpoint σ) : e.Follows id e where
  query _ _ s t same := by
    cases s
    cases t
    cases same
    exact ⟨rfl, rfl⟩
  queryTagged _ _ _ s t same := by
    cases s
    cases t
    cases same
    exact ⟨rfl, rfl⟩

variable {view : τ → σ} {f : Endpoint τ} {e : Endpoint σ} (follows : f.Follows view e)
include follows

theorem query_agrees (wrappers : List Wrapper) (sql : String) (params : List Value) :
    Agree view ((Client.wrapped f wrappers).query sql params)
      ((Client.endpoint e).query sql params) := by
  induction wrappers with
  | nil => exact follows.query sql params
  | cons wrapper inner ih =>
    cases wrapper with
    | shared => exact ih
    | logged logger => exact ih.emit _

theorem queryTagged_agrees (wrappers : List Wrapper) (tag sql : String) (params : List Value) :
    Agree view ((Client.wrapped f wrappers).queryTagged tag sql params)
      ((Client.endpoint e).queryTagged tag sql params) := by
  induction wrappers with
  | nil => exact follows.queryTagged tag sql params
  | cons wrapper inner ih =>
    cases wrapper with
    | shared => exact ih
    | logged logger => exact ih.emit _

theorem queryParts_agrees (wrappers : List Wrapper) (s : Statement) :
    Agree view ((Client.wrapped f wrappers).queryParts s) ((Client.endpoint e).queryParts s) := by
  unfold Client.queryParts
  cases s.tag with
  | none => exact follows.query_agrees wrappers s.sql s.params
  | some tag => exact follows.queryTagged_agrees wrappers tag s.sql s.params

/-- A logging wrapper parts the statement where the endpoint would have done it. -/
theorem queryStatement_agrees (wrappers : List Wrapper) (s : Statement) :
    Agree view ((Client.wrapped f wrappers).queryStatement s)
      ((Client.endpoint e).queryStatement s) := by
  induction wrappers with
  | nil => exact follows.queryParts_agrees [] s
  | cons wrapper inner ih =>
    cases wrapper with
    | shared => exact ih
    | logged logger => exact (follows.queryParts_agrees inner s).emit _

theorem call_agrees (wrappers : List Wrapper) (c : Call β) :
    Agree view (c.run (.wrapped f wrappers)) (c.run (.endpoint e)) := by
  have all := follows.queryStatement_agrees wrappers
  have one : ∀ s : Statement,
      Agree view (s.fetchOne (.wrapped f wrappers)) (s.fetchOne (.endpoint e)) :=
    fun s => (all s).bind fun _ => .pure _
  cases c with
  | query sql params => exact follows.query_agrees wrappers sql params
  | queryTagged tag sql params => exact follows.queryTagged_agrees wrappers tag sql params
  | queryStatement s => exact all s
  | fetchAll s => exact all s
  | fetchOne s => exact one s
  | fetchOptional s => exact (all s).bind fun _ => .pure _
  | fetchColumn read? s => exact (all s).bind fun _ => .pure _
  | fetchScalar read? s => exact (one s).bind fun _ => .pure _
  | fetchCount s => exact (one s.toCount).bind fun _ => .pure _

/-- What one call keeps, a dialogue keeps. -/
theorem dialogue_agrees (wrappers : List Wrapper) (dialogue : Dialogue α) :
    Agree view (dialogue.run (.wrapped f wrappers)) (dialogue.run (.endpoint e)) := by
  induction dialogue with
  | done a => exact .pure a
  | call c next ih => exact (follows.call_agrees wrappers c).bind ih

end Endpoint.Follows

/-! ### What an endpoint receives -/

/-- A call that reaches an endpoint, with what it carries. -/
structure Receipt where
  tag : Option String
  sql : String
  params : List Value

/-- The state of an endpoint, and the calls it has received so far. -/
structure Watched (σ : Type) where
  state : σ
  received : List Receipt

/-- Notes a call and passes it on. -/
def Watched.noting (receipt : Receipt) (action : StateM σ α) : StateM (Watched σ) α := fun w =>
  let (a, state) := action w.state
  (a, ⟨state, w.received ++ [receipt]⟩)

/-- The endpoint with a record of what it receives. -/
def Endpoint.watched (e : Endpoint σ) : Endpoint (Watched σ) where
  query sql params := Watched.noting ⟨none, sql, params⟩ (e.query sql params)
  queryTagged tag sql params :=
    Watched.noting ⟨some tag, sql, params⟩ (e.queryTagged tag sql params)

/-- The record does not change how the endpoint answers. -/
theorem Endpoint.watched_follows (e : Endpoint σ) : e.watched.Follows Watched.state e where
  query _ _ s t same := by
    cases t
    cases same
    exact ⟨rfl, rfl⟩
  queryTagged _ _ _ s t same := by
    cases t
    cases same
    exact ⟨rfl, rfl⟩

/-- Wrappers are transparent. Whatever stands around an endpoint, a dialogue returns the same
and leaves the endpoint with the same state and the same record of received calls, tags, texts
and values included, as behind any other wrappers, and so as behind none; and the dialogue
returns the same, and comes to the same state of the endpoint, when no record is kept. -/
theorem Dialogue.run_wrapped (e : Endpoint σ) (wrappers others : List Wrapper)
    (dialogue : Dialogue α) (state : σ) (received : List Receipt) (events : List Log.Event) :
    let start : Session (Watched σ) := ⟨⟨state, received⟩, events⟩
    let run := dialogue.run (.wrapped e.watched wrappers) start
    let other := dialogue.run (.wrapped e.watched others) start
    let unwatched := dialogue.run (.endpoint e) ⟨state, events⟩
    run.1 = other.1 ∧ run.2.state = other.2.state ∧
      run.1 = unwatched.1 ∧ run.2.state.state = unwatched.2.state := by
  intro start run other unwatched
  have bare : ∀ around : List Wrapper,
      Agree id (dialogue.run (.wrapped e.watched around)) (dialogue.run (.endpoint e.watched)) :=
    fun around => (Endpoint.Follows.refl e.watched).dialogue_agrees around dialogue
  obtain ⟨result, left⟩ := bare wrappers start start rfl
  obtain ⟨result', left'⟩ := bare others start start rfl
  obtain ⟨kept, reached⟩ :=
    (e.watched_follows.dialogue_agrees wrappers dialogue) start ⟨state, events⟩ rfl
  exact ⟨result.trans result'.symm, left.trans left'.symm, kept, reached⟩

end BoundQuery
