import BoundQuery.Condition.Meaning
import Mathlib.Tactic

/-!
# Reading a condition

A condition is written as a line of comparisons, conjunctions, disjunctions and parentheses, and a
server reads it back from that line alone: a conjunction binds tighter than a disjunction, and
parentheses are read first. The truth that is read this way is the truth of the condition wherever
no disjunction stands directly under a conjunction. Main statement: `Condition.read_lexemes`.
-/
namespace BoundQuery

namespace Truth

@[simp] theorem yes_and (t : Truth) : Truth.yes.and t = t := by cases t <;> rfl

@[simp] theorem no_or (t : Truth) : Truth.no.or t = t := by cases t <;> rfl

lemma and_assoc (r s t : Truth) : (r.and s).and t = r.and (s.and t) := by
  cases r <;> cases s <;> cases t <;> rfl

lemma or_assoc (r s t : Truth) : (r.or s).or t = r.or (s.or t) := by
  cases r <;> cases s <;> cases t <;> rfl

end Truth

/-- What the line of a condition is made of. -/
inductive Lexeme where
  | opening
  | closing
  | conjunction
  | disjunction
  | atom (c : Condition)

def Lexeme.text : Lexeme → SqlText
  | .opening => [.verbatim "("]
  | .closing => [.verbatim ")"]
  | .conjunction => [.verbatim " AND "]
  | .disjunction => [.verbatim " OR "]
  | .atom c => c.text

/-- The line of a condition, its structure given up. -/
def Condition.lexemes : Condition → List Lexeme
  | .and left right => left.lexemes ++ .conjunction :: right.lexemes
  | .or left right => left.lexemes ++ .disjunction :: right.lexemes
  | .group inner => .opening :: inner.lexemes ++ [.closing]
  | c => [.atom c]

/-- The line of a condition is its text. -/
theorem Condition.flatMap_lexemes (c : Condition) : c.lexemes.flatMap Lexeme.text = c.text := by
  induction c with
  | and left right ihl ihr => simp [lexemes, text, ihl, ihr, Lexeme.text]
  | or left right ihl ihr => simp [lexemes, text, ihl, ihr, Lexeme.text]
  | group inner ih => simp [lexemes, text, ih, Lexeme.text]
  | _ => simp [lexemes, Lexeme.text]

/-! ### The reader -/

/-- What was read between two parentheses: the disjunction of what is finished, and the conjunction
that is still being read. -/
structure Frame where
  finished : Truth
  current : Truth

def Frame.start : Frame := ⟨.no, .yes⟩

def Frame.truth (frame : Frame) : Truth := frame.finished.or frame.current

/-- The state of a reader: the innermost frame, those around it, and whether a condition is due. -/
structure Reading where
  frame : Frame
  outer : List Frame
  due : Bool

namespace Reading

/-- One more condition of the current conjunction is read. -/
def meet (t : Truth) (r : Reading) : Reading :=
  { r with frame := { r.frame with current := r.frame.current.and t }, due := false }

def step (i : Interpretation) (r : Reading) : Lexeme → Option Reading
  | .atom c => if r.due then some (r.meet (c.truth i)) else none
  | .opening => if r.due then some ⟨.start, r.frame :: r.outer, true⟩ else none
  | .conjunction => if r.due then none else some { r with due := true }
  | .disjunction => if r.due then none else some ⟨⟨r.frame.truth, .yes⟩, r.outer, true⟩
  | .closing =>
    match r.due, r.outer with
    | false, frame :: outer => some (meet r.frame.truth ⟨frame, outer, false⟩)
    | _, _ => none

def run (i : Interpretation) (r : Reading) (line : List Lexeme) : Option Reading :=
  line.foldlM (step i) r

lemma run_cons (i : Interpretation) (r : Reading) (lexeme : Lexeme) (line : List Lexeme) :
    run i r (lexeme :: line) = (step i r lexeme).bind fun r => run i r line :=
  List.foldlM_cons

lemma run_append (i : Interpretation) (r : Reading) (line more : List Lexeme) :
    run i r (line ++ more) = (run i r line).bind fun r => run i r more :=
  List.foldlM_append

/-- The truth read once no condition is due and every parenthesis is closed. -/
def truth? (r : Reading) : Option Truth :=
  if r.due = false ∧ r.outer = [] then some r.frame.truth else none

end Reading

/-- The truth that a line is read as. -/
def Lexeme.read (i : Interpretation) (line : List Lexeme) : Option Truth :=
  (Reading.run i ⟨.start, [], true⟩ line).bind Reading.truth?

namespace Condition

/-- A disjunction outside of parentheses. -/
def IsDisjunction : Condition → Prop
  | .or _ _ => True
  | _ => False

/-- No disjunction stands directly under a conjunction. -/
def Layered : Condition → Prop
  | .and left right =>
    (left.Layered ∧ ¬ left.IsDisjunction) ∧ right.Layered ∧ ¬ right.IsDisjunction
  | .or left right => left.Layered ∧ right.Layered
  | .group inner => inner.Layered
  | _ => True

/-- Alternatives are layered where each of them is. -/
lemma layered_anyOf {first : Condition} {rest : List Condition} (h : first.Layered)
    (hrest : ∀ c ∈ rest, c.Layered) : (anyOf first rest).Layered := by
  induction rest generalizing first with
  | nil => exact h
  | cons second rest ih =>
    obtain ⟨next, others⟩ := List.forall_mem_cons.mp hrest
    have both : (Condition.or first second).Layered := ⟨h, next⟩
    exact ih both others

variable {i : Interpretation} {c : Condition}

/-- What reading a condition does in the middle of a line. A disjunction finishes the conjunction
before it, so it is read at the start of one only. -/
def ReadsAs (i : Interpretation) (c : Condition) : Prop :=
  (¬ c.IsDisjunction → ∀ frame outer,
    Reading.run i ⟨frame, outer, true⟩ c.lexemes =
      some (Reading.meet (c.truth i) ⟨frame, outer, true⟩)) ∧
  ∀ finished outer, ∃ frame : Frame, frame.truth = finished.or (c.truth i) ∧
    Reading.run i ⟨⟨finished, .yes⟩, outer, true⟩ c.lexemes = some ⟨frame, outer, false⟩

/-- A condition that is no disjunction is read as one condition of a conjunction. -/
lemma readsAs_of_meet (h : ∀ frame outer, Reading.run i ⟨frame, outer, true⟩ c.lexemes =
    some (Reading.meet (c.truth i) ⟨frame, outer, true⟩)) : c.ReadsAs i := by
  refine ⟨fun _ => h, fun finished outer => ⟨⟨finished, c.truth i⟩, rfl, ?_⟩⟩
  rw [h, Reading.meet, Truth.yes_and]

/-- Reading a layered condition reads its truth. -/
theorem readsAs_of_layered (h : c.Layered) : c.ReadsAs i := by
  induction c with
  | and left right ihl ihr =>
    obtain ⟨⟨hl, hleft⟩, hr, hright⟩ := h
    apply readsAs_of_meet
    intro frame outer
    rw [lexemes, Reading.run_append, (ihl hl).1 hleft, Option.bind_some, Reading.run_cons]
    have due := (ihr hr).1 hright { frame with current := frame.current.and (left.truth i) } outer
    refine due.trans ?_
    rw [Reading.meet, Reading.meet, Truth.and_assoc]
    rfl
  | or left right ihl ihr =>
    refine ⟨fun hno => absurd trivial hno, fun finished outer => ?_⟩
    obtain ⟨first, hfirst, hrun⟩ := (ihl h.1).2 finished outer
    obtain ⟨second, hsecond, hrun'⟩ := (ihr h.2).2 first.truth outer
    refine ⟨second, ?_, ?_⟩
    · rw [hsecond, hfirst, Truth.or_assoc]
      rfl
    · rw [lexemes, Reading.run_append, hrun, Option.bind_some, Reading.run_cons]
      exact hrun'
  | group inner ih =>
    apply readsAs_of_meet
    intro frame outer
    obtain ⟨last, hlast, hrun⟩ := (ih h).2 .no (frame :: outer)
    have opened : Reading.step i ⟨frame, outer, true⟩ .opening =
        some ⟨.start, frame :: outer, true⟩ := rfl
    have closed : Reading.step i ⟨last, frame :: outer, false⟩ .closing =
        some (Reading.meet last.truth ⟨frame, outer, false⟩) := rfl
    rw [lexemes, List.cons_append, Reading.run_cons, opened, Option.bind_some, Reading.run_append,
      Frame.start, hrun, Option.bind_some, Reading.run_cons, closed, hlast, Truth.no_or]
    rfl
  | _ => exact readsAs_of_meet fun frame outer => rfl

/-- The line of a layered condition is read as the truth of the condition. -/
theorem read_lexemes (h : c.Layered) : Lexeme.read i c.lexemes = some (c.truth i) := by
  obtain ⟨frame, htruth, hrun⟩ := (readsAs_of_layered h (i := i)).2 .no []
  rw [Lexeme.read, Frame.start, hrun]
  simp [Reading.truth?, htruth]

end Condition

end BoundQuery
