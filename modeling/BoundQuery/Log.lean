import BoundQuery.Statement

/-!
# Statement log

A logger turns a statement that is about to run into an event. It shows the text with
placeholders or with literals in their place, and it cuts a text that is too long in
bytes after the last whole character that fits.
-/
namespace BoundQuery

namespace Log

inductive Level where
  | error
  | warn
  | info
  | debug
  | trace
  deriving DecidableEq

def Level.name : Level → String
  | .error => "ERROR"
  | .warn => "WARN"
  | .info => "INFO"
  | .debug => "DEBUG"
  | .trace => "TRACE"

def Level.all : List Level := [.error, .warn, .info, .debug, .trace]

def Level.named? (name : String) : Option Level := all.find? fun level => level.name == name

/-- What is logged about a statement. -/
structure Event where
  level : Level
  tag : String
  paramCount : Nat
  sql : String
  deriving DecidableEq

/-- Counts back from a number of bytes to one after which a character of the text starts or the
text ends. -/
def backOff (text : String) : Nat → Nat
  | 0 => 0
  | bytes + 1 =>
    if (String.Pos.Raw.mk (bytes + 1)).isValid text then bytes + 1 else backOff text bytes

/-- A character starts or the text ends where the count stops, so the text can be cut there. -/
theorem isValid_backOff (text : String) (room : Nat) :
    (String.Pos.Raw.mk (backOff text room)).IsValid text := by
  induction room with
  | zero => exact String.Pos.Raw.isValid_zero
  | succ bytes ih =>
    rw [backOff]
    split
    next valid => exact String.Pos.Raw.isValid_eq_true_iff.mp valid
    next => exact ih

/-- A text that fits into a number of bytes, or as much of its beginning as does. -/
def beginning (room : Nat) (text : String) : String :=
  if text.utf8ByteSize ≤ room then text
  else (text.sliceTo (text.pos ⟨backOff text room⟩ (isValid_backOff text room))).copy

end Log

structure Logger where
  level : Log.Level := .debug
  maxLength : Option Nat := some 200
  inlineValues : Bool := false

namespace Logger

/-- Cuts a text that is longer than the maximum. -/
def cut (logger : Logger) (sql : String) : String :=
  match logger.maxLength with
  | none => sql
  | some room =>
    if room < sql.utf8ByteSize then Log.beginning room sql ++ "..." else sql

/-- The event of a statement given by its parts; a missing tag is shown as a dash. -/
def event (logger : Logger) (tag : Option String) (sql : String) (paramCount : Nat) : Log.Event :=
  ⟨logger.level, tag.getD "-", paramCount, logger.cut sql⟩

/-- The event of a statement, with its values in place if the logger shows them. -/
def eventOf (logger : Logger) (s : Statement) : Log.Event :=
  logger.event s.tag (if logger.inlineValues then s.inlined else s.sql) s.params.length

end Logger

end BoundQuery
