import BoundQuery.Json.Token

/-!
# Reading JSON text

A document is built while its tokens are consumed from left to right. What is still
open is a list of frames, innermost first, so nesting is bounded by their number.
The last of repeated member names stays.
-/
namespace BoundQuery.Json

/-- A container that waits for the value of one of its places. -/
inductive Frame where
  | array (done : List Json)
  | object (done : List (String × Json)) (name : String)

/-- What may come next. The items of an open array are kept in reverse. -/
inductive Progress where
  | value (frames : List Frame)
  | firstItem (frames : List Frame)
  | firstName (frames : List Frame)
  | nextName (frames : List Frame) (done : List (String × Json))
  | colon (frames : List Frame) (done : List (String × Json)) (name : String)
  | afterItem (frames : List Frame) (done : List Json)
  | afterMember (frames : List Frame) (done : List (String × Json))
  | finished (document : Json)

/-- Arrays and objects nest at most this deep. -/
def maxDepth : Nat := 127

namespace Progress

/-- Puts a finished value where it was waited for. -/
def close (v : Json) : List Frame → Progress
  | [] => .finished v
  | .array done :: frames => .afterItem frames (v :: done)
  | .object done name :: frames => .afterMember frames (Entries.insert name v done)

/-- Starts a value with its first token. -/
def start? (frames : List Frame) : Token → Option Progress
  | .null => some (close .null frames)
  | .bool b => some (close (.bool b) frames)
  | .number n => some (close (.number n) frames)
  | .string s => some (close (.string s) frames)
  | .openArray => if frames.length < maxDepth then some (.firstItem frames) else none
  | .openObject => if frames.length < maxDepth then some (.firstName frames) else none
  | _ => none

def step? : Progress → Token → Option Progress
  | .value frames, token => start? frames token
  | .firstItem frames, .closeArray => some (close (.array []) frames)
  | .firstItem frames, token => start? (.array [] :: frames) token
  | .firstName frames, .closeObject => some (close (.object []) frames)
  | .firstName frames, .string name => some (.colon frames [] name)
  | .nextName frames done, .string name => some (.colon frames done name)
  | .colon frames done name, .colon => some (.value (.object done name :: frames))
  | .afterItem frames done, .comma => some (.value (.array done :: frames))
  | .afterItem frames done, .closeArray => some (close (.array done.reverse) frames)
  | .afterMember frames done, .comma => some (.nextName frames done)
  | .afterMember frames done, .closeObject => some (close (.object done) frames)
  | _, _ => none

end Progress

/-- The document of a list of tokens. -/
def ofTokens? (tokens : List Token) : Option Json :=
  match tokens.foldlM Progress.step? (.value []) with
  | some (.finished document) => some document
  | _ => none

/-- Reads a document from its text. -/
def read? (text : String) : Option Json :=
  (Token.tokens? text.toList).bind ofTokens?

end BoundQuery.Json
