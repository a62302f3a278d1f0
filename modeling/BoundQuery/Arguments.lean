import BoundQuery.Value

/-!
# Filter arguments

Arguments are values by name. A null value and an empty text count as absent, so
every reading goes through `get?`. A list arrives as a list or as text with commas
between its items; anything else is a list of itself.
-/
namespace BoundQuery

/-- The items between commas; a text without a comma is one item. -/
def splitCommas : List Char → List (List Char)
  | [] => [[]]
  | c :: rest =>
    if c = ',' then [] :: splitCommas rest
    else
      match splitCommas rest with
      | [] => [[c]]
      | item :: items => (c :: item) :: items

structure Arguments where
  values : Dictionary Value

namespace Arguments

def empty : Arguments := ⟨.empty⟩

def insert (args : Arguments) (name : String) (v : Value) : Arguments :=
  ⟨args.values.insert name v⟩

def ofList (entries : List (String × Value)) : Arguments := ⟨.ofList entries⟩

/-- The arguments of a document, which has to be an object. -/
def ofJson? : Json → Option Arguments
  | .object members => some (ofList (members.map fun (name, d) => (name, Value.ofJson d)))
  | _ => none

/-- Reads arguments from the text of an object. -/
def readJson? (text : String) : Option Arguments := (Json.read? text).bind ofJson?

def toJson (args : Arguments) : Json :=
  .object (args.values.entries.map fun (name, v) => (name, v.toJson))

/-- Equality of arguments: the same names with the same values, absent ones included. -/
def same (a b : Arguments) : Bool :=
  go a.values.entries b.values.entries
where
  go : List (String × Value) → List (String × Value) → Bool
    | [], [] => true
    | (m, v) :: xs, (n, w) :: ys => m == n && v.same w && go xs ys
    | _, _ => false

/-- A value that is neither null nor an empty text. -/
def present? : Value → Option Value
  | .null => none
  | .text s => if s = "" then none else some (.text s)
  | v => some v

def get? (args : Arguments) (name : String) : Option Value :=
  (args.values.lookup? name).bind present?

def text? (args : Arguments) (name : String) : Option String :=
  (args.get? name).bind Value.asText?

def int? (args : Arguments) (name : String) : Option Int64 :=
  (args.get? name).bind Value.asInt?

def float? (args : Arguments) (name : String) : Option Binary64 :=
  (args.get? name).bind Value.asFloat?

def flag? (args : Arguments) (name : String) : Option Bool :=
  (args.get? name).bind Value.asBool?

/-- The items of a present value. Empty items between commas are dropped, items of a list are
kept as they are. -/
def itemsOf : Value → List Value
  | .text s =>
    (splitCommas s.toList).filterMap fun item =>
      if item.isEmpty then none else some (.text (String.ofList item))
  | .list items => items
  | v => [v]

def list (args : Arguments) (name : String) : List Value :=
  match args.get? name with
  | none => []
  | some v => itemsOf v

/-- The present arguments whose name starts with a word, in the order of their names. -/
def startingWith (args : Arguments) (word : String) : List (String × Value) :=
  args.values.entries.filterMap fun (name, v) =>
    if word.toList.isPrefixOf name.toList then (present? v).map (name, ·) else none

theorem get?_insert (args : Arguments) (name asked : String) (v : Value) :
    (args.insert name v).get? asked = if asked = name then present? v else args.get? asked := by
  simp only [get?, insert, Dictionary.lookup?_insert]
  split <;> rfl

end Arguments

end BoundQuery
