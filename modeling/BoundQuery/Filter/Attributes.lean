import BoundQuery.Filter.Asset

/-!
# Attribute filter

An argument whose name is a source, perhaps a colon and a type, a point and an
attribute asks for that attribute in the data of an asset. The data of the asset and
of its template are searched by containment: one object for each source, and one
object for each attribute that may come from any source. All arguments are read
before the draft is touched.
-/
namespace BoundQuery.Filter

/-- Where an attribute may be found. -/
inductive AttributeSource where
  | any
  | immutableData
  | mutableData
  | templateData
  deriving DecidableEq

def AttributeSource.word : AttributeSource → String
  | .any => "data"
  | .immutableData => "immutable_data"
  | .mutableData => "mutable_data"
  | .templateData => "template_data"

def AttributeSource.all : List AttributeSource :=
  [.any, .immutableData, .mutableData, .templateData]

def AttributeSource.ofWord? (word : List Char) : Option AttributeSource :=
  all.find? fun source => source.word.toList == word

/-- The parts of an argument name; `member` is the attribute, as a member of an object. -/
structure AttributeKey where
  source : AttributeSource
  type : Option String
  member : String
  deriving DecidableEq

/-- The text before and after the first occurrence of a character. -/
def cutAt (separator : Char) : List Char → Option (List Char × List Char)
  | [] => none
  | c :: rest =>
    if c = separator then some ([], rest)
    else (cutAt separator rest).map fun (before, after) => (c :: before, after)

/-- Reads the part before the point: a source and its type. -/
def AttributeKey.readHead (head : List Char) : List Char × Option String :=
  match cutAt ':' head with
  | some (source, type) => (source, some (String.ofList type))
  | none => (head, none)

def AttributeKey.ofName? (name : String) : Option AttributeKey :=
  match cutAt '.' name.toList with
  | none => none
  | some (head, member) =>
    if member.isEmpty then none
    else
      let (word, type) := readHead head
      (AttributeSource.ofWord? word).map fun source => ⟨source, type, String.ofList member⟩

namespace Attributes

/-- An integer as it is, any other number when it is finite. -/
def numberOf? (v : Value) : Option JsonNumber :=
  match v.asInt? with
  | some n => some (.ofInt64 n)
  | none => v.asFloat?.bind JsonNumber.ofBinary64?

def expect (problem : ArgumentProblem) : Option Json → Except ArgumentProblem Json
  | some document => .ok document
  | none => .error problem

/-- The document that a value is compared as; a type fixes its kind. -/
def coerce (type : Option String) (v : Value) : Except ArgumentProblem Json :=
  match type with
  | none => .ok v.toJson
  | some type =>
    if type = "text" then expect .expectedText (v.toText?.map .string)
    else if type = "number" then expect .expectedNumber ((numberOf? v).map .number)
    else if type = "bool" then expect .expectedBoolean (v.asBool?.map .bool)
    else .error (.unknownDataType type)

/-- An attribute and the document asked for. -/
abbrev Term := String × Json

/-- The arguments of a source, in the order of their names. -/
def select (args : Arguments) (source : AttributeSource) : List (String × AttributeKey × Value) :=
  (args.startingWith source.word).filterMap fun (name, v) =>
    match AttributeKey.ofName? name with
    | some key => if key.source = source then some (name, key, v) else none
    | none => none

def term (entry : String × AttributeKey × Value) : Except Error Term :=
  let (name, key, v) := entry
  ((coerce key.type v).mapError (Error.invalid name)).map fun d => (key.member, d)

/-- What is asked of the attributes of a source. -/
def terms (args : Arguments) (source : AttributeSource) : Except Error (List Term) :=
  (select args source).mapM term

/-- What is asked of all sources. -/
structure Terms where
  any : List Term
  immutableData : List Term
  mutableData : List Term
  templateData : List Term

def allTerms (args : Arguments) : Except Error Terms := do
  let any ← terms args .any
  let immutableData ← terms args .immutableData
  let mutableData ← terms args .mutableData
  let templateData ← terms args .templateData
  return ⟨any, immutableData, mutableData, templateData⟩

/-- The object with the terms as its members, the last of a repeated attribute staying. -/
def objectOf (terms : List Term) : Value :=
  .json (.object (terms.foldl (fun members t => Entries.insert t.1 t.2 members) []))

/-- A nested statement over the template of the asset. -/
def templateOf (c : AssetColumns) (table : String) (d : Draft) : Draft :=
  (d.nested ("SELECT FROM " ++ templatesTable ++ " " ++ table)).addJoin table c.asset
    ["contract", "template_id"]

/-- Asks that a column of the asset contains some terms. -/
def requireIn (column : String) (terms : List Term) (d : Draft) : Draft :=
  if terms.isEmpty then d
  else
    let (p, d) := d.bind (objectOf terms)
    d.add (.group (.contains column p))

def requireInTemplate (c : AssetColumns) (terms : List Term) (d : Draft) : Except Fault Draft :=
  if terms.isEmpty then .ok d
  else
    let sub := templateOf c "data_template" d
    let (p, sub) := sub.bind (objectOf terms)
    d.fold (sub.add (.group (.contains "data_template.immutable_data" p)))

/-- Asks for one term in any of the sources. -/
def requireAnywhere (c : AssetColumns) (d : Draft) (t : Term) : Except Fault Draft :=
  let (p, d) := d.bind (objectOf [t])
  let sub := (templateOf c "any_template" d).add
    (.group (.contains "any_template.immutable_data" p))
  (d.absorb sub).map fun (hasRow, d) =>
    d.add (.group (.or
      (.or (.contains (c.asset ++ ".mutable_data") p) (.contains (c.asset ++ ".immutable_data") p))
      hasRow))

def require (c : AssetColumns) (t : Terms) (d : Draft) : Except Fault Draft := do
  let d := requireIn (c.asset ++ ".immutable_data") t.immutableData d
  let d := requireIn (c.asset ++ ".mutable_data") t.mutableData d
  let d ← requireInTemplate c t.templateData d
  t.any.foldlM (requireAnywhere c) d

end Attributes

/-- Applies every attribute argument. -/
def attributes (args : Arguments) (c : AssetColumns) (d : Draft) : Except Failure Draft := do
  let terms ← orError (Attributes.allTerms args)
  orFault (Attributes.require c terms d)

end BoundQuery.Filter
