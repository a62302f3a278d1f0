import BoundQuery.Composer

/-!
# Workbench

A program of drafting steps. The bench holds the draft worked on and the drafts it is
nested in; every step acts on the first. An error leaves the bench as it was and the
program goes on; a broken rule of use ends the program.
-/
namespace BoundQuery

structure Workbench where
  top : Draft
  below : List Draft

namespace Workbench

inductive Step where
  | bind (v : Value)
  | raw (sql : String)
  | compare (column : String) (comparison : Comparison) (v : Value)
  | test (column : String) (values : Value) (sense : Sense)
  | member (column : String) (values : Value)
  | nonMember (column : String) (values : Value) (orNull : Bool)
  | nullCheck (column : String) (expected : Bool)
  | join (left right : String) (columns : List String)
  | groups (columns : List String)
  | paginate (page limit : Int64)
  | close (sql : String)
  | extendBase (sql : String)
  | adopt (params : List Value)
  | conditions
  | describe (inline : Bool)
  | apply (column : String) (criterion : Criterion)
  | exclude (column : String) (criterion : Criterion) (orNull : Bool)
  | nest (sql : String)
  | foreign (sql : String) (params : List Value)
  | fold
  | absorb
  | compose (composer : Composer) (args : Arguments)

/-- What a step answers. -/
inductive Answer where
  | nothing
  | placeholder (p : Placeholder)
  | text (s : String)
  | texts (ss : List String)
  | described (sql : String) (params : List Value)

/-- What a step does: its answer, the bench after it, and the membership tests it wrote. -/
structure Effect where
  answer : Answer
  bench : Workbench
  reports : List Membership.Report

/-- The drafts side by side, the one worked on first. -/
def depth (w : Workbench) : Nat := w.below.length + 1

/-- A step that changes the first draft; what it wrote are the conditions added. -/
def revise (w : Workbench) (d : Draft) : Effect :=
  ⟨.nothing, { w with top := d },
    (d.conditions.drop w.top.conditions.length).flatMap Condition.reports⟩

def reply (w : Workbench) (answer : Answer) : Effect := ⟨answer, w, []⟩

def push (w : Workbench) (d : Draft) : Effect := reply ⟨d, w.top :: w.below⟩ .nothing

/-- Takes the first draft off and hands it, with the one below, to a step. -/
def pop (w : Workbench) (step : Draft → Draft → Except Fault (Answer × Draft)) :
    Except Failure Effect :=
  match w.below with
  | [] => .ok (reply w .nothing)
  | parent :: rest =>
    orFault ((step parent w.top).map fun (answer, d) => reply ⟨d, rest⟩ answer)

def perform (w : Workbench) : Step → Except Failure Effect
  | .bind v =>
    let (p, d) := w.top.bind v
    .ok (reply { w with top := d } (.placeholder p))
  | .raw sql => .ok (w.revise (w.top.addRaw (.ofString sql)))
  | .compare column comparison v => .ok (w.revise (w.top.addComparison column comparison v))
  | .test column values sense =>
    orError ((w.top.test? column values sense).map fun (condition, d) =>
      ⟨.text (SqlText.render condition.text), { w with top := d }, condition.reports⟩)
  | .member column values => orError ((w.top.addMember? column values).map w.revise)
  | .nonMember column values orNull =>
    orError ((w.top.addNonMember? column values orNull).map w.revise)
  | .nullCheck column expected => .ok (w.revise (w.top.addNullCheck column expected))
  | .join left right columns => .ok (w.revise (w.top.addJoin left right columns))
  | .groups columns => .ok (w.revise (w.top.addGroups columns))
  | .paginate page limit => orFault ((w.top.paginate page limit).map w.revise)
  | .close sql => .ok (w.revise (w.top.close (.ofString sql)))
  | .extendBase sql => .ok (w.revise (w.top.extendBase sql))
  | .adopt params => .ok (w.revise (w.top.adopt params))
  | .conditions =>
    .ok (w.reply (.texts (w.top.conditions.map fun c => SqlText.render c.text)))
  | .describe inline => .ok (w.reply (.described (w.top.describe inline) w.top.params))
  | .apply column criterion => .ok (w.revise (criterion.apply w.top column))
  | .exclude column criterion orNull => .ok (w.revise (criterion.exclude w.top column orNull))
  | .nest sql => .ok (w.push (w.top.nested sql))
  | .foreign sql params => .ok (w.push (Draft.seeded sql params))
  | .fold => w.pop fun parent sub => (parent.fold sub).map fun d => (.nothing, d)
  | .absorb => w.pop fun parent sub =>
    (parent.absorb sub).map fun (condition, d) => (.text (SqlText.render condition.text), d)
  | .compose composer args => (composer.apply args w.top).map w.revise

/-- One line of a program's account. -/
inductive Entry where
  | done (effect : Effect)
  | refused (e : Error) (bench : Workbench)
  | broken (f : Fault)

/-- Runs a program and accounts for each step. -/
def run (w : Workbench) : List Step → List Entry
  | [] => []
  | step :: steps =>
    match w.perform step with
    | .ok effect => .done effect :: run effect.bench steps
    | .error (.error e) => .refused e w :: run w steps
    | .error (.fault f) => [.broken f]

end Workbench

end BoundQuery
