import BoundQuery.Draft
import BoundQuery.Proofs.FilledText

/-!
# Conditions with their values in place

What each form of condition shows, given what stands behind its placeholders. The filled texts of
composed conditions are put together from those of their parts, so a condition is filled by its
structure and not by its characters.
-/
namespace BoundQuery

namespace FilledText

def group (t : FilledText) : FilledText := ofString "(" ++ t ++ ofString ")"

/-- A keyword and a separated list after it, or nothing for no items. -/
def clause (keyword separator : String) : List FilledText → FilledText
  | [] => []
  | items => ofString keyword ++ joinWith separator items

/-- A column compared with a value. -/
def comparison (column : String) (comparison : Comparison) (v : Value) : FilledText :=
  ofString (column ++ " " ++ comparison.symbol ++ " ") ++ [.value v]

/-- A column compared with a text that stands for itself. -/
def compared (left : String) (comparison : Comparison) (right : String) : FilledText :=
  ofString (left ++ " " ++ comparison.symbol ++ " " ++ right)

/-- A column tested for containing a value. -/
def contains (column : String) (v : Value) : FilledText :=
  ofString (column ++ " @> ") ++ [.value v] ++ ofString "::jsonb"

end FilledText

open FilledText (ofString)

namespace Membership

/-- A membership test with its values in place. -/
def filled (column : String) (sense : Sense) : List Value → FilledText
  | [] => ofString (match sense with | .allow => "1=0" | .deny => "1=1")
  | [v] => ofString (column ++ match sense with | .allow => " = " | .deny => " != ") ++ [.value v]
  | values =>
    if values.length ≤ unnestThreshold then
      ofString (column ++ match sense with | .allow => " = ANY(" | .deny => " != ALL(")
        ++ [.value (.list values)] ++ ofString ")"
    else
      ofString ((match sense with | .allow => "" | .deny => "NOT ")
        ++ "EXISTS (SELECT FROM UNNEST(") ++ [.value (.list values)]
        ++ ofString ("::" ++ (ArrayType.infer values).sql ++ ") u(c) WHERE u.c = " ++ column ++ ")")

/-- The values that a membership test binds. -/
def bound : List Value → List Value
  | [] => []
  | [v] => [v]
  | values => [.list values]

end Membership

/-- Two lists made of one list are related item by item. -/
lemma forall₂_map_map {α β γ : Type} {R : β → γ → Prop} {f : α → β} {g : α → γ} (items : List α)
    (h : ∀ x, R (f x) (g x)) : List.Forall₂ R (items.map f) (items.map g) := by
  rw [List.forall₂_map_left_iff, List.forall₂_map_right_iff, List.forall₂_same]
  exact fun x _ => h x

variable {m : Nat} {params : List Value}

namespace SqlText

variable {t : SqlText} {shown shown' : FilledText}

lemma Shows.congr (h : t.Shows m params shown) (he : shown = shown') :
    t.Shows m params shown' := he ▸ h

/-- A text without placeholders shows itself. -/
lemma shows_ofString (s : String) : (SqlText.ofString s).Shows m params (.ofString s) :=
  (shows_nil.verbatim s).congr (List.append_nil _)

/-- A text in parentheses. -/
lemma Shows.group (h : t.Shows m params shown) :
    (.verbatim "(" :: t ++ [.verbatim ")"] : SqlText).Shows m params shown.group :=
  (h.verbatim "(").append (shows_ofString ")")

lemma Shows.clause {ts : List SqlText} {texts : List FilledText} (keyword separator : String)
    (h : List.Forall₂ (fun t shown => t.Shows m params shown) ts texts) :
    (Draft.clause keyword separator ts).Shows m params
      (FilledText.clause keyword separator texts) := by
  cases h with
  | nil => exact shows_nil
  | cons ht hts => exact (Shows.joinWith separator (.cons ht hts)).verbatim keyword

/-- Closing clauses are written one after the other. -/
lemma Shows.closing {ts : List SqlText} {texts : List FilledText}
    (h : List.Forall₂ (fun t shown => t.Shows m params shown) ts texts) :
    Shows (ts.flatMap fun t => .verbatim " " :: t) m params
      (texts.flatMap fun t => FilledText.ofString " " ++ t) := by
  induction h with
  | nil => exact shows_nil
  | cons ht _ ih => exact (ht.verbatim " ").append ih

end SqlText

namespace Condition

variable {c c' : Condition} {p : Placeholder} {v : Value} {shown shown' : FilledText}

lemma shows_compareTo (column : String) (comparison : Comparison)
    (hp : p.value? params = some v) (hm : m < p.ordinal) :
    (compareTo column comparison p).text.Shows m params (.comparison column comparison v) := by
  have marker : SqlText.Shows [.placeholder p] m params [.value v] :=
    SqlText.shows_nil.placeholder hp hm
  have tested := (marker.verbatim (" " ++ comparison.symbol ++ " ")).verbatim column
  exact tested.congr (by simp [FilledText.comparison])

lemma shows_contains (column : String) (hp : p.value? params = some v) (hm : m < p.ordinal) :
    (Condition.contains column p).text.Shows m params (.contains column v) := by
  have tested := ((SqlText.shows_ofString "::jsonb").placeholder hp hm).verbatim (column ++ " @> ")
  exact tested.congr (by simp [FilledText.contains])

/-- Two columns compared, or a column and a number, show themselves. -/
lemma shows_compare {right : Operand} {written : String} (left : String) (comparison : Comparison)
    (h : right.text = .ofString written) :
    (Condition.compare (.column left) comparison right).text.Shows m params
      (.compared left comparison written) := by
  have right_hand : right.text.Shows m params (.ofString written) :=
    h ▸ SqlText.shows_ofString written
  have compared := (right_hand.verbatim (" " ++ comparison.symbol ++ " ")).verbatim left
  exact compared.congr (by simp [FilledText.compared])

lemma shows_isNull (column : String) (expected : Bool) :
    (Condition.isNull column expected).text.Shows m params
      (.ofString (column ++ if expected then " IS NULL" else " IS NOT NULL")) :=
  SqlText.shows_ofString _

lemma shows_anyRow {t : SqlText} (h : t.Shows m params shown) :
    (Condition.anyRow t).text.Shows m params (ofString "EXISTS(" ++ shown ++ ofString ")") :=
  (h.verbatim "EXISTS(").append (SqlText.shows_ofString ")")

lemma shows_and (h : c.text.Shows m params shown) (h' : c'.text.Shows m params shown') :
    (Condition.and c c').text.Shows m params (shown ++ ofString " AND " ++ shown') :=
  (h.append (h'.verbatim " AND ")).congr (List.append_assoc _ _ _).symm

lemma shows_or (h : c.text.Shows m params shown) (h' : c'.text.Shows m params shown') :
    (Condition.or c c').text.Shows m params (shown ++ ofString " OR " ++ shown') :=
  (h.append (h'.verbatim " OR ")).congr (List.append_assoc _ _ _).symm

lemma shows_orNull (column : String) (h : c.text.Shows m params shown) :
    (c.orNull column).text.Shows m params
      (FilledText.group (shown ++ ofString (" OR " ++ column ++ " IS NULL"))) :=
  ((shows_or h (shows_isNull column true)).congr (by simp)).group

/-- Alternatives are written one after the other. -/
lemma text_anyOf (first : Condition) (rest : List Condition) :
    (anyOf first rest).text = SqlText.joinWith " OR " (first.text :: rest.map Condition.text) := by
  induction rest generalizing first with
  | nil => rfl
  | cons second rest ih =>
    have step : anyOf first (second :: rest) = anyOf (.or first second) rest := rfl
    rw [step, ih]
    cases rest with
    | nil => rfl
    | cons third rest => simp [SqlText.joinWith, text]

lemma shows_anyOf {first : Condition} {rest : List Condition} {texts : List FilledText}
    (h : List.Forall₂ (fun (c : Condition) shown => c.text.Shows m params shown) (first :: rest)
      texts) :
    (anyOf first rest).text.Shows m params (FilledText.joinWith " OR " texts) := by
  rw [text_anyOf, ← List.map_cons]
  exact SqlText.Shows.joinWith " OR " (List.forall₂_map_left_iff.mpr h)

end Condition

namespace Membership.Test

lemma choose_snd (next : Placeholder) (values : List Value) :
    (choose next values).2 = bound values := by
  rcases values with _ | ⟨v, _ | ⟨w, rest⟩⟩ <;> rfl

/-- A test shows the values behind its placeholder. -/
theorem shows_choose {p : Placeholder} {values : List Value} (hm : m < p.ordinal)
    (hp : ∀ v ∈ bound values, p.value? params = some v) (column : String) (sense : Sense) :
    ((choose p values).1.text column sense).Shows m params (filled column sense values) := by
  have marker {v : Value} (hv : v ∈ bound values) {t : SqlText} {shown : FilledText}
      (ht : t.Shows m params shown) :
      SqlText.Shows (.placeholder p :: t) m params (.value v :: shown) :=
    ht.placeholder (hp v hv) hm
  rcases values with _ | ⟨v, _ | ⟨w, rest⟩⟩
  · cases sense
    · exact SqlText.shows_ofString "1=0"
    · exact SqlText.shows_ofString "1=1"
  · have single : v ∈ bound [v] := List.mem_singleton_self v
    cases sense
    · exact (marker single SqlText.shows_nil).verbatim _
    · exact (marker single SqlText.shows_nil).verbatim _
  · have listed : .list (v :: w :: rest) ∈ bound (v :: w :: rest) := List.mem_singleton_self _
    have tail (s : String) := marker listed (SqlText.shows_ofString s)
    simp only [choose, filled]
    by_cases few : (v :: w :: rest).length ≤ unnestThreshold
    · rw [if_pos few, if_pos few]
      cases sense
      · exact ((tail ")").verbatim (column ++ " = ANY(")).congr (by simp)
      · exact ((tail ")").verbatim (column ++ " != ALL(")).congr (by simp)
    · rw [if_neg few, if_neg few]
      have unnested := (tail ("::" ++ (ArrayType.infer (v :: w :: rest)).sql
        ++ ") u(c) WHERE u.c = " ++ column ++ ")")).verbatim "EXISTS (SELECT FROM UNNEST("
      cases sense
      · exact unnested.congr (by simp)
      · exact (unnested.verbatim "NOT ").congr (by simp [-String.reduceAppend])

end Membership.Test

namespace Draft

/-- The placeholder handed out for a value stands for it from then on. -/
lemma value?_next (d : Draft) (v : Value) : d.next.value? (d.params ++ [v]) = some v :=
  d.value?_bind v

lemma length_lt_next (d : Draft) : d.params.length < d.next.ordinal := Nat.lt_succ_self _

lemma test_snd (d : Draft) (column : String) (values : List Value) (sense : Sense) :
    (d.test column values sense).2 =
      { d with params := d.params ++ Membership.bound values } := by
  rw [← Membership.Test.choose_snd d.next]
  rfl

/-- A test shows its values once they are bound. -/
theorem shows_test (d : Draft) (column : String) (values : List Value) (sense : Sense) :
    (d.test column values sense).1.text.Shows d.params.length
      (d.params ++ Membership.bound values) (Membership.filled column sense values) := by
  refine Membership.Test.shows_choose d.length_lt_next ?_ column sense
  intro v hv
  rcases values with _ | ⟨w, _ | ⟨u, rest⟩⟩
  · cases hv
  · rw [List.mem_singleton.mp hv]
    exact d.value?_next w
  · rw [List.mem_singleton.mp hv]
    exact d.value?_next _

end Draft

end BoundQuery
