import BoundQuery.Proofs.FilledText
import Mathlib.Data.List.TakeWhile

/-!
# Texts cut at their tokens

A text falls into what stands before its first dollar sign and, for each dollar sign, the
longest run of digits after it and what stands between those and the next one. There is
exactly one such cut. The literals of values are put in by one pass over it: a token is
replaced as a whole or copied as a whole, and nothing that is put in is looked at again.
-/
namespace BoundQuery

/-- A token of a dollar sign and digits, and what stands between it and the next token. -/
structure Stretch where
  digits : List Char
  after : List Char

namespace Stretch

def chars (s : Stretch) : List Char := '$' :: s.digits ++ s.after

/-- The token takes in every digit there is, and what follows it has no token. -/
structure Maximal (s : Stretch) : Prop where
  digits : ∀ c ∈ s.digits, c.isDigit = true
  ends : NoDigitAhead s.after
  plain : '$' ∉ s.after

/-- The literal of the value whose ordinal the digits denote; without such a value the token
is copied, and what follows it always is. -/
def substituted (params : List Value) (s : Stretch) : List Char :=
  let n := Decimal.valueOf s.digits
  (if h : 1 ≤ n ∧ n ≤ params.length then params[n - 1].literalChars else '$' :: s.digits) ++
    s.after

end Stretch

/-- A text as what stands before its first token and the stretches from there on. -/
structure Cut where
  before : List Char
  stretches : List Stretch

namespace Cut

def text (k : Cut) : List Char := k.before ++ k.stretches.flatMap Stretch.chars

/-- Every token takes in all the digits there are, and no token is left in what stands before,
between or after them. -/
structure Maximal (k : Cut) : Prop where
  before : '$' ∉ k.before
  each : ∀ s ∈ k.stretches, s.Maximal

def substituted (params : List Value) (k : Cut) : List Char :=
  k.before ++ k.stretches.flatMap (Stretch.substituted params)

/-- Cuts a text from its end: a dollar sign takes the digits off what stood before the first
token so far. -/
def of : List Char → Cut
  | [] => ⟨[], []⟩
  | c :: rest =>
    let k := of rest
    if c = '$' then
      ⟨[], ⟨k.before.takeWhile Char.isDigit, k.before.dropWhile Char.isDigit⟩ :: k.stretches⟩
    else ⟨c :: k.before, k.stretches⟩

theorem text_of (text : List Char) : (of text).text = text := by
  induction text with
  | nil => rfl
  | cons c rest ih =>
    have whole : (of rest).before ++ (of rest).stretches.flatMap Stretch.chars = rest := ih
    rw [of]
    split
    next h =>
      simp only [Cut.text, List.flatMap_cons, Stretch.chars, List.nil_append, List.cons_append,
        List.takeWhile_append_dropWhile, whole, h]
    next => simp only [Cut.text, List.cons_append, whole]

lemma noDigitAhead_dropWhile (text : List Char) : NoDigitAhead (text.dropWhile Char.isDigit) := by
  intro c hc
  have stops := List.head?_dropWhile_not Char.isDigit text
  rw [Option.mem_def.mp hc] at stops
  simpa using stops

theorem maximal_of (text : List Char) : (of text).Maximal := by
  induction text with
  | nil => exact ⟨nofun, nofun⟩
  | cons c rest ih =>
    rw [of]
    split
    next =>
      refine ⟨nofun, List.forall_mem_cons.mpr ⟨⟨?_, ?_, ?_⟩, ih.each⟩⟩
      · exact fun d hd => List.mem_takeWhile_imp hd
      · exact noDigitAhead_dropWhile _
      · exact fun hd => ih.before ((List.dropWhile_sublist _).subset hd)
    next h =>
      refine ⟨fun hd => ?_, ih.each⟩
      rcases List.mem_cons.mp hd with hd | hd
      · exact h hd.symm
      · exact ih.before hd

/-- A run of digits is taken off as a whole where no digit follows it. -/
lemma span_digits {digits after : List Char} (hd : ∀ c ∈ digits, c.isDigit = true)
    (ha : NoDigitAhead after) :
    (digits ++ after).takeWhile Char.isDigit = digits ∧
      (digits ++ after).dropWhile Char.isDigit = after := by
  rw [List.takeWhile_append_of_pos hd, List.dropWhile_append_of_pos hd]
  cases after with
  | nil => simp
  | cons c after =>
    have stops : c.isDigit = false := ha c rfl
    simp [stops]

lemma of_append {cs : List Char} (h : '$' ∉ cs) (rest : List Char) :
    of (cs ++ rest) = ⟨cs ++ (of rest).before, (of rest).stretches⟩ := by
  induction cs with
  | nil => rfl
  | cons c cs ih =>
    have hc : c ≠ '$' := fun e => h (e ▸ List.mem_cons_self)
    rw [List.cons_append, of, if_neg hc, ih fun hm => h (List.mem_cons_of_mem c hm)]
    rfl

/-- A cut into longest tokens is the only one of its text. -/
theorem Maximal.of_text {k : Cut} (h : k.Maximal) : of k.text = k := by
  obtain ⟨before, stretches⟩ := k
  -- behind the first token nothing stands before it, so each stretch gives back what it took
  have tail : of (stretches.flatMap Stretch.chars) = ⟨[], stretches⟩ := by
    have each := h.each
    clear h
    dsimp only at each
    induction stretches with
    | nil => rfl
    | cons s rest ih =>
      obtain ⟨first, others⟩ := List.forall_mem_cons.mp each
      have apart : '$' ∉ s.digits ++ s.after := by
        rw [List.mem_append, not_or]
        exact ⟨fun hd => absurd (first.digits _ hd) (by decide), first.plain⟩
      obtain ⟨taken, left⟩ := span_digits first.digits first.ends
      rw [List.flatMap_cons, Stretch.chars, List.cons_append, List.cons_append, of, if_pos rfl,
        of_append apart, ih others, List.append_nil, taken, left]
  rw [text, of_append h.before, tail, List.append_nil]

/-! ### The scan of a cut text -/

lemma noDigitAhead_append {s t : List Char} (hs : NoDigitAhead s) (ht : NoDigitAhead t) :
    NoDigitAhead (s ++ t) := by
  cases s with
  | nil => exact ht
  | cons c s => exact hs

lemma noDigitAhead_stretches (stretches : List Stretch) :
    NoDigitAhead (stretches.flatMap Stretch.chars) := by
  cases stretches with
  | nil => exact nofun
  | cons s rest =>
    intro c hc
    cases hc
    decide

lemma inline_characters (params : List Value) (cs : List Char) :
    (cs.map SqlToken.character).flatMap (SqlToken.inline params) = cs := by
  rw [List.flatMap_map]
  exact List.flatMap_singleton' cs

lemma inline_reference (params : List Value) (s : Stretch) :
    SqlToken.inline params (.reference s.digits) ++ s.after = s.substituted params := by
  have denoted : SqlToken.value? params (.reference s.digits) =
      Placeholder.value? params ⟨Decimal.valueOf s.digits⟩ := by
    cases s.digits <;> rfl
  rw [Placeholder.value?_eq] at denoted
  by_cases within : 1 ≤ Decimal.valueOf s.digits ∧ Decimal.valueOf s.digits ≤ params.length
  · rw [dif_pos within] at denoted
    rw [SqlToken.inline, denoted, Stretch.substituted, dif_pos within]
  · rw [dif_neg within] at denoted
    rw [SqlToken.inline, denoted, Stretch.substituted, dif_neg within]
    rfl

theorem inline_stretches (params : List Value) {stretches : List Stretch}
    (h : ∀ s ∈ stretches, s.Maximal) :
    (SqlToken.scan (stretches.flatMap Stretch.chars)).flatMap (SqlToken.inline params) =
      stretches.flatMap (Stretch.substituted params) := by
  induction stretches with
  | nil => rfl
  | cons s rest ih =>
    obtain ⟨first, others⟩ := List.forall_mem_cons.mp h
    have ahead : NoDigitAhead (s.after ++ rest.flatMap Stretch.chars) :=
      noDigitAhead_append first.ends (noDigitAhead_stretches rest)
    have scanned : SqlToken.scan (s.chars ++ rest.flatMap Stretch.chars) =
        .reference s.digits :: (s.after.map .character ++
          SqlToken.scan (rest.flatMap Stretch.chars)) := by
      rw [Stretch.chars, List.cons_append, List.cons_append, List.append_assoc,
        SqlToken.scan_reference first.digits ahead, SqlToken.scan_append_of_no_dollar first.plain]
    rw [List.flatMap_cons, scanned, List.flatMap_cons, List.flatMap_append, inline_characters,
      ih others, ← List.append_assoc, inline_reference, List.flatMap_cons]

theorem Maximal.inline_text (params : List Value) {k : Cut} (h : k.Maximal) :
    (SqlToken.scan k.text).flatMap (SqlToken.inline params) = k.substituted params := by
  rw [text, SqlToken.scan_append_of_no_dollar h.before, List.flatMap_append, inline_characters,
    inline_stretches params h.each, substituted]

/-- Without values nothing is replaced. -/
theorem substituted_nil (k : Cut) : k.substituted [] = k.text := by
  have each : Stretch.substituted [] = Stretch.chars := by
    funext s
    rw [Stretch.substituted, dif_neg fun h => by simp only [List.length_nil] at h; omega,
      Stretch.chars]
  rw [substituted, each, text]

end Cut

/-- The text of a statement has exactly one cut into longest tokens. Putting literals in is one
pass over that cut, and a statement without values keeps its text. -/
theorem Statement.inlined_eq_substituted (s : Statement) :
    (∃! k : Cut, k.Maximal ∧ k.text = s.sql.toList) ∧
      (∀ k : Cut, k.Maximal → k.text = s.sql.toList →
        s.inlined = String.ofList (k.substituted s.params)) ∧
      (s.params = [] → s.inlined = s.sql) := by
  have cut : ∀ k : Cut, k.Maximal → k.text = s.sql.toList →
      s.inlined = String.ofList (k.substituted s.params) := by
    intro k maximal whole
    rw [inlined, ← whole, maximal.inline_text]
  refine ⟨⟨Cut.of s.sql.toList, ⟨Cut.maximal_of _, Cut.text_of _⟩, ?_⟩, cut, ?_⟩
  · rintro k ⟨maximal, whole⟩
    rw [← whole, maximal.of_text]
  · intro none_bound
    rw [cut _ (Cut.maximal_of _) (Cut.text_of _), none_bound, Cut.substituted_nil, Cut.text_of,
      String.ofList_toList]

/-- A literal that looks like a token stays as it is, as do a token beyond the values and one
that stands for none. -/
theorem Statement.inlined_lookalikes :
    let s := Statement.ofSql "a $12 $1$0$ é$99999999999999999999 $02" [.text "$2 'x", .int 7]
    let k := Cut.of s.sql.toList
    k.Maximal ∧ k.text = s.sql.toList ∧ s.inlined = String.ofList (k.substituted s.params) ∧
      s.inlined = "a $12 '$2 ''x'$0$ é$99999999999999999999 7" ∧
      (Statement.ofSql "a $1" []).inlined = (Statement.ofSql "a $1" []).sql :=
  ⟨Cut.maximal_of _, Cut.text_of _,
    (Statement.inlined_eq_substituted _).2.1 _ (Cut.maximal_of _) (Cut.text_of _),
    by decide +kernel, (Statement.inlined_eq_substituted _).2.2 rfl⟩

end BoundQuery
