import BoundQuery.Condition
import BoundQuery.Statement
import Mathlib.Tactic

/-!
# Numbered placeholders

The tokens found by scanning a rendered text are the placeholders of its pieces, as
long as the pieces are delimited: text that stands for itself has no dollar sign, and
no digit follows a placeholder. The placeholders of a text are numbered when their
ordinals, each taken where it is met first, count upwards without a gap.
-/
namespace BoundQuery

/-- Text in which no placeholder can hide. -/
def Plain (s : String) : Prop := '$' ∉ s.toList

instance (s : String) : Decidable (Plain s) := inferInstanceAs (Decidable ('$' ∉ s.toList))

@[simp] theorem plain_append {s t : String} : Plain (s ++ t) ↔ Plain s ∧ Plain t := by
  simp [Plain]

lemma Plain.append {s t : String} (hs : Plain s) (ht : Plain t) : Plain (s ++ t) :=
  plain_append.mpr ⟨hs, ht⟩

/-- The text goes on with a character that is not a digit, or not at all. -/
def NoDigitAhead (text : List Char) : Prop := ∀ c ∈ text.head?, c.isDigit = false

/-- The first character of a text is there and is not a digit. -/
def OpensApart (s : String) : Prop := ∃ c ∈ s.toList.head?, c.isDigit = false

instance (s : String) : Decidable (OpensApart s) :=
  decidable_of_iff ((s.toList.head?.any fun c => !c.isDigit) = true) (by
    simp only [Option.any_eq_true, Bool.not_eq_true', OpensApart, Option.mem_def])

lemma opensApart_append {s : String} (h : OpensApart s) (t : String) : OpensApart (s ++ t) := by
  obtain ⟨c, hc, hd⟩ := h
  refine ⟨c, ?_, hd⟩
  rw [String.toList_append, List.head?_append]
  simp [Option.mem_def.mp hc]

namespace SqlText

/-- The pieces can be told apart in the rendered text. The flag says whether a
placeholder stands right before them. -/
def Delimited (after : Bool) : SqlText → Prop
  | [] => True
  | .verbatim s :: t => Plain s ∧ (after = true → OpensApart s) ∧ Delimited false t
  | .placeholder _ :: t => Delimited true t

@[simp] theorem delimited_nil (after : Bool) : Delimited after [] := trivial

@[simp] theorem delimited_verbatim {after : Bool} {s : String} {t : SqlText} :
    Delimited after (.verbatim s :: t) ↔
      Plain s ∧ (after = true → OpensApart s) ∧ Delimited false t := Iff.rfl

@[simp] theorem delimited_placeholder {after : Bool} {p : Placeholder} {t : SqlText} :
    Delimited after (.placeholder p :: t) ↔ Delimited true t := Iff.rfl

lemma Delimited.weaken {t : SqlText} (h : Delimited true t) (after : Bool) :
    Delimited after t := by
  cases t with
  | nil => trivial
  | cons piece t =>
    cases piece with
    | verbatim s => exact ⟨h.1, fun _ => h.2.1 rfl, h.2.2⟩
    | placeholder p => exact h

/-- What follows a delimited text has to open apart, since the text may end in a
placeholder. -/
theorem Delimited.append {after : Bool} {s t : SqlText} (hs : Delimited after s)
    (ht : Delimited true t) : Delimited after (s ++ t) := by
  induction s generalizing after with
  | nil => exact ht.weaken after
  | cons piece s ih =>
    cases piece with
    | verbatim v => exact ⟨hs.1, hs.2.1, ih hs.2.2⟩
    | placeholder p =>
      have rest : Delimited true s := hs
      exact ih rest

/-- A separator that opens apart keeps the texts around it delimited. -/
theorem Delimited.joinWith {separator : String} (hp : Plain separator)
    (ho : OpensApart separator) {ts : List SqlText} (h : ∀ t ∈ ts, Delimited false t) :
    Delimited false (joinWith separator ts) := by
  fun_induction SqlText.joinWith separator ts with
  | case1 => trivial
  | case2 t => exact h t List.mem_cons_self
  | case3 t ts _ ih =>
    have rest := ih fun s hs => h s (List.mem_cons_of_mem _ hs)
    exact (h t List.mem_cons_self).append ⟨hp, fun _ => ho, rest⟩

@[simp] theorem ordinals_nil : ordinals [] = [] := rfl

@[simp] theorem ordinals_verbatim (s : String) (t : SqlText) :
    ordinals (.verbatim s :: t) = ordinals t := rfl

@[simp] theorem ordinals_placeholder (p : Placeholder) (t : SqlText) :
    ordinals (.placeholder p :: t) = p.ordinal :: ordinals t := rfl

theorem ordinals_joinWith (separator : String) (ts : List SqlText) :
    ordinals (joinWith separator ts) = ts.flatMap ordinals := by
  fun_induction joinWith separator ts with
  | case1 => rfl
  | case2 t => simp
  | case3 t ts _ ih => simp [ih]

end SqlText

/-! ### Scanning a rendered text -/

namespace SqlToken

/-- What is no dollar sign stands for itself. -/
lemma scan_append_of_no_dollar {cs : List Char} (h : '$' ∉ cs) (rest : List Char) :
    scan (cs ++ rest) = cs.map .character ++ scan rest := by
  induction cs with
  | nil => rfl
  | cons c cs ih =>
    have hc : c ≠ '$' := fun e => h (e ▸ List.mem_cons_self)
    have step : scan (c :: (cs ++ rest)) = .character c :: scan (cs ++ rest) := by
      simp [scan, scanFrom, hc]
    rw [List.cons_append, step, ih fun hm => h (List.mem_cons_of_mem c hm), List.map_cons,
      List.cons_append]

/-- An open reference takes in all digits up to a character that is none. -/
lemma scanFrom_digits {ds : List Char} (hd : ∀ c ∈ ds, c.isDigit = true) {rest : List Char}
    (hr : NoDigitAhead rest) (held : List Char) :
    scanFrom (some held) (ds ++ rest) = .reference (held.reverse ++ ds) :: scan rest := by
  induction ds generalizing held with
  | nil =>
    cases rest with
    | nil => simp [scan, scanFrom]
    | cons c rest =>
      have hc : c.isDigit = false := hr c rfl
      by_cases h : c = '$'
      · simp [scan, scanFrom, h]
      · simp [scan, scanFrom, h, hc]
  | cons d ds ih =>
    have hdigit : d.isDigit = true := hd d List.mem_cons_self
    rw [List.cons_append, scanFrom, if_pos hdigit, ih fun c hc => hd c (List.mem_cons_of_mem d hc)]
    simp

/-- A dollar sign and all the digits after it are one token. -/
lemma scan_reference {digits : List Char} (hd : ∀ c ∈ digits, c.isDigit = true) {rest : List Char}
    (hr : NoDigitAhead rest) : scan ('$' :: (digits ++ rest)) = .reference digits :: scan rest := by
  have step := scanFrom_digits hd hr []
  simpa [scan, scanFrom] using step

lemma scan_placeholder (p : Placeholder) {rest : List Char} (hr : NoDigitAhead rest) :
    scan (p.chars ++ rest) = .reference (Nat.toDigits 10 p.ordinal) :: scan rest := by
  have hdigits : ∀ c ∈ Nat.toDigits 10 p.ordinal, c.isDigit = true := fun c hc =>
    Nat.isDigit_of_mem_toDigits (by decide) (by decide) hc
  exact scan_reference hdigits hr

/-- The digits written for a placeholder denote its ordinal. -/
lemma ordinal?_reference (p : Placeholder) :
    ordinal? (.reference (Nat.toDigits 10 p.ordinal)) = some p.ordinal := by
  have denoted : Decimal.valueOf (Nat.toDigits 10 p.ordinal) = p.ordinal :=
    Nat.ofDigitChars_ten_toDigits
  cases hd : Nat.toDigits 10 p.ordinal with
  | nil => exact absurd hd Nat.toDigits_ne_nil
  | cons d ds => rw [ordinal?, ← hd, denoted]

/-- The ordinals of the placeholder tokens of a text, in the order of the text. -/
def references (text : List Char) : List Nat := (scan text).filterMap ordinal?

lemma references_append_of_no_dollar {cs : List Char} (h : '$' ∉ cs) (rest : List Char) :
    references (cs ++ rest) = references rest := by
  have silent : (cs.map SqlToken.character).filterMap ordinal? = [] :=
    List.filterMap_eq_nil_iff.mpr (List.forall_mem_map.mpr fun _ _ => rfl)
  rw [references, scan_append_of_no_dollar h, List.filterMap_append, silent]
  rfl

lemma references_placeholder (p : Placeholder) {rest : List Char} (hr : NoDigitAhead rest) :
    references (p.chars ++ rest) = p.ordinal :: references rest := by
  rw [references, scan_placeholder p hr, List.filterMap_cons, ordinal?_reference]
  rfl

end SqlToken

lemma SqlText.Delimited.noDigitAhead {t : SqlText} (h : t.Delimited true) :
    NoDigitAhead t.chars := by
  intro c hc
  cases t with
  | nil => simp at hc
  | cons piece t =>
    cases piece with
    | verbatim s =>
      obtain ⟨first, hfirst, hd⟩ := h.2.1 rfl
      have hhead : (s.toList ++ chars t).head? = some first := by
        rw [List.head?_append, Option.mem_def.mp hfirst]
        rfl
      have hsame : some first = some c := hhead.symm.trans hc
      rwa [← Option.some.inj hsame]
    | placeholder p =>
      have hdollar : c = '$' := by simpa [Piece.chars, Placeholder.chars, eq_comm] using hc
      rw [hdollar]
      decide

/-- Scanning the characters of a delimited text finds its placeholders and nothing else. -/
theorem SqlText.Delimited.references_chars {after : Bool} {t : SqlText}
    (h : t.Delimited after) : SqlToken.references t.chars = t.ordinals := by
  induction t generalizing after with
  | nil => rfl
  | cons piece t ih =>
    cases piece with
    | verbatim s =>
      have skipped := SqlToken.references_append_of_no_dollar h.1 (chars t)
      rw [chars_cons, Piece.chars, skipped, ih h.2.2, ordinals_verbatim]
    | placeholder p =>
      have rest : Delimited true t := h
      rw [chars_cons, Piece.chars, SqlToken.references_placeholder p rest.noDigitAhead,
        ih rest, ordinals_placeholder]

/-! ### Counting upwards -/

/-- Each ordinal taken where it is met first, the ordinals are those above `m` up to `n`,
in order. -/
def Numbered (m n : Nat) (ordinals : List Nat) : Prop :=
  m ≤ n ∧ ordinals.eraseDups = List.range' (m + 1) (n - m)

theorem Numbered.mem_iff {m n k : Nat} {ordinals : List Nat} (h : Numbered m n ordinals) :
    k ∈ ordinals ↔ m < k ∧ k ≤ n := by
  rw [← List.mem_eraseDups, h.2, List.mem_range'_1]
  have := h.1
  omega

/-- Where nothing is counted there is no placeholder. -/
lemma Numbered.eq_nil {m : Nat} {ordinals : List Nat} (h : Numbered m m ordinals) :
    ordinals = [] := by
  rw [List.eq_nil_iff_forall_not_mem]
  intro k hk
  have between := h.mem_iff.mp hk
  omega

@[simp] theorem numbered_nil (m : Nat) : Numbered m m [] := by simp [Numbered]

/-- Ordinals of which none is met on both sides are counted side by side. -/
lemma eraseDups_append_of_disjoint {s t : List Nat} (h : ∀ k ∈ t, k ∉ s) :
    (s ++ t).eraseDups = s.eraseDups ++ t.eraseDups := by
  have kept : t.removeAll s = t := by
    rw [List.removeAll, List.filter_eq_self]
    intro k hk
    simpa using h k hk
  rw [List.eraseDups_append, kept]

theorem Numbered.append {m k n : Nat} {s t : List Nat} (hs : Numbered m k s)
    (ht : Numbered k n t) : Numbered m n (s ++ t) := by
  have disjoint : ∀ o ∈ t, o ∉ s := by
    intro o ho hos
    have above := (ht.mem_iff.mp ho).1
    have below := (hs.mem_iff.mp hos).2
    omega
  have hmk := hs.1
  have hkn := ht.1
  refine ⟨by omega, ?_⟩
  rw [eraseDups_append_of_disjoint disjoint, hs.2, ht.2]
  have split := @List.range'_append_1 (m + 1) (k - m) (n - k)
  rw [show m + 1 + (k - m) = k + 1 by omega, show k - m + (n - k) = n - m by omega] at split
  exact split

/-- A value bound once may be referred to any number of times. -/
theorem numbered_of_forall_eq {m : Nat} {ordinals : List Nat} (hne : ordinals ≠ [])
    (h : ∀ k ∈ ordinals, k = m + 1) : Numbered m (m + 1) ordinals := by
  obtain ⟨first, rest, rfl⟩ := List.exists_cons_of_ne_nil hne
  have hfirst : first = m + 1 := h first List.mem_cons_self
  have none_left : rest.filter (fun k => !k == first) = [] := by
    rw [List.filter_eq_nil_iff]
    intro k hk
    have hk' : k = m + 1 := h k (List.mem_cons_of_mem _ hk)
    simp [hk', hfirst]
  refine ⟨Nat.le_succ m, ?_⟩
  rw [List.eraseDups_cons, none_left, hfirst]
  simp

end BoundQuery
