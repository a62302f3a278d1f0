import BoundQuery.Proofs.Contribution
import BoundQuery.Proofs.Nesting

/-!
# Nesting of filled texts

A value in the place of its placeholder has no parentheses, so a text with its values in place is as
deep as the text itself. The texts that filters put together are sealed as soon as the names in them
are, and the statement that a contribution makes of a base is balanced.
-/
namespace BoundQuery

open FilledText (ofString)

/-- The character that a mark counts as; a value counts as one sign. -/
def Mark.sign : Mark → Char
  | .character c => c
  | .value _ => '$'

namespace Nesting

variable {letters : List Char} {t : List Char}

/-- A sealed text leaves every depth as it is. -/
lemma Sealed.depthFrom (h : Sealed letters t) (n : Nat) :
    depthFrom letters (some n) t = some n := by
  cases n with
  | zero => exact h
  | succ n =>
    have plain : Nesting.depthFrom [] (some n) t = some n := by
      induction n with
      | zero => exact h.balanced
      | succ n ih => exact depthFrom_raise ih
    exact depthFrom_raise plain

end Nesting

namespace FilledText

def signs (t : FilledText) : List Char := t.map Mark.sign

/-- A text whose parentheses balance, with none of some letters outside of them. -/
def Sealed (letters : List Char) (t : FilledText) : Prop := Nesting.Sealed letters t.signs

/-- A text whose parentheses balance. -/
def Balanced (t : FilledText) : Prop := t.Sealed []

instance (letters : List Char) (t : FilledText) : Decidable (t.Sealed letters) :=
  inferInstanceAs (Decidable (Nesting.Sealed letters t.signs))

instance (t : FilledText) : Decidable t.Balanced := inferInstanceAs (Decidable (t.Sealed []))

@[simp] theorem signs_append (s t : FilledText) : (s ++ t).signs = s.signs ++ t.signs :=
  List.map_append

@[simp] theorem signs_ofChars (cs : List Char) : (ofChars cs).signs = cs := by
  induction cs with
  | nil => rfl
  | cons c cs ih => exact congrArg (c :: ·) ih

@[simp] theorem signs_ofString (s : String) : (ofString s).signs = s.toList := signs_ofChars _

section Closure

variable {letters : List Char} {s t : FilledText} {ts : List FilledText} {a b : String}
  {l m n : Nat}

/-- A text that goes from one depth to another. -/
def Leads (letters : List Char) (m n : Nat) (t : FilledText) : Prop :=
  Nesting.depthFrom letters (some m) t.signs = some n

instance : Decidable (Leads letters m n t) := inferInstanceAs (Decidable (_ = _))

lemma Leads.append (hs : Leads letters l m s) (ht : Leads letters m n t) :
    Leads letters l n (s ++ t) := by
  rw [Leads, signs_append, Nesting.depthFrom_append, hs]
  exact ht

lemma Sealed.leads (h : t.Sealed letters) (n : Nat) : Leads letters n n t :=
  Nesting.Sealed.depthFrom h n

lemma Sealed.weaken {weaker : List Char} (h : t.Sealed letters) (hsub : weaker ⊆ letters) :
    t.Sealed weaker := Nesting.Sealed.weaken h hsub

lemma Sealed.balanced (h : t.Sealed letters) : t.Balanced := h.weaken (List.nil_subset _)

/-- A value has no parentheses and is no letter. -/
lemma sealed_value (v : Value) (h : '$' ∉ letters) : FilledText.Sealed letters [.value v] := by
  have kept : Nesting.step letters (some 0) '$' = some 0 :=
    (Nesting.step_eq_some_of_ne (by decide) (by decide)).mpr ⟨rfl, fun _ => h⟩
  exact kept

end Closure

end FilledText

open FilledText Nesting

/-! ### Placeholders -/

section Placeholders

variable {letters : List Char}

/-- A character that is no parenthesis and not reserved leaves the depth as it is. -/
lemma Nesting.step_eq_self {c : Char} (ho : c ≠ '(') (hc : c ≠ ')') (hl : c ∉ letters)
    (depth : Option Nat) : step letters depth c = depth := by
  cases depth with
  | none => rfl
  | some n => exact (step_eq_some_of_ne ho hc).mpr ⟨rfl, fun _ => hl⟩

/-- Letters that no placeholder is written with. -/
def Nesting.Wordy (letters : List Char) : Prop := ∀ c ∈ letters, c.isDigit = false ∧ c ≠ '$'

-- The letters are looked at one by one, whatever other instances are in scope.
instance : Decidable (Nesting.Wordy letters) :=
  List.decidableBAll (fun c : Char => c.isDigit = false ∧ c ≠ '$') letters

lemma Nesting.Wordy.step_sign (hl : Wordy letters) (depth : Option Nat) :
    step letters depth '$' = depth :=
  step_eq_self (by decide) (by decide) (fun hm => (hl _ hm).2 rfl) depth

lemma Nesting.Wordy.depthFrom_digits (hl : Wordy letters) {cs : List Char}
    (h : ∀ c ∈ cs, c.isDigit = true) (depth : Option Nat) : depthFrom letters depth cs = depth := by
  induction cs with
  | nil => rfl
  | cons c cs ih =>
    obtain ⟨digit, rest⟩ := List.forall_mem_cons.mp h
    have ho : c ≠ '(' := by
      rintro rfl
      cases digit
    have hc : c ≠ ')' := by
      rintro rfl
      cases digit
    have hm : c ∉ letters := by
      intro hm
      rw [(hl c hm).1] at digit
      cases digit
    rw [depthFrom_cons, step_eq_self ho hc hm, ih rest]

/-- A placeholder and the value in its place leave the depth as it is. -/
lemma Placeholder.depthFrom_chars (hl : Wordy letters) (params : List Value) (p : Placeholder)
    (depth : Option Nat) :
    depthFrom letters depth p.chars = depthFrom letters depth (p.filled params).signs := by
  rw [Placeholder.filled]
  cases p.value? params with
  | none => rw [signs_ofChars]
  | some v =>
    have digits : ∀ c ∈ Nat.toDigits 10 p.ordinal, c.isDigit = true := fun c hc =>
      Nat.isDigit_of_mem_toDigits (by decide) (by decide) hc
    rw [Placeholder.chars, depthFrom_cons, hl.step_sign, hl.depthFrom_digits digits]
    exact (hl.step_sign depth).symm

/-- A text is as deep as it is with its values in place. -/
theorem SqlText.depthFrom_chars (hl : Wordy letters) (params : List Value) (t : SqlText)
    (depth : Option Nat) :
    depthFrom letters depth t.chars = depthFrom letters depth (t.filled params).signs := by
  induction t generalizing depth with
  | nil => rfl
  | cons piece t ih =>
    rw [chars_cons, filled_cons, signs_append, depthFrom_append, depthFrom_append, ih]
    cases piece with
    | verbatim v => rw [Piece.chars, Piece.filled, signs_ofString]
    | placeholder p => rw [Piece.chars, Piece.filled, p.depthFrom_chars hl params]

/-- A text is sealed if it is with its values in place. -/
lemma SqlText.sealed_chars_iff (hl : Wordy letters) {params : List Value} {t : SqlText} :
    Nesting.Sealed letters t.chars ↔ (t.filled params).Sealed letters := by
  rw [Nesting.Sealed, t.depthFrom_chars hl params]
  exact Iff.rfl

end Placeholders

end BoundQuery
