import BoundQuery.Proofs.Grammar

/-!
# Texts without a letter

Texts that are written without a letter follow a grammar, as long as no word of conditions and
statements has the letter. So a word with the letter in it is found in a statement only where the
names of the statement bring it in.
-/
namespace BoundQuery

open FilledText (ofString)

namespace FilledText

variable {letter : Char} {s t : FilledText}

/-- A text that is written without a letter. -/
def Spares (letter : Char) (t : FilledText) : Prop := letter ∉ t.signs

instance (letter : Char) (t : FilledText) : Decidable (t.Spares letter) :=
  inferInstanceAs (Decidable (letter ∉ t.signs))

lemma Spares.append (hs : s.Spares letter) (ht : t.Spares letter) : (s ++ t).Spares letter := by
  rw [Spares, signs_append]
  exact List.not_mem_append hs ht

/-- A value counts as one sign. -/
lemma spares_value (h : letter ≠ '$') (v : Value) : FilledText.Spares letter [.value v] := by
  simpa [FilledText.Spares, signs, Mark.sign] using h

/-- What is written without a letter does not have a word with the letter in it. -/
lemma Spares.not_word (h : t.Spares letter) {word : List Char} (hw : letter ∈ word) :
    ¬ word <:+: t.signs := fun found => h (found.subset hw)

end FilledText

namespace Grammar

/-- The texts that are written without a letter, at any depth. -/
def without (letter : Char) (hs : letter ≠ '$')
    (hw : ∀ w ∈ Word.all, (ofString w.text).Spares letter) : Grammar where
  Leads _ _ _ t := t.Spares letter
  nil _ _ := List.not_mem_nil
  append := FilledText.Spares.append
  valued v _ _ h := h.append (FilledText.spares_value hs v)
  weaken _ h := h
  raise h := h
  words := hw

instance {letter : Char} {hs : letter ≠ '$'}
    {hw : ∀ w ∈ Word.all, (ofString w.text).Spares letter} (letters : List Char) (m n : Nat)
    (t : FilledText) : Decidable ((without letter hs hw).Leads letters m n t) :=
  inferInstanceAs (Decidable (t.Spares letter))

end Grammar

/-- A letter that no placeholder is written with is in a text with its values in place as soon as it
is in the text. -/
lemma SqlText.mem_signs_filled {letter : Char} (hd : letter.isDigit = false) (hs : letter ≠ '$')
    (params : List Value) {t : SqlText} (h : letter ∈ t.chars) :
    letter ∈ (t.filled params).signs := by
  induction t with
  | nil => cases h
  | cons piece t ih =>
    rw [chars_cons] at h
    rw [filled_cons, FilledText.signs_append]
    rcases List.mem_append.mp h with h | h
    · cases piece with
      | verbatim s =>
        rw [Piece.filled, FilledText.signs_ofString]
        exact List.mem_append_left _ h
      | placeholder p =>
        rcases List.mem_cons.mp h with rfl | h
        · exact absurd rfl hs
        · have digit : letter.isDigit = true :=
            Nat.isDigit_of_mem_toDigits (by decide) (by decide) h
          rw [hd] at digit
          cases digit
    · exact List.mem_append_right _ (ih h)

end BoundQuery
