import BoundQuery.Log
import Mathlib.Data.List.Infix

/-!
# How much of a text is logged

A logger with a limit shows a text that fits as it is, and of a longer one the longest beginning in
whole characters that fits, with three points after it. The limit counts encoded bytes, and the
place to cut is searched for backwards from it, so the argument goes through the places where a text
can be cut: the search passes over none of them. Main statement: `Logger.events_show`.
-/
namespace BoundQuery

namespace Log

variable {text : String} {room : Nat}

/-! ### The place to cut -/

theorem backOff_le (text : String) (room : Nat) : backOff text room ≤ room := by
  induction room with
  | zero => exact Nat.le_refl 0
  | succ bytes ih =>
    rw [backOff]
    split
    next => exact Nat.le_refl _
    next => exact Nat.le_succ_of_le ih

/-- The search passes over no place where the text can be cut. -/
theorem le_backOff {bytes : Nat} (valid : (String.Pos.Raw.mk bytes).IsValid text)
    (fits : bytes ≤ room) : bytes ≤ backOff text room := by
  induction room with
  | zero => exact fits
  | succ limit ih =>
    rw [backOff]
    split
    next => exact fits
    next inside =>
      have other : bytes ≠ limit + 1 := by
        rintro rfl
        exact inside (String.Pos.Raw.isValid_eq_true_iff.mpr valid)
      exact ih (by omega)

/-- A text can be cut after every beginning of it. -/
lemma isValid_of_opens {other : String} (opens : other.toList <+: text.toList) :
    (String.Pos.Raw.mk other.utf8ByteSize).IsValid text := by
  obtain ⟨rest, whole⟩ := opens
  refine String.Pos.Raw.isValid_iff_exists_append.mpr ⟨other, String.ofList rest, ?_, rfl⟩
  rw [← String.toList_inj, String.toList_append, String.toList_ofList, whole]

/-- The text is cut where the search for a place stops. -/
lemma exists_append_beginning (longer : room < text.utf8ByteSize) :
    (∃ rest, text = beginning room text ++ rest) ∧
      (beginning room text).utf8ByteSize = backOff text room := by
  rw [beginning, if_neg (by omega)]
  have split := (text.pos ⟨backOff text room⟩ (isValid_backOff text room)).splits
  refine ⟨⟨_, split.eq_append⟩, ?_⟩
  exact (congrArg String.Pos.Raw.byteIdx split.offset_eq_rawEndPos).symm

/-! ### The longest beginning that fits -/

/-- Of two beginnings of a text, the one of fewer bytes is a beginning of the other. -/
lemma prefix_of_size_le {first second : String} (opens : first.toList <+: text.toList)
    (opens' : second.toList <+: text.toList) (h : first.utf8ByteSize ≤ second.utf8ByteSize) :
    first.toList <+: second.toList := by
  rcases List.prefix_or_prefix_of_prefix opens opens' with shorter | ⟨rest, whole⟩
  · exact shorter
  -- The second opens the first, and there are no bytes left for what would stand between them.
  · have joined : second ++ String.ofList rest = first := by
      rw [← String.toList_inj, String.toList_append, String.toList_ofList, whole]
    have size := congrArg String.utf8ByteSize joined
    rw [String.utf8ByteSize_append] at size
    have nothing : String.ofList rest = "" := String.utf8ByteSize_eq_zero_iff.mp (by omega)
    rw [← joined, nothing, String.append_empty]

/-- The longest beginning of a text, in whole characters, that takes at most a number of bytes. -/
structure LongestBeginning (room : Nat) (text kept : String) : Prop where
  opens : kept.toList <+: text.toList
  fits : kept.utf8ByteSize ≤ room
  longest : ∀ other : String, other.toList <+: text.toList → other.utf8ByteSize ≤ room →
    other.toList <+: kept.toList

theorem longestBeginning_beginning (longer : room < text.utf8ByteSize) :
    LongestBeginning room text (beginning room text) := by
  obtain ⟨⟨rest, whole⟩, size⟩ := exists_append_beginning longer
  have opens : (beginning room text).toList <+: text.toList :=
    ⟨rest.toList, by rw [← String.toList_append, ← whole]⟩
  refine ⟨opens, size ▸ backOff_le text room, ?_⟩
  intro other opens' fits
  have reached : other.utf8ByteSize ≤ backOff text room :=
    le_backOff (isValid_of_opens opens') fits
  exact prefix_of_size_le opens' opens (size ▸ reached)

namespace LongestBeginning

variable {kept : String}

/-- The next character of the text would be too long. -/
lemma lt_next (h : LongestBeginning room text kept) {c : Char} {rest : List Char}
    (follows : text.toList = kept.toList ++ c :: rest) :
    room < kept.utf8ByteSize + c.utf8Size := by
  by_contra fits
  have opens : (kept.push c).toList <+: text.toList := ⟨rest, by simp [follows]⟩
  have extended := h.longest (kept.push c) opens (by rw [String.utf8ByteSize_push]; omega)
  have length := extended.length_le
  rw [String.toList_push, List.length_append, List.length_singleton] at length
  omega

/-- There is a next character where the text is longer than what fits. -/
lemma exists_next (h : LongestBeginning room text kept) (longer : room < text.utf8ByteSize) :
    ∃ c rest, text.toList = kept.toList ++ c :: rest := by
  obtain ⟨rest, whole⟩ := h.opens
  cases rest with
  | nil =>
    rw [List.append_nil, String.toList_inj] at whole
    have fits := h.fits
    rw [whole] at fits
    omega
  | cons c rest => exact ⟨c, rest, whole.symm⟩

/-- No character takes more than four bytes, so at most three are left over. -/
lemma le_size (h : LongestBeginning room text kept) (longer : room < text.utf8ByteSize) :
    room ≤ kept.utf8ByteSize + 3 := by
  obtain ⟨c, rest, follows⟩ := h.exists_next longer
  have next := h.lt_next follows
  have short := c.utf8Size_le_four
  omega

/-- Nothing fits exactly where the first character does not. -/
lemma eq_empty_iff (h : LongestBeginning room text kept) (longer : room < text.utf8ByteSize) :
    kept = "" ↔ ∃ c rest, text.toList = c :: rest ∧ room < c.utf8Size := by
  constructor
  · rintro rfl
    obtain ⟨c, rest, follows⟩ := h.exists_next longer
    have next := h.lt_next follows
    exact ⟨c, rest, follows, by simpa using next⟩
  · rintro ⟨c, rest, starts, long⟩
    obtain ⟨others, whole⟩ := h.opens
    have fits := h.fits
    cases hkept : kept.toList with
    | nil => exact String.toList_eq_nil_iff.mp hkept
    | cons first more =>
      rw [hkept, starts, List.cons_append, List.cons.injEq] at whole
      have split : kept = String.singleton c ++ String.ofList more := by
        rw [← String.toList_inj, hkept, whole.1]
        simp
      rw [split, String.utf8ByteSize_append, String.utf8ByteSize_singleton] at fits
      omega

end LongestBeginning

/-- What is shown of a text within a limit: a text that fits as it is, and of a longer one the
longest beginning that fits, with three points after it. That beginning leaves three bytes at most
free, and it is empty exactly where not even the first character fits. -/
def Shows (limit : Option Nat) (text shown : String) : Prop :=
  match limit with
  | none => shown = text
  | some room =>
    if text.utf8ByteSize ≤ room then shown = text
    else ∃ kept, shown = kept ++ "..." ∧ LongestBeginning room text kept ∧
      room ≤ kept.utf8ByteSize + 3 ∧
      (kept = "" ↔ ∃ c rest, text.toList = c :: rest ∧ room < c.utf8Size)

end Log

namespace Logger

open Log

theorem shows_cut (logger : Logger) (text : String) :
    Shows logger.maxLength text (logger.cut text) := by
  unfold Shows cut
  cases logger.maxLength with
  | none => rfl
  | some room =>
    by_cases longer : room < text.utf8ByteSize
    · have kept := longestBeginning_beginning longer
      simp only [if_pos longer, if_neg (Nat.not_le.mpr longer)]
      exact ⟨_, rfl, kept, kept.le_size longer, kept.eq_empty_iff longer⟩
    · simp only [if_neg longer, if_pos (Nat.not_lt.mp longer)]

/-- A logger shows what its limit leaves of the text that it is given, or that it takes from a
statement. The place to cut a text is searched for backwards, and the search stops at the last one
within the limit where the text can be cut. -/
theorem events_show (logger : Logger) :
    (∀ tag text count, Shows logger.maxLength text (logger.event tag text count).sql) ∧
      (∀ s : Statement, Shows logger.maxLength
        (if logger.inlineValues then s.inlined else s.sql) (logger.eventOf s).sql) ∧
      ∀ text room, (String.Pos.Raw.mk (backOff text room)).IsValid text ∧
        backOff text room ≤ room ∧
        ∀ bytes, (String.Pos.Raw.mk bytes).IsValid text → bytes ≤ room →
          bytes ≤ backOff text room := by
  refine ⟨?_, ?_, ?_⟩
  · intro tag text count
    exact logger.shows_cut text
  · intro s
    exact logger.shows_cut _
  · intro text room
    exact ⟨isValid_backOff text room, backOff_le text room, fun _ => le_backOff⟩

/-- A limit inside a character of four bytes. -/
example : ({ maxLength := some 4 } : Logger).cut "a😀é" = "a..." := by decide

/-- A limit at its end. -/
example : ({ maxLength := some 5 } : Logger).cut "a😀é" = "a😀..." := by decide

end Logger

end BoundQuery
