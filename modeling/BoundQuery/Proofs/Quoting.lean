import BoundQuery.Proofs.DecimalTexts
import BoundQuery.Proofs.FilledCondition

/-!
# Strings in a text for people to read

A reader who knows the rules for strings opens one at a quote, takes two quotes inside as one and
closes the string at any other quote. The literal of a value is read back as the texts that the
value has quoted, with the rest of the literal outside of strings, wherever no quote comes right
after it. So is a text with literals in the place of its values, if it has no quotes of its own and
a character between any two values.
-/
namespace BoundQuery

namespace Quoting

/-- A text by the rules for strings: the characters outside of strings, and the strings. -/
structure Lexed where
  outside : List Char
  strings : List (List Char)
  deriving DecidableEq

instance : Append Lexed := ⟨fun k l => ⟨k.outside ++ l.outside, k.strings ++ l.strings⟩⟩

lemma append_def (k l : Lexed) :
    k ++ l = ⟨k.outside ++ l.outside, k.strings ++ l.strings⟩ := rfl

lemma append_assoc (k l m : Lexed) : k ++ l ++ m = k ++ (l ++ m) := by
  simp [append_def]

lemma append_empty (k : Lexed) : k ++ ⟨[], []⟩ = k := by
  simp [append_def]

/-- Where a reader stands: outside of strings, inside one, or behind a quote in it, which closes
it unless another quote follows. The characters of the string so far are held reversed. -/
inductive Stand where
  | outside
  | inside (held : List Char)
  | closing (held : List Char)

/-- Reads on from where the reader stands; a text that ends inside of a string is not read. -/
def lexFrom : Stand → List Char → Option Lexed
  | .outside, [] => some ⟨[], []⟩
  | .inside _, [] => none
  | .closing held, [] => some ⟨[], [held.reverse]⟩
  | .outside, c :: rest =>
    if c = '\'' then lexFrom (.inside []) rest
    else (lexFrom .outside rest).map (⟨[c], []⟩ ++ ·)
  | .inside held, c :: rest =>
    if c = '\'' then lexFrom (.closing held) rest else lexFrom (.inside (c :: held)) rest
  | .closing held, c :: rest =>
    if c = '\'' then lexFrom (.inside (c :: held)) rest
    else (lexFrom .outside rest).map (⟨[c], [held.reverse]⟩ ++ ·)

/-- What a text has outside of its strings, and the texts of its strings in order; a text that ends
inside of a string has no reading. -/
def lex (text : List Char) : Option Lexed := lexFrom .outside text

/-- A quote opens a string, closes one or is a character of one; it is never outside. -/
theorem quote_not_mem_outside {stand : Stand} {text : List Char} {k : Lexed}
    (h : lexFrom stand text = some k) : '\'' ∉ k.outside := by
  fun_induction lexFrom stand text generalizing k with
  | case1 =>
    cases h
    exact List.not_mem_nil
  | case2 => cases h
  | case3 =>
    cases h
    exact List.not_mem_nil
  | case4 rest ih => exact ih h
  | case5 c rest hc ih =>
    obtain ⟨l, hl, rfl⟩ := Option.map_eq_some_iff.mp h
    exact List.not_mem_append (by simpa using Ne.symm hc) (ih hl)
  | case6 held rest ih => exact ih h
  | case7 held c rest hc ih => exact ih h
  | case8 held rest ih => exact ih h
  | case9 held c rest hc ih =>
    obtain ⟨l, hl, rfl⟩ := Option.map_eq_some_iff.mp h
    exact List.not_mem_append (by simpa using Ne.symm hc) (ih hl)

/-- No quote comes next. -/
def Clear (text : List Char) : Prop := text.head? ≠ some '\''

lemma Clear.append {s t : List Char} (hs : Clear s) (ht : Clear t) : Clear (s ++ t) := by
  cases s with
  | nil => exact ht
  | cons c s => exact hs

/-- Some characters are read as `k`, whatever follows them but a quote. -/
def ReadsAs (k : Lexed) (cs : List Char) : Prop :=
  ∀ rest, Clear rest → lex (cs ++ rest) = (lex rest).map (k ++ ·)

variable {k l : Lexed} {s t : List Char}

/-- Characters without a quote stay outside, whatever follows them. -/
lemma lex_append_of_no_quote {cs : List Char} (h : '\'' ∉ cs) (rest : List Char) :
    lex (cs ++ rest) = (lex rest).map (⟨cs, []⟩ ++ ·) := by
  induction cs with
  | nil =>
    cases hr : lex rest with
    | none => rw [List.nil_append, hr]; rfl
    | some m => rw [List.nil_append, hr]; rfl
  | cons c cs ih =>
    have hc : c ≠ '\'' := fun e => h (e ▸ List.mem_cons_self)
    have step : lex (c :: (cs ++ rest)) = (lex (cs ++ rest)).map (⟨[c], []⟩ ++ ·) := by
      simp [lex, lexFrom, hc]
    rw [List.cons_append, step, ih fun hm => h (List.mem_cons_of_mem c hm), Option.map_map]
    rfl

lemma readsAs_of_no_quote (h : '\'' ∉ s) : ReadsAs ⟨s, []⟩ s := fun rest _ =>
  lex_append_of_no_quote h rest

lemma readsAs_nil : ReadsAs ⟨[], []⟩ [] := readsAs_of_no_quote List.not_mem_nil

theorem ReadsAs.append (hs : ReadsAs k s) (ht : ReadsAs l t) (clear : Clear t) :
    ReadsAs (k ++ l) (s ++ t) := by
  intro rest after
  rw [List.append_assoc, hs _ (clear.append after), ht _ after, Option.map_map]
  congr 1
  funext m
  exact (append_assoc k l m).symm

/-- Behind characters without a quote a string may open. -/
lemma ReadsAs.after (h : ReadsAs l t) (hs : '\'' ∉ s) : ReadsAs (⟨s, []⟩ ++ l) (s ++ t) := by
  intro rest after
  rw [List.append_assoc, lex_append_of_no_quote hs, h _ after, Option.map_map]
  congr 1
  funext m
  exact (append_assoc ⟨s, []⟩ l m).symm

theorem ReadsAs.lex_eq (h : ReadsAs k s) : lex s = some k := by
  have read := h [] nofun
  rw [List.append_nil] at read
  rw [read]
  exact congrArg some (append_empty k)

/-- A quote that is written twice is one character of the string. -/
lemma lexFrom_quoted (s held rest : List Char) :
    lexFrom (.inside held)
        (s.flatMap (fun c => if c = '\'' then ['\'', '\''] else [c]) ++ '\'' :: rest) =
      lexFrom (.closing (s.reverse ++ held)) rest := by
  induction s generalizing held with
  | nil => simp [lexFrom]
  | cons c s ih =>
    rw [List.flatMap_cons, List.reverse_cons, List.append_assoc, List.append_assoc]
    by_cases hc : c = '\''
    · -- the first quote seems to close the string, the second one brings the reader back inside
      subst hc
      exact ih ('\'' :: held)
    · rw [if_neg hc, List.singleton_append, lexFrom, if_neg hc]
      exact ih (c :: held)

/-- A text between quotes, its own quotes doubled, is read as one string. -/
theorem readsAs_quote (s : List Char) : ReadsAs ⟨[], [s]⟩ (Value.quote s) := by
  intro rest clear
  have opened : lex (Value.quote s ++ rest) = lexFrom (.closing (s.reverse ++ [])) rest := by
    rw [← lexFrom_quoted]
    simp [lex, lexFrom, Value.quote]
  rw [opened, List.append_nil]
  cases rest with
  | nil =>
    rw [lexFrom, List.reverse_reverse]
    rfl
  | cons c rest =>
    have hc : c ≠ '\'' := fun e => clear (e ▸ rfl)
    rw [lexFrom, if_neg hc, List.reverse_reverse, lex, lexFrom, if_neg hc, Option.map_map]
    rfl

end Quoting

open Quoting

/-! ### Literals -/

namespace Binary64

/-- Without an exponent a number is written with its digits, zeros and a point. -/
lemma mem_writePositional {layout : Layout} {digits : List Char} {exponent : Int} {c : Char}
    (h : c ∈ layout.writePositional digits exponent) : c ∈ digits ∨ c = '0' ∨ c = '.' := by
  have zero {n : Nat} (hz : c ∈ zeros n) : c = '0' := List.eq_of_mem_replicate hz
  have ending (hp : c ∈ if layout.pointZero then ".0".toList else []) : c = '0' ∨ c = '.' := by
    split at hp
    · simpa [or_comm] using hp
    · cases hp
  simp only [Layout.writePositional] at h
  split at h
  · rw [List.mem_append, List.mem_append] at h
    rcases h with (digit | padding) | point
    · exact .inl digit
    · exact .inr (.inl (zero padding))
    · exact .inr (ending point)
  split at h
  · rw [List.mem_append, List.mem_cons] at h
    rcases h with whole | point | fraction
    · exact .inl (List.mem_of_mem_take whole)
    · exact .inr (.inr point)
    · exact .inl (List.mem_of_mem_drop fraction)
  · rw [List.mem_append, List.mem_append] at h
    rcases h with (opening | padding) | digit
    · exact .inr (by simpa using opening)
    · exact .inr (.inl (zero padding))
    · exact .inl digit

lemma quote_not_mem_text (x : Binary64) : '\'' ∉ x.text.toList := by
  have decimal (d : ShortDecimal) : '\'' ∉ Layout.plain.writeDecimal d := by
    intro h
    rcases mem_writePositional h with digit | zero | point
    · exact absurd (Decimal.isDigit_of_mem_toDigits digit) (by decide)
    · cases zero
    · cases point
  have magnitude : '\'' ∉ if x.isZero then ['0'] else
      Layout.plain.writeDecimal (x.shortest Layout.plain.tie) := by
    split
    · decide
    · exact decimal _
  have signed {m : List Char} (hm : '\'' ∉ m) :
      '\'' ∉ if x.isNegative then '-' :: m else m := by
    split
    · exact fun h => (List.mem_cons.mp h).elim (by decide) hm
    · exact hm
  have finite : '\'' ∉ Layout.plain.writeFinite x := signed magnitude
  unfold text
  split
  · decide
  split
  · rwa [String.toList_ofList]
  split <;> decide

end Binary64

namespace Value

/-- What an item of a list shows outside of strings. -/
def itemSkeleton : Value → List Char
  | .null => "NULL".toList
  | _ => []

/-- What a literal shows outside of strings: a word, a number, or the frame of a list. -/
def skeleton : Value → List Char
  | .null => "NULL".toList
  | .bool true => "TRUE".toList
  | .bool false => "FALSE".toList
  | .int n => (Decimal.ofInt64 n).toList
  | .float x => x.text.toList
  | .text _ => []
  | .json _ => []
  | .list items => "ARRAY[".toList ++ [','].intercalate (items.map itemSkeleton) ++ [']']

/-- An item of a list is quoted by its text; a list within a list has none. -/
def itemTexts : Value → List (List Char)
  | .null => []
  | v => [(v.toText?.getD "").toList]

/-- The texts that a literal has quoted, in their order. -/
def quotedTexts : Value → List (List Char)
  | .text s => [s.toList]
  | .json document => [document.chars]
  | .list items => items.flatMap itemTexts
  | _ => []

lemma readsAs_item (v : Value) : ReadsAs ⟨v.itemSkeleton, v.itemTexts⟩ v.itemLiteral := by
  cases v with
  | null => exact readsAs_of_no_quote (by decide)
  | bool => exact readsAs_quote _
  | int => exact readsAs_quote _
  | float => exact readsAs_quote _
  | text => exact readsAs_quote _
  | list => exact readsAs_quote _
  | json => exact readsAs_quote _

/-- Items stand between commas, so no quote comes right after one. -/
lemma readsAs_items (items : List Value) :
    ReadsAs ⟨[','].intercalate (items.map itemSkeleton), items.flatMap itemTexts⟩
      ([','].intercalate (items.map itemLiteral)) := by
  induction items with
  | nil => exact readsAs_nil
  | cons v items ih =>
    cases items with
    | nil => simpa using readsAs_item v
    | cons w items =>
      have separated : ReadsAs _ ([','] ++ [','].intercalate ((w :: items).map itemLiteral)) :=
        ih.after (by decide)
      have comma : Clear ([','] ++ [','].intercalate ((w :: items).map itemLiteral)) := by
        simp [Clear]
      have spread (part : Value → List Char) : [','].intercalate ((v :: w :: items).map part) =
          part v ++ ([','] ++ [','].intercalate ((w :: items).map part)) := by
        rw [List.map_cons, List.map_cons, List.intercalate_cons_cons, List.append_assoc]
      rw [spread, spread, List.flatMap_cons]
      exact (readsAs_item v).append separated comma

theorem readsAs_literal (v : Value) : ReadsAs ⟨v.skeleton, v.quotedTexts⟩ v.literalChars := by
  cases v with
  | null => exact readsAs_of_no_quote (by decide)
  | bool b => cases b <;> exact readsAs_of_no_quote (by decide)
  | int n =>
    exact readsAs_of_no_quote fun h => absurd (Decimal.mem_ofInt64 h) (by decide)
  | float x => exact readsAs_of_no_quote x.quote_not_mem_text
  | text s => exact readsAs_quote _
  | json document => exact readsAs_quote _
  | list items =>
    have framed := (readsAs_items items).after (s := "ARRAY[".toList) (by decide)
    have closed := framed.append (readsAs_of_no_quote (s := [']']) (by decide)) (by simp [Clear])
    simp only [append_def, List.nil_append, List.append_nil] at closed
    exact closed

/-- Nothing that a literal shows outside of strings is a quote. -/
theorem quote_not_mem_skeleton (v : Value) : '\'' ∉ v.skeleton :=
  quote_not_mem_outside v.readsAs_literal.lex_eq

end Value

/-! ### Texts with their values in place -/

namespace Mark

def literal : Mark → List Char
  | .character c => [c]
  | .value v => v.literalChars

def skeleton : Mark → List Char
  | .character c => [c]
  | .value v => v.skeleton

def quotedTexts : Mark → List (List Char)
  | .character _ => []
  | .value v => v.quotedTexts

end Mark

namespace FilledText

/-- The text has no quotes of its own, and no value right after another. The flag says whether a
value stands right before the text. -/
inductive LegibleFrom : Bool → FilledText → Prop where
  | nil (after : Bool) : LegibleFrom after []
  | character {after : Bool} {c : Char} {t : FilledText} (hc : c ≠ '\'')
      (rest : LegibleFrom false t) : LegibleFrom after (.character c :: t)
  | value {v : Value} {t : FilledText} (rest : LegibleFrom true t) :
      LegibleFrom false (.value v :: t)

/-- A text that may stand anywhere: it does not start with a value. -/
def Legible (t : FilledText) : Prop := t.LegibleFrom true

variable {after : Bool} {s t : FilledText}

lemma Legible.weaken (h : t.Legible) (after : Bool) : t.LegibleFrom after := by
  cases h with
  | nil => exact .nil after
  | character hc rest => exact .character hc rest

theorem LegibleFrom.append (hs : s.LegibleFrom after) (ht : t.Legible) :
    (s ++ t).LegibleFrom after := by
  induction hs with
  | nil after => exact ht.weaken after
  | character hc _ ih => exact .character hc ih
  | value _ ih => exact .value ih

lemma Legible.clear (h : t.Legible) : Clear (t.flatMap Mark.literal) := by
  cases h with
  | nil => exact nofun
  | character hc _ => simpa [Clear, Mark.literal] using hc

lemma flatMap_ofChars {part : Mark → List Char} (h : ∀ c, part (.character c) = [c])
    (cs : List Char) : (ofChars cs).flatMap part = cs := by
  rw [ofChars, List.flatMap_map]
  simp only [h, List.flatMap_singleton']

/-- A legible text is read back with its literals' texts as the strings. -/
theorem LegibleFrom.readsAs (h : t.LegibleFrom after) :
    ReadsAs ⟨t.flatMap Mark.skeleton, t.flatMap Mark.quotedTexts⟩ (t.flatMap Mark.literal) := by
  induction h with
  | nil => exact readsAs_nil
  | @character _ c _ hc _ ih => exact ih.after (s := [c]) (by simpa using hc.symm)
  | @value v _ rest ih =>
    -- were the next literal quoted too, the two strings would be read as one
    exact v.readsAs_literal.append ih (Legible.clear rest)

end FilledText

/-! ### Statements -/

namespace SqlToken

/-- What the text for people shows outside of strings in the place of a token. -/
def skeleton (params : List Value) (token : SqlToken) : List Char :=
  match token.value? params with
  | some v => v.skeleton
  | none => token.chars

/-- The texts that are quoted in the place of a token. -/
def quotedTexts (params : List Value) (token : SqlToken) : List (List Char) :=
  match token.value? params with
  | some v => v.quotedTexts
  | none => []

variable (params : List Value) (token : SqlToken)

lemma literal_filled : (token.filled params).flatMap Mark.literal = token.inline params := by
  rw [filled, inline]
  cases token.value? params with
  | none => exact FilledText.flatMap_ofChars (fun _ => rfl) _
  | some v => exact List.append_nil _

lemma skeleton_filled : (token.filled params).flatMap Mark.skeleton = token.skeleton params := by
  rw [filled, skeleton]
  cases token.value? params with
  | none => exact FilledText.flatMap_ofChars (fun _ => rfl) _
  | some v => exact List.append_nil _

lemma quotedTexts_filled :
    (token.filled params).flatMap Mark.quotedTexts = token.quotedTexts params := by
  rw [filled, quotedTexts]
  cases token.value? params with
  | none => exact List.flatMap_eq_nil_iff.mpr (List.forall_mem_map.mpr fun _ _ => rfl)
  | some v => exact List.append_nil _

end SqlToken

namespace Statement

/-- The text of a statement with a skeleton in the place of each value. -/
def skeleton (s : Statement) : List Char :=
  (SqlToken.scan s.sql.toList).flatMap (SqlToken.skeleton s.params)

/-- The texts that the values of a statement have quoted, in the order of its tokens. -/
def quotedTexts (s : Statement) : List (List Char) :=
  (SqlToken.scan s.sql.toList).flatMap (SqlToken.quotedTexts s.params)

/-- The text for people is the text of the statement with a literal for each value. -/
lemma toList_inlined (s : Statement) : s.inlined.toList = s.filled.flatMap Mark.literal := by
  rw [inlined, String.toList_ofList, filled, List.flatMap_assoc]
  simp only [SqlToken.literal_filled]

/-- Where the text of a statement is legible with its values in place, its text for people is read
back: the strings are what the values behind its tokens have quoted, token by token. -/
theorem lex_inlined {after : Bool} {s : Statement} (h : s.filled.LegibleFrom after) :
    lex s.inlined.toList = some ⟨s.skeleton, s.quotedTexts⟩ := by
  rw [s.toList_inlined, h.readsAs.lex_eq, filled, List.flatMap_assoc, List.flatMap_assoc, skeleton,
    quotedTexts]
  simp only [SqlToken.skeleton_filled, SqlToken.quotedTexts_filled]

end Statement

end BoundQuery
