import BoundQuery.Proofs.Numbering

/-!
# Texts with their values in place

A filled text has the values themselves where a text has their placeholders, so it says what a
text means without the numbers by which it says it. Binding more values changes nothing in a text
that refers to the values bound before. Filling the pieces of a delimited text and replacing the
placeholder tokens in its characters come to the same.
-/
namespace BoundQuery

/-- A character, or a value in the place of its placeholder. -/
inductive Mark where
  | character (c : Char)
  | value (v : Value)

abbrev FilledText := List Mark

namespace FilledText

def ofChars (cs : List Char) : FilledText := cs.map .character

def ofString (s : String) : FilledText := ofChars s.toList

@[simp] theorem ofString_append (s t : String) :
    ofString (s ++ t) = ofString s ++ ofString t := by
  simp [ofString, ofChars]

/-- Texts one after the other with a separator between them. -/
def joinWith (separator : String) : List FilledText → FilledText
  | [] => []
  | [t] => t
  | t :: ts => t ++ ofString separator ++ joinWith separator ts

end FilledText

/-- The ordinals with a value behind them are those from one up to the number of values. -/
lemma Placeholder.value?_eq (params : List Value) (n : Nat) :
    Placeholder.value? params ⟨n⟩ =
      if h : 1 ≤ n ∧ n ≤ params.length then some params[n - 1] else none := by
  cases n with
  | zero => rfl
  | succ index =>
    rw [Placeholder.value?_succ]
    by_cases bound : index < params.length
    · rw [List.getElem?_eq_getElem bound, dif_pos ⟨by omega, bound⟩]
      rfl
    · rw [List.getElem?_eq_none (Nat.le_of_not_lt bound), dif_neg fun h => bound h.2]

/-- A placeholder with no value behind it is left as it is. -/
def Placeholder.filled (params : List Value) (p : Placeholder) : FilledText :=
  match p.value? params with
  | some v => [.value v]
  | none => .ofChars p.chars

def Piece.filled (params : List Value) : Piece → FilledText
  | .verbatim s => .ofString s
  | .placeholder p => p.filled params

def SqlText.filled (params : List Value) (t : SqlText) : FilledText :=
  t.flatMap (Piece.filled params)

/-- A token that refers to no value is left as it is. -/
def SqlToken.filled (params : List Value) (token : SqlToken) : FilledText :=
  match token.value? params with
  | some v => [.value v]
  | none => .ofChars token.chars

/-- The text sent to a server, each placeholder token replaced by the value it refers to. -/
def Statement.filled (s : Statement) : FilledText :=
  (SqlToken.scan s.sql.toList).flatMap (SqlToken.filled s.params)

namespace SqlText

variable {params : List Value} {m : Nat} {s t : SqlText} {shown shown' : FilledText}

@[simp] theorem filled_cons (piece : Piece) (t : SqlText) :
    filled params (piece :: t) = piece.filled params ++ filled params t := rfl

@[simp] theorem filled_append (s t : SqlText) :
    filled params (s ++ t) = filled params s ++ filled params t := by
  simp [filled]

/-- A text refers to values bound after the first `m`, and with the values in place it is
`shown`. -/
structure Shows (t : SqlText) (m : Nat) (params : List Value) (shown : FilledText) : Prop where
  within : ∀ k ∈ t.ordinals, m < k ∧ k ≤ params.length
  filled : t.filled params = shown

theorem shows_nil : Shows [] m params [] := ⟨nofun, rfl⟩

theorem Shows.verbatim (ht : t.Shows m params shown) (v : String) :
    Shows (.verbatim v :: t) m params (.ofString v ++ shown) where
  within := ht.within
  filled := by rw [filled_cons, ht.filled, Piece.filled]

theorem Shows.placeholder (ht : t.Shows m params shown) {p : Placeholder} {v : Value}
    (hp : p.value? params = some v) (hm : m < p.ordinal) :
    Shows (.placeholder p :: t) m params (.value v :: shown) where
  within := by
    intro k hk
    rcases List.mem_cons.mp hk with rfl | hk
    · refine ⟨hm, ?_⟩
      obtain ⟨_ | index⟩ := p
      · cases hp
      · obtain ⟨bound, -⟩ := List.getElem?_eq_some_iff.mp hp
        exact bound
    · exact ht.within k hk
  filled := by
    rw [filled_cons, ht.filled, Piece.filled, Placeholder.filled, hp]
    rfl

theorem Shows.append (hs : s.Shows m params shown) (ht : t.Shows m params shown') :
    (s ++ t).Shows m params (shown ++ shown') where
  within := by
    intro k hk
    rw [ordinals_append] at hk
    exact (List.mem_append.mp hk).elim (hs.within k) (ht.within k)
  filled := by rw [filled_append, hs.filled, ht.filled]

lemma filled_append_params (h : ∀ k ∈ t.ordinals, k ≤ params.length) (more : List Value) :
    t.filled (params ++ more) = t.filled params := by
  induction t with
  | nil => rfl
  | cons piece t ih =>
    cases piece with
    | verbatim v => rw [filled_cons, filled_cons, ih h, Piece.filled, Piece.filled]
    | placeholder p =>
      have rest := ih fun k hk => h k (List.mem_cons_of_mem _ hk)
      have bound := h p.ordinal List.mem_cons_self
      have same : p.value? (params ++ more) = p.value? params := by
        obtain ⟨_ | index⟩ := p
        · rfl
        · exact List.getElem?_append_left bound
      rw [filled_cons, filled_cons, rest, Piece.filled, Piece.filled, Placeholder.filled,
        Placeholder.filled, same]

/-- Binding more values changes nothing in a text that refers to the values bound before. -/
theorem Shows.extend (h : t.Shows m params shown) (more : List Value) :
    t.Shows m (params ++ more) shown where
  within := by
    intro k hk
    obtain ⟨above, bound⟩ := h.within k hk
    refine ⟨above, ?_⟩
    rw [List.length_append]
    omega
  filled := by rw [filled_append_params fun k hk => (h.within k hk).2, h.filled]

theorem Shows.weaken (h : t.Shows m params shown) {m' : Nat} (hm : m' ≤ m) :
    t.Shows m' params shown where
  within := by
    intro k hk
    obtain ⟨above, bound⟩ := h.within k hk
    exact ⟨by omega, bound⟩
  filled := h.filled

theorem Shows.joinWith {ts : List SqlText} {texts : List FilledText} (separator : String)
    (h : List.Forall₂ (fun t shown => t.Shows m params shown) ts texts) :
    (joinWith separator ts).Shows m params (FilledText.joinWith separator texts) := by
  induction h with
  | nil => exact shows_nil
  | @cons t shown ts texts ht hts ih =>
    cases hts with
    | nil => exact ht
    | cons hnext hrest =>
      rw [FilledText.joinWith, List.append_assoc]
      · exact ht.append (ih.verbatim separator)
      · nofun

end SqlText

/-! ### Filling the characters of a text -/

namespace SqlToken

/-- The digits written for a placeholder refer to the value behind it. -/
lemma value?_reference (params : List Value) (p : Placeholder) :
    value? params (.reference (Nat.toDigits 10 p.ordinal)) = p.value? params := by
  rw [value?, ordinal?_reference]
  rfl

lemma filled_reference (params : List Value) (p : Placeholder) :
    filled params (.reference (Nat.toDigits 10 p.ordinal)) = p.filled params := by
  rw [filled, value?_reference, Placeholder.filled]
  rfl

lemma flatMap_filled_characters (params : List Value) (cs : List Char) :
    (cs.map SqlToken.character).flatMap (filled params) = FilledText.ofChars cs := by
  rw [List.flatMap_map]
  exact (List.map_eq_flatMap).symm

end SqlToken

/-- Replacing the tokens in the characters of a delimited text fills its placeholders. -/
theorem SqlText.Delimited.filled_chars {after : Bool} {t : SqlText} (h : t.Delimited after)
    (params : List Value) :
    (SqlToken.scan t.chars).flatMap (SqlToken.filled params) = t.filled params := by
  induction t generalizing after with
  | nil => rfl
  | cons piece t ih =>
    cases piece with
    | verbatim s =>
      rw [chars_cons, Piece.chars, SqlToken.scan_append_of_no_dollar h.1, List.flatMap_append,
        SqlToken.flatMap_filled_characters, ih h.2.2, filled_cons, Piece.filled,
        FilledText.ofString]
    | placeholder p =>
      have rest : Delimited true t := h
      rw [chars_cons, Piece.chars, SqlToken.scan_placeholder p rest.noDigitAhead,
        List.flatMap_cons, SqlToken.filled_reference, ih rest, filled_cons, Piece.filled]

/-- The tokens in the characters of a delimited text are its placeholders. -/
theorem SqlText.Delimited.exists_of_reference_mem {after : Bool} {t : SqlText}
    (h : t.Delimited after) {digits : List Char} (hm : .reference digits ∈ SqlToken.scan t.chars) :
    ∃ p : Placeholder, p.ordinal ∈ t.ordinals ∧ digits = Nat.toDigits 10 p.ordinal := by
  induction t generalizing after with
  | nil => cases hm
  | cons piece t ih =>
    cases piece with
    | verbatim s =>
      rw [chars_cons, Piece.chars, SqlToken.scan_append_of_no_dollar h.1, List.mem_append] at hm
      rcases hm with character | hm
      · obtain ⟨_, -, ⟨⟩⟩ := List.mem_map.mp character
      · exact ih h.2.2 hm
    | placeholder p =>
      have rest : Delimited true t := h
      rw [chars_cons, Piece.chars, SqlToken.scan_placeholder p rest.noDigitAhead] at hm
      rcases List.mem_cons.mp hm with same | hm
      · cases same
        exact ⟨p, List.mem_cons_self, rfl⟩
      · obtain ⟨q, hq, hdigits⟩ := ih rest hm
        exact ⟨q, List.mem_cons_of_mem _ hq, hdigits⟩

/-- Where the placeholders of a text are within its values, each of its tokens has one. -/
theorem Statement.exists_value_of_reference_mem {s : Statement} (h : s.text.Delimited false)
    (within : ∀ k ∈ s.text.ordinals, 0 < k ∧ k ≤ s.params.length) {digits : List Char}
    (hm : .reference digits ∈ SqlToken.scan s.sql.toList) :
    ∃ v ∈ s.params, SqlToken.value? s.params (.reference digits) = some v := by
  rw [sql, SqlText.render, String.toList_ofList] at hm
  obtain ⟨⟨n⟩, hn, rfl⟩ := h.exists_of_reference_mem hm
  have valued : 1 ≤ n ∧ n ≤ s.params.length := within n hn
  rw [SqlToken.value?_reference, Placeholder.value?_eq, dif_pos valued]
  exact ⟨_, List.getElem_mem _, rfl⟩

theorem Statement.filled_of_delimited {s : Statement} (h : s.text.Delimited false) :
    s.filled = s.text.filled s.params := by
  rw [filled, sql, SqlText.render, String.toList_ofList, h.filled_chars]

end BoundQuery
