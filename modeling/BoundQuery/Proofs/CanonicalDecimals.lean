import BoundQuery.Proofs.DecimalTexts
import Mathlib.Computability.RegularExpressions

/-!
# The grammar of decimals

A text is read as a machine integer exactly when it is `0`, or digits that do not start with `0`,
with or without a minus before them, and what it denotes is in range. Reading any digits behind
any sign, one digit at a time and giving up where the range is left, and then keeping the integer
only if it prints as the text, comes to the same. Main statement: `Decimal.read_iff_canonical`.
-/
namespace BoundQuery.Decimal

/-! ### What a decimal denotes -/

/-- The number a digit stands for. -/
def digitValue (c : Char) : Nat := c.toNat - 48

/-- Each digit counts by its place. -/
def magnitude (digits : List Char) : Nat := Nat.ofDigits 10 (digits.reverse.map digitValue)

/-- The integer that a decimal denotes: a minus negates what follows it. -/
def denoted : List Char → Int
  | '-' :: digits => -(magnitude digits : Int)
  | digits => magnitude digits

lemma valueOf_eq_magnitude (digits : List Char) : valueOf digits = magnitude digits := by
  induction digits using List.reverseRecOn with
  | nil => rfl
  | append_singleton digits c ih =>
    rw [valueOf_append_singleton, ih, magnitude, magnitude, List.reverse_append,
      List.reverse_singleton, List.singleton_append, List.map_cons, Nat.ofDigits_cons, add_comm]
    rfl

/-- A digit is written for the number it stands for. -/
lemma digitChar_digitValue {c : Char} (h : c.isDigit = true) :
    digitValue c < 10 ∧ Nat.digitChar (digitValue c) = c := by
  have bounds : 48 ≤ c.toNat ∧ c.toNat ≤ 57 := Char.isDigit_iff_toNat.mp h
  have small : digitValue c < 10 := by
    rw [digitValue]
    omega
  refine ⟨small, Char.toNat_inj.mp ?_⟩
  rw [Nat.toNat_digitChar_of_lt_ten small, digitValue]
  omega

lemma denoted_of_ne {c : Char} (h : c ≠ '-') (digits : List Char) :
    denoted (c :: digits) = magnitude (c :: digits) := by
  unfold denoted
  split
  next heq =>
    cases heq
    exact absurd rfl h
  next => rfl

/-! ### The grammar -/

/-- One of some characters. -/
def oneOf (cs : List Char) : RegularExpression Char := (cs.map .char).sum

/-- `0`, or an optional minus before digits that do not start with `0`. -/
def canonical : RegularExpression Char :=
  .char '0' +
    (1 + .char '-') * (oneOf "123456789".toList * (oneOf "0123456789".toList).star)

lemma mem_char {c : Char} {text : List Char} :
    text ∈ (RegularExpression.char c).matches' ↔ text = [c] := Iff.rfl

lemma mem_oneOf {cs text : List Char} : text ∈ (oneOf cs).matches' ↔ ∃ c ∈ cs, text = [c] := by
  induction cs with
  | nil => simp [oneOf, Language.notMem_zero]
  | cons c cs ih =>
    have either : oneOf (c :: cs) = .char c + oneOf cs := rfl
    rw [either, RegularExpression.matches'_add, Language.mem_add, ih, mem_char,
      List.exists_mem_cons_iff]

lemma mem_star_oneOf {cs text : List Char} :
    text ∈ (oneOf cs).star.matches' ↔ ∀ c ∈ text, c ∈ cs := by
  rw [RegularExpression.matches'_star, Language.mem_kstar]
  constructor
  · rintro ⟨parts, rfl, each⟩ c hc
    obtain ⟨part, hpart, hmem⟩ := List.mem_flatten.mp hc
    obtain ⟨d, hd, rfl⟩ := mem_oneOf.mp (each part hpart)
    rwa [List.mem_singleton.mp hmem]
  · intro h
    refine ⟨text.map fun c => [c], ?_, ?_⟩
    · rw [← List.flatMap_def, List.flatMap_singleton']
    · intro part hpart
      obtain ⟨c, hc, rfl⟩ := List.mem_map.mp hpart
      exact mem_oneOf.mpr ⟨c, h c hc, rfl⟩

lemma mem_digits {c : Char} : c ∈ "0123456789".toList ↔ c.isDigit = true := by
  constructor
  · have listed : "0123456789".toList.all Char.isDigit = true := by decide +kernel
    exact List.all_eq_true.mp listed c
  · intro h
    have written : ∀ k < 10, Nat.digitChar k ∈ "0123456789".toList := by
      intro k hk
      interval_cases k <;> decide
    obtain ⟨small, rebuilt⟩ := digitChar_digitValue h
    exact rebuilt ▸ written _ small

lemma mem_positive {c : Char} : c ∈ "123456789".toList ↔ c ≠ '0' ∧ c.isDigit = true := by
  have nonzero : '0' ∉ "123456789".toList := by decide +kernel
  have all : "0123456789".toList = '0' :: "123456789".toList := by decide +kernel
  rw [← mem_digits, all, List.mem_cons]
  constructor
  · intro h
    exact ⟨fun zero => nonzero (zero ▸ h), .inr h⟩
  · rintro ⟨hne, hzero | h⟩
    · exact absurd hzero hne
    · exact h

/-- Digits that do not start with `0`. -/
def Significant (text : List Char) : Prop :=
  ∃ c cs, text = c :: cs ∧ c ≠ '0' ∧ ∀ d ∈ c :: cs, d.isDigit = true

lemma mem_significant {text : List Char} :
    text ∈ (oneOf "123456789".toList * (oneOf "0123456789".toList).star).matches' ↔
      Significant text := by
  rw [RegularExpression.matches'_mul, Language.mem_mul]
  constructor
  · rintro ⟨first, hfirst, cs, hcs, rfl⟩
    obtain ⟨c, hc, rfl⟩ := mem_oneOf.mp hfirst
    obtain ⟨hne, hdigit⟩ := mem_positive.mp hc
    refine ⟨c, cs, rfl, hne, ?_⟩
    intro d hd
    rcases List.mem_cons.mp hd with rfl | hd
    · exact hdigit
    · exact mem_digits.mp (mem_star_oneOf.mp hcs d hd)
  · rintro ⟨c, cs, rfl, hne, hd⟩
    refine ⟨[c], mem_oneOf.mpr ⟨c, ?_, rfl⟩, cs, ?_, rfl⟩
    · exact mem_positive.mpr ⟨hne, hd c List.mem_cons_self⟩
    · exact mem_star_oneOf.mpr fun d hm => mem_digits.mpr (hd d (List.mem_cons_of_mem c hm))

theorem mem_canonical {text : List Char} : text ∈ canonical.matches' ↔
    text = ['0'] ∨ Significant text ∨ ∃ digits, text = '-' :: digits ∧ Significant digits := by
  rw [canonical, RegularExpression.matches'_add, Language.mem_add, mem_char,
    RegularExpression.matches'_mul, Language.mem_mul]
  apply or_congr_right
  constructor
  · rintro ⟨sign, hsign, digits, hdigits, rfl⟩
    rw [mem_significant] at hdigits
    rw [RegularExpression.matches'_add, Language.mem_add, RegularExpression.matches'_epsilon,
      Language.mem_one, mem_char] at hsign
    rcases hsign with rfl | rfl
    · exact .inl hdigits
    · exact .inr ⟨digits, rfl, hdigits⟩
  · rintro (hdigits | ⟨digits, rfl, hdigits⟩)
    · exact ⟨[], .inl rfl, text, mem_significant.mpr hdigits, rfl⟩
    · exact ⟨['-'], .inr rfl, digits, mem_significant.mpr hdigits, rfl⟩

/-! ### Reading by the grammar -/

lemma Significant.head_ne_dash {c : Char} {cs : List Char} (h : Significant (c :: cs)) :
    c ≠ '-' := by
  obtain ⟨c', cs', heq, -, hd⟩ := h
  rintro rfl
  cases heq
  exact absurd (hd '-' List.mem_cons_self) (by decide)

/-- Digits behind a number that is not zero are the digits of the number they go on to. -/
lemma toDigits_append {n : Nat} (hn : 0 < n) {cs : List Char} (hd : ∀ c ∈ cs, c.isDigit = true) :
    Nat.toDigits 10 n ++ cs =
      Nat.toDigits 10 (cs.foldl (fun n c => 10 * n + digitValue c) n) := by
  induction cs generalizing n with
  | nil => rw [List.append_nil, List.foldl_nil]
  | cons c cs ih =>
    obtain ⟨small, rebuilt⟩ := digitChar_digitValue (hd c List.mem_cons_self)
    have grown : 0 < 10 * n + digitValue c := by omega
    have longer : Nat.toDigits 10 n ++ [c] = Nat.toDigits 10 (10 * n + digitValue c) := by
      rw [← Nat.toDigits_append_toDigits (by decide) hn small, Nat.toDigits_of_lt_base small,
        rebuilt]
    rw [List.foldl_cons, ← ih grown fun d hm => hd d (List.mem_cons_of_mem c hm), ← longer,
      List.append_assoc, List.singleton_append]

/-- Digits that do not start with `0` are those of the positive number that they denote. -/
lemma Significant.eq_toDigits {digits : List Char} (h : Significant digits) :
    0 < valueOf digits ∧ digits = Nat.toDigits 10 (valueOf digits) := by
  obtain ⟨c, cs, rfl, hne, hd⟩ := h
  obtain ⟨small, rebuilt⟩ := digitChar_digitValue (hd c List.mem_cons_self)
  have pos : 0 < digitValue c := by
    rcases Nat.eq_zero_or_pos (digitValue c) with zero | pos
    · rw [zero] at rebuilt
      exact absurd rebuilt.symm hne
    · exact pos
  have started : valueOf (c :: cs) =
      cs.foldl (fun n c => 10 * n + digitValue c) (digitValue c) := by
    simp [valueOf, digitValue]
  have written := toDigits_append pos fun d hm => hd d (List.mem_cons_of_mem c hm)
  rw [Nat.toDigits_of_lt_base small, rebuilt, ← started, List.singleton_append] at written
  refine ⟨?_, written⟩
  rcases Nat.eq_zero_or_pos (valueOf (c :: cs)) with zero | pos
  · rw [zero, Nat.toDigits_zero] at written
    cases written
    exact absurd rfl hne
  · exact pos

/-- A natural number is read from its digits only. -/
theorem natural?_eq_some {digits : List Char} {n : Nat} :
    natural? digits = some n ↔ digits = Nat.toDigits 10 n := by
  constructor
  · intro h
    unfold natural? at h
    split at h
    next => cases h
    next =>
      cases h
      exact Nat.toDigits_zero 10
    next c cs _ =>
      split at h
      next hc =>
        cases h
        have significant : Significant (c :: cs) := ⟨c, cs, rfl, hc.1, List.all_eq_true.mp hc.2⟩
        exact significant.eq_toDigits.2
      next => cases h
  · rintro rfl
    exact natural?_toDigits n

/-- An integer is read from what it is printed as only. -/
theorem integer?_eq_some {text : List Char} {z : Int} :
    integer? text = some z ↔ text = (toString z).toList := by
  constructor
  · intro h
    unfold integer? at h
    split at h
    next digits =>
      split at h
      next n hn =>
        cases h
        rw [toList_negSucc, natural?_eq_some.mp hn]
      next => cases h
    next =>
      obtain ⟨n, hn, rfl⟩ := Option.map_eq_some_iff.mp h
      exact (natural?_eq_some.mp hn).trans (toList_ofNat n).symm
  · rintro rfl
    exact integer?_toString z

theorem int64?_eq_some {s : String} {n : Int64} : int64? s = some n ↔ s = ofInt64 n := by
  have read : int64? s = some n ↔ integer? s.toList = some n.toInt := by
    rw [int64?, Option.bind_eq_some_iff]
    simp only [toInt64?_eq_some, exists_eq_right']
  rw [read, integer?_eq_some, ofInt64, String.toList_inj]

/-- An integer is printed as the text of the grammar that denotes it. -/
theorem eq_toString_iff {text : List Char} {z : Int} :
    text = (toString z).toList ↔ text ∈ canonical.matches' ∧ denoted text = z := by
  have digits_pos {n : Nat} (h : 0 < n) :
      Significant (Nat.toDigits 10 n) ∧ magnitude (Nat.toDigits 10 n) = n := by
    obtain ⟨c, cs, hcs, hc⟩ := toDigits_pos h
    refine ⟨⟨c, cs, hcs, hc, fun d hd => isDigit_of_mem_toDigits (hcs ▸ hd)⟩, ?_⟩
    rw [← valueOf_eq_magnitude]
    exact Nat.ofDigitChars_ten_toDigits
  rw [mem_canonical]
  constructor
  · rintro rfl
    cases z with
    | ofNat n =>
      rw [toList_ofNat]
      rcases Nat.eq_zero_or_pos n with rfl | pos
      · exact ⟨.inl (Nat.toDigits_zero 10), by rw [Nat.toDigits_zero]; rfl⟩
      · obtain ⟨significant, denotes⟩ := digits_pos pos
        refine ⟨.inr (.inl significant), ?_⟩
        obtain ⟨c, cs, hcs, -⟩ := toDigits_pos pos
        rw [hcs] at significant denotes ⊢
        rw [denoted_of_ne significant.head_ne_dash, denotes]
        rfl
    | negSucc n =>
      obtain ⟨significant, denotes⟩ := digits_pos n.succ_pos
      rw [toList_negSucc]
      refine ⟨.inr (.inr ⟨_, rfl, significant⟩), ?_⟩
      rw [denoted, denotes]
      rfl
  · rintro ⟨rfl | significant | ⟨digits, rfl, significant⟩, rfl⟩
    · decide +kernel
    · have ⟨c, cs, started, _⟩ := significant
      subst started
      rw [denoted_of_ne significant.head_ne_dash, ← valueOf_eq_magnitude]
      exact significant.eq_toDigits.2.trans (toList_ofNat _).symm
    · obtain ⟨pos, written⟩ := significant.eq_toDigits
      obtain ⟨n, hn⟩ := Nat.exists_eq_succ_of_ne_zero pos.ne'
      rw [denoted, ← valueOf_eq_magnitude]
      rw [hn] at written ⊢
      rw [written]
      exact (toList_negSucc n).symm

/-! ### Reading one digit at a time -/

/-- The integer of a magnitude, below zero or not. -/
def signed (negative : Bool) (magnitude : Nat) : Int :=
  if negative then -(magnitude : Int) else magnitude

/-- Goes on with one more digit, unless the range is left. Behind a minus the digits count
downwards, so that the least integer is reached. -/
def extend? (negative : Bool) (n : Int64) (c : Char) : Option Int64 :=
  if c.isDigit then
    (toInt64? (n.toInt * 10)).bind fun shifted =>
      toInt64? (shifted.toInt + signed negative (digitValue c))
  else none

/-- Reads one digit or more. -/
def accumulate? (negative : Bool) : List Char → Option Int64
  | [] => none
  | digits => digits.foldlM (extend? negative) 0

/-- Reads digits behind any sign or none; zeros may lead. -/
def parse? : List Char → Option Int64
  | '+' :: digits => accumulate? false digits
  | '-' :: digits => accumulate? true digits
  | digits => accumulate? false digits

lemma signed_add (negative : Bool) (j k : Nat) :
    signed negative (j + k) = signed negative j + signed negative k := by
  cases negative
  · simp only [signed, Bool.false_eq_true, if_false, Nat.cast_add]
  · simp only [signed, if_true, Nat.cast_add, neg_add]

/-- What is nearer to zero is in range with what is further away. -/
lemma signed_fits {negative : Bool} {k further : Nat} (h : k ≤ further) {m : Int64}
    (hm : m.toInt = signed negative further) :
    (Int64.ofInt (signed negative k)).toInt = signed negative k := by
  have lower := hm ▸ m.le_toInt
  have upper := hm ▸ m.toInt_lt
  apply Int64.toInt_ofInt_of_le
  · cases negative
    · simp only [signed, Bool.false_eq_true, if_false]
      omega
    · simp only [signed, if_true] at lower ⊢
      omega
  · cases negative
    · simp only [signed, Bool.false_eq_true, if_false] at upper ⊢
      omega
    · simp only [signed, if_true]
      omega

lemma extend?_eq_some {negative : Bool} {k : Nat} {n m : Int64} {c : Char}
    (hn : n.toInt = signed negative k) : extend? negative n c = some m ↔
      c.isDigit = true ∧ m.toInt = signed negative (10 * k + digitValue c) := by
  have shift : n.toInt * 10 = signed negative (10 * k) := by
    rw [hn]
    cases negative
    · simp only [signed, Bool.false_eq_true, if_false]
      omega
    · simp only [signed, if_true]
      omega
  unfold extend?
  split
  next digit =>
    rw [Option.bind_eq_some_iff, shift, signed_add]
    simp only [toInt64?_eq_some, digit, true_and]
    constructor
    · rintro ⟨shifted, hshifted, hm⟩
      rw [hm, hshifted]
    · intro hm
      -- The next digit leads away from zero, so what it leads to bounds what it starts from.
      have shifted := signed_fits (Nat.le_add_right _ _) (hm.trans (signed_add _ _ _).symm)
      exact ⟨_, shifted, by rw [hm, shifted]⟩
  next no_digit => simp [no_digit]

lemma le_foldl_digits (digits : List Char) (k : Nat) :
    k ≤ digits.foldl (fun n c => 10 * n + digitValue c) k := by
  induction digits generalizing k with
  | nil => exact le_rfl
  | cons c digits ih =>
    have further := ih (10 * k + digitValue c)
    rw [List.foldl_cons]
    omega

lemma foldlM_extend?_eq_some {negative : Bool} {digits : List Char} {k : Nat} {n m : Int64}
    (hn : n.toInt = signed negative k) : digits.foldlM (extend? negative) n = some m ↔
      (∀ c ∈ digits, c.isDigit = true) ∧
        m.toInt = signed negative (digits.foldl (fun n c => 10 * n + digitValue c) k) := by
  induction digits generalizing k n with
  | nil =>
    rw [List.foldlM_nil, Option.pure_def, Option.some_inj, List.foldl_nil, ← hn, Int64.toInt_inj,
      eq_comm]
    simp
  | cons c digits ih =>
    rw [List.foldlM_cons, Option.bind_eq_bind, Option.bind_eq_some_iff, List.forall_mem_cons,
      List.foldl_cons]
    constructor
    · rintro ⟨grown, hgrown, rest⟩
      obtain ⟨digit, value⟩ := (extend?_eq_some hn).mp hgrown
      obtain ⟨others, result⟩ := (ih value).mp rest
      exact ⟨⟨digit, others⟩, result⟩
    · rintro ⟨⟨digit, others⟩, result⟩
      -- The digits to come only lead further away from zero: had the range been left, it would
      -- still be left at the end.
      have value := signed_fits (le_foldl_digits digits (10 * k + digitValue c)) result
      exact ⟨_, (extend?_eq_some hn).mpr ⟨digit, value⟩, (ih value).mpr ⟨others, result⟩⟩

/-- Digits are read unless there are none or what they denote is out of range. -/
theorem accumulate?_eq_some {negative : Bool} {digits : List Char} {m : Int64} :
    accumulate? negative digits = some m ↔ digits ≠ [] ∧ (∀ c ∈ digits, c.isDigit = true) ∧
      m.toInt = signed negative (magnitude digits) := by
  have started : (0 : Int64).toInt = signed negative 0 := by cases negative <;> rfl
  cases digits with
  | nil => simp [accumulate?]
  | cons c digits =>
    rw [accumulate?, foldlM_extend?_eq_some started, ← valueOf_eq_magnitude]
    · simp only [ne_eq, List.cons_ne_nil, not_false_eq_true, true_and]
      rfl
    · exact nofun

/-- The decimal of an integer is among the texts that stand for it. -/
lemma parse?_ofInt64 (n : Int64) : parse? (ofInt64 n).toList = some n := by
  have read (negative : Bool) {k : Nat} (hn : n.toInt = signed negative k) :
      accumulate? negative (Nat.toDigits 10 k) = some n := by
    refine accumulate?_eq_some.mpr ⟨Nat.toDigits_ne_nil, fun c => isDigit_of_mem_toDigits, ?_⟩
    rw [hn, ← valueOf_eq_magnitude]
    exact congrArg (signed negative) Nat.ofDigitChars_ten_toDigits.symm
  rw [ofInt64]
  cases hz : n.toInt with
  | ofNat k =>
    have plain := read false hz
    rw [toList_ofNat]
    unfold parse?
    split
    next digits heq =>
      have plus : '+' ∈ Nat.toDigits 10 k := heq ▸ List.mem_cons_self
      exact absurd (isDigit_of_mem_toDigits plus) (by decide)
    next digits heq =>
      have dash : '-' ∈ Nat.toDigits 10 k := heq ▸ List.mem_cons_self
      exact absurd (isDigit_of_mem_toDigits dash) (by decide)
    next => exact plain
  | negSucc k =>
    rw [toList_negSucc]
    exact read true hz

/-- Canonical decimals are the texts that stand for an integer and are what it is printed as. -/
theorem int64?_eq_filter (s : String) :
    int64? s = (parse? s.toList).filter fun n => ofInt64 n == s := by
  apply Option.ext
  intro n
  rw [int64?_eq_some, Option.filter_eq_some_iff, beq_iff_eq]
  constructor
  · rintro rfl
    exact ⟨parse?_ofInt64 n, rfl⟩
  · rintro ⟨-, rfl⟩
    rfl

/-! ### The grammar of what is read -/

lemma toInt_int64?_eq_some {s : String} {z : Int} :
    (int64? s).map Int64.toInt = some z ↔
      (-2 ^ 63 ≤ z ∧ z < 2 ^ 63) ∧ s.toList = (toString z).toList := by
  rw [Option.map_eq_some_iff]
  simp only [int64?_eq_some, ofInt64]
  constructor
  · rintro ⟨n, rfl, rfl⟩
    exact ⟨⟨n.le_toInt, n.toInt_lt⟩, rfl⟩
  · rintro ⟨fits, printed⟩
    have value := Int64.toInt_ofInt_of_le fits.1 fits.2
    exact ⟨_, by rw [value]; exact String.toList_inj.mp printed, value⟩

/-- A text that the grammar does not have is not read. -/
lemma int64?_eq_none {s : String} (h : s.toList ∉ canonical.matches') : int64? s = none := by
  rw [Option.eq_none_iff_forall_ne_some]
  intro n hn
  have printed : s.toList = (toString n.toInt).toList := by rw [int64?_eq_some.mp hn, ofInt64]
  exact h (eq_toString_iff.mp printed).1

/-- Every character of the grammar is a digit or a minus. -/
lemma isDigit_or_dash {text : List Char} (h : text ∈ canonical.matches') {c : Char}
    (hc : c ∈ text) : c.isDigit = true ∨ c = '-' := by
  rcases mem_canonical.mp h with rfl | ⟨_, _, rfl, -, hd⟩ | ⟨_, rfl, _, _, rfl, -, hd⟩
  · rw [List.mem_singleton.mp hc]
    exact .inl (by decide)
  · exact .inl (hd c hc)
  · exact (List.mem_cons.mp hc).symm.imp_left (hd c)

lemma leading_zero_not_canonical {digits : List Char} :
    (digits ≠ [] → '0' :: digits ∉ canonical.matches') ∧
      '-' :: '0' :: digits ∉ canonical.matches' := by
  have insignificant (text : List Char) : ¬ Significant ('0' :: text) := by
    rintro ⟨_, _, heq, hne, -⟩
    cases heq
    exact hne rfl
  simp only [mem_canonical, not_or, not_exists, not_and]
  constructor
  · intro more
    exact ⟨by simpa using more, insignificant digits, nofun⟩
  · refine ⟨nofun, fun h => h.head_ne_dash rfl, ?_⟩
    intro rest heq
    cases heq
    exact insignificant digits

/-- A text is read exactly when the grammar has it and what it denotes is in range: it is one that
reads, sign and leading zeros allowed, as an integer that prints as the text. So printed integers
are read back, no two texts are read alike, and what has a plus, a blank, a digit of another
script or a leading zero is not read, nor is an integer beyond the range. -/
theorem read_iff_canonical :
    (∀ (s : String) (z : Int), (int64? s).map Int64.toInt = some z ↔
      (-2 ^ 63 ≤ z ∧ z < 2 ^ 63) ∧ s.toList ∈ canonical.matches' ∧ denoted s.toList = z) ∧
    (∀ s, int64? s = (parse? s.toList).filter fun n => ofInt64 n == s) ∧
    (∀ n, int64? (ofInt64 n) = some n) ∧
    (∀ s t n, int64? s = some n → int64? t = some n → s = t) ∧
    (∀ s : String, (∃ c ∈ s.toList, c.isDigit = false ∧ c ≠ '-') → int64? s = none) ∧
    (∀ digits, digits ≠ [] → int64? (String.ofList ('0' :: digits)) = none) ∧
    (∀ digits, int64? (String.ofList ('-' :: '0' :: digits)) = none) ∧
    ∀ z : Int, ¬ (-2 ^ 63 ≤ z ∧ z < 2 ^ 63) → int64? (toString z) = none := by
  refine ⟨?_, int64?_eq_filter, int64?_ofInt64, ?_, ?_, ?_, ?_, ?_⟩
  · intro s z
    rw [toInt_int64?_eq_some, eq_toString_iff]
  · intro s t n hs ht
    rw [int64?_eq_some.mp hs, int64?_eq_some.mp ht]
  · rintro s ⟨c, hc, no_digit, no_dash⟩
    apply int64?_eq_none
    intro h
    rcases isDigit_or_dash h hc with digit | dash
    · rw [digit] at no_digit
      cases no_digit
    · exact no_dash dash
  · intro digits more
    apply int64?_eq_none
    rw [String.toList_ofList]
    exact leading_zero_not_canonical.1 more
  · intro digits
    apply int64?_eq_none
    rw [String.toList_ofList]
    exact leading_zero_not_canonical.2
  · intro z beyond
    rw [Option.eq_none_iff_forall_ne_some]
    intro n hn
    have value : (int64? (toString z)).map Int64.toInt = some n.toInt := by rw [hn]; rfl
    obtain ⟨fits, printed⟩ := toInt_int64?_eq_some.mp value
    have same : z = n.toInt := by
      have read := integer?_toString z
      rw [printed, integer?_toString] at read
      exact (Option.some.inj read).symm
    exact beyond (same ▸ fits)

/-- The least integer is read, and the one below it, a plus, a negative zero and a digit of
another script are not. -/
theorem read_iff_canonical_least :
    (int64? "-9223372036854775808").map Int64.toInt = some (-2 ^ 63) ∧
      int64? (toString (-2 ^ 63 - 1 : Int)) = none ∧ int64? "+1" = none ∧
      int64? (String.ofList ['-', '0']) = none ∧ int64? "٣" = none := by
  obtain ⟨read, -, -, -, strange, -, negative_zero, beyond⟩ := read_iff_canonical
  refine ⟨(read _ _).mpr ⟨by decide, ?_⟩, beyond _ (by decide), ?_, negative_zero [], ?_⟩
  · exact eq_toString_iff.mp (by decide +kernel)
  · exact strange _ ⟨'+', by decide +kernel, by decide +kernel⟩
  · exact strange _ ⟨'٣', by decide +kernel, by decide +kernel⟩

end BoundQuery.Decimal
