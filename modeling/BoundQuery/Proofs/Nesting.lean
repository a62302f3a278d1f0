import BoundQuery.Proofs.FilledText

/-!
# Parentheses of a text

The depth of a text is the number of parentheses that it opens and does not close. A text is sealed
against some letters when its parentheses balance and none of the letters stands outside of them.
Sealed texts stay sealed one after the other, and a balanced text is sealed by parentheses around
it. A word with such a letter is found outside of parentheses only where it was put between sealed
texts, so a statement falls apart into its conditions again. Main statement: `Nesting.conjuncts_eq`.
-/
namespace BoundQuery

namespace Nesting

/-! ### Depth -/

/-- The depth after one more character. There is none after a parenthesis closed that was not open,
and none after a reserved letter stood outside of all parentheses. -/
def step (letters : List Char) (depth : Option Nat) (c : Char) : Option Nat :=
  depth.bind fun n =>
    if c = '(' then some (n + 1)
    else if c = ')' then if n = 0 then none else some (n - 1)
    else if n = 0 ∧ c ∈ letters then none
    else some n

def depthFrom (letters : List Char) (depth : Option Nat) (text : List Char) : Option Nat :=
  text.foldl (step letters) depth

/-- The number of parentheses that a text opens and does not close. -/
def depth (text : List Char) : Option Nat := depthFrom [] (some 0) text

/-- The parentheses of a text balance. -/
def Balanced (text : List Char) : Prop := depth text = some 0

/-- A balanced text with none of the reserved letters outside of its parentheses. -/
def Sealed (letters text : List Char) : Prop := depthFrom letters (some 0) text = some 0

/-- A text that means the same between others: its parentheses balance, and neither a conjunction
nor a disjunction stands outside of them. -/
structure Closed (text : List Char) : Prop where
  balanced : Balanced text
  whole : ∀ word ∈ [" AND ".toList, " OR ".toList], ∀ before after,
    text = before ++ word ++ after → depth before ≠ some 0

instance (text : List Char) : Decidable (Balanced text) := inferInstanceAs (Decidable (_ = _))

instance (letters text : List Char) : Decidable (Sealed letters text) :=
  inferInstanceAs (Decidable (_ = _))

section Depth

variable {letters : List Char} {m n : Nat} {s t : List Char} {c : Char}

@[simp] theorem depthFrom_nil (depth : Option Nat) : depthFrom letters depth [] = depth := rfl

@[simp] theorem depthFrom_cons (depth : Option Nat) (c : Char) (t : List Char) :
    depthFrom letters depth (c :: t) = depthFrom letters (step letters depth c) t := rfl

@[simp] theorem depthFrom_append (depth : Option Nat) (s t : List Char) :
    depthFrom letters depth (s ++ t) = depthFrom letters (depthFrom letters depth s) t :=
  List.foldl_append

@[simp] theorem depthFrom_none (t : List Char) : depthFrom letters none t = none := by
  induction t with
  | nil => rfl
  | cons c t ih => exact ih

lemma step_open (n : Nat) : step letters (some n) '(' = some (n + 1) := rfl

lemma step_close (n : Nat) : step letters (some (n + 1)) ')' = some n := by
  simp [step]

/-- Other characters leave the depth as it is, if there is any after them. -/
lemma step_eq_some_of_ne (ho : c ≠ '(') (hc : c ≠ ')') :
    step letters (some n) c = some m ↔ m = n ∧ (n = 0 → c ∉ letters) := by
  simp only [step, Option.bind_some, if_neg ho, if_neg hc]
  by_cases met : n = 0 ∧ c ∈ letters
  · simp [met]
  · rw [if_neg met, Option.some.injEq, eq_comm]
    exact (and_iff_left fun zero hm => met ⟨zero, hm⟩).symm

/-- What was reached in sight of the reserved letters is reached without regard to them. -/
lemma step_weaken {weaker : List Char} (hsub : weaker ⊆ letters)
    (h : step letters (some n) c = some m) : step weaker (some n) c = some m := by
  by_cases ho : c = '('
  · rwa [ho] at h ⊢
  · by_cases hc : c = ')'
    · rwa [hc] at h ⊢
    · rw [step_eq_some_of_ne ho hc] at h ⊢
      exact ⟨h.1, fun zero met => h.2 zero (hsub met)⟩

/-- One level deeper no letter is reserved. -/
lemma step_raise (h : step [] (some n) c = some m) :
    step letters (some (n + 1)) c = some (m + 1) := by
  by_cases ho : c = '('
  · rw [ho, step_open] at h ⊢
    rw [Option.some.inj h]
  · by_cases hc : c = ')'
    · rw [hc] at h ⊢
      cases n with
      | zero => cases h
      | succ n =>
        rw [step_close] at h ⊢
        rw [Option.some.inj h]
    · rw [step_eq_some_of_ne ho hc] at h ⊢
      exact ⟨congrArg (· + 1) h.1, nofun⟩

lemma exists_step_of_depthFrom (h : depthFrom letters (some n) (c :: t) = some m) :
    ∃ k, step letters (some n) c = some k ∧ depthFrom letters (some k) t = some m := by
  rw [depthFrom_cons] at h
  cases hstep : step letters (some n) c with
  | none =>
    rw [hstep, depthFrom_none] at h
    cases h
  | some k => exact ⟨k, rfl, hstep ▸ h⟩

lemma depthFrom_weaken {weaker : List Char} (hsub : weaker ⊆ letters)
    (h : depthFrom letters (some n) t = some m) : depthFrom weaker (some n) t = some m := by
  induction t generalizing n with
  | nil => exact h
  | cons c t ih =>
    obtain ⟨k, hk, ht⟩ := exists_step_of_depthFrom h
    rw [depthFrom_cons, step_weaken hsub hk]
    exact ih ht

lemma depthFrom_raise (h : depthFrom [] (some n) t = some m) :
    depthFrom letters (some (n + 1)) t = some (m + 1) := by
  induction t generalizing n with
  | nil =>
    cases h
    rfl
  | cons c t ih =>
    obtain ⟨k, hk, ht⟩ := exists_step_of_depthFrom h
    rw [depthFrom_cons, step_raise hk]
    exact ih ht

/-! ### Sealed texts -/

lemma Sealed.weaken {weaker : List Char} (h : Sealed letters t) (hsub : weaker ⊆ letters) :
    Sealed weaker t := depthFrom_weaken hsub h

lemma Sealed.balanced (h : Sealed letters t) : Balanced t := h.weaken (List.nil_subset _)

lemma Sealed.append (hs : Sealed letters s) (ht : Sealed letters t) :
    Sealed letters (s ++ t) := by
  rw [Sealed, depthFrom_append, hs]
  exact ht

/-- A reserved letter stands in a sealed text at some depth only. -/
lemma Sealed.depth_ne_zero (h : Sealed letters (s ++ c :: t)) (hc : c ∈ letters)
    (ho : c ≠ '(') (hcl : c ≠ ')') : depth s ≠ some 0 := by
  intro top
  rw [Sealed, depthFrom_append] at h
  cases reached : depthFrom letters (some 0) s with
  | none =>
    rw [reached, depthFrom_none] at h
    cases h
  | some n =>
    have zero : n = 0 := by
      have plain := depthFrom_weaken (List.nil_subset _) reached
      exact Option.some.inj (plain.symm.trans top)
    rw [reached] at h
    obtain ⟨k, hk, -⟩ := exists_step_of_depthFrom h
    exact ((step_eq_some_of_ne ho hcl).mp hk).2 zero hc

end Depth

/-! ### Words between sealed texts -/

/-- A word that starts with a space and has one of some letters before the next space. -/
def Marked (letters word : List Char) : Prop :=
  ∃ before mark after, word = ' ' :: before ++ mark :: after ∧ mark ∈ letters ∧
    ∀ c ∈ before ++ [mark], c ≠ ' ' ∧ c ≠ '(' ∧ c ≠ ')'

/-- A text that is empty or starts with a space. -/
def Spaced (text : List Char) : Prop := ∀ c ∈ text.head?, c = ' '

/-- Cuts a text at the first of some words that stands outside of parentheses: what is before it,
and what comes after it. -/
def cutTop (words : List (List Char)) : Option Nat → List Char → Option (List Char × List Char)
  | _, [] => none
  | depth, c :: rest =>
    match (if depth = some 0 then words.find? fun word => word.isPrefixOf (c :: rest) else none) with
    | some word => some ([], rest.drop (word.length - 1))
    | none => (cutTop words (step [] depth c) rest).map fun (before, after) => (c :: before, after)

lemma length_cutTop_lt {words : List (List Char)} {depth : Option Nat}
    {text before after : List Char} (h : cutTop words depth text = some (before, after)) :
    after.length < text.length := by
  induction text generalizing depth before with
  | nil => cases h
  | cons c rest ih =>
    unfold cutTop at h
    split at h
    · cases h
      simp only [List.length_drop, List.length_cons]
      omega
    · obtain ⟨⟨first, last⟩, hcut, hpair⟩ := Option.map_eq_some_iff.mp h
      obtain ⟨-, rfl⟩ := Prod.mk.inj hpair
      exact (ih hcut).trans (Nat.lt_succ_self _)

/-- The parts of a text between the places where a word stands outside of parentheses. -/
def splitTop (word text : List Char) : List (List Char) :=
  match _h : cutTop [word] (some 0) text with
  | none => [text]
  | some (before, after) => before :: splitTop word after
termination_by text.length
decreasing_by exact length_cutTop_lt _h

section Cut

variable {letters : List Char} {m n : Nat} {s t word : List Char} {words : List (List Char)}

lemma Spaced.not_start (ht : Spaced t) {c : Char} (hc : c ≠ ' ') (rest : List Char) :
    ¬ c :: rest <+: t := by
  rintro ⟨more, rfl⟩
  exact hc (ht c rfl)

/-- A text that is read up to a reserved letter has that letter or ends, in a space, before it. -/
lemma not_prefix_of_mark {before after : List Char} {mark : Char} (hmark : mark ∈ letters)
    (hquiet : ∀ c ∈ before ++ [mark], c ≠ ' ' ∧ c ≠ '(' ∧ c ≠ ')')
    (hs : depthFrom letters (some 0) s = some m) (ht : Spaced t) :
    ¬ before ++ mark :: after <+: s ++ t := by
  induction before generalizing s with
  | nil =>
    obtain ⟨hspace, ho, hc⟩ := hquiet mark (by simp)
    cases s with
    | nil => exact ht.not_start hspace after
    | cons c s =>
      rw [List.nil_append, List.cons_append, List.cons_prefix_cons]
      rintro ⟨rfl, -⟩
      obtain ⟨k, hk, -⟩ := exists_step_of_depthFrom hs
      exact ((step_eq_some_of_ne ho hc).mp hk).2 rfl hmark
  | cons b before ih =>
    obtain ⟨hspace, ho, hc⟩ := hquiet b (by simp)
    cases s with
    | nil => exact ht.not_start hspace _
    | cons c s =>
      rw [List.cons_append, List.cons_append, List.cons_prefix_cons]
      rintro ⟨rfl, hprefix⟩
      obtain ⟨k, hk, hs⟩ := exists_step_of_depthFrom hs
      rw [((step_eq_some_of_ne ho hc).mp hk).1] at hs
      exact ih (fun c hc => hquiet c (List.mem_cons_of_mem _ hc)) hs hprefix

/-- A marked word does not start inside a sealed text that a space or nothing follows. -/
lemma Marked.not_start (hw : Marked letters word) (hne : s ≠ [])
    (hs : depthFrom letters (some 0) s = some m) (ht : Spaced t) : ¬ word <+: s ++ t := by
  obtain ⟨before, mark, after, rfl, hmark, hquiet⟩ := hw
  obtain ⟨c, s, rfl⟩ := List.exists_cons_of_ne_nil hne
  rw [List.cons_append, List.cons_append, List.cons_prefix_cons]
  rintro ⟨rfl, hprefix⟩
  obtain ⟨k, hk, hs⟩ := exists_step_of_depthFrom hs
  rw [((step_eq_some_of_ne (by decide) (by decide)).mp hk).1] at hs
  exact not_prefix_of_mark hmark hquiet hs ht hprefix

/-- Marked words are looked for only behind a sealed text. -/
theorem cutTop_append (hw : ∀ word ∈ words, Marked letters word)
    (hs : depthFrom letters (some n) s = some 0) (ht : Spaced t) :
    cutTop words (some n) (s ++ t) =
      (cutTop words (some 0) t).map fun (before, after) => (s ++ before, after) := by
  induction s generalizing n with
  | nil =>
    cases hs
    exact Option.map_id'.symm
  | cons c s ih =>
    obtain ⟨k, hk, hrest⟩ := exists_step_of_depthFrom hs
    have nowhere : (if some n = some 0 then
        words.find? fun word => word.isPrefixOf (c :: (s ++ t)) else none) = none := by
      split_ifs with top
      · cases top
        rw [List.find?_eq_none]
        intro word hm hprefix
        exact (hw word hm).not_start (List.cons_ne_nil c s) hs ht
          (List.isPrefixOf_iff_prefix.mp hprefix)
      · rfl
    rw [List.cons_append, cutTop, nowhere, step_weaken (List.nil_subset _) hk, ih hrest,
      Option.map_map]
    rfl

/-- Nothing is cut off a sealed text. -/
lemma cutTop_eq_none (hw : ∀ word ∈ words, Marked letters word) (hs : Sealed letters s) :
    cutTop words (some 0) s = none := by
  have cut := cutTop_append hw hs (t := []) nofun
  rwa [List.append_nil] at cut

/-- The first word behind a sealed text is found. -/
lemma cutTop_word (hw : ∀ word ∈ words, Marked letters word) (hs : Sealed letters s)
    (hmarked : Marked letters word)
    (hfound : (words.find? fun word' => word'.isPrefixOf (word ++ t)) = some word) :
    cutTop words (some 0) (s ++ (word ++ t)) = some (s, t) := by
  obtain ⟨before, mark, after, rfl, -⟩ := hmarked
  rw [cutTop_append hw hs (by rintro c ⟨⟩; rfl), List.cons_append, List.cons_append, cutTop,
    if_pos rfl]
  rw [List.cons_append, List.cons_append] at hfound
  rw [hfound]
  simp

/-- Sealed texts with a marked word between them fall apart into themselves. -/
theorem splitTop_intercalate (hw : Marked letters word) {parts : List (List Char)}
    (hne : parts ≠ []) (hs : ∀ part ∈ parts, Sealed letters part) :
    splitTop word (word.intercalate parts) = parts := by
  have alone : ∀ word' ∈ [word], Marked letters word' := by simpa using hw
  obtain ⟨part, parts, rfl⟩ := List.exists_cons_of_ne_nil hne
  induction parts generalizing part with
  | nil =>
    rw [List.intercalate_singleton, splitTop]
    split
    next => rfl
    next before after hcut =>
      rw [cutTop_eq_none alone (hs part (by simp))] at hcut
      cases hcut
  | cons second parts ih =>
    have joined : word.intercalate (part :: second :: parts) =
        part ++ (word ++ word.intercalate (second :: parts)) := by
      rw [List.intercalate_cons_cons, List.append_assoc]
    have found : ([word].find? fun word' =>
        word'.isPrefixOf (word ++ word.intercalate (second :: parts))) = some word :=
      List.find?_cons_of_pos (List.isPrefixOf_iff_prefix.mpr (List.prefix_append _ _))
    have cut := cutTop_word alone (hs part (by simp)) hw found
    rw [joined, splitTop]
    split
    next hcut =>
      rw [cut] at hcut
      cases hcut
    next before after hcut =>
      rw [cut] at hcut
      cases hcut
      rw [ih second (by simp) fun p hp => hs p (List.mem_cons_of_mem _ hp)]

end Cut

/-! ### Statements -/

/-- The words that end the conditions of a statement. -/
def followers : List (List Char) :=
  [" GROUP BY ".toList, " ORDER BY ".toList, " LIMIT ".toList]

/-- What a statement asks of its rows: the text behind the first word that opens the conditions, up
to the next clause. -/
def whereClause (sql : List Char) : List Char :=
  match cutTop [" WHERE ".toList] (some 0) sql with
  | none => []
  | some (_, behind) =>
    match cutTop followers (some 0) behind with
    | none => behind
    | some (conditions, _) => conditions

/-- The conditions of a statement, cut apart where conjunctions stand outside of parentheses. -/
def conjuncts (sql : List Char) : List (List Char) := splitTop " AND ".toList (whereClause sql)

/-- A letter of each word that joins conditions or opens a clause. -/
def reserved : List Char := ['D', 'M', 'R', 'W']

section Statement

variable {base tail : List Char} {parts : List (List Char)}

lemma marked_and : Marked reserved " AND ".toList :=
  ⟨"AN".toList, 'D', [' '], rfl, by decide, by simp⟩

lemma marked_where : Marked ['W'] " WHERE ".toList :=
  ⟨[], 'W', "HERE ".toList, rfl, by decide, by simp⟩

lemma marked_followers : ∀ word ∈ followers, Marked ['M', 'R', 'W'] word := by
  simp only [followers, List.forall_mem_cons]
  refine ⟨?_, ?_, ?_, nofun⟩
  · exact ⟨['G'], 'R', "OUP BY ".toList, rfl, by decide, by simp⟩
  · exact ⟨['O'], 'R', "DER BY ".toList, rfl, by decide, by simp⟩
  · exact ⟨"LI".toList, 'M', "IT ".toList, rfl, by decide, by simp⟩

/-- Nowhere outside of parentheses does a word start that has a reserved letter. -/
lemma Sealed.outside {letters text : List Char} (h : Sealed letters text) {s rest : List Char}
    {c : Char} (hc : c ∈ letters) (hquiet : c ≠ '(' ∧ c ≠ ')') (hs : Balanced s)
    {before after : List Char} (split : text = before ++ (s ++ c :: rest) ++ after) :
    depth before ≠ some 0 := by
  intro top
  have marked : text = (before ++ s) ++ c :: (rest ++ after) := by simp [split]
  rw [marked] at h
  refine h.depth_ne_zero hc hquiet.1 hquiet.2 ?_
  rw [depth] at top ⊢
  rw [depthFrom_append, top]
  exact hs

/-- A text without reserved letters outside of its parentheses is closed. -/
theorem Sealed.closed {text : List Char} (h : Sealed reserved text) : Closed text where
  balanced := h.balanced
  whole := by
    simp only [List.forall_mem_cons]
    refine ⟨?_, ?_, nofun⟩
    · intro before after split
      exact h.outside (s := " AN".toList) (c := 'D') (by decide) (by decide) rfl split
    · intro before after split
      exact h.outside (s := " O".toList) (c := 'R') (by decide) (by decide) rfl split

lemma Sealed.intercalate {letters word : List Char} (hw : Sealed letters word)
    (h : ∀ part ∈ parts, Sealed letters part) : Sealed letters (word.intercalate parts) := by
  induction parts with
  | nil => rfl
  | cons part parts ih =>
    obtain ⟨first, rest⟩ := List.forall_mem_cons.mp h
    cases parts with
    | nil =>
      rw [List.intercalate_singleton]
      exact first
    | cons second parts =>
      rw [List.intercalate_cons_cons]
      exact (first.append hw).append (ih rest)

/-- The word that a tail starts with is the first follower that is found there. -/
lemma find?_followers {word : List Char} (hw : word ∈ followers) (rest : List Char) :
    (followers.find? fun word' => word'.isPrefixOf (word ++ rest)) = some word := by
  simp only [followers, List.mem_cons, List.not_mem_nil, or_false] at hw
  rcases hw with rfl | rfl | rfl <;> rfl

/-- The conditions of a statement end where the next clause starts. -/
theorem whereClause_eq (hbase : Sealed ['W'] base)
    (hs : ∀ part ∈ parts, Sealed reserved part)
    (ht : tail = [] ∨ ∃ word ∈ followers, word <+: tail) :
    whereClause (base ++ (" WHERE ".toList ++ (" AND ".toList.intercalate parts ++ tail))) =
      " AND ".toList.intercalate parts := by
  have joined : Sealed ['M', 'R', 'W'] (" AND ".toList.intercalate parts) :=
    Sealed.intercalate (by decide) fun part hm => (hs part hm).weaken (by decide)
  have opened := cutTop_word (List.forall_mem_singleton.mpr marked_where) hbase marked_where
    (t := " AND ".toList.intercalate parts ++ tail) rfl
  rw [whereClause, opened]
  rcases ht with rfl | ⟨word, hword, rest, rfl⟩
  · rw [List.append_nil]
    simp only [cutTop_eq_none marked_followers joined]
  · simp only [cutTop_word marked_followers joined (marked_followers word hword)
      (find?_followers hword rest)]

/-- A statement put together from sealed conditions falls apart into them. -/
theorem conjuncts_eq (hbase : Sealed ['W'] base) (hne : parts ≠ [])
    (hs : ∀ part ∈ parts, Sealed reserved part)
    (ht : tail = [] ∨ ∃ word ∈ followers, word <+: tail) :
    conjuncts (base ++ (" WHERE ".toList ++ (" AND ".toList.intercalate parts ++ tail))) =
      parts := by
  rw [conjuncts, whereClause_eq hbase hs ht, splitTop_intercalate marked_and hne hs]

end Statement

end Nesting

end BoundQuery
