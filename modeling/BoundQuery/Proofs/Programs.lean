import BoundQuery.Proofs.Contiguity
import BoundQuery.Proofs.Operations

/-!
# Programs of drafting operations

A program is a sequence of operations on a draft. It may open a nested draft, run a program on
it, and fold it back, as long as its own draft bound nothing in the meantime. What a program
contributes is read off the program, with each value in the place where the operation that was
given the value writes it. Main statement: `Program.placeholders_aligned`.
-/
namespace BoundQuery

open FilledText (ofString)

/-- A program; `nested` opens a nested draft, runs a program on it, runs another on its own draft
in the meantime, folds the nested draft back, and goes on. -/
inductive Program where
  | done
  | step (op : Operation) (rest : Program)
  | nested (base : String) (inner meanwhile rest : Program)

namespace Program

def run : Program → Draft → Except Fault Draft
  | .done, d => .ok d
  | .step op rest, d => (op.apply d).bind rest.run
  | .nested base inner meanwhile rest, d =>
    (inner.run (d.nested base)).bind fun sub =>
      (meanwhile.run d).bind fun d => (d.fold sub).bind rest.run

/-- What the operations of a program add, one after the other. -/
def contribution : Program → Contribution
  | .done => {}
  | .step op rest => op.contribution ++ rest.contribution
  | .nested base inner meanwhile rest =>
    meanwhile.contribution ++ (inner.contribution.hasRow base ++ rest.contribution)

/-- No text of a program holds a dollar sign, and nothing is bound while a nested draft is open. -/
def WellFormed : Program → Prop
  | .done => True
  | .step op rest => op.Plain ∧ rest.WellFormed
  | .nested base inner meanwhile rest =>
    Plain base ∧ inner.WellFormed ∧ meanwhile.WellFormed ∧ meanwhile.contribution.values = [] ∧
      rest.WellFormed

end Program

/-! ### What a run shows -/

open Draft

/-- Where nothing is bound, a nested draft may as well be opened afterwards. -/
lemma Draft.Gains.nested_eq {k : Contribution} {d e : Draft} (h : Gains k d e)
    (hk : k.values = []) (base : String) : e.nested base = d.nested base := by
  rw [Draft.nested, h.params, hk, List.append_nil, Draft.nested]

namespace Program

/-- A nested program in the open: the nested run, the run in the meantime, the fold, the rest. -/
lemma run_nested_eq_ok {base : String} {inner meanwhile rest : Program} {d e : Draft} :
    (nested base inner meanwhile rest).run d = .ok e ↔
      ∃ sub d' e', inner.run (d.nested base) = .ok sub ∧ meanwhile.run d = .ok d' ∧
        d'.fold sub = .ok e' ∧ rest.run e' = .ok e := by
  simp only [run, Outcome.andThen_eq_ok]
  constructor
  · rintro ⟨sub, hsub, d', hd', e', he', hrest⟩
    exact ⟨sub, d', e', hsub, hd', he', hrest⟩
  · rintro ⟨sub, d', e', hsub, hd', he', hrest⟩
    exact ⟨sub, hsub, d', hd', e', he', hrest⟩

/-- A run adds what the program contributes. -/
theorem gains_run {p : Program} (hp : p.WellFormed) {d e : Draft} (h : p.run d = .ok e) :
    Gains p.contribution d e := by
  induction p generalizing d e with
  | done =>
    cases h
    exact Gains.refl d
  | step op rest ih =>
    obtain ⟨d', hd', he⟩ := Outcome.andThen_eq_ok.mp h
    exact (Operation.gains_apply hd').trans (ih hp.2 he)
  | nested base inner meanwhile rest inner_ih meanwhile_ih rest_ih =>
    obtain ⟨-, hinner, hmeanwhile, hnone, hrest⟩ := hp
    obtain ⟨sub, d', e', hsub, hd', he', he⟩ := run_nested_eq_ok.mp h
    have waited := meanwhile_ih hmeanwhile hd'
    have seed := waited.nested_eq hnone base
    have grown := inner_ih hinner hsub
    rw [← seed] at grown
    exact waited.trans ((grown.fold he').trans (rest_ih hrest he))

end Program

/-! ### What a run refers to -/

namespace Draft

/-- Delimited texts are added, and they refer to the values added and to every one of them. -/
structure Continues (d e : Draft) : Prop where
  base : ∃ more, Plain more ∧ e.base = d.base ++ more
  params : ∃ more, e.params = d.params ++ more
  conditions : ∃ more, e.conditions = d.conditions ++ more ∧ ∀ c ∈ more, c.text.Delimited false
  groups : ∃ more, e.groups = d.groups ++ more ∧ ∀ g ∈ more, Plain g
  closing : ∃ more, e.closing = d.closing ++ more ∧ ∀ t ∈ more, t.Delimited false
  ordinals : ∀ k, k ∈ e.text.ordinals ↔
    k ∈ d.text.ordinals ∨ d.params.length < k ∧ k ≤ e.params.length

theorem Continues.refl (d : Draft) : d.Continues d where
  base := ⟨"", by decide, by simp⟩
  params := ⟨[], by simp⟩
  conditions := ⟨[], by simp⟩
  groups := ⟨[], by simp⟩
  closing := ⟨[], by simp⟩
  ordinals := by
    intro k
    have none_between : ¬ (d.params.length < k ∧ k ≤ d.params.length) := by omega
    simp [none_between]

lemma Continues.length_le {d e : Draft} (h : d.Continues e) :
    d.params.length ≤ e.params.length := by
  obtain ⟨more, hmore⟩ := h.params
  rw [hmore, List.length_append]
  omega

theorem Continues.trans {d e f : Draft} (h : d.Continues e) (h' : e.Continues f) :
    d.Continues f where
  base := by
    obtain ⟨s, hs, he⟩ := h.base
    obtain ⟨t, ht, hf⟩ := h'.base
    exact ⟨s ++ t, hs.append ht, by rw [hf, he, String.append_assoc]⟩
  params := by
    obtain ⟨s, he⟩ := h.params
    obtain ⟨t, hf⟩ := h'.params
    exact ⟨s ++ t, by rw [hf, he, List.append_assoc]⟩
  conditions := by
    obtain ⟨s, he, hs⟩ := h.conditions
    obtain ⟨t, hf, ht⟩ := h'.conditions
    refine ⟨s ++ t, by rw [hf, he, List.append_assoc], ?_⟩
    exact fun c hc => (List.mem_append.mp hc).elim (hs c) (ht c)
  groups := by
    obtain ⟨s, he, hs⟩ := h.groups
    obtain ⟨t, hf, ht⟩ := h'.groups
    refine ⟨s ++ t, by rw [hf, he, List.append_assoc], ?_⟩
    exact fun g hg => (List.mem_append.mp hg).elim (hs g) (ht g)
  closing := by
    obtain ⟨s, he, hs⟩ := h.closing
    obtain ⟨t, hf, ht⟩ := h'.closing
    refine ⟨s ++ t, by rw [hf, he, List.append_assoc], ?_⟩
    exact fun c hc => (List.mem_append.mp hc).elim (hs c) (ht c)
  ordinals := by
    intro k
    have hde := h.length_le
    have hef := h'.length_le
    rw [h'.ordinals, h.ordinals, or_assoc]
    apply or_congr_right
    omega

/-- The ordinals of a text to which conditions and closing clauses are added. -/
lemma mem_ordinals_text {d e : Draft} (conditions : List Condition) (closing : List SqlText)
    (hc : e.conditions = d.conditions ++ conditions) (ht : e.closing = d.closing ++ closing)
    (k : Nat) : k ∈ e.text.ordinals ↔ k ∈ d.text.ordinals ∨
      k ∈ (conditions.flatMap fun c => c.text.ordinals) ∨ k ∈ closing.flatMap SqlText.ordinals := by
  rw [ordinals_text, ordinals_text, hc, ht]
  simp only [List.flatMap_append, List.mem_append]
  tauto

/-- Growth adds conditions that refer to all values added. -/
theorem Grows.continues {d e : Draft} (h : d.Grows e) : d.Continues e where
  base := h.base
  params := h.params
  conditions := by
    obtain ⟨more, hmore, hd, -⟩ := h.conditions
    exact ⟨more, hmore, hd⟩
  groups := h.groups
  closing := ⟨[], by rw [h.closing, List.append_nil], nofun⟩
  ordinals := by
    intro k
    obtain ⟨more, hmore, -, hn⟩ := h.conditions
    have closing : e.closing = d.closing ++ [] := by rw [h.closing, List.append_nil]
    rw [mem_ordinals_text more [] hmore closing, hn.mem_iff]
    simp

theorem continues_close (d : Draft) {sql : String} (h : Plain sql) :
    d.Continues (d.close (.ofString sql)) :=
  { Continues.refl d with
    closing := ⟨[.ofString sql], rfl, by simpa [SqlText.ofString] using h⟩
    ordinals := by
      intro k
      rw [mem_ordinals_text (d := d) (e := d.close (.ofString sql)) [] [.ofString sql]
        (List.append_nil _).symm rfl]
      apply or_congr_right
      simp [close, SqlText.ofString] }

theorem continues_cut (d : Draft) (limit rows : Int64) : d.Continues (d.cut limit rows) :=
  { Continues.refl d with
    params := ⟨_, rfl⟩
    closing := by
      refine ⟨_, rfl, ?_⟩
      intro t ht
      rw [List.mem_singleton.mp ht]
      exact ⟨by decide, nofun, by decide, fun _ => by decide, trivial⟩
    ordinals := by
      intro k
      rw [mem_ordinals_text (d := d) (e := d.cut limit rows) [] _ (List.append_nil _).symm rfl]
      apply or_congr_right
      simp [cut]
      omega }

/-- The text of a draft that went on from some values refers to the values after them. -/
lemma Continues.nested_text {base : String} {values : List Value} {sub : Draft} (hb : Plain base)
    (h : (seeded base values).Continues sub) :
    sub.text.Delimited false ∧
      ∀ k, k ∈ sub.text.ordinals ↔ values.length < k ∧ k ≤ sub.params.length := by
  constructor
  · obtain ⟨more, hmore, hbase⟩ := h.base
    obtain ⟨conditions, hconditions, hcs⟩ := h.conditions
    obtain ⟨groups, hgroups, hgs⟩ := h.groups
    obtain ⟨closing, hclosing, hts⟩ := h.closing
    apply delimited_text
    · rw [hbase]
      exact hb.append hmore
    · rw [hconditions]
      exact hcs
    · rw [hgroups]
      exact hgs
    · rw [hclosing]
      exact hts
  · intro k
    have silent : (seeded base values).text.ordinals = [] := ordinals_text _
    rw [h.ordinals, silent]
    simp [seeded]

/-- Folding a nested draft back goes on with what the nested draft bound. -/
theorem Continues.fold {base : String} {d sub e : Draft} (hb : Plain base)
    (h : (d.nested base).Continues sub) (hf : d.fold sub = .ok e) : d.Continues e := by
  obtain ⟨_, habsorb, rfl⟩ := Outcome.map_eq_ok.mp hf
  obtain ⟨-, rfl⟩ := absorb_eq_ok.mp habsorb
  obtain ⟨hd, ho⟩ := h.nested_text hb
  exact { Continues.refl d with
    params := h.params
    conditions := by
      refine ⟨_, rfl, ?_⟩
      intro c hc
      rw [List.mem_singleton.mp hc]
      exact Condition.delimited_group (Condition.delimited_anyRow hd)
    ordinals := by
      intro k
      have listed : (Condition.group (.anyRow sub.text)).text.ordinals = sub.text.ordinals := by
        simp [Condition.text]
      have text := mem_ordinals_text (d := d)
        (e := (d.adopt sub.params).add (.group (.anyRow sub.text)))
        [.group (.anyRow sub.text)] [] rfl (List.append_nil _).symm k
      rw [List.flatMap_singleton, listed, ho, List.flatMap_nil] at text
      simpa [adopt] using text }

/-- A statement that gained a contribution and refers to all its values is numbered from one to the
number of its values, and with the values in their places its text is that of the contribution. -/
theorem aligned_of_gains {k : Contribution} {base : String} {d : Draft} (hbase : Plain base)
    (gained : Gains k (ofBase base) d) (went_on : (ofBase base).Continues d) :
    (∀ n, n ∈ d.statement.references ↔ 1 ≤ n ∧ n ≤ d.params.length) ∧
      d.params = k.values ∧ d.statement.filled = k.text base := by
  obtain ⟨delimited, ordinals⟩ := went_on.nested_text hbase
  have readable : d.statement.text.Delimited false := delimited
  refine ⟨?_, gained.params, ?_⟩
  · intro n
    rw [Statement.references_of_delimited readable]
    exact ordinals n
  · rw [Statement.filled_of_delimited readable]
    exact gained.shows_text.filled

end Draft

/-- An operation that writes no closing clause lets a draft grow, or leaves it as it was. -/
lemma Operation.continues_of_open {op : Operation} (hop : op.Plain)
    (hopen : ∀ t ∈ op.texts, t.1 ≠ .closing) {d e : Draft} (h : op.apply d = .ok e) :
    d.Continues e := by
  rw [apply_eq] at h
  cases performed : op.perform d with
  | ok e' =>
    rw [performed] at h
    cases h
    exact (grows_perform hop hopen performed).continues
  | error failure =>
    rw [performed] at h
    cases failure with
    | error x =>
      cases h
      exact Continues.refl d
    | fault f => cases h

theorem Operation.continues_apply {op : Operation} (hop : op.Plain) {d e : Draft}
    (h : op.apply d = .ok e) : d.Continues e := by
  cases op with
  | paginate page limit =>
    obtain ⟨rows, -, rfl⟩ := paginate_eq_ok.mp h
    exact continues_cut d limit rows
  | close sql =>
    cases h
    exact continues_close d hop
  | _ => exact continues_of_open hop (by simp [texts]) h

namespace Program

/-- A run refers to all values it binds, and to no others. -/
theorem continues_run {p : Program} (hp : p.WellFormed) {d e : Draft} (h : p.run d = .ok e) :
    d.Continues e := by
  induction p generalizing d e with
  | done =>
    cases h
    exact Continues.refl d
  | step op rest ih =>
    obtain ⟨d', hd', he⟩ := Outcome.andThen_eq_ok.mp h
    exact (Operation.continues_apply hp.1 hd').trans (ih hp.2 he)
  | nested base inner meanwhile rest inner_ih meanwhile_ih rest_ih =>
    obtain ⟨hbase, hinner, hmeanwhile, hnone, hrest⟩ := hp
    obtain ⟨sub, d', e', hsub, hd', he', he⟩ := run_nested_eq_ok.mp h
    have waited := meanwhile_ih hmeanwhile hd'
    have seed := (gains_run hmeanwhile hd').nested_eq hnone base
    have grown := inner_ih hinner hsub
    rw [← seed] at grown
    exact waited.trans ((grown.fold hbase he').trans (rest_ih hrest he))

/-- The placeholders of a program's statement are numbered from one to the number of its values,
and with the values in their places the text is the one in which each operation has written the
values that it was given. -/
theorem placeholders_aligned (p : Program) {base : String} {d : Draft} (hbase : Plain base)
    (hp : p.WellFormed) (h : p.run (ofBase base) = .ok d) :
    (∀ n, n ∈ d.statement.references ↔ 1 ≤ n ∧ n ≤ d.params.length) ∧
      d.params = p.contribution.values ∧
      d.statement.filled = p.contribution.text base :=
  aligned_of_gains hbase (gains_run hp h) (continues_run hp h)

/-- A program with a nested statement, in which another one is nested. -/
def sample : Program :=
  .step (.compare "a.x" .eq (.int 1)) <|
  .nested "SELECT FROM u b"
    (.step (.member "b.y" (.list [.text "p", .text "q"])) <|
      .nested "SELECT FROM v c" (.step (.compare "c.z" .lt (.int 3)) .done) .done .done)
    (.step (.nullCheck "a.w" true) .done) <|
  .step (.paginate 2 10) .done

theorem placeholders_aligned_sample :
    Plain "SELECT a.x FROM t a" ∧ sample.WellFormed ∧
      ∃ d, sample.run (ofBase "SELECT a.x FROM t a") = .ok d ∧
        (∀ n, n ∈ d.statement.references ↔ 1 ≤ n ∧ n ≤ 5) ∧
        d.params = [.int 1, .list [.text "p", .text "q"], .int 3, .int 10, .int 10] ∧
        d.statement.filled =
          ofString "SELECT a.x FROM t a WHERE a.x = " ++ [.value (.int 1)]
            ++ ofString " AND a.w IS NULL AND (EXISTS(SELECT FROM u b WHERE b.y = ANY("
            ++ [.value (.list [.text "p", .text "q"])]
            ++ ofString ") AND (EXISTS(SELECT FROM v c WHERE c.z < " ++ [.value (.int 3)]
            ++ ofString ")))) LIMIT " ++ [.value (.int 10)] ++ ofString " OFFSET "
            ++ [.value (.int 10)] := by
  have hbase : Plain "SELECT a.x FROM t a" := by decide
  have formed : sample.WellFormed := by
    simp only [sample, WellFormed, Operation.Plain]
    decide
  obtain ⟨d, hd⟩ : ∃ d, sample.run (ofBase "SELECT a.x FROM t a") = .ok d := ⟨_, rfl⟩
  obtain ⟨numbered, values, filled⟩ := placeholders_aligned sample hbase formed hd
  have count : d.params.length = 5 := by rw [values]; rfl
  refine ⟨hbase, formed, d, hd, ?_, values, ?_⟩
  · rwa [count] at numbered
  · rw [filled]
    rfl

end Program

end BoundQuery
