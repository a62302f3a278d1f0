import BoundQuery.Filter.Attributes
import BoundQuery.Proofs.Outcome

/-!
# What the attribute arguments ask for

An argument name is read into a source, a type and a member, and the three are written back into
the same name. An argument asks for its member to be its value, read as its type; of the arguments
that name one member of one source, in whatever types, the one with the last name prevails. The
object put together for a source has the members that prevail, and no others.
-/
namespace BoundQuery

namespace Entries

variable {α : Type} {entries : List (String × α)}

/-- Where names increase, an entry is found by its name. -/
theorem Sorted.mem_iff (h : Sorted entries) {name : String} {value : α} :
    (name, value) ∈ entries ↔ lookup? name entries = some value := by
  induction entries with
  | nil => simp
  | cons head rest ih =>
    obtain ⟨other, held⟩ := head
    obtain ⟨later, hrest⟩ := List.pairwise_cons.mp h
    rw [lookup?, List.mem_cons, ih hrest]
    by_cases same : name = other
    · subst same
      have absent : lookup? name rest ≠ some value := fun found =>
        String.lt_irrefl name (later _ ((ih hrest).mpr found))
      simp [absent, eq_comm]
    · simp [same]

/-- Names still increase where entries are left out or get other values. -/
theorem Sorted.filterMap {β : Type} {f : String × α → Option (String × β)} (h : Sorted entries)
    (hf : ∀ e e', f e = some e' → e'.1 = e.1) : Sorted (entries.filterMap f) := by
  apply List.Pairwise.filterMap f _ h
  intro a b hlt a' ha b' hb
  rw [hf a a' ha, hf b b' hb]
  exact hlt

end Entries

/-- An argument is among the entries as a value that counts as present. -/
lemma Arguments.get?_eq_some {args : Arguments} {name : String} {v : Value} :
    args.get? name = some v ↔
      ∃ held, (name, held) ∈ args.values.entries ∧ Arguments.present? held = some v := by
  simp only [args.values.sorted.mem_iff, get?, Dictionary.lookup?, Option.bind_eq_some_iff]

/-- The present arguments whose names start with a word. -/
lemma Arguments.mem_startingWith {args : Arguments} {word name : String} {v : Value} :
    (name, v) ∈ args.startingWith word ↔
      word.toList <+: name.toList ∧ args.get? name = some v := by
  simp only [startingWith, List.mem_filterMap, Prod.exists]
  constructor
  · rintro ⟨other, held, hmem, hread⟩
    split at hread
    next hopens =>
      obtain ⟨_, hpresent, hpair⟩ := Option.map_eq_some_iff.mp hread
      obtain ⟨rfl, rfl⟩ := Prod.mk.inj hpair
      exact ⟨List.isPrefixOf_iff_prefix.mp hopens, get?_eq_some.mpr ⟨held, hmem, hpresent⟩⟩
    next => cases hread
  · rintro ⟨hopens, hget⟩
    obtain ⟨held, hmem, hpresent⟩ := get?_eq_some.mp hget
    exact ⟨name, held, hmem, by rw [if_pos (List.isPrefixOf_iff_prefix.mpr hopens), hpresent]; rfl⟩

lemma Arguments.startingWith_sorted (args : Arguments) (word : String) :
    Entries.Sorted (args.startingWith word) := by
  apply args.values.sorted.filterMap
  rintro ⟨name, v⟩ e he
  simp only at he
  split at he
  next =>
    obtain ⟨_, -, rfl⟩ := Option.map_eq_some_iff.mp he
    rfl
  next => cases he

namespace Filter

/-! ### Names -/

/-- The first occurrence of a character, with what stands before and after it. -/
theorem cutAt_eq_some {separator : Char} {text before after : List Char} :
    cutAt separator text = some (before, after) ↔
      text = before ++ separator :: after ∧ separator ∉ before := by
  induction text generalizing before with
  | nil => simp [cutAt]
  | cons c rest ih =>
    by_cases hc : c = separator
    · subst hc
      cases before with
      | nil => simp [cutAt, eq_comm]
      | cons b before =>
        constructor
        · intro h
          simp [cutAt] at h
        · rintro ⟨h, absent⟩
          rw [(List.cons.inj h).1] at absent
          exact absurd List.mem_cons_self absent
    · cases before with
      | nil => simp [cutAt, hc]
      | cons b before =>
        have absent : separator ∉ c :: before ↔ separator ∉ before := by simp [Ne.symm hc]
        rw [cutAt, if_neg hc, Option.map_eq_some_iff]
        constructor
        · rintro ⟨⟨first, last⟩, hcut, hpair⟩
          obtain ⟨hfirst, rfl⟩ := Prod.mk.inj hpair
          obtain ⟨rfl, rfl⟩ := List.cons.inj hfirst
          obtain ⟨hrest, hfirst⟩ := ih.mp hcut
          exact ⟨congrArg _ hrest, absent.mpr hfirst⟩
        · rintro ⟨htext, hbefore⟩
          obtain ⟨rfl, hrest⟩ := List.cons.inj htext
          exact ⟨(before, after), ih.mpr ⟨hrest, absent.mp hbefore⟩, rfl⟩

theorem cutAt_eq_none {separator : Char} {text : List Char} :
    cutAt separator text = none ↔ separator ∉ text := by
  induction text with
  | nil => simp [cutAt]
  | cons c rest ih =>
    by_cases hc : c = separator
    · simp [cutAt, hc]
    · simp [cutAt, hc, ih, Ne.symm hc]

theorem AttributeSource.ofWord?_eq_some {word : List Char} {source : AttributeSource} :
    ofWord? word = some source ↔ word = source.word.toList := by
  constructor
  · intro h
    have found := List.find?_some h
    exact (eq_of_beq found).symm
  · rintro rfl
    cases source <;> rfl

namespace AttributeKey

/-- A type as it stands in a name. -/
def typeMark : Option String → String
  | none => ""
  | some type => ":" ++ type

/-- The part of a name before its point. -/
def head (key : AttributeKey) : String := key.source.word ++ typeMark key.type

/-- The name of the argument that a key is read from. -/
def name (key : AttributeKey) : String := key.head ++ "." ++ key.member

/-- A key that can be read from a name: no point in its type, and a member that is not empty. -/
structure Proper (key : AttributeKey) : Prop where
  type : ∀ type ∈ key.type, '.' ∉ type.toList
  member : key.member ≠ ""

lemma plain_word (source : AttributeSource) :
    '.' ∉ source.word.toList ∧ ':' ∉ source.word.toList := by
  cases source <;> decide

lemma toList_name (key : AttributeKey) :
    key.name.toList = key.head.toList ++ '.' :: key.member.toList := by
  simp [name]

/-- Before the point, the source ends where the first colon stands. -/
lemma readHead_eq {text : List Char} {source : AttributeSource} {type : Option String} :
    readHead text = (source.word.toList, type) ↔
      text = source.word.toList ++ (typeMark type).toList := by
  have word := (plain_word source).2
  unfold readHead
  cases type with
  | none =>
    cases hcut : cutAt ':' text with
    | none => simp [typeMark]
    | some parts =>
      obtain ⟨before, after⟩ := parts
      obtain ⟨rfl, -⟩ := cutAt_eq_some.mp hcut
      have present : before ++ ':' :: after ≠ source.word.toList := by
        intro h
        exact word (h ▸ by simp)
      simpa [typeMark] using present
  | some type =>
    have written : (typeMark (some type)).toList = ':' :: type.toList := by simp [typeMark]
    rw [written]
    cases hcut : cutAt ':' text with
    | none =>
      have absent := cutAt_eq_none.mp hcut
      have present : text ≠ source.word.toList ++ ':' :: type.toList := by
        rintro rfl
        simp at absent
      simpa using present
    | some parts =>
      obtain ⟨before, after⟩ := parts
      have cut : cutAt ':' text = some (source.word.toList, type.toList) ↔
          text = source.word.toList ++ ':' :: type.toList := by
        rw [cutAt_eq_some, and_iff_left word]
      rw [← cut, hcut]
      simp only [Prod.mk.injEq, Option.some.injEq, and_congr_right_iff]
      intro _
      constructor
      · rintro rfl
        exact String.toList_ofList.symm
      · rintro rfl
        exact String.ofList_toList

/-- A name is cut at its first point. -/
lemma ofName?_eq_some_iff_cut {text : String} {key : AttributeKey} :
    ofName? text = some key ↔
      cutAt '.' text.toList = some (key.head.toList, key.member.toList) ∧ key.member ≠ "" := by
  unfold ofName?
  cases cutAt '.' text.toList with
  | none => simp
  | some parts =>
    obtain ⟨before, member⟩ := parts
    have parted : before = key.head.toList ↔
        readHead before = (key.source.word.toList, key.type) := by
      rw [readHead_eq, head, String.toList_append]
    have listed : String.ofList member = key.member ↔ member = key.member.toList := by
      rw [← String.toList_inj, String.toList_ofList]
    rw [Option.some.injEq, Prod.mk.injEq, parted, Prod.ext_iff]
    by_cases hm : member = []
    · simp [hm]
    · have filled (h : member = key.member.toList) : key.member ≠ "" := by
        intro none
        rw [none] at h
        exact hm h
      simp only [List.isEmpty_iff, if_neg hm, Option.map_eq_some_iff,
        AttributeSource.ofWord?_eq_some]
      constructor
      · rintro ⟨source, hword, rfl⟩
        have hmember : member = (String.ofList member).toList := String.toList_ofList.symm
        exact ⟨⟨⟨hword, rfl⟩, hmember⟩, filled hmember⟩
      · rintro ⟨⟨⟨hword, htype⟩, hmember⟩, -⟩
        exact ⟨key.source, hword, by rw [htype, listed.mpr hmember]⟩

/-- A name is read into the proper key that it is the name of. -/
theorem ofName?_eq_some {text : String} {key : AttributeKey} :
    ofName? text = some key ↔ text = key.name ∧ key.Proper := by
  have typed : '.' ∉ key.head.toList ↔ ∀ type ∈ key.type, '.' ∉ type.toList := by
    have word := (plain_word key.source).1
    cases htype : key.type with
    | none => simp [head, typeMark, word, htype]
    | some type => simp [head, typeMark, word, htype]
  rw [ofName?_eq_some_iff_cut, cutAt_eq_some, typed, ← toList_name, String.toList_inj]
  constructor
  · rintro ⟨⟨hname, htype⟩, hmember⟩
    exact ⟨hname, htype, hmember⟩
  · rintro ⟨hname, htype, hmember⟩
    exact ⟨⟨hname, htype⟩, hmember⟩

end AttributeKey

namespace Attributes

variable {args : Arguments} {source : AttributeSource}

/-! ### The arguments of a source -/

/-- A source is asked for by the present arguments whose names are read into keys of it. -/
theorem mem_select {name : String} {key : AttributeKey} {v : Value} :
    (name, key, v) ∈ select args source ↔
      key.source = source ∧ key.Proper ∧ name = key.name ∧ args.get? name = some v := by
  have opens : key.source.word.toList <+: key.name.toList := by
    simp [AttributeKey.name, AttributeKey.head, List.append_assoc]
  simp only [select, List.mem_filterMap, Prod.exists, Arguments.mem_startingWith]
  constructor
  · rintro ⟨other, held, ⟨-, hget⟩, hread⟩
    split at hread
    next read hkey =>
      split at hread
      next hsource =>
        cases hread
        obtain ⟨hname, hproper⟩ := AttributeKey.ofName?_eq_some.mp hkey
        exact ⟨hsource, hproper, hname, hget⟩
      next => cases hread
    next => cases hread
  · rintro ⟨rfl, hproper, rfl, hget⟩
    have hkey := AttributeKey.ofName?_eq_some.mpr ⟨rfl, hproper⟩
    exact ⟨key.name, v, ⟨opens, hget⟩, by simp [hkey]⟩

/-- The arguments of a source are taken in the order of their names. -/
theorem select_sorted (args : Arguments) (source : AttributeSource) :
    Entries.Sorted (select args source) := by
  apply (args.startingWith_sorted source.word).filterMap
  rintro ⟨name, v⟩ e he
  simp only at he
  split at he
  next =>
    split at he
    next =>
      cases he
      rfl
    next => cases he
  next => cases he

/-! ### What arguments ask for -/

/-- An argument asks for its member to be a document: its value, read as its type. -/
structure Asks (args : Arguments) (key : AttributeKey) (document : Json) : Prop where
  proper : key.Proper
  read : ∃ v, args.get? key.name = some v ∧ coerce key.type v = .ok document

/-- No argument with a later name asks for the same member of the same source. -/
structure Prevails (args : Arguments) (key : AttributeKey) (document : Json) : Prop where
  asks : Asks args key document
  last : ∀ other found, Asks args other found → other.source = key.source →
    other.member = key.member → other.name ≤ key.name

lemma term_eq_ok {name : String} {key : AttributeKey} {v : Value} {t : Term} :
    term (name, key, v) = .ok t ↔
      ∃ document, coerce key.type v = .ok document ∧ t = (key.member, document) := by
  simp only [term]
  cases coerce key.type v with
  | error problem => simp [Except.mapError, Except.map]
  | ok document => simp [Except.mapError, Except.map, eq_comm]

lemma terms_eq_ok {found : List Term} : terms args source = .ok found ↔
    List.Forall₂ (fun entry t => term entry = .ok t) (select args source) found :=
  Outcome.mapM_eq_ok

/-- What is asked of a source. -/
def Terms.of (t : Terms) : AttributeSource → List Term
  | .any => t.any
  | .immutableData => t.immutableData
  | .mutableData => t.mutableData
  | .templateData => t.templateData

lemma terms_of {t : Terms} (h : allTerms args = .ok t)
    (source : AttributeSource) : terms args source = .ok (t.of source) := by
  obtain ⟨any, hany, h⟩ := Outcome.bind_eq_ok.mp h
  obtain ⟨immutableData, himmutable, h⟩ := Outcome.bind_eq_ok.mp h
  obtain ⟨mutableData, hmutable, h⟩ := Outcome.bind_eq_ok.mp h
  obtain ⟨templateData, htemplate, h⟩ := Outcome.bind_eq_ok.mp h
  cases h
  cases source with
  | any => exact hany
  | immutableData => exact himmutable
  | mutableData => exact hmutable
  | templateData => exact htemplate

/-- Of the arguments for a member, the one with the last name. -/
structure Latest (entries : List (String × AttributeKey × Value)) (member : String)
    (entry : String × AttributeKey × Value) : Prop where
  mem : entry ∈ entries
  named : entry.2.1.member = member
  last : ∀ other ∈ entries, other.2.1.member = member → other.1 ≤ entry.1

/-- The first argument is the last for its member where none of the others is for it. -/
lemma latest_cons {first : String × AttributeKey × Value}
    {rest : List (String × AttributeKey × Value)} (h : Entries.Sorted (first :: rest))
    {member : String} {entry : String × AttributeKey × Value} :
    Latest (first :: rest) member entry ↔ Latest rest member entry ∨
      (entry = first ∧ first.2.1.member = member ∧ ∀ e ∈ rest, e.2.1.member ≠ member) := by
  have later := (List.pairwise_cons.mp h).1
  constructor
  · intro latest
    rcases List.mem_cons.mp latest.mem with rfl | hmem
    · refine .inr ⟨rfl, latest.named, ?_⟩
      intro e he hmember
      exact latest.last e (List.mem_cons_of_mem _ he) hmember (later e he)
    · exact .inl ⟨hmem, latest.named, fun e he => latest.last e (List.mem_cons_of_mem _ he)⟩
  · rintro (latest | ⟨rfl, hmember, others⟩)
    · refine ⟨List.mem_cons_of_mem _ latest.mem, latest.named, ?_⟩
      intro e he hm
      rcases List.mem_cons.mp he with rfl | he
      · exact Std.le_of_lt (later entry latest.mem)
      · exact latest.last e he hm
    · refine ⟨List.mem_cons_self, hmember, ?_⟩
      intro e he hm
      rcases List.mem_cons.mp he with rfl | he
      · exact String.le_refl _
      · exact absurd hm (others e he)

/-- The members that terms make an object of. -/
def membersOf (found : List Term) : List (String × Json) :=
  found.foldl (fun members t => Entries.insert t.1 t.2 members) []

lemma objectOf_eq (found : List Term) : objectOf found = .json (.object (membersOf found)) := rfl

/-- Stored one after the other, the member of the last name stays. -/
lemma lookup?_stored {entries : List (String × AttributeKey × Value)} {found : List Term}
    (h : Entries.Sorted entries) (hread : List.Forall₂ (fun e t => term e = .ok t) entries found)
    (held : List (String × Json)) {member : String} {document : Json} :
    Entries.lookup? member
        (found.foldl (fun members t => Entries.insert t.1 t.2 members) held) = some document ↔
      (∃ entry, Latest entries member entry ∧ term entry = .ok (member, document)) ∨
        (Entries.lookup? member held = some document ∧
          ∀ e ∈ entries, e.2.1.member ≠ member) := by
  -- The members held grow with each term, so the induction is over all of them.
  induction hread generalizing held with
  | nil =>
    have none_latest (entry : String × AttributeKey × Value) : ¬ Latest [] member entry :=
      fun latest => List.not_mem_nil latest.mem
    simp [none_latest]
  | @cons first t rest found hfirst _ ih =>
    obtain ⟨name, key, v⟩ := first
    obtain ⟨stored, hstored, rfl⟩ := term_eq_ok.mp hfirst
    have here : term (name, key, v) = .ok (member, document) ↔
        key.member = member ∧ stored = document := by
      rw [hfirst, Except.ok.injEq, Prod.mk.injEq]
    have extended : (∃ entry, Latest ((name, key, v) :: rest) member entry ∧
          term entry = .ok (member, document)) ↔
        (∃ entry, Latest rest member entry ∧ term entry = .ok (member, document)) ∨
          (key.member = member ∧ stored = document ∧ ∀ e ∈ rest, e.2.1.member ≠ member) := by
      simp only [latest_cons h, or_and_right, exists_or, and_assoc, exists_eq_left, here]
      apply or_congr_right
      constructor
      · rintro ⟨hmember, others, -, hstored⟩
        exact ⟨hmember, hstored, others⟩
      · rintro ⟨hmember, hstored, others⟩
        exact ⟨hmember, others, hmember, hstored⟩
    rw [List.foldl_cons, ih (List.pairwise_cons.mp h).2, Entries.lookup?_insert, extended,
      List.forall_mem_cons]
    by_cases same : member = key.member
    · simp [same]
    · simp [same, Ne.symm same]

lemma membersOf_sorted (found : List Term) : Entries.Sorted (membersOf found) := by
  have kept (held : List (String × Json)) (hheld : Entries.Sorted held) : Entries.Sorted
      (found.foldl (fun members t => Entries.insert t.1 t.2 members) held) := by
    induction found generalizing held with
    | nil => exact hheld
    | cons t found ih => exact ih _ (Entries.sorted_insert t.1 t.2 hheld)
  exact kept [] .nil

/-- Where terms are found, every argument of the source is read as its type. -/
lemma exists_term {found : List Term} (h : terms args source = .ok found) :
    ∀ entry ∈ select args source, ∃ t, term entry = .ok t := by
  have both := (terms_eq_ok.mp h).imp fun entry t ht => And.intro (Exists.intro t ht) ht
  exact ((List.forall₂_and_left _ _).mp both).1

/-- The members of an object are those that prevail among the arguments of its source. -/
theorem mem_membersOf {found : List Term} (h : terms args source = .ok found) {member : String}
    {document : Json} : (member, document) ∈ membersOf found ↔
      ∃ key, key.source = source ∧ key.member = member ∧ Prevails args key document := by
  rw [(membersOf_sorted found).mem_iff, membersOf,
    lookup?_stored (select_sorted args source) (terms_eq_ok.mp h)]
  simp only [Entries.lookup?_nil, reduceCtorEq, false_and, or_false]
  constructor
  · rintro ⟨⟨name, key, v⟩, latest, hterm⟩
    obtain ⟨hsource, proper, rfl, hget⟩ := mem_select.mp latest.mem
    obtain ⟨read, hread, ht⟩ := term_eq_ok.mp hterm
    obtain ⟨rfl, rfl⟩ := Prod.mk.inj ht
    refine ⟨key, hsource, rfl, ⟨proper, v, hget, hread⟩, ?_⟩
    rintro other _ ⟨other_proper, w, hw, -⟩ same_source same_member
    have selected : (other.name, other, w) ∈ select args source :=
      mem_select.mpr ⟨same_source.trans hsource, other_proper, rfl, hw⟩
    exact latest.last _ selected same_member
  · rintro ⟨key, hsource, rfl, ⟨proper, v, hget, hread⟩, last⟩
    refine ⟨(key.name, key, v), ⟨?_, rfl, ?_⟩, term_eq_ok.mpr ⟨document, hread, rfl⟩⟩
    · exact mem_select.mpr ⟨hsource, proper, rfl, hget⟩
    · rintro ⟨name, other, w⟩ hmem same_member
      obtain ⟨t, ht⟩ := exists_term h _ hmem
      obtain ⟨other_source, other_proper, rfl, hw⟩ := mem_select.mp hmem
      obtain ⟨found_document, hfound, -⟩ := term_eq_ok.mp ht
      exact last other found_document ⟨other_proper, w, hw, hfound⟩
        (other_source.trans hsource.symm) same_member

/-- The keys of the arguments of a source. -/
def keysOf (args : Arguments) (source : AttributeSource) : List AttributeKey :=
  (select args source).map fun entry => entry.2.1

lemma mem_keysOf {key : AttributeKey} : key ∈ keysOf args source ↔
    key.source = source ∧ key.Proper ∧ ∃ v, args.get? key.name = some v := by
  rw [keysOf, List.mem_map]
  constructor
  · rintro ⟨⟨name, _, v⟩, hmem, rfl⟩
    obtain ⟨hsource, proper, rfl, hget⟩ := mem_select.mp hmem
    exact ⟨hsource, proper, v, hget⟩
  · rintro ⟨hsource, proper, v, hget⟩
    exact ⟨(key.name, key, v), mem_select.mpr ⟨hsource, proper, rfl, hget⟩, rfl⟩

lemma keysOf_sorted (args : Arguments) (source : AttributeSource) :
    (keysOf args source).Pairwise fun key other => key.name < other.name := by
  rw [keysOf, List.pairwise_map]
  apply (select_sorted args source).imp_of_mem
  rintro ⟨name, key, v⟩ ⟨other_name, other, w⟩ hmem hother hlt
  obtain ⟨-, -, rfl, -⟩ := mem_select.mp hmem
  obtain ⟨-, -, rfl, -⟩ := mem_select.mp hother
  exact hlt

/-- The terms of a source are what its arguments ask for, one after the other. -/
lemma asks_each {found : List Term} (h : terms args source = .ok found) :
    List.Forall₂ (fun key t => ∃ document, Asks args key document ∧ t = (key.member, document))
      (keysOf args source) found := by
  rw [keysOf, List.forall₂_map_left_iff]
  have selected := (List.forall₂_and_left _ _).mpr ⟨fun _ hmem => hmem, terms_eq_ok.mp h⟩
  apply selected.imp
  rintro ⟨name, key, v⟩ t ⟨hmem, hterm⟩
  obtain ⟨-, proper, rfl, hget⟩ := mem_select.mp hmem
  obtain ⟨document, hread, rfl⟩ := term_eq_ok.mp hterm
  exact ⟨document, ⟨proper, v, hget, hread⟩, rfl⟩

end Attributes

end Filter

end BoundQuery
