import BoundQuery.Proofs.Lookups

/-!
# The names of attribute arguments

An argument for an attribute is named by a source, perhaps a colon and a type without points, a
point and an attribute that is not empty. Such a name is read into these parts and into no others,
whatever points and colons stand in the attribute and whatever colons in the type. Arguments are
looked for source by source, by how their names start; each is found for its own source only and
taken once, and an argument of any other name is passed over. Main statement:
`Filter.Attributes.names_read`.
-/
namespace BoundQuery

/-- Where names increase, an entry is the only one of its name. -/
lemma Entries.Sorted.filter_name {α : Type} {entries : List (String × α)} (h : Sorted entries)
    {name : String} {value : α} (hmem : (name, value) ∈ entries) :
    entries.filter (·.1 = name) = [(name, value)] := by
  have sorted : Sorted (entries.filter (·.1 = name)) := h.filter _
  apply sorted.ext (List.pairwise_singleton _ _)
  rintro ⟨other, held⟩
  have found := h.mem_iff.mp hmem
  simp only [List.mem_filter, h.mem_iff, decide_eq_true_eq, List.mem_singleton, Prod.mk.injEq]
  constructor
  · rintro ⟨hheld, rfl⟩
    exact ⟨rfl, Option.some.inj (hheld.symm.trans found)⟩
  · rintro ⟨rfl, rfl⟩
    exact ⟨found, rfl⟩

namespace Filter

/-- No source starts like another one. -/
lemma AttributeSource.word_prefix_iff {source other : AttributeSource} :
    source.word.toList <+: other.word.toList ↔ source = other := by
  cases source <;> cases other <;> decide

namespace AttributeKey

/-- The name of an argument starts with its source and with no other one. -/
theorem word_prefix_name_iff {key : AttributeKey} {source : AttributeSource} :
    source.word.toList <+: key.name.toList ↔ source = key.source := by
  have opens : key.source.word.toList <+: key.name.toList := by
    simp [name, head, List.append_assoc]
  constructor
  · intro starts
    rcases List.prefix_or_prefix_of_prefix starts opens with shorter | longer
    · exact AttributeSource.word_prefix_iff.mp shorter
    · exact (AttributeSource.word_prefix_iff.mp longer).symm
  · rintro rfl
    exact opens

/-- A name can be read in one way at most. -/
theorem eq_of_name_eq {key other : AttributeKey} (proper : key.Proper) (proper' : other.Proper)
    (same : key.name = other.name) : key = other := by
  have read := ofName?_eq_some.mpr ⟨rfl, proper⟩
  rw [same, ofName?_eq_some.mpr ⟨rfl, proper'⟩] at read
  exact (Option.some.inj read).symm

/-- A name that is read into nothing is the name of no key. -/
theorem ofName?_eq_none {text : String} :
    ofName? text = none ↔ ∀ key : AttributeKey, key.Proper → text ≠ key.name := by
  rw [Option.eq_none_iff_forall_ne_some]
  simp only [ne_eq, ofName?_eq_some, not_and']

end AttributeKey

namespace Attributes

variable {args : Arguments}

/-- An argument is found for the source that its name starts with. -/
lemma mem_startingWith_iff {key : AttributeKey} {source : AttributeSource} {v : Value} :
    (key.name, v) ∈ args.startingWith source.word ↔
      source = key.source ∧ args.get? key.name = some v := by
  rw [Arguments.mem_startingWith, AttributeKey.word_prefix_name_iff]

/-- An argument is taken for the source that its name is read into. -/
lemma mem_select_iff {source : AttributeSource} {name : String} {key : AttributeKey} {v : Value} :
    (name, key, v) ∈ select args source ↔
      AttributeKey.ofName? name = some key ∧ args.get? name = some v ∧ source = key.source := by
  rw [mem_select, AttributeKey.ofName?_eq_some]
  constructor
  · rintro ⟨rfl, proper, hname, hget⟩
    exact ⟨⟨hname, proper⟩, hget, rfl⟩
  · rintro ⟨⟨hname, proper⟩, hget, rfl⟩
    exact ⟨rfl, proper, hname, hget⟩

/-- For each source an argument is taken once or not at all. -/
lemma filter_select (args : Arguments) (source : AttributeSource) (name : String) :
    (select args source).filter (·.1 = name) =
      match AttributeKey.ofName? name, args.get? name with
      | some key, some v => if source = key.source then [(name, key, v)] else []
      | _, _ => [] := by
  have nothing (h : ∀ e, (name, e) ∉ select args source) :
      (select args source).filter (·.1 = name) = [] := by
    rw [List.filter_eq_nil_iff]
    rintro ⟨other, e⟩ hmem
    simp only [decide_eq_true_eq]
    rintro rfl
    exact h e hmem
  cases hkey : AttributeKey.ofName? name with
  | none =>
    refine nothing fun e hmem => ?_
    have hread := (mem_select_iff.mp hmem).1
    rw [hkey] at hread
    cases hread
  | some key =>
    cases hget : args.get? name with
    | none =>
      refine nothing fun e hmem => ?_
      have hpresent := (mem_select_iff.mp hmem).2.1
      rw [hget] at hpresent
      cases hpresent
    | some v =>
      by_cases hsource : source = key.source
      · simp only [if_pos hsource]
        exact (select_sorted args source).filter_name (mem_select_iff.mpr ⟨hkey, hget, hsource⟩)
      · simp only [if_neg hsource]
        refine nothing fun e hmem => hsource ?_
        obtain ⟨hread, -, hof⟩ := mem_select_iff.mp hmem
        rw [hof, Option.some.inj (hread.symm.trans hkey)]

/-- The arguments that are taken, one source after the other, each with the source that it is taken
for. -/
def taken (args : Arguments) : List (AttributeSource × String × AttributeKey × Value) :=
  AttributeSource.all.flatMap fun source => (select args source).map (source, ·)

/-- An argument is taken once, for the source that its name is read into, or not at all. -/
lemma filter_taken (args : Arguments) (name : String) :
    (taken args).filter (·.2.1 = name) =
      match AttributeKey.ofName? name, args.get? name with
      | some key, some v => [(key.source, name, key, v)]
      | _, _ => [] := by
  have each (source : AttributeSource) :
      ((select args source).map (source, ·)).filter (·.2.1 = name) =
        ((select args source).filter (·.1 = name)).map (source, ·) := List.filter_map
  simp only [taken, List.filter_flatMap, each, filter_select]
  cases AttributeKey.ofName? name with
  | none => rfl
  | some key =>
    cases args.get? name with
    | none => rfl
    | some v =>
      obtain ⟨source, type, member⟩ := key
      cases source <;> rfl

/-- The terms of all sources are those of the arguments taken, one for each. -/
lemma mapM_taken (args : Arguments) :
    (taken args).mapM (fun e => term e.2) =
      (allTerms args).map fun t => AttributeSource.all.flatMap t.of := by
  have each (source : AttributeSource) :
      ((select args source).map (source, ·)).mapM (fun e => term e.2) = terms args source :=
    List.mapM_map
  simp only [taken, AttributeSource.all, List.flatMap_cons, List.flatMap_nil, List.mapM_append,
    each, List.mapM_nil, allTerms]
  -- The first source whose terms cannot be found is the error of both.
  cases terms args .any with
  | error e => rfl
  | ok any =>
    cases terms args .immutableData with
    | error e => rfl
    | ok immutableData =>
      cases terms args .mutableData with
      | error e => rfl
      | ok mutableData =>
        cases terms args .templateData with
        | error e => rfl
        | ok templateData => rfl

/-- An argument whose name is not read into a key is passed over. -/
lemma attributes_insert {name : String} (unread : AttributeKey.ofName? name = none) (v : Value) :
    attributes (args.insert name v) = attributes args := by
  have terms : allTerms (args.insert name v) = allTerms args := by
    apply allTerms_congr
    intro asked dotted
    rw [Arguments.get?_insert, if_neg]
    rintro rfl
    rw [unread] at dotted
    cases dotted
  funext c d
  rw [attributes, attributes, terms]

/-- A name is read into a source, a type and an attribute exactly if it is written from them, and no
name is written in two ways. Of the four searches by how names start, an argument of such a name is
found by the one for its source only. Among the arguments taken, whose terms are those of the
filter, it stands once; an argument of any other name does not, and the filter is the same with it
as without it. -/
theorem names_read (name : String) :
    (∀ key, AttributeKey.ofName? name = some key ↔ name = key.name ∧ key.Proper) ∧
      (∀ key other : AttributeKey, key.Proper → other.Proper → name = key.name →
        name = other.name → key = other) ∧
      (∀ key : AttributeKey, name = key.name → ∀ args source v,
        (name, v) ∈ Arguments.startingWith args source.word ↔
          source = key.source ∧ args.get? name = some v) ∧
      (∀ args, (taken args).filter (·.2.1 = name) =
        match AttributeKey.ofName? name, args.get? name with
        | some key, some v => [(key.source, name, key, v)]
        | _, _ => []) ∧
      (∀ args, (taken args).mapM (fun e => term e.2) =
        (allTerms args).map fun t => AttributeSource.all.flatMap t.of) ∧
      ((∀ key : AttributeKey, key.Proper → name ≠ key.name) →
        ∀ args v, attributes (args.insert name v) = attributes args) := by
  refine ⟨fun key => AttributeKey.ofName?_eq_some, ?_, ?_, ?_, mapM_taken, ?_⟩
  · rintro key other proper proper' hname hname'
    exact AttributeKey.eq_of_name_eq proper proper' (hname.symm.trans hname')
  · rintro key rfl args source v
    exact mem_startingWith_iff
  · exact fun args => filter_taken args name
  · intro foreign args v
    exact attributes_insert (AttributeKey.ofName?_eq_none.mpr foreign) v

/-- An argument with colons in its type and in its attribute, and one that only starts like the name
of an attribute. -/
def colons : Arguments :=
  .ofList [("data_version", .int 2), ("immutable_data:a:b.stats.x:y", .text "1")]

/-- The first colon ends the source and the first point ends the type. -/
theorem names_read_colons :
    let name := "immutable_data:a:b.stats.x:y"
    let key : AttributeKey := ⟨.immutableData, some "a:b", "stats.x:y"⟩
    (key.Proper ∧ name = key.name ∧
        ∀ other : AttributeKey, other.Proper → "data_version" ≠ other.name) ∧
      AttributeKey.ofName? name = some key ∧
      (∀ other : AttributeKey, other.Proper → name = other.name → key = other) ∧
      (∀ source : AttributeSource, (name, Value.text "1") ∈ colons.startingWith source.word ↔
        source = .immutableData) ∧
      (taken colons).filter (·.2.1 = name) = [(.immutableData, name, key, .text "1")] ∧
      (taken colons).filter (·.2.1 = "data_version") = [] ∧
      ∀ v, attributes (colons.insert "data_version" v) = attributes colons := by
  intro name key
  have proper : key.Proper := ⟨by decide, by decide⟩
  have written : name = key.name := by decide +kernel
  have unread : AttributeKey.ofName? "data_version" = none := by decide +kernel
  have foreign := AttributeKey.ofName?_eq_none.mp unread
  have present : colons.get? name = some (.text "1") := rfl
  obtain ⟨read, unique, found, once, -, -⟩ := names_read name
  obtain ⟨-, -, -, never, -, passed⟩ := names_read "data_version"
  have key_read : AttributeKey.ofName? name = some key := (read key).mpr ⟨written, proper⟩
  refine ⟨⟨proper, written, foreign⟩, key_read, ?_, ?_, ?_, ?_, passed foreign colons⟩
  · exact fun other proper' => unique key other proper proper' written
  · intro source
    rw [found key written, and_iff_left present]
  · rw [once, key_read, present]
  · rw [never, unread]

end Attributes

end Filter

end BoundQuery
