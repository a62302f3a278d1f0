/-!
# Entries by name

Named entries are kept in the order of their names, which is the order of code
points and so of encoded bytes as well. Storing a name that is there already
replaces its entry. A `Dictionary` packages such a list with the proof that its
names increase strictly, so equal dictionaries hold equal entries.
-/
namespace BoundQuery

namespace Entries

/-- Names increase strictly. -/
def Sorted {α : Type} (entries : List (String × α)) : Prop :=
  entries.Pairwise (fun a b => a.1 < b.1)

/-- Stores an entry in its place. -/
def insert {α : Type} (name : String) (value : α) : List (String × α) → List (String × α)
  | [] => [(name, value)]
  | (other, held) :: rest =>
    if name < other then (name, value) :: (other, held) :: rest
    else if name = other then (name, value) :: rest
    else (other, held) :: insert name value rest

def lookup? {α : Type} (name : String) : List (String × α) → Option α
  | [] => none
  | (other, held) :: rest => if name = other then some held else lookup? name rest

theorem mem_insert_name {α : Type} {name : String} {value : α} {entries : List (String × α)}
    {e : String × α} (h : e ∈ insert name value entries) : e.1 = name ∨ e ∈ entries := by
  induction entries with
  | nil => simp [insert] at h; simp [h]
  | cons head rest ih =>
    obtain ⟨other, held⟩ := head
    simp only [insert] at h
    split at h
    · rcases List.mem_cons.mp h with rfl | h
      · exact .inl rfl
      · exact .inr h
    split at h
    · rcases List.mem_cons.mp h with rfl | h
      · exact .inl rfl
      · exact .inr (List.mem_cons_of_mem _ h)
    · rcases List.mem_cons.mp h with rfl | h
      · exact .inr List.mem_cons_self
      · exact (ih h).imp_right (List.mem_cons_of_mem _)

theorem sorted_insert {α : Type} (name : String) (value : α) {entries : List (String × α)}
    (h : Sorted entries) : Sorted (insert name value entries) := by
  induction entries with
  | nil => simp [insert, Sorted]
  | cons head rest ih =>
    obtain ⟨other, held⟩ := head
    have hrest := List.pairwise_cons.mp h
    simp only [insert]
    split
    next hlt =>
      refine List.pairwise_cons.mpr ⟨fun e he => ?_, h⟩
      rcases List.mem_cons.mp he with rfl | he
      · exact hlt
      · exact String.lt_trans hlt (hrest.1 e he)
    next hge =>
      split
      next heq =>
        subst heq
        exact List.pairwise_cons.mpr ⟨fun e he => hrest.1 e he, hrest.2⟩
      next hne =>
        have hgt : other < name :=
          Std.lt_of_le_of_ne (String.not_lt.mp hge) (fun heq => hne heq.symm)
        refine List.pairwise_cons.mpr ⟨fun e he => ?_, ih hrest.2⟩
        rcases mem_insert_name he with hname | he
        · exact hname ▸ hgt
        · exact hrest.1 e he

@[simp] theorem lookup?_nil {α : Type} (name : String) :
    lookup? name ([] : List (String × α)) = none := rfl

/-- Storing changes the entry of one name only. -/
theorem lookup?_insert {α : Type} (name asked : String) (value : α)
    (entries : List (String × α)) :
    lookup? asked (insert name value entries) =
      if asked = name then some value else lookup? asked entries := by
  induction entries with
  | nil => simp [insert, lookup?]
  | cons head rest ih =>
    obtain ⟨other, held⟩ := head
    simp only [insert]
    split
    · simp [lookup?]
    split
    next heq =>
      subst heq
      by_cases h : asked = name <;> simp [lookup?, h]
    next hne =>
      by_cases h : asked = other
      · subst h
        simp [lookup?, Ne.symm hne]
      · simp [lookup?, h, ih]

end Entries

/-- Entries with strictly increasing names. -/
structure Dictionary (α : Type) where
  entries : List (String × α)
  sorted : Entries.Sorted entries

namespace Dictionary

variable {α : Type}

def empty : Dictionary α := ⟨[], List.Pairwise.nil⟩

def insert (d : Dictionary α) (name : String) (value : α) : Dictionary α :=
  ⟨Entries.insert name value d.entries, Entries.sorted_insert name value d.sorted⟩

def lookup? (d : Dictionary α) (name : String) : Option α :=
  Entries.lookup? name d.entries

/-- Stores a list of entries one by one, so the last of a repeated name stays. -/
def ofList (entries : List (String × α)) : Dictionary α :=
  entries.foldl (fun d e => d.insert e.1 e.2) empty

@[simp] theorem lookup?_empty (name : String) : (empty : Dictionary α).lookup? name = none := rfl

@[simp] theorem lookup?_insert (d : Dictionary α) (name asked : String) (value : α) :
    (d.insert name value).lookup? asked = if asked = name then some value else d.lookup? asked :=
  Entries.lookup?_insert name asked value d.entries

end Dictionary

end BoundQuery
