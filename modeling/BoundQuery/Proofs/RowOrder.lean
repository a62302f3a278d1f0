import BoundQuery.Filter.Listing
import Mathlib.Tactic

/-!
# The order of rows

The keys of an order are read as a server reads them: rows are compared by the first key in which
they differ, in its direction, and nulls come last where that is written. A server may return rows
that compare as equal in any order, so it answers with one of the orders that the keys allow. Where
some key tells all rows apart there is only one, and pages are cut out of one list.
-/
namespace BoundQuery.Filter

/-- What a row holds in each column: a value of the type of the column, or null. -/
abbrev TableRow (κ : String → Type) := (column : String) → Option (κ column)

/-! ### Comparing rows -/

namespace SortOrder

variable {α : Type} [LinearOrder α] (order : SortOrder) (nullsLast : Bool)

/-- Compares two values that may be null. -/
def compareOptional : Option α → Option α → Ordering
  | none, none => .eq
  | none, some _ => if nullsLast then .gt else .lt
  | some _, none => if nullsLast then .lt else .gt
  | some x, some y =>
    match order with
    | .asc => compare x y
    | .desc => compare y x

lemma compareOptional_eq_eq {x y : Option α} :
    order.compareOptional nullsLast x y = .eq ↔ x = y := by
  rcases x with _ | x <;> rcases y with _ | y
  case some.some =>
    cases order with
    | asc => exact compare_eq_iff_eq.trans (Option.some_inj).symm
    | desc => exact compare_eq_iff_eq.trans (eq_comm.trans (Option.some_inj).symm)
  all_goals cases nullsLast <;> simp [compareOptional]

instance : Std.OrientedCmp (compareOptional order nullsLast : Option α → Option α → Ordering) where
  eq_swap {x y} := by
    rcases x with _ | x <;> rcases y with _ | y
    case some.some =>
      cases order with
      | asc => exact (Std.OrientedOrd.eq_swap : compare x y = (compare y x).swap)
      | desc => exact (Std.OrientedOrd.eq_swap : compare y x = (compare x y).swap)
    all_goals cases nullsLast <;> rfl

instance : Std.TransCmp (compareOptional order nullsLast : Option α → Option α → Ordering) where
  isLE_trans {x y z} hxy hyz := by
    rcases x with _ | x <;> rcases y with _ | y <;> rcases z with _ | z
    case some.some.some =>
      cases order with
      | asc => exact Std.TransOrd.isLE_trans (a := x) (b := y) (c := z) hxy hyz
      | desc => exact Std.TransOrd.isLE_trans (a := z) (b := y) (c := x) hyz hxy
    all_goals cases nullsLast <;> simp_all [compareOptional]

end SortOrder

variable {κ : String → Type} [∀ column, LinearOrder (κ column)]

namespace OrderKey

/-- Compares what two rows hold in the column of a key. Nulls come last where that is written, and
also in ascending order, as a null counts as greater than every value. -/
def compareRows (key : OrderKey) (r s : TableRow κ) : Ordering :=
  key.order.compareOptional (key.nullsLast || key.order = .asc) (r key.column) (s key.column)

/-- Compares two rows by several keys, by a later one where the earlier ones find no difference. -/
def compareAll : List OrderKey → TableRow κ → TableRow κ → Ordering
  | [] => fun _ _ => .eq
  | key :: keys => compareLex key.compareRows (compareAll keys)

/-- Rows compare as equal when they hold the same in the columns of all keys. -/
theorem compareAll_eq_eq {keys : List OrderKey} {r s : TableRow κ} :
    compareAll keys r s = .eq ↔ ∀ key ∈ keys, r key.column = s key.column := by
  induction keys with
  | nil => simp [compareAll]
  | cons key keys ih =>
    rw [compareAll, compareLex, Ordering.then_eq_eq, ih, compareRows,
      SortOrder.compareOptional_eq_eq, List.forall_mem_cons]

instance (key : OrderKey) :
    Std.TransCmp (compareRows key : TableRow κ → TableRow κ → Ordering) where
  eq_swap := by
    intro r s
    unfold compareRows
    exact Std.OrientedCmp.eq_swap
  isLE_trans := by
    intro r s t hrs hst
    unfold compareRows at *
    exact Std.TransCmp.isLE_trans hrs hst

instance (keys : List OrderKey) :
    Std.TransCmp (compareAll keys : TableRow κ → TableRow κ → Ordering) := by
  induction keys with
  | nil => exact { eq_swap := rfl, isLE_trans := fun _ _ => rfl }
  | cons key keys ih => exact inferInstanceAs (Std.TransCmp (compareLex _ _))

end OrderKey

/-! ### Orders and pages -/

/-- The rows of a table in an order that the keys allow. -/
structure Ordered (keys : List OrderKey) (table sorted : List (TableRow κ)) : Prop where
  perm : sorted.Perm table
  pairwise : sorted.Pairwise fun r s => (OrderKey.compareAll keys r s).isLE

/-- No two rows compare as equal. -/
def Tieless (keys : List OrderKey) (table : List (TableRow κ)) : Prop :=
  table.Pairwise fun r s => OrderKey.compareAll keys r s ≠ .eq

/-- What a page may hold: the rows of a table in an order that the keys allow, as many as are
skipped left out, and no more than a limit of them. -/
def PageOf (keys : List OrderKey) (limit skipped : Nat) (table page : List (TableRow κ)) : Prop :=
  ∃ sorted, Ordered keys table sorted ∧ page = (sorted.drop skipped).take limit

/-- Rows that differ in the column of some key are not tied. -/
theorem tieless_of_distinct {keys : List OrderKey} {column : String}
    (hk : ∃ key ∈ keys, key.column = column) {table : List (TableRow κ)}
    (hd : table.Pairwise fun r s => r column ≠ s column) : Tieless keys table := by
  obtain ⟨key, hkey, rfl⟩ := hk
  exact hd.imp fun hne heq => hne (OrderKey.compareAll_eq_eq.mp heq key hkey)

/-- Any table can be put in order. -/
theorem exists_ordered (keys : List OrderKey) (table : List (TableRow κ)) :
    ∃ sorted, Ordered keys table sorted := by
  refine ⟨table.mergeSort fun r s => (OrderKey.compareAll keys r s).isLE,
    List.mergeSort_perm _ _, List.pairwise_mergeSort ?_ ?_ table⟩
  · intro r s t hrs hst
    exact Std.TransCmp.isLE_trans hrs hst
  · intro r s
    rw [Bool.or_eq_true, or_iff_not_imp_left]
    intro hrs
    rw [Std.OrientedCmp.lt_of_not_isLE hrs]
    rfl

section Tieless

variable {keys : List OrderKey} {table sorted other : List (TableRow κ)}

/-- Where no rows are tied, each row of an order is strictly before the later ones. -/
theorem Ordered.strict (h : Ordered keys table sorted) (ht : Tieless keys table) :
    sorted.Pairwise fun r s => OrderKey.compareAll keys r s = .lt := by
  have untied : Tieless keys sorted :=
    (h.perm.pairwise_iff fun hrs hsr => hrs (Std.OrientedCmp.eq_symm hsr)).mpr ht
  apply (h.pairwise.and untied).imp
  rintro r s ⟨before, differ⟩
  exact (Ordering.isLE_iff_eq_lt_or_eq_eq.mp before).resolve_right differ

/-- Where no rows are tied, there is one order. -/
theorem Ordered.unique (h : Ordered keys table sorted) (h' : Ordered keys table other)
    (ht : Tieless keys table) : other = sorted := by
  apply (h'.perm.trans h.perm.symm).eq_of_pairwise ?_ (h'.strict ht) (h.strict ht)
  intro r s _ _ hrs hsr
  exact absurd hrs (Std.OrientedCmp.not_lt_of_isLE (Ordering.isLE_of_eq_lt hsr))

/-- Where no rows are tied, a page is cut out of the one order. -/
theorem Ordered.pageOf_iff (h : Ordered keys table sorted) (ht : Tieless keys table)
    {limit skipped : Nat} {page : List (TableRow κ)} :
    PageOf keys limit skipped table page ↔ page = (sorted.drop skipped).take limit := by
  constructor
  · rintro ⟨other, hother, rfl⟩
    rw [h.unique hother ht]
  · rintro rfl
    exact ⟨sorted, h, rfl⟩

/-- Where no rows are tied, no row is there twice. -/
lemma Tieless.nodup (ht : Tieless keys table) : table.Nodup := by
  apply ht.imp
  rintro r _ differ rfl
  exact differ Std.ReflCmp.compare_self

end Tieless

/-- Pages of one size, one after the other from the first, are the front of the list. -/
theorem flatten_pages {α : Type} {size : Nat} {rows : List α} {pages : List (List α)}
    (h : ∀ i (hi : i < pages.length), pages[i] = (rows.drop (i * size)).take size) :
    pages.flatten = rows.take (pages.length * size) := by
  induction pages using List.reverseRecOn with
  | nil => simp
  | append_singleton pages page ih =>
    have front : pages.flatten = rows.take (pages.length * size) := by
      apply ih
      intro i hi
      have earlier := h i (by rw [List.length_append]; omega)
      rwa [List.getElem_append_left hi] at earlier
    have last := h pages.length (by simp)
    rw [List.getElem_concat_length rfl] at last
    rw [List.flatten_append, List.flatten_singleton, front, last, List.length_append,
      List.length_singleton, Nat.add_mul, Nat.one_mul, List.take_add]

end BoundQuery.Filter
