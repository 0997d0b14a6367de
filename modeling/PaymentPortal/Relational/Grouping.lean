import Mathlib.Algebra.BigOperators.Group.List.Basic
import Mathlib.Data.List.Dedup

/-!
# Grouping and aggregation

`GROUP BY` over a list of rows.  The rows are split by a key; every key that
occurs gives one group, and the order of the groups is left open, so it is a
parameter.  Whatever the order is, sums over the groups are sums over the rows.

`SUM` of no rows is null.
-/

namespace PaymentPortal.Relational

variable {α κ M : Type}

/-- The order in which the groups of a query are returned. -/
structure Arrangement (κ : Type) where
  order : List κ → List κ
  perm : ∀ keys, (order keys).Perm keys

/-- The groups in the order of their keys' last occurrences. -/
def Arrangement.plain : Arrangement κ where
  order := id
  perm := fun keys => .refl keys

/-- One group: its key and its rows. -/
structure Group (κ α : Type) where
  key : κ
  rows : List α

/-- `SUM`: null where there is nothing to add. -/
def sum? [AddCommMonoid M] : List M → Option M
  | [] => none
  | values => some values.sum

theorem sum?_of_ne_nil [AddCommMonoid M] {values : List M}
    (nonempty : values ≠ []) : sum? values = some values.sum := by
  cases values with
  | nil => exact absurd rfl nonempty
  | cons value rest => rfl

/-- `COALESCE(SUM(…), 0)`. -/
@[simp]
theorem sum?_getD [AddCommMonoid M] (values : List M) :
    (sum? values).getD 0 = values.sum := by
  cases values with
  | nil => rfl
  | cons value rest => rfl

/-! ## Sums by key -/

/-- Splitting the rows by a key that occurs among `keys` once each. -/
theorem sum_map_filter_key [DecidableEq κ] [AddCommMonoid M] (key : α → κ)
    (value : α → M) {keys : List κ} (distinct : keys.Nodup) :
    ∀ {rows : List α}, (∀ row ∈ rows, key row ∈ keys) →
      (keys.map fun k =>
        ((rows.filter fun row => key row = k).map value).sum).sum =
        (rows.map value).sum := by
  intro rows covered
  induction rows with
  | nil => simp
  | cons row rest ih =>
      have split : ∀ k, (((row :: rest).filter
          fun other => key other = k).map value).sum =
          (if k = key row then value row else 0) +
            ((rest.filter fun other => key other = k).map value).sum := by
        intro k
        by_cases same : key row = k
        · simp [same]
        · simp [same, Ne.symm same]
      have single :
          (keys.map fun k => if k = key row then value row else 0).sum =
            value row := by
        rw [List.sum_map_eq_nsmul_single (key row) _
          fun other different _ => if_neg different,
          List.count_eq_one_of_mem distinct
            (covered row List.mem_cons_self), if_pos rfl]
        exact one_nsmul _
      simp only [split, List.sum_map_add, single, List.map_cons,
        List.sum_cons]
      rw [ih fun other member => covered other (List.mem_cons_of_mem _ member)]

/-! ## Groups -/

section GroupBy

variable [DecidableEq κ]

/-- `GROUP BY key`. -/
def groupBy (arrangement : Arrangement κ) (key : α → κ) (rows : List α) :
    List (Group κ α) :=
  (arrangement.order (rows.map key).dedup).map fun k =>
    ⟨k, rows.filter fun row => key row = k⟩

variable {arrangement : Arrangement κ} {key : α → κ} {rows : List α}

/-- Every group has its own key. -/
theorem nodup_groupBy_keys :
    ((groupBy arrangement key rows).map Group.key).Nodup := by
  have keys_eq : (groupBy arrangement key rows).map Group.key =
      arrangement.order (rows.map key).dedup := by
    simp [groupBy, Function.comp_def]
  rw [keys_eq, (arrangement.perm _).nodup_iff]
  exact List.nodup_dedup _

theorem mem_groupBy {group : Group κ α} :
    group ∈ groupBy arrangement key rows ↔
      (∃ row ∈ rows, key row = group.key) ∧
        group.rows = rows.filter fun row => key row = group.key := by
  simp only [groupBy, List.mem_map, (arrangement.perm _).mem_iff,
    List.mem_dedup]
  constructor
  · rintro ⟨k, occurs, rfl⟩
    exact ⟨occurs, rfl⟩
  · rintro ⟨occurs, rows_eq⟩
    refine ⟨group.key, occurs, ?_⟩
    rw [← rows_eq]

/-- Every row is in a group. -/
theorem group_mem_groupBy {row : α} (member : row ∈ rows) :
    ⟨key row, rows.filter fun other => key other = key row⟩ ∈
      groupBy arrangement key rows :=
  mem_groupBy.mpr ⟨⟨row, member, rfl⟩, rfl⟩

/-- No group is empty. -/
theorem rows_ne_nil_of_mem_groupBy {group : Group κ α}
    (member : group ∈ groupBy arrangement key rows) : group.rows ≠ [] := by
  obtain ⟨⟨row, rowIn, isKey⟩, rows_eq⟩ := mem_groupBy.mp member
  rw [rows_eq]
  apply List.ne_nil_of_mem (a := row)
  simp [rowIn, isKey]

/-- Sums over the groups are sums over the rows. -/
theorem sum_groupBy [AddCommMonoid M] (arrangement : Arrangement κ)
    (key : α → κ) (rows : List α) (value : α → M) :
    ((groupBy arrangement key rows).map
      fun group => (group.rows.map value).sum).sum =
        (rows.map value).sum := by
  rw [groupBy, List.map_map]
  refine (((arrangement.perm _).map _).sum_eq).trans ?_
  apply sum_map_filter_key key value (List.nodup_dedup _)
  intro row member
  exact List.mem_dedup.mpr (List.mem_map_of_mem member)

end GroupBy

end PaymentPortal.Relational
