import Mathlib.Data.List.Nodup

/-!
# Rows of one tenant

Several tenants share a table.  Two tables that agree on the rows of one tenant
cannot be told apart by queries that select rows of this tenant only, and writes
to such rows keep the agreement and leave the rows of the others alone.
-/

namespace PaymentPortal.Relational

variable {Row Owner : Type}

/-- The tables have the same rows of the tenant. -/
def SameOwn (owner : Row → Owner) (tenant : Owner) (one other : List Row) :
    Prop :=
  ∀ row, owner row = tenant → (row ∈ one ↔ row ∈ other)

/-- The tables have the same rows of all other tenants. -/
def SameOthers (owner : Row → Owner) (tenant : Owner)
    (before after : List Row) : Prop :=
  ∀ row, owner row ≠ tenant → (row ∈ before ↔ row ∈ after)

/-- The selected rows belong to the tenant. -/
def SelectsOwn (owner : Row → Owner) (tenant : Owner) (selects : Row → Bool)
    (rows : List Row) : Prop :=
  ∀ row ∈ rows, selects row = true → owner row = tenant

/-- At most one row is selected. -/
def SelectsOne (selects : Row → Bool) (rows : List Row) : Prop :=
  ∀ row ∈ rows, selects row = true → ∀ other ∈ rows, selects other = true →
    other = row

variable {owner : Row → Owner} {tenant : Owner} {selects : Row → Bool}
variable {one other rows : List Row}

/-! ## Relations -/

theorem SameOwn.symm (same : SameOwn owner tenant one other) :
    SameOwn owner tenant other one :=
  fun row own => (same row own).symm

theorem SameOthers.refl (rows : List Row) : SameOthers owner tenant rows rows :=
  fun _ _ => Iff.rfl

theorem SameOthers.trans {before between after : List Row}
    (earlier : SameOthers owner tenant before between)
    (later : SameOthers owner tenant between after) :
    SameOthers owner tenant before after :=
  fun row foreign => (earlier row foreign).trans (later row foreign)

/-! ## Queries -/

theorem mem_of_selected (same : SameOwn owner tenant one other)
    (own : SelectsOwn owner tenant selects one) {row : Row} (member : row ∈ one)
    (selected : selects row = true) : row ∈ other :=
  (same row (own row member selected)).mp member

/-- A query for one row finds it wherever it is. -/
theorem find?_eq_some_of_selectsOne (unique : SelectsOne selects rows)
    {row : Row} (member : row ∈ rows) (selected : selects row = true) :
    rows.find? selects = some row := by
  cases found : rows.find? selects with
  | none => exact absurd selected (List.find?_eq_none.mp found row member)
  | some first =>
      rw [unique row member selected first (List.mem_of_find?_eq_some found)
        (List.find?_some found)]

/-- Any list of the selected rows begins with the only one. -/
theorem head?_eq_find? (unique : SelectsOne selects rows) {listed : List Row}
    (members : ∀ row, row ∈ listed ↔ row ∈ rows ∧ selects row = true) :
    listed.head? = rows.find? selects := by
  cases listed with
  | nil =>
      refine (List.find?_eq_none.mpr fun row member selected => ?_).symm
      exact absurd ((members row).mpr ⟨member, selected⟩) List.not_mem_nil
  | cons first listed =>
      obtain ⟨member, selected⟩ := (members first).mp List.mem_cons_self
      exact (find?_eq_some_of_selectsOne unique member selected).symm

/-- Queries for one row of the tenant have the same answer. -/
theorem find?_eq_of_sameOwn (same : SameOwn owner tenant one other)
    (ownOne : SelectsOwn owner tenant selects one)
    (ownOther : SelectsOwn owner tenant selects other)
    (unique : SelectsOne selects other) :
    one.find? selects = other.find? selects := by
  cases found : one.find? selects with
  | none =>
      refine (List.find?_eq_none.mpr fun row member selected => ?_).symm
      exact List.find?_eq_none.mp found row
        (mem_of_selected same.symm ownOther member selected) selected
  | some row =>
      have selected := List.find?_some found
      exact (find?_eq_some_of_selectsOne unique
        (mem_of_selected same ownOne (List.mem_of_find?_eq_some found) selected)
        selected).symm

/-- Selecting rows without duplicates selects at most the first one. -/
theorem filter_eq_toList_find? (distinct : rows.Nodup)
    (unique : SelectsOne selects rows) :
    rows.filter selects = (rows.find? selects).toList := by
  cases selection : rows.filter selects with
  | nil =>
      rw [← List.head?_filter, selection]
      rfl
  | cons first rest =>
      have firstIn : first ∈ rows.filter selects :=
        selection ▸ List.mem_cons_self
      obtain ⟨member, selected⟩ := List.mem_filter.mp firstIn
      cases rest with
      | nil =>
          rw [find?_eq_some_of_selectsOne unique member selected]
          rfl
      | cons second rest =>
          have secondIn : second ∈ rows.filter selects :=
            selection ▸ List.mem_cons_of_mem _ List.mem_cons_self
          obtain ⟨otherMember, otherSelected⟩ := List.mem_filter.mp secondIn
          have twice := distinct.filter selects
          rw [selection, unique first member selected second otherMember
            otherSelected] at twice
          exact absurd List.mem_cons_self (List.nodup_cons.mp twice).1

/-! ## Writes -/

/-- Both tables are rewritten, row by row. -/
theorem SameOwn.map (same : SameOwn owner tenant one other)
    {rewrite : Row → Row} (keeps : ∀ row, owner (rewrite row) = owner row) :
    SameOwn owner tenant (one.map rewrite) (other.map rewrite) := by
  intro row own
  have transfer : ∀ {source target : List Row},
      SameOwn owner tenant source target →
        row ∈ source.map rewrite → row ∈ target.map rewrite := by
    intro source target same member
    obtain ⟨old, oldIn, rfl⟩ := List.mem_map.mp member
    exact List.mem_map_of_mem
      ((same old ((keeps old).symm.trans own)).mp oldIn)
  exact ⟨transfer same, transfer same.symm⟩

/-- Only rows of the tenant are rewritten. -/
theorem sameOthers_map {rewrite : Row → Row}
    (keeps : ∀ row, owner (rewrite row) = owner row)
    (foreign : ∀ row ∈ rows, owner row ≠ tenant → rewrite row = row) :
    SameOthers owner tenant rows (rows.map rewrite) := by
  intro row isForeign
  constructor
  · intro member
    exact List.mem_map.mpr ⟨row, member, foreign row member isForeign⟩
  · intro member
    obtain ⟨old, oldIn, rfl⟩ := List.mem_map.mp member
    rw [keeps] at isForeign
    rwa [foreign old oldIn isForeign]

theorem SameOwn.append (same : SameOwn owner tenant one other)
    (added : List Row) :
    SameOwn owner tenant (one ++ added) (other ++ added) := by
  intro row own
  rw [List.mem_append, List.mem_append, same row own]

theorem sameOthers_append {added : List Row}
    (own : ∀ row ∈ added, owner row = tenant) :
    SameOthers owner tenant rows (rows ++ added) := by
  intro row foreign
  rw [List.mem_append]
  exact ⟨.inl, fun member => member.resolve_right fun isNew =>
    foreign (own row isNew)⟩

end PaymentPortal.Relational
