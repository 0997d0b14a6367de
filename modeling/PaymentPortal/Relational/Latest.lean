import Mathlib.Data.List.Sort

/-!
# The latest item up to a bound

Filtering by a bound, sorting the latest first and taking the first item finds
an item whose time is the greatest one within the bound.
-/

namespace PaymentPortal.Relational

variable {α κ : Type} [LinearOrder κ] (time : α → κ) {bound : κ}
  {items : List α}

/-- The first of the items within the bound, sorted the latest first. -/
def latest? (bound : κ) (items : List α) : Option α :=
  ((items.filter fun item => time item ≤ bound).insertionSort
    fun first second => time second ≤ time first).head?

variable {time}

theorem latest?_eq_none :
    latest? time bound items = none ↔ ∀ item ∈ items, bound < time item := by
  rw [latest?, List.head?_eq_none_iff,
    ← List.length_eq_zero_iff, List.length_insertionSort,
    List.length_eq_zero_iff, List.filter_eq_nil_iff]
  simp only [decide_eq_true_eq, not_le]

/-- Items are found by what they are mapped to. -/
theorem latest?_map {β : Type} (value : β → α) (bound : κ) (sources : List β) :
    latest? time bound (sources.map value) =
      (latest? (time ∘ value) bound sources).map value := by
  rw [latest?, latest?, List.filter_map,
    ← List.map_insertionSort _ _ value _ fun _ _ _ _ => Iff.rfl,
    List.head?_map]
  rfl

/-- The item found is within the bound, and no such item is later. -/
theorem latest?_spec {best : α} (found : latest? time bound items = some best) :
    (best ∈ items ∧ time best ≤ bound) ∧
      ∀ other ∈ items, time other ≤ bound → time other ≤ time best := by
  obtain ⟨rest, sorted_eq⟩ := List.head?_eq_some_iff.mp found
  have perm := List.perm_insertionSort
    (fun first second => time second ≤ time first)
    (items.filter fun item => time item ≤ bound)
  have sorted := List.pairwise_insertionSort
    (fun first second => time second ≤ time first)
    (items.filter fun item => time item ≤ bound)
  rw [sorted_eq] at perm sorted
  have within : ∀ item, item ∈ best :: rest ↔
      item ∈ items ∧ time item ≤ bound := by
    intro item
    rw [perm.mem_iff, List.mem_filter, decide_eq_true_eq]
  refine ⟨(within best).mp List.mem_cons_self, fun other member notAfter => ?_⟩
  rcases List.mem_cons.mp ((within other).mpr ⟨member, notAfter⟩) with
    rfl | later
  · exact le_rfl
  · exact (List.pairwise_cons.mp sorted).1 other later

/-- A later bound finds an item that is no earlier. -/
theorem latest?_mono {later : κ} {best : α} (notAfter : bound ≤ later)
    (found : latest? time bound items = some best) :
    ∃ next, latest? time later items = some next ∧ time best ≤ time next := by
  obtain ⟨⟨member, within⟩, -⟩ := latest?_spec found
  cases nextFound : latest? time later items with
  | none =>
      have after := latest?_eq_none.mp nextFound best member
      exact absurd (within.trans notAfter) (not_le.mpr after)
  | some next =>
      exact ⟨next, rfl, (latest?_spec nextFound).2 best member
        (within.trans notAfter)⟩

/-- With one item for each time, the order of the items does not matter. -/
theorem latest?_perm {others : List α} (perm : others.Perm items)
    (distinct : (items.map time).Nodup) :
    latest? time bound others = latest? time bound items := by
  cases found : latest? time bound items with
  | none =>
      rw [latest?_eq_none] at found ⊢
      exact fun item member => found item (perm.mem_iff.mp member)
  | some best =>
      obtain ⟨⟨member, within⟩, greatest⟩ := latest?_spec found
      cases foundOther : latest? time bound others with
      | none =>
          have after := latest?_eq_none.mp foundOther best
            (perm.mem_iff.mpr member)
          exact absurd within (not_le.mpr after)
      | some other =>
          obtain ⟨⟨otherMember, otherWithin⟩, otherGreatest⟩ :=
            latest?_spec foundOther
          have inItems := perm.mem_iff.mp otherMember
          have sameTime : time other = time best := le_antisymm
            (greatest other inItems otherWithin)
            (otherGreatest best (perm.mem_iff.mpr member) within)
          exact congrArg some
            (List.inj_on_of_nodup_map distinct inItems member sameTime)

/-- An item after the bound is not seen. -/
theorem latest?_insert {before after : List α} {item : α}
    (late : bound < time item) :
    latest? time bound (before ++ item :: after) =
      latest? time bound (before ++ after) := by
  simp only [latest?, List.filter_append, List.filter_cons,
    decide_eq_true_eq, not_le.mpr late, if_false]

end PaymentPortal.Relational
