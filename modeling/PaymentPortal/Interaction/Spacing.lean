import Mathlib.Algebra.Order.Group.Int
import Mathlib.Data.List.Pairwise
import Mathlib.Tactic.Linarith

/-!
# Spaced instants

Instants that keep a distance from one another are few: a list of instants,
newest first, in which neighbours are `gap` apart and which fits into a window
of length `width` has at most `width / gap + 1` members.
-/

namespace PaymentPortal.Interaction

/-- The newest of `n + 1` spaced instants is `n` gaps after the first. -/
theorem start_add_length_mul_le_of_spaced {gap start : Int} :
    ∀ {rest : List Int} {newest : Int},
      (newest :: rest).Pairwise (fun newer older => older + gap ≤ newer) →
      (∀ instant ∈ newest :: rest, start ≤ instant) →
      start + rest.length * gap ≤ newest
  | [], newest, _, within => by
      simpa using within newest List.mem_cons_self
  | next :: rest, newest, spaced, within => by
      obtain ⟨apart, restSpaced⟩ := List.pairwise_cons.mp spaced
      have fromNext := start_add_length_mul_le_of_spaced restSpaced
        fun instant member => within instant (List.mem_cons_of_mem _ member)
      have toNewest := apart next List.mem_cons_self
      rw [List.length_cons, Nat.cast_add, Nat.cast_one, add_mul, one_mul]
      omega

/-- A window holds as many spaced instants as gaps fit into it, and one more. -/
theorem length_le_of_spaced {instants : List Int} {gap width : Int}
    (start : Int) (positive : 0 < gap) (nonneg : 0 ≤ width)
    (spaced : instants.Pairwise fun newer older => older + gap ≤ newer)
    (within : ∀ instant ∈ instants,
      start ≤ instant ∧ instant ≤ start + width) :
    (instants.length : Int) ≤ width / gap + 1 := by
  cases instants with
  | nil =>
      have := Int.ediv_nonneg nonneg positive.le
      simp only [List.length_nil, Nat.cast_zero]
      omega
  | cons newest rest =>
      have reach := start_add_length_mul_le_of_spaced spaced
        fun instant member => (within instant member).1
      have last := (within newest List.mem_cons_self).2
      have fits : (rest.length : Int) ≤ width / gap :=
        Int.le_ediv_of_mul_le positive (by omega)
      rw [List.length_cons, Nat.cast_add, Nat.cast_one]
      omega

end PaymentPortal.Interaction
