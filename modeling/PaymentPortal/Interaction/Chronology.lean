import Mathlib.Data.List.Pairwise
import Mathlib.Order.Basic
import PaymentPortal.Interaction.Machine

/-!
# Chronology of a run

When worlds are preordered by "may have become", a run whose moves all go
upwards has a log that is a chain: what an older entry left behind is below
what a newer entry found, and every entry is below the present.
-/

namespace PaymentPortal.Interaction

variable {Op : Type} {Reply : Op → Type}
variable {World Request Result : Type}
variable [Preorder World]

/-- The entries of the log are in order of time and precede the present. -/
structure State.Chronological
    (state : State Op Reply World Request Result) : Prop where
  within : ∀ entry ∈ state.log, entry.before ≤ entry.after
  present : ∀ entry ∈ state.log, entry.after ≤ state.world
  ordered : state.log.Pairwise fun newer older => older.after ≤ newer.before

theorem State.Chronological.initial (world : World) :
    (State.initial world : State Op Reply World Request Result).Chronological
    where
  within := fun _ member => absurd member (by simp [State.initial])
  present := fun _ member => absurd member (by simp [State.initial])
  ordered := List.Pairwise.nil

/-- The log is left alone while the world moves upwards. -/
theorem State.Chronological.later
    {source target : State Op Reply World Request Result}
    (chronological : source.Chronological)
    (sameLog : target.log = source.log)
    (upwards : source.world ≤ target.world) : target.Chronological where
  within := fun entry member => chronological.within entry (sameLog ▸ member)
  present := fun entry member =>
    (chronological.present entry (sameLog ▸ member)).trans upwards
  ordered := sameLog ▸ chronological.ordered

/-- One operation is logged and the world moves upwards. -/
theorem State.Chronological.logged
    {source target : State Op Reply World Request Result}
    (chronological : source.Chronological)
    {entry : Entry Op Reply World}
    (newLog : target.log = entry :: source.log)
    (before : entry.before = source.world) (after : entry.after = target.world)
    (upwards : source.world ≤ target.world) : target.Chronological where
  within := by
    intro other member
    rcases List.mem_cons.mp (newLog ▸ member) with rfl | old
    · rwa [before, after]
    · exact chronological.within other old
  present := by
    intro other member
    rcases List.mem_cons.mp (newLog ▸ member) with rfl | old
    · exact after.le
    · exact (chronological.present other old).trans upwards
  ordered := by
    rw [newLog]
    refine List.Pairwise.cons ?_ chronological.ordered
    intro other old
    rw [before]
    exact chronological.present other old

/-- Two entries of the log: one of them is the older one. -/
theorem State.Chronological.compare
    {state : State Op Reply World Request Result}
    (chronological : state.Chronological)
    {first second : Entry Op Reply World}
    (firstIn : first ∈ state.log) (secondIn : second ∈ state.log) :
    first = second ∨ first.after ≤ second.before ∨
      second.after ≤ first.before := by
  by_cases same : first = second
  · exact .inl same
  · refine .inr ?_
    have comparable : state.log.Pairwise fun newer older =>
        newer.after ≤ older.before ∨ older.after ≤ newer.before :=
      chronological.ordered.imp fun ordered => .inr ordered
    have symmetric : Std.Symm fun newer older : Entry Op Reply World =>
        newer.after ≤ older.before ∨ older.after ≤ newer.before :=
      ⟨fun _ _ related => related.symm⟩
    exact comparable.forall firstIn secondIn same

end PaymentPortal.Interaction
