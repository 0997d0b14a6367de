import Mathlib.Data.List.Pairwise

/-!
# Events of a run

A log holds the newest entry first, so the place of an entry in it changes with
every later one.  Counted from the oldest, the number of an event is final, and
earlier and later are the order of the numbers.
-/

namespace PaymentPortal.Interaction

variable {α : Type} {log : List α} {number : Nat} {event new : α}

/-- The event with this number; the oldest is number 0. -/
def eventAt (log : List α) (number : Nat) : Option α :=
  log.reverse[number]?

/-- A new entry is the event after those of the log. -/
theorem eventAt_cons_iff : eventAt (new :: log) number = some event ↔
    eventAt log number = some event ∨ number = log.length ∧ event = new := by
  unfold eventAt
  rw [List.reverse_cons]
  constructor
  · intro here
    rcases Nat.lt_or_ge number log.reverse.length with older | newer
    · rw [List.getElem?_append_left older] at here
      exact .inl here
    · rw [List.getElem?_append_right newer] at here
      obtain ⟨isLast, rfl⟩ := List.getElem?_eq_some_iff.mp here
      refine .inr ⟨?_, by simp⟩
      simp only [List.length_reverse, List.length_singleton] at newer isLast
      omega
  · rintro (here | ⟨rfl, rfl⟩)
    · obtain ⟨inLog, _⟩ := List.getElem?_eq_some_iff.mp here
      rw [List.getElem?_append_left inLog]
      exact here
    · simp

/-- Numbers are final. -/
theorem eventAt_cons (here : eventAt log number = some event) :
    eventAt (new :: log) number = some event :=
  eventAt_cons_iff.mpr (.inl here)

/-- The newest entry is the last event. -/
theorem eventAt_length : eventAt (new :: log) log.length = some new :=
  eventAt_cons_iff.mpr (.inr ⟨rfl, rfl⟩)

theorem lt_length_of_eventAt (here : eventAt log number = some event) :
    number < log.length := by
  obtain ⟨inLog, _⟩ := List.getElem?_eq_some_iff.mp here
  simpa using inLog

theorem mem_of_eventAt (here : eventAt log number = some event) :
    event ∈ log :=
  List.mem_reverse.mp (List.mem_of_getElem? here)

/-- Every entry of the log has a number. -/
theorem exists_eventAt (member : event ∈ log) :
    ∃ number, eventAt log number = some event :=
  List.mem_iff_getElem?.mp (List.mem_reverse.mpr member)

/-- A relation of newer entries to older ones relates later events to earlier. -/
theorem eventAt_pairwise {related : α → α → Prop}
    (pairwise : log.Pairwise related) {earlier later : Nat} {older newer : α}
    (first : eventAt log earlier = some older)
    (second : eventAt log later = some newer) (ordered : earlier < later) :
    related newer older := by
  obtain ⟨inLog, rfl⟩ := List.getElem?_eq_some_iff.mp first
  obtain ⟨inLog', rfl⟩ := List.getElem?_eq_some_iff.mp second
  exact List.pairwise_iff_getElem.mp (List.pairwise_reverse.mpr pairwise) _ _
    inLog inLog' ordered

end PaymentPortal.Interaction
