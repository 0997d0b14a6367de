import PaymentPortal.Interaction.Machine

/-!
# Continuity of a run

A part of the world that drift does not touch changes by logged operations
only.  `Linked` says so of a log: what an entry leaves in view is what the next
one finds.  So whatever holds now and did not hold right after some entry has
been brought about by one of the entries since.
-/

namespace PaymentPortal.Interaction

variable {Op : Type} {Reply : Op → Type}
variable {World Fate Request Result Drift Phase View : Type}

/-- Between the entries, and since the newest, nothing in view has changed. -/
def Linked (view : World → View) :
    List (Entry Op Reply World) → World → Prop
  | [], _ => True
  | entry :: older, world =>
      view entry.after = view world ∧ Linked view older entry.before

/-- The entries since the newest one that is marked. -/
def since (marked : Entry Op Reply World → Bool)
    (log : List (Entry Op Reply World)) : List (Entry Op Reply World) :=
  log.takeWhile fun entry => !marked entry

/-- An entry that is not marked joins those since the newest marked one. -/
theorem since_cons_of_unmarked {marked : Entry Op Reply World → Bool}
    {entry : Entry Op Reply World} {log : List (Entry Op Reply World)}
    (unmarked : marked entry = false) :
    since marked (entry :: log) = entry :: since marked log :=
  List.takeWhile_cons_of_pos (by simp [unmarked])

/-- An entry is one since the newest marked one, that one, or older than it. -/
theorem mem_since_or_older {marked : Entry Op Reply World → Bool}
    {older : Entry Op Reply World → Entry Op Reply World → Prop}
    {latest entry : Entry Op Reply World} {log : List (Entry Op Reply World)}
    (ordered : log.Pairwise older) (found : log.find? marked = some latest)
    (member : entry ∈ log) :
    entry ∈ since marked log ∨ entry = latest ∨ older latest entry := by
  induction ordered with
  | nil => exact absurd member (by simp)
  | @cons first rest before _ ih =>
      by_cases isMarked : marked first = true
      · rw [List.find?_cons_of_pos isMarked] at found
        obtain rfl := Option.some.inj found
        rcases List.mem_cons.mp member with same | inRest
        · exact .inr (.inl same)
        · exact .inr (.inr (before entry inRest))
      · rw [List.find?_cons_of_neg isMarked] at found
        rw [since_cons_of_unmarked (by simpa using isMarked)]
        rcases List.mem_cons.mp member with same | inRest
        · exact .inl (same ▸ List.mem_cons_self)
        · exact (ih found inRest).imp_left (List.mem_cons_of_mem _)

/-- What holds now, but not after the newest marked entry, has come about. -/
theorem Linked.exists_change {view : World → View} {holds : View → Prop}
    {marked : Entry Op Reply World → Bool} {latest : Entry Op Reply World} :
    ∀ {log : List (Entry Op Reply World)} {world : World},
      Linked view log world → log.find? marked = some latest →
      ¬ holds (view latest.after) → holds (view world) →
      ∃ entry ∈ since marked log,
        ¬ holds (view entry.before) ∧ holds (view entry.after)
  | [], _, _, found, _, _ => absurd found (by simp)
  | entry :: older, world, ⟨same, linked⟩, found, notThen, now => by
      by_cases isMarked : marked entry = true
      · rw [List.find?_cons_of_pos isMarked] at found
        obtain rfl := Option.some.inj found
        exact absurd (same ▸ now) notThen
      · rw [List.find?_cons_of_neg isMarked] at found
        rw [since_cons_of_unmarked (by simpa using isMarked)]
        by_cases before : holds (view entry.before)
        · obtain ⟨changed, member, change⟩ :=
            linked.exists_change found notThen before
          exact ⟨changed, List.mem_cons_of_mem _ member, change⟩
        · exact ⟨entry, List.mem_cons_self, before, same ▸ now⟩

/-- What an older entry has found is linked to the entries before it. -/
theorem Linked.older {view : World → View} {entry : Entry Op Reply World} :
    ∀ {newer older : List (Entry Op Reply World)} {world : World},
      Linked view (newer ++ entry :: older) world →
        Linked view older entry.before
  | [], _, _, linked => linked.2
  | _ :: _, _, _, linked => linked.2.older

/-- Entries that leave the view alone leave it as an older entry left it. -/
theorem Linked.view_eq {view : World → View} {entry : Entry Op Reply World} :
    ∀ {quiet older : List (Entry Op Reply World)} {world : World},
      Linked view (quiet ++ entry :: older) world →
        (∀ other ∈ quiet, view other.after = view other.before) →
        view entry.after = view world
  | [], _, _, linked, _ => linked.1
  | newest :: quiet, _, _, linked, leaves => by
      rw [← linked.1, leaves newest List.mem_cons_self]
      exact linked.2.view_eq fun other member =>
        leaves other (List.mem_cons_of_mem _ member)

/--
If all entries since the newest marked one are own entries, then the newest own
entries are the newest of all.
-/
theorem append_of_since {own marked : Entry Op Reply World → Bool}
    {entry : Entry Op Reply World}
    (isOwn : ∀ other, marked other = true → own other = true)
    (isMarked : marked entry = true) :
    ∀ {log newer older : List (Entry Op Reply World)},
      log.filter own = newer ++ entry :: older →
      (∀ other ∈ newer, marked other = false) →
      (∀ other ∈ since marked log, own other = true) →
      ∃ earlier, log = newer ++ entry :: earlier ∧ earlier.filter own = older
  | [], _, _, filtered, _, _ => absurd filtered (by simp)
  | newest :: log, newer, older, filtered, unmarked, among => by
      have newestOwn : own newest = true := by
        by_cases here : marked newest = true
        · exact isOwn newest here
        · apply among
          rw [since_cons_of_unmarked (by simpa using here)]
          exact List.mem_cons_self
      rw [List.filter_cons_of_pos newestOwn] at filtered
      cases newer with
      | nil =>
          obtain ⟨rfl, rest⟩ := List.cons.inj filtered
          exact ⟨log, rfl, rest⟩
      | cons first newer =>
          obtain ⟨rfl, rest⟩ := List.cons.inj filtered
          rw [since_cons_of_unmarked (unmarked _ List.mem_cons_self)] at among
          obtain ⟨earlier, rfl, own⟩ := append_of_since isOwn isMarked rest
            (fun other member => unmarked other (List.mem_cons_of_mem _ member))
            (fun other member => among other (List.mem_cons_of_mem _ member))
          exact ⟨earlier, rfl, own⟩

section Runs

variable {discipline : Request → Discipline Op Reply Phase}
variable {finish : Request → Phase → Result → Prop}
variable {machine : Machine Op Reply World Fate Request Result Drift}
variable {start ended : Phase}
variable {allowed : State Op Reply World Request Result →
  Move Fate Request Drift → Prop}

/-- Every move keeps the log linked, if drift does not touch what is in view. -/
theorem PhasedStep.linked {view : World → View}
    {source target : Phased discipline finish World}
    (step : PhasedStep machine start ended allowed source target)
    (drifts : ∀ change before after,
      machine.drift change before = some after → view after = view before)
    (linked : Linked view source.state.log source.state.world) :
    Linked view target.state.log target.state.world := by
  have quiet : ∀ world, view world = view source.state.world →
      Linked view source.state.log world := by
    intro world same
    cases log : source.state.log with
    | nil => trivial
    | cons entry older =>
        rw [log] at linked
        exact ⟨linked.1.trans same.symm, linked.2⟩
  cases step with
  | arrive request permitted state_eq phases_eq =>
      rw [state_eq]
      exact linked
  | perform caller fate request op next reply world phase after permitted
      running holds executed moved state_eq phases_eq =>
      rw [state_eq]
      exact ⟨rfl, linked⟩
  | crash caller request op next permitted running state_eq phases_eq =>
      rw [state_eq]
      exact linked
  | drift change world permitted drifted state_eq phases_eq =>
      rw [state_eq]
      exact quiet world (drifts change _ world drifted)

end Runs

end PaymentPortal.Interaction
