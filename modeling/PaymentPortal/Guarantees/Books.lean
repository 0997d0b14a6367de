import PaymentPortal.Guarantees.StatusPairs

/-!
# The portal's books

Over whole runs the table only grows, and its rows only move forward in the
lifecycle.  In every state the rows and Pay.gov's records can be reconciled:
each of Pay.gov's completions belongs to one claimed attempt, and what a row
says about Pay.gov is on record there.
-/

namespace PaymentPortal.Guarantees

open PaymentPortal.Interaction
open PaymentPortal.Model
open PaymentPortal.Protocol

variable {config : Config} {now : Int}
variable {allowed : PortalState → PortalMove → Prop}

/-! ## Histories of attempts -/

/-- Every move of the portal goes upwards in the lifecycle. -/
theorem le_of_annotatedStep {source target : Annotated config}
    (sound : Sound source)
    (step : AnnotatedStep config allowed source target) :
    source.state.world ≤ target.state.world := by
  cases step with
  | arrive request permitted state_eq phases_eq
  | crash caller request op next permitted running state_eq phases_eq =>
      rw [state_eq]
  | perform caller fate request op next reply world stage after permitted
      running holds executed moved state_eq phases_eq =>
      rw [state_eq]
      exact (sound.worldStep running holds executed moved).le sound.rows
  | drift change world permitted drifted state_eq phases_eq =>
      have step : WorldStep config (fun _ => False) none source.state.world
          world := worldStep_of_drift drifted
      rw [state_eq]
      exact step.le sound.rows

/-- Every run of the portal goes upwards in the lifecycle. -/
theorem le_of_reaches {earlier later : PortalState}
    (reaches : Reachable config allowed now earlier)
    (continued : (portal config).Reaches allowed earlier later) :
    earlier.world ≤ later.world := by
  induction continued with
  | refl => exact le_rfl
  | tail passed step ih =>
      obtain ⟨annotated, rfl, sound⟩ := exists_sound (reaches.trans passed)
      obtain ⟨next, rfl, moved⟩ :=
        Machine.exists_phasedStep .stopped portal_conforms annotated step
      exact ih.trans (le_of_annotatedStep sound moved)

/-- What has become of an attempt: one row, which is a later version of it. -/
def Endures (row : Transaction) (table : Table) : Prop :=
  ∃ later ∈ table.rows, row.Evolves later ∧ ∀ other ∈ table.rows,
    other.agencyTrackingId = row.agencyTrackingId → other = later

/--
Every attempt of a reachable state is in every later state of the run, as one
row with the same id, obligation, fee, amount, creation date and metadata; its
token and its tracking id are set once, and its status follows the lifecycle.
-/
theorem attempts_endure {earlier later : PortalState}
    (reaches : Reachable config allowed now earlier)
    (continued : (portal config).Reaches allowed earlier later) :
    ∀ row ∈ earlier.world.table.rows, Endures row later.world.table := by
  intro row member
  obtain ⟨current, currentIn, evolves⟩ :=
    (le_of_reaches reaches continued).rows row member
  refine ⟨current, currentIn, evolves, fun other otherIn sameId => ?_⟩
  exact later.world.table.eq_of_id_eq otherIn currentIn
    (sameId.trans evolves.id_eq.symm)

/-- The row of a session when it was started and when it has been paid. -/
theorem attempts_endure_sample : ∃ earlier later,
    (portal sampleConfig).replay Machine.Unrestricted
      (initiates 0 "A1" firstToken) (.initial (World.fresh sampleNow)) =
        some earlier ∧
    (portal sampleConfig).replay Machine.Unrestricted
      (claims 1 firstToken ++ meets 1 [
        .completed (sampleResponse "P1" .Success) .delivered,
        .executed []]) earlier = some later ∧
    earlier.world.table.rows.map Transaction.transactionStatus =
      [some .initiated] ∧
    later.world.table.rows.map Transaction.transactionStatus =
      [some .processed] ∧
    ∀ row ∈ earlier.world.table.rows, Endures row later.world.table := by
  have replayed : (((portal sampleConfig).replay Machine.Unrestricted
      (initiates 0 "A1" firstToken) (.initial (World.fresh sampleNow))).bind
        fun earlier => ((portal sampleConfig).replay Machine.Unrestricted
          (claims 1 firstToken ++ meets 1 [
            .completed (sampleResponse "P1" .Success) .delivered,
            .executed []]) earlier).map fun later =>
          (earlier.world.table.rows.map Transaction.transactionStatus,
            later.world.table.rows.map Transaction.transactionStatus)) =
      some ([some .initiated], [some .processed]) := by
    decide +kernel
  obtain ⟨earlier, started, found⟩ := Option.bind_eq_some_iff.mp replayed
  obtain ⟨later, paid, statuses⟩ := Option.map_eq_some_iff.mp found
  obtain ⟨before, after⟩ := Prod.mk.inj statuses
  exact ⟨earlier, later, started, paid, before, after,
    attempts_endure (Machine.reaches_of_replay started)
      (Machine.reaches_of_replay paid)⟩

/-! ## Reconciliation -/

/-- The rows and Pay.gov's records agree about tokens and tracking ids. -/
structure Reconciled (world : World) : Prop where
  completed : ∀ completion ∈ world.payGov.completions,
    ∃ row ∈ world.table.rows,
      row.paygovToken = some completion.token ∧ row.Claimed
  issued : ∀ row ∈ world.table.rows, ∀ token,
    row.paygovToken = some token →
      world.payGov.IssuedFor token row.agencyTrackingId
  tracked : ∀ row ∈ world.table.rows, ∀ trackingId,
    row.paygovTrackingId = some trackingId →
      Answered row ∧ ∃ completion ∈ world.payGov.completions,
        completion.paygovTrackingId = trackingId ∧
          row.paygovToken = some completion.token
  paid : ∀ row ∈ world.table.rows,
    row.transactionStatus = some .pending ∨
      row.transactionStatus = some .processed → row.paygovTrackingId ≠ none
  tokens : ∀ row ∈ world.table.rows, ∀ other ∈ world.table.rows, ∀ token,
    row.paygovToken = some token → other.paygovToken = some token →
      other = row
  trackingIds : ∀ row ∈ world.table.rows, ∀ other ∈ world.table.rows,
    ∀ trackingId, row.paygovTrackingId = some trackingId →
      other.paygovTrackingId = some trackingId → other = row

/--
In every reachable state the books can be reconciled: a completion at Pay.gov
is that of one claimed row, a stored token was issued for its row, a tracking
id is stored with the answer of its completion, and no two rows share either.
-/
theorem books_reconcile {state : PortalState}
    (reaches : Reachable config allowed now state) :
    Reconciled state.world := by
  obtain ⟨annotated, rfl, sound⟩ := exists_sound reaches
  have tracked : ∀ row ∈ annotated.state.world.table.rows, ∀ trackingId,
      row.paygovTrackingId = some trackingId →
        ∃ completion ∈ annotated.state.world.payGov.completions,
          completion.paygovTrackingId = trackingId ∧
            row.paygovToken = some completion.token :=
    fun row member => (sound.rows row member).completed
  refine {
    completed := sound.completed
    issued := fun row member => (sound.rows row member).issued
    tracked := fun row member trackingId has =>
      ⟨(sound.rows row member).untracked (by simp [has]),
        tracked row member trackingId has⟩
    paid := fun row member => (sound.rows row member).tracked
    tokens := fun row member other otherIn token has otherHas =>
      eq_of_token sound.rows otherIn member otherHas has
    trackingIds := ?_ }
  intro row member other otherIn trackingId has otherHas
  obtain ⟨completion, completionIn, isId, isToken⟩ :=
    tracked row member trackingId has
  obtain ⟨second, secondIn, secondId, secondToken⟩ :=
    tracked other otherIn trackingId otherHas
  obtain rfl := annotated.state.world.payGov.completion_eq_of_trackingId
    completionIn secondIn (isId.trans secondId.symm)
  exact eq_of_token sound.rows otherIn member secondToken isToken

/-- The books after the sample payment. -/
theorem books_reconcile_sample : ∃ state,
    (portal sampleConfig).replay Machine.Unrestricted samplePayment
      (.initial (World.fresh sampleNow)) = some state ∧
    state.world.payGov.completions.length = 1 ∧ Reconciled state.world := by
  have replayed : (((portal sampleConfig).replay Machine.Unrestricted
      samplePayment (.initial (World.fresh sampleNow))).map fun state =>
        state.world.payGov.completions.length) = some 1 := by decide +kernel
  obtain ⟨state, reached, completions⟩ := Option.map_eq_some_iff.mp replayed
  exact ⟨state, reached, completions,
    books_reconcile (Machine.reaches_of_replay reached)⟩

end PaymentPortal.Guarantees
