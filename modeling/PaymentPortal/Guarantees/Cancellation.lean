import PaymentPortal.Guarantees.StatusPairs
import PaymentPortal.Protocol.History

/-!
# Cancelled rows and claimed rows

A row is cancelled only while it is `initiated` and expired, and a row is
claimed only while it is `initiated` or `processing`.  Neither status comes
back once the other write has happened, so the two exclude each other, and no
completion is ever sent to Pay.gov for the token of a cancelled row.
-/

namespace PaymentPortal.Guarantees

open PaymentPortal.Interaction
open PaymentPortal.Model
open PaymentPortal.Protocol

/-- What the log says about cancelled and claimed rows. -/
structure CancellationExclusion (state : PortalState) : Prop where
  expired : ∀ entry ∈ state.log, ∀ row ∈ entry.after.table.rows,
    row ∉ entry.before.table.rows → row.transactionStatus = some .cancelled →
      ∃ old ∈ entry.before.table.rows,
        old.agencyTrackingId = row.agencyTrackingId ∧
          old.transactionStatus = some .initiated ∧
          MAX_TOKEN_AGE_MS < entry.before.now - old.createdAt
  claimed : state.log.Pairwise fun newer older =>
    ∀ token row, Claims older token row →
      ∀ later ∈ newer.after.table.rows,
        later.agencyTrackingId = row.agencyTrackingId →
          later.transactionStatus ≠ some .cancelled
  cancelled : state.log.Pairwise fun newer older =>
    ∀ row ∈ older.after.table.rows, row.transactionStatus = some .cancelled →
      ∀ token later, Claims newer token later →
        later.agencyTrackingId ≠ row.agencyTrackingId
  unsubmitted : ∀ entry ∈ state.log, ∀ row ∈ entry.after.table.rows,
    row.transactionStatus = some .cancelled →
      ∀ token, row.paygovToken = some token →
        ∀ other ∈ state.log, ¬ Submits other token

/-- A cancelled version was made of an expired `initiated` row. -/
theorem initiated_of_cancelled {config : Config} {request : Request}
    {entry : LogEntry} (lawful : Lawful config request entry)
    {row : Transaction} (member : row ∈ entry.after.table.rows)
    (new : row ∉ entry.before.table.rows)
    (cancelled : row.transactionStatus = some .cancelled) :
    ∃ old ∈ entry.before.table.rows,
      old.agencyTrackingId = row.agencyTrackingId ∧
        old.transactionStatus = some .initiated ∧
        MAX_TOKEN_AGE_MS < entry.before.now - old.createdAt := by
  rcases lawful.added_cases member new with
    ⟨data, _, rfl⟩ | ⟨old, oldIn, owner, statement, _, rewrite⟩
  · exact absurd cancelled (by simp [receivedRow])
  refine ⟨old, oldIn, ?_⟩
  have sameId := (rewrite.evolves (lawful.coherent old oldIn)).id_eq.symm
  cases rewrite with
  | swept initiated expired => exact ⟨sameId, initiated, expired⟩
  | cancelled isId initiated expired => exact ⟨sameId, initiated, expired⟩
  | activated | claimed | failed =>
      exact absurd cancelled
        (by simp [initiatedPatch, processingPatch, failedPatch])
  | refreshed isId hasToken tracked records =>
      exact absurd cancelled (records.uncancelled old)
  | stored isId hasToken processing records =>
      exact absurd cancelled (records.uncancelled old)

/-- A cancelled row is never found claimable again. -/
theorem ne_cancelled_of_claimable {now : Int} {row later : Transaction}
    (claimable : Claimable now later) (evolves : row.Evolves later) :
    row.transactionStatus ≠ some .cancelled := by
  intro cancelled
  obtain ⟨reached, hasReached, leads⟩ := evolves.status _ cancelled
  rcases claimable.status with initiated | ⟨processing, _⟩
  · obtain rfl := Option.some.inj (hasReached.symm.trans initiated)
    exact absurd leads (by decide)
  · obtain rfl := Option.some.inj (hasReached.symm.trans processing)
    exact absurd leads (by decide)

section

variable {config : Config} {annotated : Annotated config}

/-- A claim that is older than a world excludes a cancelled row in it. -/
theorem uncancelled_of_claims (recorded : Recorded annotated)
    {entry : LogEntry}
    (member : entry ∈ annotated.state.log) {token : String}
    {row : Transaction} (claims : Claims entry token row) {world : World}
    (present : entry.after ≤ world) {later : Transaction}
    (laterIn : later ∈ world.table.rows)
    (sameId : later.agencyTrackingId = row.agencyTrackingId) :
    later.transactionStatus ≠ some .cancelled := by
  obtain ⟨_, _, lawful⟩ := recorded.lawful entry member
  have processing := (lawful.processing_of_claims claims).1
  have evolves := present.evolved claims.added laterIn sameId
  exact ((Transaction.claimed_of_processing processing).of_evolves
    evolves).ne_cancelled

/-- A cancelled row that is older than a claim is not the claimed one. -/
theorem unclaimed_of_cancelled (recorded : Recorded annotated)
    {entry : LogEntry}
    (member : entry ∈ annotated.state.log) {token : String}
    {claimed : Transaction} (claims : Claims entry token claimed)
    {world : World} (earlier : world ≤ entry.before) {row : Transaction}
    (rowIn : row ∈ world.table.rows)
    (cancelled : row.transactionStatus = some .cancelled) :
    claimed.agencyTrackingId ≠ row.agencyTrackingId := by
  intro sameId
  obtain ⟨_, _, lawful⟩ := recorded.lawful entry member
  obtain ⟨old, oldIn, _, claimable, rfl⟩ := lawful.claimed claims
  have evolves := earlier.evolved rowIn oldIn sameId
  exact ne_cancelled_of_claimable claimable evolves cancelled

/-- The token of a cancelled row has no claim, before or after. -/
theorem not_claims_of_cancelled (recorded : Recorded annotated)
    {entry claim : LogEntry}
    (entryIn : entry ∈ annotated.state.log)
    (claimIn : claim ∈ annotated.state.log) {row claimed : Transaction}
    (rowIn : row ∈ entry.after.table.rows)
    (cancelled : row.transactionStatus = some .cancelled) {token : String}
    (hasToken : row.paygovToken = some token) :
    ¬ Claims claim token claimed := by
  intro claims
  obtain ⟨_, _, lawful⟩ := recorded.lawful claim claimIn
  have claimedToken := (lawful.processing_of_claims claims).2.1
  -- Both versions belong to the row that now has the token.
  have sameId : row.agencyTrackingId = claimed.agencyTrackingId := by
    obtain ⟨current, evolves, claimedEvolves⟩ := recorded.exists_common entryIn
      claimIn rowIn claims.added hasToken claimedToken
    exact evolves.id_eq.symm.trans claimedEvolves.id_eq
  rcases recorded.chronological.compare claimIn entryIn with
    rfl | before | after
  · exact uncancelled_of_claims recorded claimIn claims le_rfl rowIn sameId
      cancelled
  · have within := recorded.chronological.within entry entryIn
    exact uncancelled_of_claims recorded claimIn claims (before.trans within)
      rowIn sameId cancelled
  · exact unclaimed_of_cancelled recorded claimIn claims after rowIn cancelled
      sameId.symm

end

/--
In every reachable state the log never shows a claimed row that is cancelled
later, nor a cancelled row that is claimed later or submitted at all, and every
cancellation found an expired `initiated` row.
-/
theorem cancelled_excludes_claimed {config : Config} {now : Int}
    {state : PortalState}
    (reaches : Reachable config Machine.Unrestricted now state) :
    CancellationExclusion state := by
  obtain ⟨annotated, rfl, recorded⟩ := exists_recorded reaches
  constructor
  · intro entry member row rowIn new cancelled
    obtain ⟨_, _, lawful⟩ := recorded.lawful entry member
    exact initiated_of_cancelled lawful rowIn new cancelled
  · apply recorded.chronological.ordered.imp_of_mem
    intro newer older newerIn olderIn ordered token row claims later laterIn
    have within := recorded.chronological.within newer newerIn
    exact uncancelled_of_claims recorded olderIn claims (ordered.trans within)
      laterIn
  · apply recorded.chronological.ordered.imp_of_mem
    intro newer older newerIn olderIn ordered row rowIn cancelled token later
      claims
    exact unclaimed_of_cancelled recorded newerIn claims ordered rowIn cancelled
  · intro entry member row rowIn cancelled token hasToken other otherIn submits
    obtain ⟨claim, claimIn, _, _, claimed, claims⟩ :=
      recorded.submitted other otherIn token submits
    exact not_claims_of_cancelled recorded member claimIn rowIn cancelled
      hasToken claims

/-- An attempt that expires and is swept. -/
def sampleSweep : List PortalMove :=
  initiates 0 "A1" firstToken ++
    [.drift (.tick 10800001), .arrive .cancelExpiredTransactions] ++
    meets 1 [.executed []]

/-- The attempt of the sample run is cancelled. -/
theorem cancelled_excludes_claimed_sample : ∃ state,
    (portal sampleConfig).replay Machine.Unrestricted sampleSweep
      (.initial (World.fresh sampleNow)) = some state ∧
    state.world.table.rows.map Transaction.transactionStatus =
      [some .cancelled] ∧
    CancellationExclusion state := by
  have replayed : (((portal sampleConfig).replay Machine.Unrestricted
      sampleSweep (.initial (World.fresh sampleNow))).map fun state =>
        state.world.table.rows.map Transaction.transactionStatus) =
      some [some .cancelled] := by decide
  obtain ⟨state, reached, statuses⟩ := Option.map_eq_some_iff.mp replayed
  exact ⟨state, reached, statuses,
    cancelled_excludes_claimed (Machine.reaches_of_replay reached)⟩

end PaymentPortal.Guarantees
