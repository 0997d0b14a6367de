import PaymentPortal.Guarantees.StatusPairs
import PaymentPortal.Interaction.Spacing
import PaymentPortal.Protocol.History

/-!
# Claims of one token

Two claims of a token are at least `PROCESSING_STALE_MS` apart, and no claim
succeeds after the token's time to live.  So only few claims of a token ever
succeed, and only as many requests submit it to Pay.gov.
-/

namespace PaymentPortal.Guarantees

open PaymentPortal.Interaction
open PaymentPortal.Model
open PaymentPortal.Protocol

/-- What the log says about the claims of one token. -/
structure ClaimExclusion (state : PortalState) (token : String) : Prop where
  returned : ∀ entry ∈ state.log, ∀ row, Returns entry token row →
    Claims entry token row
  spaced : state.log.Pairwise fun newer older => ∀ first second,
    Claims older token first → Claims newer token second →
      PROCESSING_STALE_MS ≤ newer.before.now - older.before.now
  age : ∀ entry ∈ state.log, ∀ row, Claims entry token row →
    entry.before.now - row.createdAt ≤ MAX_TOKEN_AGE_MS
  window : ∀ claims : List LogEntry, claims.Sublist state.log →
    (∀ entry ∈ claims, ∃ row, Claims entry token row) →
    ∀ start, (∀ entry ∈ claims, start ≤ entry.before.now ∧
      entry.before.now < start + PROCESSING_STALE_MS) →
    claims.length ≤ 1
  total : ∀ claims : List LogEntry, claims.Sublist state.log →
    (∀ entry ∈ claims, ∃ row, Claims entry token row) →
    (claims.length : Int) ≤ MAX_TOKEN_AGE_MS / PROCESSING_STALE_MS + 1
  submitters : ∀ callers : List Nat, callers.Nodup →
    (∀ caller ∈ callers, ∃ entry ∈ state.log,
      entry.caller = caller ∧ Submits entry token) →
    (callers.length : Int) ≤ MAX_TOKEN_AGE_MS / PROCESSING_STALE_MS + 1

section

variable {config : Config} {annotated : Annotated config}
variable (token : String)

/-- A claim finds the row that was claimed before, and finds it stale. -/
theorem spaced_of_recorded (recorded : Recorded annotated) :
    annotated.state.log.Pairwise fun newer older => ∀ first second,
      Claims older token first → Claims newer token second →
        PROCESSING_STALE_MS ≤ newer.before.now - older.before.now := by
  apply recorded.chronological.ordered.imp_of_mem
  intro newer older newerIn olderIn later first second olderClaims newerClaims
  obtain ⟨_, _, olderLawful⟩ := recorded.lawful older olderIn
  obtain ⟨_, _, newerLawful⟩ := recorded.lawful newer newerIn
  obtain ⟨current, currentIn, evolves, currentToken, claimed⟩ :=
    olderLawful.claimed_later olderClaims later
  obtain ⟨old, oldIn, oldToken, claimable, _⟩ :=
    newerLawful.claimed newerClaims
  obtain rfl := eq_of_token newerLawful.coherent currentIn oldIn currentToken
    oldToken
  obtain ⟨_, _, stamped⟩ := olderLawful.processing_of_claims olderClaims
  have updated := evolves.updated
  rcases claimable.status with initiated | ⟨_, stale⟩
  · exact absurd initiated claimed.ne_initiated
  · omega

theorem age_of_recorded (recorded : Recorded annotated) :
    ∀ entry ∈ annotated.state.log, ∀ row, Claims entry token row →
      entry.before.now - row.createdAt ≤ MAX_TOKEN_AGE_MS := by
  intro entry member row claims
  obtain ⟨_, _, lawful⟩ := recorded.lawful entry member
  obtain ⟨old, _, _, claimable, rfl⟩ := lawful.claimed claims
  exact claimable.age

/-- The instants of some claims of a token, newest first, are spaced. -/
theorem spaced_instants (recorded : Recorded annotated)
    {claims : List LogEntry} (sublist : claims.Sublist annotated.state.log)
    (areClaims : ∀ entry ∈ claims, ∃ row, Claims entry token row) :
    (claims.map fun entry => entry.before.now).Pairwise fun newer older =>
      older + PROCESSING_STALE_MS ≤ newer := by
  rw [List.pairwise_map]
  refine ((spaced_of_recorded token recorded).sublist sublist).imp_of_mem ?_
  intro newer older newerIn olderIn spaced
  obtain ⟨first, olderClaims⟩ := areClaims older olderIn
  obtain ⟨second, newerClaims⟩ := areClaims newer newerIn
  have := spaced first second olderClaims newerClaims
  omega

/-- All claims of a token fall into the time to live of its row. -/
theorem exists_lifetime (recorded : Recorded annotated) :
    ∃ start, ∀ entry ∈ annotated.state.log,
      (∃ row, Claims entry token row) →
        start ≤ entry.before.now ∧
          entry.before.now ≤ start + MAX_TOKEN_AGE_MS := by
  by_cases claimed : ∃ entry ∈ annotated.state.log,
      ∃ row, Claims entry token row
  · obtain ⟨entry, member, row, claims⟩ := claimed
    obtain ⟨_, _, lawful⟩ := recorded.lawful entry member
    refine ⟨row.createdAt, fun other otherIn ⟨otherRow, otherClaims⟩ => ?_⟩
    obtain ⟨_, _, otherLawful⟩ := recorded.lawful other otherIn
    obtain ⟨_, hasToken, _⟩ := lawful.processing_of_claims claims
    obtain ⟨_, otherToken, _⟩ := otherLawful.processing_of_claims otherClaims
    obtain ⟨current, evolves, otherEvolves⟩ := recorded.exists_common member
      otherIn claims.added otherClaims.added hasToken otherToken
    have sameCreation := evolves.createdAt_eq.symm.trans
      otherEvolves.createdAt_eq
    have age :=
      age_of_recorded token recorded other otherIn otherRow otherClaims
    obtain ⟨old, oldIn, _, _, rfl⟩ := otherLawful.claimed otherClaims
    have coherent := otherLawful.coherent old oldIn
    have created : old.createdAt ≤ other.before.now :=
      coherent.created.trans coherent.updated
    change row.createdAt = old.createdAt at sameCreation
    change other.before.now - old.createdAt ≤ MAX_TOKEN_AGE_MS at age
    constructor <;> omega
  · exact ⟨0, fun entry member claims => absurd ⟨entry, member, claims⟩ claimed⟩

/-- The claims of a token in a window of some width. -/
theorem length_le_of_window (recorded : Recorded annotated)
    {claims : List LogEntry} (sublist : claims.Sublist annotated.state.log)
    (areClaims : ∀ entry ∈ claims, ∃ row, Claims entry token row)
    (width : Int) (nonneg : 0 ≤ width) {start : Int}
    (within : ∀ entry ∈ claims, start ≤ entry.before.now ∧
      entry.before.now ≤ start + width) :
    (claims.length : Int) ≤ width / PROCESSING_STALE_MS + 1 := by
  have bound := length_le_of_spaced start (by decide) nonneg
    (spaced_instants token recorded sublist areClaims) (by
      intro instant member
      obtain ⟨entry, entryIn, rfl⟩ := List.mem_map.mp member
      exact within entry entryIn)
  rwa [List.length_map] at bound

/-- Over the life of a token only few claims succeed. -/
theorem length_le_of_lifetime (recorded : Recorded annotated)
    {claims : List LogEntry} (sublist : claims.Sublist annotated.state.log)
    (areClaims : ∀ entry ∈ claims, ∃ row, Claims entry token row) :
    (claims.length : Int) ≤ MAX_TOKEN_AGE_MS / PROCESSING_STALE_MS + 1 := by
  obtain ⟨start, lifetime⟩ := exists_lifetime token recorded
  exact length_le_of_window token recorded sublist areClaims _ (by decide)
    fun entry member => lifetime entry (sublist.subset member)
      (areClaims entry member)

/-- Callers that submit a token have claimed it, each with its own claim. -/
theorem length_le_of_submitters (recorded : Recorded annotated)
    {callers : List Nat} (distinct : callers.Nodup)
    (submit : ∀ caller ∈ callers, ∃ entry ∈ annotated.state.log,
      entry.caller = caller ∧ Submits entry token) :
    (callers.length : Int) ≤ MAX_TOKEN_AGE_MS / PROCESSING_STALE_MS + 1 := by
  classical
  let claims := annotated.state.log.filter fun entry =>
    decide (∃ row, Claims entry token row)
  have claimed : callers ⊆ claims.map fun entry => entry.caller := by
    intro caller member
    obtain ⟨entry, entryIn, isCaller, submits⟩ := submit caller member
    obtain ⟨claim, claimIn, sameCaller, _, isClaim⟩ :=
      recorded.submitted entry entryIn token submits
    refine List.mem_map.mpr ⟨claim, ?_, sameCaller.trans isCaller⟩
    exact List.mem_filter.mpr ⟨claimIn, decide_eq_true isClaim⟩
  have fewer : callers.length ≤ claims.length := by
    simpa using (List.subperm_of_subset distinct claimed).length_le
  have bound := length_le_of_lifetime token recorded
    (List.filter_sublist : claims.Sublist annotated.state.log) (by
      intro entry member
      exact of_decide_eq_true (List.mem_filter.mp member).2)
  exact (Int.ofNat_le.mpr fewer).trans bound

end

/--
In every reachable state the claims of every token are spaced and end with its
time to live, so only few claims succeed and only few requests submit it.
-/
theorem claims_spaced {config : Config} {now : Int} {state : PortalState}
    (reaches : Reachable config Machine.Unrestricted now state)
    (token : String) : ClaimExclusion state token := by
  obtain ⟨annotated, rfl, recorded⟩ := exists_recorded reaches
  exact {
    returned := by
      intro entry member row returns
      obtain ⟨_, _, lawful⟩ := recorded.lawful entry member
      exact lawful.claims_of_returns returns
    spaced := spaced_of_recorded token recorded
    age := age_of_recorded token recorded
    window := by
      intro claims sublist areClaims start within
      have bound := length_le_of_window token recorded sublist areClaims
        (PROCESSING_STALE_MS - 1) (by decide) (by
          intro entry member
          obtain ⟨late, early⟩ := within entry member
          constructor <;> omega)
      have : (PROCESSING_STALE_MS - 1) / PROCESSING_STALE_MS = 0 := by decide
      omega
    total := fun claims sublist areClaims =>
      length_le_of_lifetime token recorded sublist areClaims
    submitters := fun callers distinct submit =>
      length_le_of_submitters token recorded distinct submit }

/-- A claim, and a reclaim as soon as the first one counts as stale. -/
def sampleReclaim : List PortalMove :=
  initiates 0 "A1" firstToken ++ claims 1 firstToken ++
    [.drift (.tick 600000)] ++ claims 2 firstToken

/-- Both claims of the sample run succeed, at the least distance. -/
theorem claims_spaced_sample : ∃ state,
    (portal sampleConfig).replay Machine.Unrestricted sampleReclaim
      (.initial (World.fresh sampleNow)) = some state ∧
    (state.world.table.rows.map fun row =>
      (row.transactionStatus, row.lastUpdatedAt)) =
      [(some .processing, sampleNow + PROCESSING_STALE_MS)] ∧
    ClaimExclusion state firstToken := by
  have replayed : (((portal sampleConfig).replay Machine.Unrestricted
      sampleReclaim (.initial (World.fresh sampleNow))).map fun state =>
        state.world.table.rows.map fun row =>
          (row.transactionStatus, row.lastUpdatedAt)) =
      some [(some .processing, sampleNow + PROCESSING_STALE_MS)] := by decide
  obtain ⟨state, reached, claimed⟩ := Option.map_eq_some_iff.mp replayed
  exact ⟨state, reached, claimed,
    claims_spaced (Machine.reaches_of_replay reached) firstToken⟩

end PaymentPortal.Guarantees
