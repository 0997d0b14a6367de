import PaymentPortal.Protocol.Changes
import PaymentPortal.Protocol.Lifecycle

/-!
# Coherent rows and the rewrites that keep them coherent

`Coherent` is the invariant of a single row.  `Rewrites` is what a statement of
a use case makes of a row, with everything the use case knows when it executes
it; it goes upwards in the lifecycle and keeps rows coherent.
-/

namespace PaymentPortal.Protocol

open PaymentPortal.Model

/-! ## Rows -/

/-- Pay.gov has answered for the attempt. -/
def Answered (row : Transaction) : Prop :=
  row.transactionStatus = some .pending ∨
    row.transactionStatus = some .processed ∨
    row.transactionStatus = some .failed

/-- An answered row stays answered. -/
theorem Answered.of_evolves {row later : Transaction} (answered : Answered row)
    (evolves : row.Evolves later) : Answered later := by
  have kept : ∀ status, row.transactionStatus = some status →
      (∀ reached, status.leadsTo reached = true →
        reached = .pending ∨ reached = .processed ∨ reached = .failed) →
      Answered later := by
    intro status has leads
    obtain ⟨reached, hasReached, toReached⟩ := evolves.status status has
    rcases leads reached toReached with rfl | rfl | rfl
    · exact .inl hasReached
    · exact .inr (.inl hasReached)
    · exact .inr (.inr hasReached)
  rcases answered with has | has | has <;>
    refine kept _ has fun reached toReached => ?_ <;>
    cases reached <;> simp [TransactionStatus.leadsTo] at toReached ⊢

/-- The attempt's fee has a version that was active when it was created. -/
def FeeResolves (config : Config) (row : Transaction) : Prop :=
  ∃ fee, getActiveFee config row.fee (some row.createdAt) = .ok fee

/-- An attempt keeps its fee and its creation. -/
theorem feeResolves_iff {config : Config} {row later : Transaction}
    (evolves : row.Evolves later) :
    FeeResolves config later ↔ FeeResolves config row := by
  rw [FeeResolves, FeeResolves, evolves.fee_eq, evolves.createdAt_eq]

/-- What holds of every row of the table. -/
structure Coherent (config : Config) (world : World) (row : Transaction) :
    Prop where
  status : ∃ status, row.transactionStatus = some status ∧
    row.paymentStatus = derivePaymentStatusFromSingleTransaction status
  received : row.transactionStatus = some .received → row.paygovToken = none
  token : row.transactionStatus ≠ some .received →
    row.transactionStatus ≠ some .failed → row.paygovToken ≠ none
  valid : ∀ token, row.paygovToken = some token → token.length = 32
  issued : ∀ token, row.paygovToken = some token →
    world.payGov.IssuedFor token row.agencyTrackingId
  untracked : row.paygovTrackingId ≠ none → Answered row
  tracked : row.transactionStatus = some .pending ∨
    row.transactionStatus = some .processed → row.paygovTrackingId ≠ none
  completed : ∀ trackingId, row.paygovTrackingId = some trackingId →
    ∃ completion ∈ world.payGov.completions,
      completion.paygovTrackingId = trackingId ∧
        row.paygovToken = some completion.token
  created : row.createdAt ≤ row.lastUpdatedAt
  updated : row.lastUpdatedAt ≤ world.now
  resolves : row.transactionStatus = some .processing ∨
    row.paygovTrackingId ≠ none → FeeResolves config row

/-- Coherence survives what happens outside the row. -/
theorem Coherent.mono {config : Config} {before after : World}
    {row : Transaction} (coherent : Coherent config before row)
    (now : before.now ≤ after.now)
    (payGov : before.payGov.Extends after.payGov) :
    Coherent config after row where
  status := coherent.status
  received := coherent.received
  token := coherent.token
  valid := coherent.valid
  issued := fun token has => payGov.issued (coherent.issued token has)
  untracked := coherent.untracked
  tracked := coherent.tracked
  completed := by
    intro trackingId has
    obtain ⟨completion, member, isId, isToken⟩ :=
      coherent.completed trackingId has
    obtain ⟨later, laterIn, evolves⟩ := payGov.completions completion member
    refine ⟨later, laterIn, evolves.trackingId_eq.trans isId, ?_⟩
    rw [isToken, evolves.token_eq]
  created := coherent.created
  updated := coherent.updated.trans now
  resolves := coherent.resolves

/-- A new attempt is coherent. -/
theorem coherent_receivedRow (config : Config) (world : World)
    (data : ReceivedTransactionParams) :
    Coherent config world (receivedRow world.now data) where
  status := ⟨.received, rfl, rfl⟩
  received := fun _ => rfl
  token := fun unreceived _ => absurd rfl unreceived
  valid := fun token has => absurd has (by simp [receivedRow])
  issued := fun token has => absurd has (by simp [receivedRow])
  untracked := fun tracked => absurd rfl tracked
  tracked := fun paid => absurd paid (by simp [receivedRow])
  completed := fun trackingId has => absurd has (by simp [receivedRow])
  created := le_rfl
  updated := le_rfl
  resolves := fun paid => absurd paid (by simp [receivedRow])

/-! ## Answers -/

/-- Pay.gov has reported `status` for the completion of `token`. -/
def Reported (payGov : PayGov) (token trackingId : String)
    (status : PayGovTransactionStatus) : Prop :=
  ∃ completion ∈ payGov.completions,
    completion.token = token ∧ completion.paygovTrackingId = trackingId ∧
      (parseTransactionStatus status = .pending ∨
        completion.outcome = parseTransactionStatus status)

/-- A report stays true: terminal outcomes are not revised. -/
theorem Reported.mono {payGov later : PayGov} {token trackingId : String}
    {status : PayGovTransactionStatus}
    (reported : Reported payGov token trackingId status)
    (extended : payGov.Extends later) :
    Reported later token trackingId status := by
  obtain ⟨completion, member, isToken, isId, outcome⟩ := reported
  obtain ⟨now, nowIn, evolves⟩ := extended.completions completion member
  refine ⟨now, nowIn, evolves.token_eq.trans isToken,
    evolves.trackingId_eq.trans isId, ?_⟩
  rcases outcome with pending | same
  · exact .inl pending
  · rcases evolves.outcome with pending | kept
    · exact .inl (same ▸ pending)
    · exact .inr (kept.trans same)

/-- What is reported under the tracking id of a row is about its token. -/
theorem Reported.token_of_row {config : Config} {world : World}
    {row : Transaction} {token trackingId : String}
    {status : PayGovTransactionStatus}
    (reported : Reported world.payGov token trackingId status)
    (coherent : Coherent config world row)
    (tracked : row.paygovTrackingId = some trackingId) :
    row.paygovToken = some token := by
  obtain ⟨own, ownIn, ownId, hasToken⟩ := coherent.completed trackingId tracked
  obtain ⟨completion, member, rfl, isId, _⟩ := reported
  rw [hasToken, world.payGov.completion_eq_of_trackingId ownIn member
    (ownId.trans isId.symm)]

/-- The patch stores what Pay.gov has reported for the token. -/
structure Records (payGov : PayGov) (token : String)
    (patch : PayGovResponsePatch) : Prop where
  reported : ∃ status, Reported payGov token patch.paygovTrackingId status ∧
    patch.transactionStatus = parseTransactionStatus status
  derived : patch.paymentStatus =
    derivePaymentStatusFromSingleTransaction patch.transactionStatus

theorem Records.status_cases {payGov : PayGov} {token : String}
    {patch : PayGovResponsePatch} (records : Records payGov token patch) :
    patch.transactionStatus = .pending ∨
      patch.transactionStatus = .processed ∨
      patch.transactionStatus = .failed := by
  obtain ⟨status, _, same⟩ := records.reported
  rw [same]
  exact parseTransactionStatus_cases status

/-! ## Rewrites -/

/--
What a statement of a use case makes of a row.  `owner` tells which attempts
the executing request has inserted itself.
-/
inductive Rewrites (config : Config) (world : World) (owner : String → Prop) :
    Statement → Transaction → Transaction → Prop where
  | activated {row : Transaction} {id paygovToken : String}
      (isId : row.agencyTrackingId = id) (owned : owner id)
      (received : row.transactionStatus = some .received)
      (valid : paygovToken.length = 32)
      (issued : world.payGov.IssuedFor paygovToken row.agencyTrackingId) :
      Rewrites config world owner (.updateToInitiated id paygovToken) row
        { initiatedPatch paygovToken row with lastUpdatedAt := world.now }
  | refreshed {row : Transaction} {id token : String}
      {patch : PayGovResponsePatch} (isId : row.agencyTrackingId = id)
      (hasToken : row.paygovToken = some token)
      (tracked : row.paygovTrackingId = some patch.paygovTrackingId)
      (records : Records world.payGov token patch) :
      Rewrites config world owner (.updateAfterPayGovResponse id patch) row
        { payGovResponsePatch patch row with lastUpdatedAt := world.now }
  | stored {row : Transaction} {id token : String}
      {patch : PayGovResponsePatch} (isId : row.agencyTrackingId = id)
      (hasToken : row.paygovToken = some token)
      (processing : row.transactionStatus = some .processing)
      (records : Records world.payGov token patch) :
      Rewrites config world owner
        (.updateAfterPayGovResponseIf id patch .processing)
        row { payGovResponsePatch patch row with lastUpdatedAt := world.now }
  | claimed {row : Transaction} {token : String}
      (hasToken : row.paygovToken = some token)
      (claimable : Claimable world.now row)
      (resolves : FeeResolves config row) :
      Rewrites config world owner (.claimForProcessing token) row
        { processingPatch row with lastUpdatedAt := world.now }
  | failed {row : Transaction} {id : String} {code : Option Int}
      {detail : Option String} (isId : row.agencyTrackingId = id)
      (guarded : row.transactionStatus = some .received → owner id) :
      Rewrites config world owner (.updateToFailed id code detail) row
        { failedPatch code detail row with lastUpdatedAt := world.now }
  | swept {row : Transaction} {limit : Nat}
      (initiated : row.transactionStatus = some .initiated)
      (expired : MAX_TOKEN_AGE_MS < world.now - row.createdAt) :
      Rewrites config world owner (.cancelExpiredBatch limit) row
        (cancelledPatch row)
  | cancelled {row : Transaction} {id : String}
      (isId : row.agencyTrackingId = id)
      (initiated : row.transactionStatus = some .initiated)
      (expired : MAX_TOKEN_AGE_MS < world.now - row.createdAt) :
      Rewrites config world owner (.updateToCancelled id) row
        (cancelledPatch row)

namespace Rewrites

variable {config : Config} {world : World} {owner : String → Prop}
variable {statement : Statement} {row changed : Transaction}

/-- A rewrite goes upwards in the lifecycle. -/
theorem evolves (rewrites : Rewrites config world owner statement row changed)
    (coherent : Coherent config world row) : row.Evolves changed := by
  have updated := coherent.updated
  cases rewrites with
  | activated isId owned received valid issued =>
      exact {
        Transaction.Evolves.refl row with
        token := fun token has =>
          absurd has (by simp [coherent.received received])
        updated := updated
        status := fun status has => ⟨.initiated, rfl, by
          obtain rfl := Option.some.inj (has.symm.trans received)
          rfl⟩ }
  | @refreshed _ _ _ patch isId hasToken tracked records =>
      exact {
        Transaction.Evolves.refl row with
        trackingId := fun trackingId has => tracked.symm.trans has
        updated := updated
        status := by
          intro status has
          refine ⟨patch.transactionStatus, rfl, ?_⟩
          have answered := coherent.untracked (by simp [tracked])
          rw [Answered, has] at answered
          rcases answered with found | found | found <;>
            obtain rfl := Option.some.inj found <;>
            rcases records.status_cases with same | same | same <;>
            rw [same] <;> rfl }
  | @stored _ _ _ patch isId hasToken processing records =>
      exact {
        Transaction.Evolves.refl row with
        trackingId := fun trackingId has => by
          have answered := coherent.untracked (by simp [has])
          exact absurd answered (by simp [Answered, processing])
        updated := updated
        status := by
          intro status has
          refine ⟨patch.transactionStatus, rfl, ?_⟩
          obtain rfl := Option.some.inj (has.symm.trans processing)
          rcases records.status_cases with same | same | same <;>
            rw [same] <;> rfl }
  | claimed hasToken claimable resolves =>
      exact {
        Transaction.Evolves.refl row with
        updated := updated
        status := fun status has => ⟨.processing, rfl, by
          rcases claimable.status with initiated | ⟨processing, _⟩
          · obtain rfl := Option.some.inj (has.symm.trans initiated)
            rfl
          · obtain rfl := Option.some.inj (has.symm.trans processing)
            rfl⟩ }
  | failed isId guarded =>
      exact {
        Transaction.Evolves.refl row with
        updated := updated
        status := fun status has => ⟨.failed, rfl, by cases status <;> rfl⟩ }
  | swept initiated expired | cancelled isId initiated expired =>
      exact {
        Transaction.Evolves.refl row with
        status := fun status has => ⟨.cancelled, rfl, by
          obtain rfl := Option.some.inj (has.symm.trans initiated)
          rfl⟩ }

/-- Recording what Pay.gov has reported keeps the row coherent. -/
theorem coherent_of_records {token : String} {patch : PayGovResponsePatch}
    (coherent : Coherent config world row)
    (hasToken : row.paygovToken = some token)
    (records : Records world.payGov token patch)
    (resolves : FeeResolves config row) :
    Coherent config world
      { payGovResponsePatch patch row with lastUpdatedAt := world.now } where
  status := ⟨patch.transactionStatus, rfl, records.derived⟩
  received := by
    intro received
    rcases records.status_cases with same | same | same <;>
      exact absurd received (by simp [payGovResponsePatch, same])
  token := fun _ _ => by simp [payGovResponsePatch, hasToken]
  valid := coherent.valid
  issued := coherent.issued
  untracked := fun _ => by
    rcases records.status_cases with same | same | same <;>
      simp [Answered, payGovResponsePatch, same]
  tracked := fun _ => by simp [payGovResponsePatch]
  completed := by
    intro trackingId has
    obtain ⟨status, ⟨completion, member, isToken, isId, _⟩, _⟩ :=
      records.reported
    refine ⟨completion, member, ?_, ?_⟩
    · rw [isId]
      exact Option.some.inj has
    · rw [isToken]
      exact hasToken
  created := coherent.created.trans coherent.updated
  updated := le_rfl
  resolves := fun _ => resolves

/-- A cancellation keeps the row coherent. -/
theorem coherent_of_cancelled (coherent : Coherent config world row)
    (initiated : row.transactionStatus = some .initiated) :
    Coherent config world (cancelledPatch row) where
  status := ⟨.cancelled, rfl, rfl⟩
  received := fun received => absurd received (by simp [cancelledPatch])
  token := fun _ _ => coherent.token (by simp [initiated]) (by simp [initiated])
  valid := coherent.valid
  issued := coherent.issued
  untracked := fun tracked => by
    have answered := coherent.untracked tracked
    exact absurd answered (by simp [Answered, initiated])
  tracked := fun paid => absurd paid (by simp [cancelledPatch])
  completed := coherent.completed
  created := coherent.created
  updated := coherent.updated
  resolves := fun paid => coherent.resolves (.inr (by
    rcases paid with processing | tracked
    · exact absurd processing (by simp [cancelledPatch])
    · exact tracked))

/-- A rewrite keeps the row coherent. -/
theorem coherent (rewrites : Rewrites config world owner statement row changed)
    (coherent : Coherent config world row) :
    Coherent config world changed := by
  have createdNow := coherent.created.trans coherent.updated
  cases rewrites with
  | @activated _ _ token isId owned received valid issued =>
      have untracked : row.paygovTrackingId = none := by
        by_contra tracked
        exact absurd (coherent.untracked tracked) (by simp [Answered, received])
      exact {
        status := ⟨.initiated, rfl, by
          obtain ⟨status, has, derived⟩ := coherent.status
          obtain rfl := Option.some.inj (has.symm.trans received)
          exact derived⟩
        received := fun again => absurd again (by simp [initiatedPatch])
        token := fun _ _ => by simp [initiatedPatch]
        valid := fun other has => by
          obtain rfl : token = other := Option.some.inj has
          exact valid
        issued := fun other has => by
          obtain rfl : token = other := Option.some.inj has
          exact issued
        untracked := fun tracked => absurd untracked tracked
        tracked := fun paid => absurd paid (by simp [initiatedPatch])
        completed := fun trackingId has =>
          absurd (untracked.symm.trans has) (by simp)
        created := createdNow
        updated := le_rfl
        resolves := fun paid => absurd paid
          (by simp [initiatedPatch, untracked]) }
  | refreshed isId hasToken tracked records =>
      exact coherent_of_records coherent hasToken records
        (coherent.resolves (.inr (by simp [tracked])))
  | stored isId hasToken processing records =>
      exact coherent_of_records coherent hasToken records
        (coherent.resolves (.inl processing))
  | claimed hasToken claimable resolves =>
      have untracked : row.paygovTrackingId = none := by
        by_contra tracked
        have answered := coherent.untracked tracked
        rcases claimable.status with initiated | ⟨processing, _⟩
        · exact absurd answered (by simp [Answered, initiated])
        · exact absurd answered (by simp [Answered, processing])
      exact {
        status := ⟨.processing, rfl, by
          obtain ⟨status, has, derived⟩ := coherent.status
          rcases claimable.status with initiated | ⟨processing, _⟩
          · obtain rfl := Option.some.inj (has.symm.trans initiated)
            exact derived
          · obtain rfl := Option.some.inj (has.symm.trans processing)
            exact derived⟩
        received := fun again => absurd again (by simp [processingPatch])
        token := fun _ _ => by simp [processingPatch, hasToken]
        valid := coherent.valid
        issued := coherent.issued
        untracked := fun tracked => absurd untracked tracked
        tracked := fun paid => absurd paid (by simp [processingPatch])
        completed := coherent.completed
        created := createdNow
        updated := le_rfl
        resolves := fun _ => resolves }
  | failed isId guarded =>
      exact {
        status := ⟨.failed, rfl, rfl⟩
        received := fun again => absurd again (by simp [failedPatch])
        token := fun _ unfailed => absurd rfl unfailed
        valid := coherent.valid
        issued := coherent.issued
        untracked := fun _ => .inr (.inr rfl)
        tracked := fun paid => absurd paid (by simp [failedPatch])
        completed := coherent.completed
        created := createdNow
        updated := le_rfl
        resolves := fun paid => coherent.resolves (.inr (by
          rcases paid with processing | tracked
          · exact absurd processing (by simp [failedPatch])
          · exact tracked)) }
  | swept initiated expired => exact coherent_of_cancelled coherent initiated
  | cancelled isId initiated expired =>
      exact coherent_of_cancelled coherent initiated

end Rewrites

end PaymentPortal.Protocol
