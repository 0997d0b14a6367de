import PaymentPortal.Guarantees.StatusPairs
import PaymentPortal.Protocol.Conditions

/-!
# One charge per obligation

The unique index admits one row under way for each obligation, so no second
token is charged while the row of a charged token stays under way.  It does in
every run in which no failure write hits a row whose token Pay.gov has
accepted, and Pay.gov accepts a completion only while its row is `processing`.

The use cases do not ensure either.  A completion that is sent again after its
response was lost is answered with a fault, and the fault marks the charged row
`failed`; the next `initPayment` then starts a second payment.
-/

namespace PaymentPortal.Guarantees

open PaymentPortal.Interaction
open PaymentPortal.Model
open PaymentPortal.Protocol

/-- `token` was issued for an attempt of the obligation. -/
def BelongsTo (world : World) (token : String) (obligation : Obligation) :
    Prop :=
  ∃ row ∈ world.table.rows, row.obligation = obligation ∧
    world.payGov.IssuedFor token row.agencyTrackingId

instance (world : World) (token : String) (obligation : Obligation) :
    Decidable (BelongsTo world token obligation) :=
  inferInstanceAs (Decidable (∃ _ ∈ _, _))

/--
At most one token of each obligation is charged, and no session is started for
an obligation that has a charged token.
-/
structure SingleCharge (state : PortalState) : Prop where
  charged : ∀ obligation first second,
    BelongsTo state.world first obligation →
    BelongsTo state.world second obligation →
    state.world.payGov.Charged first → state.world.payGov.Charged second →
      first = second
  started : ∀ entry ∈ state.log, ∀ params,
    entry.op = .fetch (.startOnlineCollection params) →
      ∃ row ∈ entry.before.table.rows,
        row.agencyTrackingId = params.agency_tracking_id ∧
          ∀ token, BelongsTo entry.before token row.obligation →
            ¬ entry.before.payGov.Charged token

/--
No failure write takes effect on a row whose token Pay.gov has accepted, and
Pay.gov accepts a completion only while the row of its token is `processing`.
-/
def ChargeSafe (state : PortalState) (_ : Nat) (op : Op) (fate : Fate) :
    Prop :=
  (∀ id ∈ fails? op fate, ∀ row ∈ state.world.table.rows,
    row.agencyTrackingId = id →
      ∀ token ∈ row.paygovToken, ¬ state.world.payGov.Accepted token) ∧
  ∀ token ∈ accepts? op fate, ∀ row ∈ state.world.table.rows,
    row.paygovToken = some token → row.transactionStatus = some .processing

instance (state : PortalState) (caller : Nat) (op : Op) (fate : Fate) :
    Decidable (ChargeSafe state caller op fate) :=
  inferInstanceAs (Decidable (_ ∧ _))

/-- The row of an accepted token is under way. -/
def AcceptedUnderway (world : World) : Prop :=
  ∀ token, world.payGov.Accepted token →
    ∃ row ∈ world.table.rows, row.paygovToken = some token ∧ Underway row

variable {config : Config}

/-- The row under way of an accepted token is the one it was issued for. -/
theorem exists_underway {world : World}
    (coherent : ∀ row ∈ world.table.rows, Coherent config world row)
    (acceptedUnderway : AcceptedUnderway world) {token : String}
    {obligation : Obligation} (belongs : BelongsTo world token obligation)
    (accepted : world.payGov.Accepted token) :
    ∃ row ∈ world.table.rows, row.paygovToken = some token ∧ Underway row ∧
      row.obligation = obligation := by
  obtain ⟨row, member, hasToken, underway⟩ := acceptedUnderway token accepted
  obtain ⟨attempt, attemptIn, isObligation, issued⟩ := belongs
  have sameId := ((coherent row member).issued token hasToken).unique issued
  have same := world.table.eq_of_id_eq member attemptIn sameId
  exact ⟨row, member, hasToken, underway, same ▸ isObligation⟩

/-- Two accepted tokens of one obligation share the row under way. -/
theorem eq_of_accepted {world : World}
    (coherent : ∀ row ∈ world.table.rows, Coherent config world row)
    (acceptedUnderway : AcceptedUnderway world) {obligation : Obligation}
    {first second : String} (firstBelongs : BelongsTo world first obligation)
    (secondBelongs : BelongsTo world second obligation)
    (firstAccepted : world.payGov.Accepted first)
    (secondAccepted : world.payGov.Accepted second) : first = second := by
  obtain ⟨row, member, hasFirst, underway, isObligation⟩ :=
    exists_underway coherent acceptedUnderway firstBelongs firstAccepted
  obtain ⟨other, otherIn, hasSecond, otherUnderway, otherObligation⟩ :=
    exists_underway coherent acceptedUnderway secondBelongs secondAccepted
  have same := world.table.eq_of_active member otherIn underway.active
    otherUnderway.active (isObligation.trans otherObligation.symm)
  rw [same, hasSecond] at hasFirst
  exact (Option.some.inj hasFirst).symm

/-- The invariant of runs in which every move is charge safe. -/
structure ChargeInvariant (annotated : Annotated config) : Prop
    extends Sound annotated where
  accepted : AcceptedUnderway annotated.state.world
  started : (∀ entry ∈ annotated.state.log, ∀ params,
    entry.op = .fetch (.startOnlineCollection params) →
      ∃ row ∈ entry.before.table.rows,
        row.agencyTrackingId = params.agency_tracking_id ∧
          ∀ token, BelongsTo entry.before token row.obligation →
            ¬ entry.before.payGov.Charged token)

/-- A charge safe operation leaves the rows of accepted tokens under way. -/
theorem acceptedUnderway_of_exec {source : Annotated config} {caller : Nat}
    {request : Request} {op : Op} {reply : Reply op} {fate : Fate}
    {next : Reply op → Program Op Reply Outcome} {stage after : Stage}
    {world : World} (sound : Sound source)
    (acceptedUnderway : AcceptedUnderway source.state.world)
    (running : source.state.calls[caller]? =
      some ⟨request, some (.perform op next)⟩)
    (holds : source.phases[caller]? = some stage)
    (executed : exec config.xmlFormats op fate source.state.world =
      some (reply, world))
    (moved : Permitted config request stage op reply after)
    (safe : ChargeSafe source.state caller op fate) :
    AcceptedUnderway world := by
  intro token accepted
  rcases accepted_of_exec executed accepted with before | ⟨accepts, sameTable⟩
  · obtain ⟨row, member, hasToken, underway⟩ := acceptedUnderway token before
    have step := sound.worldStep running holds executed moved
    rcases step.kept_or_rewritten member with
      kept | ⟨statement, isOp, changed, changedIn, rewrite⟩
    · exact ⟨row, kept, hasToken, underway⟩
    have changedToken :=
      (rewrite.evolves (sound.rows row member)).token token hasToken
    rcases rewrite.underway hasToken before underway with
      still | ⟨code, detail, rfl⟩
    · exact ⟨changed, changedIn, changedToken, still⟩
    · obtain rfl := Option.some.inj isOp
      by_cases effective : fails? (.db (.updateToFailed
          row.agencyTrackingId code detail)) fate = some row.agencyTrackingId
      · exact absurd before (safe.1 _ effective row member rfl token hasToken)
      · rw [same_of_fails? executed effective]
        exact ⟨row, member, hasToken, underway⟩
  · have known := sound.knows caller _ stage running holds
    obtain ⟨row, member, hasToken, _⟩ :=
      exists_claimed_of_accepts? known moved accepts
    exact ⟨row, sameTable ▸ member, hasToken,
      .inl (safe.2 token accepts row member hasToken)⟩

/-- No session is started for an obligation that has a charged token. -/
theorem uncharged_of_start {world : World} {request : Request}
    {stage after : Stage} {params : StartOnlineCollectionParams}
    {reply : Reply (.fetch (.startOnlineCollection params))}
    (coherent : ∀ row ∈ world.table.rows, Coherent config world row)
    (acceptedUnderway : AcceptedUnderway world)
    (knows : Knows world request stage)
    (moved : Permitted config request stage
      (.fetch (.startOnlineCollection params)) reply after) :
    ∃ row ∈ world.table.rows,
      row.agencyTrackingId = params.agency_tracking_id ∧
        ∀ token, BelongsTo world token row.obligation →
          ¬ world.payGov.Charged token := by
  have own : ∃ data, stage = .collecting data ∧
      params.agency_tracking_id = data.agencyTrackingId := by
    cases moved with
    | passive _ passive => exact absurd passive id
    | start own | startUnanswered own => exact ⟨_, rfl, own⟩
  obtain ⟨data, rfl, isId⟩ := own
  obtain ⟨row, member, sameId, received, _⟩ := knows
  refine ⟨row, member, sameId.trans isId.symm, ?_⟩
  intro token belongs charged
  obtain ⟨other, otherIn, _, underway, sameObligation⟩ :=
    exists_underway coherent acceptedUnderway belongs charged.accepted
  have active : row.Active :=
    (Transaction.active_iff received).mpr (by decide)
  obtain rfl := world.table.eq_of_active otherIn member underway.active active
    sameObligation
  exact absurd underway (by simp [Underway, received])

variable {source target : Annotated config}

/-- Every charge safe move leaves the rows of accepted tokens under way. -/
theorem ChargeInvariant.accepted_step (invariant : ChargeInvariant source)
    (step : AnnotatedStep config (Machine.OnSteps ChargeSafe) source target) :
    AcceptedUnderway target.state.world := by
  cases step with
  | arrive request permitted state_eq phases_eq =>
      rw [state_eq]
      exact invariant.accepted
  | perform caller fate request op next reply world stage after permitted
      running holds executed moved state_eq phases_eq =>
      rw [state_eq]
      exact acceptedUnderway_of_exec invariant.toSound invariant.accepted
        running holds executed moved (permitted.of_running running)
  | crash caller request op next permitted running state_eq phases_eq =>
      rw [state_eq]
      exact invariant.accepted
  | drift change world permitted drifted state_eq phases_eq =>
      rw [state_eq]
      intro token accepted
      obtain ⟨before, sameTable⟩ := accepted_of_drift drifted accepted
      exact sameTable ▸ invariant.accepted token before

/-- Every charge safe move keeps the invariant. -/
theorem ChargeInvariant.step (invariant : ChargeInvariant source)
    (step : AnnotatedStep config (Machine.OnSteps ChargeSafe) source target) :
    ChargeInvariant target := by
  refine ⟨invariant.toSound.step step, invariant.accepted_step step, ?_⟩
  intro entry member params isStart
  obtain ⟨older, logged⟩ := step.loggedBy_of_mem member
  cases logged with
  | earlier suffix =>
      exact invariant.started entry (suffix.subset List.mem_cons_self) params
        isStart
  | performed caller fate request op next reply stage after permitted running
      holds executed moved =>
      obtain rfl : op = .fetch (.startOnlineCollection params) := isStart
      exact uncharged_of_start invariant.rows invariant.accepted
        (invariant.knows caller _ stage running holds) moved

theorem chargeInvariant_initial (now : Int) :
    ChargeInvariant (.initial (World.fresh now) : Annotated config) where
  toSound := sound_initial now
  accepted := by
    rintro token ⟨completion, member, _⟩
    exact absurd member (by simp [Phased.initial, State.initial, World.fresh,
      PayGov.empty])
  started := fun entry member =>
    absurd member (by simp [Phased.initial, State.initial])

/--
In every run of charge safe moves at most one token of each obligation is ever
charged, and no session is started once one is.
-/
theorem charged_once {now : Int} {state : PortalState}
    (reaches : Reachable config (Machine.OnSteps ChargeSafe) now state) :
    SingleCharge state := by
  obtain ⟨annotated, rfl, invariant⟩ := exists_annotated
    (chargeInvariant_initial now)
    (fun _ _ invariant step => invariant.step step) reaches
  constructor
  · intro obligation first second firstBelongs secondBelongs firstCharged
      secondCharged
    exact eq_of_accepted invariant.rows invariant.accepted firstBelongs
      secondBelongs firstCharged.accepted secondCharged.accepted
  · exact invariant.started

/-- The sample payment is charge safe and ends with its token charged. -/
theorem charged_once_sample : ∃ state,
    (portal sampleConfig).replay (Machine.OnSteps ChargeSafe) samplePayment
      (.initial (World.fresh sampleNow)) = some state ∧
    state.world.payGov.Charged firstToken ∧ SingleCharge state := by
  have replayed : (((portal sampleConfig).replay (Machine.OnSteps ChargeSafe)
      samplePayment (.initial (World.fresh sampleNow))).map fun state =>
        decide (state.world.payGov.Charged firstToken)) = some true := by
    decide
  obtain ⟨state, reached, charged⟩ := Option.map_eq_some_iff.mp replayed
  exact ⟨state, reached, of_decide_eq_true charged,
    charged_once (Machine.reaches_of_replay reached)⟩

/--
The response of a completed charge is lost, the completion is sent again and
answered with a fault, and the client starts and pays a second session.
-/
def lostResponse : List PortalMove :=
  initiates 0 "A1" firstToken ++ claims 1 firstToken ++ meets 1 [
    .completed (sampleResponse "P1" .Success) (.lost ⟨"FetchError", false⟩),
    .refused (.fault (.service "Token already used" 4019)) .delivered,
    .executed [], .executed [], .executed []] ++
  initiates 2 "A2" secondToken ++ claims 3 secondToken ++ meets 3 [
    .completed (sampleResponse "P2" .Success) .delivered, .executed [],
    .executed []]

/-- Both tokens of the obligation are charged. -/
theorem charged_once_fails : ∃ state,
    Reachable sampleConfig Machine.Unrestricted sampleNow state ∧
      ¬ SingleCharge state := by
  have replayed : (((portal sampleConfig).replay Machine.Unrestricted
      lostResponse (.initial (World.fresh sampleNow))).map fun state => decide (
        BelongsTo state.world firstToken ⟨"dawson", "ref"⟩ ∧
        BelongsTo state.world secondToken ⟨"dawson", "ref"⟩ ∧
        state.world.payGov.Charged firstToken ∧
        state.world.payGov.Charged secondToken)) = some true := by
    decide
  obtain ⟨state, reached, twice⟩ := Option.map_eq_some_iff.mp replayed
  obtain ⟨firstBelongs, secondBelongs, firstCharged, secondCharged⟩ :=
    of_decide_eq_true twice
  refine ⟨state, Machine.reaches_of_replay reached, fun single => ?_⟩
  have same := single.charged _ _ _ firstBelongs secondBelongs firstCharged
    secondCharged
  exact absurd same (by decide)

end PaymentPortal.Guarantees
