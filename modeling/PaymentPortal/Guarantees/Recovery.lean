import PaymentPortal.Guarantees.SingleCharge
import PaymentPortal.Protocol.UseCases.InitAlone

/-!
# Recovery of an obligation

Some time after everybody has stopped, an `initPayment` that runs alone for an
obligation without a `pending` or `processed` row returns a session if and only
if the obligation has no `received` row.

Rows that are `initiated` or `processing` are reused or retired.  A `received`
row is covered by the unique index, but neither `initPayment` nor the sweep
looks for it; where its `initPayment` has crashed, or its failure write has been
swallowed, it blocks the obligation for good.
-/

namespace PaymentPortal.Guarantees

open PaymentPortal.Interaction
open PaymentPortal.Model
open PaymentPortal.Protocol
open PaymentPortal.Protocol.InitAlone

/-- The environment of an `initPayment` that runs alone is healthy. -/
def RunsHealthily (config : Config) (client : ClientPermission)
    (order : InitPaymentRequest) (choices : Machine.Choices Fate Drift)
    (world : World) : Prop :=
  (portal config).Meets (Healthy config.xmlFormats)
    ((portal config).program (.initPayment client order)) choices world

instance (config : Config) (client : ClientPermission)
    (order : InitPaymentRequest) (choices : Machine.Choices Fate Drift)
    (world : World) :
    Decidable (RunsHealthily config client order choices world) :=
  inferInstanceAs (Decidable (Machine.Meets _ _ _ _ _))

/-- An `initPayment` that runs alone ends with this outcome. -/
def EndsWith (config : Config) (client : ClientPermission)
    (order : InitPaymentRequest) (choices : Machine.Choices Fate Drift)
    (world : World) (outcome : Outcome) : Prop :=
  ∃ after, (portal config).runAlone
    ((portal config).program (.initPayment client order)) choices world =
      some (outcome, after)

/-- No row of the obligation has one of these statuses. -/
def HasNone (obligation : Obligation) (statuses : List TransactionStatus)
    (world : World) : Prop :=
  ∀ row ∈ world.table.rows, row.obligation = obligation →
    row.statusIn statuses = false

instance (obligation : Obligation) (statuses : List TransactionStatus)
    (world : World) : Decidable (HasNone obligation statuses world) :=
  inferInstanceAs (Decidable (∀ _ ∈ _, _ → _))

variable {config : Config} {now : Int} {state : PortalState}
variable {client : ClientPermission} {order : InitPaymentRequest}
variable {changes : List Drift} {here : World}
variable {choices : Machine.Choices Fate Drift}

/-- What ends with an outcome alone is a run in which the request arrives. -/
theorem reaches_of_endsWith {outcome : Outcome}
    (passes : (portal config).driftAll changes state.world = some here)
    (ends : EndsWith config client order choices here outcome) :
    ∃ target, (portal config).Reaches Machine.Unrestricted state target ∧
      (target.calls[state.calls.length]? >>= Call.result?) = some outcome := by
  obtain ⟨after, ran⟩ := ends
  have alive : (state.calls ++ [⟨.initPayment client order,
      some ((portal config).program (.initPayment client order))⟩])[
        state.calls.length]? =
      some ⟨.initPayment client order,
        some ((portal config).program (.initPayment client order))⟩ :=
    List.getElem?_concat_length ..
  obtain ⟨target, reached, _, finished⟩ :=
    Machine.reaches_of_runAlone ⟨here, _, state.log⟩ alive ran
  refine ⟨target, ?_, ?_⟩
  · refine (Machine.reaches_of_driftAll state passes).trans
      (Relation.ReflTransGen.head ?_ reached)
    exact ⟨.arrive (.initPayment client order), rfl, trivial⟩
  · rw [finished]
    rfl

/-- After a while the claims of a reachable state are stale. -/
theorem settled_of_reachable
    (reaches : Reachable config Machine.Unrestricted now state)
    {obligation : Obligation}
    (unpaid : HasNone obligation [.pending, .processed] state.world)
    (passes : (portal config).driftAll changes state.world = some here)
    (waited : PROCESSING_STALE_MS ≤ here.now - state.world.now) :
    Settled obligation here := by
  obtain ⟨annotated, rfl, sound⟩ := exists_sound reaches
  have drifts := drifts_of_driftAll passes
  constructor
  · intro row member isObligation
    have none := unpaid row (drifts.table ▸ member) isObligation
    simpa [Transaction.statusIn] using none
  · intro row member _ _
    have updated := (sound.rows row (drifts.table ▸ member)).updated
    omega

/-- Without a `received` row an `initPayment` alone returns a session. -/
theorem session_of_unreceived
    (reaches : Reachable config Machine.Unrestricted now state)
    (unpaid : HasNone ⟨client.clientName, order.transactionReferenceId⟩
      [.pending, .processed] state.world)
    (unreceived : HasNone ⟨client.clientName, order.transactionReferenceId⟩
      [.received] state.world)
    (passes : (portal config).driftAll changes state.world = some here)
    (waited : PROCESSING_STALE_MS ≤ here.now - state.world.now)
    (acceptable : Acceptable config here.now client order)
    (healthy : RunsHealthily config client order choices here) :
    ∃ session, EndsWith config client order choices here
      (.ok (.session session)) := by
  have drifts := drifts_of_driftAll passes
  have attains := attains_initPayment acceptable
    (settled_of_reachable reaches unpaid passes waited)
    fun row member isObligation => by
      have none := unreceived row (drifts.table ▸ member) isObligation
      simpa [Transaction.statusIn] using none
  have mapped : Attains config
      (fun _ response => ∃ session, response = Response.session session) Never
      (serve config (.initPayment client order)) here :=
    Machine.Attains.map attains fun after session _ => ⟨session, rfl⟩
  obtain ⟨outcome, after, ran, ended⟩ :=
    Machine.Achieves.runAlone mapped healthy
  rcases outcome with error | response
  · exact False.elim ended
  · obtain ⟨session, rfl⟩ := ended
    exact ⟨session, after, ran⟩

/-- With a `received` row an `initPayment` alone ends in a conflict. -/
theorem conflict_of_received
    (received : ¬ HasNone ⟨client.clientName, order.transactionReferenceId⟩
      [.received] state.world)
    (passes : (portal config).driftAll changes state.world = some here)
    (acceptable : Acceptable config here.now client order)
    (healthy : RunsHealthily config client order choices here) :
    ∃ message, EndsWith config client order choices here
      (.error (.conflict message)) := by
  obtain ⟨row, member, isObligation, isReceived⟩ :
      ∃ row ∈ state.world.table.rows,
        row.obligation = ⟨client.clientName, order.transactionReferenceId⟩ ∧
          row.transactionStatus = some .received := by
    by_contra absent
    refine received fun row member isObligation => ?_
    have other : row.transactionStatus ≠ some .received :=
      fun has => absent ⟨row, member, isObligation, has⟩
    simp [Transaction.statusIn, other]
  have drifts := drifts_of_driftAll passes
  rw [← drifts.table] at member
  have mapped : Attains config Never
      (fun _ error => ∃ message, error = .conflict message)
      (serve config (.initPayment client order)) here :=
    Machine.Attains.map
      (conflicts_initPayment acceptable member isObligation isReceived)
      fun after session impossible => impossible
  obtain ⟨outcome, after, ran, ended⟩ :=
    Machine.Achieves.runAlone mapped healthy
  rcases outcome with error | response
  · obtain ⟨message, rfl⟩ := ended
    exact ⟨message, after, ran⟩
  · exact False.elim ended

/--
Some time after any reachable state without a paid row of the obligation, an
`initPayment` that runs alone returns a session if and only if no row of the
obligation is `received`.
-/
theorem returns_session_iff
    (reaches : Reachable config Machine.Unrestricted now state)
    (unpaid : HasNone ⟨client.clientName, order.transactionReferenceId⟩
      [.pending, .processed] state.world)
    (passes : (portal config).driftAll changes state.world = some here)
    (waited : PROCESSING_STALE_MS ≤ here.now - state.world.now)
    (acceptable : Acceptable config here.now client order)
    (healthy : RunsHealthily config client order choices here) :
    (∃ session, EndsWith config client order choices here
      (.ok (.session session))) ↔
      HasNone ⟨client.clientName, order.transactionReferenceId⟩ [.received]
        state.world := by
  constructor
  · rintro ⟨session, after, ran⟩
    by_contra received
    obtain ⟨message, later, ended⟩ :=
      conflict_of_received received passes acceptable healthy
    exact absurd (ran.symm.trans ended) (by simp)
  · intro unreceived
    exact session_of_unreceived reaches unpaid unreceived passes waited
      acceptable healthy

/-- The request of the samples is acceptable as long as its fee is in effect. -/
theorem acceptable_sample {instant : Int} (later : sampleNow ≤ instant) :
    Acceptable sampleConfig instant sampleClient sampleOrder where
  authorized := rfl
  resolves := by
    intro reached after
    have active : 1727740800000 ≤ reached := le_trans (by decide)
      (later.trans after)
    simp [InitPayment.resolveFee, getActiveFee, feeDefinition, activeVersion,
      parseVersion, sampleConfig, sampleOrder, staticFees, bind, Except.bind,
      pure, Except.pure, active]

/-- The environment that meets the operations with these fates. -/
def offers (fates : List Fate) : Machine.Choices Fate Drift :=
  fun index => ([], fates.getD index .read)

/-- The world after some time. -/
def afterWaiting (ms : Nat) (world : World) : World :=
  { world with now := world.now + ms }

/-- A claimant has crashed. -/
def abandonedClaim : List PortalMove :=
  initiates 0 "A1" firstToken ++ claims 1 firstToken ++ [.crash 1]

/-- The stale claim is retired, and a new attempt is started. -/
def retiresAndStarts : Machine.Choices Fate Drift :=
  offers [.read, .executed [], .read, .read, .executed [], .executed [],
    .generated "A2", .executed [], .executed [],
    .issued secondToken .delivered, .executed []]

/-- The obligation of the crashed claimant recovers. -/
theorem returns_session_iff_sample : ∃ state session,
    Reachable sampleConfig Machine.Unrestricted sampleNow state ∧
      EndsWith sampleConfig sampleClient sampleOrder retiresAndStarts
        (afterWaiting 600000 state.world) (.ok (.session session)) := by
  have replayed : (((portal sampleConfig).replay Machine.Unrestricted
      abandonedClaim (.initial (World.fresh sampleNow))).map
        fun state => decide (
        HasNone ⟨"dawson", "ref"⟩ [.pending, .processed] state.world ∧
        HasNone ⟨"dawson", "ref"⟩ [.received] state.world ∧
        sampleNow ≤ state.world.now ∧
        RunsHealthily sampleConfig sampleClient sampleOrder retiresAndStarts
          (afterWaiting 600000 state.world))) = some true := by
    decide
  obtain ⟨state, reached, checked⟩ := Option.map_eq_some_iff.mp replayed
  obtain ⟨unpaid, unreceived, positive, healthy⟩ := of_decide_eq_true checked
  have reaches := Machine.reaches_of_replay reached
  have passes : (portal sampleConfig).driftAll [.tick 600000] state.world =
      some (afterWaiting 600000 state.world) :=
    rfl
  have acceptable : Acceptable sampleConfig
      (afterWaiting 600000 state.world).now sampleClient sampleOrder :=
    acceptable_sample (by simp only [afterWaiting]; omega)
  obtain ⟨session, ends⟩ := (returns_session_iff reaches unpaid passes
    (by simp only [afterWaiting, PROCESSING_STALE_MS]; omega) acceptable
    healthy).mpr unreceived
  exact ⟨state, session, reaches, ends⟩

/-- `initPayment` crashes right after it has inserted its row. -/
def abandonedAttempt : List PortalMove :=
  .arrive (.initPayment sampleClient sampleOrder) :: meets 0 [
    .read, .executed [], .generated "A1", .executed []] ++ [.crash 0]

/-- A second attempt is refused. -/
def refusesAttempt : Machine.Choices Fate Drift :=
  offers [.read, .executed [], .generated "A2", .executed [], .executed []]

/--
The obligation of the crashed attempt is unpaid and nobody is at work, but
however long one waits every healthy `initPayment` ends in a conflict, one a day
later among them.
-/
theorem returns_session_fails : ∃ state,
    Reachable sampleConfig Machine.Unrestricted sampleNow state ∧
      state.Quiescent ∧
      HasNone ⟨"dawson", "ref"⟩ [.pending, .processed] state.world ∧
      RunsHealthily sampleConfig sampleClient sampleOrder refusesAttempt
        (afterWaiting 86400000 state.world) ∧
      ∀ wait choices, RunsHealthily sampleConfig sampleClient sampleOrder
        choices (afterWaiting wait state.world) →
          ∃ message, EndsWith sampleConfig sampleClient sampleOrder choices
            (afterWaiting wait state.world) (.error (.conflict message)) := by
  have replayed : (((portal sampleConfig).replay Machine.Unrestricted
      abandonedAttempt (.initial (World.fresh sampleNow))).map
        fun state => decide (
        state.Quiescent ∧
        HasNone ⟨"dawson", "ref"⟩ [.pending, .processed] state.world ∧
        ¬ HasNone ⟨"dawson", "ref"⟩ [.received] state.world ∧
        sampleNow ≤ state.world.now ∧
        RunsHealthily sampleConfig sampleClient sampleOrder refusesAttempt
          (afterWaiting 86400000 state.world))) = some true := by
    decide
  obtain ⟨state, reached, checked⟩ := Option.map_eq_some_iff.mp replayed
  obtain ⟨quiescent, unpaid, received, positive, healthy⟩ :=
    of_decide_eq_true checked
  refine ⟨state, Machine.reaches_of_replay reached, quiescent, unpaid, healthy,
    ?_⟩
  intro wait choices runs
  have passes : (portal sampleConfig).driftAll [.tick wait] state.world =
      some (afterWaiting wait state.world) :=
    rfl
  refine conflict_of_received received passes (acceptable_sample ?_) runs
  simp only [afterWaiting]
  omega

end PaymentPortal.Guarantees
