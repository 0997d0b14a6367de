import PaymentPortal.Guarantees.FailedDetails
import PaymentPortal.Protocol.Conditions

/-!
# Fee invariance

All rows of one transaction reference have the same fee key, in every run in
which a new attempt names the fee key of the earliest one that is stored.  Then
the Pay.gov application that `getDetails` resolves from the earliest row is that
of the row it asks about.

The use case does not ensure this: once an attempt is no longer active,
`initPayment` records the next one under whatever fee its request names.
-/

namespace PaymentPortal.Guarantees

open PaymentPortal.Interaction
open PaymentPortal.Model
open PaymentPortal.Protocol

/-- Rows of one transaction reference have one fee key. -/
def SharedFees (rows : List Transaction) : Prop :=
  ∀ first ∈ rows, ∀ second ∈ rows,
    first.transactionReferenceId = second.transactionReferenceId →
      first.fee = second.fee

instance (rows : List Transaction) : Decidable (SharedFees rows) :=
  inferInstanceAs (Decidable (∀ _ ∈ _, ∀ _ ∈ _, _))

/--
Rows of one transaction reference have one fee key, and a query about a payment
names the Pay.gov application of the fee of its row.
-/
structure FeeInvariant (config : Config) (state : PortalState) : Prop where
  shared : SharedFees state.world.table.rows
  resolved : ∀ entry ∈ state.log, AsksDetails state entry.caller →
    ∀ tcsAppId trackingId,
      entry.op = .fetch (.getDetails tcsAppId trackingId) →
        ∀ row ∈ state.world.table.rows, row.paygovTrackingId = some trackingId →
          ∃ definition, feeDefinition config row.fee = .ok definition ∧
            definition.tcsAppId = tcsAppId

/-- The earliest attempt that is stored for a transaction reference. -/
def earliestAttempt? (table : Table) (transactionReferenceId : String) :
    Option Transaction :=
  (table.select fun row =>
    row.transactionReferenceId == transactionReferenceId).head?

/-- The attempt that the operation inserts, if it is committed. -/
def inserts? (world : World) : Op → Fate → Option ReceivedTransactionParams
  | .db (.createReceived data), fate =>
      if isCommitted fate &&
          (world.table.insert? (receivedRow world.now data)).isSome then
        some data
      else none
  | _, _ => none

/-- A new attempt names the fee key of the earliest one that is stored. -/
def KeepsFee (state : PortalState) (_ : Nat) (op : Op) (fate : Fate) : Prop :=
  ∀ data ∈ inserts? state.world op fate,
    ∀ earliest ∈ earliestAttempt? state.world.table data.transactionReferenceId,
      data.fee = earliest.fee

instance (state : PortalState) (caller : Nat) (op : Op) (fate : Fate) :
    Decidable (KeepsFee state caller op fate) :=
  inferInstanceAs (Decidable (∀ _ ∈ _, ∀ _ ∈ _, _))

variable {config : Config} {formats : XmlFormats} {before after : World}

/-! ## Shared fees -/

/-- Where rows are versions of earlier ones, they share their fees as well. -/
theorem SharedFees.of_evolves {rows later : List Transaction}
    (shared : SharedFees rows)
    (versions : ∀ row ∈ later, ∃ old ∈ rows, old.Evolves row) :
    SharedFees later := by
  intro first firstIn second secondIn sameReference
  obtain ⟨old, oldIn, evolves⟩ := versions first firstIn
  obtain ⟨other, otherIn, otherEvolves⟩ := versions second secondIn
  rw [evolves.fee_eq, otherEvolves.fee_eq]
  apply shared old oldIn other otherIn
  rw [← evolves.transactionReferenceId_eq, sameReference,
    otherEvolves.transactionReferenceId_eq]

/-- An attempt with the fee of the earliest one shares the fee of all. -/
theorem SharedFees.fee_eq {table : Table} {transactionReferenceId fee : String}
    (shared : SharedFees table.rows)
    (keeps : ∀ earliest ∈ earliestAttempt? table transactionReferenceId,
      fee = earliest.fee)
    {row : Transaction} (member : row ∈ table.rows)
    (isReference : row.transactionReferenceId = transactionReferenceId) :
    row.fee = fee := by
  have selected : row ∈ table.select fun row =>
      row.transactionReferenceId == transactionReferenceId :=
    Table.mem_select.mpr ⟨member, beq_iff_eq.mpr isReference⟩
  obtain ⟨earliest, found⟩ :=
    Option.isSome_iff_exists.mp
      (List.isSome_head?.mpr (List.ne_nil_of_mem selected))
  obtain ⟨earliestIn, sameReference⟩ :=
    Table.mem_select.mp (List.mem_of_head? found)
  rw [keeps earliest found]
  exact shared row member earliest earliestIn
    (isReference.trans (beq_iff_eq.mp sameReference).symm)

/-- An insert that has changed the table is one that was committed. -/
theorem inserts?_of_exec {data : ReceivedTransactionParams} {fate : Fate}
    {reply : Reply (.db (.createReceived data))}
    (executed : exec formats (.db (.createReceived data)) fate before =
      some (reply, after))
    (rows_eq : after.table.rows =
      before.table.rows ++ [receivedRow before.now data]) :
    inserts? before (.db (.createReceived data)) fate = some data := by
  have committed : isCommitted fate = true := by
    by_contra uncommitted
    rw [same_of_uncommitted executed (by simpa using uncommitted)] at rows_eq
    exact absurd rows_eq (by simp)
  have inserted : before.table.insert? (receivedRow before.now data) =
      some after.table := by
    rw [Table.insert?, ← rows_eq, Table.ofRows?_rows]
  rw [inserts?, if_pos (by simp [committed, inserted])]

/-- An operation of the portal keeps the fees shared. -/
theorem SharedFees.worldStep {owner : String → Prop} {op : Op} {fate : Fate}
    {reply : Reply op} (shared : SharedFees before.table.rows)
    (coherent : ∀ row ∈ before.table.rows, Coherent config before row)
    (step : WorldStep config owner (some op) before after)
    (executed : exec formats op fate before = some (reply, after))
    (keeps : ∀ data ∈ inserts? before op fate,
      ∀ earliest ∈ earliestAttempt? before.table data.transactionReferenceId,
        data.fee = earliest.fee) :
    SharedFees after.table.rows := by
  rcases step.rows with
    ⟨data, is_insert, _, rows_eq⟩ | ⟨change, rows_eq, rewrites⟩
  · obtain rfl := Option.some.inj is_insert
    have fits := keeps data (inserts?_of_exec executed rows_eq)
    rw [rows_eq]
    intro first firstIn second secondIn sameReference
    rcases List.mem_append.mp firstIn with old | new
    · rcases List.mem_append.mp secondIn with other | otherNew
      · exact shared first old second other sameReference
      · obtain rfl := List.mem_singleton.mp otherNew
        exact shared.fee_eq fits old sameReference
    · obtain rfl := List.mem_singleton.mp new
      rcases List.mem_append.mp secondIn with other | otherNew
      · exact (shared.fee_eq fits other sameReference.symm).symm
      · obtain rfl := List.mem_singleton.mp otherNew
        rfl
  · apply shared.of_evolves
    intro row member
    obtain ⟨old, oldIn, rfl⟩ := List.mem_map.mp (rows_eq ▸ member)
    refine ⟨old, oldIn, ?_⟩
    rcases rewrites old oldIn with same | ⟨statement, _, rewrite⟩
    · rw [same]
      exact .refl old
    · exact rewrite.evolves (coherent old oldIn)

/-- The invariant of the annotated run. -/
structure FeesKept (annotated : Annotated config) : Prop
    extends Sound annotated where
  shared : SharedFees annotated.state.world.table.rows

theorem feesKept_initial (now : Int) :
    FeesKept (.initial (World.fresh now) : Annotated config) where
  toSound := sound_initial now
  shared := fun first member =>
    absurd member (by simp [Phased.initial, State.initial, World.fresh,
      Table.empty])

/-- Every move that keeps the fee of a reference keeps the fees shared. -/
theorem FeesKept.step {source target : Annotated config}
    (kept : FeesKept source)
    (step : AnnotatedStep config (Machine.OnSteps KeepsFee) source target) :
    FeesKept target where
  toSound := kept.toSound.step step
  shared := by
    cases step with
    | arrive _ _ state_eq _ | crash _ _ _ _ _ _ state_eq _ =>
        rw [state_eq]
        exact kept.shared
    | perform caller fate request op next reply world stage after permitted
        running holds executed moved state_eq phases_eq =>
        rw [state_eq]
        exact kept.shared.worldStep kept.rows
          (kept.worldStep running holds executed moved) executed
          (permitted.of_running running)
    | drift change world permitted drifted state_eq phases_eq =>
        rw [state_eq, table_eq_of_drift drifted]
        exact kept.shared

theorem sharedFees_of_reaches {now : Int} {state : PortalState}
    (reaches : Reachable config (Machine.OnSteps KeepsFee) now state) :
    SharedFees state.world.table.rows := by
  obtain ⟨annotated, rfl, kept⟩ := exists_annotated (feesKept_initial now)
    (fun _ _ kept step => kept.step step) reaches
  exact kept.shared

/-! ## Queries -/

/-- A tracking id belongs to one row only. -/
theorem eq_of_trackingId {world : World}
    (coherent : ∀ row ∈ world.table.rows, Coherent config world row)
    {first second : Transaction} {trackingId : String}
    (firstIn : first ∈ world.table.rows) (secondIn : second ∈ world.table.rows)
    (firstTracked : first.paygovTrackingId = some trackingId)
    (secondTracked : second.paygovTrackingId = some trackingId) :
    first = second := by
  obtain ⟨completion, member, isId, hasToken⟩ :=
    (coherent first firstIn).completed trackingId firstTracked
  obtain ⟨other, otherIn, otherId, otherToken⟩ :=
    (coherent second secondIn).completed trackingId secondTracked
  obtain rfl := world.payGov.completion_eq_of_trackingId member otherIn
    (isId.trans otherId.symm)
  exact eq_of_token coherent firstIn secondIn hasToken otherToken

/-- A query is about a surveyed row, under the fee of the earliest of them. -/
theorem resolves_of_asked {trace : List LogEntry} {query : Query} {world : World}
    (asked : Asked config trace query)
    (known : ∀ entry ∈ trace, ∀ rows, Surveys entry rows →
      Surveyed config world rows)
    (coherent : ∀ row ∈ world.table.rows, Coherent config world row)
    (shared : SharedFees world.table.rows) {row : Transaction}
    (member : row ∈ world.table.rows)
    (tracked : row.paygovTrackingId = some query.trackingId) :
    ∃ definition, feeDefinition config row.fee = .ok definition ∧
      definition.tcsAppId = query.fee.tcsAppId := by
  obtain ⟨entry, entryIn, surveys⟩ := asked.surveyed
  have surveyed := known entry entryIn _ surveys
  obtain ⟨earliest, rest, rows_eq, resolved⟩ := asked.fits.resolved
  have earliestIn : earliest ∈ query.rows := by
    rw [rows_eq]
    exact List.mem_cons_self
  have sameReference := surveyed.reference_eq asked.fits.row_mem earliestIn
  obtain ⟨current, currentIn, evolves⟩ :=
    surveyed.exists_current asked.fits.row_mem
  obtain ⟨first, firstIn, firstEvolves⟩ := surveyed.exists_current earliestIn
  have own := evolves.trackingId _
    (paygovTrackingId_of_refreshId asked.fits.refreshed)
  obtain rfl := eq_of_trackingId coherent member currentIn tracked own
  have sameFee : row.fee = earliest.fee := by
    rw [← firstEvolves.fee_eq]
    apply shared row member first firstIn
    rw [evolves.transactionReferenceId_eq, sameReference,
      firstEvolves.transactionReferenceId_eq]
  rw [sameFee]
  exact (getActiveFee_eq_ok resolved).2

/-- What a caller has asked about a payment it has asked in its trace. -/
theorem resolved_of_reaches {allowed : PortalState → PortalMove → Prop}
    {now : Int} {state : PortalState}
    (reaches : Reachable config allowed now state)
    (shared : SharedFees state.world.table.rows) :
    FeeInvariant config state where
  shared := shared
  resolved := by
    obtain ⟨annotated, same, sound⟩ := exists_sound reaches
    have coherent := same ▸ sound.rows
    obtain ⟨phased, rfl, traced⟩ := exists_remembered reaches
    rintro entry member ⟨client, order, isDetails⟩ tcsAppId trackingId isQuery
      row rowIn tracked
    obtain ⟨call, present, isRequest⟩ := Option.map_eq_some_iff.mp isDetails
    obtain ⟨phase, holds⟩ := phased.exists_phase present
    have remembered :=
      traced.holds entry.caller call phase present holds client order isRequest
    have attempted : entry ∈ attempts (phased.state.trace entry.caller) :=
      List.mem_filter.mpr
        ⟨State.mem_trace.mpr ⟨member, rfl⟩, by rw [isAttempt, isQuery]⟩
    rcases remembered.consulted with unasked | ⟨query, asked⟩
    · rw [unasked] at attempted
      exact absurd attempted (by simp)
    · have isSoap := isQuery.symm.trans (asked.same entry attempted)
      obtain ⟨rfl, rfl⟩ := SoapRequest.getDetails.inj (Op.fetch.inj isSoap)
      refine resolves_of_asked asked ?_ coherent shared rowIn tracked
      intro survey surveyIn rows surveys
      exact surveyed_of_reaches reaches (State.mem_trace.mp surveyIn).1 surveys

/--
In every run in which `initPayment` records new attempts only under the fee key
of the earliest one stored for the transaction reference, all rows of a
reference have one fee key, and every query names the application of the fee of
the row it is about.
-/
theorem fees_invariant {now : Int} {state : PortalState}
    (reaches : Reachable config (Machine.OnSteps KeepsFee) now state) :
    FeeInvariant config state :=
  resolved_of_reaches reaches (sharedFees_of_reaches reaches)

/-- Pay.gov refuses to start a session for the first attempt. -/
def refusedAttempt : List PortalMove :=
  .arrive (.initPayment sampleClient sampleOrder) :: meets 0 [
    .read, .executed [], .generated "A1", .executed [], .executed [],
    .refused .schemaViolation .delivered, .executed [], .executed []]

/-- The second attempt is made under the same fee, and is asked about. -/
def retriedAttempt : List PortalMove :=
  refusedAttempt ++ initiates 1 "A2" firstToken ++ claims 2 firstToken ++
    meets 2 [.completed (sampleResponse "P1" .Pending) .delivered, .executed [],
      .executed []] ++ asks 3

/-- Both attempts of the sample run have one fee, which Pay.gov is asked by. -/
theorem fees_invariant_sample : ∃ state,
    (portal sampleConfig).replay (Machine.OnSteps KeepsFee) retriedAttempt
      (.initial (World.fresh sampleNow)) = some state ∧
    state.world.table.rows.map Transaction.transactionStatus =
      [some .failed, some .pending] ∧
    state.log.head?.map Entry.op =
      some (.fetch (.getDetails "USTAXCOURTPETITION" "P1")) ∧
    FeeInvariant sampleConfig state := by
  have replayed : (((portal sampleConfig).replay (Machine.OnSteps KeepsFee)
      retriedAttempt (.initial (World.fresh sampleNow))).map fun state =>
        (state.world.table.rows.map Transaction.transactionStatus,
          state.log.head?.map Entry.op)) =
      some ([some .failed, some .pending],
        some (.fetch (.getDetails "USTAXCOURTPETITION" "P1"))) := by
    decide
  obtain ⟨state, reached, found⟩ := Option.map_eq_some_iff.mp replayed
  obtain ⟨statuses, newest⟩ := Prod.mk.inj found
  exact ⟨state, reached, statuses, newest,
    fees_invariant (Machine.reaches_of_replay reached)⟩

/-- The sample order under the other fee of the source. -/
def otherOrder : InitPaymentRequest :=
  { sampleOrder with fee := "NONATTORNEY_EXAM_REGISTRATION_FEE" }

/-- The second attempt is recorded under another fee. -/
def changedAttempt : List PortalMove :=
  refusedAttempt ++ .arrive (.initPayment sampleClient otherOrder) :: meets 1 [
    .read, .executed [], .generated "A2", .executed []]

/-- Two calls of one client leave two fees under one reference. -/
theorem fees_invariant_fails : ∃ state,
    Reachable sampleConfig Machine.Unrestricted sampleNow state ∧
      state.calls.map Call.request =
        [.initPayment sampleClient sampleOrder,
          .initPayment sampleClient otherOrder] ∧
      ¬ FeeInvariant sampleConfig state := by
  have replayed : (((portal sampleConfig).replay Machine.Unrestricted
      changedAttempt (.initial (World.fresh sampleNow))).map fun state =>
        (state.calls.map Call.request,
          decide (SharedFees state.world.table.rows))) =
      some ([.initPayment sampleClient sampleOrder,
        .initPayment sampleClient otherOrder], false) := by
    decide
  obtain ⟨state, reached, found⟩ := Option.map_eq_some_iff.mp replayed
  obtain ⟨requests, unshared⟩ := Prod.mk.inj found
  refine ⟨state, Machine.reaches_of_replay reached, requests, ?_⟩
  intro invariant
  exact of_decide_eq_false unshared invariant.shared

end PaymentPortal.Guarantees
