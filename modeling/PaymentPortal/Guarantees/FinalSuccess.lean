import PaymentPortal.Guarantees.SingleCharge
import PaymentPortal.Protocol.Acquisition

/-!
# A settled success is final

`initPayment`, `processPayment` and the sweep leave a `processed` row alone in
every run in which no failure write takes effect on a row that has become
`processed` since its caller read, inserted or claimed it.

The failure writes are keyed by the id of the row only, so the use cases do not
ensure this: of two claimants of one token the first may still mark the row
`failed` that the second has stored as `processed`.
-/

namespace PaymentPortal.Guarantees

open PaymentPortal.Interaction
open PaymentPortal.Model
open PaymentPortal.Protocol

/-- Requests other than `getDetails`. -/
def IsPaymentRequest : Request → Prop
  | .getDetails _ _ => False
  | _ => True

instance (request : Request) : Decidable (IsPaymentRequest request) :=
  match request with
  | .getDetails _ _ => inferInstanceAs (Decidable False)
  | .initPayment _ _ => inferInstanceAs (Decidable True)
  | .processPayment _ _ => inferInstanceAs (Decidable True)
  | .cancelExpiredTransactions => inferInstanceAs (Decidable True)

/-- The operation leaves both statuses of every `processed` row alone. -/
def KeepsProcessed (entry : LogEntry) : Prop :=
  ∀ row ∈ entry.before.table.rows, row.transactionStatus = some .processed →
    ∃ later ∈ entry.after.table.rows,
      later.agencyTrackingId = row.agencyTrackingId ∧
        later.transactionStatus = row.transactionStatus ∧
        later.paymentStatus = row.paymentStatus

instance (entry : LogEntry) : Decidable (KeepsProcessed entry) :=
  inferInstanceAs (Decidable (∀ _ ∈ _, _ → ∃ _ ∈ _, _))

/-- No operation of a payment request changes a `processed` row's statuses. -/
def FinalSuccess (state : PortalState) : Prop :=
  ∀ entry ∈ state.log, ∀ request ∈ requestOf? state entry.caller,
    IsPaymentRequest request → KeepsProcessed entry

instance (state : PortalState) : Decidable (FinalSuccess state) :=
  inferInstanceAs (Decidable (∀ _ ∈ _, ∀ _ ∈ _, _ → _))

/-- The table holds the row with this id as `processed`. -/
def ProcessedIn (id : String) (table : Table) : Prop :=
  ∃ row ∈ table.rows, row.agencyTrackingId = id ∧
    row.transactionStatus = some .processed

instance (id : String) (table : Table) : Decidable (ProcessedIn id table) :=
  inferInstanceAs (Decidable (∃ _ ∈ _, _))

/--
A failure write takes effect only on a row that no operation has made
`processed` since its caller acquired the row.
-/
def FinalSafe (state : PortalState) (caller : Nat) (op : Op) (fate : Fate) :
    Prop :=
  ∀ id ∈ fails? op fate, ∀ entry ∈ since (acquires caller id) state.log,
    ProcessedIn id entry.after.table → ProcessedIn id entry.before.table

instance (state : PortalState) (caller : Nat) (op : Op) (fate : Fate) :
    Decidable (FinalSafe state caller op fate) :=
  inferInstanceAs (Decidable (∀ _ ∈ _, ∀ _ ∈ _, _ → _))

variable {config : Config}

/-- The invariant of runs in which every move is final safe. -/
structure FinalInvariant (annotated : Annotated config) : Prop
    extends Recorded annotated where
  acquired : Acquired annotated
  linked : Linked World.table annotated.state.log annotated.state.world
  final : FinalSuccess annotated.state

/-- A row that is in flight is not `processed`. -/
theorem not_processedIn_of_inFlightIn {world : World} {id : String}
    (inFlight : InFlightIn world id) : ¬ ProcessedIn id world.table := by
  rintro ⟨row, member, isId, processed⟩
  obtain ⟨other, otherIn, otherId, status⟩ := inFlight
  obtain rfl := world.table.eq_of_id_eq member otherIn
    (isId.trans otherId.symm)
  exact absurd status (by simp [InFlight, processed])

/-- A loaded row whose fee does not resolve is not `processed` by now. -/
theorem resolves_of_processed {world : World} {read row : Transaction}
    (seen : Seen world read) (coherent : Coherent config world row)
    (member : row ∈ world.table.rows)
    (sameId : read.agencyTrackingId = row.agencyTrackingId)
    (processed : row.transactionStatus = some .processed) :
    FeeResolves config read := by
  have evolves := seen.evolves member sameId.symm
  exact (feeResolves_iff evolves).mp
    (coherent.resolves (.inr (coherent.tracked (.inr processed))))

variable {source : Annotated config} {caller : Nat} {fate : Fate}
variable {request : Request} {op : Op} {reply : Reply op}
variable {stage after : Stage} {world : World}

/-- A final safe failure write hits no `processed` row. -/
theorem not_processed_of_failure {id : String} {code : Option Int}
    {detail : Option String}
    {reply : Reply (.db (.updateToFailed id code detail))}
    {next : Reply (.db (.updateToFailed id code detail)) →
      Program Op Reply Outcome}
    (invariant : FinalInvariant source)
    (running : source.state.calls[caller]? =
      some ⟨request, some (.perform (.db (.updateToFailed id code detail))
        next)⟩)
    (holds : source.phases[caller]? = some stage)
    (moved : Permitted config request stage
      (.db (.updateToFailed id code detail)) reply after)
    (safe : FinalSafe source.state caller
      (.db (.updateToFailed id code detail)) fate)
    (effective : fails? (.db (.updateToFailed id code detail)) fate = some id)
    {row : Transaction} (member : row ∈ source.state.world.table.rows)
    (isId : row.agencyTrackingId = id) :
    row.transactionStatus ≠ some .processed := by
  intro processed
  have known := invariant.knows caller _ stage running holds
  rcases held_of_failure moved with
    held | ⟨read, error, rfl, sameId, unresolved⟩
  · obtain ⟨entry, found, inFlight⟩ :=
      invariant.acquired caller stage id holds held
    obtain ⟨changed, changedIn, notBefore, now⟩ :=
      invariant.linked.exists_change found
        (not_processedIn_of_inFlightIn inFlight)
        (⟨row, member, isId, processed⟩ : ProcessedIn id _)
    exact notBefore (safe id effective changed changedIn now)
  · obtain ⟨fee, resolved⟩ := resolves_of_processed known.1
      (invariant.rows row member) member (sameId.trans isId.symm) processed
    exact absurd (unresolved.symm.trans resolved) (by simp)

/-- Only `getDetails` stores an answer without a guard. -/
theorem isRefresh_of_permitted {id : String} {patch : PayGovResponsePatch}
    {reply : Reply (.db (.updateAfterPayGovResponse id patch))}
    (moved : Permitted config request stage
      (.db (.updateAfterPayGovResponse id patch)) reply after) :
    ¬ IsPaymentRequest request := by
  cases moved with
  | passive _ passive => exact False.elim passive
  | store answered => exact fun payment => payment

/-- A final safe operation of a payment request keeps `processed` rows. -/
theorem keepsProcessed_of_exec
    {next : Reply op → Program Op Reply Outcome}
    (invariant : FinalInvariant source)
    (running : source.state.calls[caller]? =
      some ⟨request, some (.perform op next)⟩)
    (holds : source.phases[caller]? = some stage)
    (executed : exec config.xmlFormats op fate source.state.world =
      some (reply, world))
    (moved : Permitted config request stage op reply after)
    (safe : FinalSafe source.state caller op fate)
    (payment : IsPaymentRequest request) :
    KeepsProcessed ⟨caller, op, reply, source.state.world, world⟩ := by
  intro row member processed
  have step := invariant.worldStep running holds executed moved
  rcases step.kept_or_rewritten member with
    kept | ⟨statement, isOp, changed, _, rewrite⟩
  · exact ⟨row, kept, rfl, rfl, rfl⟩
  obtain rfl := Option.some.inj isOp
  -- Only a failure write finds a `processed` row.
  cases rewrite with
  | activated isId owned received issued =>
      exact absurd (received.symm.trans processed) (by simp)
  | refreshed isId hasToken tracked records =>
      exact absurd payment (isRefresh_of_permitted moved)
  | stored isId hasToken processing records =>
      exact absurd (processing.symm.trans processed) (by simp)
  | claimed hasToken claimable resolves =>
      rcases claimable.status with initiated | ⟨processing, _⟩
      · exact absurd (initiated.symm.trans processed) (by simp)
      · exact absurd (processing.symm.trans processed) (by simp)
  | @failed _ id code detail isId guarded =>
      by_cases effective :
          fails? (.db (.updateToFailed id code detail)) fate = some id
      · exact absurd processed (not_processed_of_failure invariant running
          holds moved safe effective member isId)
      · obtain rfl := same_of_fails? executed effective
        exact ⟨row, member, rfl, rfl, rfl⟩
  | swept initiated expired =>
      exact absurd (initiated.symm.trans processed) (by simp)
  | cancelled isId initiated expired =>
      exact absurd (initiated.symm.trans processed) (by simp)

/-- Every final safe move keeps the invariant. -/
theorem FinalInvariant.step {target : Annotated config}
    (invariant : FinalInvariant source)
    (step : AnnotatedStep config (Machine.OnSteps FinalSafe) source target) :
    FinalInvariant target := by
  refine ⟨invariant.toRecorded.step step, invariant.acquired.step step,
    step.linked (fun _ _ _ => table_eq_of_drift) invariant.linked, ?_⟩
  intro entry member own found payment
  obtain ⟨older, logged⟩ := step.loggedBy_of_mem member
  cases logged with
  | earlier suffix =>
      have before := suffix.subset List.mem_cons_self
      rw [invariant.requestOf?_eq step before] at found
      exact invariant.final entry before own found payment
  | performed caller fate request op next reply stage after permitted running
      holds executed moved =>
      have same := requestOf?_of_running step running
      obtain rfl := Option.some.inj (same.symm.trans found)
      exact keepsProcessed_of_exec invariant running holds executed moved
        (permitted.of_running running) payment

theorem finalInvariant_initial (now : Int) :
    FinalInvariant (.initial (World.fresh now) : Annotated config) where
  toRecorded := recorded_initial now
  acquired := acquired_initial _
  linked := trivial
  final := fun entry member =>
    absurd member (by simp [Phased.initial, State.initial])

/--
In every run of final safe moves no `initPayment`, `processPayment` or sweep
changes the statuses of a row that is `processed`.
-/
theorem processed_final {now : Int} {state : PortalState}
    (reaches : Reachable config (Machine.OnSteps FinalSafe) now state) :
    FinalSuccess state := by
  obtain ⟨annotated, rfl, invariant⟩ := exists_annotated
    (finalInvariant_initial now) (fun _ _ invariant step => invariant.step step)
    reaches
  exact invariant.final

/-- In the sample payment the row becomes `processed`. -/
theorem processed_final_sample : ∃ state,
    (portal sampleConfig).replay (Machine.OnSteps FinalSafe) samplePayment
      (.initial (World.fresh sampleNow)) = some state ∧
    ProcessedIn "A1" state.world.table ∧ FinalSuccess state := by
  have replayed : (((portal sampleConfig).replay (Machine.OnSteps FinalSafe)
      samplePayment (.initial (World.fresh sampleNow))).map fun state =>
        decide (ProcessedIn "A1" state.world.table)) = some true := by
    decide
  obtain ⟨state, reached, processed⟩ := Option.map_eq_some_iff.mp replayed
  exact ⟨state, reached, of_decide_eq_true processed,
    processed_final (Machine.reaches_of_replay reached)⟩

/--
The claim of a slow caller becomes stale, a second caller claims the token and
stores its success, and then the slow caller's completion is answered with a
fault.
-/
def slowClaimant : List PortalMove :=
  initiates 0 "A1" firstToken ++ claims 1 firstToken ++
    [.drift (.tick 600000)] ++ claims 2 firstToken ++ meets 2 [
    .completed (sampleResponse "P1" .Success) .delivered, .executed [],
    .executed []] ++ meets 1 [
    .refused (.fault (.service "Token already used" 4019)) .delivered,
    .executed []]

/-- The slow caller marks the `processed` row `failed`. -/
theorem processed_final_fails : ∃ state,
    Reachable sampleConfig Machine.Unrestricted sampleNow state ∧
      ¬ FinalSuccess state := by
  have replayed : (((portal sampleConfig).replay Machine.Unrestricted
      slowClaimant (.initial (World.fresh sampleNow))).map fun state =>
        decide (FinalSuccess state)) = some false := by
    decide
  obtain ⟨state, reached, broken⟩ := Option.map_eq_some_iff.mp replayed
  exact ⟨state, Machine.reaches_of_replay reached, of_decide_eq_false broken⟩

end PaymentPortal.Guarantees
