import PaymentPortal.Interaction.Throwing
import PaymentPortal.Model.Portal

/-!
# Stages of a request

The use cases as automata.  A stage is what a running request has learnt that
its later writes depend on: the row it has read, the token it has been given,
the answer it is about to store.  `Permitted` lists for each stage the
operations a request of each kind may perform and the stage after each reply;
the modules under `UseCases` prove that the use cases perform nothing else.
While a row is weighed, the stage keeps the readings of the clock, newest first.
-/

namespace PaymentPortal.Protocol

open PaymentPortal.Interaction
open PaymentPortal.Model

/-- What a running request knows. -/
inductive Stage where
  | reading
  | weighing (row : Transaction) (clocks : List Int)
  | collecting (data : ReceivedTransactionParams)
  | activating (data : ReceivedTransactionParams) (token : String)
  | abandoning (data : ReceivedTransactionParams)
  | loaded (row : Transaction)
  | completing (row : Transaction)
  | persisting (row : Transaction)
      (result : CompleteOnlineCollectionWithDetailsResponse)
  | failing (row : Transaction)
  | outrun
  | refreshing (rows : List Transaction)
      (answers : List (Transaction × PayGovGetDetailsTransaction))
  | closing
  | stopped

namespace Stage

/-- The request may still perform operations. -/
def IsRunning : Stage → Prop
  | .stopped => False
  | _ => True

/-- The stage after a write that the request does not outlive if it fails. -/
def unlessFailed (next : Stage) : Except SqlState Nat → Stage
  | .ok _ => next
  | .error _ => .stopped

/-- The attempt that the request has inserted and not yet let go of. -/
def owned? : Stage → Option ReceivedTransactionParams
  | .collecting data => some data
  | .activating data _ => some data
  | .abandoning data => some data
  | _ => none

/-- The attempt that the request has claimed and not yet let go of. -/
def claimed? : Stage → Option Transaction
  | .completing row => some row
  | .persisting row _ => some row
  | .failing row => some row
  | _ => none

@[simp]
theorem owned?_unlessFailed {next : Stage} (unowned : next.owned? = none)
    (result : Except SqlState Nat) :
    (next.unlessFailed result).owned? = none := by
  cases result with
  | error error => rfl
  | ok count => exact unowned

@[simp]
theorem claimed?_unlessFailed {next : Stage} (unclaimed : next.claimed? = none)
    (result : Except SqlState Nat) :
    (next.unlessFailed result).claimed? = none := by
  cases result with
  | error error => rfl
  | ok count => exact unclaimed

/--
Refreshes of several rows of one request run concurrently, so the answers seen
by one of them may have been joined by others.  Other stages do not change by
themselves.
-/
inductive Grows : Stage → Stage → Prop where
  | refl (stage : Stage) : Grows stage stage
  | answered {rows : List Transaction}
      {answers later : List (Transaction × PayGovGetDetailsTransaction)}
      (kept : answers ⊆ later) :
      Grows (.refreshing rows answers) (.refreshing rows later)

/-- Only one operation of the request is awaited at a time. -/
def IsSolitary : Stage → Prop
  | .refreshing .. => False
  | _ => True

@[simp]
theorem grows_iff (stage : Stage) {later : Stage}
    (solitary : stage.IsSolitary) :
    Grows stage later ↔ later = stage := by
  constructor
  · rintro (_ | _)
    · rfl
    · exact absurd solitary id
  · rintro rfl
    exact .refl _

theorem Grows.trans {first second third : Stage} (earlier : Grows first second)
    (later : Grows second third) : Grows first third := by
  cases earlier with
  | refl => exact later
  | answered kept =>
      cases later with
      | refl => exact .answered kept
      | answered further => exact .answered (List.Subset.trans kept further)

end Stage

/-- Operations that change nothing and that no write relies on. -/
def IsPassive : Op → Prop
  | .now => True
  | .pick => True
  | .generateAgencyTrackingId => True
  | .db (.findById _) => True
  | .db (.findByReferenceId _) => True
  | .db (.findPendingOrProcessedByReferenceId ..) => True
  | _ => False

/-- The columns of a new attempt are those of its request. -/
structure Fits (client : ClientPermission) (order : InitPaymentRequest)
    (data : ReceivedTransactionParams) : Prop where
  clientName : data.clientName = client.clientName
  transactionReferenceId :
    data.transactionReferenceId = order.transactionReferenceId
  fee : data.fee = order.fee

/-- The statuses `handleIfPaymentProcessedOrPending` looks for. -/
def IN_FLIGHT_OR_PAID : List TransactionStatus :=
  [.initiated, .processing, .pending, .processed]

/-- The claim of the row was stale at one of the readings. -/
def ReadAsStale (row : Transaction) (clocks : List Int) : Prop :=
  row.transactionStatus = some .processing ∧
    ∃ clock ∈ clocks, PROCESSING_STALE_MS ≤ clock - row.lastUpdatedAt

/--
Why `initPayment` may mark the row it has read `failed`: its session was not to
be reused at the first reading and not expired at the second, or its claim was
stale.
-/
def RetiredAsDead (row : Transaction) (clocks : List Int) : Prop :=
  (row.transactionStatus = some .initiated ∧ ∃ first second,
    clocks = [second, first] ∧
      InitPayment.reusableToken first false row = none ∧
      second - row.createdAt ≤ MAX_TOKEN_AGE_MS) ∨
  ReadAsStale row clocks

/-- The operations of a request, with the stages they lead through. -/
inductive Permitted (config : Config) :
    Request → Stage → (op : Op) → Reply op → Stage → Prop where
  | passive {request : Request} {stage : Stage} {op : Op} {reply : Reply op}
      (running : stage.IsRunning) (passive : IsPassive op) :
      Permitted config request stage op reply stage
  -- `initPayment`: the lookup and the retirement of what it finds.
  | look {client : ClientPermission} {order : InitPaymentRequest}
      {row : Transaction}
      (inFlight : row.transactionStatus = some .initiated ∨
        row.transactionStatus = some .processing) :
      Permitted config (.initPayment client order) .reading
        (.db (.findByReferenceIdAndTransactionStatus client.clientName
          order.transactionReferenceId IN_FLIGHT_OR_PAID))
        (.ok (some row)) (.weighing row [])
  | lookMissed {client : ClientPermission} {order : InitPaymentRequest}
      {reply : Reply (.db (.findByReferenceIdAndTransactionStatus
        client.clientName order.transactionReferenceId IN_FLIGHT_OR_PAID))} :
      Permitted config (.initPayment client order) .reading
        (.db (.findByReferenceIdAndTransactionStatus client.clientName
          order.transactionReferenceId IN_FLIGHT_OR_PAID))
        reply .reading
  | clock {request : Request} {row : Transaction} {clocks : List Int}
      {now : Int} :
      Permitted config request (.weighing row clocks) .now now
        (.weighing row (now :: clocks))
  | cancel {client : ClientPermission} {order : InitPaymentRequest}
      {row : Transaction} {clocks : List Int} {clock : Int}
      {reply : Reply (.db (.updateToCancelled row.agencyTrackingId))}
      (initiated : row.transactionStatus = some .initiated)
      (read : clock ∈ clocks)
      (expired : MAX_TOKEN_AGE_MS < clock - row.createdAt) :
      Permitted config (.initPayment client order) (.weighing row clocks)
        (.db (.updateToCancelled row.agencyTrackingId)) reply .reading
  | retire {client : ClientPermission} {order : InitPaymentRequest}
      {row : Transaction} {clocks : List Int}
      {reply : Reply (.db (.updateToFailed row.agencyTrackingId
        (some EXISTING_TOKEN_ERROR_CODE)
        (some EXISTING_TOKEN_RETURN_DETAIL)))}
      (dead : RetiredAsDead row clocks) :
      Permitted config (.initPayment client order) (.weighing row clocks)
        (.db (.updateToFailed row.agencyTrackingId
          (some EXISTING_TOKEN_ERROR_CODE)
          (some EXISTING_TOKEN_RETURN_DETAIL))) reply
        (Stage.reading.unlessFailed reply)
  -- `initPayment`: the new attempt.
  | insert {client : ClientPermission} {order : InitPaymentRequest}
      {data : ReceivedTransactionParams} (fits : Fits client order data) :
      Permitted config (.initPayment client order) .reading
        (.db (.createReceived data)) (.ok ()) (.collecting data)
  | insertFailed {client : ClientPermission} {order : InitPaymentRequest}
      {data : ReceivedTransactionParams} {error : SqlState}
      (fits : Fits client order data) :
      Permitted config (.initPayment client order) .reading
        (.db (.createReceived data)) (.error error) .reading
  | start {client : ClientPermission} {order : InitPaymentRequest}
      {data : ReceivedTransactionParams}
      {params : StartOnlineCollectionParams} {token : String}
      (own : params.agency_tracking_id = data.agencyTrackingId) :
      Permitted config (.initPayment client order) (.collecting data)
        (.fetch (.startOnlineCollection params))
        (.ok (.startOnlineCollectionResponse token)) (.activating data token)
  | startUnanswered {client : ClientPermission} {order : InitPaymentRequest}
      {data : ReceivedTransactionParams}
      {params : StartOnlineCollectionParams}
      {reply : Reply (.fetch (.startOnlineCollection params))}
      (own : params.agency_tracking_id = data.agencyTrackingId) :
      Permitted config (.initPayment client order) (.collecting data)
        (.fetch (.startOnlineCollection params)) reply (.collecting data)
  | activate {client : ClientPermission} {order : InitPaymentRequest}
      {data : ReceivedTransactionParams} {token : String} {count : Nat}
      (valid : token.length = 32) :
      Permitted config (.initPayment client order) (.activating data token)
        (.db (.updateToInitiated data.agencyTrackingId token))
        (.ok count) .reading
  | activateFailed {client : ClientPermission} {order : InitPaymentRequest}
      {data : ReceivedTransactionParams} {token : String} {error : SqlState}
      (valid : token.length = 32) :
      Permitted config (.initPayment client order) (.activating data token)
        (.db (.updateToInitiated data.agencyTrackingId token))
        (.error error) (.abandoning data)
  | abandon {client : ClientPermission} {order : InitPaymentRequest}
      {stage : Stage} {data : ReceivedTransactionParams}
      {detail : Option String}
      {reply : Reply (.db (.updateToFailed data.agencyTrackingId none detail))}
      (owned : stage.owned? = some data) :
      Permitted config (.initPayment client order) stage
        (.db (.updateToFailed data.agencyTrackingId none detail))
        reply (Stage.closing.unlessFailed reply)
  -- `processPayment`.
  | load {client : ClientPermission} {order : ProcessPaymentRequest}
      {row : Transaction} :
      Permitted config (.processPayment client order) .reading
        (.db (.findByPaygovToken order.token)) (.ok (some row)) (.loaded row)
  | loadMissed {client : ClientPermission} {order : ProcessPaymentRequest}
      {reply : Reply (.db (.findByPaygovToken order.token))} :
      Permitted config (.processPayment client order) .reading
        (.db (.findByPaygovToken order.token)) reply .reading
  | failFee {client : ClientPermission} {order : ProcessPaymentRequest}
      {row : Transaction} {error : PortalError} {detail : Option String}
      {reply : Reply (.db (.updateToFailed row.agencyTrackingId none detail))}
      (unresolved :
        getActiveFee config row.fee (some row.createdAt) = .error error) :
      Permitted config (.processPayment client order) (.loaded row)
        (.db (.updateToFailed row.agencyTrackingId none detail))
        reply (Stage.closing.unlessFailed reply)
  | claim {client : ClientPermission} {order : ProcessPaymentRequest}
      {row claimed : Transaction} {fee : ActiveFee}
      (resolved : getActiveFee config row.fee (some row.createdAt) = .ok fee) :
      Permitted config (.processPayment client order) (.loaded row)
        (.db (.claimForProcessing order.token))
        (.ok (.ok (some claimed))) (.completing claimed)
  | claimFailed {client : ClientPermission} {order : ProcessPaymentRequest}
      {row : Transaction} {fee : ActiveFee}
      {reply : Reply (.db (.claimForProcessing order.token))}
      (resolved : getActiveFee config row.fee (some row.createdAt) = .ok fee)
      (missed : ∀ claimed, reply ≠ .ok (.ok (some claimed))) :
      Permitted config (.processPayment client order) (.loaded row)
        (.db (.claimForProcessing order.token)) reply .stopped
  | complete {client : ClientPermission} {order : ProcessPaymentRequest}
      {row : Transaction} {tcsAppId : String}
      {result : CompleteOnlineCollectionWithDetailsResponse} :
      Permitted config (.processPayment client order) (.completing row)
        (.fetch (.completeOnlineCollectionWithDetails tcsAppId order.token))
        (.ok (.completeOnlineCollectionWithDetailsResponse result))
        (.persisting row result)
  | completeUnanswered {client : ClientPermission}
      {order : ProcessPaymentRequest} {row : Transaction} {tcsAppId : String}
      {reply : Reply (.fetch
        (.completeOnlineCollectionWithDetails tcsAppId order.token))}
      (missed : ∀ result,
        reply ≠ .ok (.completeOnlineCollectionWithDetailsResponse result)) :
      Permitted config (.processPayment client order) (.completing row)
        (.fetch (.completeOnlineCollectionWithDetails tcsAppId order.token))
        reply (.completing row)
  | markFailed {client : ClientPermission} {order : ProcessPaymentRequest}
      {row : Transaction} {code : Option Int} {detail : Option String}
      {reply : Reply (.db (.updateToFailed row.agencyTrackingId code detail))} :
      Permitted config (.processPayment client order) (.completing row)
        (.db (.updateToFailed row.agencyTrackingId code detail))
        reply (Stage.closing.unlessFailed reply)
  | persist {client : ClientPermission} {order : ProcessPaymentRequest}
      {row stored : Transaction}
      {result : CompleteOnlineCollectionWithDetailsResponse} :
      Permitted config (.processPayment client order) (.persisting row result)
        (.db (.updateAfterPayGovResponseIf row.agencyTrackingId
          (ProcessPayment.responsePatch result) .processing))
        (.ok (some stored)) .closing
  | outrun {client : ClientPermission} {order : ProcessPaymentRequest}
      {row : Transaction}
      {result : CompleteOnlineCollectionWithDetailsResponse} :
      Permitted config (.processPayment client order) (.persisting row result)
        (.db (.updateAfterPayGovResponseIf row.agencyTrackingId
          (ProcessPayment.responsePatch result) .processing))
        (.ok none) .outrun
  | persistFailed {client : ClientPermission} {order : ProcessPaymentRequest}
      {row : Transaction}
      {result : CompleteOnlineCollectionWithDetailsResponse}
      {error : SqlState} :
      Permitted config (.processPayment client order) (.persisting row result)
        (.db (.updateAfterPayGovResponseIf row.agencyTrackingId
          (ProcessPayment.responsePatch result) .processing))
        (.error error) (.failing row)
  | markUnrecorded {client : ClientPermission} {order : ProcessPaymentRequest}
      {row : Transaction} {detail : Option String}
      {reply : Reply (.db (.updateToFailed row.agencyTrackingId none detail))} :
      Permitted config (.processPayment client order) (.failing row)
        (.db (.updateToFailed row.agencyTrackingId none detail))
        reply (Stage.closing.unlessFailed reply)
  -- `getDetails`.
  | survey {client : ClientPermission} {order : GetDetailsRequest}
      {rows : List Transaction} :
      Permitted config (.getDetails client order) .reading
        (.db (.findByReferenceId order.transactionReferenceId)) (.ok rows)
        (.refreshing rows [])
  | answer {client : ClientPermission} {order : GetDetailsRequest}
      {rows : List Transaction}
      {answers : List (Transaction × PayGovGetDetailsTransaction)}
      {row : Transaction} {tcsAppId trackingId : String}
      {result : PayGovGetDetailsTransaction}
      (surveyed : row ∈ rows)
      (refreshed : GetDetails.refreshId row = some trackingId) :
      Permitted config (.getDetails client order) (.refreshing rows answers)
        (.fetch (.getDetails tcsAppId trackingId))
        (.ok (.getDetailsResponse result))
        (.refreshing rows ((row, result) :: answers))
  | unanswered {client : ClientPermission} {order : GetDetailsRequest}
      {rows : List Transaction}
      {answers : List (Transaction × PayGovGetDetailsTransaction)}
      {row : Transaction} {tcsAppId trackingId : String}
      {reply : Reply (.fetch (.getDetails tcsAppId trackingId))}
      (surveyed : row ∈ rows)
      (refreshed : GetDetails.refreshId row = some trackingId) :
      Permitted config (.getDetails client order) (.refreshing rows answers)
        (.fetch (.getDetails tcsAppId trackingId)) reply
        (.refreshing rows answers)
  | store {client : ClientPermission} {order : GetDetailsRequest}
      {rows : List Transaction}
      {answers : List (Transaction × PayGovGetDetailsTransaction)}
      {row : Transaction} {result : PayGovGetDetailsTransaction}
      {reply : Reply (.db (.updateAfterPayGovResponse row.agencyTrackingId
        (GetDetails.refreshPatch row result)))}
      (answered : (row, result) ∈ answers) :
      Permitted config (.getDetails client order) (.refreshing rows answers)
        (.db (.updateAfterPayGovResponse row.agencyTrackingId
          (GetDetails.refreshPatch row result))) reply
        (.refreshing rows answers)
  -- `cancelExpiredTransactions`.
  | sweep {reply : Reply (.db (.cancelExpiredBatch
        CANCEL_SWEEP_BATCH_SIZE))} :
      Permitted config .cancelExpiredTransactions .reading
        (.db (.cancelExpiredBatch CANCEL_SWEEP_BATCH_SIZE)) reply .reading

/-- The discipline of one request. -/
def discipline (config : Config) (request : Request) :
    Discipline Op Reply Stage where
  step := Permitted config request
  grows := Stage.Grows
  grows_refl := .refl
  grows_trans := .trans

/--
How a request may end: never while it has still to record what came of its
claim, and with a conflict where its guarded write matched no row.
-/
def finish (_ : Request) : Stage → Outcome → Prop
  | .completing _, _ => False
  | .persisting _ _, _ => False
  | .failing _, _ => False
  | .outrun, outcome =>
      outcome = .error (.conflict ConflictError.PERSIST_RACE_MESSAGE)
  | _, _ => True

/-- Whether a request may end in a stage does not change with the stage. -/
theorem finish_of_grows {request : Request} (stage : Stage) {later : Stage}
    {outcome : Outcome} (ends : finish request stage outcome)
    (grown : Stage.Grows stage later) : finish request later outcome := by
  cases grown with
  | refl => exact ends
  | answered kept => trivial

end PaymentPortal.Protocol
