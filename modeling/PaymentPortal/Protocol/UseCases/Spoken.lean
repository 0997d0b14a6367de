import PaymentPortal.Interaction.Contracts
import PaymentPortal.Model.Gateway
import PaymentPortal.Protocol.Changes

/-!
# What the use cases write and say

The contracts of the requests.  A new attempt is what its order asks for, at a
price that the fee has; and an error that is thrown reaches the client as one of
a few fixed sentences, or as one about the client's own order.  Whatever a
database, Pay.gov or a schema has to say is caught on the way.
-/

namespace PaymentPortal.Protocol

open PaymentPortal.Interaction
open PaymentPortal.Model

/-! ## Contracts -/

/-- The errors with which a claim is rejected. -/
def CLAIM_REJECTIONS : List PortalError := [
  .gone SIBLING_GONE_MESSAGE, .conflict ConflictError.PAYMENT_IN_FLIGHT_MESSAGE,
  .gone TOKEN_NO_LONGER_VALID_MESSAGE, .gone TOKEN_EXPIRED_MESSAGE]

/-- What the replies of the database can be relied on for. -/
def Honest : (op : Op) → Reply op → Prop
  | .db (.claimForProcessing _), .ok (.error error) => error ∈ CLAIM_REJECTIONS
  | .db (.findByReferenceId transactionReferenceId), .ok rows =>
      ∀ row ∈ rows, row.transactionReferenceId = transactionReferenceId
  | _, _ => True

/-- The attempt that is inserted is the one that was ordered. -/
structure Ordered (config : Config) (client : ClientPermission)
    (order : InitPaymentRequest) (data : ReceivedTransactionParams) : Prop where
  clientName : data.clientName = client.clientName
  transactionReferenceId :
    data.transactionReferenceId = order.transactionReferenceId
  fee : data.fee = order.fee
  metadata : data.metadata = some order.metadata
  authorized : authorizeClient client order.fee = .ok ()
  priced : ∃ now fee,
    InitPayment.resolveFee config now order.fee order.amount.isSome = .ok fee ∧
      data.transactionAmount = InitPayment.transactionAmount fee order.amount

/-- Attempts are inserted by `initPayment`, as they were ordered. -/
def MayInsert (config : Config) (request : Request) (op : Op) : Prop :=
  ∀ data, op = .db (.createReceived data) → ∃ client order,
    request = .initPayment client order ∧ Ordered config client order data

def orderContract (config : Config) (request : Request) :
    Contract Op Reply where
  relies := Honest
  permits := MayInsert config request

/-- The sentences of the use cases, with the status they are sent with. -/
def SENTENCES : List (Nat × String) := [
  (403, "Client not authorized for fee"),
  (404, "Transaction could not be found"),
  (404, "Transaction Reference Id was not found"),
  (409, ConflictError.PAYMENT_IN_FLIGHT_MESSAGE),
  (409, ConflictError.PAYMENT_IN_FLIGHT_TRANSACTION_MESSAGE),
  (409, ConflictError.ALREADY_PAID_MESSAGE),
  (409, ConflictError.PAYMENT_SETTLING_MESSAGE),
  (409, ConflictError.PERSIST_RACE_MESSAGE),
  (409, InitPayment.EXISTING_IN_FLIGHT_TRANSACTION_ERROR),
  (410, SIBLING_GONE_MESSAGE),
  (410, TOKEN_NO_LONGER_VALID_MESSAGE),
  (410, TOKEN_EXPIRED_MESSAGE),
  (500, "An unexpected error occurred while processing the request"),
  (500, "Failed to record payment session. Please retry your transaction."),
  (500, ProcessPayment.FEE_NOT_FOUND_DETAIL),
  (500, "Failed to record the payment result. Please retry the request."),
  (500, "Internal Server Error"),
  (500, GetDetails.PAYGOV_RETRY_MESSAGE),
  (502, ProcessPayment.PAYGOV_RETRY_MESSAGE),
  (504, ProcessPayment.PAYGOV_RETRY_MESSAGE),
  (504, GetDetails.PAYGOV_RETRY_MESSAGE)]

/-- The sentences about an order. -/
def ownSentences : Request → List (Nat × String)
  | .initPayment _ order => [
      (400, "Unknown fee: " ++ order.fee),
      (400, "Fee " ++ order.fee ++ " does not allow variable amounts"),
      (400, "Fee " ++ order.fee ++ " requires an amount")]
  | .getDetails _ order => [
      (500, "More than one pending transaction attempt found for reference ID " ++
        order.transactionReferenceId)]
  | .processPayment _ _ | .cancelExpiredTransactions => []

/-- The error is sent as a sentence. -/
def Speaks (request : Request) (error : PortalError) : Prop :=
  ∃ statusCode message, handleError error = ⟨statusCode, .message message⟩ ∧
    (statusCode, message) ∈ SENTENCES ++ ownSentences request

/-- The task of a request keeps to its contract and speaks if it throws. -/
abbrev Says (config : Config) (request : Request) {α : Type}
    (returns : α → Prop) (task : Async α) : Prop :=
  Abides (orderContract config request) returns (Speaks request) task

variable {config : Config} {request : Request} {α : Type}

/-- Executed operations reply honestly. -/
theorem honest_of_exec {formats : XmlFormats} {op : Op} {fate : Fate}
    {before after : World} {reply : Reply op}
    (executed : exec formats op fate before = some (reply, after)) :
    Honest op reply := by
  cases op with
  | db statement =>
      cases statement with
      | claimForProcessing token =>
          rcases reply with _ | (error | claimed)
          · trivial
          · obtain ⟨row, rejected⟩ : ∃ row, before.table.claimRejection?
                before.now token row = some error := by
              cases statementStep_of_execStatement executed with
              | returned _ _ _ _ ran =>
                  simp only [Statement.run, Table.claimForProcessing] at ran
                  split at ran
                  · exact absurd ran (by simp)
                  · split at ran
                    · rename_i row _ _ rejection found
                      obtain ⟨same, _⟩ := Prod.mk.inj (Except.ok.inj ran)
                      exact ⟨row, found.trans
                        (congrArg some (Except.error.inj same))⟩
                    · split at ran <;> exact absurd ran (by simp)
            unfold Table.claimRejection? at rejected
            dsimp only at rejected
            split_ifs at rejected <;>
              (obtain rfl := Option.some.inj rejected
               simp [Honest, CLAIM_REJECTIONS])
          · trivial
      | findByReferenceId transactionReferenceId =>
          rcases reply with _ | rows
          · trivial
          · cases statementStep_of_execStatement executed with
            | returned _ _ _ _ ran =>
                obtain ⟨rfl, _⟩ := Prod.mk.inj (Except.ok.inj ran)
                intro row member
                exact beq_iff_eq.mp (Table.mem_select.mp member).2
      | createReceived _ | updateToInitiated _ _ | findByPaygovToken _
      | findById _ | updateAfterPayGovResponse _ _
      | updateAfterPayGovResponseIf _ _ _
      | findPendingOrProcessedByReferenceId _ _
      | findByReferenceIdAndTransactionStatus _ _ _ | updateToFailed _ _ _
      | cancelExpiredBatch _ | updateToCancelled _ => trivial
  | now | pick | generateAgencyTrackingId | fetch _ => trivial

/-! ## Rules -/

section Rules

variable {returns : α → Prop} {throws : PortalError → Prop}

/-- A fixed sentence is spoken. -/
theorem speaks_of_mem {error : PortalError} (statusCode : Nat)
    {message : String} (member : (statusCode, message) ∈ SENTENCES)
    (answered : handleError error = ⟨statusCode, .message message⟩) :
    Speaks request error :=
  ⟨statusCode, message, answered, List.mem_append_left _ member⟩

theorem speaks_database (state : SqlState) :
    Speaks request (.database state) :=
  speaks_of_mem 500 (by simp [SENTENCES]) rfl

/-- A statement other than the insert of an attempt. -/
theorem abides_query {statement : Statement}
    (isOther : ∀ data, statement ≠ .createReceived data) :
    Abides (orderContract config request)
      (fun result => Honest (.db statement) (.ok result))
      (fun error => ∃ state, error = .database state) (query statement) := by
  refine Abides.operation (fun data same =>
    absurd (Op.db.inj same) (isOther data)) ?_
  rintro (state | result) honest
  · exact ⟨state, rfl⟩
  · exact honest

theorem says_query {statement : Statement}
    (isOther : ∀ data, statement ≠ .createReceived data) :
    Says config request (fun result => Honest (.db statement) (.ok result))
      (query statement) := by
  refine (abides_query isOther).mono (fun _ honest => honest) ?_
  rintro error ⟨state, rfl⟩
  exact speaks_database state

theorem abides_dateNow :
    Abides (orderContract config request) (fun _ => True) throws dateNow :=
  Abides.operation (fun data same => absurd same (by simp))
    fun now _ => trivial

/-- What is thrown inside is not said. -/
theorem abides_fetchPatched {agencyTrackingId : String} {count : Nat} :
    Abides (orderContract config request) (fun _ => True)
      (fun error => ∃ state, error = .database state)
      (TransactionModel.fetchPatched agencyTrackingId count) := by
  unfold TransactionModel.fetchPatched
  split
  · exact Abides.pure trivial
  · exact (abides_query (by simp)).mono (fun _ _ => trivial)
      fun _ same => same

theorem abides_updateToFailed {agencyTrackingId : String} {code : Option Int}
    {detail : Option String} :
    Abides (orderContract config request) (fun _ => True)
      (fun error => ∃ state, error = .database state)
      (TransactionModel.updateToFailed agencyTrackingId code detail) :=
  Abides.bind _ (abides_query (by simp)) fun _ _ => abides_fetchPatched

theorem says_updateToFailed {agencyTrackingId : String} {code : Option Int}
    {detail : Option String} :
    Says config request (fun _ => True)
      (TransactionModel.updateToFailed agencyTrackingId code detail) := by
  refine abides_updateToFailed.mono (fun _ _ => trivial) ?_
  rintro error ⟨state, rfl⟩
  exact speaks_database state

/-- `safeUpdateToFailed` throws nothing. -/
theorem abides_safeUpdateToFailed {agencyTrackingId : String}
    {code : Option Int} {detail : Option String} :
    Abides (orderContract config request) (fun _ => True) throws
      (safeUpdateToFailed agencyTrackingId code detail) :=
  Abides.tryCatch _ (Abides.bind _ abides_updateToFailed fun _ _ =>
    Abides.pure trivial)
    fun _ _ => Abides.pure trivial

/-- Pay.gov is called, whatever it answers. -/
theorem abides_postAttempts (soap : SoapRequest) (attempts : Nat) :
    Abides (orderContract config request) (fun _ => True) (fun _ => True)
      (postAttempts soap attempts) := by
  induction attempts with
  | zero => exact Abides.throw trivial
  | succ remaining ih =>
      refine Abides.bind (fun _ => True)
        (Abides.operation (fun data same => absurd same (by simp))
          fun reply _ => trivial) ?_
      rintro (error | text) _
      · dsimp only
        split
        · exact Abides.throw trivial
        · split
          · exact Abides.throw trivial
          · exact ih
      · exact Abides.pure trivial

theorem abides_rejectResponse {text : ResponseText} :
    Abides (orderContract config request) returns (fun _ => True)
      (rejectResponse text) := by
  cases text <;> exact Abides.throw trivial

/-- An unauthorized client is told so. -/
theorem says_authorizeClient {client : ClientPermission} {feeKey : String} :
    Says config request (fun _ => authorizeClient client feeKey = .ok ())
      (liftStep (authorizeClient client feeKey)) := by
  refine Abides.computed ?_
  cases authorized : authorizeClient client feeKey with
  | ok value => rfl
  | error error =>
      rw [authorizeClient] at authorized
      split at authorized
      · exact absurd authorized (by simp)
      · obtain rfl := Except.error.inj authorized
        exact speaks_of_mem 403 (by simp [SENTENCES]) rfl

end Rules

/-! ## `initPayment` -/

/-- The versions of a fee that cannot be used. -/
theorem activeVersion_eq_error {feeKey : String} {definition : FeeDefinition}
    {dateMs : Int} {error : PortalError}
    (failed : activeVersion config feeKey definition dateMs = .error error) :
    (∃ fee, error = .feeNotFound fee) ∨
      ∃ fee reason, error = .feeConfiguration fee reason := by
  unfold activeVersion at failed
  cases parsed : definition.versions.mapM (parseVersion config feeKey) with
  | error other =>
      simp only [parsed, bind, Except.bind] at failed
      obtain rfl := Except.error.inj failed
      obtain ⟨version, _, isError⟩ := exists_error_of_mapM parsed
      unfold parseVersion at isError
      split at isError
      · exact absurd isError (by simp)
      · exact .inr ⟨_, _, (Except.error.inj isError).symm⟩
  | ok versions =>
      simp only [parsed, bind, Except.bind] at failed
      split at failed
      · exact .inl ⟨_, (Except.error.inj failed).symm⟩
      · split at failed
        · exact .inr ⟨_, _, (Except.error.inj failed).symm⟩
        · exact absurd failed (by simp)

/-- A fee that does not resolve is unknown or misconfigured. -/
theorem getActiveFee_eq_error {feeKey : String} {date : Option Int}
    {error : PortalError} (failed : getActiveFee config feeKey date =
      .error error) :
    (∃ fee, error = .feeNotFound fee) ∨
      ∃ fee reason, error = .feeConfiguration fee reason := by
  cases date with
  | none =>
      obtain rfl := Except.error.inj failed
      exact .inl ⟨_, rfl⟩
  | some dateMs =>
      simp only [getActiveFee] at failed
      cases defined : feeDefinition config feeKey with
      | error other =>
          simp only [defined, bind, Except.bind] at failed
          obtain rfl := Except.error.inj failed
          unfold feeDefinition at defined
          split at defined <;> split at defined
          · exact .inr ⟨_, _, (Except.error.inj defined).symm⟩
          · exact .inl ⟨_, (Except.error.inj defined).symm⟩
          · exact .inr ⟨_, _, (Except.error.inj defined).symm⟩
          · exact absurd defined (by simp)
      | ok definition =>
          cases found : activeVersion config feeKey definition dateMs with
          | ok version =>
              simp [defined, found, bind, Except.bind] at failed
          | error other =>
              simp only [defined, found, bind, Except.bind] at failed
              obtain rfl := Except.error.inj failed
              exact activeVersion_eq_error found

section InitPayment

open PaymentPortal.Model.InitPayment

variable {client : ClientPermission} {order : InitPaymentRequest}

/-- Why the fee of an order cannot be used. -/
theorem speaks_resolveFee {now : Int} {error : PortalError}
    (failed : resolveFee config now order.fee order.amount.isSome =
      .error error) :
    Speaks (.initPayment client order) error := by
  unfold resolveFee at failed
  split at failed
  · rename_i other unresolved
    obtain rfl := Except.error.inj failed
    rcases getActiveFee_eq_error unresolved with
      ⟨fee, rfl⟩ | ⟨fee, reason, rfl⟩
    · exact ⟨400, _, rfl, List.mem_append_right _ (by simp [ownSentences])⟩
    · exact speaks_of_mem 500 (by simp [SENTENCES]) rfl
  · split at failed
    · obtain rfl := Except.error.inj failed
      refine ⟨400, _, rfl, List.mem_append_right _ ?_⟩
      split <;> simp [ownSentences]
    · exact absurd failed (by simp)

theorem says_resolveFeeForRequest :
    Says config (.initPayment client order)
      (fun fee => ∃ now,
        resolveFee config now order.fee order.amount.isSome = .ok fee)
      (resolveFeeForRequest config order.fee order.amount.isSome) := by
  refine Abides.bind _ abides_dateNow fun now _ => Abides.computed ?_
  cases resolved :
      resolveFee config now order.fee order.amount.isSome with
  | ok fee => exact ⟨now, resolved⟩
  | error error => exact speaks_resolveFee resolved

theorem says_rejectAlreadyPaidTransaction {returns : α → Prop}
    {row : Transaction} :
    Says config request returns (rejectAlreadyPaidTransaction row) := by
  unfold rejectAlreadyPaidTransaction
  split
  · exact Abides.throw (speaks_of_mem 409 (by simp [SENTENCES]) rfl)
  · exact Abides.throw (speaks_of_mem 409 (by simp [SENTENCES]) rfl)

theorem says_retire {row : Transaction} :
    Says config request (fun _ => True) (retire row) := by
  have expired : Says config request (fun _ => True)
      (readExpiredInitiated row) := by
    unfold readExpiredInitiated
    split
    · exact Abides.pure trivial
    · exact Abides.bind _ abides_dateNow fun _ _ => Abides.pure trivial
  refine Abides.bind _ expired fun value _ => ?_
  cases value with
  | true => exact Abides.bind _ (says_query (by simp)) fun _ _ =>
      Abides.pure trivial
  | false => exact Abides.bind _ says_updateToFailed fun _ _ =>
      Abides.pure trivial

theorem says_resolveInFlightTransaction {row : Transaction} {fee : ActiveFee} :
    Says config request (fun _ => True)
      (resolveInFlightTransaction config row fee) := by
  have stale : Says config request (fun _ => True)
      (readStaleProcessing row) := by
    unfold readStaleProcessing
    split
    · exact Abides.pure trivial
    · exact Abides.bind _ abides_dateNow fun _ _ => Abides.pure trivial
  refine Abides.bind _ abides_dateNow fun now _ =>
    Abides.bind _ stale fun isStale _ => ?_
  split
  · exact Abides.throw (speaks_of_mem 409 (by simp [SENTENCES]) rfl)
  · split
    · exact Abides.pure trivial
    · exact Abides.bind _ says_retire fun _ _ => Abides.pure trivial

theorem says_handleIfPaymentProcessedOrPending
    {clientName transactionReferenceId : String} {fee : ActiveFee} :
    Says config request (fun _ => True)
      (handleIfPaymentProcessedOrPending config clientName
        transactionReferenceId fee) := by
  refine Abides.bind _ (says_query (by simp)) ?_
  rintro (_ | row) _
  · exact Abides.pure trivial
  · dsimp only
    split
    · exact says_resolveInFlightTransaction
    · exact says_resolveInFlightTransaction
    · exact says_rejectAlreadyPaidTransaction
    · exact says_rejectAlreadyPaidTransaction
    · exact Abides.pure trivial

theorem says_rejectIfAlreadyPaid
    {clientName transactionReferenceId : String} :
    Says config request (fun _ => True)
      (rejectIfAlreadyPaid clientName transactionReferenceId) := by
  refine Abides.bind _ (says_query (by simp)) ?_
  rintro (_ | row) _
  · exact Abides.pure trivial
  · exact says_rejectAlreadyPaidTransaction

/-- The attempt that is inserted is the one that was ordered. -/
theorem says_recordReceivedTransaction {data : ReceivedTransactionParams}
    (ordered : Ordered config client order data) :
    Says config (.initPayment client order) (fun _ => True)
      (recordReceivedTransaction data) := by
  have inserts : Abides (orderContract config (.initPayment client order))
      (fun _ => True) (fun _ => True)
      (query (.createReceived data)) := by
    refine Abides.operation (fun other same => ?_) fun reply _ => ?_
    · obtain rfl := Statement.createReceived.inj (Op.db.inj same)
      exact ⟨client, order, rfl, ordered⟩
    · cases reply <;> trivial
  refine Abides.tryCatch (fun _ => True) (Abides.bind _ (Abides.bind _ inserts
    fun _ _ => (abides_query (by simp)).mono (fun _ _ => trivial)
      fun _ _ => trivial) fun _ _ => Abides.pure trivial) fun error _ => ?_
  split
  · exact Abides.bind _ says_rejectIfAlreadyPaid fun _ _ =>
      Abides.throw (speaks_of_mem 409 (by simp [SENTENCES]) rfl)
  · exact Abides.throw (speaks_of_mem 500 (by simp [SENTENCES]) rfl)

theorem says_startCollection {params : StartOnlineCollectionParams} :
    Says config request (fun _ => True) (startCollection params) := by
  refine Abides.tryCatch (fun _ => True)
    (Abides.bind _ (abides_postAttempts _ _) ?_) fun error _ =>
      Abides.bind _ abides_safeUpdateToFailed fun _ _ =>
        Abides.throw (speaks_of_mem 504 (by
          simp [SENTENCES, GetDetails.PAYGOV_RETRY_MESSAGE]) rfl)
  intro text _
  split
  · unfold StartOnlineCollectionRequest.checkToken
    split
    · exact Abides.pure trivial
    · exact Abides.throw trivial
  · exact abides_rejectResponse

theorem says_recordToken {agencyTrackingId token : String} :
    Says config request (fun _ => True)
      (recordToken agencyTrackingId token) :=
  Abides.tryCatch _ (Abides.bind _ (abides_query (by simp)) fun _ _ =>
    Abides.pure trivial) fun _ _ =>
      Abides.bind _ abides_safeUpdateToFailed fun _ _ =>
        Abides.throw (speaks_of_mem 500 (by simp [SENTENCES]) rfl)

/-- A new attempt is made to the order of an authorized client. -/
theorem says_startNewAttempt {now : Int} {fee : ActiveFee}
    (authorized : authorizeClient client order.fee = .ok ())
    (resolved : resolveFee config now order.fee order.amount.isSome =
      .ok fee) :
    Says config (.initPayment client order) (fun _ => True)
      (startNewAttempt config client order fee) := by
  refine Abides.bind (fun _ => True)
    (Abides.operation (fun data same => absurd same (by simp))
      fun _ _ => trivial) fun agencyTrackingId _ => ?_
  refine Abides.bind _ (says_recordReceivedTransaction {
    clientName := rfl
    transactionReferenceId := rfl
    fee := rfl
    metadata := rfl
    authorized := authorized
    priced := ⟨now, fee, resolved, rfl⟩ }) fun _ _ => ?_
  exact Abides.bind _ says_startCollection fun _ _ =>
    Abides.bind _ says_recordToken fun _ _ => Abides.pure trivial

theorem says_initPayment :
    Says config (.initPayment client order) (fun _ => True)
      (initPayment config client order) := by
  refine Abides.bind _ says_authorizeClient fun _ authorized => ?_
  refine Abides.bind _ says_resolveFeeForRequest fun fee ⟨now, resolved⟩ => ?_
  refine Abides.bind _ says_handleIfPaymentProcessedOrPending ?_
  rintro (_ | response) _
  · exact says_startNewAttempt authorized resolved
  · exact Abides.pure trivial

end InitPayment

/-! ## `processPayment` -/

section ProcessPayment

open PaymentPortal.Model.ProcessPayment

variable {client : ClientPermission} {order : ProcessPaymentRequest}

theorem says_loadAuthorizedContext :
    Says config request (fun _ => True)
      (loadAuthorizedContext config client order) := by
  refine Abides.bind _ (says_query (by simp)) ?_
  rintro (_ | row) _
  · exact Abides.throw (speaks_of_mem 404 (by simp [SENTENCES]) rfl)
  · dsimp only
    split
    · exact Abides.bind _ abides_safeUpdateToFailed fun _ _ =>
        Abides.throw (speaks_of_mem 500 (by simp [SENTENCES]) rfl)
    · exact Abides.bind _ says_authorizeClient fun _ _ => Abides.pure trivial

/-- A claim is rejected with one of four sentences, or a database error. -/
theorem says_claimProcessingTransaction {token : String} :
    Says config request (fun _ => True)
      (claimProcessingTransaction token) := by
  have missing : Speaks request
      (.notFound "Transaction could not be found") :=
    speaks_of_mem 404 (by simp [SENTENCES]) rfl
  have contended : Speaks request
      (.conflict ConflictError.PAYMENT_IN_FLIGHT_MESSAGE) :=
    speaks_of_mem 409 (by simp [SENTENCES]) rfl
  have rejected : ∀ error ∈ CLAIM_REJECTIONS, Speaks request error := by
    simp only [CLAIM_REJECTIONS, List.forall_mem_cons, List.not_mem_nil,
      IsEmpty.forall_iff, implies_true, and_true]
    exact ⟨speaks_of_mem 410 (by simp [SENTENCES]) rfl, contended,
      speaks_of_mem 410 (by simp [SENTENCES]) rfl,
      speaks_of_mem 410 (by simp [SENTENCES]) rfl⟩
  refine Abides.tryCatch (Speaks request) (Abides.bind (fun _ => True)
    (Abides.bind _ (says_query (by simp)) fun answer honest => ?_) ?_)
    fun error speaks => ?_
  · cases answer with
    | error error => exact Abides.computed (rejected error honest)
    | ok claimed => exact Abides.computed trivial
  · rintro (_ | claimed) _
    · exact Abides.throw missing
    · exact Abides.pure trivial
  · refine Abides.throw ?_
    unfold claimError
    split
    · exact contended
    · exact speaks

/-- What Pay.gov and the network say is taken as a value. -/
theorem abides_completeCollection {tcsAppId token : String} :
    Abides (orderContract config request) (fun _ => True) (Speaks request)
      (completeCollection tcsAppId token) := by
  refine Abides.tryCatch (fun _ => True) (Abides.bind (fun _ => True)
    (Abides.bind _ (abides_postAttempts _ _) fun text _ => ?_)
    fun _ _ => Abides.pure trivial) fun _ _ => Abides.pure trivial
  split
  · exact Abides.pure trivial
  · exact abides_rejectResponse

theorem says_summarize {row : Transaction} {paymentStatus : PaymentStatus} :
    Says config request (fun _ => True) (summarize row paymentStatus) :=
  Abides.bind _ (says_query (by simp)) fun _ _ => Abides.pure trivial

/-- Its text is stored, and the client is told to retry. -/
theorem says_handleCompletionError {row : Transaction} {error : PortalError} :
    Says config request (fun _ => True) (handleCompletionError row error) := by
  have retry : Says config request (fun (_ : PaymentResponse) => True) (do
      safeUpdateToFailed row.agencyTrackingId none (some COMMUNICATION_DETAIL)
      throw (.payGov PAYGOV_RETRY_MESSAGE 504)) :=
    Abides.bind _ abides_safeUpdateToFailed fun _ _ =>
      Abides.throw (speaks_of_mem 504 (by simp [SENTENCES]) rfl)
  cases error with
  | failedTransaction message code =>
      exact Abides.bind _ says_updateToFailed fun _ _ => says_summarize
  | zod =>
      exact Abides.bind _ abides_safeUpdateToFailed fun _ _ =>
        Abides.throw (speaks_of_mem 502 (by simp [SENTENCES]) rfl)
  | conflict _ | gone _ | notFound _ | forbidden _ | invalidRequest _
  | server _ | payGov _ _ | feeNotFound _ | feeConfiguration _ _
  | database _ | fetch _ | unexpected _ => exact retry

theorem says_recordResult {row : Transaction}
    {result : CompleteOnlineCollectionWithDetailsResponse} :
    Says config request (fun _ => True) (recordResult row result) := by
  refine Abides.bind (fun _ => True) (Abides.tryCatch (fun error =>
    error = .conflict ConflictError.PERSIST_RACE_MESSAGE ∨
      ∃ state, error = .database state) ?_ ?_) fun _ _ => says_summarize
  · refine Abides.bind _ ((abides_query (by simp)).mono (fun _ honest => honest)
      fun _ isDatabase => .inr isDatabase) ?_
    rintro (_ | stored) _
    · exact Abides.throw (.inl rfl)
    · exact Abides.pure trivial
  · rintro error (rfl | ⟨state, rfl⟩)
    · exact Abides.throw (speaks_of_mem 409 (by simp [SENTENCES]) rfl)
    · exact Abides.bind _ abides_safeUpdateToFailed fun _ _ =>
        Abides.throw (speaks_of_mem 500 (by simp [SENTENCES]) rfl)

theorem says_processPayment :
    Says config (.processPayment client order) (fun _ => True)
      (processPayment config client order) := by
  refine Abides.bind _ says_loadAuthorizedContext fun fee _ =>
    Abides.bind _ says_claimProcessingTransaction fun row _ =>
      Abides.bind _ abides_completeCollection ?_
  rintro (error | result) _
  · exact says_handleCompletionError
  · exact says_recordResult

end ProcessPayment

/-! ## `getDetails` -/

section GetDetails

open PaymentPortal.Model.GetDetails

variable {client : ClientPermission} {order : GetDetailsRequest}

/-- Whatever fails in a refresh, the client is told to retry. -/
theorem says_retryable {task : Async α} {returns : α → Prop}
    (keeps : Abides (orderContract config request) returns (fun _ => True)
      task) :
    Says config request returns (retryable task) :=
  Abides.tryCatch _ keeps fun _ _ =>
    Abides.throw (speaks_of_mem 500 (by simp [SENTENCES]) rfl)

theorem says_refreshRow {tcsAppId : String} {row : Transaction} :
    Says config request (fun _ => True) (refreshRow tcsAppId row) := by
  unfold refreshRow
  split
  · exact Abides.pure trivial
  · refine Abides.bind (fun _ => True) (says_retryable
      (Abides.bind _ (abides_postAttempts _ _) fun text _ => ?_))
      fun result _ => says_retryable (Abides.bind (fun _ => True) ?_
        fun _ _ => Abides.pure trivial)
    · split
      · exact Abides.pure trivial
      · exact abides_rejectResponse
    · have written : ∀ count, Abides (orderContract config request)
          (fun _ => True) (fun _ => True)
          (TransactionModel.fetchPatched row.agencyTrackingId count) :=
        fun count => abides_fetchPatched.mono (fun _ _ => trivial)
          fun _ _ => trivial
      refine Abides.bind _ ((abides_query (by simp)).mono
        (fun _ honest => honest) fun _ _ => trivial) fun count _ =>
          Abides.bind _ (written count) ?_
      rintro (_ | updated) _
      · exact Abides.throw trivial
      · exact Abides.pure trivial

/-- All rows are refreshed at once, and the first error is thrown. -/
theorem says_promiseAll {tasks : List (Async α)}
    (each : ∀ task ∈ tasks, Says config request (fun _ => True) task) :
    Says config request (fun _ => True) (promiseAll tasks) := by
  have silent : (orderContract config request).permits .pick :=
    fun data same => absurd same (by simp)
  have ended : ∀ program ∈ tasks.map ExceptT.run,
      program.Honours (orderContract config request)
        (Outcomes (fun _ => True) (Speaks request)) := by
    intro program member
    obtain ⟨task, taskIn, rfl⟩ := List.mem_map.mp member
    exact each task taskIn
  refine Program.Honours.bind (Program.Honours.gather silent ended)
    fun results ended => ?_
  change Outcomes _ _ (results.mapM id)
  cases collected : results.mapM id with
  | ok values => trivial
  | error error =>
      obtain ⟨result, member, isError⟩ := exists_error_of_mapM collected
      have spoken := ended result member
      rw [show result = .error error from isError] at spoken
      exact spoken

theorem says_updatePendingAttemptFromPayGov {rows : List Transaction}
    {tcsAppId : String} :
    Says config (.getDetails client order) (fun _ => True)
      (updatePendingAttemptFromPayGov rows order.transactionReferenceId
        tcsAppId) := by
  unfold updatePendingAttemptFromPayGov
  dsimp only
  split
  · exact Abides.throw ⟨500, _, rfl,
      List.mem_append_right _ (by simp [ownSentences])⟩
  · refine Abides.bind _ (says_promiseAll fun task member => ?_)
      fun _ _ => Abides.pure trivial
    obtain ⟨row, _, rfl⟩ := List.mem_map.mp member
    exact says_refreshRow

theorem says_getDetails :
    Says config (.getDetails client order) (fun _ => True)
      (getDetails config client order) := by
  refine Abides.bind _ (says_query (by simp)) ?_
  rintro (_ | ⟨earliest, rest⟩) honest
  · exact Abides.throw (speaks_of_mem 404 (by simp [SENTENCES]) rfl)
  · have own : earliest.transactionReferenceId =
        order.transactionReferenceId := honest earliest List.mem_cons_self
    dsimp only
    split
    · exact Abides.throw (speaks_of_mem 500 (by simp [SENTENCES]) rfl)
    · refine Abides.bind _ says_authorizeClient fun _ _ => ?_
      split
      · exact Abides.pure trivial
      · rw [own]
        exact says_updatePendingAttemptFromPayGov

end GetDetails

/-- Every request keeps to its contract. -/
theorem honours_serve :
    (serve config request).run.Honours (orderContract config request)
      (Outcomes (fun _ => True) (Speaks request)) := by
  cases request with
  | initPayment client order =>
      exact Abides.map says_initPayment fun _ _ => trivial
  | processPayment client order =>
      exact Abides.map says_processPayment fun _ _ => trivial
  | getDetails client order =>
      exact Abides.map says_getDetails fun _ _ => trivial
  | cancelExpiredTransactions =>
      have sweeps : Says config .cancelExpiredTransactions (fun _ => True)
          cancelExpiredTransactions :=
        Abides.bind _ (says_query (by simp)) fun _ _ => Abides.pure trivial
      exact Abides.map sweeps fun _ _ => trivial

/-- In every run of the portal the requests have kept to their contracts. -/
theorem honoured_of_reaches {now : Int} {state : PortalState}
    {allowed : PortalState → PortalMove → Prop}
    (reaches : (portal config).Reaches allowed (.initial (.fresh now)) state) :
    Honoured (orderContract config)
      (fun request => Outcomes (fun _ => True) (Speaks request)) state :=
  Machine.honoured_of_reaches (fun _ => honours_serve)
    (fun _ _ _ _ _ _ executed => honest_of_exec executed) reaches

end PaymentPortal.Protocol
