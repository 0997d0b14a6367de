import PaymentPortal.Interaction.Budget
import PaymentPortal.Model.Portal

/-!
# The work of a request

What the use cases may spend at any rates for the clock, the statements, the
transaction of a claim and the HTTP attempts.  The refresh of `getDetails` is
paid for by the rows its query returns; the other use cases have a fixed budget.
The scheduler of `Promise.all` is free: it awaits nothing.
-/

namespace PaymentPortal.Protocol

open PaymentPortal.Interaction
open PaymentPortal.Model
open PaymentPortal.Model.InitPayment
open PaymentPortal.Model.ProcessPayment
open PaymentPortal.Model.GetDetails

/-- The rows that `getDetails` is answered with by its first query. -/
def rowsRead : (op : Op) → Reply op → List Transaction
  | .db (.findByReferenceId _), .ok rows => rows
  | _, _ => []

/--
The rates for a local step, a statement, the transaction of a claim and an HTTP
attempt.
-/
structure Rates where
  step : Nat
  statement : Nat
  claim : Nat
  attempt : Nat

namespace Rates

variable (rates : Rates)

/-- A claim is a transaction of several statements. -/
def price : Statement → Nat
  | .claimForProcessing _ => rates.claim
  | _ => rates.statement

/-- What an operation costs at these rates. -/
def cost : Op → Nat
  | .now => rates.step
  | .pick => 0
  | .generateAgencyTrackingId => rates.step
  | .db statement => rates.price statement
  | .fetch _ => rates.attempt

/-- What the refresh of one row may spend. -/
def refresh (row : Transaction) : Nat :=
  if (refreshId row).isSome then
    PAYGOV_MAX_ATTEMPTS * rates.attempt + 2 * rates.statement
  else 0

/-- The rows of a reference id grant what their refresh may spend. -/
def refreshes (op : Op) (reply : Reply op) : Nat :=
  ((rowsRead op reply).map rates.refresh).sum

/-- Only `getDetails` is paid for by the rows it reads. -/
def tariff : Request → Tariff Op Reply
  | .getDetails .. => ⟨rates.cost, rates.refreshes⟩
  | _ => ⟨rates.cost, fun _ _ => 0⟩

/-- What a request may spend whatever it reads. -/
def allowance : Request → Nat
  | .initPayment .. => 4 * rates.step + 8 * rates.statement +
      PAYGOV_MAX_ATTEMPTS * rates.attempt
  | .processPayment .. => rates.claim + 4 * rates.statement +
      PAYGOV_MAX_ATTEMPTS * rates.attempt
  | .getDetails .. => rates.statement
  | .cancelExpiredTransactions => rates.statement

/-- At given rates all rows with a tracking id cost the same. -/
theorem sum_refresh (rows : List Transaction) :
    (rows.map rates.refresh).sum =
      rows.countP (fun row => (refreshId row).isSome) *
        (PAYGOV_MAX_ATTEMPTS * rates.attempt + 2 * rates.statement) := by
  induction rows with
  | nil => simp
  | cons row rest ih =>
      rw [List.map_cons, List.sum_cons, ih, List.countP_cons, refresh]
      split
      · exact (Nat.add_comm _ _).trans (Nat.add_one_mul _ _).symm
      · simp

end Rates

/-! ## The operations -/

section Operations

variable {rates : Rates} {grant : (op : Op) → Reply op → Nat}
variable {budget returned thrown : Nat}

theorem affords_dateNow (enough : rates.step + returned ≤ budget)
    (enoughThrown : rates.step + thrown ≤ budget) :
    Affords ⟨rates.cost, grant⟩ returned thrown dateNow budget :=
  Affords.operation enough enoughThrown

theorem affords_generateAgencyTrackingId
    (enough : rates.step + returned ≤ budget)
    (enoughThrown : rates.step + thrown ≤ budget) :
    Affords ⟨rates.cost, grant⟩ returned thrown generateAgencyTrackingId
      budget :=
  Affords.operation enough enoughThrown

theorem affords_query {statement : Statement}
    (single : rates.price statement = rates.statement)
    (enough : rates.statement + returned ≤ budget)
    (enoughThrown : rates.statement + thrown ≤ budget) :
    Affords ⟨rates.cost, grant⟩ returned thrown (query statement) budget := by
  refine Affords.operation ?_ ?_ <;> simpa only [Rates.cost, single]

theorem affords_claim {token : String}
    (enough : rates.claim + returned ≤ budget)
    (enoughThrown : rates.claim + thrown ≤ budget) :
    Affords ⟨rates.cost, grant⟩ returned thrown
      (query (.claimForProcessing token)) budget :=
  Affords.operation enough enoughThrown

theorem affords_fetch {request : SoapRequest}
    (enough : rates.attempt + returned ≤ budget)
    (enoughThrown : rates.attempt + thrown ≤ budget) :
    Affords ⟨rates.cost, grant⟩ returned thrown (fetch request) budget :=
  Affords.operation enough enoughThrown

theorem affords_liftStep {α : Type} {step : Except PortalError α}
    (enough : returned ≤ budget) (enoughThrown : thrown ≤ budget) :
    Affords ⟨rates.cost, grant⟩ returned thrown (liftStep step) budget :=
  Affords.computed enough enoughThrown

/-- The loop makes at most as many attempts as it has left. -/
theorem affords_postAttempts (request : SoapRequest) (attempts : Nat)
    (enough : attempts * rates.attempt + returned ≤ budget)
    (enoughThrown : attempts * rates.attempt + thrown ≤ budget) :
    Affords ⟨rates.cost, grant⟩ returned thrown (postAttempts request attempts)
      budget := by
  induction attempts generalizing budget with
  | zero => exact Affords.throw (by omega)
  | succ remaining ih =>
      rw [Nat.add_one_mul] at enough enoughThrown
      refine Affords.bind (budget - rates.attempt)
        (affords_fetch (by omega) (by omega)) ?_
      rintro (error | text)
      · dsimp only
        split
        · exact Affords.throw (by omega)
        · split
          · exact Affords.throw (by omega)
          · exact ih (by omega) (by omega)
      · exact Affords.pure (by omega)

theorem affords_postHttpRequest (request : SoapRequest)
    (enough : PAYGOV_MAX_ATTEMPTS * rates.attempt + returned ≤ budget)
    (enoughThrown : PAYGOV_MAX_ATTEMPTS * rates.attempt + thrown ≤ budget) :
    Affords ⟨rates.cost, grant⟩ returned thrown (postHttpRequest request)
      budget :=
  affords_postAttempts request PAYGOV_MAX_ATTEMPTS enough enoughThrown

theorem affords_rejectResponse {α : Type} (text : ResponseText)
    (enough : thrown ≤ budget) :
    Affords ⟨rates.cost, grant⟩ returned thrown
      (rejectResponse text : Async α) budget := by
  unfold rejectResponse
  split <;> exact Affords.throw enough

end Operations

/-! ## The functions of the use cases -/

section Functions

variable {rates : Rates} {grant : (op : Op) → Reply op → Nat}
variable {budget returned thrown : Nat}

theorem affords_fetchPatched (id : String) (updated : Nat)
    (enough : rates.statement + returned ≤ budget)
    (enoughThrown : rates.statement + thrown ≤ budget) :
    Affords ⟨rates.cost, grant⟩ returned thrown
      (TransactionModel.fetchPatched id updated) budget := by
  unfold TransactionModel.fetchPatched
  split
  · exact Affords.pure (by omega)
  · exact affords_query rfl enough enoughThrown

theorem affords_updateToFailed (id : String) (code : Option Int)
    (detail : Option String)
    (enough : 2 * rates.statement + returned ≤ budget)
    (enoughThrown : 2 * rates.statement + thrown ≤ budget) :
    Affords ⟨rates.cost, grant⟩ returned thrown
      (TransactionModel.updateToFailed id code detail) budget :=
  Affords.bind (budget - rates.statement)
    (affords_query rfl (by omega) (by omega)) fun count =>
      affords_fetchPatched id count (by omega) (by omega)

/-- A failing update costs no more than one that succeeds. -/
theorem affords_safeUpdateToFailed (id : String) (code : Option Int)
    (detail : Option String)
    (enough : 2 * rates.statement + returned ≤ budget) :
    Affords ⟨rates.cost, grant⟩ returned thrown
      (safeUpdateToFailed id code detail) budget := by
  refine Affords.tryCatch returned ?_ fun error =>
    Affords.pure (Nat.le_refl returned)
  exact Affords.bind returned
    (affords_updateToFailed id code detail enough enough) fun _ =>
      Affords.pure (Nat.le_refl returned)

/-- A cleanup that ends with an error. -/
theorem affords_failWith {α : Type} (id : String) (code : Option Int)
    (detail : Option String) (error : PortalError)
    (enough : 2 * rates.statement + thrown ≤ budget) :
    Affords ⟨rates.cost, grant⟩ returned thrown
      (do safeUpdateToFailed id code detail; throw error : Async α) budget :=
  Affords.bind thrown (affords_safeUpdateToFailed id code detail enough)
    fun _ => Affords.throw (Nat.le_refl thrown)

/-! ### `initPayment` -/

theorem affords_resolveFeeForRequest (config : Config) (fee : String)
    (hasAmount : Bool) (enough : rates.step + returned ≤ budget)
    (enoughThrown : rates.step + thrown ≤ budget) :
    Affords ⟨rates.cost, grant⟩ returned thrown
      (resolveFeeForRequest config fee hasAmount) budget :=
  Affords.bind (budget - rates.step) (affords_dateNow (by omega) (by omega))
    fun _ => affords_liftStep (by omega) (by omega)

theorem affords_rejectAlreadyPaid {α : Type} (row : Transaction)
    (enough : thrown ≤ budget) :
    Affords ⟨rates.cost, grant⟩ returned thrown
      (rejectAlreadyPaidTransaction row : Async α) budget :=
  Affords.throw enough

theorem affords_rejectIfAlreadyPaid (client reference : String)
    (enough : rates.statement + returned ≤ budget)
    (enoughThrown : rates.statement + thrown ≤ budget) :
    Affords ⟨rates.cost, grant⟩ returned thrown
      (rejectIfAlreadyPaid client reference) budget := by
  refine Affords.bind (budget - rates.statement)
    (affords_query rfl (by omega) (by omega)) ?_
  rintro (_ | row)
  · exact Affords.pure (by omega)
  · exact affords_rejectAlreadyPaid row (by omega)

theorem affords_recordReceivedTransaction (data : ReceivedTransactionParams)
    (enough : 2 * rates.statement + returned ≤ budget)
    (enoughThrown : 3 * rates.statement + thrown ≤ budget) :
    Affords ⟨rates.cost, grant⟩ returned thrown
      (recordReceivedTransaction data) budget := by
  refine Affords.tryCatch (budget - 2 * rates.statement) ?_ fun error => ?_
  · refine Affords.bind (budget - 2 * rates.statement) ?_ fun _ =>
      Affords.pure (by omega)
    exact Affords.bind (budget - rates.statement)
      (affords_query rfl (by omega) (by omega)) fun _ =>
        affords_query rfl (by omega) (by omega)
  · split
    · exact Affords.bind thrown
        (affords_rejectIfAlreadyPaid _ _ (by omega) (by omega)) fun _ =>
          Affords.throw (Nat.le_refl thrown)
    · exact Affords.throw (by omega)

theorem affords_readStaleProcessing (row : Transaction)
    (enough : rates.step + returned ≤ budget)
    (enoughThrown : rates.step + thrown ≤ budget) :
    Affords ⟨rates.cost, grant⟩ returned thrown (readStaleProcessing row)
      budget := by
  unfold readStaleProcessing
  split
  · exact Affords.pure (by omega)
  · exact Affords.bind (budget - rates.step)
      (affords_dateNow (by omega) (by omega)) fun _ => Affords.pure (by omega)

theorem affords_readExpiredInitiated (row : Transaction)
    (enough : rates.step + returned ≤ budget)
    (enoughThrown : rates.step + thrown ≤ budget) :
    Affords ⟨rates.cost, grant⟩ returned thrown (readExpiredInitiated row)
      budget := by
  unfold readExpiredInitiated
  split
  · exact Affords.pure (by omega)
  · exact Affords.bind (budget - rates.step)
      (affords_dateNow (by omega) (by omega)) fun _ => Affords.pure (by omega)

/-- The clock is read only for a row in the status it is read for. -/
theorem affords_readStaleProcessing_of_ne {row : Transaction}
    (other : row.transactionStatus ≠ some .processing)
    (enough : returned ≤ budget) :
    Affords ⟨rates.cost, grant⟩ returned thrown (readStaleProcessing row)
      budget := by
  rw [readStaleProcessing, if_pos other]
  exact Affords.pure enough

theorem affords_readExpiredInitiated_of_ne {row : Transaction}
    (other : row.transactionStatus ≠ some .initiated)
    (enough : returned ≤ budget) :
    Affords ⟨rates.cost, grant⟩ returned thrown (readExpiredInitiated row)
      budget := by
  rw [readExpiredInitiated, if_pos other]
  exact Affords.pure enough

/-- The write that retires a row, once it has been decided which. -/
theorem affords_retire {row : Transaction} (decided : Nat)
    (decides : Affords ⟨rates.cost, grant⟩ decided thrown
      (readExpiredInitiated row) budget)
    (enough : 2 * rates.statement + returned ≤ decided)
    (enoughThrown : 2 * rates.statement + thrown ≤ decided) :
    Affords ⟨rates.cost, grant⟩ returned thrown (retire row) budget := by
  refine Affords.bind decided decides fun expired => ?_
  split
  · exact Affords.bind returned (affords_query rfl (by omega) (by omega))
      fun _ => Affords.pure (Nat.le_refl returned)
  · exact Affords.bind returned
      (affords_updateToFailed _ _ _ (by omega) (by omega))
      fun _ => Affords.pure (Nat.le_refl returned)

/-- What follows once the staleness of the row is known. -/
theorem affords_resolved {config : Config} {row : Transaction}
    {fee : ActiveFee} {now : Int} (stale : Bool)
    (retires : Affords ⟨rates.cost, grant⟩ returned thrown (retire row) budget)
    (enough : returned ≤ budget) (enoughThrown : thrown ≤ budget) :
    Affords ⟨rates.cost, grant⟩ returned thrown
      (if row.transactionStatus = some .processing ∧ stale = false then
        throw (.conflict ConflictError.PAYMENT_IN_FLIGHT_TRANSACTION_MESSAGE)
      else
        match reusableToken now stale row with
        | some token => pure (some (redirectTo config fee token))
        | none => do
            retire row
            pure none) budget := by
  split
  · exact Affords.throw enoughThrown
  · split
    · exact Affords.pure enough
    · exact Affords.bind returned retires fun _ =>
        Affords.pure (Nat.le_refl returned)

/-- The clock is read at most twice, whatever the status of the row is. -/
theorem affords_resolveInFlightTransaction (config : Config)
    (row : Transaction) (fee : ActiveFee)
    (enough : 2 * rates.step + 2 * rates.statement + returned ≤ budget)
    (enoughThrown : 2 * rates.step + 2 * rates.statement + thrown ≤ budget) :
    Affords ⟨rates.cost, grant⟩ returned thrown
      (resolveInFlightTransaction config row fee) budget := by
  refine Affords.bind (budget - rates.step)
    (affords_dateNow (by omega) (by omega)) fun now => ?_
  by_cases processing : row.transactionStatus = some .processing
  · refine Affords.bind (budget - 2 * rates.step)
      (affords_readStaleProcessing row (by omega) (by omega)) fun stale => ?_
    refine affords_resolved stale (affords_retire (budget - 2 * rates.step)
      (affords_readExpiredInitiated_of_ne ?_ (Nat.le_refl _)) (by omega)
      (by omega)) (by omega) (by omega)
    rw [processing]
    decide
  · refine Affords.bind (budget - rates.step)
      (affords_readStaleProcessing_of_ne processing (Nat.le_refl _))
      fun stale => ?_
    exact affords_resolved stale (affords_retire (budget - 2 * rates.step)
      (affords_readExpiredInitiated row (by omega) (by omega)) (by omega)
      (by omega)) (by omega) (by omega)

theorem affords_handleIfPaymentProcessedOrPending (config : Config)
    (client reference : String) (fee : ActiveFee)
    (enough : 2 * rates.step + 3 * rates.statement + returned ≤ budget)
    (enoughThrown : 2 * rates.step + 3 * rates.statement + thrown ≤ budget) :
    Affords ⟨rates.cost, grant⟩ returned thrown
      (handleIfPaymentProcessedOrPending config client reference fee)
      budget := by
  refine Affords.bind (budget - rates.statement)
    (affords_query rfl (by omega) (by omega)) ?_
  rintro (_ | row)
  · exact Affords.pure (by omega)
  · dsimp only
    split
    · exact affords_resolveInFlightTransaction config row fee (by omega)
        (by omega)
    · exact affords_resolveInFlightTransaction config row fee (by omega)
        (by omega)
    · exact affords_rejectAlreadyPaid row (by omega)
    · exact affords_rejectAlreadyPaid row (by omega)
    · exact Affords.pure (by omega)

theorem affords_startOnlineCollection (params : StartOnlineCollectionParams)
    (enough : PAYGOV_MAX_ATTEMPTS * rates.attempt + returned ≤ budget)
    (enoughThrown : PAYGOV_MAX_ATTEMPTS * rates.attempt + thrown ≤ budget) :
    Affords ⟨rates.cost, grant⟩ returned thrown
      (StartOnlineCollectionRequest.makeSoapRequest params) budget := by
  refine Affords.bind (budget - PAYGOV_MAX_ATTEMPTS * rates.attempt)
    (affords_postHttpRequest _ (by omega) (by omega)) fun text => ?_
  split
  · unfold StartOnlineCollectionRequest.checkToken
    split
    · exact Affords.pure (by omega)
    · exact Affords.throw (by omega)
  · exact affords_rejectResponse _ (by omega)

theorem affords_startNewAttempt (config : Config) (client : ClientPermission)
    (request : InitPaymentRequest) (fee : ActiveFee)
    (enough : rates.step + 5 * rates.statement +
      PAYGOV_MAX_ATTEMPTS * rates.attempt ≤ budget) :
    Affords ⟨rates.cost, grant⟩ 0 0
      (startNewAttempt config client request fee) budget := by
  refine Affords.bind (budget - rates.step)
    (affords_generateAgencyTrackingId (by omega) (by omega)) fun id => ?_
  refine Affords.bind (3 * rates.statement +
    PAYGOV_MAX_ATTEMPTS * rates.attempt)
    (affords_recordReceivedTransaction _ (by omega) (by omega)) fun _ => ?_
  refine Affords.bind (3 * rates.statement) ?_ fun token => ?_
  · refine Affords.tryCatch (3 * rates.statement)
      (affords_startOnlineCollection _ (by omega) (by omega)) fun _ => ?_
    refine Affords.bind 0 (affords_safeUpdateToFailed _ _ _ (by omega))
      fun _ => Affords.throw (Nat.le_refl 0)
  · refine Affords.bind 0 ?_ fun _ => Affords.pure (Nat.le_refl 0)
    refine Affords.tryCatch (2 * rates.statement) ?_ fun _ => ?_
    · exact Affords.bind (2 * rates.statement)
        (affords_query rfl (by omega) (by omega)) fun _ =>
          Affords.pure (by omega)
    · exact affords_failWith _ _ _ _ (by omega)

theorem affords_initPayment (config : Config) (client : ClientPermission)
    (request : InitPaymentRequest)
    (enough : 4 * rates.step + 8 * rates.statement +
      PAYGOV_MAX_ATTEMPTS * rates.attempt ≤ budget) :
    Affords ⟨rates.cost, grant⟩ 0 0 (initPayment config client request)
      budget := by
  refine Affords.bind budget (affords_liftStep (Nat.le_refl _) (by omega))
    fun _ => ?_
  refine Affords.bind (budget - rates.step)
    (affords_resolveFeeForRequest config _ _ (by omega) (by omega))
    fun fee => ?_
  refine Affords.bind (rates.step + 5 * rates.statement +
    PAYGOV_MAX_ATTEMPTS * rates.attempt)
    (affords_handleIfPaymentProcessedOrPending config _ _ fee (by omega)
      (by omega)) ?_
  rintro (_ | response)
  · exact affords_startNewAttempt config client request fee (Nat.le_refl _)
  · exact Affords.pure (Nat.zero_le _)

/-! ### `processPayment` -/

theorem affords_loadAuthorizedContext (config : Config)
    (client : ClientPermission) (request : ProcessPaymentRequest)
    (enough : rates.statement + returned ≤ budget)
    (enoughThrown : 3 * rates.statement + thrown ≤ budget) :
    Affords ⟨rates.cost, grant⟩ returned thrown
      (loadAuthorizedContext config client request) budget := by
  refine Affords.bind (budget - rates.statement)
    (affords_query rfl (by omega) (by omega)) ?_
  rintro (_ | row)
  · exact Affords.throw (by omega)
  · dsimp only
    split
    · exact affords_failWith _ _ _ _ (by omega)
    · exact Affords.bind (budget - rates.statement)
        (affords_liftStep (Nat.le_refl _) (by omega)) fun _ =>
          Affords.pure (by omega)

theorem affords_claimProcessingTransaction (token : String)
    (enough : rates.claim + returned ≤ budget)
    (enoughThrown : rates.claim + thrown ≤ budget) :
    Affords ⟨rates.cost, grant⟩ returned thrown
      (claimProcessingTransaction token) budget := by
  refine Affords.tryCatch thrown ?_ fun _ => Affords.throw (Nat.le_refl thrown)
  refine Affords.bind (budget - rates.claim) ?_ ?_
  · exact Affords.bind (budget - rates.claim)
      (affords_claim (by omega) (by omega)) fun _ =>
        affords_liftStep (Nat.le_refl _) (by omega)
  · rintro (_ | claimed)
    · exact Affords.throw (by omega)
    · exact Affords.pure (by omega)

theorem affords_summarize (row : Transaction) (status : PaymentStatus)
    (enough : rates.statement + returned ≤ budget)
    (enoughThrown : rates.statement + thrown ≤ budget) :
    Affords ⟨rates.cost, grant⟩ returned thrown (summarize row status)
      budget :=
  Affords.bind (budget - rates.statement)
    (affords_query rfl (by omega) (by omega)) fun _ => Affords.pure (by omega)

theorem affords_completeCollection (tcsAppId token : String)
    (enough : PAYGOV_MAX_ATTEMPTS * rates.attempt + returned ≤ budget) :
    Affords ⟨rates.cost, grant⟩ returned thrown
      (completeCollection tcsAppId token) budget := by
  refine Affords.tryCatch returned ?_ fun error =>
    Affords.pure (Nat.le_refl returned)
  refine Affords.bind returned ?_ fun _ => Affords.pure (Nat.le_refl returned)
  refine Affords.bind returned (affords_postHttpRequest _ enough enough)
    fun text => ?_
  split
  · exact Affords.pure (Nat.le_refl returned)
  · exact affords_rejectResponse _ (Nat.le_refl returned)

theorem affords_handleCompletionError (row : Transaction)
    (error : PortalError)
    (enough : 3 * rates.statement + returned ≤ budget)
    (enoughThrown : 3 * rates.statement + thrown ≤ budget) :
    Affords ⟨rates.cost, grant⟩ returned thrown
      (handleCompletionError row error) budget := by
  unfold handleCompletionError
  split
  · exact Affords.bind (budget - 2 * rates.statement)
      (affords_updateToFailed _ _ _ (by omega) (by omega)) fun _ =>
        affords_summarize row _ (by omega) (by omega)
  · exact affords_failWith _ _ _ _ (by omega)
  · exact affords_failWith _ _ _ _ (by omega)

theorem affords_recordResult (row : Transaction)
    (result : CompleteOnlineCollectionWithDetailsResponse)
    (enough : 2 * rates.statement + returned ≤ budget)
    (enoughThrown : 3 * rates.statement + thrown ≤ budget) :
    Affords ⟨rates.cost, grant⟩ returned thrown (recordResult row result)
      budget := by
  refine Affords.bind (budget - rates.statement) ?_ fun _ =>
    affords_summarize row _ (by omega) (by omega)
  refine Affords.tryCatch (budget - rates.statement) ?_ fun error => ?_
  · refine Affords.bind (budget - rates.statement)
      (affords_query rfl (by omega) (by omega)) ?_
    rintro (_ | stored)
    · exact Affords.throw (Nat.le_refl _)
    · exact Affords.pure (Nat.le_refl _)
  · unfold handlePersistError
    split
    · exact Affords.throw (by omega)
    · exact affords_failWith _ _ _ _ (by omega)

theorem affords_processPayment (config : Config) (client : ClientPermission)
    (request : ProcessPaymentRequest)
    (enough : rates.claim + 4 * rates.statement +
      PAYGOV_MAX_ATTEMPTS * rates.attempt ≤ budget) :
    Affords ⟨rates.cost, grant⟩ 0 0 (processPayment config client request)
      budget := by
  refine Affords.bind (budget - rates.statement)
    (affords_loadAuthorizedContext config client request (by omega) (by omega))
    fun fee => ?_
  refine Affords.bind (budget - rates.statement - rates.claim)
    (affords_claimProcessingTransaction _ (by omega) (by omega))
    fun row => ?_
  refine Affords.bind (3 * rates.statement)
    (affords_completeCollection _ _ (by omega)) ?_
  rintro (error | result)
  · exact affords_handleCompletionError row error (by omega) (by omega)
  · exact affords_recordResult row result (by omega) (by omega)

/-! ### `getDetails` -/

theorem affords_retryable {α : Type} {task : Async α}
    (affords : Affords ⟨rates.cost, grant⟩ returned thrown task budget) :
    Affords ⟨rates.cost, grant⟩ returned thrown (retryable task) budget :=
  Affords.tryCatch thrown affords fun _ => Affords.throw (Nat.le_refl thrown)

theorem affords_refreshRow (tcsAppId : String) (row : Transaction) :
    Affords ⟨rates.cost, grant⟩ 0 0 (refreshRow tcsAppId row)
      (rates.refresh row) := by
  unfold refreshRow Rates.refresh
  cases refreshId row with
  | none => exact Affords.pure (Nat.zero_le _)
  | some trackingId =>
      simp only [Option.isSome_some, if_true]
      refine Affords.bind (2 * rates.statement)
        (affords_retryable ?_) fun result => affords_retryable ?_
      · refine Affords.bind (2 * rates.statement)
          (affords_postHttpRequest _ (Nat.le_refl _) (by omega)) fun text => ?_
        split
        · exact Affords.pure (Nat.le_refl _)
        · exact affords_rejectResponse _ (Nat.zero_le _)
      · refine Affords.bind 0 ?_ fun _ => Affords.pure (Nat.le_refl 0)
        refine Affords.bind rates.statement
          (affords_query rfl (by omega) (by omega)) fun count => ?_
        refine Affords.bind 0
          (affords_fetchPatched _ count (by omega) (by omega)) ?_
        rintro (_ | updated)
        · exact Affords.throw (Nat.le_refl 0)
        · exact Affords.pure (Nat.le_refl 0)

/-- The refreshes run together on the sum of their shares. -/
theorem affords_updatePendingAttemptFromPayGov (rows : List Transaction)
    (reference tcsAppId : String) :
    Affords ⟨rates.cost, grant⟩ 0 0
      (updatePendingAttemptFromPayGov rows reference tcsAppId)
      (rows.map rates.refresh).sum := by
  unfold updatePendingAttemptFromPayGov
  dsimp only
  split
  · exact Affords.throw (Nat.zero_le _)
  · refine Affords.bind 0 ?_ fun _ => Affords.pure (Nat.le_refl 0)
    have refreshes : (Program.gather Op.pick (fun first => first)
        ((rows.map (refreshRow tcsAppId)).map ExceptT.run)).Within
          ⟨rates.cost, grant⟩ Program.nothing (rows.map rates.refresh).sum := by
      rw [List.map_map]
      refine Program.Within.gather rfl (fun row => ?_) rows
      refine (affords_refreshRow tcsAppId row).weaken fun result => ?_
      cases result <;> exact Nat.le_refl 0
    refine refreshes.bind _ fun results => ?_
    change leftover 0 0 _ ≤ 0
    cases results.mapM id <;> exact Nat.le_refl 0

theorem affords_getDetails (config : Config) (client : ClientPermission)
    (request : GetDetailsRequest) :
    Affords ⟨rates.cost, rates.refreshes⟩ 0 0 (getDetails config client request)
      rates.statement := by
  refine Affords.operation_bind (Nat.le_refl _) ?_
  rintro (error | rows) found isFound
  · exact absurd isFound (by simp [Except.mapError])
  · obtain rfl := Except.ok.inj isFound
    change Affords _ 0 0 _ (rates.statement - rates.statement +
      (rows.map rates.refresh).sum)
    rw [Nat.sub_self, Nat.zero_add]
    rcases rows with _ | ⟨earliest, rest⟩
    · exact Affords.throw (Nat.zero_le _)
    · dsimp only
      split
      · exact Affords.throw (Nat.zero_le _)
      · refine Affords.bind _
          (affords_liftStep (Nat.le_refl _) (Nat.zero_le _)) fun _ => ?_
        split
        · exact Affords.pure (Nat.zero_le _)
        · exact affords_updatePendingAttemptFromPayGov _ _ _

end Functions

/-! ## The requests -/

/-- Every request is served within its allowance and its grants. -/
theorem within_allowance (rates : Rates) (config : Config)
    (request : Request) :
    ((portal config).program request).Within (rates.tariff request)
      Program.nothing (rates.allowance request) := by
  have served : Affords (rates.tariff request) 0 0 (serve config request)
      (rates.allowance request) := by
    cases request with
    | initPayment client order =>
        exact (affords_initPayment config client order (Nat.le_refl _)).map
    | processPayment client order =>
        exact (affords_processPayment config client order (Nat.le_refl _)).map
    | getDetails client order => exact (affords_getDetails config client order).map
    | cancelExpiredTransactions =>
        refine Affords.map (Affords.bind 0
          (affords_query rfl (Nat.le_refl _) (Nat.le_refl _)) fun _ =>
            Affords.pure (Nat.le_refl 0))
  refine Program.Within.weaken served fun outcome => ?_
  cases outcome <;> exact Nat.le_refl 0

end PaymentPortal.Protocol
