import PaymentPortal.Protocol.Isolation

/-!
# `initPayment` in two worlds

Each function of `initPayment.ts` looks up rows by client and reference id and
writes rows that it has found so or recorded itself.
-/

namespace PaymentPortal.Protocol.InitIsolated

open PaymentPortal.Interaction
open PaymentPortal.Model
open PaymentPortal.Model.InitPayment

variable {config : Config} {clientName : String} {start : World × World}
variable {id : String}

/-! ## Statements -/

theorem isolates_fetchPatched (owns : OwnsBoth clientName id start)
    (count : Nat) :
    Isolates config clientName start (fun _ => True)
      (TransactionModel.fetchPatched id count) := by
  unfold TransactionModel.fetchPatched
  split
  · exact isolates_pure trivial
  · exact isolates_statement fun worlds isolated =>
      .findById (owns.later isolated).first (owns.later isolated).second

theorem isolates_updateToFailed (owns : OwnsBoth clientName id start)
    (code : Option Int) (detail : Option String) :
    Isolates config clientName start (fun _ => True)
      (TransactionModel.updateToFailed id code detail) := by
  refine isolates_bind (fun _ => True) ?_ fun count _ =>
    isolates_fetchPatched owns count
  exact isolates_statement fun worlds isolated =>
    .updateToFailed (owns.later isolated).first (owns.later isolated).second

theorem isolates_safeUpdateToFailed (owns : OwnsBoth clientName id start)
    (code : Option Int) (detail : Option String) :
    Isolates config clientName start (fun _ => True)
      (safeUpdateToFailed id code detail) := by
  refine isolates_tryCatch ?_ fun _ => isolates_pure trivial
  exact isolates_bind _ (isolates_updateToFailed owns code detail)
    fun _ _ => isolates_pure trivial

/-! ## A new attempt -/

theorem isolates_rejectIfAlreadyPaid (transactionReferenceId : String) :
    Isolates config clientName start (fun _ => True)
      (rejectIfAlreadyPaid clientName transactionReferenceId) := by
  refine isolates_bind (fun _ => True) ?_ ?_
  · exact isolates_statement fun worlds _ =>
      .findPendingOrProcessedByReferenceId
  · rintro (_ | paid) _
    · exact isolates_pure trivial
    · exact isolates_throw _

theorem isolates_recordReceivedTransaction {data : ReceivedTransactionParams}
    (isClient : data.clientName = clientName)
    (owns : OwnsBoth clientName data.agencyTrackingId start) :
    Isolates config clientName start (fun _ => True)
      (recordReceivedTransaction data) := by
  refine isolates_tryCatch ?_ ?_
  · refine isolates_bind (fun _ => True) (isolates_bind (fun _ => True) ?_ ?_)
      fun _ _ => isolates_pure trivial
    · exact isolates_statement fun worlds isolated => .createReceived isClient
        (owns.later isolated).first (owns.later isolated).second
    · intro _ _
      exact isolates_statement fun worlds isolated =>
        .findById (owns.later isolated).first (owns.later isolated).second
  · intro error
    split
    · rw [isClient]
      exact isolates_bind _ (isolates_rejectIfAlreadyPaid _)
        fun _ _ => isolates_throw _
    · exact isolates_throw _

theorem isolates_postAttempts (params : StartOnlineCollectionParams)
    (attempts : Nat) :
    Isolates config clientName start (fun _ => True)
      (postAttempts (.startOnlineCollection params) attempts) := by
  induction attempts with
  | zero => exact isolates_throw _
  | succ remaining ih =>
      refine isolates_bind _ (isolates_fetch params) ?_
      rintro (error | text) _
      · dsimp only
        split
        · exact isolates_throw _
        · split
          · exact isolates_throw _
          · exact ih
      · exact isolates_pure trivial

theorem isolates_rejectResponse {α : Type} (text : ResponseText) :
    Isolates config clientName start (fun _ : α => True)
      (rejectResponse text) := by
  unfold rejectResponse
  split <;> exact isolates_throw _

theorem isolates_startCollection {params : StartOnlineCollectionParams}
    (owns : OwnsBoth clientName params.agency_tracking_id start) :
    Isolates config clientName start (fun _ => True)
      (startCollection params) := by
  refine isolates_tryCatch ?_ fun _ => isolates_bind _
    (isolates_safeUpdateToFailed owns _ _) fun _ _ => isolates_throw _
  refine isolates_bind _ (isolates_postAttempts _ _) ?_
  intro text _
  split
  · unfold StartOnlineCollectionRequest.checkToken
    split
    · exact isolates_pure trivial
    · exact isolates_throw _
  · exact isolates_rejectResponse _

theorem isolates_recordToken (owns : OwnsBoth clientName id start)
    (token : String) :
    Isolates config clientName start (fun _ => True)
      (recordToken id token) := by
  refine isolates_tryCatch ?_ fun _ => isolates_bind _
    (isolates_safeUpdateToFailed owns _ _) fun _ _ => isolates_throw _
  refine isolates_bind (fun _ => True) ?_ fun _ _ => isolates_pure trivial
  exact isolates_statement fun worlds isolated =>
    .updateToInitiated (owns.later isolated).first (owns.later isolated).second

theorem isolates_startNewAttempt {client : ClientPermission}
    (isClient : client.clientName = clientName) (request : InitPaymentRequest)
    (fee : ActiveFee) :
    Isolates config clientName start (fun _ => True)
      (startNewAttempt config client request fee) := by
  apply isolates_bind _ isolates_generateAgencyTrackingId
  intro id owns
  apply isolates_bind _ (isolates_recordReceivedTransaction isClient owns)
  intro _ _
  apply isolates_bind _ (isolates_startCollection owns)
  intro token _
  exact isolates_bind _ (isolates_recordToken owns token)
    fun _ _ => isolates_pure trivial

/-! ## An attempt in flight -/

variable {row : Transaction}

theorem isolates_readStaleProcessing :
    Isolates config clientName start (fun _ => True)
      (readStaleProcessing row) := by
  unfold readStaleProcessing
  split
  · exact isolates_pure trivial
  · exact isolates_bind _ isolates_dateNow fun _ _ => isolates_pure trivial

theorem isolates_readExpiredInitiated :
    Isolates config clientName start (fun _ => True)
      (readExpiredInitiated row) := by
  unfold readExpiredInitiated
  split
  · exact isolates_pure trivial
  · exact isolates_bind _ isolates_dateNow fun _ _ => isolates_pure trivial

theorem isolates_retire
    (owns : OwnsBoth clientName row.agencyTrackingId start) :
    Isolates config clientName start (fun _ => True) (retire row) := by
  apply isolates_bind _ isolates_readExpiredInitiated
  rintro (_ | _) _
  · exact isolates_bind _ (isolates_updateToFailed owns _ _)
      fun _ _ => isolates_pure trivial
  · refine isolates_bind (fun _ => True) ?_ fun _ _ => isolates_pure trivial
    exact isolates_statement fun worlds isolated => .updateToCancelled
      (owns.later isolated).first (owns.later isolated).second

theorem isolates_resolveInFlightTransaction
    (owns : OwnsBoth clientName row.agencyTrackingId start) (fee : ActiveFee) :
    Isolates config clientName start (fun _ => True)
      (resolveInFlightTransaction config row fee) := by
  apply isolates_bind _ isolates_dateNow
  intro now _
  apply isolates_bind _ isolates_readStaleProcessing
  intro stale _
  split
  · exact isolates_throw _
  · split
    · exact isolates_pure trivial
    · exact isolates_bind _ (isolates_retire owns)
        fun _ _ => isolates_pure trivial

/-- What the lookup finds is the client's. -/
theorem isolates_lookup (transactionReferenceId : String) :
    Isolates config clientName start
      (fun found => ∀ row ∈ found,
        OwnsBoth clientName row.agencyTrackingId start)
      (TransactionModel.findByReferenceIdAndTransactionStatus clientName
        transactionReferenceId
        [.initiated, .processing, .pending, .processed]) := by
  apply isolates_query
  · intro worlds _
    exact .findByReferenceIdAndTransactionStatus (by decide)
  · intro worlds isolated now locked result after ran row isFound
    obtain ⟨rfl, rfl⟩ := Prod.mk.inj (Except.ok.inj ran)
    obtain ⟨member, selected⟩ := Table.mem_select.mp (List.mem_of_head? isFound)
    simp only [Bool.and_eq_true, beq_iff_eq] at selected
    have isClient := selected.1.1
    have inOther := (isolated.alike.own row isClient).mp member
    exact OwnsBoth.earlier
      ⟨ownsId_of_mem member isClient, ownsId_of_mem inOther isClient⟩ isolated

theorem isolates_handleIfPaymentProcessedOrPending
    (transactionReferenceId : String) (fee : ActiveFee) :
    Isolates config clientName start (fun _ => True)
      (handleIfPaymentProcessedOrPending config clientName
        transactionReferenceId fee) := by
  apply isolates_bind _ (isolates_lookup transactionReferenceId)
  rintro (_ | row) owns
  · exact isolates_pure trivial
  · have own := owns row rfl
    dsimp only
    split
    · exact isolates_resolveInFlightTransaction own fee
    · exact isolates_resolveInFlightTransaction own fee
    · exact isolates_throw _
    · exact isolates_throw _
    · exact isolates_pure trivial

/-! ## The use case -/

theorem isolates_initPayment {client : ClientPermission}
    (request : InitPaymentRequest) :
    Isolates config client.clientName start (fun _ => True)
      (initPayment config client request) := by
  apply isolates_bind _ (isolates_liftStep _)
  intro _ _
  refine isolates_bind (fun _ => True) ?_ ?_
  · exact isolates_bind _ isolates_dateNow fun now _ => isolates_liftStep _
  intro fee _
  apply isolates_bind _ (isolates_handleIfPaymentProcessedOrPending _ fee)
  rintro (_ | response) _
  · exact isolates_startNewAttempt rfl request fee
  · exact isolates_pure trivial

end PaymentPortal.Protocol.InitIsolated
