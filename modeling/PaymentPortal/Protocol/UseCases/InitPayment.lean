import PaymentPortal.Protocol.UseCases.Rules

/-!
# `initPayment` stays within its discipline

One specification for each function of `initPayment.ts`: the stage it is
called in and the stages it returns and throws in.
-/

namespace PaymentPortal.Protocol.InitPayment

open PaymentPortal.Interaction
open PaymentPortal.Model
open PaymentPortal.Model.InitPayment

variable {config : Config} {client : ClientPermission}
variable {order : InitPaymentRequest}

/-- Reading the clock while a row is weighed. -/
theorem follows_clock {row : Transaction} {clocks : List Int} :
    Follows config (.initPayment client order)
      (fun later now => later = .weighing row (now :: clocks))
      (Throws (.initPayment client order)) dateNow (.weighing row clocks) :=
  follows_operation trivial fun now =>
    ⟨.weighing row (now :: clocks), .clock, trivial, rfl⟩

/-- The clock is read for a `processing` row only, and such a row may be stale
at that instant. -/
theorem follows_readStaleProcessing {row : Transaction} {clocks : List Int} :
    Follows config (.initPayment client order)
      (fun later stale => ∃ readings, later = .weighing row readings ∧
        (row.transactionStatus ≠ some .processing →
          readings = clocks ∧ stale = false) ∧
        (stale = true → ReadAsStale row readings))
      (Throws (.initPayment client order))
      (readStaleProcessing row) (.weighing row clocks) := by
  unfold readStaleProcessing
  split
  · exact follows_pure trivial ⟨clocks, rfl, fun _ => ⟨rfl, rfl⟩, by simp⟩
  · rename_i processing
    apply follows_bind _ follows_clock
    rintro later now rfl
    refine follows_pure trivial ⟨_, rfl, fun other => absurd other processing,
      fun stale => ?_⟩
    obtain ⟨status, old⟩ := (isStaleProcessingTransaction_iff now row).mp stale
    exact ⟨status, now, List.mem_cons_self, old⟩

/-- The session of the row is not to be reused at the only reading so far, or
its claim was stale. -/
def Unusable (row : Transaction) (clocks : List Int) : Prop :=
  (row.transactionStatus = some .initiated ∧ ∃ first, clocks = [first] ∧
    reusableToken first false row = none) ∨
  ReadAsStale row clocks

/-- An `initiated` row is cancelled if it has expired; any other row that is not
to be used was dead. -/
theorem follows_readExpiredInitiated {row : Transaction} {clocks : List Int}
    (unusable : Unusable row clocks) :
    Follows config (.initPayment client order)
      (fun later expired => ∃ readings, later = .weighing row readings ∧
        (expired = true → row.transactionStatus = some .initiated ∧
          ∃ clock ∈ readings, MAX_TOKEN_AGE_MS < clock - row.createdAt) ∧
        (expired = false → RetiredAsDead row readings))
      (Throws (.initPayment client order))
      (readExpiredInitiated row) (.weighing row clocks) := by
  unfold readExpiredInitiated
  split
  · rename_i other
    refine follows_pure trivial ⟨clocks, rfl, by simp, fun _ => .inr ?_⟩
    exact unusable.resolve_left fun initiated => other initiated.1
  · rename_i isInitiated
    have initiated := not_not.mp isInitiated
    obtain ⟨_, first, rfl, unused⟩ := unusable.resolve_right fun stale =>
      absurd (stale.1.symm.trans initiated) (by simp)
    apply follows_bind _ follows_clock
    rintro later now rfl
    refine follows_pure trivial ⟨_, rfl, fun expired => ?_, fun young => ?_⟩
    · obtain ⟨status, old⟩ :=
        (isExpiredInitiatedTransaction_iff now row).mp expired
      exact ⟨status, now, List.mem_cons_self, old⟩
    · refine .inl ⟨initiated, first, now, rfl, unused, not_lt.mp fun old => ?_⟩
      have expired :=
        (isExpiredInitiatedTransaction_iff now row).mpr ⟨initiated, old⟩
      exact absurd (young.symm.trans expired) (by simp)

/-- A row that is not to be used is cancelled or marked failed. -/
theorem follows_retire {row : Transaction} {clocks : List Int}
    (unusable : Unusable row clocks) :
    Follows config (.initPayment client order) (fun later _ => later = .reading)
      (Throws (.initPayment client order))
      (retire row) (.weighing row clocks) := by
  apply follows_bind _ (follows_readExpiredInitiated unusable)
  rintro later expired ⟨readings, rfl, whenExpired, whenYoung⟩
  cases expired with
  | true =>
      obtain ⟨initiated, clock, read, old⟩ := whenExpired rfl
      refine follows_bind (fun later _ => later = .reading) ?_ ?_
      · refine follows_operation trivial fun reply =>
          ⟨.reading, .cancel initiated read old, trivial, ?_⟩
        cases reply with
        | error error => exact trivial
        | ok count => exact rfl
      · rintro later count rfl
        exact follows_pure trivial rfl
  | false =>
      refine follows_bind (fun later _ => later = .reading)
        ((follows_updateToFailed (.weighing row readings) .reading trivial
          trivial trivial fun reply => .retire (whenYoung rfl)).monoThrows
            ?_) ?_
      · rintro later error (rfl | rfl) <;> exact trivial
      · rintro later value rfl
        exact follows_pure trivial rfl

/-- A new attempt is started from `reading`; a token may be reused earlier. -/
def ShortCircuits (stage : Stage) (result : Option InitPaymentResponse) :
    Prop :=
  stage = .reading ∨
    ∃ response row clocks, result = some response ∧
      stage = .weighing row clocks

/-- Without a token to reuse the row has been retired. -/
theorem follows_resolveInFlightTransaction {row : Transaction}
    {fee : ActiveFee}
    (inFlight : row.transactionStatus = some .initiated ∨
      row.transactionStatus = some .processing) :
    Follows config (.initPayment client order) ShortCircuits
      (Throws (.initPayment client order))
      (resolveInFlightTransaction config row fee) (.weighing row []) := by
  apply follows_bind _ follows_clock
  rintro later now rfl
  apply follows_bind _ follows_readStaleProcessing
  rintro later stale ⟨clocks, rfl, unread, whenStale⟩
  split
  · exact follows_throw trivial trivial
  · rename_i notInFlight
    split
    · exact follows_pure trivial (.inr ⟨_, row, clocks, rfl, rfl⟩)
    · rename_i unused
      have unusable : Unusable row clocks := by
        rcases inFlight with initiated | processing
        · obtain ⟨rfl, rfl⟩ := unread (by simp [initiated])
          exact .inl ⟨initiated, now, rfl, unused⟩
        · cases stale with
          | true => exact .inr (whenStale rfl)
          | false => exact absurd ⟨processing, rfl⟩ notInFlight
      apply follows_bind _ (follows_retire unusable)
      rintro later value rfl
      exact follows_pure trivial (.inl rfl)

/-- Where a row that the lookup found leads. -/
def lookedAt (row : Transaction) : Stage :=
  if row.transactionStatus = some .initiated ∨
      row.transactionStatus = some .processing then
    .weighing row []
  else .reading

/-- The lookup and what follows from the status of the row it finds. -/
theorem follows_handleIfPaymentProcessedOrPending {fee : ActiveFee} :
    Follows config (.initPayment client order) ShortCircuits
      (Throws (.initPayment client order))
      (handleIfPaymentProcessedOrPending config client.clientName
        order.transactionReferenceId fee) .reading := by
  refine follows_bind (Branches .reading lookedAt) ?_ ?_
  · refine follows_operation trivial ?_
    rintro (error | found)
    · exact ⟨.reading, .lookMissed, trivial, trivial⟩
    · cases found with
      | none => exact ⟨.reading, .lookMissed, trivial, rfl⟩
      | some row =>
          by_cases inFlight : row.transactionStatus = some .initiated ∨
              row.transactionStatus = some .processing
          · exact ⟨.weighing row [], .look inFlight, trivial,
              (if_pos inFlight).symm⟩
          · exact ⟨.reading, .lookMissed, trivial, (if_neg inFlight).symm⟩
  · rintro later (_ | row) rfl
    · exact follows_pure trivial (.inl rfl)
    · dsimp only
      split
      · rename_i status
        rw [lookedAt, if_pos (.inl status)]
        exact follows_resolveInFlightTransaction (.inl status)
      · rename_i status
        rw [lookedAt, if_pos (.inr status)]
        exact follows_resolveInFlightTransaction (.inr status)
      · rename_i status
        rw [lookedAt, if_neg (by simp [status])]
        exact follows_throw trivial trivial
      · rename_i status
        rw [lookedAt, if_neg (by simp [status])]
        exact follows_throw trivial trivial
      · rename_i notInitiated notProcessing _ _
        rw [lookedAt, if_neg (not_or.mpr ⟨notInitiated, notProcessing⟩)]
        exact follows_pure trivial (.inl rfl)

/-- A failed insert of an attempt, or a failed read of it, is rejected. -/
theorem follows_rejectIfAlreadyPaid {stage : Stage}
    (solitary : stage.IsSolitary) (running : stage.IsRunning)
    (thrown : ∀ error, Throws (.initPayment client order) stage error) :
    Follows config (.initPayment client order) (fun later _ => later = stage)
      (Throws (.initPayment client order))
      (rejectIfAlreadyPaid client.clientName order.transactionReferenceId)
      stage := by
  refine follows_bind _ (follows_passiveQuery solitary running
    trivial thrown) ?_
  rintro later (_ | alreadyPaid) rfl
  · exact follows_pure solitary rfl
  · exact follows_throw solitary (thrown _)

/-- After a successful insert the attempt is the request's own. -/
theorem follows_recordReceivedTransaction {data : ReceivedTransactionParams}
    (fits : Fits client order data) :
    Follows config (.initPayment client order)
      (fun later _ => later = .collecting data)
      (Throws (.initPayment client order))
      (recordReceivedTransaction data) .reading := by
  refine Performs.tryCatch (fun later _ =>
    later = .reading ∨ later = .collecting data)
    (Performs.bind (fun later _ => later = .collecting data)
      (Performs.bind (fun later _ => later = .collecting data)
        ?_ ?_ ?_) ?_ ?_) ?_ ?_
  · refine follows_operation trivial ?_
    rintro (error | ⟨⟩)
    · exact ⟨.reading, .insertFailed fits, trivial, .inl rfl⟩
    · exact ⟨.collecting data, .insert fits, trivial, rfl⟩
  · rintro later value rfl
    refine follows_passive trivial trivial trivial ?_
    rintro (error | found)
    · exact .inr rfl
    · exact rfl
  · rintro later current error (rfl | rfl) grown
    · exact .inl ((Stage.grows_iff (.reading) trivial).mp grown)
    · exact .inr
        ((Stage.grows_iff (.collecting data) trivial).mp grown)
  · rintro later value rfl
    exact follows_pure trivial rfl
  · rintro later current error (rfl | rfl) grown
    · exact .inl ((Stage.grows_iff (.reading) trivial).mp grown)
    · exact .inr
        ((Stage.grows_iff (.collecting data) trivial).mp grown)
  · have rejects : ∀ (stage : Stage) (error : PortalError),
        stage.IsSolitary → stage.IsRunning →
        (∀ error, Throws (.initPayment client order) stage error) →
        Follows config (.initPayment client order)
          (fun later (_ : Unit) => later = .collecting data)
          (Throws (.initPayment client order))
          (if isUniqueViolation error then do
            rejectIfAlreadyPaid data.clientName data.transactionReferenceId
            throw (.conflict EXISTING_IN_FLIGHT_TRANSACTION_ERROR)
          else throw (.unexpected "Failed to record received transaction"))
          stage := by
      intro stage error solitary running thrown
      split
      · rw [fits.clientName, fits.transactionReferenceId]
        refine follows_bind _
          (follows_rejectIfAlreadyPaid solitary running thrown) ?_
        rintro later value rfl
        exact follows_throw solitary (thrown _)
      · exact follows_throw solitary (thrown _)
    rintro later error (rfl | rfl)
    · exact rejects _ error trivial trivial fun _ => trivial
    · exact rejects _ error trivial trivial fun _ => trivial
  · rintro later current value rfl grown
    exact (Stage.grows_iff (.collecting data) trivial).mp grown

/-- The token a start text holds. -/
def tokenOf? : ResponseText → Option String
  | .startOnlineCollectionResponse token => some token
  | _ => none

/-- The session is started for the own attempt, or the attempt is failed. -/
theorem follows_startCollection {data : ReceivedTransactionParams}
    {params : StartOnlineCollectionParams}
    (own : params.agency_tracking_id = data.agencyTrackingId) :
    Follows config (.initPayment client order)
      (fun later token => later = .activating data token ∧ token.length = 32)
      (Throws (.initPayment client order))
      (startCollection params) (.collecting data) := by
  refine Performs.tryCatch (fun later _ =>
    later.owned? = some data ∧ later.IsSolitary)
    (Performs.bind (fun later text =>
      Branches (.collecting data) (.activating data) later (tokenOf? text))
      ((follows_postHttpRequest (.collecting data) trivial
        ?_).monoThrows ?_) ?_ ?_) ?_ ?_
  · rintro (error | text)
    · exact ⟨.collecting data, .startUnanswered own, trivial, rfl⟩
    · cases text with
      | startOnlineCollectionResponse token =>
          exact ⟨.activating data token, .start own, trivial, rfl⟩
      | completeOnlineCollectionWithDetailsResponse _ | getDetailsResponse _
      | schemaViolation | fault _ | unreadable _ =>
          exact ⟨.collecting data, .startUnanswered own, trivial, rfl⟩
  · rintro later error rfl
    exact ⟨rfl, trivial⟩
  · rintro later text reached
    cases text with
    | startOnlineCollectionResponse token =>
        obtain rfl := reached
        dsimp only [StartOnlineCollectionRequest.checkToken]
        split
        · rename_i valid
          exact follows_pure trivial ⟨rfl, valid⟩
        · exact follows_throw trivial ⟨rfl, trivial⟩
    | completeOnlineCollectionWithDetailsResponse _ | getDetailsResponse _
    | schemaViolation | fault _ | unreadable _ =>
        obtain rfl := reached
        exact follows_rejectResponse trivial fun error => ⟨rfl, trivial⟩
  · rintro later current error ⟨owned, solitary⟩ grown
    obtain rfl := (Stage.grows_iff _ solitary).mp grown
    exact ⟨owned, solitary⟩
  · rintro later error ⟨owned, solitary⟩
    refine follows_bind _ (follows_safeUpdateToFailed .closing solitary trivial
      trivial fun reply => ?_) ?_
    · revert reply
      rw [own]
      exact fun reply => .abandon owned
    · rintro later value (rfl | rfl) <;> exact follows_throw trivial trivial
  · rintro later current token ⟨rfl, valid⟩ grown
    exact ⟨(Stage.grows_iff (.activating data token) trivial).mp grown, valid⟩

/-- The token is stored, or the attempt is failed. -/
theorem follows_recordToken {data : ReceivedTransactionParams}
    {token : String} (valid : token.length = 32) :
    Follows config (.initPayment client order) (fun later _ => later = .reading)
      (Throws (.initPayment client order))
      (recordToken data.agencyTrackingId token) (.activating data token) := by
  refine Performs.tryCatch (fun later _ => later = .abandoning data)
    (Performs.bind (fun later _ => later = .reading) ?_ ?_ ?_) ?_ ?_
  · refine follows_operation trivial ?_
    rintro (error | count)
    · exact ⟨.abandoning data, .activateFailed valid, trivial, rfl⟩
    · exact ⟨.reading, .activate valid, trivial, rfl⟩
  · rintro later count rfl
    exact follows_pure trivial rfl
  · rintro later current error rfl grown
    exact (Stage.grows_iff (.abandoning data) trivial).mp grown
  · rintro later error rfl
    refine follows_bind _ (follows_safeUpdateToFailed .closing trivial trivial
      trivial fun reply => .abandon rfl) ?_
    rintro later value (rfl | rfl) <;> exact follows_throw trivial trivial
  · rintro later current value rfl grown
    exact (Stage.grows_iff (.reading) trivial).mp grown

/-- A new attempt: insert, start, activate. -/
theorem follows_startNewAttempt {fee : ActiveFee} :
    Follows config (.initPayment client order) (fun later _ => later = .reading)
      (Throws (.initPayment client order))
      (startNewAttempt config client order fee) .reading := by
  refine follows_bind (fun later _ => later = .reading)
    (follows_passive trivial trivial trivial fun id => rfl) ?_
  rintro later agencyTrackingId rfl
  apply follows_bind _ (follows_recordReceivedTransaction ⟨rfl, rfl, rfl⟩)
  rintro later value rfl
  apply follows_bind _ (follows_startCollection rfl)
  rintro later token ⟨rfl, valid⟩
  apply follows_bind _ (follows_recordToken valid)
  rintro later value rfl
  exact follows_pure trivial rfl

/-- `initPayment` performs only what its discipline permits. -/
theorem follows_initPayment :
    Follows config (.initPayment client order)
      (fun later _ => later = .reading ∨ ∃ row clocks,
        later = .weighing row clocks)
      (Throws (.initPayment client order))
      (initPayment config client order) .reading := by
  refine follows_bind (fun later _ => later = .reading)
    (follows_liftStep trivial ?_) ?_
  · cases authorizeClient client order.fee with
    | error error => exact trivial
    | ok value => exact rfl
  rintro later value rfl
  refine follows_bind (fun later _ => later = .reading) ?_ ?_
  · refine follows_bind (fun later _ => later = .reading)
      (follows_passive trivial trivial trivial fun now => rfl) ?_
    rintro later now rfl
    refine follows_liftStep trivial ?_
    cases resolveFee config now order.fee order.amount.isSome with
    | error error => exact trivial
    | ok fee => exact rfl
  rintro later fee rfl
  apply follows_bind _ follows_handleIfPaymentProcessedOrPending
  rintro later (_ | response) circuits
  · rcases circuits with rfl | ⟨_, _, _, absurdity, _⟩
    · exact follows_startNewAttempt.mono (fun _ _ reached => .inl reached)
        fun _ _ thrown => thrown
    · exact absurd absurdity (by simp)
  · rcases circuits with rfl | ⟨_, row, clocks, _, rfl⟩
    · exact follows_pure trivial (.inl rfl)
    · exact follows_pure trivial (.inr ⟨row, clocks, rfl⟩)

end PaymentPortal.Protocol.InitPayment
