import PaymentPortal.Protocol.UseCases.Rules

/-!
# `processPayment` stays within its discipline

One specification for each function of `processPayment.ts`: the stage it is
called in and the stages it returns and throws in.
-/

namespace PaymentPortal.Protocol.ProcessPayment

open PaymentPortal.Interaction
open PaymentPortal.Model
open PaymentPortal.Model.ProcessPayment

variable {config : Config} {client : ClientPermission}
variable {order : ProcessPaymentRequest}

/-- The final read and the response built from it. -/
theorem follows_summarize {transaction : Transaction}
    {paymentStatus : PaymentStatus} :
    Follows config (.processPayment client order)
      (fun later _ => later = .closing) (Throws (.processPayment client order))
      (summarize transaction paymentStatus) .closing := by
  refine follows_bind _ (follows_passiveQuery trivial trivial trivial
    fun error => trivial) ?_
  rintro later rows rfl
  exact follows_pure trivial rfl

/-- The fee of the loaded row is resolved before anything is claimed. -/
theorem follows_loadAuthorizedContext :
    Follows config (.processPayment client order)
      (fun later _ => ∃ row fee, later = .loaded row ∧
        getActiveFee config row.fee (some row.createdAt) = .ok fee)
      (Throws (.processPayment client order))
      (loadAuthorizedContext config client order) .reading := by
  refine follows_bind (Branches .reading .loaded) ?_ ?_
  · refine follows_operation trivial ?_
    rintro (error | found)
    · exact ⟨.reading, .loadMissed, trivial, trivial⟩
    · cases found with
      | none => exact ⟨.reading, .loadMissed, trivial, rfl⟩
      | some row => exact ⟨.loaded row, .load, trivial, rfl⟩
  · rintro later (_ | row) rfl
    · exact follows_throw trivial trivial
    · dsimp only
      split
      · rename_i error unresolved
        refine follows_bind _ (follows_safeUpdateToFailed .closing trivial
          trivial trivial fun reply => .failFee unresolved) ?_
        rintro later value (rfl | rfl) <;> exact follows_throw trivial trivial
      · rename_i fee resolved
        refine follows_bind (fun later _ => later = .loaded row)
          (follows_liftStep trivial ?_) ?_
        · cases authorizeClient client fee.fee with
          | error error => exact trivial
          | ok value => exact rfl
        · rintro later value rfl
          exact follows_pure trivial ⟨row, fee, rfl, resolved⟩

/-- What is returned has been claimed. -/
theorem follows_claimProcessingTransaction {row : Transaction}
    {fee : ActiveFee}
    (resolved : getActiveFee config row.fee (some row.createdAt) = .ok fee) :
    Follows config (.processPayment client order)
      (fun later claimed => later = .completing claimed)
      (Throws (.processPayment client order))
      (claimProcessingTransaction order.token) (.loaded row) := by
  refine Performs.tryCatch (fun later _ => later = .stopped)
    (Performs.bind (Branches .stopped .completing) ?_ ?_ ?_) ?_ ?_
  · refine Performs.bind (fun later reply =>
      Branches .stopped .completing later reply.toOption.join) ?_ ?_ ?_
    · refine follows_operation trivial ?_
      rintro (error | rejection | found)
      · exact ⟨.stopped, .claimFailed resolved (by simp), trivial, rfl⟩
      · exact ⟨.stopped, .claimFailed resolved (by simp), trivial, rfl⟩
      · cases found with
        | none =>
            exact ⟨.stopped, .claimFailed resolved (by simp), trivial, rfl⟩
        | some claimed =>
            exact ⟨.completing claimed, .claim resolved, trivial, rfl⟩
    · rintro later (error | found) reached
      · obtain rfl := reached
        exact follows_liftStep trivial rfl
      · cases found with
        | none =>
            obtain rfl := reached
            exact follows_liftStep trivial rfl
        | some claimed =>
            obtain rfl := reached
            exact follows_liftStep trivial rfl
    · rintro later current error rfl grown
      exact (Stage.grows_iff (.stopped) trivial).mp grown
  · rintro later (_ | claimed) rfl
    · exact follows_throw trivial rfl
    · exact follows_pure trivial rfl
  · rintro later current error rfl grown
    exact (Stage.grows_iff (.stopped) trivial).mp grown
  · rintro later error rfl
    exact follows_throw trivial trivial
  · rintro later current claimed rfl grown
    exact (Stage.grows_iff (.completing claimed) trivial).mp grown

/-- The result a completion text holds. -/
def resultOf? :
    ResponseText → Option CompleteOnlineCollectionWithDetailsResponse
  | .completeOnlineCollectionWithDetailsResponse result => some result
  | _ => none

/-- A completion that returns a response is about to be recorded. -/
theorem follows_completeCollection {row : Transaction} {tcsAppId : String} :
    Follows config (.processPayment client order)
      (fun later completed =>
        Branches (.completing row) (.persisting row) later completed.toOption)
      (Throws (.processPayment client order))
      (completeCollection tcsAppId order.token) (.completing row) := by
  refine Performs.tryCatch (fun later _ => later = .completing row)
    (Performs.bind (fun later result =>
      later = .persisting row result) ?_ ?_ ?_) ?_ ?_
  · refine Performs.bind (fun later text =>
      Branches (.completing row) (.persisting row) later (resultOf? text))
      (follows_postHttpRequest _ trivial ?_) ?_ ?_
    · rintro (error | text)
      · exact ⟨.completing row, .completeUnanswered (by simp), trivial, rfl⟩
      · cases text with
        | completeOnlineCollectionWithDetailsResponse result =>
            exact ⟨.persisting row result, .complete, trivial, rfl⟩
        | startOnlineCollectionResponse _ | getDetailsResponse _
        | schemaViolation | fault _ | unreadable _ =>
            exact ⟨.completing row, .completeUnanswered (by simp), trivial,
              rfl⟩
    · rintro later text reached
      cases text with
      | completeOnlineCollectionWithDetailsResponse result =>
          obtain rfl := reached
          exact follows_pure trivial rfl
      | startOnlineCollectionResponse _ | getDetailsResponse _
      | schemaViolation | fault _ | unreadable _ =>
          obtain rfl := reached
          exact follows_rejectResponse trivial fun error => rfl
    · rintro later current error rfl grown
      exact (Stage.grows_iff (.completing row) trivial).mp grown
  · rintro later result rfl
    exact follows_pure trivial rfl
  · rintro later current error rfl grown
    exact (Stage.grows_iff (.completing row) trivial).mp grown
  · rintro later error rfl
    exact follows_pure trivial rfl
  · rintro later current (error | result) rfl grown
    · exact (Stage.grows_iff (.completing row) trivial).mp grown
    · exact (Stage.grows_iff (.persisting row result) trivial).mp grown

/-- Every failed completion marks the claimed row `failed`. -/
theorem follows_handleCompletionError {row : Transaction}
    {err : PortalError} :
    Follows config (.processPayment client order)
      (fun later _ => later = .closing) (Throws (.processPayment client order))
      (handleCompletionError row err) (.completing row) := by
  have marks : ∀ (detail : String) (error : PortalError),
      Follows config (.processPayment client order)
        (fun later (_ : PaymentResponse) => later = .closing)
        (Throws (.processPayment client order))
        (do
          safeUpdateToFailed row.agencyTrackingId none (some detail)
          throw error) (.completing row) := by
    intro detail error
    refine follows_bind _ (follows_safeUpdateToFailed .closing trivial trivial
      trivial fun reply => .markFailed) ?_
    rintro later value (rfl | rfl) <;> exact follows_throw trivial trivial
  cases err with
  | failedTransaction message code =>
      refine follows_bind (fun later _ => later = .closing)
        ((follows_updateToFailed (.completing row) .closing trivial trivial
          trivial fun reply => .markFailed).monoThrows ?_) ?_
      · rintro later error (rfl | rfl) <;> exact trivial
      · rintro later value rfl
        exact follows_summarize
  | zod => exact marks _ _
  | conflict _ | gone _ | notFound _ | forbidden _ | invalidRequest _
  | server _ | payGov _ _ | feeNotFound _ | feeConfiguration _ _
  | database _ | fetch _ | unexpected _ => exact marks _ _

/-- The guarded write, its conflict and the catch around it. -/
theorem follows_recordResult {row : Transaction}
    {result : CompleteOnlineCollectionWithDetailsResponse} :
    Follows config (.processPayment client order)
      (fun later _ => later = .closing) (Throws (.processPayment client order))
      (recordResult row result) (.persisting row result) := by
  refine follows_bind (fun later _ => later = .closing) ?_ ?_
  · refine Performs.tryCatch (fun later error =>
      (later = .outrun ∧
        error = .conflict ConflictError.PERSIST_RACE_MESSAGE) ∨
      (later = .failing row ∧ ∃ state, error = .database state))
      (Performs.bind (Branches .outrun fun _ => .closing) ?_ ?_ ?_) ?_ ?_
    · refine follows_operation trivial ?_
      rintro (error | found)
      · exact ⟨.failing row, .persistFailed, trivial, .inr ⟨rfl, error, rfl⟩⟩
      · cases found with
        | none => exact ⟨.outrun, .outrun, trivial, rfl⟩
        | some stored => exact ⟨.closing, .persist, trivial, rfl⟩
    · rintro later (_ | stored) rfl
      · exact follows_throw trivial (.inl ⟨rfl, rfl⟩)
      · exact follows_pure trivial rfl
    · rintro later current error (⟨rfl, rfl⟩ | ⟨rfl, database⟩) grown
      · exact .inl ⟨(Stage.grows_iff (.outrun) trivial).mp grown, rfl⟩
      · exact .inr ⟨(Stage.grows_iff (.failing row) trivial).mp grown,
          database⟩
    · rintro later error (⟨rfl, rfl⟩ | ⟨rfl, state, rfl⟩)
      · exact follows_throw trivial rfl
      · refine follows_bind _ (follows_safeUpdateToFailed .closing trivial
          trivial trivial fun reply => .markUnrecorded) ?_
        rintro later value (rfl | rfl) <;> exact follows_throw trivial trivial
    · rintro later current stored rfl grown
      exact (Stage.grows_iff (.closing) trivial).mp grown
  · rintro later stored rfl
    exact follows_summarize

/-- `processPayment` performs only what its discipline permits. -/
theorem follows_processPayment :
    Follows config (.processPayment client order)
      (fun later _ => later = .closing) (Throws (.processPayment client order))
      (processPayment config client order) .reading := by
  apply follows_bind _ follows_loadAuthorizedContext
  rintro later fee ⟨row, resolvedFee, rfl, resolved⟩
  apply follows_bind _ (follows_claimProcessingTransaction resolved)
  rintro later claimed rfl
  apply follows_bind _ follows_completeCollection
  rintro later (err | result) rfl
  · exact follows_handleCompletionError
  · exact follows_recordResult

end PaymentPortal.Protocol.ProcessPayment
