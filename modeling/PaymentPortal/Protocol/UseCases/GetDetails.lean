import PaymentPortal.Protocol.UseCases.Rules

/-!
# `getDetails` stays within its discipline

The refreshes of the surveyed rows run concurrently under `Promise.all`, so
each of them is specified in a stage that the others may extend by answers.
-/

namespace PaymentPortal.Protocol.GetDetails

open PaymentPortal.Interaction
open PaymentPortal.Model
open PaymentPortal.Model.GetDetails

variable {config : Config} {client : ClientPermission}
variable {order : GetDetailsRequest}

/-- The stages in which the given rows are being refreshed. -/
def Refreshing (rows : List Transaction) (stage : Stage) : Prop :=
  ∃ answers, stage = .refreshing rows answers

/-- The stages in which an answer for one of the rows has been seen. -/
def Answered (rows : List Transaction) (row : Transaction)
    (result : PayGovGetDetailsTransaction) (stage : Stage) : Prop :=
  ∃ answers, stage = .refreshing rows answers ∧ (row, result) ∈ answers

theorem Refreshing.later {rows : List Transaction} {before later : Stage}
    (refreshing : Refreshing rows before) (grown : Stage.Grows before later) :
    Refreshing rows later := by
  obtain ⟨answers, rfl⟩ := refreshing
  cases grown with
  | refl => exact ⟨answers, rfl⟩
  | answered kept => exact ⟨_, rfl⟩

theorem Answered.later {rows : List Transaction} {row : Transaction}
    {result : PayGovGetDetailsTransaction} {before later : Stage}
    (answered : Answered rows row result before)
    (grown : Stage.Grows before later) : Answered rows row result later := by
  obtain ⟨answers, rfl, member⟩ := answered
  cases grown with
  | refl => exact ⟨answers, rfl, member⟩
  | answered kept => exact ⟨_, rfl, kept member⟩

theorem Answered.refreshing {rows : List Transaction} {row : Transaction}
    {result : PayGovGetDetailsTransaction} {stage : Stage}
    (answered : Answered rows row result stage) : Refreshing rows stage := by
  obtain ⟨answers, rfl, _⟩ := answered
  exact ⟨answers, rfl⟩

theorem Refreshing.running {rows : List Transaction} {stage : Stage}
    (refreshing : Refreshing rows stage) : stage.IsRunning := by
  obtain ⟨answers, rfl⟩ := refreshing
  trivial

/-- A request may throw while it refreshes. -/
theorem Refreshing.throws {rows : List Transaction} {stage : Stage}
    (refreshing : Refreshing rows stage) (error : PortalError) :
    Throws (.getDetails client order) stage error := by
  obtain ⟨answers, rfl⟩ := refreshing
  trivial

variable {rows : List Transaction} {row : Transaction} {stage : Stage}

/-- A failing step of a refresh is rethrown as the retryable error. -/
theorem follows_retryable {α : Type} {task : Async α}
    {returns : Stage → α → Prop}
    (follows : Follows config (.getDetails client order) returns
      (fun later _ => Refreshing rows later) task stage)
    (stable : ∀ later current value, returns later value →
      Stage.Grows later current → returns current value) :
    Follows config (.getDetails client order) returns
      (fun later _ => Refreshing rows later) (retryable task) stage := by
  refine Performs.tryCatch _ follows ?_ stable
  intro later error refreshing
  exact Performs.throw fun current grown => refreshing.later grown

/-- A status that Pay.gov returns is remembered as an answer for the row. -/
theorem follows_makeSoapRequest {tcsAppId trackingId : String}
    (surveyed : row ∈ rows) (refreshed : refreshId row = some trackingId)
    (refreshing : Refreshing rows stage) :
    Follows config (.getDetails client order)
      (fun later result => Answered rows row result later)
      (fun later _ => Refreshing rows later)
      (GetRequestRequest.makeSoapRequest tcsAppId trackingId) stage := by
  refine Performs.bind (fun later text =>
    Refreshing rows later ∧
      ∀ result, text = .getDetailsResponse result →
        Answered rows row result later)
    (follows_postAttempts _ (fun waits grown => waits.later grown) ?_
      PAYGOV_MAX_ATTEMPTS refreshing) ?_
    fun later current error waits grown => waits.later grown
  · rintro current ⟨answers, rfl⟩ (error | text)
    · exact ⟨_, .unanswered surveyed refreshed, fun later grown =>
        Refreshing.later ⟨answers, rfl⟩ grown⟩
    · cases text with
      | getDetailsResponse result =>
          refine ⟨_, .answer surveyed refreshed, fun later grown => ?_⟩
          have answered : Answered rows row result later :=
            Answered.later ⟨_, rfl, List.mem_cons_self⟩ grown
          refine ⟨answered.refreshing, ?_⟩
          rintro other same
          obtain rfl := ResponseText.getDetailsResponse.inj same
          exact answered
      | startOnlineCollectionResponse _
      | completeOnlineCollectionWithDetailsResponse _
      | schemaViolation | fault _ | unreadable _ =>
          exact ⟨_, .unanswered surveyed refreshed, fun later grown =>
            ⟨Refreshing.later ⟨answers, rfl⟩ grown, by simp⟩⟩
  · rintro later text ⟨refreshing, answered⟩
    cases text with
    | getDetailsResponse result =>
        exact Performs.pure fun current grown =>
          (answered result rfl).later grown
    | startOnlineCollectionResponse _
    | completeOnlineCollectionWithDetailsResponse _
    | schemaViolation | fault _ | unreadable _ =>
        exact Performs.throw fun current grown => refreshing.later grown

/-- Only an answer that has been seen for the row is stored in it. -/
theorem follows_updateAfterPayGovResponse
    {result : PayGovGetDetailsTransaction}
    (answered : Answered rows row result stage) :
    Follows config (.getDetails client order)
      (fun later _ => Refreshing rows later)
      (fun later _ => Refreshing rows later)
      (TransactionModel.updateAfterPayGovResponse row.agencyTrackingId
        (refreshPatch row result)) stage := by
  refine Performs.bind (fun later _ => Refreshing rows later) ?_ ?_
    fun later current error waits grown => waits.later grown
  · refine Performs.operation fun current grown reply => ?_
    obtain ⟨answers, rfl, member⟩ := answered.later grown
    refine ⟨.refreshing rows answers, .store member, fun later further => ?_⟩
    have refreshing : Refreshing rows later :=
      Refreshing.later ⟨answers, rfl⟩ further
    cases reply <;> exact refreshing
  · intro later count refreshing
    refine Performs.bind (fun later _ => Refreshing rows later) ?_ ?_
      fun later current error waits grown => waits.later grown
    · by_cases unmatched : count = 0
      · rw [TransactionModel.fetchPatched, if_pos unmatched]
        exact Performs.pure fun current grown => refreshing.later grown
      · rw [TransactionModel.fetchPatched, if_neg unmatched]
        refine Performs.operation fun current grown reply =>
          ⟨current, .passive (refreshing.later grown).running trivial,
            fun later further => ?_⟩
        have still := (refreshing.later grown).later further
        cases reply <;> exact still
    · rintro later (_ | updated) refreshing
      · exact Performs.throw fun current grown => refreshing.later grown
      · exact Performs.pure fun current grown => refreshing.later grown

/-- The task of one row. -/
theorem follows_refreshRow {tcsAppId : String} (surveyed : row ∈ rows)
    (refreshing : Refreshing rows stage) :
    Follows config (.getDetails client order)
      (fun later _ => Refreshing rows later)
      (fun later _ => Refreshing rows later)
      (refreshRow tcsAppId row) stage := by
  unfold refreshRow
  split
  · exact Performs.pure fun current grown => refreshing.later grown
  · rename_i trackingId refreshed
    refine Performs.bind
      _ (follows_retryable (follows_makeSoapRequest surveyed refreshed refreshing)
        fun later current result answered grown => answered.later grown) ?_
      fun later current error waits grown => waits.later grown
    intro later result answered
    refine follows_retryable (Performs.bind
      _ (follows_updateAfterPayGovResponse answered) ?_
      fun later current error waits grown => waits.later grown)
      fun later current value waits grown => waits.later grown
    intro later updated refreshing
    exact Performs.pure fun current grown => refreshing.later grown

/-- While rows are refreshed, every operation only adds answers. -/
theorem grows_of_permitted {current after : Stage} {op : Op} {reply : Reply op}
    (refreshing : Refreshing rows current)
    (permitted : Permitted config (.getDetails client order) current op reply
      after) : Stage.Grows current after := by
  obtain ⟨answers, rfl⟩ := refreshing
  cases permitted with
  | passive _ _ => exact .refl _
  | answer _ _ => exact .answered (List.subset_cons_self _ _)
  | unanswered _ _ => exact .refl _
  | store _ => exact .refl _

/-- `Promise.all` over the surveyed rows. -/
theorem follows_promiseAll {tcsAppId : String}
    (refreshing : Refreshing rows stage) :
    Follows config (.getDetails client order)
      (fun later _ => Refreshing rows later)
      (Throws (.getDetails client order))
      (promiseAll (rows.map (refreshRow tcsAppId))) stage := by
  refine Program.Conforms.bind
    (fun later _ => Stage.Grows stage later)
    (Program.Conforms.gather ?_ ?_ ?_) ?_
  · intro current grown choice
    exact .passive (refreshing.later grown).running trivial
  · intro current grown op reply after permitted
    exact grows_of_permitted (refreshing.later grown) permitted
  · intro program member
    obtain ⟨task, taskIn, rfl⟩ := List.mem_map.mp member
    obtain ⟨row, surveyed, rfl⟩ := List.mem_map.mp taskIn
    exact Program.Conforms.mono (follows_refreshRow surveyed refreshing)
      fun _ _ _ => trivial
  · intro later results grown current further
    have still := (refreshing.later grown).later further
    cases results.mapM id with
    | error error => exact still.throws _
    | ok values => exact still

/-- The survey is the only read of `getDetails`. -/
theorem follows_findByReferenceId :
    Follows config (.getDetails client order)
      (fun later allRows => Refreshing allRows later)
      (Throws (.getDetails client order))
      (TransactionModel.findByReferenceId order.transactionReferenceId)
      .reading := by
  refine Performs.operation fun current grown reply => ?_
  obtain rfl := (Stage.grows_iff (.reading) trivial).mp grown
  cases reply with
  | error error =>
      refine ⟨.reading, .passive trivial trivial, fun later further => ?_⟩
      obtain rfl := (Stage.grows_iff (.reading) trivial).mp further
      exact trivial
  | ok allRows =>
      exact ⟨.refreshing allRows [], .survey, fun later further =>
        Refreshing.later ⟨[], rfl⟩ further⟩

/-- The refreshes of a pending obligation. -/
theorem follows_updatePendingAttemptFromPayGov
    {transactionReferenceId tcsAppId : String}
    (refreshing : Refreshing rows stage) :
    Follows config (.getDetails client order)
      (fun later _ => Refreshing rows later)
      (Throws (.getDetails client order))
      (updatePendingAttemptFromPayGov rows transactionReferenceId tcsAppId)
      stage := by
  unfold updatePendingAttemptFromPayGov
  dsimp only
  split
  · exact Performs.throw fun current grown =>
      (refreshing.later grown).throws _
  · apply follows_bind _ (follows_promiseAll refreshing)
    intro later transactions refreshing
    exact Performs.pure fun current grown => refreshing.later grown

/-- `getDetails` performs only what its discipline permits. -/
theorem follows_getDetails :
    Follows config (.getDetails client order)
      (fun later _ => ∃ rows, Refreshing rows later)
      (Throws (.getDetails client order))
      (getDetails config client order) .reading := by
  apply follows_bind _ follows_findByReferenceId
  rintro later (_ | ⟨earliest, rest⟩) refreshing
  · exact Performs.throw fun current grown =>
      (refreshing.later grown).throws _
  · dsimp only
    split
    · exact Performs.throw fun current grown =>
        (refreshing.later grown).throws _
    · rename_i fee resolved
      refine follows_bind
        (fun current _ => Refreshing (earliest :: rest) current)
        (Performs.computed fun current grown => ?_) ?_
      · cases authorizeClient client earliest.fee with
        | error error => exact (refreshing.later grown).throws _
        | ok value => exact refreshing.later grown
      · intro current value refreshing
        split
        · exact Performs.pure fun reached grown =>
            ⟨_, refreshing.later grown⟩
        · refine (follows_updatePendingAttemptFromPayGov refreshing).mono ?_
            fun _ _ thrown => thrown
          intro reached response still
          exact ⟨_, still⟩

end PaymentPortal.Protocol.GetDetails
