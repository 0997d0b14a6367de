import PaymentPortal.Interaction.Throwing
import PaymentPortal.Model.Portal

/-!
# Consulting Pay.gov

`getDetails` refreshes all surveyed rows at once.  Where only one of them is
refreshed, it runs alone: some attempts of one request, the write of the answer
and the read behind it.  This discipline follows it step by step; requests of
other kinds are not followed, nor are several refreshes at once.
-/

namespace PaymentPortal.Protocol

open PaymentPortal.Interaction
open PaymentPortal.Model
open PaymentPortal.Model.GetDetails

/-- The row is refreshed from Pay.gov. -/
def needsRefresh (row : Transaction) : Bool :=
  (refreshId row).isSome

/-- What Pay.gov is asked about, and on which grounds. -/
structure Query where
  rows : List Transaction
  row : Transaction
  trackingId : String
  fee : ActiveFee

namespace Query

def soap (query : Query) : SoapRequest :=
  .getDetails query.fee.tcsAppId query.trackingId

/-- The one surveyed row that is refreshed, with the fee of the earliest. -/
structure Fits (config : Config) (query : Query) : Prop where
  single : query.rows.filter needsRefresh = [query.row]
  refreshed : refreshId query.row = some query.trackingId
  resolved : ∃ earliest rest, query.rows = earliest :: rest ∧
    getActiveFee config earliest.fee (some earliest.createdAt) = .ok query.fee

end Query

/-- How far the refresh of a row has come. -/
inductive Progress where
  | unanswered
  | rejected
  | answered (result : PayGovGetDetailsTransaction)
  | unstored
  | missed
  | written
  | unread
  | lost
  | returned

namespace Progress

/-- After one HTTP attempt. -/
def ofReply : Except FetchError ResponseText → Progress
  | .error _ => .unanswered
  | .ok (.getDetailsResponse result) => .answered result
  | .ok _ => .rejected

/-- After the write of the answer. -/
def ofUpdate : Except SqlState Nat → Progress
  | .error _ => .unstored
  | .ok 0 => .missed
  | .ok (_ + 1) => .written

/-- After the read behind the write. -/
def ofRead : Except SqlState (Option Transaction) → Progress
  | .error _ => .unread
  | .ok none => .lost
  | .ok (some _) => .returned

/-- A refresh that has come this far throws. -/
def Throws : Progress → Prop
  | .answered _ => False
  | .written => False
  | .returned => False
  | _ => True

end Progress

/-- The phases of a request. -/
inductive Consultation where
  | reading
  | surveyed (rows : List Transaction)
  | asking (query : Query) (attempts : Nat) (progress : Progress)
  | fanned
  | stopped

/-- The operations of a request, with the phases they lead through. -/
inductive Consults (config : Config) :
    Request → Consultation → (op : Op) → Reply op → Consultation → Prop where
  | other {request : Request} {op : Op} {reply : Reply op}
      (notDetails : ∀ client order, request ≠ .getDetails client order) :
      Consults config request .reading op reply .reading
  | survey {client : ClientPermission} {order : GetDetailsRequest}
      {rows : List Transaction} :
      Consults config (.getDetails client order) .reading
        (.db (.findByReferenceId order.transactionReferenceId)) (.ok rows)
        (.surveyed rows)
  | unsurveyed {client : ClientPermission} {order : GetDetailsRequest}
      {error : SqlState} :
      Consults config (.getDetails client order) .reading
        (.db (.findByReferenceId order.transactionReferenceId)) (.error error)
        .reading
  | ask {client : ClientPermission} {order : GetDetailsRequest}
      {query : Query} {reply : Reply (.fetch query.soap)}
      (fits : query.Fits config) :
      Consults config (.getDetails client order) (.surveyed query.rows)
        (.fetch query.soap) reply (.asking query 1 (.ofReply reply))
  | retry {client : ClientPermission} {order : GetDetailsRequest}
      {query : Query} {attempts : Nat} {reply : Reply (.fetch query.soap)}
      (left : attempts < PAYGOV_MAX_ATTEMPTS) :
      Consults config (.getDetails client order)
        (.asking query attempts .unanswered) (.fetch query.soap) reply
        (.asking query (attempts + 1) (.ofReply reply))
  | store {client : ClientPermission} {order : GetDetailsRequest}
      {query : Query} {attempts : Nat} {result : PayGovGetDetailsTransaction}
      {reply : Reply (.db (.updateAfterPayGovResponse
        query.row.agencyTrackingId (refreshPatch query.row result)))} :
      Consults config (.getDetails client order)
        (.asking query attempts (.answered result))
        (.db (.updateAfterPayGovResponse query.row.agencyTrackingId
          (refreshPatch query.row result)))
        reply (.asking query attempts (.ofUpdate reply))
  | readBack {client : ClientPermission} {order : GetDetailsRequest}
      {query : Query} {attempts : Nat}
      {reply : Reply (.db (.findById query.row.agencyTrackingId))} :
      Consults config (.getDetails client order)
        (.asking query attempts .written)
        (.db (.findById query.row.agencyTrackingId)) reply
        (.asking query attempts (.ofRead reply))
  | fan {client : ClientPermission} {order : GetDetailsRequest}
      {rows : List Transaction} {op : Op} {reply : Reply op}
      (several : 1 < (rows.filter needsRefresh).length)
      (pending : (rows.filter fun row =>
        row.transactionStatus == some .pending).length ≤ 1) :
      Consults config (.getDetails client order) (.surveyed rows) op reply
        .fanned
  | fanned {client : ClientPermission} {order : GetDetailsRequest} {op : Op}
      {reply : Reply op} :
      Consults config (.getDetails client order) .fanned op reply .fanned

/-- The discipline; nothing happens to a phase but by the request itself. -/
def consultation (config : Config) (request : Request) :
    Discipline Op Reply Consultation :=
  .solitary (Consults config request)

/--
A refresh that has stored the answer returns, and a failed one throws; a call
that has stopped does neither.
-/
def concludes (_ : Request) : Consultation → Outcome → Prop
  | .stopped, _ => False
  | .asking _ _ .returned, outcome => ∃ response, outcome = .ok response
  | .asking _ _ progress, _ => progress.Throws
  | _, _ => True

/-! ## Rules -/

variable {config : Config} {request : Request} {client : ClientPermission}
variable {order : GetDetailsRequest} {phase : Consultation} {α β : Type}
variable {returns : Consultation → α → Prop}
variable {throws : Consultation → PortalError → Prop}

/-- The task stays within the discipline of its request. -/
abbrev Consulting (config : Config) (request : Request)
    (returns : Consultation → α → Prop)
    (throws : Consultation → PortalError → Prop) (task : Async α)
    (phase : Consultation) : Prop :=
  Performs (consultation config request) returns throws task phase

/-! ## One refresh -/

section Refresh

variable {query : Query}

/-- A refresh of the query has come so far. -/
def Asking (query : Query) (progress : Progress) (phase : Consultation) :
    Prop :=
  ∃ attempts, phase = .asking query attempts progress

/-- A refresh of the query has failed. -/
def Failing (query : Query) (phase : Consultation) : Prop :=
  ∃ progress, progress.Throws ∧ Asking query progress phase

/-- The next attempt may be made. -/
def Ready (config : Config) (query : Query) (attempts : Nat)
    (phase : Consultation) : Prop :=
  (attempts = 0 ∧ query.Fits config ∧ phase = .surveyed query.rows) ∨
    phase = .asking query attempts .unanswered

theorem Ready.consults {attempts : Nat} (ready : Ready config query attempts
      phase) (left : attempts < PAYGOV_MAX_ATTEMPTS)
    (reply : Reply (.fetch query.soap)) :
    Consults config (.getDetails client order) phase (.fetch query.soap) reply
      (.asking query (attempts + 1) (.ofReply reply)) := by
  rcases ready with ⟨rfl, fits, rfl⟩ | rfl
  · exact .ask fits
  · exact .retry left

/-- The retry loop, with at least one attempt left. -/
theorem consulting_postAttempts {attempts remaining : Nat}
    (ready : Ready config query attempts phase) (some : 0 < remaining)
    (total : attempts + remaining = PAYGOV_MAX_ATTEMPTS) :
    Consulting config (.getDetails client order)
      (fun later text => Asking query (.ofReply (.ok text)) later)
      (fun later _ => Asking query .unanswered later)
      (postAttempts query.soap remaining) phase := by
  induction remaining generalizing attempts phase with
  | zero => exact absurd some (Nat.lt_irrefl 0)
  | succ remaining ih =>
      refine Solitary.bind (fun later reply =>
        later = .asking query (attempts + 1) (.ofReply reply)) ?_ ?_
      · exact Solitary.operation fun reply =>
          ⟨_, ready.consults (by omega) reply, rfl⟩
      · rintro later (error | text) rfl
        · dsimp only
          split
          · exact Solitary.throw ⟨_, rfl⟩
          · split
            · exact Solitary.throw ⟨_, rfl⟩
            · exact ih (.inr rfl) (by omega) (by omega)
        · exact Solitary.pure ⟨_, rfl⟩

/-- A query that is answered with the details of the payment. -/
theorem consulting_makeSoapRequest (ready : Ready config query 0 phase) :
    Consulting config (.getDetails client order)
      (fun later result => Asking query (.answered result) later)
      (fun later _ => Failing query later)
      (GetRequestRequest.makeSoapRequest query.fee.tcsAppId query.trackingId)
      phase := by
  refine Solitary.bind (fun later text =>
    Asking query (.ofReply (.ok text)) later)
    ((consulting_postAttempts ready (by decide) (Nat.zero_add _)).monoThrows
      fun later _ unanswered => ⟨.unanswered, trivial, unanswered⟩) ?_
  rintro later text asking
  cases text with
  | getDetailsResponse result => exact Solitary.pure asking
  | startOnlineCollectionResponse _
  | completeOnlineCollectionWithDetailsResponse _
  | schemaViolation | fault _ | unreadable _ =>
      exact Solitary.throw ⟨.rejected, trivial, asking⟩

/-- Either step of a refresh is rethrown as the retryable error. -/
theorem consulting_retryable {task : Async α}
    (consulting : Consulting config request returns
      (fun later _ => Failing query later) task phase) :
    Consulting config request returns (fun later _ => Failing query later)
      (retryable task) phase := by
  refine Solitary.tryCatch _ consulting ?_
  exact fun later error failing => Solitary.throw failing

/-- What the read behind the write leads to. -/
def ReadBack (query : Query) (phase : Consultation) :
    Option Transaction → Prop
  | none => Failing query phase
  | some _ => Asking query .returned phase

/-- The write of the answer, and the read behind it. -/
theorem consulting_updateAfterPayGovResponse
    {result : PayGovGetDetailsTransaction}
    (answered : Asking query (.answered result) phase) :
    Consulting config (.getDetails client order)
      (fun later _ => Asking query .returned later)
      (fun later _ => Failing query later)
      (TransactionModel.updateAfterPayGovResponse query.row.agencyTrackingId
        (refreshPatch query.row result)) phase := by
  obtain ⟨attempts, rfl⟩ := answered
  refine Solitary.bind (fun later count =>
    later = .asking query attempts (.ofUpdate (.ok count))) ?_ ?_
  · refine Solitary.operation fun reply => ⟨_, .store, ?_⟩
    cases reply with
    | error error => exact ⟨.unstored, trivial, attempts, rfl⟩
    | ok count => exact rfl
  · rintro later count rfl
    refine Solitary.bind (ReadBack query) ?_ ?_
    · cases count with
      | zero => exact Solitary.pure ⟨.missed, trivial, attempts, rfl⟩
      | succ count =>
          refine Solitary.operation fun reply => ⟨_, .readBack, ?_⟩
          rcases reply with error | (_ | found)
          · exact ⟨.unread, trivial, attempts, rfl⟩
          · exact ⟨.lost, trivial, attempts, rfl⟩
          · exact ⟨attempts, rfl⟩
    · rintro later (_ | updated) held
      · exact Solitary.throw held
      · exact Solitary.pure held

/-- The refresh of the one row that needs it. -/
theorem consulting_refreshRow (fits : query.Fits config) :
    Consulting config (.getDetails client order)
      (fun later _ => Asking query .returned later)
      (fun later _ => Failing query later)
      (refreshRow query.fee.tcsAppId query.row) (.surveyed query.rows) := by
  rw [refreshRow, fits.refreshed]
  refine Solitary.bind _ (consulting_retryable
    (consulting_makeSoapRequest (.inl ⟨rfl, fits, rfl⟩))) ?_
  intro later result answered
  apply consulting_retryable
  apply Solitary.bind _ (consulting_updateAfterPayGovResponse answered)
  exact fun later updated returned => Solitary.pure returned

/-- Rows that are not refreshed contribute their summaries. -/
theorem run_refreshRow_of_settled {tcsAppId : String} {rows : List Transaction}
    (settled : ∀ row ∈ rows, ¬ needsRefresh row = true) :
    (rows.map (refreshRow tcsAppId)).map ExceptT.run =
      ((rows.map toTransactionRecordSummary).map Except.ok).map .done := by
  rw [List.map_map, List.map_map, List.map_map]
  refine List.map_congr_left fun row member => ?_
  have unrefreshed : refreshId row = none := by
    simpa [needsRefresh] using settled row member
  rw [Function.comp_apply, refreshRow, unrefreshed]
  rfl

theorem mapM_ok (values : List α) :
    (values.map (Except.ok : α → Except PortalError α)).mapM id =
      .ok values := by
  induction values with
  | nil => rfl
  | cons value rest ih =>
      rw [List.map_cons, List.mapM_cons, ih]
      rfl

/-- One result among values. -/
theorem mapM_single (before after : List α) (result : Except PortalError α) :
    (before.map Except.ok ++ result :: after.map Except.ok).mapM id =
      result.map fun value => before ++ value :: after := by
  rw [List.mapM_append, mapM_ok, List.mapM_cons, mapM_ok]
  cases result <;> rfl

/-- `Promise.all`, where one row is refreshed, does what its task does. -/
theorem consulting_promiseAll (fits : query.Fits config) :
    Consulting config (.getDetails client order)
      (fun later _ => Asking query .returned later)
      (fun later _ => Failing query later)
      (promiseAll (query.rows.map (refreshRow query.fee.tcsAppId)))
      (.surveyed query.rows) := by
  obtain ⟨before, after, split, settledBefore, _, settledAfter⟩ :=
    List.filter_eq_cons_iff.mp fits.single
  have alone : (promiseAll
      (query.rows.map (refreshRow query.fee.tcsAppId))).run =
        (refreshRow query.fee.tcsAppId query.row).run.bind fun result =>
          .done (result.map fun summary =>
            before.map toTransactionRecordSummary ++
              summary :: after.map toTransactionRecordSummary) := by
    change (Program.gather _ _ _).bind _ = _
    rw [split, List.map_append, List.map_cons, List.map_append, List.map_cons,
      run_refreshRow_of_settled settledBefore,
      run_refreshRow_of_settled (List.filter_eq_nil_iff.mp settledAfter),
      Program.gather_single, Program.bind_assoc]
    refine congrArg _ (funext fun result => ?_)
    rw [← mapM_single]
    rfl
  change Program.Conforms _ _ (promiseAll _).run _
  rw [alone]
  apply Program.Conforms.bind _ (consulting_refreshRow fits)
  rintro later (error | summary) ended
  · exact fun _ same => same ▸ ended
  · exact fun _ same => same ▸ ended

end Refresh

/-! ## The use case -/

/-- The request may return. -/
def MayReturn (request : Request) (phase : Consultation) : Prop :=
  ∀ response, concludes request phase (.ok response)

/-- The request may throw. -/
def MayThrow (request : Request) (phase : Consultation) : Prop :=
  ∀ error, concludes request phase (.error error)

theorem Failing.mayThrow {query : Query} (failing : Failing query phase) :
    MayThrow request phase := by
  obtain ⟨progress, throws, attempts, rfl⟩ := failing
  intro error
  cases progress with
  | returned => exact throws.elim
  | unanswered | rejected | answered _ | unstored | missed | written | unread
  | lost => exact throws

theorem Asking.mayReturn {query : Query}
    (returned : Asking query .returned phase) : MayReturn request phase := by
  obtain ⟨attempts, rfl⟩ := returned
  exact fun response => ⟨response, rfl⟩

/-- Several refreshes at once are not followed. -/
theorem conforms_fanned (program : Program Op Reply α) :
    program.Conforms (consultation config (.getDetails client order))
      (fun later _ => later = .fanned) .fanned := by
  induction program with
  | done value => exact fun _ same => same.symm
  | perform op next ih =>
      rintro _ rfl reply
      exact ⟨.fanned, .fanned, ih reply⟩

/-- What is gathered from a list of rows that is refreshed as a whole. -/
theorem consulting_fan {rows : List Transaction} (task : Async α)
    (several : 1 < (rows.filter needsRefresh).length)
    (pending : (rows.filter fun row =>
      row.transactionStatus == some .pending).length ≤ 1) :
    Consulting config (.getDetails client order)
      (fun later _ => MayReturn (.getDetails client order) later)
      (fun later _ => MayThrow (.getDetails client order) later)
      task (.surveyed rows) := by
  change Program.Conforms _ _ task.run _
  cases task.run with
  | done result =>
      rintro _ rfl
      cases result <;> exact fun _ => trivial
  | perform op next =>
      rintro _ rfl reply
      refine ⟨.fanned, .fan several pending, ?_⟩
      apply Program.Conforms.mono (conforms_fanned (next reply))
      rintro _ (error | value) rfl <;> exact fun _ => trivial

/-- The refreshes of the surveyed rows. -/
theorem consulting_refreshes {earliest : Transaction} {rest : List Transaction}
    {fee : ActiveFee}
    (resolved : getActiveFee config earliest.fee (some earliest.createdAt) =
      .ok fee)
    (pending : ((earliest :: rest).filter fun row =>
      row.transactionStatus == some .pending).length ≤ 1) :
    Consulting config (.getDetails client order)
      (fun later _ => MayReturn (.getDetails client order) later)
      (fun later _ => MayThrow (.getDetails client order) later)
      (promiseAll ((earliest :: rest).map (refreshRow fee.tcsAppId)))
      (.surveyed (earliest :: rest)) := by
  cases refreshed : (earliest :: rest).filter needsRefresh with
  | nil =>
      change Program.Conforms _ _ ((Program.gather _ _ _).bind _) _
      rw [run_refreshRow_of_settled (List.filter_eq_nil_iff.mp refreshed),
        Program.gather_done]
      rintro _ rfl
      rw [mapM_ok]
      exact fun _ => trivial
  | cons row others =>
      cases others with
      | nil =>
          have isRefreshed : needsRefresh row = true :=
            List.of_mem_filter (refreshed ▸ List.mem_singleton_self row)
          obtain ⟨trackingId, refreshes⟩ :=
            Option.isSome_iff_exists.mp isRefreshed
          have fits : Query.Fits config
              ⟨earliest :: rest, row, trackingId, fee⟩ :=
            ⟨refreshed, refreshes, earliest, rest, rfl, resolved⟩
          exact (consulting_promiseAll fits).mono
            (fun later _ returned => returned.mayReturn)
            (fun later _ failing => failing.mayThrow)
      | cons other more =>
          exact consulting_fan _ (by simp [refreshed]) pending

/-- The refreshes, unless more than one attempt is pending. -/
theorem consulting_updatePendingAttemptFromPayGov {earliest : Transaction}
    {rest : List Transaction} {fee : ActiveFee} {transactionReferenceId : String}
    (resolved : getActiveFee config earliest.fee (some earliest.createdAt) =
      .ok fee) :
    Consulting config (.getDetails client order)
      (fun later _ => MayReturn (.getDetails client order) later)
      (fun later _ => MayThrow (.getDetails client order) later)
      (updatePendingAttemptFromPayGov (earliest :: rest)
        transactionReferenceId fee.tcsAppId)
      (.surveyed (earliest :: rest)) := by
  unfold updatePendingAttemptFromPayGov
  dsimp only
  split
  · exact Solitary.throw fun _ => trivial
  · rename_i few
    refine Solitary.bind _ (consulting_refreshes resolved (not_lt.mp few)) ?_
    exact fun later transactions returns => Solitary.pure returns

/-- `getDetails` consults Pay.gov within this discipline. -/
theorem consulting_getDetails :
    Consulting config (.getDetails client order)
      (fun later _ => MayReturn (.getDetails client order) later)
      (fun later _ => MayThrow (.getDetails client order) later)
      (getDetails config client order) .reading := by
  refine Solitary.bind (fun later allRows => later = .surveyed allRows) ?_ ?_
  · refine Solitary.operation fun reply => ?_
    cases reply with
    | error error => exact ⟨_, .unsurveyed, fun _ => trivial⟩
    | ok rows => exact ⟨_, .survey, rfl⟩
  · rintro later (_ | ⟨earliest, rest⟩) rfl
    · exact Solitary.throw fun _ => trivial
    · dsimp only
      split
      · exact Solitary.throw fun _ => trivial
      · rename_i fee resolved
        refine Solitary.bind
          (fun later _ => later = .surveyed (earliest :: rest)) ?_ ?_
        · apply Solitary.computed
          cases authorizeClient client earliest.fee with
          | error error => exact fun _ => trivial
          | ok _ => exact rfl
        · rintro later authorized rfl
          split
          · exact Solitary.pure fun _ => trivial
          · exact consulting_updatePendingAttemptFromPayGov resolved

/-- What is not followed conforms. -/
theorem conforms_other
    (notDetails : ∀ client order, request ≠ .getDetails client order)
    (program : Program Op Reply α) :
    program.Conforms (consultation config request)
      (fun later _ => later = .reading) .reading := by
  induction program with
  | done value => exact fun _ same => same.symm
  | perform op next ih =>
      rintro _ rfl reply
      exact ⟨.reading, .other notDetails, ih reply⟩

/-- Every request stays within the discipline. -/
theorem portal_consults (request : Request) :
    ((portal config).program request).Conforms (consultation config request)
      (concludes request) .reading := by
  cases request with
  | getDetails client order =>
      have serves : Consulting config (.getDetails client order)
          (fun later _ => MayReturn (.getDetails client order) later)
          (fun later _ => MayThrow (.getDetails client order) later)
          (serve config (.getDetails client order)) .reading :=
        Solitary.map consulting_getDetails fun _ _ returns => returns
      apply Program.Conforms.mono serves
      rintro later (error | response) ended
      · exact ended error
      · exact ended response
  | initPayment _ _ | processPayment _ _ | cancelExpiredTransactions =>
      apply Program.Conforms.mono (conforms_other (by simp) _)
      rintro later outcome rfl
      trivial

end PaymentPortal.Protocol
