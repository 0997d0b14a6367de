import PaymentPortal.Model.Transactions

/-!
# Pay.gov

The outside party as the portal relies on it.  Pay.gov issues a token for each
accepted `startOnlineCollection`, never the same token twice, and records for
which agency tracking id it did.  It completes a token at most once, under a
tracking id of its own; a repeated completion is answered with a fault.  The
status of a completion settles over time and does not leave a terminal class.
These assumptions are fields of `PayGov`.

The SOAP layer is modelled by what a response text decodes to: the element of
the request, an element that fails its schema, a fault, or a text that
`parseXml` cannot read.
-/

namespace PaymentPortal.Model

/-! ## Requests and responses -/

/-- `StartOnlineCollectionRequestParams` without its constant fields. -/
structure StartOnlineCollectionParams where
  tcs_app_id : String
  agency_tracking_id : String
  transaction_amount : Amount
  url_success : String
  url_cancel : String
  deriving DecidableEq, Repr

/-- The SOAP requests of the portal. -/
inductive SoapRequest where
  | startOnlineCollection (params : StartOnlineCollectionParams)
  | completeOnlineCollectionWithDetails (tcs_app_id token : String)
  | getDetails (tcs_app_id paygov_tracking_id : String)
  deriving DecidableEq, Repr

/-- `CompleteOnlineCollectionWithDetailsResponse`, the fields that are read. -/
structure CompleteOnlineCollectionWithDetailsResponse where
  paygov_tracking_id : String
  transaction_status : PayGovTransactionStatus
  transaction_date : String
  payment_date : String
  payment_type : String
  deriving DecidableEq, Repr

/-- All that Pay.gov says of a completion, as texts but for the status. -/
structure CompletionAnswer extends
    CompleteOnlineCollectionWithDetailsResponse where
  agency_tracking_id : String
  transaction_amount : String
  deriving DecidableEq, Repr

/-- `PayGovGetDetailsTransaction`, the fields that are read. -/
structure PayGovGetDetailsTransaction where
  paygov_tracking_id : String
  transaction_status : PayGovTransactionStatus
  payment_type : Option String
  transaction_date : Option String
  payment_date : Option String
  deriving DecidableEq, Repr

/-- All that Pay.gov says of a transaction, as texts but for the status. -/
structure DetailsAnswer extends PayGovGetDetailsTransaction where
  agency_tracking_id : Option String
  transaction_amount : Option String
  deriving DecidableEq, Repr

/-- `ProcessorFault`. -/
inductive ProcessorFault where
  | absent
  | withoutDetail
  | service (return_detail : String) (return_code : Int)
  deriving DecidableEq, Repr

/-- What a response text decodes to. -/
inductive ResponseText where
  | startOnlineCollectionResponse (token : String)
  | completeOnlineCollectionWithDetailsResponse
      (response : CompleteOnlineCollectionWithDetailsResponse)
  | getDetailsResponse (transaction : PayGovGetDetailsTransaction)
  | schemaViolation
  | fault (fault : ProcessorFault)
  | unreadable (message : String)
  deriving DecidableEq, Repr

/-! ## State -/

/-- One completed token. -/
structure Completion where
  token : String
  paygovTrackingId : String
  status : PayGovTransactionStatus
  deriving DecidableEq, Repr

/-- Issued tokens with their agency tracking ids, and completed tokens. -/
structure PayGov where
  issued : List (String × String)
  completions : List Completion
  issuedOnce : (issued.map Prod.fst).Nodup
  completedOnce : (completions.map Completion.token).Nodup
  trackedOnce : (completions.map Completion.paygovTrackingId).Nodup
  completedIssued :
    ∀ completion ∈ completions, completion.token ∈ issued.map Prod.fst

/-- The status class Pay.gov's status is mapped to. -/
def Completion.outcome (completion : Completion) : TransactionStatus :=
  parseTransactionStatus completion.status

namespace PayGov

def empty : PayGov where
  issued := []
  completions := []
  issuedOnce := List.nodup_nil
  completedOnce := List.nodup_nil
  trackedOnce := List.nodup_nil
  completedIssued := by simp

/-- `token` was issued for the attempt `agencyTrackingId`. -/
def IssuedFor (payGov : PayGov) (token agencyTrackingId : String) : Prop :=
  (token, agencyTrackingId) ∈ payGov.issued

/-- Pay.gov has collected the payment of `token`. -/
def Charged (payGov : PayGov) (token : String) : Prop :=
  ∃ completion ∈ payGov.completions,
    completion.token = token ∧ completion.outcome = .processed

/-- Pay.gov has collected the payment of `token` or is still settling it. -/
def Accepted (payGov : PayGov) (token : String) : Prop :=
  ∃ completion ∈ payGov.completions,
    completion.token = token ∧ completion.outcome ≠ .failed

instance (payGov : PayGov) (token agencyTrackingId : String) :
    Decidable (payGov.IssuedFor token agencyTrackingId) :=
  inferInstanceAs (Decidable (_ ∈ _))

instance (payGov : PayGov) (token : String) :
    Decidable (payGov.Charged token) :=
  inferInstanceAs (Decidable (∃ _ ∈ _, _))

instance (payGov : PayGov) (token : String) :
    Decidable (payGov.Accepted token) :=
  inferInstanceAs (Decidable (∃ _ ∈ _, _))

theorem Charged.accepted {payGov : PayGov} {token : String}
    (charged : payGov.Charged token) : payGov.Accepted token := by
  obtain ⟨completion, member, isToken, processed⟩ := charged
  exact ⟨completion, member, isToken, by simp [processed]⟩

/-- Issue `token` for an attempt; a token is never issued twice. -/
def issue? (token agencyTrackingId : String) (payGov : PayGov) :
    Option PayGov :=
  if fresh : token ∉ payGov.issued.map Prod.fst then
    some {
      issued := (token, agencyTrackingId) :: payGov.issued
      completions := payGov.completions
      issuedOnce := by
        simpa using ⟨by simpa using fresh, payGov.issuedOnce⟩
      completedOnce := payGov.completedOnce
      trackedOnce := payGov.trackedOnce
      completedIssued := fun completion member =>
        List.mem_cons_of_mem _ (payGov.completedIssued completion member) }
  else none

/-- Complete an issued token that has not been completed. -/
def complete? (completion : Completion) (payGov : PayGov) : Option PayGov :=
  if valid : completion.token ∈ payGov.issued.map Prod.fst ∧
      completion.token ∉ payGov.completions.map Completion.token ∧
      completion.paygovTrackingId ∉
        payGov.completions.map Completion.paygovTrackingId then
    some {
      issued := payGov.issued
      completions := completion :: payGov.completions
      issuedOnce := payGov.issuedOnce
      completedOnce := List.nodup_cons.mpr ⟨valid.2.1, payGov.completedOnce⟩
      trackedOnce := List.nodup_cons.mpr ⟨valid.2.2, payGov.trackedOnce⟩
      completedIssued := by
        intro other member
        rcases List.mem_cons.mp member with rfl | old
        · exact valid.1
        · exact payGov.completedIssued other old }
  else none

/-- The new status of a completion when tracking id `trackingId` settles. -/
def settleOne (trackingId : String) (status : PayGovTransactionStatus)
    (completion : Completion) : Completion :=
  if completion.paygovTrackingId = trackingId ∧
      (completion.outcome = .pending ∨
        completion.outcome = parseTransactionStatus status) then
    { completion with status := status }
  else completion

@[simp]
theorem settleOne_token (trackingId : String)
    (status : PayGovTransactionStatus) (completion : Completion) :
    (settleOne trackingId status completion).token = completion.token := by
  unfold settleOne
  split <;> rfl

@[simp]
theorem settleOne_paygovTrackingId (trackingId : String)
    (status : PayGovTransactionStatus) (completion : Completion) :
    (settleOne trackingId status completion).paygovTrackingId =
      completion.paygovTrackingId := by
  unfold settleOne
  split <;> rfl

/-- A terminal class is never left. -/
theorem settleOne_outcome (trackingId : String)
    (status : PayGovTransactionStatus) (completion : Completion)
    (terminal : completion.outcome ≠ .pending) :
    (settleOne trackingId status completion).outcome =
      completion.outcome := by
  unfold settleOne
  split
  · rename_i settles
    rcases settles.2 with pending | same
    · exact absurd pending terminal
    · exact same.symm
  · rfl

/-- Pay.gov's status of a tracking id changes on its own. -/
def settle (trackingId : String) (status : PayGovTransactionStatus)
    (payGov : PayGov) : PayGov where
  issued := payGov.issued
  completions := payGov.completions.map (settleOne trackingId status)
  issuedOnce := payGov.issuedOnce
  completedOnce := by
    simpa [Function.comp_def] using payGov.completedOnce
  trackedOnce := by
    simpa [Function.comp_def] using payGov.trackedOnce
  completedIssued := by
    intro completion member
    obtain ⟨old, oldMember, rfl⟩ := List.mem_map.mp member
    simpa using payGov.completedIssued old oldMember

theorem issued_of_issue? {token agencyTrackingId : String}
    {payGov after : PayGov}
    (issued : issue? token agencyTrackingId payGov = some after) :
    after.issued = (token, agencyTrackingId) :: payGov.issued ∧
      after.completions = payGov.completions ∧
      token ∉ payGov.issued.map Prod.fst := by
  unfold issue? at issued
  split at issued
  · rename_i fresh
    obtain rfl := Option.some.inj issued
    exact ⟨rfl, rfl, fresh⟩
  · exact absurd issued (by simp)

theorem completions_of_complete? {completion : Completion}
    {payGov after : PayGov}
    (completed : complete? completion payGov = some after) :
    after.issued = payGov.issued ∧
      after.completions = completion :: payGov.completions ∧
      completion.token ∉ payGov.completions.map Completion.token := by
  unfold complete? at completed
  split at completed
  · rename_i valid
    obtain rfl := Option.some.inj completed
    exact ⟨rfl, rfl, valid.2.1⟩
  · exact absurd completed (by simp)

/-- A token is issued for one attempt only. -/
theorem IssuedFor.unique {payGov : PayGov} {token first second : String}
    (firstIssued : payGov.IssuedFor token first)
    (secondIssued : payGov.IssuedFor token second) : first = second := by
  have same := List.inj_on_of_nodup_map payGov.issuedOnce firstIssued
    secondIssued rfl
  exact congrArg Prod.snd same

/-- A token has one completion only. -/
theorem completion_eq (payGov : PayGov) {first second : Completion}
    (firstIn : first ∈ payGov.completions)
    (secondIn : second ∈ payGov.completions)
    (sameToken : first.token = second.token) : first = second :=
  List.inj_on_of_nodup_map payGov.completedOnce firstIn secondIn sameToken

/-- A tracking id belongs to one completion only. -/
theorem completion_eq_of_trackingId (payGov : PayGov)
    {first second : Completion}
    (firstIn : first ∈ payGov.completions)
    (secondIn : second ∈ payGov.completions)
    (sameId : first.paygovTrackingId = second.paygovTrackingId) :
    first = second :=
  List.inj_on_of_nodup_map payGov.trackedOnce firstIn secondIn sameId

end PayGov

end PaymentPortal.Model
