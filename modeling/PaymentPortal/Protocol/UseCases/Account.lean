import PaymentPortal.Protocol.Knowledge

/-!
# The account a request can give of its answer

`initPayment` answers with the token of the row it has found or of the session
it has started, `processPayment` with the status it has written and the rows it
has then read.  This discipline keeps the data behind these answers: where the
token comes from, which Pay.gov application a request to Pay.gov names, and
which write the final read follows.  A request that does anything else loses
its account, and with it the right to answer.
-/

namespace PaymentPortal.Protocol

open PaymentPortal.Interaction
open PaymentPortal.Model
open PaymentPortal.Model.InitPayment
open PaymentPortal.Model.ProcessPayment

/-- The fee of this key is collected by this Pay.gov application. -/
def CollectedBy (config : Config) (fee tcsAppId : String) : Prop :=
  ∃ definition, feeDefinition config fee = .ok definition ∧
    definition.tcsAppId = tcsAppId

theorem CollectedBy.unique {config : Config} {fee first second : String}
    (one : CollectedBy config fee first)
    (other : CollectedBy config fee second) : first = second := by
  obtain ⟨definition, defined, rfl⟩ := one
  obtain ⟨same, sameDefined, rfl⟩ := other
  rw [Except.ok.inj (defined.symm.trans sameDefined)]

theorem collectedBy_of_getActiveFee {config : Config} {feeKey : String}
    {date : Option Int} {fee : ActiveFee}
    (resolved : getActiveFee config feeKey date = .ok fee) :
    CollectedBy config feeKey fee.tcsAppId :=
  (getActiveFee_eq_ok resolved).2

/-- What `initPayment` resolves is the fee of its request. -/
theorem collectedBy_of_resolveFee {config : Config} {now : Int}
    {feeKey : String} {hasAmount : Bool} {fee : ActiveFee}
    (resolved : resolveFee config now feeKey hasAmount = .ok fee) :
    CollectedBy config feeKey fee.tcsAppId := by
  unfold resolveFee at resolved
  split at resolved
  · exact absurd resolved (by simp)
  · rename_i active found
    split at resolved
    · exact absurd resolved (by simp)
    · obtain rfl := Except.ok.inj resolved
      exact collectedBy_of_getActiveFee found

/-- What a request can account for. -/
inductive Account where
  | reading
  | weighing (row : Transaction) (clock : Option Int)
  | holding (data : ReceivedTransactionParams)
  | started (data : ReceivedTransactionParams) (tcsAppId token : String)
  | activated (tcsAppId token : String)
  | loaded (row : Transaction)
  | claimed (loaded row : Transaction)
  | answered (row : Transaction)
      (result : CompleteOnlineCollectionWithDetailsResponse)
  | faulted (row : Transaction)
  | settled (row : Transaction) (paymentStatus : PaymentStatus)
  | surveyed (paymentStatus : PaymentStatus) (rows : List Transaction)
  | stopped

/-- Operations that start no session at Pay.gov and complete none. -/
def IsSilent : Op → Prop
  | .fetch (.startOnlineCollection _) => False
  | .fetch (.completeOnlineCollectionWithDetails ..) => False
  | _ => True

/-- Texts that make a completion fail at Pay.gov. -/
def IsFault : ResponseText → Bool
  | .completeOnlineCollectionWithDetailsResponse _ => false
  | .schemaViolation => false
  | .unreadable _ => false
  | _ => true

/-- The operations of a request, with the accounts they lead through. -/
inductive Accounts (config : Config) :
    Request → Account → (op : Op) → Reply op → Account → Prop where
  | lose {request : Request} {account : Account} {op : Op} {reply : Reply op}
      (silent : IsSilent op) :
      Accounts config request account op reply .reading
  | other {request : Request} {op : Op} {reply : Reply op}
      (notInit : ∀ client order, request ≠ .initPayment client order)
      (notProcess : ∀ client order, request ≠ .processPayment client order) :
      Accounts config request .reading op reply .reading
  -- `initPayment`.
  | look {client : ClientPermission} {order : InitPaymentRequest}
      {row : Transaction} :
      Accounts config (.initPayment client order) .reading
        (.db (.findByReferenceIdAndTransactionStatus client.clientName
          order.transactionReferenceId IN_FLIGHT_OR_PAID))
        (.ok (some row)) (.weighing row none)
  | clock {client : ClientPermission} {order : InitPaymentRequest}
      {row : Transaction} {now : Int} :
      Accounts config (.initPayment client order) (.weighing row none) .now now
        (.weighing row (some now))
  | insert {client : ClientPermission} {order : InitPaymentRequest}
      {data : ReceivedTransactionParams} :
      Accounts config (.initPayment client order) .reading
        (.db (.createReceived data)) (.ok ()) (.holding data)
  | readBack {client : ClientPermission} {order : InitPaymentRequest}
      {data : ReceivedTransactionParams}
      {reply : Reply (.db (.findById data.agencyTrackingId))} :
      Accounts config (.initPayment client order) (.holding data)
        (.db (.findById data.agencyTrackingId)) reply (.holding data)
  | start {client : ClientPermission} {order : InitPaymentRequest}
      {data : ReceivedTransactionParams} {params : StartOnlineCollectionParams}
      {token : String}
      (own : params.agency_tracking_id = data.agencyTrackingId)
      (collected : CollectedBy config data.fee params.tcs_app_id) :
      Accounts config (.initPayment client order) (.holding data)
        (.fetch (.startOnlineCollection params))
        (.ok (.startOnlineCollectionResponse token))
        (.started data params.tcs_app_id token)
  | unstarted {client : ClientPermission} {order : InitPaymentRequest}
      {data : ReceivedTransactionParams} {params : StartOnlineCollectionParams}
      {reply : Reply (.fetch (.startOnlineCollection params))}
      (own : params.agency_tracking_id = data.agencyTrackingId)
      (collected : CollectedBy config data.fee params.tcs_app_id) :
      Accounts config (.initPayment client order) (.holding data)
        (.fetch (.startOnlineCollection params)) reply (.holding data)
  | activate {client : ClientPermission} {order : InitPaymentRequest}
      {data : ReceivedTransactionParams} {tcsAppId token : String}
      {count : Nat} :
      Accounts config (.initPayment client order)
        (.started data tcsAppId token)
        (.db (.updateToInitiated data.agencyTrackingId token)) (.ok count)
        (.activated tcsAppId token)
  -- `processPayment`.
  | load {client : ClientPermission} {order : ProcessPaymentRequest}
      {row : Transaction} :
      Accounts config (.processPayment client order) .reading
        (.db (.findByPaygovToken order.token)) (.ok (some row)) (.loaded row)
  | claim {client : ClientPermission} {order : ProcessPaymentRequest}
      {row claimed : Transaction} :
      Accounts config (.processPayment client order) (.loaded row)
        (.db (.claimForProcessing order.token)) (.ok (.ok (some claimed)))
        (.claimed row claimed)
  | complete {client : ClientPermission} {order : ProcessPaymentRequest}
      {loaded row : Transaction} {tcsAppId : String}
      {result : CompleteOnlineCollectionWithDetailsResponse}
      (collected : CollectedBy config loaded.fee tcsAppId) :
      Accounts config (.processPayment client order) (.claimed loaded row)
        (.fetch (.completeOnlineCollectionWithDetails tcsAppId order.token))
        (.ok (.completeOnlineCollectionWithDetailsResponse result))
        (.answered row result)
  | fault {client : ClientPermission} {order : ProcessPaymentRequest}
      {loaded row : Transaction} {tcsAppId : String} {text : ResponseText}
      (collected : CollectedBy config loaded.fee tcsAppId)
      (isFault : IsFault text = true) :
      Accounts config (.processPayment client order) (.claimed loaded row)
        (.fetch (.completeOnlineCollectionWithDetails tcsAppId order.token))
        (.ok text) (.faulted row)
  | uncompleted {client : ClientPermission} {order : ProcessPaymentRequest}
      {loaded row : Transaction} {tcsAppId : String}
      {reply : Reply (.fetch
        (.completeOnlineCollectionWithDetails tcsAppId order.token))}
      (collected : CollectedBy config loaded.fee tcsAppId) :
      Accounts config (.processPayment client order) (.claimed loaded row)
        (.fetch (.completeOnlineCollectionWithDetails tcsAppId order.token))
        reply (.claimed loaded row)
  | persist {client : ClientPermission} {order : ProcessPaymentRequest}
      {row stored : Transaction}
      {result : CompleteOnlineCollectionWithDetailsResponse} :
      Accounts config (.processPayment client order) (.answered row result)
        (.db (.updateAfterPayGovResponseIf row.agencyTrackingId
          (responsePatch result) .processing))
        (.ok (some stored)) (.settled row (responsePatch result).paymentStatus)
  | markFailed {client : ClientPermission} {order : ProcessPaymentRequest}
      {row : Transaction} {code : Option Int} {detail : Option String}
      {count : Nat} :
      Accounts config (.processPayment client order) (.faulted row)
        (.db (.updateToFailed row.agencyTrackingId code detail)) (.ok count)
        (.settled row .failed)
  | confirm {client : ClientPermission} {order : ProcessPaymentRequest}
      {row : Transaction} {paymentStatus : PaymentStatus}
      {reply : Reply (.db (.findById row.agencyTrackingId))} :
      Accounts config (.processPayment client order)
        (.settled row paymentStatus) (.db (.findById row.agencyTrackingId))
        reply (.settled row paymentStatus)
  | survey {client : ClientPermission} {order : ProcessPaymentRequest}
      {row : Transaction} {paymentStatus : PaymentStatus}
      {rows : List Transaction} :
      Accounts config (.processPayment client order)
        (.settled row paymentStatus)
        (.db (.findByReferenceId row.transactionReferenceId)) (.ok rows)
        (.surveyed paymentStatus rows)

/-- The discipline of a request that can account for its answer. -/
def accounting (config : Config) (request : Request) :
    Discipline Op Reply Account :=
  .solitary (Accounts config request)

/-- Where the token of an answer comes from, and what the redirect names. -/
def Grants (config : Config) (order : InitPaymentRequest) (account : Account)
    (session : InitPaymentResponse) : Prop :=
  ∃ fee token, session = redirectTo config fee token ∧
    CollectedBy config order.fee fee.tcsAppId ∧
    ((∃ row now, account = .weighing row (some now) ∧
        row.transactionStatus = some .initiated ∧
        reusableToken now false row = some token) ∨
      account = .activated fee.tcsAppId token)

/-- The status of an answer has been written and its rows read after it. -/
def Reports (account : Account) (response : PaymentResponse) : Prop :=
  ∃ paymentStatus rows, account = .surveyed paymentStatus rows ∧
    response = ⟨paymentStatus, rows.map toTransactionRecordSummary⟩

/-- How a request may answer; other requests answer anyhow. -/
def answers (config : Config) :
    Request → Account → Outcome → Prop
  | .initPayment _ order, account, .ok (.session session) =>
      Grants config order account session
  | .processPayment _ _, account, .ok (.payment response) =>
      Reports account response
  | _, _, _ => True

/-! ## Rules -/

variable {config : Config} {request : Request} {account : Account}
variable {α : Type}

/-- The task keeps to the discipline; where it throws nothing is claimed. -/
abbrev Keeps (config : Config) (request : Request)
    (returns : Account → α → Prop) (task : Async α) (account : Account) :
    Prop :=
  Performs (accounting config request) returns (fun _ _ => True) task account

/-- A silent operation may be performed at any time. -/
theorem keeps_silent {op : Op} {convert : Reply op → Except PortalError α}
    {returns : Account → α → Prop} (silent : IsSilent op)
    (returned : ∀ value, returns .reading value) :
    Keeps config request returns
      (ExceptT.mk (.perform op fun reply => .done (convert reply)))
      account := by
  refine Solitary.operation fun reply => ⟨.reading, .lose silent, ?_⟩
  cases convert reply with
  | error error => exact trivial
  | ok value => exact returned value

/-- The write that gives an attempt up, and the read behind it. -/
theorem keeps_updateToFailed {id : String} {code : Option Int}
    {detail : Option String} :
    Keeps config request (fun later _ => later = .reading)
      (TransactionModel.updateToFailed id code detail) account := by
  refine Solitary.bind (fun later _ => later = .reading)
    (keeps_silent trivial fun _ => rfl) ?_
  rintro later count rfl
  unfold TransactionModel.fetchPatched
  split
  · exact Solitary.pure rfl
  · exact keeps_silent trivial fun _ => rfl

/-- Giving an attempt up, an error is thrown. -/
theorem keeps_giveUp {id : String} {code : Option Int}
    {detail : Option String} {error : PortalError}
    {returns : Account → α → Prop} :
    Keeps config request returns
      (do
        safeUpdateToFailed id code detail
        throw error) account := by
  refine Solitary.bind (fun _ _ => True) ?_ fun later value _ =>
    Solitary.throw trivial
  refine Solitary.tryCatch (fun _ _ => True) ?_ fun later error _ =>
    Solitary.pure trivial
  exact Solitary.bind _ keeps_updateToFailed fun later value _ =>
    Solitary.pure trivial

/-! ## `initPayment` -/

section InitPayment

variable {client : ClientPermission} {order : InitPaymentRequest}
variable {fee : ActiveFee}

/-- A session that is handed out again is that of the row. -/
def Reuses (config : Config) (fee : ActiveFee) (account : Account) :
    Option InitPaymentResponse → Prop
  | none => account = .reading
  | some session => ∃ row now token, account = .weighing row (some now) ∧
      row.transactionStatus = some .initiated ∧
      reusableToken now false row = some token ∧
      session = redirectTo config fee token

/-- Whatever it is that is retired, the account is lost. -/
theorem keeps_retire {row : Transaction} :
    Keeps config request (fun later _ => later = .reading) (retire row)
      account := by
  refine Solitary.bind (fun _ _ => True) ?_ ?_
  · unfold readExpiredInitiated
    split
    · exact Solitary.pure trivial
    · exact Solitary.bind (fun _ _ => True)
          (keeps_silent trivial fun _ => trivial)
        fun later now _ => Solitary.pure trivial
  · rintro later (_ | _) _
    · exact Solitary.bind _ keeps_updateToFailed fun later value lost =>
        Solitary.pure lost
    · refine Solitary.bind (fun later _ => later = .reading)
        (keeps_silent trivial fun _ => rfl) fun later value lost => ?_
      exact Solitary.pure lost

theorem reusableToken_of_stale {now : Int} {row : Transaction} :
    reusableToken now true row = none := by
  unfold reusableToken
  split <;> simp

theorem keeps_resolveInFlightTransaction {row : Transaction}
    (inFlight : row.transactionStatus = some .initiated ∨
      row.transactionStatus = some .processing) :
    Keeps config (.initPayment client order) (Reuses config fee)
      (resolveInFlightTransaction config row fee) (.weighing row none) := by
  refine Solitary.bind (fun later now => later = .weighing row (some now)) ?_ ?_
  · exact Solitary.operation fun now => ⟨_, .clock, rfl⟩
  rintro later now rfl
  rcases inFlight with initiated | processing
  · refine Solitary.bind (fun later stale =>
      later = .weighing row (some now) ∧ stale = false) ?_ ?_
    · rw [readStaleProcessing, if_pos (by simp [initiated])]
      exact Solitary.pure ⟨rfl, rfl⟩
    rintro later stale ⟨rfl, rfl⟩
    rw [if_neg (by simp [initiated])]
    cases reusable : reusableToken now false row with
    | some token =>
        exact Solitary.pure ⟨row, now, token, rfl, initiated, reusable, rfl⟩
    | none =>
        exact Solitary.bind _ keeps_retire fun later value lost =>
          Solitary.pure lost
  · refine Solitary.bind (fun _ _ => True) ?_ ?_
    · rw [readStaleProcessing, if_neg (by simp [processing])]
      exact Solitary.bind (fun _ _ => True)
          (keeps_silent trivial fun _ => trivial)
        fun later instant _ => Solitary.pure trivial
    rintro later (_ | _) _
    · rw [if_pos ⟨processing, rfl⟩]
      exact Solitary.throw trivial
    · rw [if_neg (by simp), reusableToken_of_stale]
      exact Solitary.bind _ keeps_retire fun later value lost =>
        Solitary.pure lost

theorem keeps_handleIfPaymentProcessedOrPending :
    Keeps config (.initPayment client order) (Reuses config fee)
      (handleIfPaymentProcessedOrPending config client.clientName
        order.transactionReferenceId fee) .reading := by
  refine Solitary.bind (fun later found =>
    (later = .reading ∧ ∀ row, found = some row →
      row.transactionStatus ≠ some .initiated ∧
        row.transactionStatus ≠ some .processing) ∨
      ∃ row, (row.transactionStatus = some .initiated ∨
          row.transactionStatus = some .processing) ∧
        later = .weighing row none ∧ found = some row) ?_ ?_
  · refine Solitary.operation ?_
    rintro (error | (_ | row))
    · exact ⟨.reading, .lose trivial, trivial⟩
    · exact ⟨.reading, .lose trivial, .inl ⟨rfl, by simp⟩⟩
    · by_cases inFlight : row.transactionStatus = some .initiated ∨
          row.transactionStatus = some .processing
      · exact ⟨_, .look, .inr ⟨row, inFlight, rfl, rfl⟩⟩
      · refine ⟨.reading, .lose trivial, .inl ⟨rfl, ?_⟩⟩
        rintro other same
        obtain rfl := Option.some.inj same
        exact not_or.mp inFlight
  · rintro later found (⟨rfl, other⟩ | ⟨row, inFlight, rfl, rfl⟩)
    · cases found with
      | none => exact Solitary.pure rfl
      | some row =>
          obtain ⟨notInitiated, notProcessing⟩ := other row rfl
          dsimp only
          split
          · exact absurd ‹_› notInitiated
          · exact absurd ‹_› notProcessing
          · exact Solitary.throw trivial
          · exact Solitary.throw trivial
          · exact Solitary.pure rfl
    · dsimp only
      rcases inFlight with initiated | processing
      · rw [initiated]
        exact keeps_resolveInFlightTransaction (.inl initiated)
      · rw [processing]
        exact keeps_resolveInFlightTransaction (.inr processing)

/-- What is recorded is the request's own attempt. -/
theorem keeps_recordReceivedTransaction {data : ReceivedTransactionParams} :
    Keeps config (.initPayment client order)
      (fun later _ => later = .holding data) (recordReceivedTransaction data)
      .reading := by
  refine Solitary.tryCatch (fun _ _ => True) ?_ ?_
  · refine Solitary.bind (fun later _ => later = .holding data) ?_ ?_
    · refine Solitary.bind (fun later _ => later = .holding data) ?_ ?_
      · refine Solitary.operation ?_
        rintro (error | ⟨⟩)
        · exact ⟨.reading, .lose trivial, trivial⟩
        · exact ⟨.holding data, .insert, rfl⟩
      · rintro later value rfl
        refine Solitary.operation ?_
        rintro (error | found)
        · exact ⟨.holding data, .readBack, trivial⟩
        · exact ⟨.holding data, .readBack, rfl⟩
    · rintro later value rfl
      exact Solitary.pure rfl
  · intro later error _
    split
    · refine Solitary.bind (fun _ _ => True) ?_ fun later value _ =>
        Solitary.throw trivial
      refine Solitary.bind (fun _ _ => True)
        (keeps_silent trivial fun _ => trivial) ?_
      rintro later (_ | paid) _
      · exact Solitary.pure trivial
      · exact Solitary.throw trivial
    · exact Solitary.throw trivial

/-- Where the answer of Pay.gov leads. -/
def Responds (data : ReceivedTransactionParams) (tcsAppId : String)
    (later : Account) : ResponseText → Prop
  | .startOnlineCollectionResponse token => later = .started data tcsAppId token
  | _ => True

/-- The retry loop of a start. -/
theorem keeps_postAttempts {data : ReceivedTransactionParams}
    {params : StartOnlineCollectionParams} (remaining : Nat)
    (own : params.agency_tracking_id = data.agencyTrackingId)
    (collected : CollectedBy config data.fee params.tcs_app_id) :
    Keeps config (.initPayment client order) (Responds data params.tcs_app_id)
      (postAttempts (.startOnlineCollection params) remaining)
      (.holding data) := by
  induction remaining with
  | zero => exact Solitary.throw trivial
  | succ remaining ih =>
      refine Solitary.bind (fun later reply =>
        (∃ error, reply = .error error ∧ later = .holding data) ∨
          ∃ text, reply = .ok text ∧
            Responds data params.tcs_app_id later text) ?_ ?_
      · refine Solitary.operation ?_
        rintro (error | text)
        · exact ⟨_, .unstarted own collected, .inl ⟨error, rfl, rfl⟩⟩
        · cases text with
          | startOnlineCollectionResponse token =>
              exact ⟨_, .start own collected, .inr ⟨_, rfl, rfl⟩⟩
          | completeOnlineCollectionWithDetailsResponse _
          | getDetailsResponse _ | schemaViolation | fault _ | unreadable _ =>
              exact ⟨_, .unstarted own collected, .inr ⟨_, rfl, trivial⟩⟩
      · rintro later reply (⟨error, rfl, rfl⟩ | ⟨text, rfl, responds⟩)
        · dsimp only
          split
          · exact Solitary.throw trivial
          · split
            · exact Solitary.throw trivial
            · exact ih
        · exact Solitary.pure responds

/-- The session is started under the application of the fee. -/
theorem keeps_startCollection {data : ReceivedTransactionParams}
    {params : StartOnlineCollectionParams}
    (own : params.agency_tracking_id = data.agencyTrackingId)
    (collected : CollectedBy config data.fee params.tcs_app_id) :
    Keeps config (.initPayment client order)
      (fun later token => later = .started data params.tcs_app_id token)
      (startCollection params) (.holding data) := by
  refine Solitary.tryCatch (fun _ _ => True) ?_ fun later error _ =>
    keeps_giveUp
  refine Solitary.bind _
    (keeps_postAttempts PAYGOV_MAX_ATTEMPTS own collected) ?_
  intro later text responds
  cases text with
  | startOnlineCollectionResponse token =>
      obtain rfl := responds
      dsimp only [StartOnlineCollectionRequest.checkToken]
      split
      · exact Solitary.pure rfl
      · exact Solitary.throw trivial
  | completeOnlineCollectionWithDetailsResponse _ | getDetailsResponse _
  | schemaViolation | fault _ | unreadable _ => exact Solitary.throw trivial

theorem keeps_recordToken {data : ReceivedTransactionParams}
    {tcsAppId token : String} :
    Keeps config (.initPayment client order)
      (fun later _ => later = .activated tcsAppId token)
      (recordToken data.agencyTrackingId token)
      (.started data tcsAppId token) := by
  refine Solitary.tryCatch (fun _ _ => True) ?_ fun later error _ =>
    keeps_giveUp
  refine Solitary.bind (fun later _ => later = .activated tcsAppId token) ?_
    fun later value reached => Solitary.pure reached
  refine Solitary.operation ?_
  rintro (error | count)
  · exact ⟨.reading, .lose trivial, trivial⟩
  · exact ⟨_, .activate, rfl⟩

theorem keeps_startNewAttempt
    (collected : CollectedBy config order.fee fee.tcsAppId) :
    Keeps config (.initPayment client order) (Grants config order)
      (startNewAttempt config client order fee) .reading := by
  refine Solitary.bind (fun later _ => later = .reading)
    (keeps_silent trivial fun _ => rfl) ?_
  rintro later agencyTrackingId rfl
  apply Solitary.bind _ keeps_recordReceivedTransaction
  rintro later value rfl
  apply Solitary.bind _ (keeps_startCollection rfl collected)
  rintro later token rfl
  apply Solitary.bind _ keeps_recordToken
  rintro later value rfl
  exact Solitary.pure ⟨fee, token, rfl, collected, .inr rfl⟩

/-- `initPayment` accounts for the session it returns. -/
theorem keeps_initPayment :
    Keeps config (.initPayment client order) (Grants config order)
      (initPayment config client order) .reading := by
  refine Solitary.bind (fun later _ => later = .reading) ?_ ?_
  · apply Solitary.computed
    cases authorizeClient client order.fee with
    | error error => exact trivial
    | ok _ => exact rfl
  rintro later authorized rfl
  refine Solitary.bind (fun later fee => later = .reading ∧
    CollectedBy config order.fee fee.tcsAppId) ?_ ?_
  · refine Solitary.bind (fun later _ => later = .reading)
      (keeps_silent trivial fun _ => rfl) ?_
    rintro later now rfl
    apply Solitary.computed
    cases resolved : resolveFee config now order.fee order.amount.isSome with
    | error error => exact trivial
    | ok fee => exact ⟨rfl, collectedBy_of_resolveFee resolved⟩
  rintro later fee ⟨rfl, collected⟩
  apply Solitary.bind _ keeps_handleIfPaymentProcessedOrPending
  rintro later (_ | session) reuses
  · exact reuses ▸ keeps_startNewAttempt collected
  · obtain ⟨row, now, token, rfl, initiated, reusable, rfl⟩ := reuses
    exact Solitary.pure ⟨fee, token, rfl, collected,
      .inl ⟨row, now, rfl, initiated, reusable⟩⟩

end InitPayment

/-! ## `processPayment` -/

section ProcessPayment

variable {client : ClientPermission} {order : ProcessPaymentRequest}
variable {row : Transaction}

/-- The loaded row and its fee. -/
theorem keeps_loadAuthorizedContext :
    Keeps config (.processPayment client order)
      (fun later fee => ∃ row, later = .loaded row ∧
        CollectedBy config row.fee fee.tcsAppId)
      (loadAuthorizedContext config client order) .reading := by
  refine Solitary.bind (fun later found => ∀ row, found = some row →
    later = .loaded row) ?_ ?_
  · refine Solitary.operation ?_
    rintro (error | (_ | row))
    · exact ⟨.reading, .lose trivial, trivial⟩
    · exact ⟨.reading, .lose trivial, by rintro row ⟨⟩⟩
    · refine ⟨_, .load, ?_⟩
      rintro other same
      rw [Option.some.inj same]
  · rintro later (_ | row) loaded
    · exact Solitary.throw trivial
    · obtain rfl := loaded row rfl
      dsimp only
      split
      · exact keeps_giveUp
      · rename_i fee resolved
        refine Solitary.bind (fun later _ => later = .loaded row) ?_ ?_
        · apply Solitary.computed
          cases authorizeClient client fee.fee with
          | error error => exact trivial
          | ok value => exact rfl
        · rintro later value rfl
          exact Solitary.pure ⟨row, rfl, collectedBy_of_getActiveFee resolved⟩

/-- What is returned has been claimed. -/
theorem keeps_claimProcessingTransaction :
    Keeps config (.processPayment client order)
      (fun later claimed => later = .claimed row claimed)
      (claimProcessingTransaction order.token) (.loaded row) := by
  refine Solitary.tryCatch (fun _ _ => True) ?_ fun later error _ =>
    Solitary.throw trivial
  refine Solitary.bind (fun later found => ∀ claimed, found = some claimed →
    later = .claimed row claimed) ?_ ?_
  · refine Solitary.bind (fun later reply => ∀ claimed,
      reply = .ok (some claimed) → later = .claimed row claimed) ?_ ?_
    · refine Solitary.operation ?_
      rintro (error | rejection | (_ | claimed))
      · exact ⟨.reading, .lose trivial, trivial⟩
      · exact ⟨.reading, .lose trivial, by rintro claimed ⟨⟩⟩
      · exact ⟨.reading, .lose trivial, by rintro claimed ⟨⟩⟩
      · exact ⟨_, .claim, by rintro other ⟨⟩; rfl⟩
    · rintro later (error | found) reached
      · exact Solitary.computed trivial
      · refine Solitary.computed fun claimed same => ?_
        exact reached claimed (congrArg Except.ok same)
  · rintro later (_ | claimed) reached
    · exact Solitary.throw trivial
    · exact Solitary.pure (reached claimed rfl)

/-- Where the completion of a claimed row leads. -/
def Completes (row : Transaction) (later : Account) :
    Except PortalError CompleteOnlineCollectionWithDetailsResponse → Prop
  | .ok result => later = .answered row result
  | .error (.failedTransaction _ _) => later = .faulted row
  | .error _ => True

/-- The text of a completion, by what the request makes of it. -/
def Receives (row : Transaction) (later : Account) (text : ResponseText) :
    Prop :=
  (∀ result, text = .completeOnlineCollectionWithDetailsResponse result →
    later = .answered row result) ∧
      (IsFault text = true → later = .faulted row)

/-- The retry loop of a completion; what it throws is no fault. -/
theorem keeps_completionAttempts {loaded : Transaction} {tcsAppId : String}
    (remaining : Nat) (collected : CollectedBy config loaded.fee tcsAppId) :
    Performs (accounting config (.processPayment client order)) (Receives row)
      (fun _ error => ∀ message code, error ≠ .failedTransaction message code)
      (postAttempts (.completeOnlineCollectionWithDetails tcsAppId order.token)
        remaining) (.claimed loaded row) := by
  induction remaining with
  | zero => exact Solitary.throw (by simp)
  | succ remaining ih =>
      refine Solitary.bind (fun later reply =>
        (∃ error, reply = .error error ∧ later = .claimed loaded row) ∨
          ∃ text, reply = .ok text ∧ Receives row later text) ?_ ?_
      · refine Solitary.operation ?_
        rintro (error | text)
        · exact ⟨_, .uncompleted collected, .inl ⟨error, rfl, rfl⟩⟩
        · cases text with
          | completeOnlineCollectionWithDetailsResponse result =>
              refine ⟨_, .complete collected, .inr ⟨_, rfl, ?_, ?_⟩⟩
              · rintro other ⟨⟩
                rfl
              · exact fun isFault => absurd isFault (by simp [IsFault])
          | schemaViolation | unreadable _ =>
              refine ⟨_, .uncompleted collected, .inr ⟨_, rfl, ?_, ?_⟩⟩
              · rintro other ⟨⟩
              · exact fun isFault => absurd isFault (by simp [IsFault])
          | startOnlineCollectionResponse _ | getDetailsResponse _ | fault _ =>
              refine ⟨_, .fault collected rfl, .inr ⟨_, rfl, ?_, ?_⟩⟩
              · rintro other ⟨⟩
              · exact fun _ => rfl
      · rintro later reply (⟨error, rfl, rfl⟩ | ⟨text, rfl, receives⟩)
        · dsimp only
          split
          · exact Solitary.throw (by simp)
          · split
            · exact Solitary.throw (by simp)
            · exact ih
        · exact Solitary.pure receives

theorem keeps_completeCollection {loaded : Transaction} {tcsAppId : String}
    (collected : CollectedBy config loaded.fee tcsAppId) :
    Keeps config (.processPayment client order) (Completes row)
      (completeCollection tcsAppId order.token) (.claimed loaded row) := by
  refine Solitary.tryCatch (fun later error => Completes row later
    (.error error)) ?_ fun later error completes => Solitary.pure completes
  refine Solitary.bind (fun later result => Completes row later (.ok result)) ?_
    fun later result completes => Solitary.pure completes
  refine Solitary.bind (Receives row)
    ((keeps_completionAttempts PAYGOV_MAX_ATTEMPTS collected).monoThrows ?_) ?_
  · intro later error noFault
    cases error with
    | failedTransaction message code =>
        exact absurd rfl (noFault message code)
    | _ => exact trivial
  · rintro later text ⟨result, fault⟩
    cases text with
    | completeOnlineCollectionWithDetailsResponse response =>
        exact Solitary.pure (result response rfl)
    | startOnlineCollectionResponse _ | getDetailsResponse _ =>
        exact Solitary.throw (fault rfl)
    | fault detail =>
        have faulted := fault rfl
        cases detail <;> exact Solitary.throw faulted
    | schemaViolation | unreadable _ => exact Solitary.throw trivial

/-- The final read and the response built from it. -/
theorem keeps_summarize {paymentStatus : PaymentStatus} :
    Keeps config (.processPayment client order) Reports
      (summarize row paymentStatus) (.settled row paymentStatus) := by
  refine Solitary.bind (fun later rows =>
    later = .surveyed paymentStatus rows) ?_ ?_
  · refine Solitary.operation ?_
    rintro (error | rows)
    · exact ⟨.reading, .lose trivial, trivial⟩
    · exact ⟨_, .survey, rfl⟩
  · rintro later rows rfl
    exact Solitary.pure ⟨paymentStatus, rows, rfl, rfl⟩

/-- After a fault the row is marked failed; other errors give no answer. -/
theorem keeps_handleCompletionError {error : PortalError}
    (completes : Completes row account (.error error)) :
    Keeps config (.processPayment client order) Reports
      (handleCompletionError row error) account := by
  cases error with
  | failedTransaction message code =>
      obtain rfl := completes
      refine Solitary.bind (fun later _ => later = .settled row .failed)
        (Solitary.bind (fun later _ => later = .settled row .failed) ?_ ?_) ?_
      · refine Solitary.operation ?_
        rintro (error | count)
        · exact ⟨.reading, .lose trivial, trivial⟩
        · exact ⟨_, .markFailed, rfl⟩
      · rintro later count rfl
        unfold TransactionModel.fetchPatched
        split
        · exact Solitary.pure rfl
        · refine Solitary.operation ?_
          rintro (error | found)
          · exact ⟨_, .confirm, trivial⟩
          · exact ⟨_, .confirm, rfl⟩
      · rintro later found rfl
        exact keeps_summarize
  | _ => exact keeps_giveUp

/-- A response is recorded under the guard, or no answer is given. -/
theorem keeps_recordResult
    {result : CompleteOnlineCollectionWithDetailsResponse} :
    Keeps config (.processPayment client order) Reports
      (recordResult row result) (.answered row result) := by
  refine Solitary.bind (fun later _ =>
    later = .settled row (responsePatch result).paymentStatus) ?_ ?_
  · refine Solitary.tryCatch (fun _ _ => True) ?_ ?_
    · refine Solitary.bind (fun later found => ∀ stored, found = some stored →
        later = .settled row (responsePatch result).paymentStatus) ?_ ?_
      · refine Solitary.operation ?_
        rintro (error | (_ | stored))
        · exact ⟨.reading, .lose trivial, trivial⟩
        · exact ⟨.reading, .lose trivial, by rintro stored ⟨⟩⟩
        · exact ⟨_, .persist, fun _ _ => rfl⟩
      · rintro later (_ | stored) settled
        · exact Solitary.throw trivial
        · exact Solitary.pure (settled stored rfl)
    · intro later error _
      cases error with
      | conflict message => exact Solitary.throw trivial
      | _ => exact keeps_giveUp
  · rintro later stored rfl
    exact keeps_summarize

/-- `processPayment` accounts for the payment it reports. -/
theorem keeps_processPayment :
    Keeps config (.processPayment client order) Reports
      (processPayment config client order) .reading := by
  apply Solitary.bind _ keeps_loadAuthorizedContext
  rintro later fee ⟨loaded, rfl, collected⟩
  apply Solitary.bind _ keeps_claimProcessingTransaction
  rintro later claimed rfl
  apply Solitary.bind _ (keeps_completeCollection collected)
  rintro later (error | result) completes
  · exact keeps_handleCompletionError completes
  · obtain rfl := completes
    exact keeps_recordResult

end ProcessPayment

/-! ## The portal -/

/-- Requests of other kinds give no account. -/
theorem conforms_accounting_other
    (notInit : ∀ client order, request ≠ .initPayment client order)
    (notProcess : ∀ client order, request ≠ .processPayment client order)
    (program : Program Op Reply α) :
    program.Conforms (accounting config request)
      (fun later _ => later = .reading) .reading := by
  induction program with
  | done value => exact fun _ same => same.symm
  | perform op next ih =>
      rintro _ rfl reply
      exact ⟨.reading, .other notInit notProcess, ih reply⟩

/-- Every request stays within the discipline. -/
theorem portal_accounts (request : Request) :
    ((portal config).program request).Conforms (accounting config request)
      (answers config request) .reading := by
  cases request with
  | initPayment client order =>
      have serves : Keeps config (.initPayment client order)
          (fun later response =>
            answers config (.initPayment client order) later (.ok response))
          (serve config (.initPayment client order)) .reading :=
        Solitary.map keeps_initPayment fun _ _ grants => grants
      apply Program.Conforms.mono serves
      rintro later (error | response) ended
      · exact trivial
      · exact ended
  | processPayment client order =>
      have serves : Keeps config (.processPayment client order)
          (fun later response =>
            answers config (.processPayment client order) later (.ok response))
          (serve config (.processPayment client order)) .reading :=
        Solitary.map keeps_processPayment fun _ _ reports => reports
      apply Program.Conforms.mono serves
      rintro later (error | response) ended
      · exact trivial
      · exact ended
  | getDetails _ _ | cancelExpiredTransactions =>
      apply Program.Conforms.mono
        (conforms_accounting_other (by simp) (by simp) _)
      exact fun _ _ _ => trivial

end PaymentPortal.Protocol
