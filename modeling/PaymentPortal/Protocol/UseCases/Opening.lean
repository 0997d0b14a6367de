import PaymentPortal.Interaction.Throwing
import PaymentPortal.Protocol.Knowledge

/-!
# Opening a session

`initPayment` as one of several that compete for an obligation: it finds a
session that another one has opened, or it records an attempt, starts a session
for it and activates the attempt.  This discipline keeps the token of a session
up to the answer of the request.  A request that meets a dead attempt, or a
database that fails, goes astray and is not followed any further; requests of
other kinds are not followed at all.
-/

namespace PaymentPortal.Protocol

open PaymentPortal.Interaction
open PaymentPortal.Model
open PaymentPortal.Model.InitPayment

/-- The phases of an `initPayment`. -/
inductive Opening where
  | reading
  | weighing (row : Transaction) (clock : Option Int)
  | holding (data : ReceivedTransactionParams)
  | started (data : ReceivedTransactionParams) (token : String)
  | activated (data : ReceivedTransactionParams) (token : String)
  | abandoned
  | rejected
  | astray
  | stopped

namespace Opening

/-- The attempt that has been recorded and not been decided about yet. -/
def held? : Opening → Option ReceivedTransactionParams
  | .holding data => some data
  | .started data _ => some data
  | _ => none

/-- How a request may end in a phase. -/
def Answers : Opening → Outcome → Prop
  | .weighing row _, outcome => ∀ response, outcome = .ok response →
      ∃ session, response = .session session ∧
        row.paygovToken = some session.token
  | .holding _, _ => False
  | .started _ _, _ => False
  | .activated _ token, outcome =>
      ∃ session, outcome = .ok (.session session) ∧ session.token = token
  | .astray, _ => True
  | .stopped, _ => False
  | _, outcome => ∃ error, outcome = .error error

/-- A request may end with any error in this phase. -/
def MayFail (phase : Opening) : Prop :=
  ∀ error, phase.Answers (.error error)

end Opening

/-- The operations of an `initPayment`, with the phases they lead through. -/
inductive Opens : Request → Opening → (op : Op) → Reply op → Opening → Prop
    where
  | other {request : Request} {op : Op} {reply : Reply op}
      (another : obligation? request = none) :
      Opens request .reading op reply .reading
  | prepare {client : ClientPermission} {order : InitPaymentRequest} {op : Op}
      {reply : Reply op} (passive : IsPassive op) :
      Opens (.initPayment client order) .reading op reply .reading
  | look {client : ClientPermission} {order : InitPaymentRequest}
      {row : Transaction}
      (initiated : row.transactionStatus = some .initiated) :
      Opens (.initPayment client order) .reading
        (.db (.findByReferenceIdAndTransactionStatus client.clientName
          order.transactionReferenceId IN_FLIGHT_OR_PAID))
        (.ok (some row)) (.weighing row none)
  | lookElsewhere {client : ClientPermission} {order : InitPaymentRequest}
      {row : Transaction}
      (uninitiated : row.transactionStatus ≠ some .initiated) :
      Opens (.initPayment client order) .reading
        (.db (.findByReferenceIdAndTransactionStatus client.clientName
          order.transactionReferenceId IN_FLIGHT_OR_PAID))
        (.ok (some row)) .astray
  | lookMissed {client : ClientPermission} {order : InitPaymentRequest}
      {reply : Reply (.db (.findByReferenceIdAndTransactionStatus
        client.clientName order.transactionReferenceId IN_FLIGHT_OR_PAID))}
      (missed : ∀ row, reply ≠ .ok (some row)) :
      Opens (.initPayment client order) .reading
        (.db (.findByReferenceIdAndTransactionStatus client.clientName
          order.transactionReferenceId IN_FLIGHT_OR_PAID))
        reply .reading
  | clock {client : ClientPermission} {order : InitPaymentRequest}
      {row : Transaction} {earlier : Option Int} {now : Int} :
      Opens (.initPayment client order) (.weighing row earlier) .now now
        (.weighing row (some now))
  | stray {client : ClientPermission} {order : InitPaymentRequest}
      {row : Transaction} {now : Int} {op : Op} {reply : Reply op}
      (dead : reusableToken now false row = none) :
      Opens (.initPayment client order) (.weighing row (some now)) op reply
        .astray
  | insert {client : ClientPermission} {order : InitPaymentRequest}
      {data : ReceivedTransactionParams} (fits : Fits client order data) :
      Opens (.initPayment client order) .reading (.db (.createReceived data))
        (.ok ()) (.holding data)
  | insertFailed {client : ClientPermission} {order : InitPaymentRequest}
      {data : ReceivedTransactionParams} {error : SqlState} :
      Opens (.initPayment client order) .reading (.db (.createReceived data))
        (.error error) .rejected
  | readBack {client : ClientPermission} {order : InitPaymentRequest}
      {data : ReceivedTransactionParams} {found : Option Transaction} :
      Opens (.initPayment client order) (.holding data)
        (.db (.findById data.agencyTrackingId)) (.ok found) (.holding data)
  | unread {client : ClientPermission} {order : InitPaymentRequest}
      {data : ReceivedTransactionParams} {error : SqlState} :
      Opens (.initPayment client order) (.holding data)
        (.db (.findById data.agencyTrackingId)) (.error error) .astray
  | start {client : ClientPermission} {order : InitPaymentRequest}
      {data : ReceivedTransactionParams} {params : StartOnlineCollectionParams}
      {token : String} :
      Opens (.initPayment client order) (.holding data)
        (.fetch (.startOnlineCollection params))
        (.ok (.startOnlineCollectionResponse token)) (.started data token)
  | unstarted {client : ClientPermission} {order : InitPaymentRequest}
      {data : ReceivedTransactionParams} {params : StartOnlineCollectionParams}
      {reply : Reply (.fetch (.startOnlineCollection params))} :
      Opens (.initPayment client order) (.holding data)
        (.fetch (.startOnlineCollection params)) reply (.holding data)
  | activate {client : ClientPermission} {order : InitPaymentRequest}
      {data : ReceivedTransactionParams} {token : String} {count : Nat}
      (valid : token.length = 32) :
      Opens (.initPayment client order) (.started data token)
        (.db (.updateToInitiated data.agencyTrackingId token)) (.ok count)
        (.activated data token)
  | unactivated {client : ClientPermission} {order : InitPaymentRequest}
      {data : ReceivedTransactionParams} {token : String} {error : SqlState} :
      Opens (.initPayment client order) (.started data token)
        (.db (.updateToInitiated data.agencyTrackingId token)) (.error error)
        (.holding data)
  | abandon {client : ClientPermission} {order : InitPaymentRequest}
      {phase : Opening} {data : ReceivedTransactionParams} {code : Option Int}
      {detail : Option String} {count : Nat} (held : phase.held? = some data) :
      Opens (.initPayment client order) phase
        (.db (.updateToFailed data.agencyTrackingId code detail)) (.ok count)
        .abandoned
  | unabandoned {client : ClientPermission} {order : InitPaymentRequest}
      {phase : Opening} {data : ReceivedTransactionParams} {code : Option Int}
      {detail : Option String} {error : SqlState}
      (held : phase.held? = some data) :
      Opens (.initPayment client order) phase
        (.db (.updateToFailed data.agencyTrackingId code detail))
        (.error error) .astray
  | closing {client : ClientPermission} {order : InitPaymentRequest}
      {phase : Opening} {op : Op} {reply : Reply op}
      (closing : phase = .abandoned ∨ phase = .rejected)
      (passive : IsPassive op) :
      Opens (.initPayment client order) phase op reply phase
  | astray {client : ClientPermission} {order : InitPaymentRequest} {op : Op}
      {reply : Reply op} :
      Opens (.initPayment client order) .astray op reply .astray

/-- The discipline of a request that opens a session. -/
def opening (request : Request) : Discipline Op Reply Opening :=
  .solitary (Opens request)

/-- How an `initPayment` ends; other requests end anyhow. -/
def closes (request : Request) (phase : Opening) (outcome : Outcome) : Prop :=
  (obligation? request).isSome → phase.Answers outcome

/-! ## Rules -/

section Rules

variable {client : ClientPermission} {order : InitPaymentRequest}
variable {phase : Opening} {α : Type}

/-- The task stays within the discipline and may fail where it throws. -/
abbrev Competes (client : ClientPermission) (order : InitPaymentRequest)
    (returns : Opening → α → Prop) (task : Async α) (phase : Opening) : Prop :=
  Performs (opening (.initPayment client order)) returns
    (fun later _ => later.MayFail) task phase

theorem mayFail_reading : Opening.reading.MayFail :=
  fun error => ⟨error, rfl⟩

theorem mayFail_abandoned : Opening.abandoned.MayFail :=
  fun error => ⟨error, rfl⟩

theorem mayFail_rejected : Opening.rejected.MayFail :=
  fun error => ⟨error, rfl⟩

theorem mayFail_astray : Opening.astray.MayFail :=
  fun _ => trivial

/-- A request that has gone astray is not followed. -/
theorem competes_astray (task : Async α) :
    Competes client order (fun later _ => later = .astray) task .astray := by
  have unfollowed : ∀ program : Program Op Reply (Except PortalError α),
      program.Conforms (opening (.initPayment client order))
        (fun later _ => later = .astray) .astray := by
    intro program
    induction program with
    | done value => exact fun _ same => same.symm
    | perform op next ih =>
        rintro _ rfl reply
        exact ⟨.astray, .astray, ih reply⟩
  apply Program.Conforms.mono (unfollowed task.run)
  rintro later (error | value) rfl
  · exact mayFail_astray
  · rfl

/-- Where a session is found, its token is that of the row. -/
def ShortCircuit (later : Opening) (result : Option InitPaymentResponse) :
    Prop :=
  later = .astray ∨ (later = .reading ∧ result = none) ∨
    ∃ row clock session, later = .weighing row clock ∧ result = some session ∧
      row.paygovToken = some session.token

/-- The token that is handed out is the one of the row. -/
theorem paygovToken_of_reusableToken {now : Int} {stale : Bool}
    {row : Transaction} {token : String}
    (reusable : reusableToken now stale row = some token) :
    row.paygovToken = some token := by
  unfold reusableToken at reusable
  split at reusable
  · rename_i own hasToken
    split at reusable
    · rw [hasToken, reusable]
    · exact absurd reusable (by simp)
  · exact absurd reusable (by simp)

/-- A dead row is retired on a path that is not followed. -/
theorem competes_retire {row : Transaction} {now : Int}
    (initiated : row.transactionStatus = some .initiated)
    (dead : reusableToken now false row = none) :
    Competes client order (fun later _ => later = .astray) (retire row)
      (.weighing row (some now)) := by
  refine Solitary.bind (fun later _ => later = .astray) ?_ ?_
  · rw [readExpiredInitiated, if_neg (not_not.mpr initiated)]
    refine Solitary.bind (fun later _ => later = .astray) ?_ ?_
    · exact Solitary.operation fun reply => ⟨.astray, .stray dead, rfl⟩
    · rintro later clock rfl
      exact competes_astray _
  · rintro later expired rfl
    exact competes_astray _

/-- A session that is found is handed out, unless it is dead. -/
theorem competes_resolveInFlightTransaction {config : Config}
    {row : Transaction} {fee : ActiveFee}
    (initiated : row.transactionStatus = some .initiated) :
    Competes client order ShortCircuit
      (resolveInFlightTransaction config row fee) (.weighing row none) := by
  refine Solitary.bind (fun later now => later = .weighing row (some now)) ?_ ?_
  · exact Solitary.operation fun now => ⟨_, .clock, rfl⟩
  · rintro later now rfl
    refine Solitary.bind (fun later stale =>
      later = .weighing row (some now) ∧ stale = false) ?_ ?_
    · rw [readStaleProcessing, if_pos (by simp [initiated])]
      exact Solitary.pure ⟨rfl, rfl⟩
    · rintro later stale ⟨rfl, rfl⟩
      rw [if_neg (by simp [initiated])]
      cases reusable : reusableToken now false row with
      | some token =>
          refine Solitary.pure (.inr (.inr ⟨row, some now, _, rfl, rfl, ?_⟩))
          exact paygovToken_of_reusableToken reusable
      | none =>
          apply Solitary.bind _ (competes_retire initiated reusable)
          rintro later value rfl
          exact Solitary.pure (.inl rfl)

/-- The lookup: a session is found, or nothing, or the request goes astray. -/
theorem competes_handleIfPaymentProcessedOrPending {config : Config}
    {fee : ActiveFee} :
    Competes client order ShortCircuit
      (handleIfPaymentProcessedOrPending config client.clientName
        order.transactionReferenceId fee) .reading := by
  refine Solitary.bind (fun later found =>
    (later = .reading ∧ found = none) ∨ later = .astray ∨
      ∃ row, row.transactionStatus = some .initiated ∧
        later = .weighing row none ∧ found = some row) ?_ ?_
  · refine Solitary.operation ?_
    rintro (error | (_ | row))
    · exact ⟨.reading, .lookMissed (by simp), mayFail_reading⟩
    · exact ⟨.reading, .lookMissed (by simp), .inl ⟨rfl, rfl⟩⟩
    · by_cases initiated : row.transactionStatus = some .initiated
      · exact ⟨_, .look initiated, .inr (.inr ⟨row, initiated, rfl, rfl⟩)⟩
      · exact ⟨.astray, .lookElsewhere initiated, .inr (.inl rfl)⟩
  · rintro later found (⟨rfl, rfl⟩ | rfl | ⟨row, initiated, rfl, rfl⟩)
    · exact Solitary.pure (.inr (.inl ⟨rfl, rfl⟩))
    · exact (competes_astray _).mono (fun _ _ astray => .inl astray)
        fun _ _ fails => fails
    · dsimp only
      rw [initiated]
      exact competes_resolveInFlightTransaction initiated

/-- Reads that follow a decision do not change the phase. -/
theorem competes_closing {op : Op} {convert : Reply op → Except PortalError α}
    (closing : phase = .abandoned ∨ phase = .rejected) (passive : IsPassive op) :
    Competes client order (fun later _ => later = phase)
      (ExceptT.mk (.perform op fun reply => .done (convert reply))) phase := by
  refine Solitary.operation fun reply => ⟨phase, .closing closing passive, ?_⟩
  cases convert reply with
  | ok value => exact rfl
  | error error =>
      rcases closing with rfl | rfl
      · exact mayFail_abandoned
      · exact mayFail_rejected

/-- A recorded attempt is the request's own; a rejected one is an error. -/
theorem competes_recordReceivedTransaction {data : ReceivedTransactionParams}
    (fits : Fits client order data) :
    Competes client order
      (fun later _ => later = .holding data ∨ later = .astray)
      (recordReceivedTransaction data) .reading := by
  refine Solitary.tryCatch (fun later _ =>
    later = .rejected ∨ later = .astray) ?_ ?_
  · refine Solitary.bind (fun later _ => later = .holding data) ?_ ?_
    · refine Solitary.bind (fun later _ => later = .holding data) ?_ ?_
      · refine Solitary.operation ?_
        rintro (error | ⟨⟩)
        · exact ⟨.rejected, .insertFailed, .inl rfl⟩
        · exact ⟨.holding data, .insert fits, rfl⟩
      · rintro later value rfl
        refine Solitary.operation ?_
        rintro (error | found)
        · exact ⟨.astray, .unread, .inr rfl⟩
        · exact ⟨.holding data, .readBack, rfl⟩
    · rintro later value rfl
      exact Solitary.pure (.inl rfl)
  · rintro later error (rfl | rfl)
    · split
      · refine Solitary.bind (fun later _ => later = .rejected) ?_ ?_
        · refine Solitary.bind _ (competes_closing (.inr rfl) trivial) ?_
          rintro later (_ | alreadyPaid) rfl
          · exact Solitary.pure rfl
          · exact Solitary.throw mayFail_rejected
        · rintro later value rfl
          exact Solitary.throw mayFail_rejected
      · exact Solitary.throw mayFail_rejected
    · exact (competes_astray _).mono (fun _ _ astray => .inr astray)
        fun _ _ fails => fails

/-- Where the answer of Pay.gov leads. -/
def Responded (data : ReceivedTransactionParams) (later : Opening) :
    ResponseText → Prop
  | .startOnlineCollectionResponse token => later = .started data token
  | _ => later = .holding data

/-- The retry loop of a start. -/
theorem competes_postAttempts {data : ReceivedTransactionParams}
    {params : StartOnlineCollectionParams} (remaining : Nat) :
    Performs (opening (.initPayment client order)) (Responded data)
      (fun later _ => later = .holding data)
      (postAttempts (.startOnlineCollection params) remaining)
      (.holding data) := by
  induction remaining with
  | zero => exact Solitary.throw rfl
  | succ remaining ih =>
      refine Solitary.bind (fun later reply =>
        (∃ error, reply = .error error ∧ later = .holding data) ∨
          ∃ text, reply = .ok text ∧ Responded data later text) ?_ ?_
      · refine Solitary.operation ?_
        rintro (error | text)
        · exact ⟨.holding data, .unstarted, .inl ⟨error, rfl, rfl⟩⟩
        · cases text with
          | startOnlineCollectionResponse token =>
              exact ⟨.started data token, .start, .inr ⟨_, rfl, rfl⟩⟩
          | completeOnlineCollectionWithDetailsResponse _
          | getDetailsResponse _ | schemaViolation | fault _ | unreadable _ =>
              exact ⟨.holding data, .unstarted, .inr ⟨_, rfl, rfl⟩⟩
      · rintro later reply (⟨error, rfl, rfl⟩ | ⟨text, rfl, responded⟩)
        · dsimp only
          split
          · exact Solitary.throw rfl
          · split
            · exact Solitary.throw rfl
            · exact ih
        · exact Solitary.pure responded

/-- An attempt that is given up is marked failed. -/
theorem competes_safeUpdateToFailed {data : ReceivedTransactionParams}
    {code : Option Int} {detail : Option String}
    (held : phase.held? = some data) :
    Competes client order (fun later _ => later.MayFail)
      (safeUpdateToFailed data.agencyTrackingId code detail) phase := by
  refine Solitary.tryCatch (fun later _ => later.MayFail) ?_ ?_
  · refine Solitary.bind (fun later _ => later = .abandoned) ?_ ?_
    · refine Solitary.bind (fun later _ => later = .abandoned) ?_ ?_
      · refine Solitary.operation ?_
        rintro (error | count)
        · exact ⟨.astray, .unabandoned held, mayFail_astray⟩
        · exact ⟨.abandoned, .abandon held, rfl⟩
      · rintro later count rfl
        unfold TransactionModel.fetchPatched
        split
        · exact Solitary.pure rfl
        · exact competes_closing (.inl rfl) trivial
    · rintro later value rfl
      exact Solitary.pure mayFail_abandoned
  · exact fun later error fails => Solitary.pure fails

/-- The session is started for the own attempt, or the attempt is failed. -/
theorem competes_startCollection {data : ReceivedTransactionParams}
    {params : StartOnlineCollectionParams}
    (own : params.agency_tracking_id = data.agencyTrackingId) :
    Competes client order
      (fun later token => later = .started data token ∧ token.length = 32)
      (startCollection params) (.holding data) := by
  refine Solitary.tryCatch (fun later _ => later.held? = some data) ?_ ?_
  · refine Solitary.bind (Responded data)
      ((competes_postAttempts PAYGOV_MAX_ATTEMPTS).monoThrows ?_) ?_
    · rintro later error rfl
      rfl
    · intro later text responded
      cases text with
      | startOnlineCollectionResponse token =>
          obtain rfl := responded
          dsimp only [StartOnlineCollectionRequest.checkToken]
          split
          · rename_i valid
            exact Solitary.pure ⟨rfl, valid⟩
          · exact Solitary.throw rfl
      | completeOnlineCollectionWithDetailsResponse _ | getDetailsResponse _
      | schemaViolation | fault _ | unreadable _ =>
          obtain rfl := responded
          exact Solitary.throw rfl
  · intro later error held
    rw [own]
    exact Solitary.bind _ (competes_safeUpdateToFailed held)
      fun later value fails => Solitary.throw fails

/-- The token is stored, or the attempt is failed. -/
theorem competes_recordToken {data : ReceivedTransactionParams}
    {token : String} (valid : token.length = 32) :
    Competes client order (fun later _ => later = .activated data token)
      (recordToken data.agencyTrackingId token) (.started data token) := by
  refine Solitary.tryCatch (fun later _ => later = .holding data) ?_ ?_
  · refine Solitary.bind (fun later _ => later = .activated data token) ?_ ?_
    · refine Solitary.operation ?_
      rintro (error | count)
      · exact ⟨.holding data, .unactivated, rfl⟩
      · exact ⟨.activated data token, .activate valid, rfl⟩
    · rintro later count rfl
      exact Solitary.pure rfl
  · rintro later error rfl
    exact Solitary.bind _ (competes_safeUpdateToFailed rfl)
      fun later value fails => Solitary.throw fails

/-- A new attempt: insert, start, activate. -/
theorem competes_startNewAttempt {config : Config} {fee : ActiveFee} :
    Competes client order
      (fun later session => later.Answers (.ok (.session session)))
      (startNewAttempt config client order fee) .reading := by
  refine Solitary.bind (fun later _ => later = .reading) ?_ ?_
  · exact Solitary.operation fun id => ⟨.reading, .prepare trivial, rfl⟩
  · rintro later agencyTrackingId rfl
    apply Solitary.bind _ (competes_recordReceivedTransaction ⟨rfl, rfl, rfl⟩)
    rintro later value (rfl | rfl)
    · apply Solitary.bind _ (competes_startCollection rfl)
      rintro later token ⟨rfl, valid⟩
      apply Solitary.bind _ (competes_recordToken valid)
      rintro later value rfl
      exact Solitary.pure ⟨_, rfl, rfl⟩
    · exact (competes_astray _).mono (fun _ _ astray => astray ▸ trivial)
        fun _ _ fails => fails

/-- `initPayment` answers with the token of a session, if it answers at all. -/
theorem competes_initPayment {config : Config} :
    Competes client order
      (fun later session => later.Answers (.ok (.session session)))
      (initPayment config client order) .reading := by
  refine Solitary.bind (fun later _ => later = .reading) ?_ ?_
  · apply Solitary.computed
    cases authorizeClient client order.fee with
    | error error => exact mayFail_reading
    | ok _ => exact rfl
  · rintro later authorized rfl
    refine Solitary.bind (fun later _ => later = .reading) ?_ ?_
    · refine Solitary.bind (fun later _ => later = .reading) ?_ ?_
      · exact Solitary.operation fun now => ⟨.reading, .prepare trivial, rfl⟩
      · rintro later now rfl
        apply Solitary.computed
        cases resolveFee config now order.fee order.amount.isSome with
        | error error => exact mayFail_reading
        | ok fee => exact rfl
    · rintro later fee rfl
      apply Solitary.bind _ competes_handleIfPaymentProcessedOrPending
      rintro later result
        (rfl | ⟨rfl, rfl⟩ | ⟨row, clock, session, rfl, rfl, hasToken⟩)
      · exact (competes_astray _).mono (fun _ _ astray => astray ▸ trivial)
          fun _ _ fails => fails
      · exact competes_startNewAttempt
      · refine Solitary.pure ?_
        rintro response same
        obtain rfl := Except.ok.inj same
        exact ⟨session, rfl, hasToken⟩

end Rules

/-! ## The portal -/

/-- Requests of other kinds are not followed. -/
theorem conforms_opening_other {request : Request}
    (another : obligation? request = none) {α : Type}
    (program : Program Op Reply α) :
    program.Conforms (opening request) (fun later _ => later = .reading)
      .reading := by
  induction program with
  | done value => exact fun _ same => same.symm
  | perform op next ih =>
      rintro _ rfl reply
      exact ⟨.reading, .other another, ih reply⟩

/-- Every request stays within the discipline. -/
theorem portal_opens {config : Config} (request : Request) :
    ((portal config).program request).Conforms (opening request)
      (closes request) .reading := by
  cases request with
  | initPayment client order =>
      have serves : Competes client order
          (fun later response => later.Answers (.ok response))
          (serve config (.initPayment client order)) .reading :=
        Solitary.map competes_initPayment fun _ _ answers => answers
      apply Program.Conforms.mono serves
      rintro later (error | response) ended
      · exact fun _ => ended error
      · exact fun _ => ended
  | processPayment _ _ | getDetails _ _ | cancelExpiredTransactions =>
      apply Program.Conforms.mono (conforms_opening_other rfl _)
      rintro later outcome rfl opens
      exact absurd opens (by simp [obligation?])

end PaymentPortal.Protocol
