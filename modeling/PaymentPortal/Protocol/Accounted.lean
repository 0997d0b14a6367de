import PaymentPortal.Interaction.Traces
import PaymentPortal.Protocol.History
import PaymentPortal.Protocol.UseCases.Account

/-!
# What a request has done that gives an account

`Accounted` says for every account of an `initPayment` or `processPayment` what
the trace of the request is.  What such a request has sent to Pay.gov is
`Addressed`: it names the application that collects the fee of the row it is
about.
-/

namespace PaymentPortal.Protocol

open PaymentPortal.Interaction
open PaymentPortal.Model
open PaymentPortal.Model.ProcessPayment

/-- The entry is this operation, with this reply. -/
def Logs (entry : LogEntry) (op : Op) (reply : Reply op) : Prop :=
  ∃ caller before after, entry = ⟨caller, op, reply, before, after⟩

/-- The session of the token has been started under the application. -/
def Starts (entry : LogEntry) (tcsAppId token : String) : Prop :=
  ∃ params, params.tcs_app_id = tcsAppId ∧
    Logs entry (.fetch (.startOnlineCollection params))
      (.ok (.startOnlineCollectionResponse token))

/-- The newest operation is a completion of the token that Pay.gov refused. -/
def Faulted (token : String) (trace : List LogEntry) : Prop :=
  ∃ entry rest tcsAppId text, trace = entry :: rest ∧ IsFault text = true ∧
    Logs entry (.fetch (.completeOnlineCollectionWithDetails tcsAppId token))
      (.ok text)

/-- The write with which a request has decided about its payment. -/
inductive Writes (token : String) (row : Transaction) (write : LogEntry)
    (older : List LogEntry) : PaymentStatus → Prop where
  | recorded {result : CompleteOnlineCollectionWithDetailsResponse}
      {stored : Transaction}
      (logs : Logs write (.db (.updateAfterPayGovResponseIf
        row.agencyTrackingId (responsePatch result) .processing))
        (.ok (some stored))) :
      Writes token row write older (responsePatch result).paymentStatus
  | marked {code : Option Int} {detail : Option String} {count : Nat}
      (logs : Logs write
        (.db (.updateToFailed row.agencyTrackingId code detail)) (.ok count))
      (faulted : Faulted token older) :
      Writes token row write older .failed

/-- The request has decided about its payment and at most read since. -/
def Settled (token : String) (trace : List LogEntry) (row : Transaction)
    (paymentStatus : PaymentStatus) : Prop :=
  ∃ confirms write older, trace = confirms ++ write :: older ∧
    (∀ entry ∈ confirms, ∃ reply,
      Logs entry (.db (.findById row.agencyTrackingId)) reply) ∧
    Writes token row write older paymentStatus

/-- What the trace of a request is, given its account. -/
inductive Accounted (trace : List LogEntry) : Request → Account → Prop where
  | reading {request : Request} : Accounted trace request .reading
  | stopped {request : Request} : Accounted trace request .stopped
  | weighing {client : ClientPermission} {order : InitPaymentRequest}
      {row : Transaction} {entry : LogEntry} {rest : List LogEntry}
      (trace_eq : trace = entry :: rest)
      (found : Logs entry (.db (.findByReferenceIdAndTransactionStatus
        client.clientName order.transactionReferenceId IN_FLIGHT_OR_PAID))
        (.ok (some row))) :
      Accounted trace (.initPayment client order) (.weighing row none)
  | weighed {client : ClientPermission} {order : InitPaymentRequest}
      {row : Transaction} {now : Int} {clock entry : LogEntry}
      {rest : List LogEntry} (trace_eq : trace = clock :: entry :: rest)
      (read : Logs clock .now now)
      (found : Logs entry (.db (.findByReferenceIdAndTransactionStatus
        client.clientName order.transactionReferenceId IN_FLIGHT_OR_PAID))
        (.ok (some row))) :
      Accounted trace (.initPayment client order) (.weighing row (some now))
  | holding {client : ClientPermission} {order : InitPaymentRequest}
      {data : ReceivedTransactionParams}
      (inserted : ∃ entry ∈ trace,
        Logs entry (.db (.createReceived data)) (.ok ())) :
      Accounted trace (.initPayment client order) (.holding data)
  | started {client : ClientPermission} {order : InitPaymentRequest}
      {data : ReceivedTransactionParams} {tcsAppId token : String}
      (started : ∃ entry ∈ trace, Starts entry tcsAppId token) :
      Accounted trace (.initPayment client order)
        (.started data tcsAppId token)
  | activated {client : ClientPermission} {order : InitPaymentRequest}
      {tcsAppId token : String}
      (started : ∃ entry ∈ trace, Starts entry tcsAppId token) :
      Accounted trace (.initPayment client order) (.activated tcsAppId token)
  | loaded {client : ClientPermission} {order : ProcessPaymentRequest}
      {row : Transaction}
      (loaded : ∃ entry ∈ trace, Logs entry
        (.db (.findByPaygovToken order.token)) (.ok (some row))) :
      Accounted trace (.processPayment client order) (.loaded row)
  | claimed {client : ClientPermission} {order : ProcessPaymentRequest}
      {loaded row : Transaction}
      (isLoaded : ∃ entry ∈ trace, Logs entry
        (.db (.findByPaygovToken order.token)) (.ok (some loaded)))
      (claimed : ∃ entry ∈ trace, Returns entry order.token row) :
      Accounted trace (.processPayment client order) (.claimed loaded row)
  | answered {client : ClientPermission} {order : ProcessPaymentRequest}
      {row : Transaction} {result : CompleteOnlineCollectionWithDetailsResponse}
      (claimed : ∃ entry ∈ trace, Returns entry order.token row) :
      Accounted trace (.processPayment client order) (.answered row result)
  | faulted {client : ClientPermission} {order : ProcessPaymentRequest}
      {row : Transaction}
      (claimed : ∃ entry ∈ trace, Returns entry order.token row)
      (faulted : Faulted order.token trace) :
      Accounted trace (.processPayment client order) (.faulted row)
  | settled {client : ClientPermission} {order : ProcessPaymentRequest}
      {row : Transaction} {paymentStatus : PaymentStatus}
      (claimed : ∃ entry ∈ trace, Returns entry order.token row)
      (settled : Settled order.token trace row paymentStatus) :
      Accounted trace (.processPayment client order)
        (.settled row paymentStatus)
  | surveyed {client : ClientPermission} {order : ProcessPaymentRequest}
      {row : Transaction} {paymentStatus : PaymentStatus}
      {rows : List Transaction} {survey : LogEntry} {rest : List LogEntry}
      (claimed : ∃ entry ∈ trace, Returns entry order.token row)
      (trace_eq : trace = survey :: rest)
      (surveys : Logs survey
        (.db (.findByReferenceId row.transactionReferenceId)) (.ok rows))
      (settled : Settled order.token rest row paymentStatus) :
      Accounted trace (.processPayment client order)
        (.surveyed paymentStatus rows)

/-- A request to Pay.gov names the application of the fee of its row. -/
structure Addressed (config : Config) (entry : LogEntry) : Prop where
  started : ∀ params, entry.op = .fetch (.startOnlineCollection params) →
    ∃ row ∈ entry.before.table.rows,
      row.agencyTrackingId = params.agency_tracking_id ∧
        CollectedBy config row.fee params.tcs_app_id
  completed : ∀ tcsAppId token, entry.op =
      .fetch (.completeOnlineCollectionWithDetails tcsAppId token) →
    ∃ row ∈ entry.before.table.rows, row.paygovToken = some token ∧
      CollectedBy config row.fee tcsAppId

variable {config : Config} {trace : List LogEntry} {request : Request}
variable {account next : Account} {before after : World} {fate : Fate}
variable {caller : Nat} {op : Op} {reply : Reply op}

/-! ## One operation -/

theorem exists_mem_cons {entry : LogEntry} {holds : LogEntry → Prop}
    (found : ∃ other ∈ trace, holds other) :
    ∃ other ∈ entry :: trace, holds other := by
  obtain ⟨other, member, isOne⟩ := found
  exact ⟨other, List.mem_cons_of_mem _ member, isOne⟩

/-- What an operation adds to the trace of an account. -/
theorem Accounted.step (accounted : Accounted trace request account)
    (accounts : Accounts config request account op reply next) :
    Accounted (⟨caller, op, reply, before, after⟩ :: trace) request next := by
  cases accounts with
  | lose silent => exact .reading
  | other notInit notProcess => exact .reading
  | look => exact .weighing rfl ⟨caller, before, after, rfl⟩
  | clock =>
      cases accounted with
      | weighing trace_eq found =>
          exact .weighed (congrArg _ trace_eq) ⟨caller, before, after, rfl⟩
            found
  | insert =>
      exact .holding ⟨_, List.mem_cons_self, caller, before, after, rfl⟩
  | readBack =>
      cases accounted with
      | holding inserted => exact .holding (exists_mem_cons inserted)
  | start own collected =>
      exact .started
        ⟨_, List.mem_cons_self, _, rfl, caller, before, after, rfl⟩
  | unstarted own collected =>
      cases accounted with
      | holding inserted => exact .holding (exists_mem_cons inserted)
  | activate =>
      cases accounted with
      | started started => exact .activated (exists_mem_cons started)
  | load => exact .loaded ⟨_, List.mem_cons_self, caller, before, after, rfl⟩
  | claim =>
      cases accounted with
      | loaded loaded =>
          exact .claimed (exists_mem_cons loaded)
            ⟨_, List.mem_cons_self, caller, before, after, rfl⟩
  | complete collected =>
      cases accounted with
      | claimed isLoaded claimed => exact .answered (exists_mem_cons claimed)
  | fault collected isFault =>
      cases accounted with
      | claimed isLoaded claimed =>
          exact .faulted (exists_mem_cons claimed)
            ⟨_, trace, _, _, rfl, isFault, caller, before, after, rfl⟩
  | uncompleted collected =>
      cases accounted with
      | claimed isLoaded claimed =>
          exact .claimed (exists_mem_cons isLoaded) (exists_mem_cons claimed)
  | persist =>
      cases accounted with
      | answered claimed =>
          exact .settled (exists_mem_cons claimed) ⟨[], _, trace, rfl, by simp,
            .recorded ⟨caller, before, after, rfl⟩⟩
  | markFailed =>
      cases accounted with
      | faulted claimed faulted =>
          exact .settled (exists_mem_cons claimed) ⟨[], _, trace, rfl, by simp,
            .marked ⟨caller, before, after, rfl⟩ faulted⟩
  | confirm =>
      cases accounted with
      | settled claimed settled =>
          obtain ⟨confirms, write, older, rfl, reads, writes⟩ := settled
          refine .settled (exists_mem_cons claimed)
            ⟨_ :: confirms, write, older, rfl, ?_, writes⟩
          intro entry member
          rcases List.mem_cons.mp member with rfl | old
          · exact ⟨_, caller, before, after, rfl⟩
          · exact reads entry old
  | survey =>
      cases accounted with
      | settled claimed settled =>
          exact .surveyed (exists_mem_cons claimed) rfl
            ⟨caller, before, after, rfl⟩ settled

/-- The requests that give an account. -/
def IsFollowed (request : Request) : Prop :=
  (∃ client order, request = .initPayment client order) ∨
    ∃ client order, request = .processPayment client order

theorem addressed_of_silent {entry : LogEntry} (silent : IsSilent entry.op) :
    Addressed config entry where
  started := fun _ isStart =>
    absurd (isStart ▸ silent : IsSilent (.fetch (.startOnlineCollection _))) id
  completed := fun _ _ isCompletion =>
    absurd (isCompletion ▸ silent : IsSilent
      (.fetch (.completeOnlineCollectionWithDetails _ _))) id

section Known

variable (known : ∀ entry ∈ trace,
  (∃ request, Lawful config request entry) ∧ entry.after ≤ before)

include known

/-- The attempt that a request has inserted is still there. -/
theorem exists_row_of_inserted {data : ReceivedTransactionParams}
    (inserted : ∃ entry ∈ trace,
      Logs entry (.db (.createReceived data)) (.ok ())) :
    ∃ row ∈ before.table.rows, row.agencyTrackingId = data.agencyTrackingId ∧
      row.fee = data.fee := by
  obtain ⟨entry, member, caller, was, became, rfl⟩ := inserted
  obtain ⟨⟨request, lawful⟩, present⟩ := known _ member
  obtain ⟨stage, next, fate, _, _, executed⟩ := lawful.performed
  obtain ⟨row, rowIn, evolves⟩ :=
    present.rows _ (receivedRow_mem_of_exec executed)
  exact ⟨row, rowIn, evolves.id_eq, evolves.fee_eq⟩

/-- The row that a request has loaded is still there. -/
theorem exists_row_of_loaded {token : String} {loaded : Transaction}
    (isLoaded : ∃ entry ∈ trace,
      Logs entry (.db (.findByPaygovToken token)) (.ok (some loaded))) :
    ∃ row ∈ before.table.rows, row.paygovToken = some token ∧
      row.fee = loaded.fee := by
  obtain ⟨entry, member, caller, was, became, rfl⟩ := isLoaded
  obtain ⟨⟨request, lawful⟩, present⟩ := known _ member
  have earlier := lawful.le.trans present
  obtain ⟨stage, next, fate, _, _, executed⟩ := lawful.performed
  obtain ⟨loadedIn, hasToken, _⟩ := mem_of_execFindByPaygovToken executed
  obtain ⟨row, rowIn, evolves⟩ := earlier.rows _ loadedIn
  exact ⟨row, rowIn, evolves.token token hasToken, evolves.fee_eq⟩

/-- What a request sends to Pay.gov names the right application. -/
theorem addressed_of_accounts (isFollowed : IsFollowed request)
    (accounted : Accounted trace request account)
    (accounts : Accounts config request account op reply next) :
    Addressed config ⟨caller, op, reply, before, after⟩ := by
  have start : ∀ data params reply,
      params.agency_tracking_id = data.agencyTrackingId →
      CollectedBy config data.fee params.tcs_app_id →
      (∃ entry ∈ trace, Logs entry (.db (.createReceived data)) (.ok ())) →
      Addressed config ⟨caller, .fetch (.startOnlineCollection params), reply,
        before, after⟩ := by
    intro data params reply own collected inserted
    refine ⟨fun other same => ?_, fun _ _ other => absurd other (by simp)⟩
    obtain rfl := SoapRequest.startOnlineCollection.inj (Op.fetch.inj same)
    obtain ⟨row, member, isId, sameFee⟩ :=
      exists_row_of_inserted known inserted
    exact ⟨row, member, isId.trans own.symm, sameFee ▸ collected⟩
  have completion : ∀ loaded tcsAppId token reply,
      CollectedBy config (Transaction.fee loaded) tcsAppId →
      (∃ entry ∈ trace, Logs entry (.db (.findByPaygovToken token))
        (.ok (some loaded))) →
      Addressed config ⟨caller,
        .fetch (.completeOnlineCollectionWithDetails tcsAppId token), reply,
        before, after⟩ := by
    intro loaded tcsAppId token reply collected isLoaded
    refine ⟨fun _ other => absurd other (by simp), fun app other same => ?_⟩
    obtain ⟨rfl, rfl⟩ := SoapRequest.completeOnlineCollectionWithDetails.inj
      (Op.fetch.inj same)
    obtain ⟨row, member, hasToken, sameFee⟩ :=
      exists_row_of_loaded known isLoaded
    exact ⟨row, member, hasToken, sameFee ▸ collected⟩
  cases accounts with
  | lose silent => exact addressed_of_silent silent
  | other notInit notProcess =>
      rcases isFollowed with ⟨client, order, same⟩ | ⟨client, order, same⟩
      · exact absurd same (notInit client order)
      · exact absurd same (notProcess client order)
  | start own collected | unstarted own collected =>
      cases accounted with
      | holding inserted => exact start _ _ _ own collected inserted
  | complete collected | fault collected _ | uncompleted collected =>
      cases accounted with
      | claimed isLoaded _ => exact completion _ _ _ _ collected isLoaded
  | look | clock | insert | readBack | activate | load | claim | persist
  | markFailed | confirm | survey => exact addressed_of_silent trivial

end Known

/-- Other requests neither start nor complete anything at Pay.gov. -/
theorem silent_of_permitted {stage later : Stage}
    (unfollowed : ¬ IsFollowed request)
    (permitted : Permitted config request stage op reply later) :
    IsSilent op := by
  cases permitted with
  | passive running passive =>
      cases op with
      | fetch soap => exact absurd passive id
      | now | pick | generateAgencyTrackingId | db _ => exact trivial
  | start _ | startUnanswered _ =>
      exact absurd (.inl ⟨_, _, rfl⟩) unfollowed
  | complete | completeUnanswered _ =>
      exact absurd (.inr ⟨_, _, rfl⟩) unfollowed
  | _ => exact trivial

/-! ## Runs -/

/-- What is known of a request in its account. -/
structure Accountable (config : Config) (request : Request)
    (trace : List LogEntry) (account : Account) : Prop where
  accounted : Accounted trace request account
  addressed : IsFollowed request → ∀ entry ∈ trace, Addressed config entry

variable {allowed : PortalState → PortalMove → Prop} {now : Int}
variable {state : PortalState}

/-- A logged operation is lawful and belongs to the past. -/
theorem lawful_of_reaches (reaches : Reachable config allowed now state)
    {entry : LogEntry} (member : entry ∈ state.log) :
    (∃ request, requestOf? state entry.caller = some request ∧
      Lawful config request entry) ∧ entry.after ≤ state.world := by
  obtain ⟨annotated, rfl, recorded⟩ := exists_recorded reaches
  exact ⟨recorded.lawful entry member,
    recorded.chronological.present entry member⟩

/-- Every run can be annotated with the accounts of its requests. -/
theorem exists_accountable (reaches : Reachable config allowed now state) :
    ∃ phased : Phased (accounting config) (answers config) World,
      phased.state = state ∧ Traced (Accountable config) phased := by
  refine Machine.exists_invariant_of_reaches .stopped portal_accounts
    (traced_initial _) ?_ reaches
  intro source target reached traced step
  apply step.traced traced
  · exact fun request => ⟨.reading, by simp⟩
  · exact fun request trace account accountable =>
      ⟨.stopped, accountable.addressed⟩
  · intro caller fate request op reply account next executed moved accountable
    refine ⟨accountable.accounted.step moved, fun isFollowed entry member => ?_⟩
    rcases List.mem_cons.mp member with rfl | old
    · refine addressed_of_accounts ?_ isFollowed accountable.accounted moved
      intro entry member
      obtain ⟨⟨request, _, lawful⟩, present⟩ :=
        lawful_of_reaches reached (State.mem_trace.mp member).1
      exact ⟨⟨request, lawful⟩, present⟩
    · exact accountable.addressed isFollowed entry old

/-- Every request to Pay.gov names the application of the fee of its row. -/
theorem addressed_of_reaches (reaches : Reachable config allowed now state)
    {entry : LogEntry} (member : entry ∈ state.log) :
    Addressed config entry := by
  obtain ⟨⟨request, isRequest, lawful⟩, _⟩ := lawful_of_reaches reaches member
  obtain ⟨phased, rfl, traced⟩ := exists_accountable reaches
  obtain ⟨call, present, rfl⟩ := Option.map_eq_some_iff.mp isRequest
  obtain ⟨account, holds⟩ := phased.exists_phase present
  have accountable := traced.holds entry.caller call account present holds
  by_cases isFollowed : IsFollowed call.request
  · exact accountable.addressed isFollowed entry
      (State.mem_trace.mpr ⟨member, rfl⟩)
  · obtain ⟨stage, next, fate, _, permitted, _⟩ := lawful.performed
    exact addressed_of_silent (silent_of_permitted isFollowed permitted)

/-- A request that has answered gives an account of its answer. -/
theorem exists_answers (reaches : Reachable config allowed now state)
    {outcome : Outcome} (isRequest : requestOf? state caller = some request)
    (answered : state.calls[caller]? >>= Call.result? = some outcome) :
    ∃ account, answers config request account outcome ∧
      Accounted (state.trace caller) request account := by
  obtain ⟨phased, rfl, traced⟩ := exists_accountable reaches
  obtain ⟨call, present, rfl⟩ := Option.map_eq_some_iff.mp isRequest
  obtain ⟨account, holds⟩ := phased.exists_phase present
  rw [present] at answered
  exact ⟨account, phased.conforms_done present answered holds account rfl,
    (traced.holds caller call account present holds).accounted⟩

end PaymentPortal.Protocol
