import PaymentPortal.Guarantees.FeeInvariance
import PaymentPortal.Protocol.Accounted
import PaymentPortal.Protocol.UseCases.Opening

/-!
# Applications of redirects

The redirect of a session names the Pay.gov application under which its token
was started, and `processPayment` completes the token under no other, in every
run in which a token is handed out again only to requests whose fee is collected
by the application of the row's fee.

The use case does not ensure this: a reused token is redirected under the
application of the fee that the current request names.
-/

namespace PaymentPortal.Guarantees

open PaymentPortal.Interaction
open PaymentPortal.Model
open PaymentPortal.Protocol
open PaymentPortal.Model.InitPayment

/-- The operation has started the session of the token at Pay.gov. -/
structure StartedUnder (entry : LogEntry) (token tcsAppId : String) : Prop where
  started : ∃ params, entry.op = .fetch (.startOnlineCollection params) ∧
    params.tcs_app_id = tcsAppId ∧
    entry.after.payGov.IssuedFor token params.agency_tracking_id
  new : ∀ agencyTrackingId,
    ¬ entry.before.payGov.IssuedFor token agencyTrackingId

/--
One application is named by the redirect, has started the token, is named by
every completion of the token and is that of the fee that `processPayment`
resolves for the token's row.
-/
structure NamesApplication (config : Config) (state : PortalState)
    (session : InitPaymentResponse) (tcsAppId : String) : Prop where
  redirect : session.paymentRedirect = config.paymentUrl ++ "?token=" ++
    session.token ++ "&tcsAppID=" ++ tcsAppId
  started : ∃ entry ∈ state.log, StartedUnder entry session.token tcsAppId
  completed : ∀ entry ∈ state.log, ∀ other, entry.op = .fetch
    (.completeOnlineCollectionWithDetails other session.token) →
      other = tcsAppId
  resolved : ∀ row ∈ state.world.table.rows,
    row.paygovToken = some session.token → ∀ fee,
      getActiveFee config row.fee (some row.createdAt) = .ok fee →
        fee.tcsAppId = tcsAppId

/-- The request and the row of which it is about to hand out the token. -/
def reuses? (state : PortalState) (caller : Nat) :
    Op → Option (InitPaymentRequest × Transaction)
  | .now =>
      match requestOf? state caller, (state.trace caller).head? with
      | some (.initPayment _ order),
          some ⟨_, .db (.findByReferenceIdAndTransactionStatus ..),
            .ok (some row), _, _⟩ =>
          if row.transactionStatus = some .initiated ∧
              (reusableToken state.world.now false row).isSome then
            some (order, row)
          else none
      | _, _ => none
  | _ => none

/-- The Pay.gov application that collects a fee. -/
def applicationOf? (config : Config) (fee : String) : Option String :=
  (feeDefinition config fee).toOption.map FeeDefinition.tcsAppId

/-- A token is handed out again under the application of its row's fee. -/
def KeepsApplication (config : Config) (state : PortalState) (caller : Nat)
    (op : Op) (_ : Fate) : Prop :=
  ∀ reuse ∈ reuses? state caller op,
    applicationOf? config reuse.1.fee = applicationOf? config reuse.2.fee

instance (config : Config) (state : PortalState) (caller : Nat) (op : Op)
    (fate : Fate) : Decidable (KeepsApplication config state caller op fate) :=
  inferInstanceAs (Decidable (∀ _ ∈ _, _ = _))

theorem applicationOf?_eq_some {config : Config} {fee tcsAppId : String} :
    applicationOf? config fee = some tcsAppId ↔
      CollectedBy config fee tcsAppId := by
  unfold applicationOf? CollectedBy
  cases feeDefinition config fee with
  | error error => simp [Except.toOption]
  | ok definition => simp [Except.toOption]

variable {config : Config} {formats : XmlFormats} {now : Int}
variable {state : PortalState}
variable {allowed : PortalState → PortalMove → Prop}

/-! ## Tokens that have been issued -/

/-- Tokens are issued by the start of a session only. -/
theorem issued_of_exec_cases {op : Op} {fate : Fate} {reply : Reply op}
    {before after : World} (executed : exec formats op fate before =
      some (reply, after)) :
    after.payGov.issued = before.payGov.issued ∨
      ∃ params token, op = .fetch (.startOnlineCollection params) ∧
        after.payGov.issued =
          (token, params.agency_tracking_id) :: before.payGov.issued ∧
        token ∉ before.payGov.issued.map Prod.fst := by
  cases op with
  | now | pick | generateAgencyTrackingId =>
      rw [same_of_passive (by trivial) executed]
      exact .inl rfl
  | db statement =>
      rw [(tableStep_of_execStatement executed).2.1]
      exact .inl rfl
  | fetch soap =>
      cases fetchStep_of_execFetch executed with
      | same same => exact .inl (by rw [same])
      | issued params token payGov is_start issues after_eq =>
          obtain ⟨issued, _, new⟩ := PayGov.issued_of_issue? issues
          refine .inr ⟨params, token, by rw [is_start], ?_, new⟩
          rw [after_eq, issued]
      | completed _ _ _ _ payGov _ _ completes after_eq =>
          left
          rw [after_eq, (PayGov.completions_of_complete? completes).1]

/-- Whatever token has been issued, a logged operation has started it. -/
theorem exists_start_of_issued (reaches : Reachable config allowed now state)
    {token id : String} (issued : state.world.payGov.IssuedFor token id) :
    ∃ entry ∈ state.log, ∃ params,
      entry.op = .fetch (.startOnlineCollection params) ∧
        params.agency_tracking_id = id ∧
        StartedUnder entry token params.tcs_app_id := by
  induction reaches with
  | refl => exact absurd issued (by simp [State.initial, World.fresh,
      PayGov.empty, PayGov.IssuedFor])
  | @tail source target _ step ih =>
      obtain ⟨move, advanced, _⟩ := step
      cases Machine.advances_of_advance advanced with
      | arrive _ | crash _ _ _ _ _ => exact ih issued
      | drift change world drifted =>
          refine ih ?_
          cases change with
          | tick ms | settle trackingId status =>
              obtain rfl := Option.some.inj drifted
              exact issued
      | perform caller fate request op next reply world running executed =>
          have isIssued : (token, id) ∈ world.payGov.issued := issued
          rcases issued_of_exec_cases executed with
            same | ⟨params, fresh, rfl, issued_eq, new⟩
          · rw [same] at isIssued
            obtain ⟨entry, member, rest⟩ := ih isIssued
            exact ⟨entry, List.mem_cons_of_mem _ member, rest⟩
          · have grown := isIssued
            rw [issued_eq] at grown
            rcases List.mem_cons.mp grown with isFresh | old
            · obtain ⟨rfl, rfl⟩ := Prod.mk.inj isFresh
              refine ⟨_, List.mem_cons_self, params, rfl, rfl,
                ⟨params, rfl, rfl, isIssued⟩, fun id was => new ?_⟩
              exact List.mem_map_of_mem was
            · obtain ⟨entry, member, rest⟩ := ih old
              exact ⟨entry, List.mem_cons_of_mem _ member, rest⟩

/-! ## The application of a row -/

section Row

variable {row : Transaction} {token tcsAppId : String}

/-- The token of a row has been started under the application of its fee. -/
theorem exists_startedUnder (reaches : Reachable config allowed now state)
    (member : row ∈ state.world.table.rows)
    (issued : state.world.payGov.IssuedFor token row.agencyTrackingId)
    (collected : CollectedBy config row.fee tcsAppId) :
    ∃ entry ∈ state.log, StartedUnder entry token tcsAppId := by
  obtain ⟨entry, entryIn, params, isStart, isId, under⟩ :=
    exists_start_of_issued reaches issued
  obtain ⟨started, startedIn, startedId, startedBy⟩ :=
    (addressed_of_reaches reaches entryIn).started params isStart
  obtain ⟨⟨request, _, lawful⟩, present⟩ := lawful_of_reaches reaches entryIn
  have evolves := (lawful.le.trans present).evolved startedIn member
    (isId.symm.trans startedId.symm)
  rw [evolves.fee_eq] at collected
  obtain rfl := startedBy.unique collected
  exact ⟨entry, entryIn, under⟩

/-- The rows of a token are the row that it has been issued for. -/
theorem eq_of_issued (reaches : Reachable config allowed now state)
    (member : row ∈ state.world.table.rows)
    (issued : state.world.payGov.IssuedFor token row.agencyTrackingId)
    {other : Transaction} (otherIn : other ∈ state.world.table.rows)
    (hasToken : other.paygovToken = some token) : other = row := by
  obtain ⟨annotated, rfl, sound⟩ := exists_sound reaches
  have otherIssued := (sound.rows other otherIn).issued token hasToken
  exact annotated.state.world.table.eq_of_id_eq otherIn member
    (otherIssued.unique issued)

/-- The completions of a token name the application of its row's fee. -/
theorem eq_of_completion (reaches : Reachable config allowed now state)
    (member : row ∈ state.world.table.rows)
    (issued : state.world.payGov.IssuedFor token row.agencyTrackingId)
    (collected : CollectedBy config row.fee tcsAppId) {entry : LogEntry}
    (entryIn : entry ∈ state.log) {other : String}
    (completes : entry.op =
      .fetch (.completeOnlineCollectionWithDetails other token)) :
    other = tcsAppId := by
  obtain ⟨loaded, loadedIn, hasToken, loadedBy⟩ :=
    (addressed_of_reaches reaches entryIn).completed other token completes
  obtain ⟨⟨request, _, lawful⟩, present⟩ := lawful_of_reaches reaches entryIn
  obtain ⟨current, currentIn, evolves⟩ :=
    (lawful.le.trans present).rows loaded loadedIn
  obtain rfl := eq_of_issued reaches member issued currentIn
    (evolves.token token hasToken)
  rw [evolves.fee_eq] at collected
  exact loadedBy.unique collected

/-- A session with the token of a row names the application of its fee. -/
theorem namesApplication_of_row (reaches : Reachable config allowed now state)
    (member : row ∈ state.world.table.rows)
    (issued : state.world.payGov.IssuedFor token row.agencyTrackingId)
    {fee : ActiveFee} (collected : CollectedBy config row.fee fee.tcsAppId) :
    NamesApplication config state (redirectTo config fee token)
      fee.tcsAppId where
  redirect := rfl
  started := exists_startedUnder reaches member issued collected
  completed := fun _ entryIn _ completes =>
    eq_of_completion reaches member issued collected entryIn completes
  resolved := by
    intro other otherIn hasToken resolution resolves
    obtain rfl := eq_of_issued reaches member issued otherIn hasToken
    exact (collectedBy_of_getActiveFee resolves).unique collected

end Row

/-! ## Answers -/

/-- A session that its request has started names the application. -/
theorem namesApplication_of_starts
    (reaches : Reachable config allowed now state) {entry : LogEntry}
    (entryIn : entry ∈ state.log) {fee : ActiveFee} {token : String}
    (starts : Starts entry fee.tcsAppId token) :
    NamesApplication config state (redirectTo config fee token)
      fee.tcsAppId := by
  have addressed := addressed_of_reaches reaches entryIn
  obtain ⟨⟨request, _, lawful⟩, present⟩ := lawful_of_reaches reaches entryIn
  have earlier := lawful.le
  obtain ⟨params, isApplication, caller, before, after, rfl⟩ := starts
  obtain ⟨stage, next, fate, _, _, executed⟩ := lawful.performed
  obtain ⟨started, startedIn, startedId, startedBy⟩ :=
    addressed.started params rfl
  obtain ⟨row, member, evolves⟩ :=
    (earlier.trans present).rows started startedIn
  have isId := evolves.id_eq.trans startedId
  rw [isApplication, ← evolves.fee_eq] at startedBy
  refine namesApplication_of_row reaches member ?_ startedBy
  rw [isId]
  exact present.payGov.issued (issued_of_exec executed)

/-- A row whose token is handed out again is about to be reused. -/
theorem reuses?_of_passes {client : ClientPermission}
    {order : InitPaymentRequest} {row : Transaction} {time : Int}
    {earlier : PortalState} {caller : Nat} {found : LogEntry}
    {rest : List LogEntry}
    (isRequest : requestOf? earlier caller = some (.initPayment client order))
    (trace_eq : earlier.trace caller = found :: rest)
    (finds : Logs found (.db (.findByReferenceIdAndTransactionStatus
      client.clientName order.transactionReferenceId IN_FLIGHT_OR_PAID))
      (.ok (some row)))
    (isNow : time = earlier.world.now)
    (initiated : row.transactionStatus = some .initiated)
    (reusable : (reusableToken time false row).isSome) :
    reuses? earlier caller .now = some (order, row) := by
  obtain ⟨other, before, after, rfl⟩ := finds
  unfold reuses?
  rw [isRequest, trace_eq]
  simp [initiated, ← isNow, reusable]

/-- The request of a call is what it has been. -/
theorem requestOf?_of_continued {earlier : PortalState} {caller : Nat}
    {request : Request} (continued : (portal config).Reaches allowed earlier
      state) {rest : Option (Program Op Reply Outcome)}
    (running : earlier.calls[caller]? = some ⟨request, rest⟩) :
    requestOf? state caller = some request := by
  obtain ⟨later, present, same⟩ :=
    Machine.exists_call_of_reaches continued running
  exact (requestOf?_of_present present).trans (congrArg some same)

/-- A row that a lookup has found is there, with a token that is its own. -/
theorem exists_row_of_found (reaches : Reachable config allowed now state)
    {found : LogEntry} (foundIn : found ∈ state.log)
    {clientName transactionReferenceId token : String}
    {statuses : List TransactionStatus} {row : Transaction}
    (finds : Logs found (.db (.findByReferenceIdAndTransactionStatus
      clientName transactionReferenceId statuses)) (.ok (some row)))
    (hasToken : row.paygovToken = some token) :
    ∃ current ∈ state.world.table.rows, current.fee = row.fee ∧
      state.world.payGov.IssuedFor token current.agencyTrackingId := by
  obtain ⟨⟨_, _, lawful⟩, present⟩ := lawful_of_reaches reaches foundIn
  have later := lawful.le.trans present
  obtain ⟨_, _, _, rfl⟩ := finds
  obtain ⟨_, _, _, _, _, executed⟩ := lawful.performed
  obtain ⟨member, _, _⟩ := mem_of_execLookup executed
  obtain ⟨current, currentIn, evolves⟩ := later.rows row member
  refine ⟨current, currentIn, evolves.fee_eq, ?_⟩
  rw [evolves.id_eq]
  exact later.payGov.issued ((lawful.coherent row member).issued token hasToken)

section Weighed

variable {caller : Nat} {client : ClientPermission}
variable {order : InitPaymentRequest} {row : Transaction} {time : Int}
variable {clock found : LogEntry} {rest : List LogEntry}

variable
  (reaches : Reachable config (Machine.OnSteps (KeepsApplication config)) now
    state)
  (isRequest : requestOf? state caller = some (.initPayment client order))
  (trace_eq : state.trace caller = clock :: found :: rest)
  (reads : Logs clock .now time)
  (finds : Logs found (.db (.findByReferenceIdAndTransactionStatus
    client.clientName order.transactionReferenceId IN_FLIGHT_OR_PAID))
    (.ok (some row)))
  (initiated : row.transactionStatus = some .initiated)

include reaches isRequest trace_eq reads finds initiated

/-- A reused row is collected by the application of the request's fee. -/
theorem applicationOf?_eq_of_weighed
    (reusable : (reusableToken time false row).isSome) :
    applicationOf? config order.fee = applicationOf? config row.fee := by
  obtain ⟨newer, older, split, _, own, olderTrace⟩ :=
    List.filter_eq_cons_iff.mp trace_eq
  -- The clock was read in a state in which the condition speaks of the row.
  obtain ⟨earlier, fate, passes⟩ := Machine.exists_passes reaches rfl split
  obtain ⟨request, next, running⟩ := passes.running
  have keeps := passes.permitted.of_running running
  obtain rfl := beq_iff_eq.mp own
  obtain rfl : request = .initPayment client order := Option.some.inj
    ((requestOf?_of_continued passes.continued running).symm.trans isRequest)
  have clockIn : clock ∈ state.log := by
    rw [split]
    exact List.mem_append_cons_self
  obtain ⟨⟨_, _, lawful⟩, _⟩ := lawful_of_reaches reaches clockIn
  have isNow : time = earlier.world.now := by
    rw [passes.world_eq]
    obtain ⟨_, _, _, rfl⟩ := reads
    obtain ⟨_, _, _, _, _, executed⟩ := lawful.performed
    exact (now_of_exec executed).1
  obtain ⟨caller, before, after, rfl⟩ := reads
  exact keeps (order, row) (reuses?_of_passes (requestOf?_of_present running)
    ((congrArg _ passes.log_eq).trans olderTrace) finds isNow initiated
    reusable)

/-- A session that is handed out again names the application of its row. -/
theorem namesApplication_of_weighed {token : String}
    (reusable : reusableToken time false row = some token) {fee : ActiveFee}
    (collected : CollectedBy config order.fee fee.tcsAppId) :
    NamesApplication config state (redirectTo config fee token)
      fee.tcsAppId := by
  have same := applicationOf?_eq_of_weighed reaches isRequest trace_eq reads
    finds initiated (by rw [reusable]; rfl)
  have foundIn : found ∈ state.trace caller := by simp [trace_eq]
  obtain ⟨current, currentIn, sameFee, issued⟩ := exists_row_of_found reaches
    (State.mem_trace.mp foundIn).1 finds (paygovToken_of_reusableToken reusable)
  apply namesApplication_of_row reaches currentIn issued
  rw [sameFee, ← applicationOf?_eq_some, ← same, applicationOf?_eq_some]
  exact collected

end Weighed

/--
In every run in which no token is handed out again under another application
than that of its row's fee, the redirect of a session names the application
under which the token was started, and every completion of it names the same.
-/
theorem redirect_names_application
    (reaches : Reachable config (Machine.OnSteps (KeepsApplication config)) now
      state) {caller : Nat} {client : ClientPermission}
    {order : InitPaymentRequest} {session : InitPaymentResponse}
    (isRequest : requestOf? state caller = some (.initPayment client order))
    (answered : state.calls[caller]? >>= Call.result? =
      some (.ok (.session session))) :
    ∃ tcsAppId, NamesApplication config state session tcsAppId := by
  obtain ⟨account, grants, accounted⟩ :=
    exists_answers reaches isRequest answered
  obtain ⟨fee, token, rfl, collected, source⟩ := grants
  refine ⟨fee.tcsAppId, ?_⟩
  rcases source with ⟨row, time, rfl, initiated, reusable⟩ | rfl
  · cases accounted with
    | weighed trace_eq reads finds =>
        exact namesApplication_of_weighed reaches isRequest trace_eq reads finds
          initiated reusable collected
  · cases accounted with
    | activated started =>
        obtain ⟨entry, member, starts⟩ := started
        exact namesApplication_of_starts reaches (State.mem_trace.mp member).1
          starts

/-! ## Sample runs -/

/-- A second `initPayment` of one client, which finds an open session. -/
def reinitiates (order : InitPaymentRequest) : List PortalMove :=
  initiates 0 "A1" firstToken ++ .arrive (.initPayment sampleClient order) ::
    meets 1 [.read, .executed [], .read]

/-- The session that a call has returned, if it has returned one. -/
def returnedSession? (state : PortalState) (caller : Nat) :
    Option InitPaymentResponse :=
  match state.calls[caller]? >>= Call.result? with
  | some (.ok (.session session)) => some session
  | _ => none

theorem returnedSession?_eq_some {caller : Nat} {session : InitPaymentResponse}
    (returned : returnedSession? state caller = some session) :
    state.calls[caller]? >>= Call.result? = some (.ok (.session session)) := by
  unfold returnedSession? at returned
  split at returned
  · rename_i answered
    rw [answered, Option.some.inj returned]
  · exact absurd returned (by simp)

/-- A request for the same fee gets the same token, with its application. -/
theorem redirect_names_application_sample : ∃ state session,
    (portal sampleConfig).replay
      (Machine.OnSteps (KeepsApplication sampleConfig))
      (reinitiates sampleOrder) (.initial (World.fresh sampleNow)) =
        some state ∧
    returnedSession? state 1 = some session ∧ session.token = firstToken ∧
    ∃ tcsAppId, NamesApplication sampleConfig state session tcsAppId := by
  have replayed : (((portal sampleConfig).replay
      (Machine.OnSteps (KeepsApplication sampleConfig))
      (reinitiates sampleOrder) (.initial (World.fresh sampleNow))).map
        fun state => (requestOf? state 1,
          (returnedSession? state 1).map InitPaymentResponse.token)) =
      some (some (.initPayment sampleClient sampleOrder), some firstToken) := by
    decide
  obtain ⟨state, reached, found⟩ := Option.map_eq_some_iff.mp replayed
  obtain ⟨isRequest, returned⟩ := Prod.mk.inj found
  obtain ⟨session, isSession, isToken⟩ := Option.map_eq_some_iff.mp returned
  exact ⟨state, session, reached, isSession, isToken,
    redirect_names_application (Machine.reaches_of_replay reached) isRequest
      (returnedSession?_eq_some isSession)⟩

/-- The application under which an operation starts a session. -/
def startedApplication? : Op → Option String
  | .fetch (.startOnlineCollection params) => some params.tcs_app_id
  | _ => none

/--
A second request of the client names another fee and gets the token of the first
one, redirected to an application under which no session has been started.
-/
theorem redirect_names_application_fails : ∃ state session,
    Reachable sampleConfig Machine.Unrestricted sampleNow state ∧
      requestOf? state 1 = some (.initPayment sampleClient otherOrder) ∧
      state.calls[1]? >>= Call.result? = some (.ok (.session session)) ∧
      ¬ ∃ tcsAppId, NamesApplication sampleConfig state session tcsAppId := by
  have replayed : (((portal sampleConfig).replay Machine.Unrestricted
      (reinitiates otherOrder) (.initial (World.fresh sampleNow))).map
        fun state => (requestOf? state 1, returnedSession? state 1,
          state.log.filterMap fun entry => startedApplication? entry.op)) =
      some (some (.initPayment sampleClient otherOrder),
        some ⟨firstToken, "https://pay.gov?token=" ++ firstToken ++
          "&tcsAppID=TCSUSTAXCOURTANAEF"⟩, ["USTAXCOURTPETITION"]) := by
    decide
  obtain ⟨state, reached, found⟩ := Option.map_eq_some_iff.mp replayed
  obtain ⟨isRequest, found⟩ := Prod.mk.inj found
  obtain ⟨returned, started⟩ := Prod.mk.inj found
  refine ⟨state, _, Machine.reaches_of_replay reached, isRequest,
    returnedSession?_eq_some returned, ?_⟩
  rintro ⟨tcsAppId, names⟩
  obtain ⟨entry, member, under⟩ := names.started
  obtain ⟨params, isStart, isApplication, _⟩ := under.started
  have isStarted : tcsAppId ∈
      state.log.filterMap fun entry => startedApplication? entry.op := by
    refine List.mem_filterMap.mpr ⟨entry, member, ?_⟩
    rw [isStart]
    exact congrArg some isApplication
  rw [started, List.mem_singleton] at isStarted
  subst isStarted
  exact absurd names.redirect (by decide)

end PaymentPortal.Guarantees
