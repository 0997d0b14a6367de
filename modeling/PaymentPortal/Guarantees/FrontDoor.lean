import PaymentPortal.Guarantees.Granted
import PaymentPortal.Guarantees.StatusPairs
import PaymentPortal.Protocol.UseCases.Spoken

/-!
# The front door

What the handlers let through.  A run of the process is a run of the portal, to
which the admitted requests come; and every one of them is the request of a
valid event, for a client that was registered under the role of the caller.
-/

namespace PaymentPortal.Guarantees

open PaymentPortal.Interaction
open PaymentPortal.Model
open PaymentPortal.Protocol

variable {config : GatewayConfig} {request : GatewayRequest}

/-! ## Admissions -/

/-- What the handler of a valid event asks its use case for. -/
inductive Asks (config : GatewayConfig) :
    GatewayRequest → String → Json → Request → Prop where
  | initPayment (event : APIGatewayEvent) (order : InitPaymentRequest)
      (roleArn : String) (client : Json)
      (isRead : readEvent config (InitPaymentRequestSchema config.formats) event
        (event.body.getD "") = .ok (order, roleArn)) :
      Asks config (.initPaymentHandler event) roleArn client
        (.initPayment (config.clientPermission client) order)
  | processPayment (event : APIGatewayEvent) (order : ProcessPaymentRequest)
      (roleArn : String) (client : Json)
      (isRead : readEvent config ProcessPaymentRequestSchema event
        (event.body.getD "") = .ok (order, roleArn)) :
      Asks config (.processPaymentHandler event) roleArn client
        (.processPayment (config.clientPermission client) order)
  | getDetails (event : APIGatewayEvent) (order : GetDetailsRequest)
      (roleArn : String) (client : Json)
      (isRead : readEvent config (GetDetailsPathParamsSchema config.formats)
        event (detailsRequest config event) = .ok (order, roleArn)) :
      Asks config (.getDetailsHandler event) roleArn client
        (.getDetails (config.clientPermission client) order)

/-- The record was read from the secret, or is that of local development. -/
def Registered (config : PermissionsConfig) (log : List GatewayEntry)
    (roleArn : String) (client : Json) : Prop :=
  (client.member "clientRoleArn").any (Json.isText roleArn) = true ∧
    ((config.LOCAL_DEV = some "true" ∧ client ∈ LOCAL_DEV_PERMISSIONS) ∨
      ∃ entry ∈ log, ∃ secretId permissions,
        entry.op = .inl (.getSecretValue secretId) ∧
          parsePermissions config secretId entry.before.1.secret =
            .ok permissions ∧ client ∈ permissions)

/-- Why a request of the portal was admitted. -/
inductive Entitled (config : GatewayConfig) (log : List GatewayEntry) :
    GatewayRequest → Request → Prop where
  | scheduled :
      Entitled config log .cancelExpiredHandler .cancelExpiredTransactions
  | asked (request : GatewayRequest) (inner : Request) (roleArn : String)
      (client : Json) (registered :
        Registered config.permissions log roleArn client)
      (asks : Asks config request roleArn client inner) :
      Entitled config log request inner

/-- What becomes of the outcome of a use case. -/
def answerOf : GatewayRequest → Outcome → GatewayResult
  | .cancelExpiredHandler, outcome => .swept outcome
  | _, outcome => respond outcome

/-- The answers to requests that are not admitted. -/
inductive Refuses : GatewayResult → Prop where
  | prewarmed : Refuses .prewarmed
  | missing : Refuses (.answered ⟨400, .message "missing body"⟩)
  | unreadable :
      Refuses (.answered ⟨400, .message "invalid JSON in request body"⟩)
  | invalid : Refuses (.answered ⟨400, .issues⟩)
  | anonymous : Refuses (.answered ⟨403, .message "Missing IAM principal"⟩)
  | unassumed :
      Refuses (.answered ⟨403, .message "Invalid IAM principal format"⟩)
  | unregistered :
      Refuses (.answered ⟨403, .message CLIENT_NOT_REGISTERED_MESSAGE⟩)
  | unset : Refuses (.answered ⟨500, .message
      "CLIENT_PERMISSIONS_SECRET_ID environment variable not set"⟩)
  | unfetched : Refuses
      (.answered ⟨500, .message "Failed to fetch client permissions"⟩)

/-! ### Verdicts -/

section Verdicts

variable {α : Type} {schema : Schema α} {event : APIGatewayEvent}
variable {rawRequest : String} {callback : ClientPermission → α → Request}
variable {consulted : Option
  (Program PermissionsOp PermissionsReply (Except PortalError Permissions))}

/-- A handler admits a valid request of a registered client. -/
theorem of_lambdaHandler_forward {inner : Request}
    {answer : Outcome → GatewayResult}
    (decides : Decides (lambdaHandler config schema event rawRequest callback)
      consulted (.forward inner answer)) :
    ∃ order roleArn permissions client,
      readEvent config schema event rawRequest = .ok (order, roleArn) ∧
      consulted = some (.done (.ok permissions)) ∧
      clientByRoleArn roleArn permissions = .ok client ∧
      inner = callback (config.clientPermission client) order ∧
      answer = respond := by
  unfold lambdaHandler at decides
  cases isRead : readEvent config schema event rawRequest with
  | error err =>
      rw [isRead] at decides
      cases decides with
      | atOnce isRoute => exact absurd isRoute (by simp)
      | advised next value isRoute => exact absurd isRoute (by simp)
  | ok pair =>
      obtain ⟨order, roleArn⟩ := pair
      rw [isRead] at decides
      cases decides with
      | atOnce isRoute => exact absurd isRoute (by simp)
      | advised next value isRoute isDone isVerdict =>
          obtain rfl := Route.consult.inj isRoute
          cases value with
          | error err => exact absurd isVerdict (by simp [bind, Except.bind])
          | ok permissions =>
              simp only [bind, Except.bind] at isVerdict
              cases found : clientByRoleArn roleArn permissions with
              | error err =>
                  rw [found] at isVerdict
                  exact absurd isVerdict (by simp)
              | ok client =>
                  rw [found] at isVerdict
                  obtain ⟨rfl, rfl⟩ := Verdict.forward.inj isVerdict
                  exact ⟨order, roleArn, permissions, client, rfl, isDone,
                    found, rfl, rfl⟩

/-- What keeps an event from being read. -/
theorem refuses_readEvent {err : PortalError}
    (failed : readEvent config schema event rawRequest = .error err) :
    Refuses (.answered (handleError err)) := by
  unfold readEvent parseAndValidate jsonParse at failed
  by_cases isEmpty : rawRequest = ""
  · simp only [isEmpty, if_true, bind, Except.bind] at failed
    obtain rfl := Except.error.inj failed
    exact .missing
  · simp only [if_neg isEmpty] at failed
    cases parsed : config.permissions.jsonParse rawRequest with
    | error message =>
        simp only [parsed, bind, Except.bind] at failed
        obtain rfl := Except.error.inj failed
        exact .unreadable
    | ok value =>
        cases validated : schema value with
        | none =>
            simp only [parsed, validated, bind, Except.bind] at failed
            obtain rfl := Except.error.inj failed
            exact .invalid
        | some order =>
            simp only [parsed, validated, bind, Except.bind] at failed
            cases extracted :
                extractCallerArn config.permissions event.userArn with
            | ok roleArn => simp [extracted] at failed
            | error other =>
                simp only [extracted] at failed
                obtain rfl := Except.error.inj failed
                unfold extractCallerArn convertAssumedRoleToIamArn at extracted
                split at extracted
                · exact absurd extracted (by simp)
                · split at extracted
                  · obtain rfl := Except.error.inj extracted
                    exact .anonymous
                  · split at extracted
                    · obtain rfl := Except.error.inj extracted
                      exact .unassumed
                    · exact absurd extracted (by simp)

/-- Why a handler closes. -/
theorem refuses_lambdaHandler {result : GatewayResult}
    (failures : ∀ err, consulted = some (.done (.error err)) →
      Refuses (.answered (handleError err)))
    (decides : Decides (lambdaHandler config schema event rawRequest callback)
      consulted (.close result)) :
    Refuses result := by
  unfold lambdaHandler at decides
  cases isRead : readEvent config schema event rawRequest with
  | error err =>
      rw [isRead] at decides
      cases decides with
      | atOnce isRoute =>
          obtain rfl := Verdict.close.inj (Route.decided.inj isRoute)
          exact refuses_readEvent isRead
      | advised next value isRoute => exact absurd isRoute (by simp)
  | ok pair =>
      obtain ⟨order, roleArn⟩ := pair
      rw [isRead] at decides
      cases decides with
      | atOnce isRoute => exact absurd isRoute (by simp)
      | advised next value isRoute isDone isVerdict =>
          obtain rfl := Route.consult.inj isRoute
          cases value with
          | error err =>
              simp only [bind, Except.bind] at isVerdict
              obtain rfl := Verdict.close.inj isVerdict
              exact failures err isDone
          | ok permissions =>
              simp only [bind, Except.bind] at isVerdict
              cases found : clientByRoleArn roleArn permissions with
              | ok client =>
                  rw [found] at isVerdict
                  exact absurd isVerdict (by simp)
              | error err =>
                  rw [found] at isVerdict
                  obtain rfl := Verdict.close.inj isVerdict
                  rw [clientByRoleArn] at found
                  split at found
                  · exact absurd found (by simp)
                  · obtain rfl := Except.error.inj found
                    exact .unregistered

end Verdicts

/-! ### The permissions of a request -/

/-- How asking for the permissions may fail. -/
def Unavailable (err : PortalError) : Prop :=
  err = .server "CLIENT_PERMISSIONS_SECRET_ID environment variable not set" ∨
    err = .server "Failed to fetch client permissions"

/-- A reply that is an error is one of the two. -/
def permissionsContract : Contract PermissionsOp PermissionsReply where
  relies
    | .lookUp, .settled (.error err) => Unavailable err
    | .settle _ _, .error err => Unavailable err
    | _, _ => True
  permits _ := True

theorem relied_of_execPermissions {settings : PermissionsConfig}
    {op : PermissionsOp} {fate : SecretFate} {before after : PermissionsWorld}
    {reply : PermissionsReply op}
    (executed : execPermissions settings op fate before =
      some (reply, after)) : permissionsContract.relies op reply := by
  cases op with
  | getSecretValue secretId => trivial
  | lookUp =>
      obtain ⟨found, _⟩ := lookUp_of_exec executed
      rcases reply with (err | permissions) | secretId
      · unfold lookUp at found
        split at found
        · exact absurd found (by simp)
        · split at found
          · exact absurd found (by simp)
          · split at found
            · exact absurd found (by simp)
            · exact .inl (Except.error.inj (Lookup.settled.inj found)).symm
      · trivial
      · trivial
  | settle secretId response =>
      cases fate with
      | failed message => exact absurd executed (by simp [execPermissions])
      | executed =>
          obtain ⟨rfl, _⟩ := Prod.mk.inj (Option.some.inj executed)
          unfold settle
          split
          · trivial
          · exact .inr rfl

/-- A call that has failed tells which of the two it was. -/
theorem unavailable_of_result {settings : PermissionsConfig}
    {world : PermissionsWorld} {state : PermissionsState}
    {allowed : PermissionsState → Move SecretFate Unit SecretDrift → Prop}
    (reaches : (permissionsClient settings).Reaches allowed (.initial world)
      state) {caller : Nat}
    {call : Call PermissionsOp PermissionsReply Unit
      (Except PortalError Permissions)}
    (present : state.calls[caller]? = some call) {err : PortalError}
    (isResult : call.result? = some (.error err)) : Unavailable err := by
  have honours : getClientPermissions.Honours permissionsContract
      (Outcomes (fun _ => True) Unavailable) := by
    refine ⟨trivial, ?_⟩
    rintro ((err | permissions) | secretId) relied
    · exact relied
    · trivial
    · refine ⟨trivial, fun response _ => ⟨trivial, ?_⟩⟩
      rintro (err | permissions) relied
      · exact relied
      · trivial
  exact (Machine.honoured_of_reaches (fun _ => honours)
    (fun _ _ _ _ _ _ executed => relied_of_execPermissions executed)
      reaches).finished present isResult

/-- The client that is found is registered. -/
theorem registered_of_granted {settings : PermissionsConfig}
    {log : List GatewayEntry} {roleArn : String} {client : Json}
    {permissions : Permissions}
    (found : clientByRoleArn roleArn permissions = .ok client)
    (granted : Granted settings (log.filterMap firstView?) permissions) :
    Registered settings log roleArn client := by
  rw [clientByRoleArn] at found
  split at found
  · rename_i other isFound
    obtain rfl := Except.ok.inj found
    refine ⟨by simpa using List.find?_some isFound, ?_⟩
    have member := List.mem_of_find?_eq_some isFound
    rcases granted with ⟨isLocal, rfl⟩ | ⟨fetch, isLogged, secretId, isOp, parsed⟩
    · exact .inl ⟨isLocal, member⟩
    · obtain ⟨entry, entryIn, isFetch⟩ := List.mem_filterMap.mp isLogged
      obtain ⟨caller, op | op, reply, before, after⟩ := entry
      · obtain rfl := Option.some.inj isFetch
        exact .inr ⟨_, entryIn, secretId, permissions, congrArg Sum.inl isOp,
          parsed, member⟩
      · exact absurd isFetch (by simp [firstView?])
  · exact absurd found (by simp)

/-! ## The portal behind the front door -/

/--
A run of the portal that the process makes: its requests are the admitted ones,
in the order of their admission, and the others have left no trace in it.
-/
structure Refines (config : GatewayConfig) (now : Int) (state : GatewayState)
    (admitted : List Nat) (inner : PortalState) : Prop where
  reaches : (portal config.portal).Reaches Machine.Unrestricted
    (.initial (.fresh now)) inner
  world : state.world.2 = inner.world
  log : inner.log = state.log.filterMap (secondView? admitted)
  length : inner.calls.length = admitted.length
  distinct : admitted.Nodup
  served : ∀ caller ∈ admitted, ∃ call own,
    state.calls[caller]? = some call ∧
      inner.calls[admitted.idxOf caller]? = some own ∧
      Entitled config state.log call.request own.request ∧
      ∀ result, call.result? = some result → ∃ outcome,
        own.result? = some outcome ∧
          result = answerOf call.request outcome
  entries : ∀ entry ∈ state.log, entry.op.isRight → entry.caller ∈ admitted
  refused : ∀ (caller : Nat) call, caller ∉ admitted →
    state.calls[caller]? = some call →
      ∀ result, call.result? = some result → Refuses result

/-- The verdict on an admitted request. -/
theorem entitled_of_decides {log : List GatewayEntry} {inner : Request}
    {answer : Outcome → GatewayResult} {consulted : Option
      (Program PermissionsOp PermissionsReply (Except PortalError Permissions))}
    (granted : ∀ permissions, consulted = some (.done (.ok permissions)) →
      Granted config.permissions (log.filterMap firstView?) permissions)
    (decides : Decides (handle config request) consulted
      (.forward inner answer)) :
    Entitled config log request inner ∧ answer = answerOf request := by
  cases request with
  | prewarm =>
      cases decides with
      | atOnce isRoute => exact absurd isRoute (by simp [handle])
      | advised next value isRoute isDone isVerdict =>
          obtain rfl := Route.consult.inj isRoute
          exact absurd isVerdict (by simp)
  | cancelExpiredHandler =>
      cases decides with
      | atOnce isRoute =>
          obtain ⟨rfl, rfl⟩ := Verdict.forward.inj (Route.decided.inj isRoute)
          exact ⟨.scheduled, rfl⟩
      | advised next value isRoute => exact absurd isRoute (by simp [handle])
  | initPaymentHandler event =>
      obtain ⟨order, roleArn, permissions, client, isRead, isDone, found, rfl,
        rfl⟩ := of_lambdaHandler_forward decides
      exact ⟨.asked _ _ roleArn client
        (registered_of_granted found (granted permissions isDone))
        (.initPayment event order roleArn client isRead), rfl⟩
  | processPaymentHandler event =>
      obtain ⟨order, roleArn, permissions, client, isRead, isDone, found, rfl,
        rfl⟩ := of_lambdaHandler_forward decides
      exact ⟨.asked _ _ roleArn client
        (registered_of_granted found (granted permissions isDone))
        (.processPayment event order roleArn client isRead), rfl⟩
  | getDetailsHandler event =>
      obtain ⟨order, roleArn, permissions, client, isRead, isDone, found, rfl,
        rfl⟩ := of_lambdaHandler_forward decides
      exact ⟨.asked _ _ roleArn client
        (registered_of_granted found (granted permissions isDone))
        (.getDetails event order roleArn client isRead), rfl⟩

/-- The verdict on a request that is not admitted. -/
theorem refuses_of_decides {result : GatewayResult} {consulted : Option
      (Program PermissionsOp PermissionsReply (Except PortalError Permissions))}
    (unavailable : ∀ err, consulted = some (.done (.error err)) →
      Unavailable err)
    (decides : Decides (handle config request) consulted (.close result)) :
    Refuses result := by
  have failures : ∀ err, consulted = some (.done (.error err)) →
      Refuses (.answered (handleError err)) := by
    intro err failed
    rcases unavailable err failed with rfl | rfl
    · exact .unset
    · exact .unfetched
  cases request with
  | prewarm =>
      cases decides with
      | atOnce isRoute => exact absurd isRoute (by simp [handle])
      | advised next value isRoute isDone isVerdict =>
          obtain rfl := Route.consult.inj isRoute
          obtain rfl := Verdict.close.inj isVerdict
          exact .prewarmed
  | cancelExpiredHandler =>
      cases decides with
      | atOnce isRoute => exact absurd isRoute (by simp [handle])
      | advised next value isRoute => exact absurd isRoute (by simp [handle])
  | initPaymentHandler event | processPaymentHandler event
  | getDetailsHandler event => exact refuses_lambdaHandler failures decides

variable {now : Int} {secret : SecretValue} {state : GatewayState}
variable {allowed : GatewayState → GatewayMove → Prop}

/-- Every run of the process makes a run of the portal. -/
theorem exists_refines
    (reaches : (gateway config).Reaches allowed
      (.initial (gatewayStart now secret)) state) :
    ∃ admitted inner, Refines config now state admitted inner := by
  obtain ⟨admitted, one, two, reachedOne, reachedTwo, projected⟩ :=
    Machine.exists_projected reaches
  refine ⟨admitted, two, {
    reaches := reachedTwo
    world := by rw [projected.world]
    log := projected.secondLog
    length := projected.secondLength
    distinct := projected.distinct
    served := fun caller member => ?_
    entries := projected.served
    refused := fun caller call absent present result isResult => ?_ }⟩
  · obtain ⟨call, own, consulted, answer, present, isOwn, consults, decides,
      answered⟩ := projected.exists_served member
    have granted : ∀ permissions,
        consulted = some (.done (.ok permissions)) →
          Granted config.permissions (state.log.filterMap firstView?)
            permissions := by
      rintro permissions rfl
      rw [← projected.firstLog]
      exact granted_of_result reachedOne consults rfl
    obtain ⟨entitled, rfl⟩ := entitled_of_decides granted decides
    exact ⟨call, own, present, isOwn, entitled, answered⟩
  · obtain ⟨consulted, consults, decides⟩ :=
      projected.closed absent present isResult
    refine refuses_of_decides ?_ decides
    rintro err rfl
    exact unavailable_of_result reachedOne consults rfl

/-- The call of an admitted request, and the verdict on it. -/
theorem Refines.exists_entitled {admitted : List Nat} {inner : PortalState}
    (refines : Refines config now state admitted inner) {number : Nat}
    {own : Call Op Reply Request Outcome}
    (present : inner.calls[number]? = some own) :
    ∃ call ∈ state.calls, Entitled config state.log call.request own.request := by
  have isIndex : number < admitted.length :=
    refines.length ▸ (List.getElem?_eq_some_iff.mp present).1
  obtain ⟨call, served, isCall, isServed, entitled, _⟩ :=
    refines.served admitted[number] (List.getElem_mem isIndex)
  rw [refines.distinct.idxOf_getElem, present] at isServed
  obtain rfl := Option.some.inj isServed
  exact ⟨call, List.mem_of_getElem? isCall, entitled⟩

/--
Only an entitled invocation performs an operation on the database or at
Pay.gov, and every invocation that ends was refused with a fixed answer or
answers with the outcome of its use case; an error is one of the sentences.
-/
theorem front_door
    (reaches : (gateway config).Reaches allowed
      (.initial (gatewayStart now secret)) state) :
    (∀ entry ∈ state.log, entry.op.isRight → ∃ call inner,
      state.calls[entry.caller]? = some call ∧
        Entitled config state.log call.request inner) ∧
    ∀ (caller : Nat) call result, state.calls[caller]? = some call →
      call.result? = some result →
      (Refuses result ∧
        ∀ entry ∈ state.log, entry.caller = caller → entry.op.isLeft) ∨
      ∃ inner outcome, Entitled config state.log call.request inner ∧
        result = answerOf call.request outcome ∧
        ∀ error, outcome = .error error → Speaks inner error := by
  obtain ⟨admitted, inner, refines⟩ := exists_refines reaches
  refine ⟨fun entry member isRight => ?_, fun caller call result present
    isResult => ?_⟩
  · obtain ⟨call, own, present, _, entitled, _⟩ :=
      refines.served entry.caller (refines.entries entry member isRight)
    exact ⟨call, own.request, present, entitled⟩
  · by_cases member : caller ∈ admitted
    · obtain ⟨other, own, isCall, isOwn, entitled, answered⟩ :=
        refines.served caller member
      obtain rfl := Option.some.inj (isCall.symm.trans present)
      obtain ⟨outcome, ended, isAnswer⟩ := answered result isResult
      refine .inr ⟨own.request, outcome, entitled, isAnswer, ?_⟩
      rintro error rfl
      exact (honoured_of_reaches refines.reaches).finished isOwn ended
    · refine .inl ⟨refines.refused caller call member present result isResult,
        fun entry isEntry isCaller => ?_⟩
      cases isOp : entry.op with
      | inl op => rfl
      | inr op =>
          exact absurd (refines.entries entry isEntry (by rw [isOp]; rfl))
            (isCaller ▸ member)

/-! ## A sample -/

def clientsText : String :=
  "[\x7b\"clientName\":\"DAWSON\",\"clientRoleArn\":\"arn:aws:iam::123456789012:role/dawson\",\"allowedFeeKeys\":[\"PETITION_FILING_FEE\"]\x7d]"

def orderText : String :=
  "\x7b\"transactionReferenceId\":\"550e8400-e29b-41d4-a716-446655440000\",\"fee\":\"PETITION_FILING_FEE\",\"urlSuccess\":\"https://client.app/success\",\"urlCancel\":\"https://client.app/cancel\",\"metadata\":\x7b\"docketNumber\":\"123-26\",\"note\":\"x\"\x7d\x7d"

/-- `JSON.parse` on the two texts. -/
def sampleJsonParse (text : String) : Except String Json :=
  if text = clientsText then .ok (.array [.object [
    ("clientName", .string "DAWSON"),
    ("clientRoleArn", .string "arn:aws:iam::123456789012:role/dawson"),
    ("allowedFeeKeys", .array [.string "PETITION_FILING_FEE"])]])
  else if text = orderText then .ok (.object [
    ("transactionReferenceId",
      .string "550e8400-e29b-41d4-a716-446655440000"),
    ("fee", .string "PETITION_FILING_FEE"),
    ("urlSuccess", .string "https://client.app/success"),
    ("urlCancel", .string "https://client.app/cancel"),
    ("metadata", .object [
      ("docketNumber", .string "123-26"), ("note", .string "x")])])
  else .error "SyntaxError"

/-- A deployed process; the formats on the texts of the sample order. -/
def sampleGateway : GatewayConfig where
  permissions := { samplePermissionsConfig with jsonParse := sampleJsonParse }
  portal := sampleConfig
  formats := {
    uuidv4 := fun text => text == "550e8400-e29b-41d4-a716-446655440000"
    email := fun _ => false
    url := fun text =>
      if ["https://client.app/success", "https://client.app/cancel"].contains
        text then some text else none }
  jsonStringify := fun _ => ""
  clientPermission := fun _ => {
    clientName := "DAWSON"
    clientRoleArn := "arn:aws:iam::123456789012:role/dawson"
    allowedFeeKeys := ["PETITION_FILING_FEE"] }

def sampleEvent (userArn : String) : APIGatewayEvent where
  body := some orderText
  transactionReferenceId := none
  userArn := some userArn

/-- An order of a registered client, and one from another role. -/
def sampleOrders : List GatewayMove :=
  .arrive (.initPaymentHandler (sampleEvent
      "arn:aws:sts::123456789012:assumed-role/dawson/session")) ::
    .arrive (.initPaymentHandler (sampleEvent
      "arn:aws:sts::123456789012:assumed-role/other/session")) ::
    ([.inl .executed, .inl .executed, .inl .executed, .inr .read,
      .inr (.executed []), .inr (.generated "A1"), .inr (.executed []),
      .inr (.executed []), .inr (.issued firstToken .delivered),
      .inr (.executed [])].map (.step 0)) ++ [.step 1 (.inl .executed)]

/-- The statuses of the answers. -/
def statusesOf (state : GatewayState) : List (Option Nat) :=
  state.calls.map fun call =>
    match call.result? with
    | some (.answered result) => some result.statusCode
    | _ => none

/-- The order is served, and the other role is refused. -/
theorem front_door_sample : ∃ state,
    (gateway sampleGateway).replay Machine.Unrestricted sampleOrders
      (.initial (gatewayStart sampleNow ⟨some clientsText, none⟩)) =
        some state ∧
    statusesOf state = [some 200, some 403] ∧
    (∀ entry ∈ state.log, entry.op.isRight → ∃ call inner,
      state.calls[entry.caller]? = some call ∧
        Entitled sampleGateway state.log call.request inner) := by
  have replayed : ((gateway sampleGateway).replay Machine.Unrestricted
      sampleOrders
      (.initial (gatewayStart sampleNow ⟨some clientsText, none⟩))).map
        statusesOf = some [some 200, some 403] := by
    decide +kernel
  obtain ⟨state, reached, statuses⟩ := Option.map_eq_some_iff.mp replayed
  exact ⟨state, reached, statuses,
    (front_door (Machine.reaches_of_replay reached)).1⟩

end PaymentPortal.Guarantees
