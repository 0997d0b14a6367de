import PaymentPortal.Interaction.Staged
import PaymentPortal.Model.CallerArn
import PaymentPortal.Model.Portal
import PaymentPortal.Model.Schemas

/-!
# The handlers

`handlers/lambdaHandler.ts` with the handlers of the three use cases,
`parseAndValidate.ts`, `jsonParse.ts`, `handleError.ts` and
`cancelExpiredHandler.ts`.  A handler reads its event, asks for the permissions
of the process, and calls its use case; the use cases are those of the portal.
So one process with its handlers is a machine in two stages.

`JSON.stringify` belongs to the language.  The records of the permissions are
cast and not checked; `clientPermission` is what the use cases then make of one.
-/

namespace PaymentPortal.Model

open PaymentPortal.Interaction

/-- What the handlers read of an event of the API gateway. -/
structure APIGatewayEvent where
  body : Option String
  transactionReferenceId : Option String
  userArn : Option String
  deriving DecidableEq, Repr

/-- What the process reads from its configuration and from the language. -/
structure GatewayConfig where
  permissions : PermissionsConfig
  portal : Config
  formats : ZodFormats
  jsonStringify : Json → String
  clientPermission : Json → ClientPermission

/-- The body of an answer before it is written. -/
inductive ResponseBody where
  | result (response : Response)
  | message (message : String)
  | issues
  deriving DecidableEq, Repr

structure APIGatewayProxyResult where
  statusCode : Nat
  body : ResponseBody
  deriving DecidableEq, Repr

/-! ## Errors -/

/-- `handleError`, without its logging. -/
def handleError : PortalError → APIGatewayProxyResult
  | .conflict message => ⟨409, .message message⟩
  | .gone message => ⟨410, .message message⟩
  | .notFound message => ⟨404, .message message⟩
  | .forbidden message => ⟨403, .message message⟩
  | .invalidRequest message => ⟨400, .message message⟩
  | .zod => ⟨400, .issues⟩
  | .payGov message statusCode => ⟨statusCode, .message message⟩
  | .server message => ⟨500, .message message⟩
  | .failedTransaction _ _ | .feeNotFound _ | .feeConfiguration _ _
  | .database _ | .fetch _ | .unexpected _ => ⟨500, .message
      "An unexpected error occurred while processing the request"⟩

/-! ## Requests -/

/-- `jsonParse`. -/
def jsonParse (config : PermissionsConfig) (body : String) :
    Except PortalError Json :=
  if body = "" then .error (.invalidRequest "missing body")
  else
    match config.jsonParse body with
    | .ok value => .ok value
    | .error _ => .error (.invalidRequest "invalid JSON in request body")

/-- `parseAndValidate`. -/
def parseAndValidate {α : Type} (config : PermissionsConfig) (body : String)
    (schema : Schema α) : Except PortalError α := do
  let parsed ← jsonParse config body
  match schema parsed with
  | none => .error .zod
  | some value => .ok value

/-- What the process is asked for. -/
inductive GatewayRequest where
  | prewarm
  | initPaymentHandler (event : APIGatewayEvent)
  | processPaymentHandler (event : APIGatewayEvent)
  | getDetailsHandler (event : APIGatewayEvent)
  | cancelExpiredHandler
  deriving DecidableEq, Repr

/-- What becomes of it. -/
inductive GatewayResult where
  | prewarmed
  | answered (result : APIGatewayProxyResult)
  | swept (outcome : Outcome)

/-- The way of a request through the process. -/
abbrev GatewayRoute :=
  Route (Except PortalError Permissions) Request Outcome GatewayResult

/-- The answer of a use case. -/
def respond : Outcome → GatewayResult
  | .ok response => .answered ⟨200, .result response⟩
  | .error err => .answered (handleError err)

/-- What `lambdaHandler` does before it asks for the permissions. -/
def readEvent {α : Type} (config : GatewayConfig) (schema : Schema α)
    (event : APIGatewayEvent) (rawRequest : String) :
    Except PortalError (α × String) := do
  let parsedRequest ← parseAndValidate config.permissions rawRequest schema
  let roleArn ← extractCallerArn config.permissions event.userArn
  .ok (parsedRequest, roleArn)

/-- `lambdaHandler`. -/
def lambdaHandler {α : Type} (config : GatewayConfig) (schema : Schema α)
    (event : APIGatewayEvent) (rawRequest : String)
    (callback : ClientPermission → α → Request) : GatewayRoute :=
  match readEvent config schema event rawRequest with
  | .error err => .decided (.close (.answered (handleError err)))
  | .ok (parsedRequest, roleArn) => .consult fun permissions =>
      match permissions >>= clientByRoleArn roleArn with
      | .error err => .close (.answered (handleError err))
      | .ok client =>
          .forward (callback (config.clientPermission client) parsedRequest)
            respond

/-- `initPaymentHandler`. -/
def initPaymentHandler (config : GatewayConfig) (event : APIGatewayEvent) :
    GatewayRoute :=
  lambdaHandler config (InitPaymentRequestSchema config.formats) event
    (event.body.getD "") .initPayment

/-- `processPaymentHandler`. -/
def processPaymentHandler (config : GatewayConfig) (event : APIGatewayEvent) :
    GatewayRoute :=
  lambdaHandler config ProcessPaymentRequestSchema event (event.body.getD "")
    .processPayment

/-- The body that `getDetailsHandler` writes from the path. -/
def detailsRequest (config : GatewayConfig) (event : APIGatewayEvent) :
    String :=
  let transactionReferenceId :=
    match event.transactionReferenceId.filter fun text => text ≠ "" with
    | some text => Json.string text
    | none => Json.null
  config.jsonStringify
    (.object [("transactionReferenceId", transactionReferenceId)])

/-- `getDetailsHandler`. -/
def getDetailsHandler (config : GatewayConfig) (event : APIGatewayEvent) :
    GatewayRoute :=
  lambdaHandler config (GetDetailsPathParamsSchema config.formats) event
    (detailsRequest config event) .getDetails

/-- The handler of a request; the cold start only asks for the permissions. -/
def handle (config : GatewayConfig) : GatewayRequest → GatewayRoute
  | .prewarm => .consult fun _ => .close .prewarmed
  | .initPaymentHandler event => initPaymentHandler config event
  | .processPaymentHandler event => processPaymentHandler config event
  | .getDetailsHandler event => getDetailsHandler config event
  | .cancelExpiredHandler =>
      .decided (.forward .cancelExpiredTransactions .swept)

/-! ## The process -/

/-- The stages of a request. -/
def gatewayStaging (config : GatewayConfig) :
    Staging Unit (Except PortalError Permissions) Request Outcome
      GatewayRequest GatewayResult where
  front _ := ()
  route := handle config

/-- One process with its permissions, over the database and Pay.gov. -/
def gateway (config : GatewayConfig) :
    Machine (PermissionsOp ⊕ Op) (SumReply PermissionsReply Reply)
      (PermissionsWorld × World) (SecretFate ⊕ Fate) GatewayRequest
      GatewayResult (SecretDrift ⊕ Drift) :=
  (permissionsClient config.permissions).staged (portal config.portal)
    (gatewayStaging config)

/-- A state of the process. -/
abbrev GatewayState :=
  State (PermissionsOp ⊕ Op) (SumReply PermissionsReply Reply)
    (PermissionsWorld × World) GatewayRequest GatewayResult

/-- A move of the process. -/
abbrev GatewayMove :=
  Move (SecretFate ⊕ Fate) GatewayRequest (SecretDrift ⊕ Drift)

/-- An entry of its log. -/
abbrev GatewayEntry :=
  Entry (PermissionsOp ⊕ Op) (SumReply PermissionsReply Reply)
    (PermissionsWorld × World)

/-- A cold process over an empty database. -/
def gatewayStart (now : Int) (secret : SecretValue) :
    PermissionsWorld × World :=
  (.cold now secret, .fresh now)

end PaymentPortal.Model
