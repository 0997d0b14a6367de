import PaymentPortal.Model.Effects

/-!
# SOAP requests

`postHttpRequest` of `appContext.ts` with its retry loop, and the three request
entities.  The HTTPS agent and the authorization headers are read before the
loop and carry no data of the request; a failure to read them is an attempt
that never reaches Pay.gov.
-/

namespace PaymentPortal.Model

/-- `PAYGOV_MAX_ATTEMPTS`. -/
def PAYGOV_MAX_ATTEMPTS : Nat := 2

/-- The loop of `postHttpRequest` with `attempts` attempts left. -/
def postAttempts (request : SoapRequest) : Nat → Async ResponseText
  | 0 => throw (.unexpected "Pay.gov request failed: undefined")
  | remaining + 1 => do
      match ← fetch request with
      | .ok text => pure text
      | .error err =>
          if !err.timedOut && !isRetryablePaygovError err then
            throw (.fetch err)
          else if remaining = 0 then throw (.fetch err)
          else postAttempts request remaining

/-- `postHttpRequest`. -/
def postHttpRequest (request : SoapRequest) : Async ResponseText :=
  postAttempts request PAYGOV_MAX_ATTEMPTS

/-- `handleFault`. -/
def handleFault : ProcessorFault → PortalError
  | .absent => .failedTransaction
      "Unexpected response from Pay.gov: no fault detail returned" none
  | .withoutDetail => .failedTransaction
      "Pay.gov returned a fault without error details" none
  | .service return_detail return_code =>
      .failedTransaction return_detail (some return_code)

/-- What a text without the request's response element is turned into. -/
def rejectResponse {α : Type} : ResponseText → Async α
  | .schemaViolation => throw .zod
  | .unreadable message => throw (.unexpected message)
  | .fault fault => throw (handleFault fault)
  | _ => throw (handleFault .absent)

namespace StartOnlineCollectionRequest

/-- `StartOnlineCollectionResponseSchema`: tokens have 32 characters. -/
def checkToken (token : String) : Async String :=
  if token.length = 32 then pure token else throw .zod

/-- `makeSoapRequest` of `StartOnlineCollectionRequest`. -/
def makeSoapRequest (params : StartOnlineCollectionParams) : Async String := do
  match ← postHttpRequest (.startOnlineCollection params) with
  | .startOnlineCollectionResponse token => checkToken token
  | text => rejectResponse text

end StartOnlineCollectionRequest

namespace CompleteOnlineCollectionWithDetailsRequest

/-- `makeSoapRequest` of `CompleteOnlineCollectionWithDetailsRequest`. -/
def makeSoapRequest (tcsAppId token : String) :
    Async CompleteOnlineCollectionWithDetailsResponse := do
  match ← postHttpRequest
      (.completeOnlineCollectionWithDetails tcsAppId token) with
  | .completeOnlineCollectionWithDetailsResponse response => pure response
  | text => rejectResponse text

end CompleteOnlineCollectionWithDetailsRequest

namespace GetRequestRequest

/-- `makeSoapRequest` of `GetRequestRequest`. -/
def makeSoapRequest (tcsAppId payGovTrackingId : String) :
    Async PayGovGetDetailsTransaction := do
  match ← postHttpRequest (.getDetails tcsAppId payGovTrackingId) with
  | .getDetailsResponse transaction => pure transaction
  | text => rejectResponse text

end GetRequestRequest

end PaymentPortal.Model
