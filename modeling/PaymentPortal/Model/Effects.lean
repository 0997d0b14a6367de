import PaymentPortal.Interaction.Machine
import PaymentPortal.Model.SoapDecoding
import PaymentPortal.Model.Statements

/-!
# Effects of the use cases

The operations a use case awaits, the world they act on, and everything the
environment may decide about one of them: a database error before or after the
commit, the rows a sweep finds locked, a request that never reaches Pay.gov,
Pay.gov's answer, and whether that answer arrives.  What arrives is decoded as
the portal does it, so an intact answer may still violate its schema.

`Async` is the monad of the use cases: a program of operations that may throw
a `PortalError`.
-/

namespace PaymentPortal.Model

open PaymentPortal.Interaction

/-- What a use case awaits or reads from the outside. -/
inductive Op where
  | now
  | pick
  | generateAgencyTrackingId
  | db (statement : Statement)
  | fetch (request : SoapRequest)
  deriving DecidableEq

/-- The replies of the operations. -/
abbrev Reply : Op → Type
  | .now => Int
  | .pick => Bool
  | .generateAgencyTrackingId => String
  | .db statement => Except SqlState statement.Result
  | .fetch _ => Except FetchError ResponseText

/-- The clock, the transactions table and Pay.gov. -/
@[ext]
structure World where
  now : Int
  table : Table
  payGov : PayGov

/--
What happens to Pay.gov's answer on its way back.  An unusable text fails the
schema of the response or, with a message, cannot be read at all.
-/
inductive Delivery where
  | delivered
  | unusable (message : Option String)
  | lost (error : FetchError)
  deriving DecidableEq, Repr

/-- What the environment decides about one operation. -/
inductive Fate where
  | read
  | chosen (first : Bool)
  | generated (agencyTrackingId : String)
  | executed (locked : List String)
  | failed (error : SqlState)
  | replyLost (error : SqlState)
  | unreached (error : FetchError)
  | refused (text : ResponseText) (delivery : Delivery)
  | issued (token : String) (delivery : Delivery)
  | completed (response : CompletionAnswer) (delivery : Delivery)
  | reported (agency_tracking_id transaction_amount payment_type
      transaction_date payment_date : Option String) (delivery : Delivery)
  deriving DecidableEq, Repr

/-- Texts that answer a request without its response element. -/
def ResponseText.isRefusal : ResponseText → Bool
  | .schemaViolation => true
  | .fault _ => true
  | .unreadable _ => true
  | _ => false

/-- What arrives of an answer. -/
def deliver (text : ResponseText) : Delivery → Except FetchError ResponseText
  | .delivered => .ok text
  | .unusable none => .ok .schemaViolation
  | .unusable (some message) => .ok (.unreadable message)
  | .lost error => .error error

/-- Execute a statement, fail before it, or lose the reply after its commit. -/
def execStatement (statement : Statement) (fate : Fate) (world : World) :
    Option (Except SqlState statement.Result × World) :=
  match fate with
  | .executed locked =>
      match statement.run world.now locked world.table with
      | .ok (result, table) => some (.ok result, { world with table := table })
      | .error error => some (.error error, world)
  | .failed error =>
      if error = .uniqueViolation then none else some (.error error, world)
  | .replyLost error =>
      if error = .uniqueViolation then none
      else
        match statement.run world.now [] world.table with
        | .ok (_, table) => some (.error error, { world with table := table })
        | .error _ => none
  | _ => none

/-- One HTTP attempt: what Pay.gov does with the request and what arrives. -/
def execFetch (formats : XmlFormats) (request : SoapRequest) (fate : Fate)
    (world : World) : Option (Except FetchError ResponseText × World) :=
  match fate, request with
  | .unreached error, _ => some (.error error, world)
  | .refused text delivery, _ =>
      if text.isRefusal then some (deliver text delivery, world) else none
  | .issued token delivery, .startOnlineCollection params =>
      (world.payGov.issue? token params.agency_tracking_id).map fun payGov =>
        (deliver (responseText formats (issueResponse token)) delivery,
          { world with payGov := payGov })
  | .completed response delivery,
      .completeOnlineCollectionWithDetails _ token =>
      (world.payGov.complete? ⟨token, response.paygov_tracking_id,
        response.transaction_status⟩).map fun payGov =>
        (deliver (responseText formats response.soap) delivery,
          { world with payGov := payGov })
  | .reported agency_tracking_id transaction_amount payment_type
        transaction_date payment_date delivery,
      .getDetails _ trackingId =>
      (world.payGov.completions.find? fun completion =>
        completion.paygovTrackingId == trackingId).map fun completion =>
        let answer : DetailsAnswer := {
          paygov_tracking_id := trackingId
          transaction_status := completion.status
          payment_type := payment_type
          transaction_date := transaction_date
          payment_date := payment_date
          agency_tracking_id := agency_tracking_id
          transaction_amount := transaction_amount }
        (deliver (responseText formats answer.soap) delivery, world)
  | _, _ => none

/-- Execute one operation; `none` when the fate does not fit it. -/
def exec (formats : XmlFormats) :
    (op : Op) → Fate → World → Option (Reply op × World)
  | .now, .read, world => some (world.now, world)
  | .pick, .chosen first, world => some (first, world)
  | .generateAgencyTrackingId, .generated agencyTrackingId, world =>
      some (agencyTrackingId, world)
  | .db statement, fate, world => execStatement statement fate world
  | .fetch request, fate, world => execFetch formats request fate world
  | _, _, _ => none

/-- How the world changes on its own. -/
inductive Drift where
  | tick (ms : Nat)
  | settle (trackingId : String) (status : PayGovTransactionStatus)
  deriving DecidableEq, Repr

/-- Time passes; a status settles at Pay.gov. -/
def drift : Drift → World → Option World
  | .tick ms, world => some { world with now := world.now + ms }
  | .settle trackingId status, world =>
      some { world with payGov := world.payGov.settle trackingId status }

/-! ## The monad of the use cases -/

/-- An asynchronous function that may throw. -/
abbrev Async (α : Type) := ExceptT PortalError (Program Op Reply) α

/-- `Date.now()`. -/
def dateNow : Async Int :=
  ExceptT.mk (.perform .now fun now => .done (.ok now))

/-- `generateAgencyTrackingId()`. -/
def generateAgencyTrackingId : Async String :=
  ExceptT.mk (.perform .generateAgencyTrackingId fun id => .done (.ok id))

/-- Await a statement; a database error is thrown. -/
def query (statement : Statement) : Async statement.Result :=
  ExceptT.mk (.perform (.db statement) fun reply =>
    .done (reply.mapError .database))

/-- Await one `fetch` and the body of its response. -/
def fetch (request : SoapRequest) : Async (Except FetchError ResponseText) :=
  ExceptT.mk (.perform (.fetch request) fun reply => .done (.ok reply))

/-- `Promise.all` over tasks that have all been started. -/
def promiseAll {α : Type} (tasks : List (Async α)) : Async (List α) :=
  ExceptT.mk do
    let results ← Program.gather Op.pick (fun first => first)
      (tasks.map ExceptT.run)
    return results.mapM id

/-- Throw the error of a synchronous step. -/
def liftStep {α : Type} (step : Except PortalError α) : Async α :=
  ExceptT.mk (.done step)

end PaymentPortal.Model
