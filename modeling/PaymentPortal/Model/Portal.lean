import PaymentPortal.Model.GetDetails
import PaymentPortal.Model.InitPayment
import PaymentPortal.Model.ProcessPayment

/-!
# The portal

The four use cases as one machine over the database and Pay.gov.  Requests of
any clients arrive at any time and run concurrently, one statement or one
Pay.gov call at a time.
-/

namespace PaymentPortal.Model

open PaymentPortal.Interaction

/-- A request to the portal, with the permissions of the client who sent it. -/
inductive Request where
  | initPayment (client : ClientPermission) (request : InitPaymentRequest)
  | processPayment (client : ClientPermission)
      (request : ProcessPaymentRequest)
  | getDetails (client : ClientPermission) (request : GetDetailsRequest)
  | cancelExpiredTransactions
  deriving DecidableEq, Repr

/-- What a request returns. -/
inductive Response where
  | session (response : InitPaymentResponse)
  | payment (response : PaymentResponse)
  | swept (cancelledCount : Nat)
  deriving DecidableEq, Repr

/-- A response or the error that was thrown. -/
abbrev Outcome := Except PortalError Response

/-- The use case that serves a request. -/
def serve (config : Config) : Request → Async Response
  | .initPayment client request =>
      Response.session <$> initPayment config client request
  | .processPayment client request =>
      Response.payment <$> processPayment config client request
  | .getDetails client request =>
      Response.payment <$> getDetails config client request
  | .cancelExpiredTransactions =>
      Response.swept <$> cancelExpiredTransactions

/-- The portal as a machine. -/
def portal (config : Config) :
    Machine Op Reply World Fate Request Outcome Drift where
  program request := (serve config request).run
  exec := exec config.xmlFormats
  drift := drift

/-- A state of the portal. -/
abbrev PortalState := State Op Reply World Request Outcome

/-- A move of the portal. -/
abbrev PortalMove := Move Fate Request Drift

/-- The empty database and an empty Pay.gov at one instant. -/
def World.fresh (now : Int) : World where
  now := now
  table := .empty
  payGov := .empty

end PaymentPortal.Model
