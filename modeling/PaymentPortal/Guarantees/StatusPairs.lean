import PaymentPortal.Guarantees.StringDecoding
import PaymentPortal.Protocol.Invariant

/-!
# Status pairs

The payment status of every stored row is the one derived from its transaction
status, although two of the writers set the transaction status only.
-/

namespace PaymentPortal.Guarantees

open PaymentPortal.Interaction
open PaymentPortal.Model
open PaymentPortal.Protocol

/--
In every reachable state every row has a transaction status, and its payment
status is derived from it.
-/
theorem paymentStatus_eq_derived {config : Config} {now : Int}
    {state : PortalState}
    (reaches : Reachable config Machine.Unrestricted now state) :
    ∀ row ∈ state.world.table.rows, ∃ status,
      row.transactionStatus = some status ∧
        row.paymentStatus = derivePaymentStatusFromSingleTransaction status := by
  obtain ⟨annotated, rfl, sound⟩ := exists_sound reaches
  intro row member
  exact (sound.rows row member).status

/-! ## A sample run -/

/-- The fee table of the source, whose dates are all the same. -/
def sampleConfig : Config where
  staticFees := staticFees
  dateParse text :=
    if text = "2024-10-01T00:00:00Z" then some 1727740800000 else none
  paymentUrl := "https://pay.gov"
  xmlFormats := sampleXmlFormats

/-- The afternoon of 21 April 2026. -/
def sampleNow : Int := 1776783600000

def sampleClient : ClientPermission where
  clientName := "dawson"
  clientRoleArn := "arn"
  allowedFeeKeys := ["*"]

def sampleOrder : InitPaymentRequest where
  transactionReferenceId := "ref"
  fee := "PETITION_FILING_FEE"
  amount := none
  urlSuccess := "ok"
  urlCancel := "cancel"
  metadata := []

/-- Tokens of the length that the response schema demands, in letters. -/
def firstToken : String := "aaaaaaaaaaaaaaaaaaaaaaaaaaaaaaaa"

def secondToken : String := "bbbbbbbbbbbbbbbbbbbbbbbbbbbbbbbb"

def thirdToken : String := "cccccccccccccccccccccccccccccccc"

def sampleResponse (trackingId : String) (status : PayGovTransactionStatus) :
    CompletionAnswer where
  paygov_tracking_id := trackingId
  transaction_status := status
  transaction_date := "2026-04-21T15:04:55"
  payment_date := "2026-04-21"
  payment_type := "PLASTIC_CARD"
  agency_tracking_id := "A1"
  transaction_amount := "60.00"

/-- One caller meets these fates, one operation after the other. -/
def meets (caller : Nat) (fates : List Fate) : List PortalMove :=
  fates.map (.step caller)

/-- `initPayment` by `caller` on an obligation without a row in flight. -/
def initiates (caller : Nat) (id token : String) : List PortalMove :=
  .arrive (.initPayment sampleClient sampleOrder) :: meets caller [
    .read, .executed [], .generated id, .executed [], .executed [],
    .issued token .delivered, .executed []]

/-- `processPayment` by `caller` up to its claim of the token. -/
def claims (caller : Nat) (token : String) : List PortalMove :=
  .arrive (.processPayment sampleClient ⟨token⟩) ::
    meets caller [.executed [], .executed []]

/-- One payment without concurrency or failures. -/
def samplePayment : List PortalMove :=
  initiates 0 "A1" firstToken ++ claims 1 firstToken ++ meets 1 [
    .completed (sampleResponse "P1" .Success) .delivered, .executed [],
    .executed []]

/-- The sample payment ends with one `processed` row, which is coherent. -/
theorem paymentStatus_eq_derived_sample : ∃ state,
    (portal sampleConfig).replay Machine.Unrestricted samplePayment
      (.initial (World.fresh sampleNow)) = some state ∧
    state.world.table.rows.map Transaction.transactionStatus =
      [some .processed] ∧
    ∀ row ∈ state.world.table.rows, ∃ status,
      row.transactionStatus = some status ∧
        row.paymentStatus = derivePaymentStatusFromSingleTransaction status := by
  have replayed : (((portal sampleConfig).replay Machine.Unrestricted
      samplePayment (.initial (World.fresh sampleNow))).map fun state =>
        state.world.table.rows.map Transaction.transactionStatus) =
      some [some .processed] := by decide
  obtain ⟨state, reached, statuses⟩ := Option.map_eq_some_iff.mp replayed
  exact ⟨state, reached, statuses,
    paymentStatus_eq_derived (Machine.reaches_of_replay reached)⟩

end PaymentPortal.Guarantees
