import PaymentPortal.Model.SoapRequests
import PaymentPortal.Model.TransactionModel

/-!
# Transaction summaries

`toTransactionRecordSummary.ts` and the response shape that `processPayment`
and `getDetails` share.
-/

namespace PaymentPortal.Model

/-- `TransactionRecordSummary`. -/
structure TransactionRecordSummary where
  payGovTrackingId : Option String
  transactionStatus : TransactionStatus
  paymentMethod : Option PaymentMethod
  returnDetail : Option String
  createdTimestamp : Int
  updatedTimestamp : Int
  deriving DecidableEq, Repr

/-- `ProcessPaymentResponse` and `GetDetailsResponse`. -/
structure PaymentResponse where
  paymentStatus : PaymentStatus
  transactions : List TransactionRecordSummary
  deriving DecidableEq, Repr

/-- `toTransactionRecordSummary`; a null status reads as `received`. -/
def toTransactionRecordSummary (row : Transaction) :
    TransactionRecordSummary where
  payGovTrackingId := row.paygovTrackingId
  transactionStatus := row.transactionStatus.getD .received
  paymentMethod := toApiPaymentMethod row.paymentMethod
  returnDetail := row.returnDetail
  createdTimestamp := row.createdAt
  updatedTimestamp := row.lastUpdatedAt

end PaymentPortal.Model
