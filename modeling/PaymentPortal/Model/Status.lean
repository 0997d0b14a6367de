import PaymentPortal.Model.Texts

/-!
# Statuses of attempts and payments

The status enumerations of the schemas, the derivation of payment statuses
(`derivePaymentStatus.ts`), the mapping of Pay.gov's statuses
(`parseTransactionStatus.ts`), the payment methods and the constants that the
use cases share.  Instants are integers: milliseconds since the epoch, as
`Date.getTime` returns them.
-/

namespace PaymentPortal.Model

/-- Token TTL per the Pay.gov documentation: three hours. -/
def MAX_TOKEN_AGE_MS : Int := 10800000

/-- Max batch size of one cancellation sweep. -/
def CANCEL_SWEEP_BATCH_SIZE : Nat := 500

/-- Age at which a stuck `processing` row counts as abandoned. -/
def PROCESSING_STALE_MS : Int := 600000

/-- `TransactionStatusSchema`. -/
inductive TransactionStatus where
  | received
  | initiated
  | processing
  | processed
  | failed
  | pending
  | cancelled
  deriving DecidableEq, Repr

/-- `PaymentStatusSchema`. -/
inductive PaymentStatus where
  | success
  | failed
  | pending
  deriving DecidableEq, Repr

/-- `PayGovTransactionStatusSchema`. -/
inductive PayGovTransactionStatus where
  | Success
  | Settled
  | Cancelled
  | Failed
  | Retired
  | Pending
  | Received
  | Waiting
  | Submitted
  deriving DecidableEq, Repr

/-- `DbPaymentMethodSchema`. -/
inductive DbPaymentMethod where
  | plastic_card
  | ach
  | paypal
  deriving DecidableEq, Repr

/-- `PaymentMethodSchema`: the labels the API returns. -/
inductive PaymentMethod where
  | creditDebitCard
  | ach
  | payPal
  deriving DecidableEq, Repr

/-! ## Payment status of an attempt and of an obligation -/

/-- `derivePaymentStatusFromSingleTransaction`. -/
def derivePaymentStatusFromSingleTransaction :
    TransactionStatus → PaymentStatus
  | .processed => .success
  | .failed => .failed
  | .cancelled => .failed
  | _ => .pending

/-- `derivePaymentStatus`, on the statuses of the attempts. -/
def derivePaymentStatus (statuses : List (Option TransactionStatus)) :
    PaymentStatus :=
  if statuses.any (· == some .processed) then .success
  else if 0 < statuses.length ∧
      statuses.all (fun status =>
        status == some .failed || status == some .cancelled) then .failed
  else .pending

/-- Attempts that have been resolved without success count for nothing. -/
theorem derivePaymentStatus_of_resolved {status : TransactionStatus}
    {statuses : List (Option TransactionStatus)}
    (member : some status ∈ statuses)
    (resolved : ∀ other ∈ statuses, other = some status ∨
      other = some .failed ∨ other = some .cancelled) :
    derivePaymentStatus statuses =
      derivePaymentStatusFromSingleTransaction status := by
  unfold derivePaymentStatus
  by_cases paid : status = .processed
  · subst paid
    rw [if_pos (List.any_eq_true.mpr ⟨_, member, by decide⟩)]
    rfl
  have unpaid : ¬ statuses.any (· == some .processed) = true := by
    intro found
    obtain ⟨other, otherIn, isPaid⟩ := List.any_eq_true.mp found
    rcases resolved other otherIn with rfl | rfl | rfl
    · exact paid (Option.some.inj (beq_iff_eq.mp isPaid))
    · exact absurd isPaid (by decide)
    · exact absurd isPaid (by decide)
  rw [if_neg unpaid]
  by_cases settled : status = .failed ∨ status = .cancelled
  · have every : statuses.all (fun other =>
        other == some .failed || other == some .cancelled) = true := by
      refine List.all_eq_true.mpr fun other otherIn => ?_
      rcases settled with rfl | rfl <;>
        rcases resolved other otherIn with rfl | rfl | rfl <;> decide
    rw [if_pos ⟨List.length_pos_of_mem member, every⟩]
    rcases settled with rfl | rfl <;> rfl
  · have open_ : ¬ statuses.all (fun other =>
        other == some .failed || other == some .cancelled) = true := by
      intro every
      have own := List.all_eq_true.mp every _ member
      exact settled (by simpa using own)
    rw [if_neg fun both => open_ both.2]
    cases status <;> simp_all [derivePaymentStatusFromSingleTransaction]

/-- `parseTransactionStatus`. -/
def parseTransactionStatus : PayGovTransactionStatus → TransactionStatus
  | .Pending | .Received | .Waiting | .Submitted => .pending
  | .Settled | .Success => .processed
  | .Cancelled | .Failed | .Retired => .failed

/-- Pay.gov's answers only ever lead to these three statuses. -/
theorem parseTransactionStatus_cases (status : PayGovTransactionStatus) :
    parseTransactionStatus status = .pending ∨
      parseTransactionStatus status = .processed ∨
      parseTransactionStatus status = .failed := by
  cases status <;> simp [parseTransactionStatus]

/-! ## Payment methods -/

/-- `toPaymentMethod`: the stored method for Pay.gov's `payment_type`. -/
def toPaymentMethod (paymentType : String) : Option DbPaymentMethod :=
  let upper := toUpperCase paymentType
  if upper = "PLASTIC_CARD" then some .plastic_card
  else if upper = "ACH" then some .ach
  else if upper = "PAYPAL" then some .paypal
  else none

-- "plaﬆic_card", with the ligature, is the name of a method.
example : toPaymentMethod "pla\uFB06ic_card" = some .plastic_card := by decide

/-- `PAYMENT_METHOD_LABELS`. -/
def PAYMENT_METHOD_LABELS : DbPaymentMethod → PaymentMethod
  | .plastic_card => .creditDebitCard
  | .ach => .ach
  | .paypal => .payPal

/-- `toApiPaymentMethod`. -/
def toApiPaymentMethod (method : Option DbPaymentMethod) :
    Option PaymentMethod :=
  method.map PAYMENT_METHOD_LABELS

end PaymentPortal.Model
