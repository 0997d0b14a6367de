import PaymentPortal.Model.GetDetails
import PaymentPortal.Model.InitPayment
import PaymentPortal.Model.PermissionsClient
import PaymentPortal.Model.ProcessPayment
import PaymentPortal.Model.Texts

/-!
# The schemas of the requests

`schemas/InitPayment.schema.ts`, `Metadata.schema.ts`, `FeeKey.schema.ts`,
`ProcessPayment.schema.ts` and `GetDetails.schema.ts`.  A schema reads a parsed
body or throws a `ZodError`; the issues of that error are left out.  The formats
of zod are parameters.
-/

namespace PaymentPortal.Model

/-- The formats of zod; `url` yields the text that is kept. -/
structure ZodFormats where
  uuidv4 : String → Bool
  email : String → Bool
  url : String → Option String

/-- What a schema makes of a value. -/
abbrev Schema (α : Type) := Json → Option α

namespace Schema

variable {α : Type}

/-- `z.string()`. -/
def text : Schema String
  | .string value => some value
  | _ => none

/-- `z.number().positive()`. -/
def positive : Schema Amount
  | .number value => if 0 < value then some value else none
  | _ => none

/-- A member that must be there. -/
def required (name : String) (schema : Schema α) : Schema α := fun value =>
  (value.member name).bind schema

/-- `.optional()`: a member that may be absent. -/
def optional (name : String) (schema : Schema α) : Schema (Option α) :=
  fun value =>
    match value.member name with
    | none => some none
    | some member => (schema member).map some

/-- `.strict()`: an object without members of other names. -/
def strict (names : List String) : Json → Bool
  | .object members => members.all fun entry => names.contains entry.1
  | _ => false

end Schema

open Schema

/-- The metadata of a transaction, as it is stored. -/
abbrev Metadata := List (String × String)

/-- The metadata as a value. -/
def metadataValue (metadata : Metadata) : Json :=
  .object (metadata.map fun entry => (entry.1, .string entry.2))

/-- `MetadataDawsonSchema`; members of other names are dropped. -/
def MetadataDawsonSchema : Schema Metadata := fun value => do
  let docketNumber ← required "docketNumber" text value
  some [("docketNumber", docketNumber)]

/-- `MetadataNonattorneyExamSchema`; members of other names are dropped. -/
def MetadataNonattorneyExamSchema (formats : ZodFormats) : Schema Metadata :=
  fun value => do
    let email ← required "email"
      (fun member => (text member).filter formats.email) value
    let fullName ← required "fullName" text value
    let accessCode ← required "accessCode" text value
    some [("email", email), ("fullName", fullName), ("accessCode", accessCode)]

/-- `MetadataSchema`: the union keeps what its first member makes of a value. -/
def MetadataSchema (formats : ZodFormats) : Schema Metadata := fun value =>
  MetadataDawsonSchema value <|> MetadataNonattorneyExamSchema formats value

/-- The values of `FeeKeySchema`. -/
def FEE_KEYS : List String :=
  ["PETITION_FILING_FEE", "NONATTORNEY_EXAM_REGISTRATION_FEE"]

/-- `FeeKeySchema`. -/
def FeeKeySchema : Schema String := fun value =>
  (text value).filter fun feeKey => FEE_KEYS.contains feeKey

/-- `metadataValidators`. -/
def metadataValidators (formats : ZodFormats) (feeKey : String) :
    Schema Metadata :=
  if feeKey = "PETITION_FILING_FEE" then MetadataDawsonSchema
  else MetadataNonattorneyExamSchema formats

/-- `InitPaymentRequestSchema`. -/
def InitPaymentRequestSchema (formats : ZodFormats) :
    Schema InitPaymentRequest := fun value => do
  guard (strict ["transactionReferenceId", "fee", "amount", "urlSuccess",
    "urlCancel", "metadata"] value)
  let transactionReferenceId ← required "transactionReferenceId"
    (fun member => (text member).filter formats.uuidv4) value
  let fee ← required "fee" FeeKeySchema value
  let amount ← optional "amount" positive value
  let urlSuccess ← required "urlSuccess"
    (fun member => (text member).bind formats.url) value
  let urlCancel ← required "urlCancel"
    (fun member => (text member).bind formats.url) value
  let metadata ← required "metadata" (MetadataSchema formats) value
  -- `superRefine` validates what the union has kept.
  guard (metadataValidators formats fee (metadataValue metadata)).isSome
  some {
    transactionReferenceId := transactionReferenceId
    fee := fee
    amount := amount
    urlSuccess := urlSuccess
    urlCancel := urlCancel
    metadata := metadata }

/-- `ProcessPaymentRequestSchema`; zod's `length` counts code points. -/
def ProcessPaymentRequestSchema : Schema ProcessPaymentRequest := fun value => do
  guard (strict ["token"] value)
  let token ← required "token"
    (fun member => (text member).filter fun token => token.length = 32) value
  some ⟨token⟩

/-- `GetDetailsPathParamsSchema`. -/
def GetDetailsPathParamsSchema (formats : ZodFormats) :
    Schema GetDetailsRequest := fun value => do
  guard (strict ["transactionReferenceId"] value)
  let transactionReferenceId ← required "transactionReferenceId"
    (fun member => (text member).filter formats.uuidv4) value
  some ⟨transactionReferenceId⟩

end PaymentPortal.Model
