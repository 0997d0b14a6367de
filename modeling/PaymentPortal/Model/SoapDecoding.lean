import PaymentPortal.Model.PayGov
import PaymentPortal.Model.Texts

/-!
# Decoding of SOAP responses

`parseXml` with `xmlOptions.ts`, and the response schemas.  A response is what
its texts say, entities resolved: the leaves of its element or, for
`getDetails`, of every transaction.  The options leave `parseTagValue` at its
default, so a text that looks like a boolean or a number becomes one; which
texts look numeric is up to the parser and a parameter, as are the date formats
of `zod`.  The length of a token is checked by `checkToken`.
-/

namespace PaymentPortal.Model

/-! ## Values -/

/-- The value of a member of the parsed object. -/
inductive XmlValue where
  | text (value : String)
  | boolean (value : Bool)
  | number (value : Rat)
  | array
  deriving DecidableEq, Repr

/-- The value of a tag: with `trimValues` off, a text that trimming would change
is not parsed. -/
def parseTagValue (formats : XmlFormats) (text : String) : XmlValue :=
  if text = "" ∨ trimText text ≠ text then .text text
  else if text = "true" then .boolean true
  else if text = "false" then .boolean false
  else
    match formats.number text with
    | some number => .number number
    | none => .text text

/-- The tags below an element, with their texts. -/
abbrev Leaves := List (String × String)

/-- What a member of the parsed element is read as; a tag that is repeated makes
an array. -/
def memberOf (value : String → String → XmlValue) (leaves : Leaves)
    (name : String) : Option XmlValue :=
  match leaves.filter fun leaf => leaf.1 = name with
  | [] => none
  | [leaf] => some (value name leaf.2)
  | _ => some .array

/-! ## Schemas -/

/-- `z.string()`. -/
def stringMember : Option XmlValue → Option String
  | some (.text value) => some value
  | _ => none

/-- `z.number()`. -/
def numberMember : Option XmlValue → Option Rat
  | some (.number value) => some value
  | _ => none

/-- `z.iso.datetime(…)` and `z.iso.date()`. -/
def formatMember (accepts : String → Bool) (member : Option XmlValue) :
    Option String :=
  (stringMember member).filter accepts

/-- `PayGovTransactionStatusSchema`. -/
def statusMember (member : Option XmlValue) : Option PayGovTransactionStatus :=
  (stringMember member).bind fun text =>
    [("Success", PayGovTransactionStatus.Success), ("Settled", .Settled),
      ("Cancelled", .Cancelled), ("Failed", .Failed), ("Retired", .Retired),
      ("Pending", .Pending), ("Received", .Received), ("Waiting", .Waiting),
      ("Submitted", .Submitted)].lookup text

/-- `.optional()`. -/
def optionalMember {α : Type} (check : Option XmlValue → Option α)
    (member : Option XmlValue) : Option (Option α) :=
  match member with
  | none => some none
  | some value => (check (some value)).map some

/-- All of `CompleteOnlineCollectionWithDetailsResponseSchema`. -/
structure CompletedRecord where
  paygov_tracking_id : String
  agency_tracking_id : String
  transaction_amount : Rat
  transaction_date : String
  payment_date : String
  transaction_status : PayGovTransactionStatus
  payment_type : String
  deriving DecidableEq, Repr

/-- All of `PayGovGetDetailsTransactionSchema`. -/
structure DetailsRecord where
  paygov_tracking_id : String
  transaction_status : PayGovTransactionStatus
  agency_tracking_id : Option String
  transaction_amount : Option Rat
  payment_type : Option String
  transaction_date : Option String
  payment_date : Option String
  deriving DecidableEq, Repr

/-- The members of a parsed element by their names. -/
abbrev Members := String → Option XmlValue

/-- `StartOnlineCollectionResponseSchema`, without the length. -/
def startSchema (members : Members) : Option String :=
  stringMember (members "token")

/-- `CompleteOnlineCollectionWithDetailsResponseSchema`. -/
def completeSchema (formats : XmlFormats) (members : Members) :
    Option CompletedRecord := do
  let paygov_tracking_id ← stringMember (members "paygov_tracking_id")
  let agency_tracking_id ← stringMember (members "agency_tracking_id")
  let transaction_amount ← numberMember (members "transaction_amount")
  let transaction_date ← formatMember formats.localDateTime
    (members "transaction_date")
  let payment_date ← formatMember formats.date (members "payment_date")
  let transaction_status ← statusMember (members "transaction_status")
  let payment_type ← stringMember (members "payment_type")
  some {
    paygov_tracking_id, agency_tracking_id, transaction_amount,
    transaction_date, payment_date, transaction_status, payment_type }

/-- `PayGovGetDetailsTransactionSchema`. -/
def detailsSchema (formats : XmlFormats) (members : Members) :
    Option DetailsRecord := do
  let paygov_tracking_id ← stringMember (members "paygov_tracking_id")
  let transaction_status ← statusMember (members "transaction_status")
  let agency_tracking_id ← optionalMember stringMember
    (members "agency_tracking_id")
  let transaction_amount ← optionalMember numberMember
    (members "transaction_amount")
  let payment_type ← optionalMember stringMember (members "payment_type")
  let transaction_date ← optionalMember (formatMember formats.localDateTime)
    (members "transaction_date")
  let payment_date ← optionalMember (formatMember formats.date)
    (members "payment_date")
  some {
    paygov_tracking_id, transaction_status, agency_tracking_id,
    transaction_amount, payment_type, transaction_date, payment_date }

/-! ## Responses -/

/-- The element of a response: its leaves or, for `getDetails`, those of each
`transaction` of each `transactions`. -/
inductive SoapResponse where
  | startOnlineCollection (leaves : Leaves)
  | completeOnlineCollectionWithDetails (leaves : Leaves)
  | getDetails (transactions : List (List Leaves))
  deriving DecidableEq, Repr

/-- What a schema returns for a response. -/
inductive DecodedResponse where
  | startOnlineCollection (token : String)
  | completeOnlineCollectionWithDetails (record : CompletedRecord)
  | getDetails (transaction : DetailsRecord)
  deriving DecidableEq, Repr

/-- `TransactionWrapperSchema`; of several transactions the parser makes an
array, which the schema refuses. -/
def wrapperSchema (formats : XmlFormats) (value : String → String → XmlValue) :
    List Leaves → Option DetailsRecord
  | [transaction] => detailsSchema formats (memberOf value transaction)
  | _ => none

/-- A response read with the given values of its tags.  Of several wrappers the
first is used. -/
def decodeWith (formats : XmlFormats) (value : String → String → XmlValue) :
    SoapResponse → Option DecodedResponse
  | .startOnlineCollection leaves =>
      (startSchema (memberOf value leaves)).map .startOnlineCollection
  | .completeOnlineCollectionWithDetails leaves =>
      (completeSchema formats (memberOf value leaves)).map
        .completeOnlineCollectionWithDetails
  | .getDetails transactions =>
      ((transactions.mapM (wrapperSchema formats value)).bind List.head?).map
        .getDetails

/-- `parseXml` and the schema of the response. -/
def decodeResponse (formats : XmlFormats) (response : SoapResponse) :
    Option DecodedResponse :=
  decodeWith formats (fun _ text => parseTagValue formats text) response

/-- What the request entities read of a decoded response. -/
def DecodedResponse.responseText : DecodedResponse → ResponseText
  | .startOnlineCollection token => .startOnlineCollectionResponse token
  | .completeOnlineCollectionWithDetails record =>
      .completeOnlineCollectionWithDetailsResponse {
        paygov_tracking_id := record.paygov_tracking_id
        transaction_status := record.transaction_status
        transaction_date := record.transaction_date
        payment_date := record.payment_date
        payment_type := record.payment_type }
  | .getDetails transaction =>
      .getDetailsResponse {
        paygov_tracking_id := transaction.paygov_tracking_id
        transaction_status := transaction.transaction_status
        payment_type := transaction.payment_type
        transaction_date := transaction.transaction_date
        payment_date := transaction.payment_date }

/-- What a response text decodes to. -/
def responseText (formats : XmlFormats) (response : SoapResponse) :
    ResponseText :=
  (decodeResponse formats response).elim .schemaViolation
    DecodedResponse.responseText

/-! ## What Pay.gov sends -/

/-- A status as Pay.gov writes it. -/
def PayGovTransactionStatus.text : PayGovTransactionStatus → String
  | .Success => "Success"
  | .Settled => "Settled"
  | .Cancelled => "Cancelled"
  | .Failed => "Failed"
  | .Retired => "Retired"
  | .Pending => "Pending"
  | .Received => "Received"
  | .Waiting => "Waiting"
  | .Submitted => "Submitted"

/-- The response with a new token. -/
def issueResponse (token : String) : SoapResponse :=
  .startOnlineCollection [("token", token)]

/-- The response to a completion. -/
def CompletionAnswer.soap (answer : CompletionAnswer) : SoapResponse :=
  .completeOnlineCollectionWithDetails [
    ("paygov_tracking_id", answer.paygov_tracking_id),
    ("agency_tracking_id", answer.agency_tracking_id),
    ("transaction_amount", answer.transaction_amount),
    ("transaction_date", answer.transaction_date),
    ("payment_date", answer.payment_date),
    ("transaction_status", answer.transaction_status.text),
    ("payment_type", answer.payment_type)]

/-- A leaf that may be left out. -/
def optionalLeaf (name : String) (text : Option String) : Leaves :=
  (text.map fun value => (name, value)).toList

/-- The response about a transaction. -/
def DetailsAnswer.soap (answer : DetailsAnswer) : SoapResponse :=
  .getDetails [[("paygov_tracking_id", answer.paygov_tracking_id) ::
    ("transaction_status", answer.transaction_status.text) ::
    (optionalLeaf "agency_tracking_id" answer.agency_tracking_id ++
      optionalLeaf "transaction_amount" answer.transaction_amount ++
      optionalLeaf "payment_type" answer.payment_type ++
      optionalLeaf "transaction_date" answer.transaction_date ++
      optionalLeaf "payment_date" answer.payment_date)]]

section Arrives

variable (formats : XmlFormats)

/-- A tag that is read as a text is read as its own. -/
theorem eq_of_parseTagValue {text value : String}
    (read : parseTagValue formats text = .text value) : value = text := by
  unfold parseTagValue at read
  repeat' split at read
  all_goals first | exact (XmlValue.text.inj read).symm | cases read

theorem eq_of_stringMember {text value : String}
    (read : stringMember (some (parseTagValue formats text)) = some value) :
    value = text := by
  cases parsed : parseTagValue formats text with
  | text kept =>
      rw [parsed] at read
      rw [← Option.some.inj read, eq_of_parseTagValue formats parsed]
  | boolean _ | number _ | array =>
      rw [parsed] at read
      cases read

theorem eq_of_formatMember {accepts : String → Bool} {text value : String}
    (read : formatMember accepts (some (parseTagValue formats text)) =
      some value) : value = text :=
  eq_of_stringMember formats (Option.filter_eq_some_iff.mp read).1

/-- The texts of the statuses are those of the schema. -/
theorem eq_of_statusMember {status found : PayGovTransactionStatus}
    (read : statusMember (some (parseTagValue formats status.text)) =
      some found) : found = status := by
  obtain ⟨text, isText, known⟩ := Option.bind_eq_some_iff.mp read
  rw [eq_of_stringMember formats isText] at known
  cases status <;> exact (Option.some.inj known).symm

/-- An intact token arrives as it is, or its response violates the schema. -/
theorem responseText_issueResponse (token : String) :
    responseText formats (issueResponse token) =
        .startOnlineCollectionResponse token ∨
      responseText formats (issueResponse token) = .schemaViolation := by
  cases decoded : decodeResponse formats (issueResponse token) with
  | none => exact .inr (by rw [responseText, decoded]; rfl)
  | some accepted =>
      obtain ⟨text, read, rfl⟩ := Option.map_eq_some_iff.mp decoded
      refine .inl ?_
      have same : text = token := eq_of_stringMember formats read
      rw [responseText, decoded, same]
      rfl

/-- What arrives of an intact completion. -/
theorem CompletionAnswer.responseText_soap (answer : CompletionAnswer) :
    responseText formats answer.soap =
        .completeOnlineCollectionWithDetailsResponse
          answer.toCompleteOnlineCollectionWithDetailsResponse ∨
      responseText formats answer.soap = .schemaViolation := by
  cases decoded : decodeResponse formats answer.soap with
  | none => exact .inr (by rw [responseText, decoded]; rfl)
  | some accepted =>
      obtain ⟨record, read, rfl⟩ := Option.map_eq_some_iff.mp decoded
      simp only [completeSchema, bind, Option.bind_eq_some_iff] at read
      obtain ⟨trackingId, isTrackingId, _, -, _, -, date, isDate, paid, isPaid,
        status, isStatus, type, isType, made⟩ := read
      refine .inl ?_
      rw [responseText, decoded, ← Option.some.inj made]
      simp only [Option.elim, DecodedResponse.responseText,
        eq_of_stringMember formats isTrackingId,
        eq_of_formatMember formats isDate,
        eq_of_formatMember formats isPaid,
        eq_of_statusMember formats isStatus,
        eq_of_stringMember formats isType]

theorem filter_optionalLeaf (name other : String) (text : Option String) :
    (optionalLeaf name text).filter (fun leaf => leaf.1 = other) =
      if name = other then optionalLeaf name text else [] := by
  cases text with
  | none => simp [optionalLeaf]
  | some value => by_cases same : name = other <;> simp [optionalLeaf, same]

/-- An optional member is read as its own text. -/
theorem eq_of_optionalMember {check : Option XmlValue → Option String}
    {sent read : Option String}
    (each : ∀ text value,
      check (some (parseTagValue formats text)) = some value → value = text)
    (accepted : optionalMember check (sent.map (parseTagValue formats)) =
      some read) : read = sent := by
  cases sent with
  | none => exact (Option.some.inj accepted).symm
  | some text =>
      obtain ⟨value, isValue, rfl⟩ := Option.map_eq_some_iff.mp accepted
      rw [each text value isValue]

/-- A tag that occurs once or not at all. -/
theorem memberOf_optionalLeaf {value : String → String → XmlValue}
    {leaves : Leaves} {name : String} (text : Option String)
    (own : leaves.filter (fun leaf => leaf.1 = name) = optionalLeaf name text) :
    memberOf value leaves name = text.map (value name) := by
  rw [memberOf, own]
  cases text <;> rfl

/-- What arrives of an intact answer about a transaction. -/
theorem DetailsAnswer.responseText_soap (answer : DetailsAnswer) :
    responseText formats answer.soap =
        .getDetailsResponse answer.toPayGovGetDetailsTransaction ∨
      responseText formats answer.soap = .schemaViolation := by
  cases decoded : decodeResponse formats answer.soap with
  | none => exact .inr (by rw [responseText, decoded]; rfl)
  | some accepted =>
      obtain ⟨record, read, rfl⟩ := Option.map_eq_some_iff.mp decoded
      obtain ⟨records, all, isFirst⟩ := Option.bind_eq_some_iff.mp read
      simp only [List.mapM_cons, List.mapM_nil, bind, pure,
        Option.bind_eq_some_iff, wrapperSchema] at all
      obtain ⟨first, schema, rest, -, isRecords⟩ := all
      obtain rfl := Option.some.inj isRecords
      obtain rfl := Option.some.inj isFirst
      simp only [detailsSchema, bind, Option.bind_eq_some_iff] at schema
      obtain ⟨id, isId, status, isStatus, _, -, _, -, type, isType, date,
        isDate, paid, isPaid, made⟩ := schema
      rw [memberOf_optionalLeaf (some answer.paygov_tracking_id) (by
        simp [optionalLeaf])] at isId
      rw [memberOf_optionalLeaf (some answer.transaction_status.text) (by
        simp [optionalLeaf])] at isStatus
      rw [memberOf_optionalLeaf answer.payment_type (by
        simp [filter_optionalLeaf])] at isType
      rw [memberOf_optionalLeaf answer.transaction_date (by
        simp [filter_optionalLeaf])] at isDate
      rw [memberOf_optionalLeaf answer.payment_date (by
        simp [filter_optionalLeaf])] at isPaid
      have isText : ∀ text value, stringMember
          (some (parseTagValue formats text)) = some value → value = text :=
        fun _ _ => eq_of_stringMember formats
      refine .inl ?_
      rw [responseText, decoded, ← Option.some.inj made]
      simp only [Option.elim, DecodedResponse.responseText,
        eq_of_stringMember formats isId,
        eq_of_statusMember formats isStatus,
        eq_of_optionalMember formats isText isType,
        eq_of_optionalMember formats (fun _ _ => eq_of_formatMember formats)
          isDate,
        eq_of_optionalMember formats (fun _ _ => eq_of_formatMember formats)
          isPaid]

end Arrives

end PaymentPortal.Model
