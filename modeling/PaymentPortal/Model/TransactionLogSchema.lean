import PaymentPortal.Model.CourtDayBounds
import PaymentPortal.Model.Texts

/-!
# The query of the transaction log

`TransactionLog.schema.ts`: the fields of the query object, the check over pairs
of fields, the transformation of the timeframe and the check of the page size.
A stage that raises an issue stops the later ones.  `Number`, the ISO format of
`zod` and `Date` are parameters; of an issue of `zod` itself only the field is
kept.
-/

namespace PaymentPortal.Model

open PaymentPortal.Calendar

/-! ## MM/DD/YYYY -/

/-- `Number` of a run of digits. -/
def digitsValue (digits : List Char) : Int :=
  digits.foldl (fun value digit => 10 * value + (digit.toNat - '0'.toNat)) 0

/-- `MONTH_DAY_YEAR_DATE_PATTERN`, with its groups as numbers. -/
def monthDayYear? (value : String) : Option CourtDayParts :=
  match value.toList with
  | [m₁, m₂, '/', d₁, d₂, '/', y₁, y₂, y₃, y₄] =>
      if [m₁, m₂, d₁, d₂, y₁, y₂, y₃, y₄].all Char.isDigit then
        some ⟨digitsValue [y₁, y₂, y₃, y₄], digitsValue [m₁, m₂],
          digitsValue [d₁, d₂]⟩
      else none
  | _ => none

/-- `parseMonthDayYearDate`: a date that `Date.UTC` has to normalise is none. -/
def parseMonthDayYearDate (value : String) : Option CourtDayParts :=
  match monthDayYear? value with
  | none => none
  | some date =>
      let candidate := utcParts (dateUTC date.year (date.month - 1) date.day)
      if candidate.year ≠ date.year ∨ candidate.month ≠ date.month ∨
          candidate.day ≠ date.day then none
      else some date

/-- `courtDayBoundsForDateString`. -/
def courtDayBoundsForDateString (court : Zone) (value : String) :
    Option Bounds :=
  (parseMonthDayYearDate value).map (courtDayBoundsForDate court)

theorem parseMonthDayYearDate_eq_some {value : String} {date : CourtDayParts}
    (parsed : parseMonthDayYearDate value = some date) :
    monthDayYear? value = some date ∧ date.Valid := by
  rw [parseMonthDayYearDate] at parsed
  cases matched : monthDayYear? value with
  | none => simp [matched] at parsed
  | some groups =>
      simp only [matched] at parsed
      split at parsed
      · contradiction
      · rename_i unchanged
        cases parsed
        push Not at unchanged
        obtain ⟨year, month, day⟩ := unchanged
        refine ⟨rfl, ?_⟩
        have same : utcParts (dateUTC date.year (date.month - 1) date.day) =
            date := by
          cases date
          exact Date.mk.injEq .. ▸ ⟨year, month, day⟩
        rw [← same]
        exact Date.ofDay_valid _

/-! ## The query object -/

/-- A value of the query object: a text, or what a repeated or nested key
makes. -/
inductive QueryValue where
  | text (value : String)
  | nested
  deriving DecidableEq, Repr

/-- The query object; a key that is absent or undefined is `none`. -/
structure QueryObject where
  from_ : Option QueryValue := none
  to_ : Option QueryValue := none
  status : Option QueryValue := none
  fee : Option QueryValue := none
  paymentMethod : Option QueryValue := none
  transactionStatus : Option QueryValue := none
  metadataKey : Option QueryValue := none
  metadataValue : Option QueryValue := none
  page : Option QueryValue := none
  pageSize : Option QueryValue := none
  export_ : Option QueryValue := none
  sort : Option QueryValue := none
  order : Option QueryValue := none
  includeTotals : Option QueryValue := none
  includeFeeBreakdown : Option QueryValue := none
  deriving DecidableEq, Repr

/-- What the texts of a query are read with: `Number` (none where the result is
not finite), the format of `z.iso.datetime` and `Date` (none where the result is
invalid). -/
structure QueryFormats where
  number : QueryValue → Option Rat
  isoDateTime : String → Bool
  dateTime : String → Option Int

/-- An issue: of `zod` about a field, or one that the schema adds. -/
inductive Issue where
  | field (name : String)
  | custom (path : List String) (message : String)
  deriving DecidableEq, Repr

/-- A value, or every issue that was raised for it. -/
abbrev Validated (α : Type) := Except (List Issue) α

namespace Validated

variable {α β : Type}

/-- The fields of an object are checked one by one, and their issues are
collected. -/
def andField (build : Validated (α → β)) (value : Validated α) : Validated β :=
  match build, value with
  | .ok make, .ok field => .ok (make field)
  | .ok _, .error issues => .error issues
  | .error issues, .ok _ => .error issues
  | .error issues, .error more => .error (issues ++ more)

@[simp]
theorem andField_eq_ok {build : Validated (α → β)} {value : Validated α}
    {result : β} :
    build.andField value = .ok result ↔
      ∃ make field, build = .ok make ∧ value = .ok field ∧
        make field = result := by
  cases build with
  | error issues => cases value <;> simp [andField]
  | ok make => cases value <;> simp [andField]

/-- A stage succeeds on what the stage before it has returned. -/
@[simp]
theorem bind_eq_ok {value : Validated α} {next : α → Validated β} {result : β} :
    (value >>= next) = .ok result ↔
      ∃ found, value = .ok found ∧ next found = .ok result := by
  cases value <;> simp [bind, Except.bind]

end Validated

/-! ### The fields -/

/-- `z.string().optional()`. -/
def stringField (name : String) : Option QueryValue → Validated (Option String)
  | none => .ok none
  | some (.text value) => .ok (some value)
  | some .nested => .error [.field name]

/-- `z.enum(…).optional()`. -/
def enumField {α : Type} (name : String) (options : List (String × α)) :
    Option QueryValue → Validated (Option α)
  | none => .ok none
  | some (.text value) =>
      match options.lookup value with
      | some option => .ok (some option)
      | none => .error [.field name]
  | some .nested => .error [.field name]

/-- `z.enum(…).default(…)`. -/
def enumFieldOr {α : Type} (name : String) (options : List (String × α))
    (default : α) (value : Option QueryValue) : Validated α :=
  (enumField name options value).map fun option => option.getD default

/-- `z.enum(["true", "false"]).default("false")`, compared with `"true"`. -/
def flagField (name : String) (value : Option QueryValue) : Validated Bool :=
  enumFieldOr name [("true", true), ("false", false)] false value

/-- `Number.MAX_SAFE_INTEGER`, the bound of `int()`. -/
def MAX_SAFE_INTEGER : Nat := 9007199254740991

/-- `z.coerce.number().int().min(1).max(…).default(…)`. -/
def countField (formats : QueryFormats) (name : String) (greatest default : Nat)
    (value : Option QueryValue) : Validated Nat :=
  match value with
  | none => .ok default
  | some given =>
      match formats.number given with
      | none => .error [.field name]
      | some number =>
          if number.den = 1 ∧ 1 ≤ number.num ∧ number.num ≤ greatest then
            .ok number.num.toNat
          else .error [.field name]

/-- `z.string().trim().min(1).max(200).optional()`, in code points. -/
def metadataValueField (value : Option QueryValue) :
    Validated (Option String) := do
  match ← stringField "metadataValue" value with
  | none => .ok none
  | some text =>
      let trimmed := trimText text
      if 1 ≤ trimmed.length ∧ trimmed.length ≤ 200 then .ok (some trimmed)
      else .error [.field "metadataValue"]

def TRANSACTION_LOG_DEFAULT_PAGE_SIZE : Nat := 50
def TRANSACTION_LOG_MAX_PAGE_SIZE : Nat := 200
def TRANSACTION_LOG_MAX_EXPORT_PAGE_SIZE : Nat := 5000
def TRANSACTION_LOG_DEFAULT_SORT : TransactionLogSortField := .lastUpdatedAt
def TRANSACTION_LOG_DEFAULT_ORDER : SortOrder := .desc

/-- The fields of an accepted object. -/
structure QueryFields where
  from_ : Option String
  to_ : Option String
  status : Option PaymentStatus
  fee : Option String
  paymentMethod : Option PaymentMethod
  transactionStatus : Option TransactionStatus
  metadataKey : Option TransactionLogMetadataKey
  metadataValue : Option String
  page : Nat
  pageSize : Nat
  export_ : Bool
  sort : TransactionLogSortField
  order : SortOrder
  includeTotals : Bool
  includeFeeBreakdown : Bool
  deriving DecidableEq, Repr

/-- The object of `TransactionLogQuerySchema`. -/
def queryFields (formats : QueryFormats) (query : QueryObject) :
    Validated QueryFields :=
  Validated.andField (.ok QueryFields.mk) (stringField "from" query.from_)
    |>.andField (stringField "to" query.to_)
    |>.andField (enumField "status"
      [("success", .success), ("failed", .failed), ("pending", .pending)]
      query.status)
    |>.andField (enumField "fee"
      [("PETITION_FILING_FEE", "PETITION_FILING_FEE"),
        ("NONATTORNEY_EXAM_REGISTRATION_FEE",
          "NONATTORNEY_EXAM_REGISTRATION_FEE")] query.fee)
    |>.andField (enumField "paymentMethod"
      [("Credit/Debit Card", .creditDebitCard), ("ACH", .ach),
        ("PayPal", .payPal)] query.paymentMethod)
    |>.andField (enumField "transactionStatus"
      [("received", .received), ("initiated", .initiated),
        ("processing", .processing), ("processed", .processed),
        ("failed", .failed), ("pending", .pending), ("cancelled", .cancelled)]
      query.transactionStatus)
    |>.andField (enumField "metadataKey"
      [("docketNumber", .docketNumber), ("email", .email),
        ("fullName", .fullName), ("accessCode", .accessCode)]
      query.metadataKey)
    |>.andField (metadataValueField query.metadataValue)
    |>.andField (countField formats "page" MAX_SAFE_INTEGER 1 query.page)
    |>.andField (countField formats "pageSize"
      TRANSACTION_LOG_MAX_EXPORT_PAGE_SIZE TRANSACTION_LOG_DEFAULT_PAGE_SIZE
      query.pageSize)
    |>.andField (flagField "export" query.export_)
    |>.andField (enumFieldOr "sort"
      [("createdAt", .createdAt), ("lastUpdatedAt", .lastUpdatedAt),
        ("feeName", .feeName), ("transactionAmount", .transactionAmount),
        ("paymentMethod", .paymentMethod), ("paymentStatus", .paymentStatus),
        ("returnDetail", .returnDetail),
        ("transactionStatus", .transactionStatus), ("clientName", .clientName),
        ("transactionReferenceId", .transactionReferenceId)]
      TRANSACTION_LOG_DEFAULT_SORT query.sort)
    |>.andField (enumFieldOr "order" [("asc", .asc), ("desc", .desc)]
      TRANSACTION_LOG_DEFAULT_ORDER query.order)
    |>.andField (flagField "includeTotals" query.includeTotals)
    |>.andField (flagField "includeFeeBreakdown" query.includeFeeBreakdown)

/-! ### The stages over the whole object -/

/-- The issues that `superRefine` adds. -/
def pairIssues (fields : QueryFields) : List Issue :=
  (if fields.metadataKey.isNone ≠ fields.metadataValue.isNone then
    [.custom [if fields.metadataKey.isNone then "metadataKey"
      else "metadataValue"]
      "`metadataKey` and `metadataValue` must be supplied together"]
  else []) ++
  (if fields.from_.isNone ≠ fields.to_.isNone then
    [.custom ["from"] "`from` and `to` must be supplied together"]
  else [])

/-- Which bound of the timeframe a text is for. -/
inductive TimeframeSide where
  | from_
  | to_
  deriving DecidableEq, Repr

def TimeframeSide.bound : TimeframeSide → Bounds → Int
  | .from_, bounds => bounds.start
  | .to_, bounds => bounds.end_

inductive TimeframeKind where
  | courtDay
  | iso
  deriving DecidableEq, Repr

/-- What `parseTransactionLogDate` returns; an invalid `Date` is `none`. -/
structure ParsedDate where
  date : Option Int
  kind : TimeframeKind
  deriving DecidableEq, Repr

/-- `parseTransactionLogDate`. -/
def parseTransactionLogDate (court : Zone) (formats : QueryFormats)
    (value : String) (side : TimeframeSide) : Option ParsedDate :=
  match courtDayBoundsForDateString court value with
  | some bounds => some ⟨some (side.bound bounds), .courtDay⟩
  | none =>
      if formats.isoDateTime value then some ⟨formats.dateTime value, .iso⟩
      else none

/-- `first < second` on dates, which no invalid `Date` satisfies. -/
def isEarlier : Option Int → Option Int → Bool
  | some first, some second => first < second
  | _, _ => false

def TRANSACTION_LOG_DATE_FORMAT_MESSAGE : String :=
  "Date must be a valid ISO datetime or MM/DD/YYYY value"

/-- `refinedQuery`, the output of the schema. -/
structure RefinedQuery where
  from_ : Option Int
  to_ : Option Int
  status : Option PaymentStatus
  fee : Option String
  paymentMethod : Option PaymentMethod
  transactionStatus : Option TransactionStatus
  metadataSearch : Option MetadataSearch
  page : Nat
  pageSize : Nat
  export_ : Bool
  sort : TransactionLogSortField
  order : SortOrder
  includeTotals : Bool
  includeFeeBreakdown : Bool
  deriving DecidableEq, Repr

/-- `refinedQuery` before its timeframe is set. -/
def QueryFields.refined (fields : QueryFields) : RefinedQuery where
  from_ := none
  to_ := none
  status := fields.status
  fee := fields.fee
  paymentMethod := fields.paymentMethod
  transactionStatus := fields.transactionStatus
  metadataSearch :=
    match fields.metadataKey, fields.metadataValue with
    | some key, some value => some ⟨key, value⟩
    | _, _ => none
  page := fields.page
  pageSize := fields.pageSize
  export_ := fields.export_
  sort := fields.sort
  order := fields.order
  includeTotals := fields.includeTotals
  includeFeeBreakdown := fields.includeFeeBreakdown

/-- A text that is absent or empty counts as no value. -/
def isFalsy (text : Option String) : Bool :=
  text.all fun value => value == ""

/-- `transform`. -/
def transformQuery (court : Zone) (formats : QueryFormats)
    (fields : QueryFields) : Validated RefinedQuery :=
  if isFalsy fields.from_ || isFalsy fields.to_ then .ok fields.refined
  else
    let from_ := parseTransactionLogDate court formats
      (fields.from_.getD "") .from_
    let to_ := parseTransactionLogDate court formats (fields.to_.getD "") .to_
    match from_, to_ with
    | some from_, some to_ =>
        if !isEarlier from_.date to_.date then
          .error [.custom ["from"]
            (if from_.kind = .courtDay ∨ to_.kind = .courtDay then
              "`from` must be on or before `to`"
            else "`from` must be earlier than `to`")]
        else .ok { fields.refined with from_ := from_.date, to_ := to_.date }
    | from_, to_ =>
        .error
          ((if from_.isNone then
              [.custom ["from"] TRANSACTION_LOG_DATE_FORMAT_MESSAGE] else []) ++
            (if to_.isNone then
              [.custom ["to"] TRANSACTION_LOG_DATE_FORMAT_MESSAGE] else []))

/-- The issues that `refine` adds. -/
def pageSizeIssues (query : RefinedQuery) : List Issue :=
  if query.export_ || query.pageSize ≤ TRANSACTION_LOG_MAX_PAGE_SIZE then []
  else [.custom ["pageSize"] "`pageSize` above 200 requires `export=true`"]

/-- A stage that only adds issues. -/
def withIssues {α : Type} (issues : α → List Issue) (value : α) : Validated α :=
  match issues value with
  | [] => .ok value
  | found => .error found

/-- `TransactionLogQuerySchema.safeParse`. -/
def parseTransactionLogQuery (court : Zone) (formats : QueryFormats)
    (query : QueryObject) : Validated RefinedQuery := do
  let fields ← queryFields formats query
  let checked ← withIssues pairIssues fields
  let transformed ← transformQuery court formats checked
  withIssues pageSizeIssues transformed

/-! ## The timeframe of `getTransactionLog` -/

/-- `query.from ?? today.start` and `query.to ?? today.end`. -/
def RefinedQuery.timeframe (court : Zone) (now : Int) (query : RefinedQuery) :
    Bounds :=
  let today := courtDayBounds court now
  { start := query.from_.getD today.start
    end_ := query.to_.getD today.end_ }

/-- `toDbPaymentMethod`. -/
def toDbPaymentMethod (method : Option PaymentMethod) :
    Option DbPaymentMethod :=
  method.bind fun label =>
    [DbPaymentMethod.plastic_card, .ach, .paypal].find? fun stored =>
      PAYMENT_METHOD_LABELS stored = label

/-- The query that `getTransactionLog` runs, for the page it is asked for. -/
def RefinedQuery.resolve (court : Zone) (now : Int) (query : RefinedQuery) :
    TransactionLogQuery where
  from_ := (query.timeframe court now).start
  to_ := (query.timeframe court now).end_
  status := query.status
  fee := query.fee
  paymentMethod := toDbPaymentMethod query.paymentMethod
  transactionStatus := query.transactionStatus
  metadataSearch := query.metadataSearch
  sort := query.sort
  order := query.order
  pageSize := query.pageSize
  isExport := query.export_

end PaymentPortal.Model
