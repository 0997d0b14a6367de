import Mathlib.Algebra.Order.Ring.Unbundled.Rat
import PaymentPortal.Model.Transactions
import PaymentPortal.Relational.Ordering

/-!
# The transaction log

`TransactionModel.queryLog`, `transactionLogSort.ts` and the paging of
`getTransactionLog.ts`.  The order of texts and `lower`, which `ILIKE` applies
to both sides, belong to the locale of the database and are parameters.

`page` and `pageSize` are positive by the schema of the query.  The other
figures of a response are in `Reporting`.
-/

namespace PaymentPortal.Model

open PaymentPortal.Relational

/-- What the locale of the database decides. -/
structure LocaleRules where
  collation : LinearOrder String
  lower : String → String

/-! ## Texts of the columns -/

/-- The label the API returns. -/
def PaymentMethod.label : PaymentMethod → String
  | .creditDebitCard => "Credit/Debit Card"
  | .ach => "ACH"
  | .payPal => "PayPal"

def PaymentStatus.text : PaymentStatus → String
  | .success => "success"
  | .failed => "failed"
  | .pending => "pending"

def TransactionStatus.text : TransactionStatus → String
  | .received => "received"
  | .initiated => "initiated"
  | .processing => "processing"
  | .processed => "processed"
  | .failed => "failed"
  | .pending => "pending"
  | .cancelled => "cancelled"

/-! ## Fee names -/

/-- `getFeeNamesByKey`. -/
def getFeeNamesByKey (config : Config) : List (String × String) :=
  config.staticFees.map fun entry => (entry.1, entry.2.name)

/--
A row with the fee name that `attachFeeName` sets.  It is `none` where the key
is one that every object inherits: the inherited value is truthy, but no name.
-/
structure LoggedTransaction where
  row : Transaction
  feeName : Option String
  deriving DecidableEq, Repr

/-- `attachFeeName`. -/
def attachFeeName (config : Config) (row : Transaction) :
    Except PortalError LoggedTransaction :=
  match (getFeeNamesByKey config).lookup row.fee with
  | some feeName =>
      if feeName = "" then .error (.server ("Unknown fee key: " ++ row.fee))
      else .ok ⟨row, some feeName⟩
  | none =>
      if OBJECT_PROTOTYPE_KEYS.contains row.fee then .ok ⟨row, none⟩
      else .error (.server ("Unknown fee key: " ++ row.fee))

/-! ## The filter -/

/-- `SORT_ORDERS`. -/
inductive SortOrder where
  | asc
  | desc
  deriving DecidableEq, Repr

/-- `TRANSACTION_LOG_SORT_FIELDS`. -/
inductive TransactionLogSortField where
  | createdAt
  | lastUpdatedAt
  | feeName
  | transactionAmount
  | paymentMethod
  | paymentStatus
  | returnDetail
  | transactionStatus
  | clientName
  | transactionReferenceId
  deriving DecidableEq, Repr

/-- `TRANSACTION_LOG_METADATA_KEYS`. -/
inductive TransactionLogMetadataKey where
  | docketNumber
  | email
  | fullName
  | accessCode
  deriving DecidableEq, Repr

def TransactionLogMetadataKey.text : TransactionLogMetadataKey → String
  | .docketNumber => "docketNumber"
  | .email => "email"
  | .fullName => "fullName"
  | .accessCode => "accessCode"

structure MetadataSearch where
  key : TransactionLogMetadataKey
  value : String
  deriving DecidableEq, Repr

/-- `TransactionLogFilter`. -/
structure TransactionLogFilter where
  from_ : Int
  to_ : Int
  status : Option PaymentStatus
  fee : Option String
  paymentMethod : Option DbPaymentMethod
  transactionStatus : Option TransactionStatus
  metadataSearch : Option MetadataSearch
  sort : TransactionLogSortField
  order : SortOrder
  limit : Nat
  offset : Nat
  withTotal : Bool
  deriving DecidableEq, Repr

/-- `last_updated_at >= from AND last_updated_at < to`. -/
def isUpdatedIn (from_ to_ : Int) (row : Transaction) : Bool :=
  decide (from_ ≤ row.lastUpdatedAt) && decide (row.lastUpdatedAt < to_)

@[simp]
theorem isUpdatedIn_iff {from_ to_ : Int} {row : Transaction} :
    isUpdatedIn from_ to_ row = true ↔
      from_ ≤ row.lastUpdatedAt ∧ row.lastUpdatedAt < to_ := by
  simp [isUpdatedIn]

/-! ### `LIKE` -/

/--
`LIKE` with the default escape character, on the characters of the pattern and
of the text.  A pattern that ends in the escape character matches nothing here;
the database rejects it.
-/
def likeMatch : List Char → List Char → Bool
  | [], text => text.isEmpty
  | '%' :: pattern, text =>
      text.tails.any fun rest => likeMatch pattern rest
  | '_' :: pattern, text =>
      match text with
      | [] => false
      | _ :: rest => likeMatch pattern rest
  | ['\\'], _ => false
  | '\\' :: escaped :: pattern, text =>
      match text with
      | [] => false
      | char :: rest => char == escaped && likeMatch pattern rest
  | literal :: pattern, text =>
      match text with
      | [] => false
      | char :: rest => char == literal && likeMatch pattern rest

/-- `value.replace(/[\\%_]/g, "\\$&")`. -/
def escapeLike (value : List Char) : List Char :=
  value.flatMap fun char =>
    if char = '\\' ∨ char = '%' ∨ char = '_' then ['\\', char] else [char]

/-- `metadata ->> key ILIKE '%…%'`; null matches nothing. -/
def matchesMetadata (locale : LocaleRules) (search : MetadataSearch)
    (row : Transaction) : Bool :=
  match row.metadata.bind fun metadata => metadata.lookup search.key.text with
  | none => false
  | some text =>
      let pattern := String.ofList
        ('%' :: escapeLike search.value.toList ++ ['%'])
      likeMatch (locale.lower pattern).toList (locale.lower text).toList

/-- The conditions of `queryLog`; an absent or falsy one is not applied. -/
def isLogged (locale : LocaleRules) (filter : TransactionLogFilter)
    (row : Transaction) : Bool :=
  isUpdatedIn filter.from_ filter.to_ row &&
    filter.status.all (fun status => row.paymentStatus == status) &&
    filter.fee.all (fun fee => fee == "" || row.fee == fee) &&
    filter.paymentMethod.all
      (fun method => row.paymentMethod == some method) &&
    filter.transactionStatus.all
      (fun status => row.transactionStatus == some status) &&
    filter.metadataSearch.all (fun search => matchesMetadata locale search row)

/-! ## The order -/

/-- `DIRECTION_SQL`. -/
def DIRECTION_SQL : SortOrder → Direction
  | .asc => .asc
  | .desc => .desc

/-- A text, in the order of the locale. -/
def textExpr (locale : LocaleRules) (text : Transaction → Option String) :
    SortExpr Transaction :=
  ⟨String, locale.collation, text⟩

/-- What the primary clause orders by: a column, or the label of one. -/
def sortExpr (locale : LocaleRules) (config : Config) :
    TransactionLogSortField → SortExpr Transaction
  | .createdAt => ⟨Int, inferInstance, fun row => some row.createdAt⟩
  | .lastUpdatedAt => ⟨Int, inferInstance, fun row => some row.lastUpdatedAt⟩
  | .feeName => textExpr locale fun row =>
      (getFeeNamesByKey config).lookup row.fee
  | .transactionAmount =>
      ⟨Rat, inferInstance, fun row => some row.transactionAmount⟩
  | .paymentMethod => textExpr locale fun row =>
      row.paymentMethod.map fun method => (PAYMENT_METHOD_LABELS method).label
  | .paymentStatus => textExpr locale fun row => some row.paymentStatus.text
  | .returnDetail => textExpr locale Transaction.returnDetail
  | .transactionStatus => textExpr locale fun row =>
      row.transactionStatus.map TransactionStatus.text
  | .clientName => textExpr locale fun row => some row.clientName
  | .transactionReferenceId => textExpr locale fun row =>
      some row.transactionReferenceId

/-- The clause on `TIEBREAK_COLUMN`. -/
def tiebreak (locale : LocaleRules) : SortClause Transaction :=
  ⟨textExpr locale fun row => some row.agencyTrackingId, .asc⟩

/-- `transactionLogOrderBy`. -/
def transactionLogOrderBy (locale : LocaleRules) (config : Config)
    (sort : TransactionLogSortField) (order : SortOrder) :
    List (SortClause Transaction) :=
  [⟨sortExpr locale config sort, DIRECTION_SQL order⟩, tiebreak locale]

/-! ## The query -/

/-- One page, with the total if it was asked for. -/
structure LogPage where
  rows : List LoggedTransaction
  total : Option Nat
  deriving DecidableEq, Repr

/-- `queryLog`. -/
def queryLog (locale : LocaleRules) (config : Config)
    (filter : TransactionLogFilter) (rows : List Transaction) :
    Except PortalError LogPage := do
  let base := rows.filter (isLogged locale filter)
  let ordered := orderBy
    (transactionLogOrderBy locale config filter.sort filter.order) base
  let total := if filter.withTotal = false then none else some base.length
  let logged ← (window filter.limit filter.offset ordered).mapM
    (attachFeeName config)
  .ok ⟨logged, total⟩

/-- The query of `getTransactionLog` with its timeframe resolved. -/
structure TransactionLogQuery where
  from_ : Int
  to_ : Int
  status : Option PaymentStatus
  fee : Option String
  paymentMethod : Option DbPaymentMethod
  transactionStatus : Option TransactionStatus
  metadataSearch : Option MetadataSearch
  sort : TransactionLogSortField
  order : SortOrder
  pageSize : Nat
  isExport : Bool
  deriving DecidableEq, Repr

namespace TransactionLogQuery

/-- Export pages after the first skip the counts. -/
def withCounts (query : TransactionLogQuery) (page : Nat) : Bool :=
  !query.isExport || page == 1

/-- The filter that `getTransactionLog` passes for one page. -/
def filter (query : TransactionLogQuery) (page : Nat) :
    TransactionLogFilter where
  from_ := query.from_
  to_ := query.to_
  status := query.status
  fee := query.fee
  paymentMethod := query.paymentMethod
  transactionStatus := query.transactionStatus
  metadataSearch := query.metadataSearch
  sort := query.sort
  order := query.order
  limit := query.pageSize
  offset := (page - 1) * query.pageSize
  withTotal := query.withCounts page

end TransactionLogQuery

end PaymentPortal.Model
