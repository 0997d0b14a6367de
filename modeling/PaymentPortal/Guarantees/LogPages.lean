import Mathlib.Data.String.Basic
import PaymentPortal.Guarantees.StatusPairs
import PaymentPortal.Model.TransactionLog

/-!
# The pages of the transaction log

The pages of an unchanged table are consecutive windows of one list.  The
primary clause of the order may tie and its column may be null, but the clause
on the primary key tells all rows apart, so the list does not depend on how the
database sorts.
-/

namespace PaymentPortal.Guarantees

open PaymentPortal.Model
open PaymentPortal.Relational

/-- Read the first pages of the log one after the other. -/
def readPages (locale : LocaleRules) (config : Config)
    (query : TransactionLogQuery) (rows : List Transaction) (pages : Nat) :
    Except PortalError (List LoggedTransaction) := do
  let read ← (List.range pages).mapM fun index =>
    queryLog locale config (query.filter (index + 1)) rows
  .ok (read.flatMap LogPage.rows)

/-- The fee key has a name in the configuration. -/
def FeeConfigured (config : Config) (fee : String) : Prop :=
  ∃ name, (getFeeNamesByKey config).lookup fee = some name ∧ name ≠ ""

/-- `x` comes before `y` in the requested direction. -/
def Precedes {V : Type} (order : LinearOrder V) (x y : V) : SortOrder → Prop
  | .asc => order.lt x y
  | .desc => order.lt y x

/--
`a` is listed before `b`: its key precedes the other, or only the other key is
null, or the keys are equal and its primary key is the smaller one.
-/
def ListedBefore (locale : LocaleRules) (config : Config)
    (sort : TransactionLogSortField) (order : SortOrder)
    (a b : Transaction) : Prop :=
  let key := sortExpr locale config sort
  let sooner := locale.collation.lt a.agencyTrackingId b.agencyTrackingId
  match key.eval a, key.eval b with
  | some x, some y => Precedes key.order x y order ∨ (x = y ∧ sooner)
  | some _, none => True
  | none, some _ => False
  | none, none => sooner

/-- The list that the pages of a query are cut from. -/
structure PagedLog (locale : LocaleRules) (config : Config) (table : KeyedTable)
    (query : TransactionLogQuery) (log : List LoggedTransaction) : Prop where
  pages : ∀ pages, log.length ≤ pages * query.pageSize →
    readPages locale config query table.rows pages = .ok log
  total : ∀ page, ∃ rows,
    queryLog locale config (query.filter page) table.rows = .ok ⟨rows,
      if query.withCounts page then some log.length else none⟩
  complete : (log.map LoggedTransaction.row).Perm
    (table.rows.filter (isLogged locale (query.filter 1)))
  distinct : (log.map fun logged => logged.row.agencyTrackingId).Nodup
  sorted : (log.map LoggedTransaction.row).Pairwise
    (ListedBefore locale config query.sort query.order)

variable {locale : LocaleRules} {config : Config}

/-! ## Reading -/

/-- A loop that never throws. -/
theorem mapM_eq_ok {α β ε : Type} {step : α → Except ε β} {value : α → β}
    {items : List α} (steps : ∀ item ∈ items, step item = .ok (value item)) :
    items.mapM step = .ok (items.map value) := by
  induction items with
  | nil => rfl
  | cons item rest ih =>
      rw [List.mapM_cons, steps item List.mem_cons_self,
        ih fun other member => steps other (List.mem_cons_of_mem _ member)]
      rfl

/-- A row with the name of its fee. -/
def named (config : Config) (row : Transaction) : LoggedTransaction :=
  ⟨row, (getFeeNamesByKey config).lookup row.fee⟩

theorem attachFeeName_eq {row : Transaction}
    (configured : FeeConfigured config row.fee) :
    attachFeeName config row = .ok (named config row) := by
  obtain ⟨name, found, nonempty⟩ := configured
  simp [attachFeeName, named, found, nonempty]

/-- The matching rows in the order of the query. -/
def orderedRows (locale : LocaleRules) (config : Config)
    (query : TransactionLogQuery) (rows : List Transaction) :
    List Transaction :=
  orderBy (transactionLogOrderBy locale config query.sort query.order)
    (rows.filter (isLogged locale (query.filter 1)))

theorem perm_orderedRows (query : TransactionLogQuery)
    (rows : List Transaction) :
    (orderedRows locale config query rows).Perm
      (rows.filter (isLogged locale (query.filter 1))) :=
  perm_orderBy _ _

/-- What a query returns where all fee keys are configured. -/
theorem queryLog_ok {filter : TransactionLogFilter} {rows : List Transaction}
    (configured : ∀ row ∈ rows, FeeConfigured config row.fee) :
    queryLog locale config filter rows = .ok ⟨
      (window filter.limit filter.offset (orderBy
        (transactionLogOrderBy locale config filter.sort filter.order)
        (rows.filter (isLogged locale filter)))).map (named config),
      if filter.withTotal = false then none
      else some (rows.filter (isLogged locale filter)).length⟩ := by
  rw [queryLog, mapM_eq_ok]
  · rfl
  · intro row member
    apply attachFeeName_eq
    apply configured
    have ordered := List.mem_of_mem_drop (List.mem_of_mem_take member)
    exact List.mem_of_mem_filter ((perm_orderBy _ _).subset ordered)

/-- All pages are windows of the same ordered rows. -/
theorem queryLog_eq {query : TransactionLogQuery} {rows : List Transaction}
    (configured : ∀ row ∈ rows, FeeConfigured config row.fee) (page : Nat) :
    queryLog locale config (query.filter page) rows = .ok ⟨
      (window query.pageSize ((page - 1) * query.pageSize)
        (orderedRows locale config query rows)).map (named config),
      if query.withCounts page then
        some (orderedRows locale config query rows).length
      else none⟩ := by
  have counted : (orderedRows locale config query rows).length =
      (rows.filter (isLogged locale (query.filter 1))).length :=
    (perm_orderedRows query rows).length_eq
  refine (queryLog_ok configured).trans ?_
  rw [counted]
  refine congrArg (fun total => Except.ok (LogPage.mk _ total)) ?_
  change (if query.withCounts page = false then _ else _) = _
  cases query.withCounts page <;> rfl

/-- Reading pages concatenates windows of the ordered rows. -/
theorem readPages_eq {query : TransactionLogQuery} {rows : List Transaction}
    (configured : ∀ row ∈ rows, FeeConfigured config row.fee) (pages : Nat) :
    readPages locale config query rows pages =
      .ok (((orderedRows locale config query rows).take
        (pages * query.pageSize)).map (named config)) := by
  rw [readPages, mapM_eq_ok fun index _ => queryLog_eq configured (index + 1)]
  rw [← flatMap_window, List.map_flatMap]
  simp only [Nat.add_sub_cancel]
  change Except.ok _ = Except.ok _
  rw [List.flatMap_map]

/-! ## The order -/

/-- What may stand first precedes, or it may stand last as well. -/
theorem precedes_or_tied {V : Type} {linear : LinearOrder V} {x y : V}
    {order : SortOrder} (first : (DIRECTION_SQL order).le linear x y) :
    Precedes linear x y order ∨
      (x = y ∧ (DIRECTION_SQL order).le linear y x) := by
  by_cases second : (DIRECTION_SQL order).le linear y x
  · exact .inr ⟨Direction.le_antisymm first second, second⟩
  · left
    cases order with
    | asc => exact (linear.lt_iff_le_not_ge x y).mpr ⟨first, second⟩
    | desc => exact (linear.lt_iff_le_not_ge y x).mpr ⟨first, second⟩

/-- What the clauses leave open between two rows, their ids decide. -/
theorem listedBefore_of_lexLe {sort : TransactionLogSortField}
    {order : SortOrder} {a b : Transaction}
    (ordered : lexLe (transactionLogOrderBy locale config sort order) a b)
    (apart : a.agencyTrackingId ≠ b.agencyTrackingId) :
    ListedBefore locale config sort order a b := by
  obtain ⟨primary, tied⟩ := ordered
  have sooner : (⟨sortExpr locale config sort, DIRECTION_SQL order⟩ :
        SortClause Transaction).le b a →
      locale.collation.lt a.agencyTrackingId b.agencyTrackingId := by
    intro back
    have least : locale.collation.le a.agencyTrackingId b.agencyTrackingId :=
      (tied back).1
    exact (locale.collation.lt_iff_le_not_ge _ _).mpr ⟨least, fun greatest =>
      apart (locale.collation.le_antisymm _ _ least greatest)⟩
  unfold ListedBefore
  unfold SortClause.le at primary sooner
  dsimp only at primary sooner ⊢
  cases left : (sortExpr locale config sort).eval a with
  | none =>
      cases right : (sortExpr locale config sort).eval b with
      | none =>
          rw [left, right] at sooner
          exact sooner trivial
      | some y =>
          rw [left, right] at primary
          exact primary
  | some x =>
      cases right : (sortExpr locale config sort).eval b with
      | none => trivial
      | some y =>
          rw [left, right] at primary sooner
          exact (precedes_or_tied primary).imp_right fun tied =>
            ⟨tied.1, sooner tied.2⟩

/-! ## The log -/

/-- The matching rows are told apart by their ids. -/
theorem nodup_orderedRows (locale : LocaleRules) (config : Config)
    (table : KeyedTable) (query : TransactionLogQuery) :
    ((orderedRows locale config query table.rows).map
      Transaction.agencyTrackingId).Nodup := by
  rw [((perm_orderedRows query table.rows).map _).nodup_iff]
  exact List.Nodup.sublist (List.filter_sublist.map _) table.primaryKey

theorem sorted_orderedRows (table : KeyedTable)
    (query : TransactionLogQuery) :
    (orderedRows locale config query table.rows).Pairwise
      (ListedBefore locale config query.sort query.order) := by
  have apart := List.pairwise_map.mp
    (nodup_orderedRows locale config table query)
  have ordered := pairwise_orderBy
    (transactionLogOrderBy locale config query.sort query.order)
    (table.rows.filter (isLogged locale (query.filter 1)))
  exact (ordered.and apart).imp fun both =>
    listedBefore_of_lexLe both.1 both.2

/--
For every table, filter, sort field, order and page size, the pages of an
unchanged table are cut from one list: every matching row exactly once, in the
requested order with null keys last and ties in the order of the primary key,
and as many as the total says.
-/
theorem pages_partition_log (locale : LocaleRules) (config : Config)
    (table : KeyedTable) (query : TransactionLogQuery)
    (configured : ∀ row ∈ table.rows, FeeConfigured config row.fee) :
    ∃ log, PagedLog locale config table query log := by
  refine ⟨(orderedRows locale config query table.rows).map (named config), ?_⟩
  have rows_eq : ((orderedRows locale config query table.rows).map
      (named config)).map LoggedTransaction.row =
        orderedRows locale config query table.rows := by
    simp [named, Function.comp_def]
  refine {
    pages := ?_
    total := ?_
    complete := ?_
    distinct := ?_
    sorted := ?_ }
  · intro pages enough
    rw [List.length_map] at enough
    rw [readPages_eq configured, List.take_of_length_le enough]
  · intro page
    rw [List.length_map]
    exact ⟨_, queryLog_eq configured page⟩
  · rw [rows_eq]
    exact perm_orderedRows query table.rows
  · have ids_eq : (((orderedRows locale config query table.rows).map
        (named config)).map fun logged => logged.row.agencyTrackingId) =
          (orderedRows locale config query table.rows).map
            Transaction.agencyTrackingId := by
      simp [named, Function.comp_def]
    rw [ids_eq]
    exact nodup_orderedRows locale config table query
  · rw [rows_eq]
    exact sorted_orderedRows table query

/-! ## A sample log -/

/-- Code point order and the lower case of single characters. -/
def plainRules : LocaleRules where
  collation := inferInstance
  lower := fun text => text.map Char.toLower

def sampleReceived (agencyTrackingId : String) : Transaction :=
  receivedRow sampleNow {
    agencyTrackingId := agencyTrackingId
    fee := "PETITION_FILING_FEE"
    clientName := "dawson"
    transactionReferenceId := "ref"
    transactionAmount := 60
    metadata := some [("docketNumber", "123-26")] }

/-- Three attempts; the payment method, by which they are listed, is null. -/
def sampleTable : KeyedTable where
  rows := ["A3", "A1", "A2"].map sampleReceived
  primaryKey := by decide

def sampleQuery : TransactionLogQuery where
  from_ := sampleNow
  to_ := sampleNow + 1000
  status := none
  fee := none
  paymentMethod := none
  transactionStatus := none
  metadataSearch := some ⟨.docketNumber, "123"⟩
  sort := .paymentMethod
  order := .desc
  pageSize := 2
  isExport := true

theorem pages_partition_log_sample :
    ∃ log, PagedLog plainRules sampleConfig sampleTable sampleQuery log := by
  apply pages_partition_log
  intro row member
  obtain ⟨id, _, rfl⟩ := List.mem_map.mp member
  exact ⟨"Petition Filing Fee", rfl, by decide⟩

/-- Two pages of the sample log, in the order of the ids. -/
example : (readPages plainRules sampleConfig sampleQuery sampleTable.rows 2).map
      (fun log => log.map fun logged => logged.row.agencyTrackingId) =
    .ok ["A1", "A2", "A3"] := by
  decide +kernel

end PaymentPortal.Guarantees
