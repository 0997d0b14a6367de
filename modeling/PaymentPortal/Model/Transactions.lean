import Mathlib.Data.List.Pairwise
import PaymentPortal.Model.Fees

/-!
# The transactions table

One row per payment attempt, with the two constraints of the schema as fields
of the table: the primary key and `idx_transactions_unique_active`
(migration 20260805000000).  Every write goes through `Table.ofRows?`, which
rejects rows that break a constraint, and every update through the trigger
`set_last_updated_at` (migration 20260914000000).

There is one clock: `Date.now()`, `NOW()` and the column defaults read it.
-/

namespace PaymentPortal.Model

/-- One row of `transactions`. -/
structure Transaction where
  agencyTrackingId : String
  paygovTrackingId : Option String
  fee : String
  clientName : String
  transactionReferenceId : String
  paymentStatus : PaymentStatus
  transactionStatus : Option TransactionStatus
  paygovToken : Option String
  paymentMethod : Option DbPaymentMethod
  transactionAmount : Amount
  transactionDate : Option String
  paymentDate : Option String
  returnCode : Option Int
  returnDetail : Option String
  createdAt : Int
  lastUpdatedAt : Int
  metadata : Option (List (String × String))
  deriving DecidableEq, Repr

/-- What a payment is for: one client's reference id. -/
structure Obligation where
  clientName : String
  transactionReferenceId : String
  deriving DecidableEq, Repr

namespace Transaction

/-- The obligation a row is an attempt for. -/
def obligation (row : Transaction) : Obligation :=
  ⟨row.clientName, row.transactionReferenceId⟩

/-- The statuses in the predicate of `idx_transactions_unique_active`. -/
def COVERED_STATUSES : List TransactionStatus :=
  [.received, .initiated, .processing, .pending, .processed]

/-- The row's status is one of `statuses`; null never is. -/
def statusIn (row : Transaction) (statuses : List TransactionStatus) : Bool :=
  statuses.any fun status => row.transactionStatus == some status

/-- The row is covered by the unique index. -/
def Active (row : Transaction) : Prop :=
  row.statusIn COVERED_STATUSES = true

instance (row : Transaction) : Decidable row.Active :=
  inferInstanceAs (Decidable (_ = true))

theorem statusIn_iff {row : Transaction} {statuses : List TransactionStatus} :
    row.statusIn statuses = true ↔
      ∃ status ∈ statuses, row.transactionStatus = some status := by
  simp [statusIn]

/-- Whether a row is covered depends on its status only. -/
theorem active_iff {row : Transaction} {status : TransactionStatus}
    (has : row.transactionStatus = some status) :
    row.Active ↔ status ∈ COVERED_STATUSES := by
  simp [Active, statusIn_iff, has]

/-- Two rows may stand together in the unique index. -/
def Compatible (first second : Transaction) : Prop :=
  first.Active → second.Active → first.obligation ≠ second.obligation

instance (first second : Transaction) :
    Decidable (first.Compatible second) :=
  inferInstanceAs (Decidable (_ → _ → _))

instance : Std.Symm Compatible where
  symm _ _ compatible secondActive firstActive same :=
    compatible firstActive secondActive same.symm

end Transaction

open Transaction (Compatible)

/-! ## Ages -/

/-- `isStaleProcessingTransaction`, at the instant `now`. -/
def isStaleProcessingTransaction (now : Int) (row : Transaction) : Bool :=
  if row.transactionStatus ≠ some .processing then false
  else
    let ageMs := now - row.lastUpdatedAt
    decide (ageMs ≥ PROCESSING_STALE_MS)

/-- `isExpiredInitiatedTransaction`, at the instant `now`. -/
def isExpiredInitiatedTransaction (now : Int) (row : Transaction) : Bool :=
  if row.transactionStatus ≠ some .initiated then false
  else
    let ageMs := now - row.createdAt
    decide (ageMs > MAX_TOKEN_AGE_MS)

@[simp]
theorem isStaleProcessingTransaction_iff (now : Int) (row : Transaction) :
    isStaleProcessingTransaction now row = true ↔
      row.transactionStatus = some .processing ∧
        PROCESSING_STALE_MS ≤ now - row.lastUpdatedAt := by
  simp only [isStaleProcessingTransaction]
  split <;> simp_all

@[simp]
theorem isExpiredInitiatedTransaction_iff (now : Int) (row : Transaction) :
    isExpiredInitiatedTransaction now row = true ↔
      row.transactionStatus = some .initiated ∧
        MAX_TOKEN_AGE_MS < now - row.createdAt := by
  simp only [isExpiredInitiatedTransaction]
  split <;> simp_all

/-! ## The table -/

/-- The rows of the table with its primary key, whatever else is indexed. -/
@[ext]
structure KeyedTable where
  rows : List Transaction
  primaryKey : (rows.map Transaction.agencyTrackingId).Nodup

/-- The primary key determines the row. -/
theorem KeyedTable.eq_of_id_eq (table : KeyedTable)
    {first second : Transaction} (firstIn : first ∈ table.rows)
    (secondIn : second ∈ table.rows)
    (sameId : first.agencyTrackingId = second.agencyTrackingId) :
    first = second :=
  List.inj_on_of_nodup_map table.primaryKey firstIn secondIn sameId

/-- The rows in order of insertion, with the constraints of the schema. -/
@[ext]
structure Table where
  rows : List Transaction
  primaryKey : (rows.map Transaction.agencyTrackingId).Nodup
  uniqueActive : rows.Pairwise Compatible

/-- `set_last_updated_at`: kept on the transition into `cancelled`. -/
def set_last_updated_at (now : Int) (old new : Transaction) : Transaction :=
  if new.transactionStatus = some .cancelled ∧
      old.transactionStatus ≠ some .cancelled then new
  else { new with lastUpdatedAt := now }

@[simp]
theorem set_last_updated_at_agencyTrackingId (now : Int)
    (old new : Transaction) :
    (set_last_updated_at now old new).agencyTrackingId =
      new.agencyTrackingId := by
  unfold set_last_updated_at
  split <;> rfl

@[simp]
theorem set_last_updated_at_transactionStatus (now : Int)
    (old new : Transaction) :
    (set_last_updated_at now old new).transactionStatus =
      new.transactionStatus := by
  unfold set_last_updated_at
  split <;> rfl

@[simp]
theorem set_last_updated_at_obligation (now : Int) (old new : Transaction) :
    (set_last_updated_at now old new).obligation = new.obligation := by
  unfold set_last_updated_at
  split <;> rfl

theorem set_last_updated_at_stamped {now : Int} {old new : Transaction}
    (uncancelled : new.transactionStatus ≠ some .cancelled) :
    set_last_updated_at now old new = { new with lastUpdatedAt := now } :=
  if_neg fun cancels => uncancelled cancels.1

theorem set_last_updated_at_kept {now : Int} {old new : Transaction}
    (cancels : new.transactionStatus = some .cancelled)
    (uncancelled : old.transactionStatus ≠ some .cancelled) :
    set_last_updated_at now old new = new :=
  if_pos ⟨cancels, uncancelled⟩

namespace Table

/-- The table without its unique index. -/
def keyed (table : Table) : KeyedTable where
  rows := table.rows
  primaryKey := table.primaryKey

def empty : Table where
  rows := []
  primaryKey := List.nodup_nil
  uniqueActive := List.Pairwise.nil

/-- The table with these rows, unless a constraint rejects them. -/
def ofRows? (rows : List Transaction) : Option Table :=
  if valid : (rows.map Transaction.agencyTrackingId).Nodup ∧
      rows.Pairwise Compatible then
    some ⟨rows, valid.1, valid.2⟩
  else none

/-- `INSERT` of one row. -/
def insert? (row : Transaction) (table : Table) : Option Table :=
  ofRows? (table.rows ++ [row])

/-- What an `UPDATE` with the trigger leaves of a row. -/
def updateRow (now : Int) (selects : Transaction → Bool)
    (patch : Transaction → Transaction) (row : Transaction) : Transaction :=
  if selects row then set_last_updated_at now row (patch row) else row

/-- `UPDATE` of the selected rows. -/
def update? (now : Int) (selects : Transaction → Bool)
    (patch : Transaction → Transaction) (table : Table) : Option Table :=
  ofRows? (table.rows.map (updateRow now selects patch))

/-- `ORDER BY created_at`. -/
def oldestFirst (a b : Transaction) : Prop := a.createdAt ≤ b.createdAt

instance : DecidableRel oldestFirst := fun a b =>
  inferInstanceAs (Decidable (a.createdAt ≤ b.createdAt))

/-- The rows a query selects, oldest first. -/
def select (selects : Transaction → Bool) (table : Table) :
    List Transaction :=
  (table.rows.filter selects).insertionSort oldestFirst

/-! ### What a successful write leaves behind -/

theorem rows_of_ofRows? {rows : List Transaction} {table : Table}
    (accepted : ofRows? rows = some table) : table.rows = rows := by
  unfold ofRows? at accepted
  split at accepted
  · obtain rfl := Option.some.inj accepted
    rfl
  · exact absurd accepted (by simp)

theorem rows_of_insert? {row : Transaction} {table after : Table}
    (inserted : insert? row table = some after) :
    after.rows = table.rows ++ [row] :=
  rows_of_ofRows? inserted

theorem rows_of_update? {now : Int} {selects : Transaction → Bool}
    {patch : Transaction → Transaction} {table after : Table}
    (updated : update? now selects patch table = some after) :
    after.rows = table.rows.map (updateRow now selects patch) :=
  rows_of_ofRows? updated

/-- The rows of a table satisfy its constraints. -/
theorem ofRows?_rows (table : Table) : ofRows? table.rows = some table := by
  rw [ofRows?, dif_pos ⟨table.primaryKey, table.uniqueActive⟩]

/-! ### Which writes succeed -/

/-- The constraints admit one more row. -/
def Insertable (row : Transaction) (table : Table) : Prop :=
  ∀ old ∈ table.rows, old.agencyTrackingId ≠ row.agencyTrackingId ∧
    old.Compatible row

theorem exists_insert?_iff {row : Transaction} {table : Table} :
    (∃ after, insert? row table = some after) ↔ Insertable row table := by
  constructor
  · rintro ⟨after, inserted⟩ old member
    have rows_eq := rows_of_insert? inserted
    have distinct := after.primaryKey
    have unique := after.uniqueActive
    rw [rows_eq, List.map_append, List.nodup_append] at distinct
    rw [rows_eq, List.pairwise_append] at unique
    exact ⟨distinct.2.2 _ (List.mem_map_of_mem member) _ (by simp),
      unique.2.2 old member row List.mem_cons_self⟩
  · intro insertable
    refine ⟨_, dif_pos ⟨?_, ?_⟩⟩
    · rw [List.map_append, List.nodup_append]
      refine ⟨table.primaryKey, List.nodup_singleton _, ?_⟩
      intro id inOld another inNew
      obtain ⟨old, member, rfl⟩ := List.mem_map.mp inOld
      obtain rfl := List.mem_singleton.mp inNew
      exact (insertable old member).1
    · rw [List.pairwise_append]
      refine ⟨table.uniqueActive, List.pairwise_singleton _ _, ?_⟩
      intro old member another isNew
      obtain rfl := List.mem_singleton.mp isNew
      exact (insertable old member).2

/-- A patch that leaves the keys of a row alone. -/
structure KeepsKeys (patch : Transaction → Transaction) : Prop where
  id : ∀ row, (patch row).agencyTrackingId = row.agencyTrackingId
  obligation : ∀ row, (patch row).obligation = row.obligation

theorem KeepsKeys.updateRow {patch : Transaction → Transaction} (now : Int)
    (selects : Transaction → Bool) (keeps : KeepsKeys patch) :
    KeepsKeys (Table.updateRow now selects patch) where
  id row := by
    unfold Table.updateRow
    split <;> simp [keeps.id]
  obligation row := by
    unfold Table.updateRow
    split <;> simp [keeps.obligation]

theorem active_updateRow {now : Int} {selects : Transaction → Bool}
    {patch : Transaction → Transaction} {row : Transaction} :
    (updateRow now selects patch row).Active ↔
      if selects row then (patch row).Active else row.Active := by
  unfold updateRow
  split <;> simp [Transaction.Active, Transaction.statusIn_iff]

/-- An update that selects no row succeeds and changes nothing. -/
theorem update?_of_unselected {now : Int} {selects : Transaction → Bool}
    {patch : Transaction → Transaction} {table : Table}
    (unselected : ∀ row ∈ table.rows, selects row = false) :
    update? now selects patch table = some table := by
  have kept : table.rows.map (updateRow now selects patch) = table.rows := by
    refine (List.map_congr_left fun row member => ?_).trans (List.map_id _)
    simp [updateRow, unselected row member]
  rw [update?, kept, ofRows?_rows]

/-- An update that moves no row to another key and activates none succeeds. -/
theorem exists_update? {now : Int} {selects : Transaction → Bool}
    {patch : Transaction → Transaction} {table : Table}
    (sameId : ∀ row, (patch row).agencyTrackingId = row.agencyTrackingId)
    (sameObligation : ∀ row, (patch row).obligation = row.obligation)
    (active : ∀ row ∈ table.rows, selects row = true →
      (patch row).Active → row.Active) :
    ∃ after, update? now selects patch table = some after := by
  have updates := (KeepsKeys.mk sameId sameObligation).updateRow now selects
  have active_of : ∀ row ∈ table.rows,
      (updateRow now selects patch row).Active → row.Active := by
    intro row member isActive
    rw [active_updateRow] at isActive
    split at isActive
    · next selected => exact active row member selected isActive
    · exact isActive
  refine ⟨_, dif_pos ⟨?_, ?_⟩⟩
  · rw [List.map_map]
    have same : Transaction.agencyTrackingId ∘ updateRow now selects patch =
        Transaction.agencyTrackingId := funext updates.id
    rw [same]
    exact table.primaryKey
  · rw [List.pairwise_map]
    apply table.uniqueActive.imp_of_mem
    intro first second firstIn secondIn compatible firstActive secondActive
    rw [updates.obligation, updates.obligation]
    exact compatible (active_of first firstIn firstActive)
      (active_of second secondIn secondActive)

/-! ### What the constraints say -/

/-- The primary key determines the row. -/
theorem eq_of_id_eq (table : Table) {first second : Transaction}
    (firstIn : first ∈ table.rows) (secondIn : second ∈ table.rows)
    (sameId : first.agencyTrackingId = second.agencyTrackingId) :
    first = second :=
  List.inj_on_of_nodup_map table.primaryKey firstIn secondIn sameId

/-- At most one row of an obligation is active. -/
theorem eq_of_active (table : Table) {first second : Transaction}
    (firstIn : first ∈ table.rows) (secondIn : second ∈ table.rows)
    (firstActive : first.Active) (secondActive : second.Active)
    (sameObligation : first.obligation = second.obligation) :
    first = second := by
  by_contra different
  exact table.uniqueActive.forall firstIn secondIn different
    firstActive secondActive sameObligation

@[simp]
theorem mem_select {selects : Transaction → Bool} {table : Table}
    {row : Transaction} :
    row ∈ table.select selects ↔ row ∈ table.rows ∧ selects row = true := by
  simp [select]

end Table

end PaymentPortal.Model
