import PaymentPortal.Protocol.Changes
import PaymentPortal.Protocol.Healthy

/-!
# `initPayment` alone

What each function of `initPayment.ts` returns and throws when the request runs
alone and all is healthy.  The obligation of the request is free when none of
its rows is covered by the unique index; then a new attempt goes through.
-/

namespace PaymentPortal.Protocol.InitAlone

open PaymentPortal.Interaction
open PaymentPortal.Model
open PaymentPortal.Model.InitPayment

/-- No row of the obligation is covered by the unique index. -/
def Free (obligation : Obligation) (table : Table) : Prop :=
  ∀ row ∈ table.rows, row.obligation = obligation → ¬ row.Active

/-- The row with this id is covered by the unique index. -/
def Holds (id : String) (table : Table) : Prop :=
  ∃ row ∈ table.rows, row.agencyTrackingId = id ∧ row.Active

/-! ## Tables -/

/-- A new attempt for a free obligation meets the constraints. -/
theorem exists_insert? {now : Int} {data : ReceivedTransactionParams}
    {table : Table}
    (free : Free ⟨data.clientName, data.transactionReferenceId⟩ table)
    (fresh : ∀ row ∈ table.rows,
      row.agencyTrackingId ≠ data.agencyTrackingId) :
    ∃ after, table.insert? (receivedRow now data) = some after := by
  refine Table.exists_insert?_iff.mpr fun old member => ⟨fresh old member, ?_⟩
  intro active _ sameObligation
  exact free old member sameObligation active

/-- No new attempt for an obligation with a row in the unique index. -/
theorem insert?_eq_none {now : Int} {data : ReceivedTransactionParams}
    {table : Table} {row : Transaction} (member : row ∈ table.rows)
    (sameObligation :
      row.obligation = ⟨data.clientName, data.transactionReferenceId⟩)
    (active : row.Active) :
    table.insert? (receivedRow now data) = none := by
  by_contra inserted
  have insertable :=
    Table.exists_insert?_iff.mp (Option.ne_none_iff_exists'.mp inserted)
  exact (insertable row member).2 active (receivedRow_active now data)
    sameObligation

/-- Once its only covered row leaves the index an obligation is free. -/
theorem free_of_update? {now : Int} {selects : Transaction → Bool}
    {patch : Transaction → Transaction} {table after : Table}
    {row : Transaction}
    (updated : table.update? now selects patch = some after)
    (member : row ∈ table.rows) (active : row.Active)
    (selected : selects row = true)
    (inactive : ∀ row, ¬ (patch row).Active) :
    Free row.obligation after := by
  intro later laterIn isObligation isActive
  rw [Table.rows_of_update? updated] at laterIn
  obtain ⟨old, oldIn, rfl⟩ := List.mem_map.mp laterIn
  unfold Table.updateRow at isObligation isActive
  split at isActive
  · apply inactive old
    simpa [Transaction.Active, Transaction.statusIn_iff] using isActive
  · rename_i unselected
    rw [if_neg unselected] at isObligation
    obtain rfl := table.eq_of_active oldIn member isActive active isObligation
    exact unselected selected

variable {config : Config} {world : World}

/-- Nothing is returned, or nothing is thrown. -/
abbrev Never {α : Type} (_ : World) (_ : α) : Prop := False

/-! ## A new attempt -/

/-- For a free obligation the new attempt is recorded. -/
theorem attains_recordReceivedTransaction {data : ReceivedTransactionParams}
    (free : Free ⟨data.clientName, data.transactionReferenceId⟩ world.table)
    (fresh : ∀ row ∈ world.table.rows,
      row.agencyTrackingId ≠ data.agencyTrackingId) :
    Attains config
      (fun after _ => Holds data.agencyTrackingId after.table) Never
      (recordReceivedTransaction data) world := by
  refine Machine.Attains.tryCatch Never
    (Machine.Attains.bind
      (fun after _ => Holds data.agencyTrackingId after.table)
      (Machine.Attains.bind
        (fun after _ => Holds data.agencyTrackingId after.table) ?_ ?_) ?_) ?_
  · apply attains_query
    intro here drifts locked
    rw [← drifts.table] at free fresh
    obtain ⟨table, inserted⟩ : ∃ table,
        here.table.insert? (receivedRow here.now data) = some table :=
      exists_insert? free fresh
    refine .inl ⟨(), table, ?_, receivedRow here.now data, ?_, rfl,
      receivedRow_active here.now data⟩
    · simp only [Statement.run, inserted]
    · change _ ∈ table.rows
      rw [Table.rows_of_insert? inserted]
      exact List.mem_append_right _ (List.mem_singleton.mpr rfl)
  · intro after value holds
    refine attains_read (fun table => table.rows.find?
      (hasId data.agencyTrackingId)) (fun _ _ _ => rfl) ?_
    intro here drifts
    rw [drifts.table]
    exact holds
  · intro after value holds
    exact Machine.Attains.pure holds
  · intro after error impossible
    exact False.elim impossible

/-- The session is started. -/
theorem attains_startCollection {params : StartOnlineCollectionParams} :
    Attains config (fun after _ => after.table = world.table) Never
      (startCollection params) world := by
  refine Machine.Attains.tryCatch Never
    (Machine.Attains.bind (fun after text => ∃ token,
      text = .startOnlineCollectionResponse token ∧ token.length = 32 ∧
        after.table = world.table) ?_ ?_) ?_
  · apply attains_postStart
    intro here token sameTable length
    exact ⟨token, rfl, length, sameTable⟩
  · rintro after text ⟨token, rfl, length, sameTable⟩
    dsimp only [StartOnlineCollectionRequest.checkToken]
    rw [if_pos length]
    exact Machine.Attains.pure sameTable
  · intro after error impossible
    exact False.elim impossible

/-- The token is stored. -/
theorem attains_recordToken {id token : String}
    (holds : Holds id world.table) :
    Attains config (fun _ _ => True) Never (recordToken id token) world := by
  refine Machine.Attains.tryCatch Never
    (Machine.Attains.bind (fun _ _ => True) ?_ ?_) ?_
  · apply attains_query
    intro here drifts locked
    rw [← drifts.table] at holds
    obtain ⟨own, ownIn, ownId, active⟩ := holds
    obtain ⟨table, updated⟩ : ∃ table, here.table.update? here.now (hasId id)
        (initiatedPatch token) = some table := by
      refine Table.exists_update? (fun _ => rfl) (fun _ => rfl) ?_
      intro row member selected _
      have isId : row.agencyTrackingId = id := by
        simpa [hasId] using selected
      exact here.table.eq_of_id_eq ownIn member (ownId.trans isId.symm) ▸ active
    exact .inl ⟨_, table, Table.updateWhere_of_update? updated, trivial⟩
  · intro after count _
    exact Machine.Attains.pure trivial
  · intro after error impossible
    exact False.elim impossible

variable {client : ClientPermission} {order : InitPaymentRequest}
variable {fee : ActiveFee}

/-- A free obligation gets a new session. -/
theorem attains_startNewAttempt
    (free : Free ⟨client.clientName, order.transactionReferenceId⟩
      world.table) :
    Attains config (fun _ _ => True) Never
      (startNewAttempt config client order fee) world := by
  refine Machine.Attains.bind (fun after id => after.table = world.table ∧
    ∀ row ∈ after.table.rows, row.agencyTrackingId ≠ id) ?_ ?_
  · apply attains_generateAgencyTrackingId
    intro here id drifts fresh
    exact ⟨drifts.table, fresh⟩
  rintro after id ⟨sameTable, fresh⟩
  rw [← sameTable] at free
  refine Machine.Attains.bind _
    (attains_recordReceivedTransaction free fresh) ?_
  intro recorded value holds
  apply Machine.Attains.bind _ attains_startCollection
  intro started token sameTable
  rw [← sameTable] at holds
  apply Machine.Attains.bind _ (attains_recordToken holds)
  intro stored value _
  exact Machine.Attains.pure trivial

/-! ## Retirement of what is in flight -/

/-- The read behind a write leaves the table alone. -/
theorem attains_fetchPatched {id : String} {count : Nat} :
    Attains config (fun after _ => after.table = world.table) Never
      (TransactionModel.fetchPatched id count) world := by
  unfold TransactionModel.fetchPatched
  split
  · exact Machine.Attains.pure rfl
  · exact attains_read (fun table => table.rows.find? (hasId id))
      (fun _ _ _ => rfl) fun here drifts => drifts.table

variable {row : Transaction}

/-- Marking the covered row `failed` frees its obligation. -/
theorem attains_updateToFailed {code : Option Int} {detail : Option String}
    (member : row ∈ world.table.rows) (active : row.Active) :
    Attains config (fun after _ => Free row.obligation after.table) Never
      (TransactionModel.updateToFailed row.agencyTrackingId code detail)
      world := by
  refine Machine.Attains.bind
    (fun after _ => Free row.obligation after.table) ?_ ?_
  · apply attains_query
    intro here drifts locked
    rw [← drifts.table] at member
    have inactive : ∀ row, ¬ (failedPatch code detail row).Active :=
      fun row => (Transaction.active_iff rfl).not.mpr (by decide)
    obtain ⟨table, updated⟩ : ∃ table, here.table.update? here.now
        (hasId row.agencyTrackingId) (failedPatch code detail) = some table :=
      Table.exists_update? (fun _ => rfl) (fun _ => rfl)
        fun other _ _ isActive => absurd isActive (inactive other)
    refine .inl ⟨_, table, Table.updateWhere_of_update? updated, ?_⟩
    exact free_of_update? updated member active (by simp [hasId]) inactive
  · intro after count free
    refine attains_fetchPatched.mono ?_ fun _ _ impossible => impossible
    intro later found sameTable
    rw [sameTable]
    exact free

/-- Cancelling the covered row frees its obligation. -/
theorem attains_updateToCancelled (member : row ∈ world.table.rows)
    (active : row.Active)
    (initiated : row.transactionStatus = some .initiated) :
    Attains config (fun after _ => Free row.obligation after.table) Never
      (TransactionModel.updateToCancelled row.agencyTrackingId) world := by
  apply attains_query
  intro here drifts locked
  rw [← drifts.table] at member
  have inactive : ∀ row, ¬ (cancelledPatch row).Active :=
    fun row => (Transaction.active_iff rfl).not.mpr (by decide)
  obtain ⟨table, updated⟩ : ∃ table, here.table.update? here.now
      (hasIdAndStatus row.agencyTrackingId .initiated) cancelledPatch =
        some table :=
    Table.exists_update? (fun _ => rfl) (fun _ => rfl)
      fun other _ _ isActive => absurd isActive (inactive other)
  refine .inl ⟨_, table, Table.updateWhere_of_update? updated, ?_⟩
  exact free_of_update? updated member active
    (by simp [hasIdAndStatus, initiated]) inactive

/-- Only an `initiated` row is found to be expired. -/
theorem attains_readExpiredInitiated :
    Attains config (fun after expired => after.table = world.table ∧
        (expired = true → row.transactionStatus = some .initiated))
      Never (readExpiredInitiated row) world := by
  unfold readExpiredInitiated
  split
  · exact Machine.Attains.pure ⟨rfl, by simp⟩
  · rename_i initiated
    refine Machine.Attains.bind
      (fun after _ => after.table = world.table) ?_ ?_
    · exact attains_dateNow fun here drifts => drifts.table
    · intro after now sameTable
      exact Machine.Attains.pure ⟨sameTable, fun _ => not_not.mp initiated⟩

/-- A stale claim is found to be stale. -/
theorem attains_readStaleProcessing
    (stale : row.transactionStatus = some .processing →
      PROCESSING_STALE_MS ≤ world.now - row.lastUpdatedAt) :
    Attains config (fun after isStale => after.table = world.table ∧
        (row.transactionStatus = some .processing → isStale = true))
      Never (readStaleProcessing row) world := by
  unfold readStaleProcessing
  split
  · rename_i other
    exact Machine.Attains.pure ⟨rfl, fun processing => absurd processing other⟩
  · rename_i processing
    have isProcessing := not_not.mp processing
    refine Machine.Attains.bind (fun after now =>
      after.table = world.table ∧ world.now ≤ now) ?_ ?_
    · exact attains_dateNow fun here drifts => ⟨drifts.table, drifts.now⟩
    · rintro after now ⟨sameTable, later⟩
      refine Machine.Attains.pure ⟨sameTable, fun _ => ?_⟩
      have old := stale isProcessing
      exact (isStaleProcessingTransaction_iff now row).mpr
        ⟨isProcessing, by omega⟩

/-- What is retired frees its obligation. -/
theorem attains_retire (member : row ∈ world.table.rows)
    (active : row.Active) :
    Attains config (fun after _ => Free row.obligation after.table) Never
      (retire row) world := by
  apply Machine.Attains.bind _ attains_readExpiredInitiated
  rintro after expired ⟨sameTable, whenExpired⟩
  rw [← sameTable] at member
  cases expired with
  | true =>
      refine Machine.Attains.bind _
        (attains_updateToCancelled member active (whenExpired rfl)) ?_
      intro later count free
      exact Machine.Attains.pure free
  | false =>
      apply Machine.Attains.bind _ (attains_updateToFailed member active)
      intro later found free
      exact Machine.Attains.pure free

/-- What is in flight and not fresh is reused or retired. -/
theorem attains_resolveInFlightTransaction (member : row ∈ world.table.rows)
    (active : row.Active)
    (stale : row.transactionStatus = some .processing →
      PROCESSING_STALE_MS ≤ world.now - row.lastUpdatedAt) :
    Attains config
      (fun after result => result = none → Free row.obligation after.table)
      Never (resolveInFlightTransaction config row fee) world := by
  refine Machine.Attains.bind (fun after _ => after.table = world.table ∧
    world.now ≤ after.now) ?_ ?_
  · exact attains_dateNow fun here drifts => ⟨drifts.table, drifts.now⟩
  rintro after now ⟨sameTable, later⟩
  refine Machine.Attains.bind _ (attains_readStaleProcessing ?_) ?_
  · intro processing
    have old := stale processing
    omega
  rintro weighed isStale ⟨weighedTable, whenProcessing⟩
  rw [← sameTable, ← weighedTable] at member
  split
  · rename_i fresh
    exact absurd ((whenProcessing fresh.1).symm.trans fresh.2) (by simp)
  · split
    · exact Machine.Attains.pure (by simp)
    · apply Machine.Attains.bind _ (attains_retire member active)
      intro retired value free
      exact Machine.Attains.pure fun _ => free

/-! ## The lookup -/

/-- What the lookup of `handleIfPaymentProcessedOrPending` finds. -/
def lookup (clientName transactionReferenceId : String) (table : Table) :
    Option Transaction :=
  (table.select fun row =>
    row.clientName == clientName &&
      row.transactionReferenceId == transactionReferenceId &&
      row.statusIn [.initiated, .processing, .pending, .processed]).head?

theorem mem_of_lookup {clientName transactionReferenceId : String}
    {table : Table} (found : lookup clientName transactionReferenceId table =
      some row) :
    row ∈ table.rows ∧ row.obligation = ⟨clientName, transactionReferenceId⟩ ∧
      row.statusIn [.initiated, .processing, .pending, .processed] = true := by
  obtain ⟨member, selected⟩ := Table.mem_select.mp (List.mem_of_head? found)
  simp only [Bool.and_eq_true, beq_iff_eq] at selected
  obtain ⟨⟨sameClient, sameReference⟩, status⟩ := selected
  exact ⟨member, by simp [Transaction.obligation, sameClient, sameReference],
    status⟩

/-- The lookup does not find the covered rows that are `received`. -/
theorem received_of_lookup {clientName transactionReferenceId : String}
    {table : Table}
    (missed : lookup clientName transactionReferenceId table = none)
    (member : row ∈ table.rows)
    (isObligation : row.obligation = ⟨clientName, transactionReferenceId⟩)
    (active : row.Active) : row.transactionStatus = some .received := by
  obtain ⟨rfl, rfl⟩ := Obligation.mk.inj isObligation
  obtain ⟨status, covered, has⟩ := Transaction.statusIn_iff.mp active
  by_contra unreceived
  have inFlight :
      row.statusIn [.initiated, .processing, .pending, .processed] = true := by
    cases status <;> simp_all [Transaction.statusIn_iff,
      Transaction.COVERED_STATUSES]
  have selected : row ∈ table.select fun other =>
      other.clientName == row.clientName &&
        other.transactionReferenceId == row.transactionReferenceId &&
        other.statusIn [.initiated, .processing, .pending, .processed] :=
    Table.mem_select.mpr ⟨member, by simp [inFlight]⟩
  rw [List.head?_eq_none_iff.mp missed] at selected
  exact absurd selected (by simp)

/-- No row of the obligation is paid, and its claims are stale. -/
structure Settled (obligation : Obligation) (world : World) : Prop where
  unpaid : ∀ row ∈ world.table.rows, row.obligation = obligation →
    row.transactionStatus ≠ some .pending ∧
      row.transactionStatus ≠ some .processed
  stale : ∀ row ∈ world.table.rows, row.obligation = obligation →
    row.transactionStatus = some .processing →
      PROCESSING_STALE_MS ≤ world.now - row.lastUpdatedAt

theorem Settled.later {obligation : Obligation} {here : World}
    (settled : Settled obligation world) (drifts : Drifts world here) :
    Settled obligation here where
  unpaid := drifts.table ▸ settled.unpaid
  stale := by
    intro row member isObligation processing
    have old := settled.stale row (drifts.table ▸ member) isObligation
      processing
    have later := drifts.now
    omega

/-- Unless a token is reused, the obligation of the request is free. -/
theorem attains_handleIfPaymentProcessedOrPending
    (settled :
      Settled ⟨client.clientName, order.transactionReferenceId⟩ world)
    (unreceived : ∀ row ∈ world.table.rows,
      row.obligation = ⟨client.clientName, order.transactionReferenceId⟩ →
        row.transactionStatus ≠ some .received) :
    Attains config
      (fun after result => result = none →
        Free ⟨client.clientName, order.transactionReferenceId⟩ after.table)
      Never (handleIfPaymentProcessedOrPending config client.clientName
        order.transactionReferenceId fee) world := by
  refine Machine.Attains.bind (fun after found =>
    Settled ⟨client.clientName, order.transactionReferenceId⟩ after ∧
      after.table = world.table ∧
      found = lookup client.clientName order.transactionReferenceId
        world.table) ?_ ?_
  · refine attains_read
      (lookup client.clientName order.transactionReferenceId)
      (fun _ _ _ => rfl) ?_
    intro here drifts
    exact ⟨settled.later drifts, drifts.table, rfl⟩
  rintro after found ⟨settledLater, sameTable, isFound⟩
  cases found with
  | none =>
      refine Machine.Attains.pure fun _ row member isObligation active => ?_
      rw [sameTable] at member
      exact unreceived row member isObligation
        (received_of_lookup isFound.symm member isObligation active)
  | some row =>
      obtain ⟨member, isObligation, status⟩ := mem_of_lookup isFound.symm
      obtain ⟨unpending, unprocessed⟩ :=
        settled.unpaid row member isObligation
      rw [← sameTable] at member
      have stale := settledLater.stale row member isObligation
      rw [← isObligation]
      dsimp only
      split
      · rename_i initiated
        exact attains_resolveInFlightTransaction member
          ((Transaction.active_iff initiated).mpr (by decide)) stale
      · rename_i processing
        exact attains_resolveInFlightTransaction member
          ((Transaction.active_iff processing).mpr (by decide)) stale
      · rename_i pending
        exact absurd pending unpending
      · rename_i processed
        exact absurd processed unprocessed
      · rename_i uninitiated unprocessing _ _
        have other : row.transactionStatus ≠ some .initiated ∧
            row.transactionStatus ≠ some .processing :=
          ⟨uninitiated, unprocessing⟩
        exact absurd status (by simp [Transaction.statusIn_iff, other,
          unpending, unprocessed])

/-! ## The use case -/

/-- The request passes the checks before the lookup from `now` on. -/
structure Acceptable (config : Config) (now : Int) (client : ClientPermission)
    (order : InitPaymentRequest) : Prop where
  authorized : authorizeClient client order.fee = .ok ()
  resolves : ∀ instant, now ≤ instant → ∃ fee,
    resolveFee config instant order.fee order.amount.isSome = .ok fee

/-- The checks before the lookup are passed. -/
theorem attains_resolveFeeForRequest
    (acceptable : Acceptable config world.now client order) :
    Attains config (fun after _ => Drifts world after) Never
      (resolveFeeForRequest config order.fee order.amount.isSome) world := by
  refine Machine.Attains.bind
    (fun after now => Drifts world after ∧ world.now ≤ now) ?_ ?_
  · exact attains_dateNow fun here drifts => ⟨drifts, drifts.now⟩
  · rintro after now ⟨drifts, later⟩
    obtain ⟨fee, resolved⟩ := acceptable.resolves now later
    rw [resolved]
    exact Machine.Attains.computed drifts

/-- Without a `received` row the request gets a session. -/
theorem attains_initPayment
    (acceptable : Acceptable config world.now client order)
    (settled :
      Settled ⟨client.clientName, order.transactionReferenceId⟩ world)
    (unreceived : ∀ row ∈ world.table.rows,
      row.obligation = ⟨client.clientName, order.transactionReferenceId⟩ →
        row.transactionStatus ≠ some .received) :
    Attains config (fun _ _ => True) Never (initPayment config client order)
      world := by
  refine Machine.Attains.bind (fun after _ => after = world) ?_ ?_
  · rw [acceptable.authorized]
    exact Machine.Attains.computed rfl
  intro authorized value sameWorld
  rw [sameWorld]
  apply Machine.Attains.bind _ (attains_resolveFeeForRequest acceptable)
  intro after fee drifts
  refine Machine.Attains.bind _ (attains_handleIfPaymentProcessedOrPending
    (settled.later drifts) (drifts.table ▸ unreceived)) ?_
  rintro later (_ | response) free
  · exact attains_startNewAttempt (free rfl)
  · exact Machine.Attains.pure trivial

/-! ## A `received` row -/

/-- The insert of a second attempt ends in a conflict. -/
theorem conflicts_recordReceivedTransaction {data : ReceivedTransactionParams}
    (member : row ∈ world.table.rows)
    (isObligation :
      row.obligation = ⟨data.clientName, data.transactionReferenceId⟩)
    (received : row.transactionStatus = some .received) :
    Attains config Never (fun _ error => ∃ message, error = .conflict message)
      (recordReceivedTransaction data) world := by
  have active : row.Active :=
    (Transaction.active_iff received).mpr (by decide)
  refine Machine.Attains.tryCatch
    (fun _ error => error = .database .uniqueViolation)
    (Machine.Attains.bind Never (Machine.Attains.bind Never ?_ ?_) ?_) ?_
  · apply attains_query
    intro here drifts locked
    rw [← drifts.table] at member
    refine .inr ⟨.uniqueViolation, ?_, rfl⟩
    simp only [Statement.run, insert?_eq_none member isObligation active]
  · intro after value impossible
    exact False.elim impossible
  · intro after value impossible
    exact False.elim impossible
  · rintro after error rfl
    refine Machine.Attains.bind (fun _ _ => True)
      (Machine.Attains.bind (fun _ _ => True) ?_ ?_) ?_
    · exact attains_read (fun table => table.findPendingOrProcessed
        data.clientName data.transactionReferenceId none) (fun _ _ _ => rfl)
        fun here drifts => trivial
    · rintro read (_ | paid) _
      · exact Machine.Attains.pure trivial
      · exact Machine.Attains.throw ⟨_, rfl⟩
    · rintro read value _
      exact Machine.Attains.throw ⟨_, rfl⟩

/-- With a `received` row the request ends in a conflict. -/
theorem conflicts_initPayment
    (acceptable : Acceptable config world.now client order)
    (member : row ∈ world.table.rows)
    (isObligation :
      row.obligation = ⟨client.clientName, order.transactionReferenceId⟩)
    (received : row.transactionStatus = some .received) :
    Attains config Never (fun _ error => ∃ message, error = .conflict message)
      (initPayment config client order) world := by
  have active : row.Active :=
    (Transaction.active_iff received).mpr (by decide)
  -- The row is the only one that is covered, so the lookup misses it.
  have missed : lookup client.clientName order.transactionReferenceId
      world.table = none := by
    by_contra found
    obtain ⟨other, isFound⟩ := Option.ne_none_iff_exists'.mp found
    obtain ⟨otherIn, otherObligation, status⟩ := mem_of_lookup isFound
    have otherActive : other.Active := by
      obtain ⟨reached, inFlight, has⟩ := Transaction.statusIn_iff.mp status
      exact (Transaction.active_iff has).mpr (List.mem_cons_of_mem _ inFlight)
    obtain rfl := world.table.eq_of_active otherIn member otherActive active
      (otherObligation.trans isObligation.symm)
    exact absurd status (by simp [Transaction.statusIn_iff, received])
  refine Machine.Attains.bind (fun after _ => after = world) ?_ ?_
  · rw [acceptable.authorized]
    exact Machine.Attains.computed rfl
  intro authorized value sameWorld
  rw [sameWorld]
  refine Machine.Attains.bind (fun after _ => Drifts world after)
    ((attains_resolveFeeForRequest acceptable).mono (fun _ _ drifts => drifts)
      fun _ _ impossible => False.elim impossible) ?_
  intro after fee drifts
  refine Machine.Attains.bind (fun later result => result = none ∧
    row ∈ later.table.rows) ?_ ?_
  · refine Machine.Attains.bind (fun later found => found = none ∧
      row ∈ later.table.rows) ?_ ?_
    · refine attains_read
        (lookup client.clientName order.transactionReferenceId)
        (fun _ _ _ => rfl) ?_
      intro here further
      rw [drifts.table, further.table, drifts.table]
      exact ⟨missed, member⟩
    · rintro later found ⟨rfl, kept⟩
      exact Machine.Attains.pure ⟨rfl, kept⟩
  rintro later result ⟨rfl, kept⟩
  refine Machine.Attains.bind
    (fun after _ => row ∈ after.table.rows) ?_ ?_
  · apply attains_generateAgencyTrackingId
    intro here id further _
    rw [further.table]
    exact kept
  intro generated id still
  refine Machine.Attains.bind Never
    (conflicts_recordReceivedTransaction still isObligation received) ?_
  intro recorded value impossible
  exact False.elim impossible

end PaymentPortal.Protocol.InitAlone
