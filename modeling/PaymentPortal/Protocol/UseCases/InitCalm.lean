import PaymentPortal.Protocol.Learning
import PaymentPortal.Protocol.UseCases.InitAlone

/-!
# `initPayment` at one instant

What `initPayment` does about an `initiated` row of its obligation when it runs
alone, the database executes every statement and the clock stands still.
Pay.gov may do with its requests what it likes.
-/

namespace PaymentPortal.Protocol.InitCalm

open PaymentPortal.Interaction
open PaymentPortal.Model
open PaymentPortal.Model.InitPayment
open PaymentPortal.Protocol.InitAlone

/-- No time passes, and no statement fails. -/
structure Calm (formats : XmlFormats) (instant : Int) (world : World) (op : Op)
    (fate : Fate) : Prop where
  now : world.now = instant
  enabled : ∃ result, exec formats op fate world = some result
  executed : ∀ statement, op = .db statement → ∃ locked, fate = .executed locked

/-- What a task returns and throws when it runs alone at an instant. -/
abbrev Settles {α : Type} (config : Config) (instant : Int)
    (returns : World → α → Prop) (throws : World → PortalError → Prop)
    (task : Async α) (world : World) : Prop :=
  (portal config).Attains (Calm config.xmlFormats instant) returns throws task
    world

/-- Time does not pass while an operation is executed. -/
theorem now_eq_of_exec {formats : XmlFormats} {op : Op} {fate : Fate}
    {world after : World} {reply : Reply op}
    (executed : exec formats op fate world = some (reply, after)) :
    after.now = world.now := by
  cases op with
  | now | pick | generateAgencyTrackingId =>
      rw [same_of_passive (by trivial) executed]
  | db statement => exact (tableStep_of_execStatement executed).1
  | fetch request =>
      cases fetchStep_of_execFetch executed with
      | same same => rw [same]
      | issued _ _ _ _ _ after_eq => rw [after_eq]
      | completed _ _ _ _ _ _ _ _ after_eq => rw [after_eq]

/-- There is always a fate with which the world goes on. -/
theorem exists_calm (formats : XmlFormats) (world : World) (op : Op) :
    ∃ fate, Calm formats world.now world op fate := by
  have other : ∀ fate, (∃ result, exec formats op fate world = some result) →
      (∀ statement, op ≠ .db statement) →
        Calm formats world.now world op fate :=
    fun fate enabled another =>
      ⟨rfl, enabled, fun statement same => absurd same (another statement)⟩
  cases op with
  | now => exact ⟨.read, other _ ⟨_, rfl⟩ (by simp)⟩
  | pick => exact ⟨.chosen true, other _ ⟨_, rfl⟩ (by simp)⟩
  | generateAgencyTrackingId =>
      exact ⟨.generated "", other _ ⟨_, rfl⟩ (by simp)⟩
  | db statement =>
      refine ⟨.executed [], rfl, ?_, fun _ _ => ⟨[], rfl⟩⟩
      cases ran : statement.run world.now [] world.table with
      | ok result =>
          obtain ⟨value, table⟩ := result
          exact ⟨(.ok value, { world with table := table }),
            by simp only [exec, execStatement, ran]⟩
      | error error =>
          exact ⟨(.error error, world),
            by simp only [exec, execStatement, ran]⟩
  | fetch request =>
      exact ⟨.refused .schemaViolation .delivered, other _ ⟨_, rfl⟩ (by simp)⟩

variable {config : Config} {instant : Int} {world : World}
variable {α : Type} {throws : World → PortalError → Prop}

/-! ## Operations -/

theorem settles_dateNow {returns : World → Int → Prop}
    (returned : ∀ here, here.table = world.table → returns here instant) :
    Settles config instant returns throws dateNow world := by
  apply Machine.Attains.operation
  rintro changes here drifted fate ⟨rfl, ⟨⟨reply, after⟩, executed⟩, _⟩
  cases fate with
  | read => exact ⟨_, _, rfl, returned here (drifts_of_driftAll drifted).table⟩
  | _ => exact absurd executed (by simp [exec])

theorem settles_generateAgencyTrackingId {returns : World → String → Prop}
    (returned : ∀ here id, here.table = world.table → returns here id) :
    Settles config instant returns throws generateAgencyTrackingId world := by
  apply Machine.Attains.operation
  rintro changes here drifted fate ⟨rfl, ⟨⟨reply, after⟩, executed⟩, _⟩
  cases fate with
  | generated id =>
      exact ⟨_, _, rfl, returned here id (drifts_of_driftAll drifted).table⟩
  | _ => exact absurd executed (by simp [exec])

/-- A statement is executed, or violates a constraint. -/
theorem settles_query {statement : Statement}
    {returns : World → statement.Result → Prop}
    (ended : ∀ here, here.table = world.table → here.now = instant →
      ∀ locked,
        (∃ result table, statement.run instant locked world.table =
            .ok (result, table) ∧ returns { here with table := table } result) ∨
          ∃ error, statement.run instant locked world.table = .error error ∧
            throws here (.database error)) :
    Settles config instant returns throws (query statement) world := by
  apply Machine.Attains.operation
  rintro changes here drifted fate ⟨atInstant, _, executed⟩
  obtain ⟨locked, rfl⟩ := executed statement rfl
  have sameTable := (drifts_of_driftAll drifted).table
  rcases ended here sameTable atInstant locked with
    ⟨result, table, ran, returned⟩ | ⟨error, ran, thrown⟩
  · refine ⟨.ok result, { here with table := table }, ?_, returned⟩
    change execStatement statement (.executed locked) here = _
    simp only [execStatement, atInstant, sameTable, ran]
  · refine ⟨.error error, here, ?_, thrown⟩
    change execStatement statement (.executed locked) here = _
    simp only [execStatement, atInstant, sameTable, ran]

/-- A statement that reads the table returns what it finds. -/
theorem settles_read {statement : Statement}
    {returns : World → statement.Result → Prop}
    (found : statement.Result)
    (reads : ∀ locked, statement.run instant locked world.table =
      .ok (found, world.table))
    (returned : ∀ here, here.table = world.table → returns here found) :
    Settles config instant returns throws (query statement) world := by
  apply settles_query
  intro here sameTable _ locked
  exact .inl ⟨found, world.table, reads locked, returned _ rfl⟩

/-- Pay.gov answers or not; the table stays as it is. -/
theorem settles_fetch {request : SoapRequest}
    {returns : World → Except FetchError ResponseText → Prop}
    (returned : ∀ here reply, here.table = world.table → returns here reply) :
    Settles config instant returns throws (fetch request) world := by
  apply Machine.Attains.operation
  rintro changes here drifted fate ⟨_, ⟨⟨reply, after⟩, executed⟩, _⟩
  refine ⟨reply, after, executed, returned after reply ?_⟩
  rw [(fetchStep_of_execFetch executed).table_eq,
    (drifts_of_driftAll drifted).table]

/-! ## A new attempt leaves the others alone -/

/-- The row is in the table and belongs to another attempt. -/
structure Beside (row : Transaction) (id : String) (world : World) : Prop where
  member : row ∈ world.table.rows
  other : row.agencyTrackingId ≠ id

variable {row : Transaction} {id : String}

/-- A write to one attempt leaves the others alone. -/
theorem settles_write {statement : Statement}
    (beside : Beside row id world)
    (own : ∀ changed, Changes instant statement row changed →
      row.agencyTrackingId = id) :
    Settles config instant (fun after _ => Beside row id after)
      (fun after _ => Beside row id after) (query statement) world := by
  apply settles_query
  intro here sameTable _ locked
  cases ran : statement.run instant locked world.table with
  | error error =>
      exact .inr ⟨error, rfl, sameTable ▸ beside.member, beside.other⟩
  | ok result =>
      refine .inl ⟨result.1, result.2, rfl, ?_, beside.other⟩
      cases tableStep_of_run ran with
      | inserted data _ _ rows_eq =>
          change row ∈ result.2.rows
          rw [rows_eq]
          exact List.mem_append_left _ beside.member
      | mapped change rows_eq changes =>
          change row ∈ result.2.rows
          rw [rows_eq]
          rcases changes row beside.member with same | changed
          · exact same ▸ List.mem_map_of_mem beside.member
          · exact absurd (own _ changed) beside.other

/-- A new attempt is recorded beside the others, or it is not recorded. -/
theorem settles_recordReceivedTransaction {data : ReceivedTransactionParams}
    (member : row ∈ world.table.rows) :
    Settles config instant
      (fun after _ => Beside row data.agencyTrackingId after)
      (fun after _ => row ∈ after.table.rows)
      (recordReceivedTransaction data) world := by
  refine Machine.Attains.tryCatch (fun after _ => row ∈ after.table.rows)
    (Machine.Attains.bind
      (fun after _ => Beside row data.agencyTrackingId after)
      (Machine.Attains.bind
        (fun after _ => Beside row data.agencyTrackingId after) ?_ ?_) ?_) ?_
  · apply settles_query
    intro here sameTable _ locked
    cases inserted : world.table.insert? (receivedRow instant data) with
    | none =>
        refine .inr ⟨.uniqueViolation, ?_, sameTable ▸ member⟩
        simp only [Statement.run, inserted]
    | some table =>
        refine .inl ⟨(), table, ?_, ?_, fresh_of_insert? inserted row member⟩
        · simp only [Statement.run, inserted]
        · change row ∈ table.rows
          rw [Table.rows_of_insert? inserted]
          exact List.mem_append_left _ member
  · intro after value beside
    refine settles_read _ (fun _ => rfl) fun here sameTable => ?_
    exact ⟨sameTable ▸ beside.member, beside.other⟩
  · intro after value beside
    exact Machine.Attains.pure beside
  · intro after error present
    split
    · refine Machine.Attains.bind (fun later _ => row ∈ later.table.rows)
        (Machine.Attains.bind (fun later _ => row ∈ later.table.rows) ?_ ?_) ?_
      · exact settles_read _ (fun _ => rfl) fun here sameTable =>
          sameTable ▸ present
      · rintro later (_ | paid) kept
        · exact Machine.Attains.pure kept
        · exact Machine.Attains.throw kept
      · intro later value kept
        exact Machine.Attains.throw kept
    · exact Machine.Attains.throw present

/-- Marking the new attempt failed leaves the others alone. -/
theorem settles_safeUpdateToFailed {code : Option Int} {detail : Option String}
    (beside : Beside row id world) :
    Settles config instant (fun after _ => Beside row id after) Never
      (safeUpdateToFailed id code detail) world := by
  refine Machine.Attains.tryCatch (fun after _ => Beside row id after)
    (Machine.Attains.bind (fun after _ => Beside row id after)
      (Machine.Attains.bind (fun after _ => Beside row id after) ?_ ?_) ?_) ?_
  · refine settles_write beside fun changed changes => ?_
    cases changes with
    | failed isId => exact isId
  · intro after count kept
    unfold TransactionModel.fetchPatched
    split
    · exact Machine.Attains.pure kept
    · refine settles_read _ (fun _ => rfl) fun here sameTable => ?_
      exact ⟨sameTable ▸ kept.member, kept.other⟩
  · intro after value kept
    exact Machine.Attains.pure kept
  · intro after error kept
    exact Machine.Attains.pure kept

/-- The requests to Pay.gov leave the table alone. -/
theorem settles_postAttempts {request : SoapRequest} (remaining : Nat)
    (beside : Beside row id world) :
    Settles config instant (fun after _ => Beside row id after)
      (fun after _ => Beside row id after) (postAttempts request remaining)
      world := by
  induction remaining generalizing world with
  | zero => exact Machine.Attains.throw beside
  | succ remaining ih =>
      refine Machine.Attains.bind (fun after _ => Beside row id after) ?_ ?_
      · refine settles_fetch fun here reply sameTable => ?_
        exact ⟨sameTable ▸ beside.member, beside.other⟩
      · rintro after (error | text) kept
        · dsimp only
          split
          · exact Machine.Attains.throw kept
          · split
            · exact Machine.Attains.throw kept
            · exact ih kept
        · exact Machine.Attains.pure kept

/-- The session is started, or the new attempt is marked failed. -/
theorem settles_startCollection {params : StartOnlineCollectionParams}
    (beside : Beside row params.agency_tracking_id world) :
    Settles config instant
      (fun after _ => Beside row params.agency_tracking_id after)
      (fun after _ => row ∈ after.table.rows) (startCollection params)
      world := by
  refine Machine.Attains.tryCatch
    (fun after _ => Beside row params.agency_tracking_id after)
    (Machine.Attains.bind _ (settles_postAttempts PAYGOV_MAX_ATTEMPTS beside)
      ?_) ?_
  · intro after text kept
    cases text with
    | startOnlineCollectionResponse token =>
        dsimp only [StartOnlineCollectionRequest.checkToken]
        split
        · exact Machine.Attains.pure kept
        · exact Machine.Attains.throw kept
    | completeOnlineCollectionWithDetailsResponse _ | getDetailsResponse _
    | schemaViolation | fault _ | unreadable _ =>
        exact Machine.Attains.throw kept
  · intro after error kept
    refine Machine.Attains.bind _ ((settles_safeUpdateToFailed kept).mono
      (fun _ _ holds => holds) fun _ _ impossible => False.elim impossible) ?_
    intro later value still
    exact Machine.Attains.throw still.member

/-- The token is stored, or the new attempt is marked failed. -/
theorem settles_recordToken {token : String} (beside : Beside row id world) :
    Settles config instant (fun after _ => row ∈ after.table.rows)
      (fun after _ => row ∈ after.table.rows) (recordToken id token) world := by
  refine Machine.Attains.tryCatch (fun after _ => Beside row id after)
    (Machine.Attains.bind (fun after _ => Beside row id after) ?_ ?_) ?_
  · refine settles_write beside fun changed changes => ?_
    cases changes with
    | activated isId => exact isId
  · intro after count kept
    exact Machine.Attains.pure kept.member
  · intro after error kept
    refine Machine.Attains.bind _ ((settles_safeUpdateToFailed kept).mono
      (fun _ _ holds => holds) fun _ _ impossible => False.elim impossible) ?_
    intro later value still
    exact Machine.Attains.throw still.member

variable {client : ClientPermission} {order : InitPaymentRequest}
variable {fee : ActiveFee}

/-- Whatever becomes of a new attempt, the rows of the others stay. -/
theorem settles_startNewAttempt (member : row ∈ world.table.rows) :
    Settles config instant (fun after _ => row ∈ after.table.rows)
      (fun after _ => row ∈ after.table.rows)
      (startNewAttempt config client order fee) world := by
  refine Machine.Attains.bind (fun after _ => row ∈ after.table.rows) ?_ ?_
  · exact settles_generateAgencyTrackingId fun here id sameTable =>
      sameTable ▸ member
  intro generated id present
  refine Machine.Attains.bind _ (settles_recordReceivedTransaction present) ?_
  intro recorded value beside
  apply Machine.Attains.bind _ (settles_startCollection beside)
  intro started token still
  apply Machine.Attains.bind _ (settles_recordToken still)
  intro stored value kept
  exact Machine.Attains.pure kept

/-! ## What is in flight -/

/-- The attempt is in this status. -/
def HasStatus (id : String) (status : TransactionStatus) (table : Table) :
    Prop :=
  ∃ row ∈ table.rows, row.agencyTrackingId = id ∧
    row.transactionStatus = some status

theorem HasStatus.unique {table : Table} {first second : TransactionStatus}
    (one : HasStatus id first table) (other : HasStatus id second table) :
    first = second := by
  obtain ⟨row, member, isId, has⟩ := one
  obtain ⟨same, sameIn, sameId, hasSame⟩ := other
  obtain rfl := table.eq_of_id_eq member sameIn (isId.trans sameId.symm)
  exact Option.some.inj (has.symm.trans hasSame)

/-- What an update makes of the row it selects. -/
theorem hasStatus_of_update? {now : Int} {selects : Transaction → Bool}
    {patch : Transaction → Transaction} {table after : Table}
    {status : TransactionStatus}
    (updated : table.update? now selects patch = some after)
    (member : row ∈ table.rows) (selected : selects row = true)
    (sameId : (patch row).agencyTrackingId = row.agencyTrackingId)
    (has : (patch row).transactionStatus = some status) :
    HasStatus row.agencyTrackingId status after := by
  refine ⟨set_last_updated_at now row (patch row), ?_, by simpa using sameId,
    by simpa using has⟩
  rw [Table.rows_of_update? updated]
  refine List.mem_map.mpr ⟨row, member, ?_⟩
  rw [Table.updateRow, if_pos selected]

/-- How `initPayment` retires an `initiated` row of this age. -/
def retirement (instant : Int) (row : Transaction) : TransactionStatus :=
  if isExpiredInitiatedTransaction instant row then .cancelled else .failed

/-- A dead row is retired according to its age. -/
theorem settles_retire (member : row ∈ world.table.rows)
    (initiated : row.transactionStatus = some .initiated) :
    Settles config instant (fun after _ => HasStatus row.agencyTrackingId
      (retirement instant row) after.table) Never (retire row) world := by
  refine Machine.Attains.bind (fun after expired =>
    after.table = world.table ∧
      expired = isExpiredInitiatedTransaction instant row) ?_ ?_
  · rw [readExpiredInitiated, if_neg (not_not.mpr initiated)]
    refine Machine.Attains.bind (fun after now =>
      after.table = world.table ∧ now = instant) ?_ ?_
    · exact settles_dateNow fun here sameTable => ⟨sameTable, rfl⟩
    · rintro after now ⟨sameTable, rfl⟩
      exact Machine.Attains.pure ⟨sameTable, rfl⟩
  rintro after expired ⟨sameTable, isExpired⟩
  rw [← sameTable] at member
  rw [retirement, ← isExpired]
  cases expired with
  | true =>
      refine Machine.Attains.bind (fun later _ =>
        HasStatus row.agencyTrackingId .cancelled later.table) ?_ ?_
      · apply settles_query
        intro here _ _ locked
        obtain ⟨table, updated⟩ : ∃ table, after.table.update? instant
            (hasIdAndStatus row.agencyTrackingId .initiated) cancelledPatch =
              some table :=
          Table.exists_update? (fun _ => rfl) (fun _ => rfl)
            fun other _ _ isActive => absurd isActive
              ((Transaction.active_iff rfl).not.mpr (by decide))
        refine .inl ⟨_, table, Table.updateWhere_of_update? updated, ?_⟩
        exact hasStatus_of_update? updated member
          (by simp [hasIdAndStatus, initiated]) rfl rfl
      · intro later count has
        exact Machine.Attains.pure has
  | false =>
      refine Machine.Attains.bind (fun later _ =>
        HasStatus row.agencyTrackingId .failed later.table)
        (Machine.Attains.bind (fun later _ =>
          HasStatus row.agencyTrackingId .failed later.table) ?_ ?_) ?_
      · apply settles_query
        intro here _ _ locked
        obtain ⟨table, updated⟩ : ∃ table, after.table.update? instant
            (hasId row.agencyTrackingId)
            (failedPatch (some EXISTING_TOKEN_ERROR_CODE)
              (some EXISTING_TOKEN_RETURN_DETAIL)) = some table :=
          Table.exists_update? (fun _ => rfl) (fun _ => rfl)
            fun other _ _ isActive => absurd isActive
              ((Transaction.active_iff rfl).not.mpr (by decide))
        refine .inl ⟨_, table, Table.updateWhere_of_update? updated, ?_⟩
        exact hasStatus_of_update? updated member (by simp [hasId]) rfl rfl
      · intro later count has
        unfold TransactionModel.fetchPatched
        split
        · exact Machine.Attains.pure has
        · exact settles_read _ (fun _ => rfl) fun here sameTable =>
            sameTable ▸ has
      · intro later found has
        exact Machine.Attains.pure has

/-- A reusable token is handed out; otherwise the row is retired. -/
def Resolves (config : Config) (fee : ActiveFee) (instant : Int)
    (row : Transaction) (table after : Table)
    (result : Option InitPaymentResponse) : Prop :=
  (∃ token, reusableToken instant false row = some token ∧
      result = some (redirectTo config fee token) ∧ after = table) ∨
    (reusableToken instant false row = none ∧ result = none ∧
      HasStatus row.agencyTrackingId (retirement instant row) after)

theorem settles_resolveInFlightTransaction (member : row ∈ world.table.rows)
    (initiated : row.transactionStatus = some .initiated) :
    Settles config instant
      (fun after result =>
        Resolves config fee instant row world.table after.table result)
      Never (resolveInFlightTransaction config row fee) world := by
  refine Machine.Attains.bind (fun after now =>
    after.table = world.table ∧ now = instant) ?_ ?_
  · exact settles_dateNow fun here sameTable => ⟨sameTable, rfl⟩
  rintro after now ⟨sameTable, rfl⟩
  refine Machine.Attains.bind (fun later stale =>
    later.table = world.table ∧ stale = false) ?_ ?_
  · rw [readStaleProcessing, if_pos (by simp [initiated])]
    exact Machine.Attains.pure ⟨sameTable, rfl⟩
  rintro later stale ⟨laterTable, rfl⟩
  rw [if_neg (by simp [initiated])]
  cases reusable : reusableToken now false row with
  | some token =>
      exact Machine.Attains.pure (.inl ⟨token, reusable, rfl, laterTable⟩)
  | none =>
      rw [← laterTable] at member
      apply Machine.Attains.bind _ (settles_retire member initiated)
      intro retired value has
      exact Machine.Attains.pure (.inr ⟨reusable, rfl, has⟩)

/-- The lookup finds the `initiated` row of its obligation. -/
theorem lookup_eq_some {clientName transactionReferenceId : String}
    {table : Table} (member : row ∈ table.rows)
    (isObligation : row.obligation = ⟨clientName, transactionReferenceId⟩)
    (initiated : row.transactionStatus = some .initiated) :
    lookup clientName transactionReferenceId table = some row := by
  have active : row.Active :=
    (Transaction.active_iff initiated).mpr (by decide)
  cases found : lookup clientName transactionReferenceId table with
  | none =>
      have received := received_of_lookup found member isObligation active
      exact absurd (received.symm.trans initiated) (by simp)
  | some other =>
      obtain ⟨otherIn, otherObligation, status⟩ := mem_of_lookup found
      obtain ⟨reached, inFlight, has⟩ := Transaction.statusIn_iff.mp status
      have otherActive : other.Active :=
        (Transaction.active_iff has).mpr (List.mem_cons_of_mem _ inFlight)
      rw [table.eq_of_active otherIn member otherActive active
        (otherObligation.trans isObligation.symm)]

/-- What becomes of the row of the obligation in the short circuit. -/
theorem settles_handleIfPaymentProcessedOrPending
    (member : row ∈ world.table.rows)
    (initiated : row.transactionStatus = some .initiated)
    (isObligation :
      row.obligation = ⟨client.clientName, order.transactionReferenceId⟩) :
    Settles config instant
      (fun after result =>
        Resolves config fee instant row world.table after.table result)
      Never (handleIfPaymentProcessedOrPending config client.clientName
        order.transactionReferenceId fee) world := by
  refine Machine.Attains.bind (fun after found =>
    after.table = world.table ∧ found = some row) ?_ ?_
  · refine settles_read (some row) (fun locked => ?_)
      fun here sameTable => ⟨sameTable, rfl⟩
    exact congrArg (fun found => Except.ok (found, world.table))
      (lookup_eq_some member isObligation initiated)
  · rintro after found ⟨sameTable, rfl⟩
    dsimp only
    rw [initiated, ← sameTable]
    exact settles_resolveInFlightTransaction (sameTable ▸ member) initiated

/-- The request is for the obligation of the row and passes the checks. -/
structure Concerns (config : Config) (instant : Int) (client : ClientPermission)
    (order : InitPaymentRequest) (row : Transaction) : Prop where
  isObligation :
    row.obligation = ⟨client.clientName, order.transactionReferenceId⟩
  authorized : authorizeClient client order.fee = .ok ()
  resolves : ∃ fee,
    resolveFee config instant order.fee order.amount.isSome = .ok fee

/-- The checks are passed, and the short circuit is taken or not. -/
theorem settles_initPayment {returns : World → InitPaymentResponse → Prop}
    (member : row ∈ world.table.rows)
    (initiated : row.transactionStatus = some .initiated)
    (concerns : Concerns config instant client order row)
    (reused : ∀ fee token after, reusableToken instant false row = some token →
      after.table = world.table → returns after (redirectTo config fee token))
    (retired : ∀ fee after, reusableToken instant false row = none →
      HasStatus row.agencyTrackingId (retirement instant row) after.table →
        Settles config instant returns throws
          (startNewAttempt config client order fee) after) :
    Settles config instant returns throws (initPayment config client order)
      world := by
  refine Machine.Attains.bind (fun after _ => after = world) ?_ ?_
  · rw [concerns.authorized]
    exact Machine.Attains.computed rfl
  rintro same value rfl
  obtain ⟨fee, resolved⟩ := concerns.resolves
  refine Machine.Attains.bind (fun after result =>
    after.table = same.table ∧ result = fee) ?_ ?_
  · refine Machine.Attains.bind (fun after now =>
      after.table = same.table ∧ now = instant) ?_ ?_
    · exact settles_dateNow fun here sameTable => ⟨sameTable, rfl⟩
    · rintro after now ⟨sameTable, rfl⟩
      rw [resolved]
      exact Machine.Attains.computed ⟨sameTable, rfl⟩
  rintro after result ⟨sameTable, rfl⟩
  rw [← sameTable] at member
  refine Machine.Attains.bind _
    ((settles_handleIfPaymentProcessedOrPending member initiated
      concerns.isObligation).mono (fun _ _ holds => holds)
      fun _ _ impossible => False.elim impossible) ?_
  rintro later result
    (⟨token, reusable, rfl, laterTable⟩ | ⟨dead, rfl, has⟩)
  · exact Machine.Attains.pure
      (reused _ token later reusable (laterTable.trans sameTable))
  · exact retired _ later dead has

/-- The token of the row is handed out, and nothing is written. -/
theorem reuses_initPayment {token : String} (member : row ∈ world.table.rows)
    (initiated : row.transactionStatus = some .initiated)
    (concerns : Concerns config instant client order row)
    (reusable : reusableToken instant false row = some token) :
    Settles config instant
      (fun after session => session.token = token ∧ after.table = world.table)
      Never (initPayment config client order) world := by
  refine settles_initPayment member initiated concerns ?_ ?_
  · intro fee other after same sameTable
    exact ⟨Option.some.inj (same.symm.trans reusable), sameTable⟩
  · intro fee after dead
    exact absurd (dead.symm.trans reusable) (by simp)

/-- The row is retired, whatever becomes of the new attempt. -/
theorem retires_initPayment (member : row ∈ world.table.rows)
    (initiated : row.transactionStatus = some .initiated)
    (concerns : Concerns config instant client order row)
    (dead : reusableToken instant false row = none) :
    Settles config instant
      (fun after _ => HasStatus row.agencyTrackingId (retirement instant row)
        after.table)
      (fun after _ => HasStatus row.agencyTrackingId (retirement instant row)
        after.table)
      (initPayment config client order) world := by
  refine settles_initPayment member initiated concerns ?_ ?_
  · intro fee token after reusable
    exact absurd (dead.symm.trans reusable) (by simp)
  · rintro fee after _ ⟨retired, present, isId, has⟩
    exact (settles_startNewAttempt present).mono
      (fun _ _ still => ⟨retired, still, isId, has⟩)
      fun _ _ still => ⟨retired, still, isId, has⟩

end PaymentPortal.Protocol.InitCalm
