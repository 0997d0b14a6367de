import PaymentPortal.Protocol.Conditions
import PaymentPortal.Protocol.UseCases.Opening

/-!
# Competition for an obligation

What one operation of a competing `initPayment` does, while the database
answers: it records an attempt of its own, activates it or marks it failed, and
leaves all other rows of the obligation alone.  `Joined` is what the request
relies on in its phase: the session it has found is still open, and the attempt
it has recorded is still as it left it.
-/

namespace PaymentPortal.Protocol

open PaymentPortal.Interaction
open PaymentPortal.Model
open PaymentPortal.Model.InitPayment

namespace Opening

/-- The row is the attempt of a request in this phase, as it has left it. -/
def Owns : Opening → Transaction → Prop
  | .holding data, row => row.agencyTrackingId = data.agencyTrackingId ∧
      row.transactionStatus = some .received
  | .started data _, row => row.agencyTrackingId = data.agencyTrackingId ∧
      row.transactionStatus = some .received
  | .activated data token, row =>
      row.agencyTrackingId = data.agencyTrackingId ∧
        row.transactionStatus = some .initiated ∧
        row.paygovToken = some token ∧ token.length = 32
  | _, _ => False

/-- The id of the attempt of a request in this phase. -/
def owned? : Opening → Option String
  | .holding data => some data.agencyTrackingId
  | .started data _ => some data.agencyTrackingId
  | .activated data _ => some data.agencyTrackingId
  | _ => none

variable {phase : Opening} {row : Transaction}

theorem Owns.owned?_eq (owns : phase.Owns row) :
    phase.owned? = some row.agencyTrackingId := by
  cases phase with
  | holding data | started data token => exact congrArg some owns.1.symm
  | activated data token => exact congrArg some owns.1.symm
  | reading | weighing _ _ | abandoned | rejected | astray | stopped =>
      exact owns.elim

theorem owned?_of_held? {data : ReceivedTransactionParams}
    (held : phase.held? = some data) :
    phase.owned? = some data.agencyTrackingId := by
  cases phase with
  | holding other | started other token =>
      exact congrArg (Option.map _) held
  | reading | weighing _ _ | activated _ _ | abandoned | rejected | astray
  | stopped => exact absurd held (by simp [held?])

/-- A held attempt has not been answered for. -/
theorem Owns.received (owns : phase.Owns row)
    {data : ReceivedTransactionParams} (held : phase.held? = some data) :
    row.transactionStatus = some .received := by
  cases phase with
  | holding other | started other token => exact owns.2
  | reading | weighing _ _ | activated _ _ | abandoned | rejected | astray
  | stopped => exact absurd held (by simp [held?])

end Opening

/-- The row holds a session of the obligation that can be handed out. -/
structure Leads (world : World) (obligation : Obligation) (row : Transaction) :
    Prop where
  member : row ∈ world.table.rows
  obligation_eq : row.obligation = obligation
  initiated : row.transactionStatus = some .initiated
  token : ∃ token, row.paygovToken = some token ∧ token.length = 32

theorem Leads.active {world : World} {obligation : Obligation}
    {row : Transaction} (leads : Leads world obligation row) : row.Active :=
  (Transaction.active_iff leads.initiated).mpr (by decide)

/-- A row that leads the obligation is the only active one. -/
theorem Leads.eq_of_active {world : World} {obligation : Obligation}
    {row other : Transaction} (leads : Leads world obligation row)
    (member : other ∈ world.table.rows)
    (isObligation : other.obligation = obligation) (active : other.Active) :
    other = row :=
  world.table.eq_of_active member leads.member active leads.active
    (isObligation.trans leads.obligation_eq.symm)

/-- What a competing request relies on in its phase. -/
structure Joined (world : World) (obligation : Obligation) (phase : Opening) :
    Prop where
  followed : phase ≠ .astray
  owns : ∀ id ∈ phase.owned?, ∃ row ∈ world.table.rows,
    row.obligation = obligation ∧ row.agencyTrackingId = id ∧ phase.Owns row
  found : ∀ row clock, phase = .weighing row clock →
    Leads world obligation row ∧
      ∀ now ∈ clock, now - row.createdAt < MAX_TOKEN_AGE_MS

/-- What an operation of a competing request makes of the obligation. -/
structure Competed (obligation : Obligation) (before after : World)
    (phase later : Opening) : Prop where
  joined : Joined after obligation later
  kept : ∀ row ∈ before.table.rows, row.obligation = obligation →
    row.transactionStatus ≠ some .received ∨
      phase.owned? ≠ some row.agencyTrackingId →
    row ∈ after.table.rows
  stems : ∀ row ∈ after.table.rows, row.obligation = obligation →
    (row ∈ before.table.rows ∧ (phase.Owns row → later.Owns row)) ∨
      row.transactionStatus = some .failed ∨ later.Owns row
  fresh : ∀ id ∈ later.owned?, phase.owned? = some id ∨
    ∀ row ∈ before.table.rows, row.agencyTrackingId ≠ id

variable {obligation : Obligation} {before after world : World} {fate : Fate}
variable {phase later : Opening} {formats : XmlFormats}

/-- Phases in which nothing has been found and nothing is owned. -/
theorem joined_of_idle (followed : phase ≠ .astray)
    (unowned : phase.owned? = none)
    (unweighed : ∀ row clock, phase ≠ .weighing row clock) :
    Joined world obligation phase where
  followed := followed
  owns := fun id owned => absurd (unowned.symm.trans owned) (by simp)
  found := fun row clock weighing => absurd weighing (unweighed row clock)

/-- A request that weighs a row relies on that row alone. -/
theorem joined_weighing {row : Transaction} {clock : Option Int}
    (leads : Leads world obligation row)
    (young : ∀ now, clock = some now →
      now - row.createdAt < MAX_TOKEN_AGE_MS) :
    Joined world obligation (.weighing row clock) where
  followed := by simp
  owns := fun id owned => absurd owned (by simp [Opening.owned?])
  found := by
    intro found later weighing
    obtain ⟨rfl, rfl⟩ := Opening.weighing.inj weighing
    exact ⟨leads, young⟩

/-- An operation that leaves the table and the attempt alone. -/
theorem competed_of_same (table_eq : after.table = before.table)
    (joined : Joined after obligation later)
    (owned : later.owned? = phase.owned? ∨ later.owned? = none)
    (owns : ∀ row, phase.Owns row → later.Owns row) :
    Competed obligation before after phase later where
  joined := joined
  kept := fun row member _ _ => table_eq ▸ member
  stems := fun row member _ => .inl ⟨table_eq ▸ member, owns row⟩
  fresh := by
    intro id has
    rcases owned with same | none
    · exact .inl (same.symm.trans has)
    · exact absurd (none.symm.trans has) (by simp)

/-- The attempt of a phase that keeps it is still there. -/
theorem Joined.of_owns (joined : Joined before obligation phase)
    (table_eq : after.table = before.table) (followed : later ≠ .astray)
    (unweighed : ∀ row clock, later ≠ .weighing row clock)
    (owned : later.owned? = phase.owned?)
    (owns : ∀ row, phase.Owns row → later.Owns row) :
    Joined after obligation later where
  followed := followed
  owns := by
    intro id has
    obtain ⟨row, member, rest, isId, own⟩ := joined.owns id (owned ▸ has)
    exact ⟨row, table_eq ▸ member, rest, isId, owns row own⟩
  found := fun row clock weighing => absurd weighing (unweighed row clock)

/-! ## Statements -/

/-- A statement that is executed and fails has been rejected. -/
theorem rejected_of_exec {statement : Statement} {error : SqlState}
    (isExecuted : isExecuted fate = true)
    (executed : exec formats (.db statement) fate before =
      some (.error error, after)) :
    (∃ locked, statement.run before.now locked before.table = .error error) ∧
      after = before := by
  obtain ⟨_, isLocked⟩ := exists_locked isExecuted
  cases statementStep_of_execStatement executed with
  | rejected locked _ _ rejected => exact ⟨⟨locked, rejected⟩, rfl⟩
  | failed _ isFailed =>
      exact absurd (isFailed.symm.trans isLocked) (by simp)
  | replyLost _ _ _ isLost _ =>
      exact absurd (isLost.symm.trans isLocked) (by simp)

/-- The lookup finds rows in one of the statuses it looks for. -/
theorem statusIn_of_execLookup {clientName transactionReferenceId : String}
    {statuses : List TransactionStatus} {row : Transaction}
    (executed : execStatement (.findByReferenceIdAndTransactionStatus
      clientName transactionReferenceId statuses) fate before =
        some (.ok (some row), after)) : row.statusIn statuses = true := by
  obtain ⟨locked, ran, _⟩ := run_of_execStatement executed
  obtain ⟨found, _⟩ := Prod.mk.inj (Except.ok.inj ran)
  have selected := (Table.mem_select.mp (List.mem_of_head? found)).2
  exact (Bool.and_eq_true_iff.mp selected).2

/-- What an update that returned has made of the rows. -/
theorem rows_of_execUpdate {statement : Statement} {result : statement.Result}
    {selects : Transaction → Bool} {patch : Transaction → Transaction}
    (isUpdate : ∀ locked,
      statement.run before.now locked before.table =
          .ok (result, after.table) →
        before.table.update? before.now selects patch = some after.table)
    (executed : exec formats (.db statement) fate before =
      some (.ok result, after)) :
    after.table.rows =
      before.table.rows.map (Table.updateRow before.now selects patch) := by
  obtain ⟨locked, ran, _⟩ := run_of_execStatement executed
  exact Table.rows_of_update? (isUpdate locked ran)

/-- `UPDATE ... WHERE` that returned. -/
theorem update?_of_updateWhere {now : Int} {selects : Transaction → Bool}
    {patch : Transaction → Transaction} {table after : Table} {count : Nat}
    (updated : table.updateWhere now selects patch = .ok (count, after)) :
    table.update? now selects patch = some after := by
  unfold Table.updateWhere at updated
  split at updated
  · rename_i found isFound
    rw [isFound, (Prod.mk.inj (Except.ok.inj updated)).2]
  · exact absurd updated (by simp)

/-- A write of the attempt that the request holds. -/
theorem competed_of_update {data : ReceivedTransactionParams}
    {patch : Transaction → Transaction}
    (joined : Joined before obligation phase)
    (held : phase.held? = some data)
    (rows_eq : after.table.rows = before.table.rows.map
      (Table.updateRow before.now (hasId data.agencyTrackingId) patch))
    (decided : ∀ row, phase.Owns row →
      (set_last_updated_at before.now row (patch row)).transactionStatus =
          some .failed ∨
        later.Owns (set_last_updated_at before.now row (patch row)))
    (owned : later.owned? = phase.owned? ∨ later.owned? = none)
    (joinedAfter : Joined after obligation later) :
    Competed obligation before after phase later := by
  have isOwned := Opening.owned?_of_held? held
  obtain ⟨own, ownIn, ownObligation, ownId, owns⟩ := joined.owns _ isOwned
  have isOwn : ∀ row ∈ before.table.rows,
      row.agencyTrackingId = data.agencyTrackingId → row = own :=
    fun row member isId =>
      before.table.eq_of_id_eq member ownIn (isId.trans ownId.symm)
  have untouched : ∀ row : Transaction,
      row.agencyTrackingId ≠ data.agencyTrackingId →
        Table.updateRow before.now (hasId data.agencyTrackingId) patch row =
          row := by
    intro row different
    rw [Table.updateRow, if_neg]
    exact fun selected => different (beq_iff_eq.mp selected)
  have touched : Table.updateRow before.now (hasId data.agencyTrackingId) patch
      own = set_last_updated_at before.now own (patch own) :=
    if_pos (beq_iff_eq.mpr ownId)
  refine ⟨joinedAfter, ?_, ?_, ?_⟩
  · intro row member isObligation apart
    have different : row.agencyTrackingId ≠ data.agencyTrackingId := by
      intro isId
      obtain rfl := isOwn row member isId
      rcases apart with unreceived | unowned
      · exact unreceived (owns.received held)
      · exact unowned (isOwned.trans (congrArg some isId.symm))
    rw [rows_eq, ← untouched row different]
    exact List.mem_map_of_mem member
  · intro row member isObligation
    obtain ⟨old, oldIn, rfl⟩ := List.mem_map.mp (rows_eq ▸ member)
    by_cases isId : old.agencyTrackingId = data.agencyTrackingId
    · obtain rfl := isOwn old oldIn isId
      rw [touched]
      exact .inr (decided old owns)
    · rw [untouched old isId]
      refine .inl ⟨oldIn, fun own => ?_⟩
      have same := own.owned?_eq.symm.trans isOwned
      exact absurd (Option.some.inj same) isId
  · intro id has
    rcases owned with same | none
    · exact .inl (same.symm.trans has)
    · exact absurd (none.symm.trans has) (by simp)

/-- The attempt that is recorded. -/
theorem competed_of_insert {data : ReceivedTransactionParams}
    (isObligation : (receivedRow before.now data).obligation = obligation)
    (fresh : ∀ row ∈ before.table.rows,
      row.agencyTrackingId ≠ data.agencyTrackingId)
    (rows_eq : after.table.rows =
      before.table.rows ++ [receivedRow before.now data]) :
    Competed obligation before after .reading (.holding data) where
  joined := {
    followed := by simp
    owns := by
      intro id owned
      obtain rfl := Option.some.inj owned
      refine ⟨receivedRow before.now data, ?_, isObligation, rfl, rfl, rfl⟩
      rw [rows_eq]
      exact List.mem_append_right _ List.mem_cons_self
    found := fun row clock weighing => absurd weighing (by simp) }
  kept := by
    intro row member _ _
    rw [rows_eq]
    exact List.mem_append_left _ member
  stems := by
    intro row member _
    rcases List.mem_append.mp (rows_eq ▸ member) with old | new
    · exact .inl ⟨old, fun owns => owns.elim⟩
    · obtain rfl := List.mem_singleton.mp new
      exact .inr (.inr ⟨rfl, rfl⟩)
  fresh := by
    intro id owned
    obtain rfl := Option.some.inj owned
    exact .inr fresh

/-- A failure write of a row that the database does not reject. -/
theorem not_rejected_of_fail {id : String} {code : Option Int}
    {detail : Option String} {error : SqlState} {now : Int}
    {locked : List String} {table : Table} :
    (Statement.updateToFailed id code detail).run now locked table ≠
      .error error := by
  obtain ⟨after, updated⟩ : ∃ after, table.update? now (hasId id)
      (failedPatch code detail) = some after := by
    apply Table.exists_update?
    · exact fun row => rfl
    · exact fun row => rfl
    · intro row member selected active
      exact absurd active (by simp [Transaction.Active, Transaction.statusIn,
        failedPatch, Transaction.COVERED_STATUSES])
  simp [Statement.run, Table.updateWhere_of_update? updated]

/-- An activated attempt is as the request leaves it. -/
theorem owns_initiatedPatch {data : ReceivedTransactionParams} {token : String}
    {now : Int} {row : Transaction} (valid : token.length = 32)
    (isId : row.agencyTrackingId = data.agencyTrackingId) :
    (Opening.activated data token).Owns
      (set_last_updated_at now row (initiatedPatch token row)) := by
  rw [set_last_updated_at_stamped (by simp [initiatedPatch])]
  exact ⟨isId, rfl, rfl, valid⟩

/-- The activation of the attempt that the request holds. -/
theorem competed_of_activate {data : ReceivedTransactionParams}
    {token : String} {count : Nat} (valid : token.length = 32)
    (joined : Joined before obligation (.started data token))
    (executed : exec formats
      (.db (.updateToInitiated data.agencyTrackingId token)) fate before =
        some (.ok count, after)) :
    Competed obligation before after (.started data token)
      (.activated data token) := by
  have rows_eq : after.table.rows = before.table.rows.map
      (Table.updateRow before.now (hasId data.agencyTrackingId)
        (initiatedPatch token)) := by
    refine rows_of_execUpdate (fun locked ran => ?_) executed
    exact update?_of_updateWhere ran
  refine competed_of_update joined rfl rows_eq
    (fun row owns => .inr (owns_initiatedPatch valid owns.1)) (.inl rfl) ?_
  obtain ⟨own, ownIn, isObligation, isId, owns⟩ := joined.owns _ rfl
  refine ⟨by simp, ?_, by simp⟩
  intro id owned
  obtain rfl := Option.some.inj owned
  refine ⟨set_last_updated_at before.now own (initiatedPatch token own),
    ?_, ?_, ?_, owns_initiatedPatch valid isId⟩
  · rw [rows_eq]
    refine List.mem_map.mpr ⟨own, ownIn, ?_⟩
    exact if_pos (beq_iff_eq.mpr isId)
  · rw [set_last_updated_at_obligation]
    exact isObligation
  · rw [set_last_updated_at_agencyTrackingId]
    exact isId

/-- The failure write of the attempt that the request holds. -/
theorem competed_of_abandon {data : ReceivedTransactionParams}
    {code : Option Int} {detail : Option String} {count : Nat}
    (held : phase.held? = some data)
    (joined : Joined before obligation phase)
    (executed : exec formats
      (.db (.updateToFailed data.agencyTrackingId code detail)) fate before =
        some (.ok count, after)) :
    Competed obligation before after phase .abandoned := by
  have rows_eq : after.table.rows = before.table.rows.map
      (Table.updateRow before.now (hasId data.agencyTrackingId)
        (failedPatch code detail)) := by
    refine rows_of_execUpdate (fun locked ran => ?_) executed
    exact update?_of_updateWhere ran
  refine competed_of_update joined held rows_eq ?_ (.inr rfl)
    (joined_of_idle (by simp) rfl (by simp))
  exact fun row owns => .inl (by simp [failedPatch])

/-- The session of a young row is handed out again. -/
theorem Leads.reusable {row : Transaction} {now : Int}
    (leads : Leads world obligation row)
    (young : now - row.createdAt < MAX_TOKEN_AGE_MS) :
    reusableToken now false row ≠ none := by
  obtain ⟨token, hasToken, valid⟩ := leads.token
  have nonempty : token ≠ "" := by
    rintro rfl
    exact absurd valid (by decide)
  simp [reusableToken, hasToken, nonempty, young]

/-! ## Operations -/

section Operations

variable {client : ClientPermission} {order : InitPaymentRequest}

/-- A row that the lookup has found leads the obligation. -/
theorem leads_of_execLookup {row : Transaction}
    (standing : ∀ row ∈ before.table.rows,
      row.obligation = ⟨client.clientName, order.transactionReferenceId⟩ →
        row.Active → row.transactionStatus = some .received ∨
          Leads before ⟨client.clientName, order.transactionReferenceId⟩ row)
    (executed : exec formats (.db (.findByReferenceIdAndTransactionStatus
      client.clientName order.transactionReferenceId IN_FLIGHT_OR_PAID)) fate
        before = some (.ok (some row), after)) :
    Leads before ⟨client.clientName, order.transactionReferenceId⟩ row ∧
      after = before := by
  obtain ⟨member, isObligation, same⟩ := mem_of_execLookup executed
  obtain ⟨status, listed, has⟩ :=
    Transaction.statusIn_iff.mp (statusIn_of_execLookup executed)
  have covered :
      status ∈ Transaction.COVERED_STATUSES ∧ status ≠ .received := by
    revert listed
    cases status <;> decide
  have active := (Transaction.active_iff has).mpr covered.1
  rcases standing row member isObligation active with received | leads
  · exact absurd (Option.some.inj (has.symm.trans received)) covered.2
  · exact ⟨leads, same⟩

/-- One operation of a competing request, while the database answers. -/
theorem competed_of_opens {op : Op} {reply : Reply op}
    (opens : Opens (.initPayment client order) phase op reply later)
    (executed : exec formats op fate before = some (reply, after))
    (answered : ∀ statement, op = .db statement → isExecuted fate = true)
    (joined : Joined before
      ⟨client.clientName, order.transactionReferenceId⟩ phase)
    (standing : ∀ row ∈ before.table.rows,
      row.obligation = ⟨client.clientName, order.transactionReferenceId⟩ →
        row.Active → row.transactionStatus = some .received ∨
          Leads before ⟨client.clientName, order.transactionReferenceId⟩ row)
    (young : ∀ row ∈ before.table.rows,
      row.obligation = ⟨client.clientName, order.transactionReferenceId⟩ →
        row.transactionStatus = some .initiated →
          before.now - row.createdAt < MAX_TOKEN_AGE_MS) :
    Competed ⟨client.clientName, order.transactionReferenceId⟩ before after
      phase later := by
  cases opens with
  | other another => exact absurd another (by simp [obligation?])
  | prepare passive =>
      obtain rfl := same_of_passive passive executed
      exact competed_of_same rfl joined (.inl rfl) fun _ owns => owns
  | look initiated =>
      obtain ⟨leads, rfl⟩ := leads_of_execLookup standing executed
      refine competed_of_same rfl ?_ (.inr rfl) fun _ owns => owns.elim
      exact joined_weighing leads fun now isNow => absurd isNow (by simp)
  | lookElsewhere uninitiated =>
      obtain ⟨leads, _⟩ := leads_of_execLookup standing executed
      exact absurd leads.initiated uninitiated
  | @lookMissed _ _ reply missed =>
      have same : after = before := by
        rcases reply with error | found
        · exact (rejected_of_exec (answered _ rfl) executed).2
        · obtain ⟨locked, ran, same⟩ := run_of_execStatement executed
          rw [same, ← (Prod.mk.inj (Except.ok.inj ran)).2]
      subst same
      exact competed_of_same rfl joined (.inl rfl) fun _ owns => owns
  | @clock _ _ row earlier now =>
      obtain ⟨leads, _⟩ := joined.found row earlier rfl
      obtain ⟨rfl, rfl⟩ := now_of_exec executed
      refine competed_of_same rfl ?_ (.inr rfl) fun _ owns => owns.elim
      apply joined_weighing leads
      rintro now isNow
      obtain rfl := Option.some.inj isNow
      exact young _ leads.member leads.obligation_eq leads.initiated
  | stray dead =>
      obtain ⟨leads, clock⟩ := joined.found _ _ rfl
      exact absurd dead (leads.reusable (clock _ rfl))
  | insert fits =>
      obtain ⟨fresh, rows_eq⟩ := inserted_of_exec executed
      refine competed_of_insert ?_ fresh rows_eq
      simp [Transaction.obligation, receivedRow, fits.clientName,
        fits.transactionReferenceId]
  | insertFailed =>
      obtain ⟨_, rfl⟩ := rejected_of_exec (answered _ rfl) executed
      exact competed_of_same rfl
        (joined_of_idle (by simp) rfl (by simp)) (.inr rfl)
        fun _ owns => owns.elim
  | readBack =>
      obtain rfl := same_of_passive (by trivial) executed
      exact competed_of_same rfl joined (.inl rfl) fun _ owns => owns
  | unread =>
      obtain ⟨⟨locked, rejected⟩, _⟩ :=
        rejected_of_exec (answered _ rfl) executed
      exact absurd rejected (by simp [Statement.run])
  | start =>
      have same := (fetchStep_of_execFetch executed).table_eq
      exact competed_of_same same
        (joined.of_owns same (by simp) (by simp) rfl fun _ owns => owns)
        (.inl rfl) fun _ owns => owns
  | unstarted =>
      have same := (fetchStep_of_execFetch executed).table_eq
      exact competed_of_same same
        (joined.of_owns same (by simp) (by simp) rfl fun _ owns => owns)
        (.inl rfl) fun _ owns => owns
  | activate valid =>
      exact competed_of_activate valid joined executed
  | unactivated =>
      obtain ⟨_, rfl⟩ := rejected_of_exec (answered _ rfl) executed
      exact competed_of_same rfl
        (joined.of_owns rfl (by simp) (by simp) rfl fun _ owns => owns)
        (.inl rfl) fun _ owns => owns
  | abandon held =>
      exact competed_of_abandon held joined executed
  | unabandoned held =>
      obtain ⟨⟨locked, rejected⟩, _⟩ :=
        rejected_of_exec (answered _ rfl) executed
      exact absurd rejected not_rejected_of_fail
  | closing closing passive =>
      obtain rfl := same_of_passive passive executed
      exact competed_of_same rfl joined (.inl rfl) fun _ owns => owns
  | astray => exact absurd rfl joined.followed

end Operations

end PaymentPortal.Protocol
