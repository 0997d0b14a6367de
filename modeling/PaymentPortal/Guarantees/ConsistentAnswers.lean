import PaymentPortal.Guarantees.StatusPairs
import PaymentPortal.Interaction.Continuity
import PaymentPortal.Protocol.Accounted
import PaymentPortal.Protocol.Acquisition

/-!
# Answers of `processPayment`

The payment status that `processPayment` answers with is the one derived from
the attempts it lists, if the transaction reference belongs to one client, if
nobody steps between its write of the status and its final read, and if it
marks a row `failed` after a refusal only while no other attempt of the
obligation is active.

The use case does not ensure the latter: the failure write asks for no status,
and another request may have retired the row and opened a new attempt.
-/

namespace PaymentPortal.Guarantees

open PaymentPortal.Interaction
open PaymentPortal.Model
open PaymentPortal.Protocol
open PaymentPortal.Model.ProcessPayment

/-- The attempt whose status an operation of `processPayment` decides. -/
def decides? : Op → Option String
  | .db (.updateAfterPayGovResponseIf id _ _) => some id
  | .db (.updateToFailed id _ _) => some id
  | _ => none

/-- The caller's write of the status of an attempt. -/
def isDecision (caller : Nat) (entry : LogEntry) : Bool :=
  entry.caller == caller && (decides? entry.op).isSome

/-- Nobody has stepped between the caller's decision and its last operation. -/
def ReportsAtOnce (state : PortalState) (caller : Nat) : Prop :=
  ∀ entry ∈ since (isDecision caller)
      (state.log.dropWhile fun entry => !(entry.caller == caller)),
    (entry.caller == caller) = true

instance (state : PortalState) (caller : Nat) :
    Decidable (ReportsAtOnce state caller) :=
  inferInstanceAs (Decidable (∀ _ ∈ _, _ = true))

/-- One client only has used the reference of the token's attempt. -/
def SoleClient (table : Table) (token : String) : Prop :=
  ∀ row ∈ table.rows, row.paygovToken = some token →
    ∀ other ∈ table.rows,
      other.transactionReferenceId = row.transactionReferenceId →
        other.clientName = row.clientName

instance (table : Table) (token : String) :
    Decidable (SoleClient table token) :=
  inferInstanceAs (Decidable (∀ _ ∈ _, _ → ∀ _ ∈ _, _ → _))

/-- The table in which the caller has last looked has one client. -/
def LooksAlone (state : PortalState) (caller : Nat) (token : String) : Prop :=
  ∀ entry ∈ (state.trace caller).head?, SoleClient entry.before.table token

instance (state : PortalState) (caller : Nat) (token : String) :
    Decidable (LooksAlone state caller token) :=
  inferInstanceAs (Decidable (∀ _ ∈ _, _))

/-- The attempt that is about to be marked `failed` after a refusal. -/
def refused? (state : PortalState) (caller : Nat) : Op → Option String
  | .db (.updateToFailed id _ _) =>
      match (state.trace caller).head? with
      | some ⟨_, .fetch (.completeOnlineCollectionWithDetails ..), .ok text, _,
          _⟩ => if IsFault text then some id else none
      | _ => none
  | _ => none

/-- A refused attempt is the last one of its obligation that is active. -/
def FailsLast (state : PortalState) (caller : Nat) (op : Op) (_ : Fate) :
    Prop :=
  ∀ id ∈ refused? state caller op, ∀ row ∈ state.world.table.rows,
    row.agencyTrackingId = id → ∀ other ∈ state.world.table.rows,
      other.obligation = row.obligation → other.agencyTrackingId ≠ id →
        ¬ other.Active

instance (state : PortalState) (caller : Nat) (op : Op) (fate : Fate) :
    Decidable (FailsLast state caller op fate) :=
  inferInstanceAs (Decidable
    (∀ _ ∈ _, ∀ _ ∈ _, _ → ∀ _ ∈ _, _ → _ → ¬ _))

/-- The status is the one derived from the attempts of the answer. -/
def Consistent (response : PaymentResponse) : Prop :=
  response.paymentStatus = derivePaymentStatus
    (response.transactions.map fun summary => some summary.transactionStatus)

instance (response : PaymentResponse) : Decidable (Consistent response) :=
  inferInstanceAs (Decidable (_ = _))

/-- The attempt has been decided, and no other one of its obligation stands. -/
structure Decided (table : Table) (id : String) (status : TransactionStatus)
    (row : Transaction) : Prop where
  member : row ∈ table.rows
  isId : row.agencyTrackingId = id
  status_eq : row.transactionStatus = some status
  alone : ∀ other ∈ table.rows, other.obligation = row.obligation →
    other.agencyTrackingId ≠ id → ¬ other.Active

variable {config : Config} {now : Int} {state : PortalState}
variable {allowed : PortalState → PortalMove → Prop}
variable {caller : Nat} {entry : LogEntry} {request : Request}

/-! ## The write -/

/-- A decision makes no other row than its own. -/
theorem mem_of_decision (lawful : Lawful config request entry) {id : String}
    (decides : decides? entry.op = some id) {row : Transaction}
    (member : row ∈ entry.after.table.rows)
    (other : row.agencyTrackingId ≠ id) : row ∈ entry.before.table.rows := by
  by_contra new
  rcases lawful.added_cases member new with
    ⟨data, isInsert, _⟩ | ⟨old, oldIn, owner, statement, isOp, rewrite⟩
  · exact absurd decides (by simp [isInsert, decides?])
  · have sameId := (rewrite.evolves (lawful.coherent old oldIn)).id_eq
    rw [isOp] at decides
    cases rewrite with
    | failed isId _ | stored isId _ _ _ =>
        exact other (sameId.trans (isId.trans (Option.some.inj decides)))
    | activated _ _ _ _ | refreshed _ _ _ _ | claimed _ _ _ | swept _ _
    | cancelled _ _ _ => exact absurd decides (by simp [decides?])

/-- An answer is stored in the one row of the obligation that is active. -/
theorem exists_decided_of_recorded (lawful : Lawful config request entry)
    {id : String} {patch : PayGovResponsePatch} {stored : Transaction}
    (logs : Logs entry (.db (.updateAfterPayGovResponseIf id patch .processing))
      (.ok (some stored))) :
    ∃ row, Decided entry.after.table id patch.transactionStatus row := by
  have upwards := lawful.le
  obtain ⟨caller, before, after, rfl⟩ := logs
  obtain ⟨_, _, _, _, _, executed⟩ := lawful.performed
  obtain ⟨storedIn, isId, status_eq, found, foundIn, foundId, processing⟩ :=
    stored_of_exec executed
  have evolves := upwards.evolved foundIn storedIn (isId.trans foundId.symm)
  have foundActive : found.Active :=
    (Transaction.active_iff processing).mpr (by decide)
  refine ⟨stored, storedIn, isId, status_eq, ?_⟩
  intro other otherIn sameObligation different active
  obtain rfl := before.table.eq_of_active
    (mem_of_decision lawful rfl otherIn different) foundIn active foundActive
    (sameObligation.trans evolves.obligation_eq)
  exact different foundId

/-- A failure write marks its row; the others are as inactive as before. -/
theorem exists_decided_of_marked (lawful : Lawful config request entry)
    {id : String} {code : Option Int} {detail : Option String} {count : Nat}
    (logs : Logs entry (.db (.updateToFailed id code detail)) (.ok count))
    {row : Transaction} (member : row ∈ entry.before.table.rows)
    (isId : row.agencyTrackingId = id)
    (alone : ∀ other ∈ entry.before.table.rows,
      other.obligation = row.obligation → other.agencyTrackingId ≠ id →
        ¬ other.Active) :
    ∃ later, Decided entry.after.table id .failed later := by
  have upwards := lawful.le
  obtain ⟨caller, before, after, rfl⟩ := logs
  obtain ⟨_, _, _, _, _, executed⟩ := lawful.performed
  obtain ⟨later, laterIn, laterId, failed⟩ :=
    failed_of_exec executed row member isId
  have evolves := upwards.evolved member laterIn (laterId.trans isId.symm)
  refine ⟨later, laterIn, laterId, failed, ?_⟩
  intro other otherIn sameObligation different
  exact alone other (mem_of_decision lawful rfl otherIn different)
    (sameObligation.trans evolves.obligation_eq) different

/-! ## The read -/

/-- Rows that are not active have been resolved without success. -/
theorem resolved_of_inactive {world : World} {row : Transaction}
    (coherent : Coherent config world row) (inactive : ¬ row.Active) :
    row.transactionStatus = some .failed ∨
      row.transactionStatus = some .cancelled := by
  obtain ⟨status, has, _⟩ := coherent.status
  rw [Transaction.active_iff has] at inactive
  rw [has]
  cases status <;> simp_all [Transaction.COVERED_STATUSES]

/-- The status of a coherent row is the one that its summary shows. -/
theorem summary_status {world : World} {row : Transaction}
    (coherent : Coherent config world row) :
    some (toTransactionRecordSummary row).transactionStatus =
      row.transactionStatus := by
  obtain ⟨status, has, _⟩ := coherent.status
  simp [toTransactionRecordSummary, has]

/-- The rows of the reference of a decided attempt add up to its status. -/
theorem consistent_of_decided {world : World}
    (coherent : ∀ row ∈ world.table.rows, Coherent config world row)
    {row : Transaction} {status : TransactionStatus}
    (decided : Decided world.table row.agencyTrackingId status row)
    (sole : ∀ other ∈ world.table.rows,
      other.transactionReferenceId = row.transactionReferenceId →
        other.clientName = row.clientName) {rows : List Transaction}
    (surveyed : ∀ other, other ∈ rows ↔ other ∈ world.table.rows ∧
      other.transactionReferenceId = row.transactionReferenceId) :
    Consistent ⟨derivePaymentStatusFromSingleTransaction status,
      rows.map toTransactionRecordSummary⟩ := by
  have shown : (rows.map toTransactionRecordSummary).map
      (fun summary => some summary.transactionStatus) =
        rows.map Transaction.transactionStatus := by
    rw [List.map_map]
    exact List.map_congr_left fun other member =>
      summary_status (coherent other ((surveyed other).mp member).1)
  rw [Consistent, shown]
  symm
  apply derivePaymentStatus_of_resolved
  · rw [← decided.status_eq]
    exact List.mem_map_of_mem ((surveyed row).mpr ⟨decided.member, rfl⟩)
  · intro found member
    obtain ⟨other, otherIn, rfl⟩ := List.mem_map.mp member
    obtain ⟨inTable, sameReference⟩ := (surveyed other).mp otherIn
    by_cases sameId : other.agencyTrackingId = row.agencyTrackingId
    · obtain rfl := world.table.eq_of_id_eq inTable decided.member sameId
      exact .inl decided.status_eq
    · right
      apply resolved_of_inactive (coherent other inTable)
      apply decided.alone other inTable _ sameId
      rw [Transaction.obligation, Transaction.obligation, sameReference,
        sole other inTable sameReference]

/-! ## The operations of a request that reports -/

/-- The table changes by logged operations only. -/
theorem linked_of_reaches (reaches : Reachable config allowed now state) :
    Linked World.table state.log state.world := by
  obtain ⟨annotated, rfl, linked⟩ : ∃ annotated : Annotated config,
      annotated.state = state ∧
        Linked World.table annotated.state.log annotated.state.world :=
    exists_annotated trivial (fun _ _ linked step =>
      step.linked (fun _ _ _ => table_eq_of_drift) linked) reaches
  exact linked

/-- The attempt that a request has claimed is still there. -/
theorem exists_row_of_claimed (reaches : Reachable config allowed now state)
    {token : String} {row : Transaction}
    (claimed : ∃ claim ∈ state.log, Returns claim token row) :
    ∃ current ∈ state.world.table.rows, row.Evolves current ∧
      current.paygovToken = some token := by
  obtain ⟨claim, member, returns⟩ := claimed
  obtain ⟨⟨_, _, lawful⟩, present⟩ := lawful_of_reaches reaches member
  have claims := lawful.claims_of_returns returns
  obtain ⟨_, hasToken, _⟩ := lawful.processing_of_claims claims
  obtain ⟨current, currentIn, evolves⟩ := present.rows row claims.added
  exact ⟨current, currentIn, evolves, evolves.token token hasToken⟩

theorem op_of_writes {token : String} {row : Transaction} {write : LogEntry}
    {older : List LogEntry} {paymentStatus : PaymentStatus}
    (writes : Writes token row write older paymentStatus) :
    decides? write.op = some row.agencyTrackingId := by
  cases writes with
  | recorded logs | marked logs _ =>
      obtain ⟨_, _, _, rfl⟩ := logs
      rfl

/-- A failure write after a refusal is one of the refused attempt. -/
theorem refused?_of_faulted {token id : String} {code : Option Int}
    {detail : Option String}
    (faulted : Faulted token (state.trace caller)) :
    refused? state caller (.db (.updateToFailed id code detail)) = some id := by
  obtain ⟨entry, rest, tcsAppId, text, trace_eq, isFault, logs⟩ := faulted
  obtain ⟨other, before, after, rfl⟩ := logs
  unfold refused?
  rw [trace_eq]
  simp [isFault]

/-- The write of a request leaves its attempt decided. -/
theorem exists_decided_of_writes
    (reaches : Reachable config (Machine.OnSteps FailsLast) now state)
    {newer earlier : List LogEntry} {write : LogEntry}
    (split : state.log = newer ++ write :: earlier) {token : String}
    {row : Transaction} {paymentStatus : PaymentStatus}
    (claimed : ∃ claim ∈ earlier, Returns claim token row)
    (writes : Writes token row write
      (earlier.filter fun entry => entry.caller == write.caller)
      paymentStatus) :
    ∃ decided status,
      Decided write.after.table row.agencyTrackingId status decided ∧
        paymentStatus = derivePaymentStatusFromSingleTransaction status := by
  have member : write ∈ state.log := by
    rw [split]
    exact List.mem_append_cons_self
  obtain ⟨⟨_, _, lawful⟩, _⟩ := lawful_of_reaches reaches member
  cases writes with
  | recorded logs =>
      obtain ⟨decided, isDecided⟩ := exists_decided_of_recorded lawful logs
      exact ⟨decided, _, isDecided, rfl⟩
  | @marked code detail count logs faulted =>
      obtain ⟨found, fate, passes⟩ := Machine.exists_passes reaches rfl split
      obtain ⟨request, next, running⟩ := passes.running
      have alone := passes.permitted.of_running running
      rw [← passes.log_eq] at claimed faulted
      obtain ⟨current, currentIn, evolves, _⟩ :=
        exists_row_of_claimed passes.reached claimed
      have isOp : write.op =
          .db (.updateToFailed row.agencyTrackingId code detail) := by
        obtain ⟨_, _, _, rfl⟩ := logs
        rfl
      rw [isOp] at alone
      have others := alone row.agencyTrackingId (refused?_of_faulted faulted)
        current currentIn evolves.id_eq
      rw [passes.world_eq] at currentIn others
      obtain ⟨decided, isDecided⟩ := exists_decided_of_marked lawful logs
        currentIn evolves.id_eq others
      exact ⟨decided, .failed, isDecided, rfl⟩

/-- The operations since the claim of an attempt are no claims. -/
theorem claim_mem_older {token other : String} {row : Transaction}
    {survey write : LogEntry} {confirms older : List LogEntry}
    {paymentStatus : PaymentStatus} {rows : List Transaction}
    (claimed : ∃ claim ∈ survey :: (confirms ++ write :: older),
      Returns claim token row)
    (surveys : Logs survey (.db (.findByReferenceId other)) (.ok rows))
    (reads : ∀ entry ∈ confirms, ∃ reply,
      Logs entry (.db (.findById row.agencyTrackingId)) reply)
    (writes : Writes token row write older paymentStatus) :
    ∃ claim ∈ older, Returns claim token row := by
  obtain ⟨claim, member, returns⟩ := claimed
  have isClaim : claim.op = .db (.claimForProcessing token) := by
    obtain ⟨_, _, _, rfl⟩ := returns
    rfl
  rcases List.mem_cons.mp member with rfl | among
  · obtain ⟨_, _, _, rfl⟩ := surveys
    exact absurd isClaim (by simp)
  rcases List.mem_append.mp among with isConfirm | rest
  · obtain ⟨_, _, _, _, rfl⟩ := reads claim isConfirm
    exact absurd isClaim (by simp)
  rcases List.mem_cons.mp rest with rfl | found
  · have decides := op_of_writes writes
    rw [isClaim] at decides
    exact absurd decides (by simp [decides?])
  · exact ⟨claim, found, returns⟩

theorem own_of_isDecision (isOne : isDecision caller entry = true) :
    (entry.caller == caller) = true :=
  (Bool.and_eq_true_iff.mp isOne).1

/-- A request that reports at once has the log for itself since its write. -/
theorem exists_segment (atOnce : ReportsAtOnce state caller)
    {survey write : LogEntry} {confirms older : List LogEntry}
    (trace_eq : state.trace caller = survey :: (confirms ++ write :: older))
    (surveyReads : decides? survey.op = none)
    (confirmsRead : ∀ entry ∈ confirms, decides? entry.op = none)
    (writes : (decides? write.op).isSome) :
    ∃ newer earlier,
      state.log = newer ++ survey :: (confirms ++ write :: earlier) ∧
        earlier.filter (fun entry => entry.caller == caller) = older := by
  obtain ⟨newer, log, split, foreign, own, rest⟩ :=
    List.filter_eq_cons_iff.mp trace_eq
  have writeOwn : (write.caller == caller) = true := by
    have member : write ∈ state.trace caller := by simp [trace_eq]
    exact beq_iff_eq.mpr (State.mem_trace.mp member).2
  have looked : state.log.dropWhile (fun entry => !(entry.caller == caller)) =
      survey :: log := by
    rw [split, List.dropWhile_append_of_pos, List.dropWhile_cons_of_neg]
    · simp [own]
    · exact fun entry member => by simpa using foreign entry member
  rw [ReportsAtOnce, looked, since_cons_of_unmarked
    (by simp [isDecision, surveyReads])] at atOnce
  obtain ⟨earlier, rfl, isOlder⟩ := append_of_since
    (fun other => own_of_isDecision) (by simp [isDecision, writeOwn, writes]) rest
    (fun entry member => by simp [isDecision, confirmsRead entry member])
    fun entry member => atOnce entry (List.mem_cons_of_mem _ member)
  exact ⟨newer, earlier, split, isOlder⟩

/-- What the write has left is what the survey has found. -/
theorem table_eq_of_segment (reaches : Reachable config allowed now state)
    {newer confirms earlier : List LogEntry} {survey write : LogEntry}
    (split : state.log = newer ++ survey :: (confirms ++ write :: earlier))
    {id : String}
    (reads : ∀ entry ∈ confirms, ∃ reply,
      Logs entry (.db (.findById id)) reply) :
    write.after.table = survey.before.table := by
  have linked := linked_of_reaches reaches
  rw [split] at linked
  refine linked.older.view_eq fun entry member => ?_
  have logged : entry ∈ state.log := by
    rw [split]
    simp [member]
  obtain ⟨⟨_, _, lawful⟩, _⟩ := lawful_of_reaches reaches logged
  obtain ⟨_, _, _, _, rfl⟩ := reads entry member
  obtain ⟨_, _, _, _, _, executed⟩ := lawful.performed
  have passive : IsPassive (.db (.findById id)) := trivial
  rw [same_of_passive passive executed]

/-- The survey right after the write finds the token's attempt decided. -/
theorem exists_decided_of_segment
    (reaches : Reachable config (Machine.OnSteps FailsLast) now state)
    {newer confirms earlier : List LogEntry} {survey write : LogEntry}
    (split : state.log = newer ++ survey :: (confirms ++ write :: earlier))
    {token : String} {row : Transaction} {paymentStatus : PaymentStatus}
    (claimed : ∃ claim ∈ earlier, Returns claim token row)
    (reads : ∀ entry ∈ confirms, ∃ reply,
      Logs entry (.db (.findById row.agencyTrackingId)) reply)
    (writes : Writes token row write
      (earlier.filter fun entry => entry.caller == write.caller)
      paymentStatus) :
    ∃ decided status, row.Evolves decided ∧ decided.paygovToken = some token ∧
      Decided survey.before.table decided.agencyTrackingId status decided ∧
      paymentStatus = derivePaymentStatusFromSingleTransaction status := by
  have writeSplit :
      state.log = (newer ++ survey :: confirms) ++ write :: earlier := by
    rw [split]
    simp
  obtain ⟨decided, status, isDecided, rfl⟩ :=
    exists_decided_of_writes reaches writeSplit claimed writes
  rw [table_eq_of_segment reaches split reads] at isDecided
  obtain ⟨found, fate, passes⟩ := Machine.exists_passes reaches rfl split
  have foundClaim : ∃ claim ∈ found.log, Returns claim token row := by
    obtain ⟨claim, member, returns⟩ := claimed
    rw [passes.log_eq]
    exact ⟨claim, by simp [member], returns⟩
  obtain ⟨current, currentIn, evolves, hasToken⟩ :=
    exists_row_of_claimed passes.reached foundClaim
  rw [passes.world_eq] at currentIn
  obtain rfl := survey.before.table.eq_of_id_eq isDecided.member currentIn
    (isDecided.isId.trans evolves.id_eq.symm)
  exact ⟨decided, status, evolves, hasToken, evolves.id_eq ▸ isDecided, rfl⟩

/-- An account of a survey right after the write is consistent. -/
theorem consistent_of_surveyed
    (reaches : Reachable config (Machine.OnSteps FailsLast) now state)
    {token : String} {row : Transaction} {rows : List Transaction}
    {survey : LogEntry} {rest : List LogEntry} {paymentStatus : PaymentStatus}
    (claimed : ∃ claim ∈ state.trace caller, Returns claim token row)
    (trace_eq : state.trace caller = survey :: rest)
    (surveys : Logs survey (.db (.findByReferenceId row.transactionReferenceId))
      (.ok rows))
    (settled : Settled token rest row paymentStatus)
    (sole : SoleClient survey.before.table token)
    (atOnce : ReportsAtOnce state caller) :
    Consistent ⟨paymentStatus, rows.map toTransactionRecordSummary⟩ := by
  obtain ⟨confirms, write, older, rfl, reads, writes⟩ := settled
  rw [trace_eq] at claimed
  obtain ⟨claim, claimIn, returns⟩ :=
    claim_mem_older claimed surveys reads writes
  obtain ⟨newer, earlier, split, rfl⟩ := exists_segment atOnce trace_eq
    (by obtain ⟨_, _, _, rfl⟩ := surveys; rfl)
    (fun entry member => by obtain ⟨_, _, _, _, rfl⟩ := reads entry member; rfl)
    (by rw [op_of_writes writes]; rfl)
  have writeIn : write ∈ state.trace caller := by simp [trace_eq]
  obtain rfl := (State.mem_trace.mp writeIn).2
  obtain ⟨decided, status, evolves, hasToken, isDecided, rfl⟩ :=
    exists_decided_of_segment reaches split
      ⟨claim, (List.mem_filter.mp claimIn).1, returns⟩ reads writes
  have surveyIn : survey ∈ state.log := by
    rw [split]
    exact List.mem_append_cons_self
  obtain ⟨⟨_, _, lawful⟩, _⟩ := lawful_of_reaches reaches surveyIn
  have coherent := lawful.coherent
  obtain ⟨_, before, after, rfl⟩ := surveys
  obtain ⟨_, _, _, _, _, executed⟩ := lawful.performed
  have surveyed := (mem_execFindByReferenceId executed).1
  rw [← evolves.transactionReferenceId_eq] at surveyed
  exact consistent_of_decided coherent isDecided
    (sole decided isDecided.member hasToken) surveyed

/--
In every run in which a refused attempt is marked only as the last active one of
its obligation, the status that `processPayment` answers with is the one derived
from the attempts of the answer, if the reference has one client and nobody
steps between the write of the status and the final read.
-/
theorem response_consistent
    (reaches : Reachable config (Machine.OnSteps FailsLast) now state)
    {client : ClientPermission} {order : ProcessPaymentRequest}
    {response : PaymentResponse}
    (isRequest : requestOf? state caller = some (.processPayment client order))
    (answered : state.calls[caller]? >>= Call.result? =
      some (.ok (.payment response)))
    (sole : LooksAlone state caller order.token)
    (atOnce : ReportsAtOnce state caller) : Consistent response := by
  obtain ⟨account, reports, accounted⟩ :=
    exists_answers reaches isRequest answered
  obtain ⟨paymentStatus, rows, rfl, rfl⟩ := reports
  cases accounted with
  | surveyed claimed trace_eq surveys settled =>
      exact consistent_of_surveyed reaches claimed trace_eq surveys settled
        (sole _ (by rw [trace_eq]; rfl)) atOnce

/-! ## Sample runs -/

/-- The payment that a call has answered with, if it has. -/
def returnedPayment? (state : PortalState) (caller : Nat) :
    Option PaymentResponse :=
  match state.calls[caller]? >>= Call.result? with
  | some (.ok (.payment response)) => some response
  | _ => none

theorem returnedPayment?_eq_some {response : PaymentResponse}
    (returned : returnedPayment? state caller = some response) :
    state.calls[caller]? >>= Call.result? = some (.ok (.payment response)) := by
  unfold returnedPayment? at returned
  split at returned
  · rename_i answered
    rw [answered, Option.some.inj returned]
  · exact absurd returned (by simp)

/-- What a payment shows of the attempts. -/
def shown (response : PaymentResponse) :
    PaymentStatus × List TransactionStatus :=
  (response.paymentStatus,
    response.transactions.map fun summary => summary.transactionStatus)

/-- Pay.gov refuses the completion, and the caller answers. -/
def isRefused (caller : Nat) : List PortalMove :=
  meets caller [
    .refused (.fault (.service "Card declined" 4001)) .delivered, .executed [],
    .executed [], .executed []]

/-- The claim of an attempt that nobody else is about is refused. -/
def refusedAlone : List PortalMove :=
  initiates 0 "A1" firstToken ++ claims 1 firstToken ++ isRefused 1

/-- The request has answered as it says, right after its write. -/
def AnsweredAtOnce (state : PortalState) (caller : Nat) (token : String) :
    Prop :=
  requestOf? state caller = some (.processPayment sampleClient ⟨token⟩) ∧
    LooksAlone state caller token ∧ ReportsAtOnce state caller

instance (state : PortalState) (caller : Nat) (token : String) :
    Decidable (AnsweredAtOnce state caller token) :=
  inferInstanceAs (Decidable (_ ∧ _ ∧ _))

/-- The refused claim is the only attempt of the answer. -/
theorem response_consistent_sample : ∃ state response,
    (portal sampleConfig).replay (Machine.OnSteps FailsLast) refusedAlone
      (.initial (World.fresh sampleNow)) = some state ∧
    returnedPayment? state 1 = some response ∧
    shown response = (.failed, [.failed]) ∧ Consistent response := by
  have replayed : (((portal sampleConfig).replay (Machine.OnSteps FailsLast)
      refusedAlone (.initial (World.fresh sampleNow))).map fun state =>
        ((returnedPayment? state 1).map shown,
          decide (AnsweredAtOnce state 1 firstToken))) =
      some (some (.failed, [.failed]), true) := by
    decide
  obtain ⟨state, reached, found⟩ := Option.map_eq_some_iff.mp replayed
  obtain ⟨returned, answered⟩ := Prod.mk.inj found
  obtain ⟨response, isResponse, isShown⟩ := Option.map_eq_some_iff.mp returned
  obtain ⟨isRequest, sole, atOnce⟩ := of_decide_eq_true answered
  exact ⟨state, response, reached, isResponse, isShown,
    response_consistent (Machine.reaches_of_replay reached) isRequest
      (returnedPayment?_eq_some isResponse) sole atOnce⟩

/-- A stale claim is retired and a new attempt opened, then it is refused. -/
def refusedLate : List PortalMove :=
  initiates 0 "A1" firstToken ++ claims 1 firstToken ++
    .drift (.tick 600000) ::
    .arrive (.initPayment sampleClient sampleOrder) :: meets 2 [
      .read, .executed [], .read, .read, .executed [], .executed [],
      .generated "A2", .executed [], .executed [],
      .issued secondToken .delivered, .executed []] ++ isRefused 1

/--
The refused claim answers with `failed`, but the attempts of the answer, of
which one is open, add up to `pending`.
-/
theorem response_consistent_fails : ∃ state response,
    Reachable sampleConfig Machine.Unrestricted sampleNow state ∧
      requestOf? state 1 = some (.processPayment sampleClient ⟨firstToken⟩) ∧
      state.calls[1]? >>= Call.result? = some (.ok (.payment response)) ∧
      LooksAlone state 1 firstToken ∧ ReportsAtOnce state 1 ∧
      shown response = (.failed, [.failed, .initiated]) ∧
      ¬ Consistent response := by
  have replayed : (((portal sampleConfig).replay Machine.Unrestricted
      refusedLate (.initial (World.fresh sampleNow))).map fun state =>
        ((returnedPayment? state 1).map fun response =>
          (shown response, decide (Consistent response)),
          decide (AnsweredAtOnce state 1 firstToken))) =
      some (some ((.failed, [.failed, .initiated]), false), true) := by
    decide
  obtain ⟨state, reached, found⟩ := Option.map_eq_some_iff.mp replayed
  obtain ⟨returned, answered⟩ := Prod.mk.inj found
  obtain ⟨response, isResponse, found⟩ := Option.map_eq_some_iff.mp returned
  obtain ⟨isShown, inconsistent⟩ := Prod.mk.inj found
  obtain ⟨isRequest, sole, atOnce⟩ := of_decide_eq_true answered
  exact ⟨state, response, Machine.reaches_of_replay reached, isRequest,
    returnedPayment?_eq_some isResponse, sole, atOnce, isShown,
    of_decide_eq_false inconsistent⟩

end PaymentPortal.Guarantees
