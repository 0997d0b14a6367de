import PaymentPortal.Interaction.Continuity
import PaymentPortal.Protocol.Conditions
import PaymentPortal.Protocol.History

/-!
# Acquired rows

A request acquires a row when it reads, inserts or claims it, and bases its
later writes on what it found then.  `Acquired` says that the log holds the
newest acquisition of every row that a request is working on, and that the row
was in flight at that moment.
-/

namespace PaymentPortal.Protocol

open PaymentPortal.Interaction
open PaymentPortal.Model

/-- The row that a reply hands to the request, or that it has inserted. -/
def acquired? : (op : Op) → Reply op → Option String
  | .db (.findByReferenceIdAndTransactionStatus _ _ _), .ok (some row) =>
      some row.agencyTrackingId
  | .db (.findByPaygovToken _), .ok (some row) => some row.agencyTrackingId
  | .db (.claimForProcessing _), .ok (.ok (some row)) =>
      some row.agencyTrackingId
  | .db (.createReceived data), .ok _ => some data.agencyTrackingId
  | _, _ => none

/-- The caller acquires the row by this entry. -/
def acquires (caller : Nat) (id : String) (entry : LogEntry) : Bool :=
  entry.caller == caller && acquired? entry.op entry.reply == some id

/-- The row that a request in this stage may write to. -/
def Stage.held? : Stage → Option String
  | .weighing row _ => some row.agencyTrackingId
  | .collecting data => some data.agencyTrackingId
  | .activating data _ => some data.agencyTrackingId
  | .abandoning data => some data.agencyTrackingId
  | .completing row => some row.agencyTrackingId
  | .persisting row _ => some row.agencyTrackingId
  | .failing row => some row.agencyTrackingId
  | _ => none

@[simp]
theorem Stage.held?_unlessFailed {next : Stage} (unheld : next.held? = none)
    (result : Except SqlState Nat) :
    (next.unlessFailed result).held? = none := by
  cases result with
  | error error => rfl
  | ok count => exact unheld

theorem Stage.held?_of_owned? {stage : Stage} {data : ReceivedTransactionParams}
    (owned : stage.owned? = some data) :
    stage.held? = some data.agencyTrackingId := by
  cases stage with
  | collecting own | activating own _ | abandoning own =>
      obtain rfl := Option.some.inj owned
      rfl
  | reading | weighing _ _ | loaded _ | completing _ | persisting _ _
  | failing _ | outrun | refreshing _ _ | closing | stopped =>
      exact absurd owned (by simp [Stage.owned?])

/-- The row is in a status that Pay.gov has not answered in. -/
def InFlight (row : Transaction) : Prop :=
  row.transactionStatus = some .received ∨
    row.transactionStatus = some .initiated ∨
    row.transactionStatus = some .processing

/-- The row with this id is in flight. -/
def InFlightIn (world : World) (id : String) : Prop :=
  ∃ row ∈ world.table.rows, row.agencyTrackingId = id ∧ InFlight row

variable {config : Config} {request : Request} {stage next : Stage}
variable {op : Op} {reply : Reply op} {fate : Fate} {before after : World}
variable {formats : XmlFormats}

theorem acquired?_of_passive (passive : IsPassive op) :
    acquired? op reply = none := by
  cases op with
  | now | pick | generateAgencyTrackingId => rfl
  | fetch soap => rfl
  | db statement =>
      cases statement with
      | findById _ | findByReferenceId _
      | findPendingOrProcessedByReferenceId _ _ => rfl
      | createReceived _ | updateToInitiated _ _ | findByPaygovToken _
      | updateAfterPayGovResponse _ _ | updateAfterPayGovResponseIf _ _ _
      | claimForProcessing _ | findByReferenceIdAndTransactionStatus _ _ _
      | updateToFailed _ _ _ | cancelExpiredBatch _ | updateToCancelled _ =>
          exact absurd passive id

/-- A row is held because it was before, or because it has been acquired. -/
theorem held_of_permitted {id : String}
    (permitted : Permitted config request stage op reply next)
    (executed : exec formats op fate before = some (reply, after))
    (held : next.held? = some id) :
    (stage.held? = some id ∧ acquired? op reply = none) ∨
      (acquired? op reply = some id ∧ InFlightIn after id) := by
  cases permitted with
  | passive _ passive => exact .inl ⟨held, acquired?_of_passive passive⟩
  | look inFlight =>
      obtain ⟨member, _, rfl⟩ := mem_of_execLookup executed
      exact .inr ⟨held, _, member, Option.some.inj held, .inr inFlight⟩
  | insert fits =>
      have member := receivedRow_mem_of_exec executed
      exact .inr ⟨held, _, member, Option.some.inj held, .inl rfl⟩
  | claim resolved =>
      obtain ⟨row, _, _, _, rfl, member⟩ := claimed_of_exec executed
      exact .inr ⟨held, _, member, Option.some.inj held, .inr (.inr rfl)⟩
  | clock | start _ | startUnanswered _ | activateFailed _ | complete
  | completeUnanswered _ | persistFailed => exact .inl ⟨held, rfl⟩
  | retire _ | abandon _ | failFee _ | markFailed | markUnrecorded =>
      rw [Stage.held?_unlessFailed rfl] at held
      exact absurd held (by simp)
  | lookMissed | cancel _ _ _ | insertFailed _ | activate _ | load | loadMissed
  | claimFailed _ _ | persist | outrun | survey | answer _ _ | unanswered _ _
  | store _ | sweep => exact absurd held (by simp [Stage.held?])

/-- The log holds the newest acquisition of every held row. -/
def Acquired (annotated : Annotated config) : Prop :=
  ∀ (caller : Nat) stage id, annotated.phases[caller]? = some stage →
    stage.held? = some id →
      ∃ entry, annotated.state.log.find? (acquires caller id) = some entry ∧
        InFlightIn entry.after id

theorem acquired_initial (world : World) :
    Acquired (.initial world : Annotated config) :=
  fun caller stage id holds => absurd holds (by simp [Phased.initial])

variable {allowed : PortalState → PortalMove → Prop}
variable {source target : Annotated config}

/-- Every move keeps the acquisitions. -/
theorem Acquired.step (acquired : Acquired source)
    (step : AnnotatedStep config allowed source target) : Acquired target := by
  cases step with
  | arrive request permitted state_eq phases_eq =>
      intro caller stage id holds held
      rw [phases_eq] at holds
      rw [state_eq]
      rcases getElem?_append_singleton_cases holds with before | rfl
      · exact acquired caller stage id before held
      · exact absurd held (by simp [Stage.held?])
  | perform caller fate request op next reply world stage after permitted
      running holds executed moved state_eq phases_eq =>
      intro other otherStage id otherHolds held
      rw [phases_eq] at otherHolds
      rw [state_eq]
      rcases getElem?_set_cases otherHolds with
        ⟨rfl, rfl⟩ | ⟨different, otherWas⟩
      · rcases held_of_permitted moved executed held with
          ⟨before, nothing⟩ | ⟨taken, inFlight⟩
        · obtain ⟨entry, found, inFlight⟩ :=
            acquired other stage id holds before
          refine ⟨entry, ?_, inFlight⟩
          rw [List.find?_cons_of_neg (by simp [acquires, nothing])]
          exact found
        · refine ⟨_, List.find?_cons_of_pos ?_, inFlight⟩
          simp [acquires, taken]
      · obtain ⟨entry, found, inFlight⟩ :=
          acquired other otherStage id otherWas held
        refine ⟨entry, ?_, inFlight⟩
        rw [List.find?_cons_of_neg (by simp [acquires, different.symm])]
        exact found
  | crash caller request op next permitted running state_eq phases_eq =>
      intro other stage id holds held
      rw [phases_eq] at holds
      rw [state_eq]
      rcases getElem?_set_cases holds with ⟨_, rfl⟩ | ⟨_, before⟩
      · exact absurd held (by simp [Stage.held?])
      · exact acquired other stage id before held
  | drift change world permitted drifted state_eq phases_eq =>
      intro caller stage id holds held
      rw [phases_eq] at holds
      rw [state_eq]
      exact acquired caller stage id holds held

/-- Drift does not touch the table. -/
theorem table_eq_of_drift {change : Drift}
    (drifted : drift change before = some after) :
    after.table = before.table := by
  cases change <;> obtain rfl := Option.some.inj drifted <;> rfl

/-- Why a request may write a failure to a row. -/
theorem held_of_failure {id : String} {code : Option Int}
    {detail : Option String}
    {reply : Reply (.db (.updateToFailed id code detail))}
    (permitted : Permitted config request stage
      (.db (.updateToFailed id code detail)) reply next) :
    stage.held? = some id ∨ ∃ row error, stage = .loaded row ∧
      row.agencyTrackingId = id ∧
      getActiveFee config row.fee (some row.createdAt) = .error error := by
  cases permitted with
  | passive _ passive => exact False.elim passive
  | retire dead => exact .inl rfl
  | abandon owned => exact .inl (Stage.held?_of_owned? owned)
  | failFee unresolved => exact .inr ⟨_, _, rfl, rfl, unresolved⟩
  | markFailed => exact .inl rfl
  | markUnrecorded => exact .inl rfl

end PaymentPortal.Protocol
