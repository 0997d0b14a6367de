import PaymentPortal.Interaction.Traces
import PaymentPortal.Protocol.History
import PaymentPortal.Protocol.UseCases.Consultation

/-!
# What a consulting call has done

`Remembered` says for every phase of a `getDetails` call what the trace of the
call is: which rows it was given, the HTTP attempts of its one query, and
whether it has changed anything.  Coherent rows leave it only one row to
refresh, so the call never fans out and its read behind the write finds a row.
-/

namespace PaymentPortal.Protocol

open PaymentPortal.Interaction
open PaymentPortal.Model
open PaymentPortal.Model.GetDetails

/-- The operation is one HTTP attempt. -/
def isAttempt (entry : LogEntry) : Bool :=
  match entry.op with
  | .fetch _ => true
  | _ => false

/-- The HTTP attempts of a trace. -/
def attempts (trace : List LogEntry) : List LogEntry :=
  trace.filter isAttempt

/-- An HTTP attempt to which Pay.gov's answer has arrived. -/
def isAnswered : LogEntry → Bool
  | ⟨_, .fetch _, .ok _, _, _⟩ => true
  | _ => false

/-- A statement for which the caller has got an error. -/
def isFailed : LogEntry → Bool
  | ⟨_, .db _, .error _, _, _⟩ => true
  | _ => false

/-- A statement that fails though it, or the write before it, has committed. -/
structure FailsCommitted (entry : LogEntry) : Prop where
  failed : isFailed entry = true
  committed : entry.after ≠ entry.before ∨
    ∃ agencyTrackingId, entry.op = .db (.findById agencyTrackingId)

/-- The operations have left the world alone. -/
def Idle (trace : List LogEntry) : Prop :=
  ∀ entry ∈ trace, entry.after = entry.before

/-- The entry is a survey that returned `rows` to its caller. -/
def Surveys (entry : LogEntry) (rows : List Transaction) : Prop :=
  ∃ caller transactionReferenceId before after,
    entry = ⟨caller, .db (.findByReferenceId transactionReferenceId),
      .ok rows, before, after⟩

/-- The rows are those of one transaction reference in an earlier world. -/
structure Surveyed (config : Config) (world : World)
    (rows : List Transaction) : Prop where
  found : ∃ earlier ≤ world, (∀ row ∈ rows, Coherent config earlier row) ∧
    ∃ transactionReferenceId, rows = earlier.table.select fun row =>
      row.transactionReferenceId == transactionReferenceId

/-- The HTTP attempts are those of the query; the newest may be answered. -/
structure Asked (config : Config) (trace : List LogEntry) (query : Query) :
    Prop where
  fits : query.Fits config
  surveyed : ∃ entry ∈ trace, Surveys entry query.rows
  same : ∀ entry ∈ attempts trace, entry.op = .fetch query.soap
  bounded : (attempts trace).length ≤ PAYGOV_MAX_ATTEMPTS
  retried : ∀ entry ∈ (attempts trace).tail, isAnswered entry = false

/-- Pay.gov has been asked one query, if any. -/
def Consulted (config : Config) (trace : List LogEntry) : Prop :=
  attempts trace = [] ∨ ∃ query, Asked config trace query

/-- What a refresh that has come this far has changed. -/
def Effect (trace : List LogEntry) : Progress → Prop
  | .unanswered => Idle trace
  | .rejected => Idle trace
  | .answered _ => Idle trace
  | .unstored => Idle trace ∨ ∃ entry ∈ trace, FailsCommitted entry
  | .missed => Idle trace
  | .written => True
  | .unread => ∃ entry ∈ trace, FailsCommitted entry
  | .lost => False
  | .returned => True

/-- What the trace of a `getDetails` call is in a phase. -/
inductive Remembered (config : Config) (trace : List LogEntry) :
    Consultation → Prop where
  | reading (unasked : attempts trace = []) (idle : Idle trace) :
      Remembered config trace .reading
  | surveyed {rows : List Transaction}
      (surveyed : ∃ entry ∈ trace, Surveys entry rows)
      (unasked : attempts trace = []) (idle : Idle trace) :
      Remembered config trace (.surveyed rows)
  | asking {query : Query} {progress : Progress}
      (asked : Asked config trace query)
      (unanswered : progress = .unanswered →
        ∀ entry ∈ attempts trace, isAnswered entry = false)
      (effect : Effect trace progress) :
      Remembered config trace
        (.asking query (attempts trace).length progress)
  | stopped (consulted : Consulted config trace) :
      Remembered config trace .stopped

variable {config : Config} {trace : List LogEntry} {entry : LogEntry}
variable {before after world : World} {fate : Fate} {phase next : Consultation}

/-! ## Traces -/

theorem attempts_cons_of_fetch {caller : Nat} {soap : SoapRequest}
    {reply : Reply (.fetch soap)} :
    attempts (⟨caller, .fetch soap, reply, before, after⟩ :: trace) =
      ⟨caller, .fetch soap, reply, before, after⟩ :: attempts trace :=
  rfl

theorem Idle.cons (idle : Idle trace) (same : entry.after = entry.before) :
    Idle (entry :: trace) := by
  intro other member
  rcases List.mem_cons.mp member with rfl | old
  · exact same
  · exact idle other old

/-- A statement changes neither what was surveyed nor what was asked. -/
theorem Asked.statement {query : Query} {caller : Nat} {statement : Statement}
    {reply : Reply (.db statement)} (asked : Asked config trace query) :
    Asked config (⟨caller, .db statement, reply, before, after⟩ :: trace)
      query where
  fits := asked.fits
  surveyed := by
    obtain ⟨entry, member, surveys⟩ := asked.surveyed
    exact ⟨entry, List.mem_cons_of_mem _ member, surveys⟩
  same := asked.same
  bounded := asked.bounded
  retried := asked.retried

/-- Whatever phase the call is in, it has asked at most one query. -/
theorem Remembered.consulted (remembered : Remembered config trace phase) :
    Consulted config trace := by
  cases remembered with
  | reading unasked idle => exact .inl unasked
  | surveyed surveyed unasked idle => exact .inl unasked
  | asking asked unanswered effect => exact .inr ⟨_, asked⟩
  | stopped consulted => exact consulted

/-! ## Surveyed rows -/

/-- The refreshed row is one of those surveyed. -/
theorem Query.Fits.row_mem {query : Query} (fits : query.Fits config) :
    query.row ∈ query.rows := by
  have refreshed : query.row ∈ query.rows.filter needsRefresh := by
    rw [fits.single]
    exact List.mem_singleton_self _
  exact List.mem_of_mem_filter refreshed

/-- A survey returns the rows of its transaction reference. -/
theorem rows_of_execFindByReferenceId {transactionReferenceId : String}
    {rows : List Transaction}
    (executed : execStatement (.findByReferenceId transactionReferenceId) fate
      before = some (.ok rows, after)) :
    rows = before.table.select fun row =>
      row.transactionReferenceId == transactionReferenceId := by
  obtain ⟨locked, ran, _⟩ := run_of_execStatement executed
  exact (Prod.mk.inj (Except.ok.inj ran)).1.symm

/-- What a logged survey has returned was found in the world before it. -/
theorem Lawful.surveyed {request : Request} {rows : List Transaction}
    (lawful : Lawful config request entry) (surveys : Surveys entry rows)
    (later : entry.after ≤ world) : Surveyed config world rows := by
  have earlier := lawful.le.trans later
  have coherent := lawful.coherent
  obtain ⟨stage, next, fate, _, _, executed⟩ := lawful.performed
  obtain ⟨caller, transactionReferenceId, before, after, rfl⟩ := surveys
  have found := rows_of_execFindByReferenceId executed
  refine ⟨before, earlier, fun row member => ?_, _, found⟩
  rw [found] at member
  exact coherent row (Table.mem_select.mp member).1

/-- Among coherent rows, those that are refreshed are pending. -/
theorem pending_of_needsRefresh {row : Transaction}
    (coherent : Coherent config world row)
    (refreshed : needsRefresh row = true) :
    row.transactionStatus = some .pending := by
  obtain ⟨trackingId, refreshes⟩ := Option.isSome_iff_exists.mp refreshed
  have tracked := paygovTrackingId_of_refreshId refreshes
  have unsettled : isTerminal row.transactionStatus = false := by
    by_contra terminal
    rw [Bool.not_eq_false] at terminal
    simp [refreshId, tracked, terminal] at refreshes
  rcases coherent.untracked (by simp [tracked]) with
    pending | processed | failed
  · exact pending
  · exact absurd unsettled (by simp [processed, isTerminal, TERMINAL_STATUSES])
  · exact absurd unsettled (by simp [failed, isTerminal, TERMINAL_STATUSES])

/-- Where one row at most is pending, one at most is refreshed. -/
theorem Surveyed.length_filter_le {rows : List Transaction}
    (surveyed : Surveyed config world rows) :
    (rows.filter needsRefresh).length ≤
      (rows.filter fun row => row.transactionStatus == some .pending).length := by
  obtain ⟨earlier, _, coherent, _⟩ := surveyed.found
  rw [← List.countP_eq_length_filter, ← List.countP_eq_length_filter]
  apply List.countP_mono_left
  intro row member refreshed
  exact beq_iff_eq.mpr (pending_of_needsRefresh (coherent row member) refreshed)

/-- Surveyed rows are attempts of one transaction reference. -/
theorem Surveyed.reference_eq {rows : List Transaction}
    (surveyed : Surveyed config world rows) {first second : Transaction}
    (firstIn : first ∈ rows) (secondIn : second ∈ rows) :
    first.transactionReferenceId = second.transactionReferenceId := by
  obtain ⟨earlier, _, _, transactionReferenceId, rfl⟩ := surveyed.found
  have firstOf := (Table.mem_select.mp firstIn).2
  have secondOf := (Table.mem_select.mp secondIn).2
  exact (beq_iff_eq.mp firstOf).trans (beq_iff_eq.mp secondOf).symm

/-- A surveyed row is still there. -/
theorem Surveyed.exists_current {rows : List Transaction}
    (surveyed : Surveyed config world rows) {row : Transaction}
    (member : row ∈ rows) :
    ∃ current ∈ world.table.rows, row.Evolves current := by
  obtain ⟨earlier, later, _, transactionReferenceId, rfl⟩ := surveyed.found
  exact later.rows row (Table.mem_select.mp member).1

/-! ## One operation of the call -/

section Step

variable {client : ClientPermission} {order : GetDetailsRequest}
variable {query : Query} {caller : Nat} {formats : XmlFormats}

/-- A survey leaves the world alone. -/
theorem same_of_survey {transactionReferenceId : String}
    {reply : Reply (.db (.findByReferenceId transactionReferenceId))}
    (executed : exec formats (.db (.findByReferenceId transactionReferenceId))
      fate before = some (reply, after)) : after = before := by
  apply same_of_passive _ executed
  trivial

/-- A query about a payment leaves the world alone. -/
theorem same_of_query {reply : Reply (.fetch query.soap)}
    (executed : exec formats (.fetch query.soap) fate before =
      some (reply, after)) :
    after = before := by
  cases fetchStep_of_execFetch executed with
  | same same => exact same
  | issued _ _ _ impossible _ _ => exact absurd impossible (by simp [Query.soap])
  | completed _ _ _ _ _ impossible _ _ _ =>
      exact absurd impossible (by simp [Query.soap])

/-- One more HTTP attempt. -/
theorem Remembered.asked (caller : Nat) {reply : Reply (.fetch query.soap)}
    (fits : query.Fits config)
    (surveyed : ∃ entry ∈ trace, Surveys entry query.rows)
    (same : ∀ entry ∈ attempts trace, entry.op = .fetch query.soap)
    (left : (attempts trace).length < PAYGOV_MAX_ATTEMPTS)
    (unanswered : ∀ entry ∈ attempts trace, isAnswered entry = false)
    (idle : Idle trace)
    (executed : exec formats (.fetch query.soap) fate before =
      some (reply, after)) :
    Remembered config
      (⟨caller, .fetch query.soap, reply, before, after⟩ :: trace)
      (.asking query ((attempts trace).length + 1) (.ofReply reply)) := by
  rw [← List.length_cons, ← attempts_cons_of_fetch]
  refine .asking ⟨fits, ?_, ?_, ?_, ?_⟩ ?_ ?_
  · obtain ⟨entry, member, surveys⟩ := surveyed
    exact ⟨entry, List.mem_cons_of_mem _ member, surveys⟩
  · intro entry member
    rcases List.mem_cons.mp member with rfl | old
    · rfl
    · exact same entry old
  · exact left
  · exact unanswered
  · intro isUnanswered entry member
    rcases List.mem_cons.mp member with rfl | old
    · cases reply with
      | error error => rfl
      | ok text =>
          cases text <;>
            exact absurd isUnanswered (by simp [Progress.ofReply])
    · exact unanswered entry old
  · have same := same_of_query executed
    have still : Idle
        (⟨caller, .fetch query.soap, reply, before, after⟩ :: trace) :=
      idle.cons same
    cases reply with
    | error error => exact still
    | ok text => cases text <;> exact still

/-- The write of the answer takes effect, misses every row or fails. -/
theorem effect_of_store {id : String} {patch : PayGovResponsePatch}
    {reply : Reply (.db (.updateAfterPayGovResponse id patch))}
    (idle : Idle trace)
    (executed : exec formats (.db (.updateAfterPayGovResponse id patch)) fate
      before = some (reply, after)) :
    Effect (⟨caller, .db (.updateAfterPayGovResponse id patch), reply, before,
      after⟩ :: trace) (.ofUpdate reply) := by
  rcases reply with error | (_ | count)
  · by_cases same : after = before
    · exact .inl (idle.cons same)
    · exact .inr ⟨_, List.mem_cons_self, rfl, .inl same⟩
  · obtain ⟨locked, ran, same⟩ := run_of_execStatement executed
    simp only [Statement.run, Table.updateWhere] at ran
    split at ran
    · rename_i table updated
      obtain ⟨none, sameTable⟩ := Prod.mk.inj (Except.ok.inj ran)
      have unselected : ∀ row ∈ before.table.rows, hasId id row = false := by
        intro row member
        simpa using List.filter_eq_nil_iff.mp
          (List.eq_nil_of_length_eq_zero none) row member
      rw [Table.update?_of_unselected unselected] at updated
      obtain rfl := Option.some.inj updated
      refine idle.cons ?_
      rw [same, ← sameTable]
    · exact absurd ran (by simp)
  · trivial

/-- The read behind the write finds a row that was surveyed. -/
theorem effect_of_readBack {id : String} {reply : Reply (.db (.findById id))}
    (present : ∃ row ∈ before.table.rows, row.agencyTrackingId = id)
    (executed : exec formats (.db (.findById id)) fate before =
      some (reply, after)) :
    Effect (⟨caller, .db (.findById id), reply, before, after⟩ :: trace)
      (.ofRead reply) := by
  rcases reply with error | (_ | row)
  · exact ⟨_, List.mem_cons_self, rfl, .inr ⟨id, rfl⟩⟩
  · obtain ⟨locked, ran, _⟩ := run_of_execStatement executed
    have missing := (Prod.mk.inj (Except.ok.inj ran)).1
    obtain ⟨row, member, isId⟩ := present
    have unselected := List.find?_eq_none.mp missing row member
    exact absurd (beq_iff_eq.mpr isId) unselected
  · trivial

theorem ofUpdate_ne_unanswered (reply : Except SqlState Nat) :
    Progress.ofUpdate reply ≠ .unanswered := by
  rcases reply with error | (_ | count) <;> simp [Progress.ofUpdate]

theorem ofRead_ne_unanswered (reply : Except SqlState (Option Transaction)) :
    Progress.ofRead reply ≠ .unanswered := by
  rcases reply with error | (_ | row) <;> simp [Progress.ofRead]

/-- What an operation of the call adds to what its trace is. -/
theorem Remembered.step {op : Op} {reply : Reply op}
    (remembered : Remembered config trace phase)
    (consults : Consults config (.getDetails client order) phase op reply next)
    (known : ∀ entry ∈ trace, ∀ rows, Surveys entry rows →
      Surveyed config before rows)
    (executed : exec formats op fate before = some (reply, after)) :
    Remembered config (⟨caller, op, reply, before, after⟩ :: trace) next := by
  cases consults with
  | other notDetails => exact absurd rfl (notDetails client order)
  | survey =>
      cases remembered with
      | reading unasked idle =>
          exact .surveyed
            ⟨_, List.mem_cons_self, caller, _, before, after, rfl⟩ unasked
            (idle.cons (same_of_survey executed))
  | unsurveyed =>
      cases remembered with
      | reading unasked idle =>
          exact .reading unasked (idle.cons (same_of_survey executed))
  | ask fits =>
      cases remembered with
      | surveyed surveyed unasked idle =>
          have asked := Remembered.asked caller fits surveyed
            (by simp [unasked]) (by simp [unasked, PAYGOV_MAX_ATTEMPTS])
            (by simp [unasked]) idle executed
          rwa [unasked] at asked
  | retry left =>
      cases remembered with
      | asking asked unanswered effect =>
          exact Remembered.asked caller asked.fits asked.surveyed asked.same left
            (unanswered rfl) effect executed
  | store =>
      cases remembered with
      | asking asked unanswered effect =>
          exact .asking asked.statement
            (fun isUnanswered => absurd isUnanswered (ofUpdate_ne_unanswered _))
            (effect_of_store effect executed)
  | readBack =>
      cases remembered with
      | asking asked unanswered effect =>
          obtain ⟨entry, member, surveys⟩ := asked.surveyed
          obtain ⟨current, currentIn, evolves⟩ :=
            (known entry member _ surveys).exists_current asked.fits.row_mem
          exact .asking asked.statement
            (fun isUnanswered => absurd isUnanswered (ofRead_ne_unanswered _))
            (effect_of_readBack ⟨current, currentIn, evolves.id_eq⟩ executed)
  | fan several pending =>
      cases remembered with
      | surveyed surveyed unasked idle =>
          obtain ⟨entry, member, surveys⟩ := surveyed
          have few := (known entry member _ surveys).length_filter_le
          exact absurd (several.trans_le (few.trans pending)) (lt_irrefl 1)
  | fanned => cases remembered

end Step

/-! ## Runs -/

/-- What is remembered of a request: `getDetails` only is followed. -/
def Remembers (config : Config) (request : Request) (trace : List LogEntry)
    (phase : Consultation) : Prop :=
  ∀ client order, request = .getDetails client order →
    Remembered config trace phase

/-- What has been surveyed was found in an earlier world. -/
theorem surveyed_of_reaches {allowed : PortalState → PortalMove → Prop}
    {now : Int} {state : PortalState}
    (reaches : Reachable config allowed now state) (member : entry ∈ state.log)
    {rows : List Transaction} (surveys : Surveys entry rows) :
    Surveyed config state.world rows := by
  obtain ⟨annotated, rfl, recorded⟩ := exists_recorded reaches
  obtain ⟨request, _, lawful⟩ := recorded.lawful entry member
  exact lawful.surveyed surveys (recorded.chronological.present entry member)

/-- Every run can be annotated with what its consulting calls have done. -/
theorem exists_remembered {allowed : PortalState → PortalMove → Prop}
    {now : Int} {state : PortalState}
    (reaches : Reachable config allowed now state) :
    ∃ phased : Phased (consultation config) concludes World,
      phased.state = state ∧ Traced (Remembers config) phased := by
  refine Machine.exists_invariant_of_reaches .stopped portal_consults
    (traced_initial _) ?_ reaches
  intro source target reached traced step
  apply step.traced traced
  · intro request client order isDetails
    exact .reading rfl fun entry member => absurd member (by simp)
  · intro request trace phase remembers client order isDetails
    exact .stopped (remembers client order isDetails).consulted
  · rintro caller fate _ op reply phase after executed moved remembers client
      order rfl
    refine (remembers client order rfl).step moved ?_ executed
    intro entry member rows surveys
    exact surveyed_of_reaches reached (State.mem_trace.mp member).1 surveys

end PaymentPortal.Protocol
