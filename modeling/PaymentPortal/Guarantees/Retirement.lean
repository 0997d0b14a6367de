import PaymentPortal.Guarantees.FinalSuccess

/-!
# Retirement of dead attempts

`initPayment` retires the row it has read by cancelling it or by marking it
`failed`.  It retires dead attempts only, and none that a `processPayment` has
written to in between, in every run in which nobody else writes to a row between
the read and an effective failure write, and no session marked `failed` was just
`MAX_TOKEN_AGE_MS` old when the clock was read.

The cancelling write checks the status again.  The failure write does not: a
stale claim may be renewed between the read and the write.  A session of exactly
that age is neither reused nor expired, and only such a session is marked
`failed` while it is `initiated`: the first reading of the clock must find it too
old to be reused, the second too young to be cancelled.
-/

namespace PaymentPortal.Guarantees

open PaymentPortal.Interaction
open PaymentPortal.Model
open PaymentPortal.Protocol

/-- The row that `resolveInFlightTransaction` retires by this operation. -/
def retires? : Request → Op → Option String
  | .initPayment _ _, .db (.updateToCancelled id) => some id
  | .initPayment _ _, .db (.updateToFailed id (some _) _) => some id
  | _, _ => none

def isProcessPayment : Request → Bool
  | .processPayment _ _ => true
  | _ => false

/-- The attempt is expired, or its claim is stale. -/
def IsDead (now : Int) (row : Transaction) : Prop :=
  (row.transactionStatus = some .initiated ∧
    MAX_TOKEN_AGE_MS < now - row.createdAt) ∨
  (row.transactionStatus = some .processing ∧
    PROCESSING_STALE_MS ≤ now - row.lastUpdatedAt)

instance (now : Int) (row : Transaction) : Decidable (IsDead now row) :=
  inferInstanceAs (Decidable (_ ∨ _))

/-- The entry leaves a new version of the row. -/
def Rewrote (entry : LogEntry) (id : String) : Prop :=
  ∃ row ∈ entry.after.table.rows, row.agencyTrackingId = id ∧
    row ∉ entry.before.table.rows

instance (entry : LogEntry) (id : String) : Decidable (Rewrote entry id) :=
  inferInstanceAs (Decidable (∃ _ ∈ _, _))

/-- A `processPayment` has written to the row since the caller acquired it. -/
def TouchedSince (state : PortalState) (caller : Nat) (id : String)
    (log : List LogEntry) : Prop :=
  ∃ entry ∈ since (acquires caller id) log,
    (∃ request ∈ requestOf? state entry.caller,
      isProcessPayment request = true) ∧ Rewrote entry id

instance (state : PortalState) (caller : Nat) (id : String)
    (log : List LogEntry) : Decidable (TouchedSince state caller id log) :=
  inferInstanceAs (Decidable (∃ _ ∈ _, _))

/--
What `initPayment` retires was dead at that moment, and what it overwrites no
`processPayment` has written to since `initPayment` read it.
-/
def RetiresDead (state : PortalState) : Prop :=
  ∀ entry older, (entry :: older) <:+ state.log →
    ∀ request ∈ requestOf? state entry.caller,
      ∀ id ∈ retires? request entry.op,
        ∀ old ∈ entry.before.table.rows, old.agencyTrackingId = id →
          ∀ new ∈ entry.after.table.rows, new.agencyTrackingId = id →
            new ≠ old →
              ¬ TouchedSince state entry.caller id older ∧
                (new.transactionStatus ≠ old.transactionStatus →
                  IsDead entry.before.now old)

/-- Another caller has written to the row since the caller acquired it. -/
def Overtaken (caller : Nat) (id : String) (log : List LogEntry) : Prop :=
  ∃ entry ∈ since (acquires caller id) log,
    entry.caller ≠ caller ∧ Rewrote entry id

instance (caller : Nat) (id : String) (log : List LogEntry) :
    Decidable (Overtaken caller id log) :=
  inferInstanceAs (Decidable (∃ _ ∈ _, _))

/-- The caller has read the clock at the instant since it acquired the row. -/
def ReadClockAt (caller : Nat) (id : String) (instant : Int)
    (log : List LogEntry) : Prop :=
  ∃ entry ∈ since (acquires caller id) log,
    entry.caller = caller ∧ entry.op = .now ∧ entry.before.now = instant

instance (caller : Nat) (id : String) (instant : Int) (log : List LogEntry) :
    Decidable (ReadClockAt caller id instant log) :=
  inferInstanceAs (Decidable (∃ _ ∈ _, _))

/--
A failure write that retires a row takes effect only if nobody else has written
to the row since it was read, and if the clock was not read just when the
session of an `initiated` row became as old as a token may be.
-/
def RetireSafe (state : PortalState) (caller : Nat) (op : Op) (fate : Fate) :
    Prop :=
  ∀ request ∈ requestOf? state caller, ∀ id ∈ retires? request op,
    fails? op fate = some id →
      ¬ Overtaken caller id state.log ∧
        ∀ row ∈ state.world.table.rows, row.agencyTrackingId = id →
          row.transactionStatus = some .initiated →
            ¬ ReadClockAt caller id (row.createdAt + MAX_TOKEN_AGE_MS)
              state.log

instance (state : PortalState) (caller : Nat) (op : Op) (fate : Fate) :
    Decidable (RetireSafe state caller op fate) :=
  inferInstanceAs (Decidable (∀ _ ∈ _, ∀ _ ∈ _, _ → _))

variable {config : Config} {formats : XmlFormats} {request : Request}
variable {stage next : Stage}
variable {op : Op} {reply : Reply op} {fate : Fate} {world after : World}
variable {id : String}

/-! ## Single operations -/

/-- A row is retired because it has been weighed. -/
theorem weighing_of_retires (retires : retires? request op = some id)
    (permitted : Permitted config request stage op reply next) :
    ∃ row clocks, stage = .weighing row clocks ∧ row.agencyTrackingId = id ∧
      (op = .db (.updateToCancelled id) ∨ ∃ code detail,
        op = .db (.updateToFailed id code detail) ∧
          RetiredAsDead row clocks) := by
  unfold retires? at retires
  split at retires
  · obtain rfl := Option.some.inj retires
    cases permitted with
    | passive _ passive => exact False.elim passive
    | cancel _ _ _ => exact ⟨_, _, rfl, rfl, .inl rfl⟩
  · obtain rfl := Option.some.inj retires
    cases permitted with
    | passive _ passive => exact False.elim passive
    | retire dead => exact ⟨_, _, rfl, rfl, .inr ⟨_, _, rfl, dead⟩⟩
  · exact absurd retires (by simp)

/-- What retires a row is no `processPayment`. -/
theorem isProcessPayment_of_retires (retires : retires? request op = some id) :
    isProcessPayment request = false := by
  cases request with
  | initPayment _ _ => rfl
  | processPayment _ _ | getDetails _ _ | cancelExpiredTransactions =>
      exact absurd retires (by simp [retires?])

/-- A token is not reused because it is as old as a token may be. -/
theorem le_age_of_unused {row : Transaction} {first : Int} {token : String}
    (unused : InitPayment.reusableToken first false row = none)
    (hasToken : row.paygovToken = some token) (nonempty : token ≠ "") :
    MAX_TOKEN_AGE_MS ≤ first - row.createdAt := by
  by_contra young
  unfold InitPayment.reusableToken at unused
  rw [hasToken] at unused
  dsimp only at unused
  rw [if_pos ⟨nonempty, not_le.mp young, rfl⟩] at unused
  exact absurd unused (by simp)

/-- What a `processPayment` writes to has been claimed. -/
theorem claimed_of_processPayment {entry : LogEntry}
    (lawful : Lawful config request entry)
    (process : isProcessPayment request = true) {row : Transaction}
    (member : row ∈ entry.after.table.rows)
    (new : row ∉ entry.before.table.rows) : row.Claimed := by
  obtain ⟨stage, next, fate, _, permitted, _⟩ := lawful.performed
  rcases lawful.added_cases member new with
    ⟨data, isOp, _⟩ | ⟨old, _, owner, statement, isOp, rewrite⟩
  · obtain ⟨caller, op, reply, before, after⟩ := entry
    obtain rfl : op = .db (.createReceived data) := isOp
    cases permitted with
    | passive _ passive => exact False.elim passive
    | insert _ | insertFailed _ =>
        exact absurd process (by simp [isProcessPayment])
  obtain ⟨caller, op, reply, before, after⟩ := entry
  obtain rfl : op = .db statement := isOp
  have answered : ∀ {token patch}, Records before.payGov token patch →
      (({ payGovResponsePatch patch old with
        lastUpdatedAt := before.now } : Transaction)).Claimed := by
    intro token patch records
    refine ⟨patch.transactionStatus, rfl, ?_⟩
    rcases records.status_cases with same | same | same <;>
      rw [same] <;> decide
  cases rewrite with
  | activated isId owned received valid issued =>
      cases permitted with
      | passive _ passive => exact False.elim passive
      | activate _ | activateFailed _ =>
          exact absurd process (by simp [isProcessPayment])
  | refreshed isId hasToken tracked records => exact answered records
  | stored isId hasToken processing records => exact answered records
  | claimed hasToken claimable resolves =>
      exact Transaction.claimed_of_processing rfl
  | failed isId guarded => exact ⟨.failed, rfl, by decide⟩
  | swept initiated expired =>
      cases permitted with
      | passive _ passive => exact False.elim passive
      | sweep => exact absurd process (by simp [isProcessPayment])
  | cancelled isId initiated expired =>
      cases permitted with
      | passive _ passive => exact False.elim passive
      | cancel _ _ _ => exact absurd process (by simp [isProcessPayment])

/-! ## Weighed rows -/

/--
A weighed row is as it was read, unless it has been overtaken, and the readings
of the clock are logged.
-/
def Weighed (annotated : Annotated config) : Prop :=
  ∀ (caller : Nat) row clocks,
    annotated.phases[caller]? = some (.weighing row clocks) →
      (Overtaken caller row.agencyTrackingId annotated.state.log ∨
        row ∈ annotated.state.world.table.rows) ∧
      ∀ clock ∈ clocks,
        ReadClockAt caller row.agencyTrackingId clock annotated.state.log

theorem overtaken_cons {entry : LogEntry} {log : List LogEntry}
    {caller : Nat} (unmarked : acquires caller id entry = false) :
    Overtaken caller id (entry :: log) ↔
      (entry.caller ≠ caller ∧ Rewrote entry id) ∨ Overtaken caller id log := by
  simp [Overtaken, since_cons_of_unmarked unmarked]

theorem readClockAt_cons {entry : LogEntry} {log : List LogEntry}
    {caller : Nat} {instant : Int}
    (unmarked : acquires caller id entry = false) :
    ReadClockAt caller id instant (entry :: log) ↔
      (entry.caller = caller ∧ entry.op = .now ∧ entry.before.now = instant) ∨
        ReadClockAt caller id instant log := by
  simp [ReadClockAt, since_cons_of_unmarked unmarked]

/-- A row is weighed because it was before, or because it has been read. -/
theorem weighing_of_permitted {row : Transaction} {clocks : List Int}
    (permitted : Permitted config request stage op reply
      (.weighing row clocks))
    (executed : exec formats op fate world = some (reply, after)) :
    (∃ earlier, stage = .weighing row earlier ∧ IsPassive op ∧
      ∀ clock ∈ clocks, clock ∈ earlier ∨ (op = .now ∧ world.now = clock)) ∨
    (clocks = [] ∧ row ∈ after.table.rows) := by
  generalize weighing : Stage.weighing row clocks = later at permitted
  cases permitted with
  | passive running passive =>
      exact .inl ⟨clocks, weighing.symm, passive, fun _ read => .inl read⟩
  | look inFlight =>
      obtain ⟨rfl, rfl⟩ := Stage.weighing.inj weighing
      obtain ⟨member, _, rfl⟩ := mem_of_execLookup executed
      exact .inr ⟨rfl, member⟩
  | clock =>
      obtain ⟨rfl, rfl⟩ := Stage.weighing.inj weighing
      obtain ⟨rfl, _⟩ := now_of_exec executed
      refine .inl ⟨_, rfl, trivial, fun clock read => ?_⟩
      rcases List.mem_cons.mp read with rfl | earlier
      · exact .inr ⟨rfl, rfl⟩
      · exact .inl earlier
  | retire _ | abandon _ | failFee _ | markFailed | markUnrecorded =>
      unfold Stage.unlessFailed at weighing
      split at weighing <;> exact absurd weighing (by simp)
  | lookMissed | cancel _ _ _ | insert _ | insertFailed _ | start _
  | startUnanswered _ | activate _ | activateFailed _ | load | loadMissed
  | claim _ | claimFailed _ _ | complete | completeUnanswered _ | persist
  | outrun | persistFailed | survey | answer _ _ | unanswered _ _ | store _
  | sweep => exact absurd weighing (by simp)

/-- A row that has not been rewritten still is as it was. -/
theorem mem_of_not_rewrote {entry : LogEntry}
    (upwards : entry.before ≤ entry.after) {row : Transaction}
    (member : row ∈ entry.before.table.rows)
    (untouched : ¬ Rewrote entry row.agencyTrackingId) :
    row ∈ entry.after.table.rows := by
  obtain ⟨later, laterIn, evolves⟩ := upwards.rows row member
  by_cases old : later ∈ entry.before.table.rows
  · exact entry.before.table.eq_of_id_eq old member evolves.id_eq ▸ laterIn
  · exact absurd ⟨later, laterIn, evolves.id_eq, old⟩ untouched

variable {source target : Annotated config} {caller : Nat}
variable {allowed : PortalState → PortalMove → Prop}

/-- Every move keeps weighed rows as read or overtaken, and the readings. -/
theorem Weighed.step (weighed : Weighed source) (recorded : Recorded source)
    (step : AnnotatedStep config allowed source target) : Weighed target := by
  cases step with
  | arrive request permitted state_eq phases_eq =>
      intro caller row clocks holds
      rw [phases_eq] at holds
      rw [state_eq]
      rcases getElem?_append_singleton_cases holds with before | impossible
      · exact weighed caller row clocks before
      · exact absurd impossible (by simp)
  | perform other fate request op next reply world stage after permitted
      running holds executed moved state_eq phases_eq =>
      have lawful := recorded.toSound.lawful running holds executed moved
      intro caller row clocks weighs
      rw [phases_eq] at weighs
      rw [state_eq]
      rcases getElem?_set_cases weighs with ⟨rfl, rfl⟩ | ⟨different, before⟩
      · rcases weighing_of_permitted moved executed with
          ⟨earlier, rfl, passive, readings⟩ | ⟨rfl, member⟩
        · have unmarked : acquires caller row.agencyTrackingId
              ⟨caller, op, reply, source.state.world, world⟩ = false := by
            simp [acquires, acquired?_of_passive passive]
          obtain ⟨asRead, logged⟩ := weighed caller row earlier holds
          obtain rfl := same_of_passive passive executed
          refine ⟨asRead.imp_left fun overtaken =>
            (overtaken_cons unmarked).mpr (.inr overtaken), ?_⟩
          intro clock read
          apply (readClockAt_cons unmarked).mpr
          rcases readings clock read with old | ⟨isNow, isClock⟩
          · exact .inr (logged clock old)
          · exact .inl ⟨rfl, isNow, isClock⟩
        · exact ⟨.inr member, by simp⟩
      · have unmarked : acquires caller row.agencyTrackingId
            ⟨other, op, reply, source.state.world, world⟩ = false := by
          simp [acquires, different.symm]
        obtain ⟨asRead, logged⟩ := weighed caller row clocks before
        refine ⟨?_, fun clock read =>
          (readClockAt_cons unmarked).mpr (.inr (logged clock read))⟩
        rw [overtaken_cons unmarked]
        by_cases rewrote : Rewrote
            ⟨other, op, reply, source.state.world, world⟩ row.agencyTrackingId
        · exact .inl (.inl ⟨different.symm, rewrote⟩)
        · exact asRead.imp .inr fun member =>
            mem_of_not_rewrote lawful.le member rewrote
  | crash other request op next permitted running state_eq phases_eq =>
      intro caller row clocks holds
      rw [phases_eq] at holds
      rw [state_eq]
      rcases getElem?_set_cases holds with ⟨_, impossible⟩ | ⟨_, before⟩
      · exact absurd impossible (by simp)
      · exact weighed caller row clocks before
  | drift change world permitted drifted state_eq phases_eq =>
      intro caller row clocks holds
      rw [phases_eq] at holds
      rw [state_eq]
      simpa only [table_eq_of_drift drifted] using
        weighed caller row clocks holds

/-- Whether a `processPayment` has written to a row does not change. -/
theorem touchedSince_of_step (recorded : Recorded source)
    (step : AnnotatedStep config allowed source target)
    {log : List LogEntry} (known : log ⊆ source.state.log) (caller : Nat)
    (id : String) :
    TouchedSince target.state caller id log ↔
      TouchedSince source.state caller id log := by
  have same : ∀ entry ∈ since (acquires caller id) log,
      requestOf? target.state entry.caller =
        requestOf? source.state entry.caller := by
    intro entry member
    exact recorded.requestOf?_eq step
      (known ((List.takeWhile_sublist _).subset member))
  constructor
  · rintro ⟨entry, member, process, rewrote⟩
    exact ⟨entry, member, same entry member ▸ process, rewrote⟩
  · rintro ⟨entry, member, process, rewrote⟩
    exact ⟨entry, member, (same entry member).symm ▸ process, rewrote⟩

/-- A caller that is no `processPayment` is overtaken by one that writes. -/
theorem overtaken_of_touchedSince {state : PortalState} {log : List LogEntry}
    (isRequest : requestOf? state caller = some request)
    (other : isProcessPayment request = false)
    (touched : TouchedSince state caller id log) : Overtaken caller id log := by
  obtain ⟨entry, member, ⟨own, isOwn, process⟩, rewrote⟩ := touched
  refine ⟨entry, member, fun same => ?_, rewrote⟩
  obtain rfl := Option.some.inj (isRequest.symm.trans (same ▸ isOwn))
  exact absurd (other.symm.trans process) (by simp)

/-! ## Runs -/

/-- The invariant of runs in which every move is retire safe. -/
structure RetireInvariant (annotated : Annotated config) : Prop
    extends Recorded annotated where
  weighed : Weighed annotated
  retiresDead : RetiresDead annotated.state

/-- The cancelling write finds a dead row that nobody has written to. -/
theorem cancelled_dead {state : PortalState} {entry : LogEntry}
    (lawful : Lawful config request entry)
    (isOp : entry.op = .db (.updateToCancelled id)) {old new : Transaction}
    (oldIn : old ∈ entry.before.table.rows) (isId : old.agencyTrackingId = id)
    (newIn : new ∈ entry.after.table.rows)
    (newId : new.agencyTrackingId = id) (different : new ≠ old)
    {log : List LogEntry}
    (recorded : ∀ other ∈ log, other.after ≤ entry.before ∧
      ∃ request, requestOf? state other.caller = some request ∧
        Lawful config request other) :
    ¬ TouchedSince state entry.caller id log ∧
      IsDead entry.before.now old := by
  obtain ⟨owner, statement, isStatement, rewrite⟩ :=
    lawful.rewritten oldIn newIn (newId.trans isId.symm) different
  obtain rfl := Op.db.inj (isOp.symm.trans isStatement)
  cases rewrite with
  | cancelled _ initiated expired =>
      refine ⟨?_, .inl ⟨initiated, expired⟩⟩
      rintro ⟨other, member, ⟨request, isRequest, process⟩, row, rowIn, rowId,
        new⟩
      obtain ⟨earlier, own, isOwn, otherLawful⟩ :=
        recorded other ((List.takeWhile_sublist _).subset member)
      obtain rfl := Option.some.inj (isOwn.symm.trans isRequest)
      have claimed := claimed_of_processPayment otherLawful process rowIn new
      have evolves := earlier.evolved rowIn oldIn (isId.trans rowId.symm)
      exact (claimed.of_evolves evolves).ne_initiated initiated

/--
What was read as dead and still is as it was read is dead now, unless the clock
was read just when the session became as old as a token may be.
-/
theorem dead_of_retiredAsDead {row : Transaction} {clocks : List Int}
    (dead : RetiredAsDead row clocks)
    (ordered : (world.now :: clocks).Pairwise (· ≥ ·))
    (coherent : Coherent config world row)
    (missed : row.transactionStatus = some .initiated →
      row.createdAt + MAX_TOKEN_AGE_MS ∉ clocks) : IsDead world.now row := by
  obtain ⟨past, sorted⟩ := List.pairwise_cons.mp ordered
  rcases dead with
    ⟨initiated, first, second, rfl, unused, young⟩ |
      ⟨processing, clock, read, stale⟩
  · -- The session was too old to be reused, and later too young to be expired.
    exfalso
    obtain ⟨token, hasToken⟩ := Option.ne_none_iff_exists'.mp
      (coherent.token (by simp [initiated]) (by simp [initiated]))
    have nonempty : token ≠ "" := by
      rintro rfl
      exact absurd (coherent.valid "" hasToken) (by decide)
    have old := le_age_of_unused unused hasToken nonempty
    have later : second ≥ first :=
      (List.pairwise_cons.mp sorted).1 first List.mem_cons_self
    have boundary : row.createdAt + MAX_TOKEN_AGE_MS = first := by omega
    exact missed initiated (by simp [boundary])
  · have := past clock read
    exact .inr ⟨processing, by omega⟩

/-- What a retire safe operation retires is dead and has not been touched. -/
theorem dead_of_exec {rest : Reply op → Program Op Reply Outcome}
    (recorded : Recorded source) (weighed : Weighed source)
    (running : source.state.calls[caller]? =
      some ⟨request, some (.perform op rest)⟩)
    (holds : source.phases[caller]? = some stage)
    (executed : exec config.xmlFormats op fate source.state.world =
      some (reply, world))
    (moved : Permitted config request stage op reply next)
    (safe : RetireSafe source.state caller op fate)
    (retires : retires? request op = some id) {old new : Transaction}
    (oldIn : old ∈ source.state.world.table.rows)
    (isId : old.agencyTrackingId = id) (newIn : new ∈ world.table.rows)
    (newId : new.agencyTrackingId = id) (different : new ≠ old) :
    ¬ TouchedSince source.state caller id source.state.log ∧
      (new.transactionStatus ≠ old.transactionStatus →
        IsDead source.state.world.now old) := by
  have known := recorded.knows caller _ stage running holds
  have lawful := recorded.toSound.lawful running holds executed moved
  obtain ⟨row, clocks, rfl, rowId, isOp⟩ := weighing_of_retires retires moved
  rcases isOp with rfl | ⟨code, detail, rfl, dead⟩
  · obtain ⟨untouched, isDead⟩ := cancelled_dead lawful rfl oldIn isId newIn
      newId different fun other member =>
        ⟨recorded.chronological.present other member,
          recorded.lawful other member⟩
    exact ⟨untouched, fun _ => isDead⟩
  · have effective :
        fails? (.db (.updateToFailed id code detail)) fate = some id := by
      by_contra ineffective
      obtain rfl := same_of_fails? executed ineffective
      exact different (source.state.world.table.eq_of_id_eq newIn oldIn
        (newId.trans isId.symm))
    have isRequest := requestOf?_of_present running
    obtain ⟨alone, unmet⟩ := safe request isRequest id retires effective
    obtain ⟨asRead, logged⟩ := weighed caller row clocks holds
    rw [rowId] at asRead logged
    have member := asRead.resolve_left alone
    obtain rfl := source.state.world.table.eq_of_id_eq oldIn member
      (isId.trans rowId.symm)
    obtain ⟨_, _, _, ordered⟩ := known
    refine ⟨fun touched => alone (overtaken_of_touchedSince isRequest
      (isProcessPayment_of_retires retires) touched), fun _ => ?_⟩
    exact dead_of_retiredAsDead dead ordered (recorded.rows old member)
      fun initiated read => unmet old member isId initiated (logged _ read)

/-- Every retire safe move keeps the invariant. -/
theorem RetireInvariant.step (invariant : RetireInvariant source)
    (step : AnnotatedStep config (Machine.OnSteps RetireSafe) source target) :
    RetireInvariant target := by
  refine ⟨invariant.toRecorded.step step,
    invariant.weighed.step invariant.toRecorded step, ?_⟩
  intro entry older suffix own isOwn id
  cases step.loggedBy suffix with
  | earlier was =>
      rw [invariant.requestOf?_eq step (was.subset List.mem_cons_self)]
        at isOwn
      rw [touchedSince_of_step invariant.toRecorded step
        ((List.suffix_cons entry older).trans was).subset]
      exact invariant.retiresDead entry older was own isOwn id
  | performed caller fate request op next reply stage after permitted running
      holds executed moved =>
      intro retires row rowIn isId new newIn newId different
      have isRequest := requestOf?_of_running step running
      obtain rfl := Option.some.inj (isRequest.symm.trans isOwn)
      rw [touchedSince_of_step invariant.toRecorded step
        (List.Subset.refl source.state.log)]
      exact dead_of_exec invariant.toRecorded invariant.weighed running holds
        executed moved (permitted.of_running running) retires rowIn isId
        newIn newId different

theorem retireInvariant_initial (now : Int) :
    RetireInvariant (.initial (World.fresh now) : Annotated config) where
  toRecorded := recorded_initial now
  weighed := fun caller row clocks holds =>
    absurd holds (by simp [Phased.initial])
  retiresDead := fun entry older suffix =>
    absurd suffix (by simp [Phased.initial, State.initial])

/--
In every run of retire safe moves `initPayment` retires dead attempts only, and
none that a `processPayment` has written to since `initPayment` read it.
-/
theorem retires_dead {now : Int} {state : PortalState}
    (reaches : Reachable config (Machine.OnSteps RetireSafe) now state) :
    RetiresDead state := by
  obtain ⟨annotated, rfl, invariant⟩ := exists_annotated
    (retireInvariant_initial now)
    (fun _ _ invariant step => invariant.step step) reaches
  exact invariant.retiresDead

/-- `initPayment` by `caller` up to its decision about a stale claim. -/
def weighs (caller : Nat) : List PortalMove :=
  .arrive (.initPayment sampleClient sampleOrder) :: meets caller [
    .read, .executed [], .read, .read]

/-- A stale claim is retired. -/
def staleRetired : List PortalMove :=
  initiates 0 "A1" firstToken ++ claims 1 firstToken ++
    [.drift (.tick 600000)] ++ weighs 2 ++ meets 2 [.executed []]

/-- The retired row of the sample run is `failed`. -/
theorem retires_dead_sample : ∃ state,
    (portal sampleConfig).replay (Machine.OnSteps RetireSafe) staleRetired
      (.initial (World.fresh sampleNow)) = some state ∧
    state.world.table.rows.map Transaction.transactionStatus =
      [some .failed] ∧
    RetiresDead state := by
  have replayed : (((portal sampleConfig).replay (Machine.OnSteps RetireSafe)
      staleRetired (.initial (World.fresh sampleNow))).map fun state =>
        state.world.table.rows.map Transaction.transactionStatus) =
      some [some .failed] := by
    decide
  obtain ⟨state, reached, statuses⟩ := Option.map_eq_some_iff.mp replayed
  exact ⟨state, reached, statuses,
    retires_dead (Machine.reaches_of_replay reached)⟩

/-- The stale claim is renewed between the read and the write. -/
def renewedRetired : List PortalMove :=
  initiates 0 "A1" firstToken ++ claims 1 firstToken ++
    [.drift (.tick 600000)] ++ weighs 2 ++ claims 3 firstToken ++
    meets 2 [.executed []]

/-- The newest operation retires a row that is not dead. -/
def RetiresAlive (state : PortalState) : Prop :=
  ∃ entry ∈ state.log.head?, ∃ request ∈ requestOf? state entry.caller,
    ∃ id ∈ retires? request entry.op, ∃ old ∈ entry.before.table.rows,
      old.agencyTrackingId = id ∧ ∃ new ∈ entry.after.table.rows,
        new.agencyTrackingId = id ∧
          new.transactionStatus ≠ old.transactionStatus ∧
          ¬ IsDead entry.before.now old

instance (state : PortalState) : Decidable (RetiresAlive state) :=
  inferInstanceAs (Decidable (∃ _ ∈ _, ∃ _ ∈ _, ∃ _ ∈ _, ∃ _ ∈ _, _ ∧ _))

/-- The renewed claim is marked `failed`. -/
theorem retires_dead_fails : ∃ state,
    Reachable sampleConfig Machine.Unrestricted sampleNow state ∧
      ¬ RetiresDead state := by
  have replayed : (((portal sampleConfig).replay Machine.Unrestricted
      renewedRetired (.initial (World.fresh sampleNow))).map fun state =>
        decide (RetiresAlive state)) = some true := by
    decide
  obtain ⟨state, reached, alive⟩ := Option.map_eq_some_iff.mp replayed
  obtain ⟨entry, newest, request, isRequest, id, retires, old, oldIn, oldId,
    new, newIn, newId, changed, notDead⟩ := of_decide_eq_true alive
  refine ⟨state, Machine.reaches_of_replay reached, fun retiresDead => ?_⟩
  have split := List.eq_cons_of_mem_head? newest
  have dead := retiresDead entry state.log.tail (split ▸ List.suffix_rfl)
    request isRequest id retires old oldIn oldId new newIn newId
    fun same => changed (same ▸ rfl)
  exact notDead (dead.2 changed)

/-- So is a session that is just as old as a token may be. -/
example : ((portal sampleConfig).replay Machine.Unrestricted
    (initiates 0 "A1" firstToken ++ [.drift (.tick 10800000)] ++ weighs 1 ++
      meets 1 [.executed []]) (.initial (World.fresh sampleNow))).map
        (fun state => decide (RetiresAlive state)) = some true := by
  decide

end PaymentPortal.Guarantees
