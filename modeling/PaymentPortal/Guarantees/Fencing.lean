import PaymentPortal.Guarantees.FinalSuccess

/-!
# Fencing of superseded claimants

A claimant is superseded once another caller has claimed the row after it.  It
leaves the row alone and ends with a conflict in every run in which superseded
claimants take no failure branch, and meet their guarded write without a
database error and on a row that is no longer `processing`.

The only fence in the code is that guard.  It cannot tell one claim from the
next, and the failure branches write without it.
-/

namespace PaymentPortal.Guarantees

open PaymentPortal.Interaction
open PaymentPortal.Model
open PaymentPortal.Protocol

/-! ## Superseded claimants -/

/-- The entry commits a claim of the row with this id. -/
def ClaimsRow (entry : LogEntry) (id : String) : Prop :=
  ∃ row ∈ entry.after.table.rows, row ∉ entry.before.table.rows ∧
    row.agencyTrackingId = id ∧
      ∃ token ∈ row.paygovToken, entry.op = .db (.claimForProcessing token)

instance (entry : LogEntry) (id : String) : Decidable (ClaimsRow entry id) :=
  inferInstanceAs (Decidable (∃ _ ∈ _, _))

/-- The caller has claimed the row. -/
def HasClaimed (caller : Nat) (id : String) (log : List LogEntry) : Prop :=
  ∃ entry ∈ log, entry.caller = caller ∧ ClaimsRow entry id

instance (caller : Nat) (id : String) (log : List LogEntry) :
    Decidable (HasClaimed caller id log) :=
  inferInstanceAs (Decidable (∃ _ ∈ _, _))

/-- The caller has claimed the row, and another caller has claimed it since. -/
def Superseded (caller : Nat) (id : String) : List LogEntry → Prop
  | [] => False
  | entry :: older => Superseded caller id older ∨
      (entry.caller ≠ caller ∧ ClaimsRow entry id ∧ HasClaimed caller id older)

instance decidableSuperseded (caller : Nat) (id : String) :
    ∀ log, Decidable (Superseded caller id log)
  | [] => inferInstanceAs (Decidable False)
  | _ :: older =>
      haveI := decidableSuperseded caller id older
      inferInstanceAs (Decidable (Superseded caller id older ∨ _))

theorem Superseded.hasClaimed {caller : Nat} {id : String} :
    ∀ {log : List LogEntry}, Superseded caller id log →
      HasClaimed caller id log
  | _ :: older, superseded => by
      have inOlder : HasClaimed caller id older := by
        rcases superseded with before | ⟨_, _, claimed⟩
        · exact before.hasClaimed
        · exact claimed
      obtain ⟨claim, member, rest⟩ := inOlder
      exact ⟨claim, List.mem_cons_of_mem _ member, rest⟩

/--
An operation of a superseded claimant leaves the table alone, and the claimant
ends with a conflict if it ends at all.
-/
structure Fencing (state : PortalState) : Prop where
  unchanged : ∀ entry older, (entry :: older) <:+ state.log →
    ∀ id, Superseded entry.caller id older →
      entry.after.table = entry.before.table
  conflict : ∀ entry older, (entry :: older) <:+ state.log →
    ∀ id, Superseded entry.caller id older →
      ∀ call ∈ state.calls[entry.caller]?, ∀ outcome ∈ call.result?,
        outcome = .error (.conflict ConflictError.PERSIST_RACE_MESSAGE)

/--
A superseded claimant takes no failure branch, and its guarded write is
executed on a row that has left the status it expects.
-/
def FenceSafe (state : PortalState) (caller : Nat) (op : Op) (fate : Fate) :
    Prop :=
  (∀ id ∈ marks? op, ¬ Superseded caller id state.log) ∧
  ∀ guarded ∈ guards? op, Superseded caller guarded.1 state.log →
    isExecuted fate = true ∧
      ∀ row ∈ state.world.table.rows, row.agencyTrackingId = guarded.1 →
        row.transactionStatus ≠ some guarded.2

instance (state : PortalState) (caller : Nat) (op : Op) (fate : Fate) :
    Decidable (FenceSafe state caller op fate) :=
  inferInstanceAs (Decidable ((∀ _ ∈ _, _) ∧ ∀ _ ∈ _, _ → _))

/-! ## Stages of a claimant -/

variable {config : Config} {before after : World} {fate : Fate}
variable {request : Request} {stage next : Stage} {op : Op} {reply : Reply op}
variable {caller : Nat} {id : String} {log : List LogEntry}

/--
The stages of a caller that has claimed the row.  It only gets to `closing`
without having been superseded, and with an answer in the row.
-/
def ClaimantStage (world : World) (log : List LogEntry) (caller : Nat)
    (id : String) : Stage → Prop
  | .completing row => row.agencyTrackingId = id
  | .persisting row _ => row.agencyTrackingId = id
  | .failing row => row.agencyTrackingId = id
  | .outrun => True
  | .stopped => True
  | .closing => ¬ Superseded caller id log ∧
      ∃ row ∈ world.table.rows, row.agencyTrackingId = id ∧ Answered row
  | _ => False

/-- Nobody claims an answered row. -/
theorem not_claimsRow_of_answered {entry : LogEntry}
    (lawful : Lawful config request entry) {row : Transaction}
    (member : row ∈ entry.before.table.rows)
    (isId : row.agencyTrackingId = id) (answered : Answered row) :
    ¬ ClaimsRow entry id := by
  rintro ⟨claimed, added, new, claimedId, token, hasToken, isOp⟩
  obtain ⟨old, oldIn, _, claimable, rfl⟩ := lawful.claimed ⟨isOp, added, new⟩
  have same : old = row :=
    entry.before.table.eq_of_id_eq oldIn member (claimedId.trans isId.symm)
  rw [same] at claimable
  rcases claimable.status with initiated | ⟨processing, _⟩
  · exact absurd answered (by simp [Answered, initiated])
  · exact absurd answered (by simp [Answered, processing])

/-- The stage of a claimant is kept by what others and the clock do. -/
theorem ClaimantStage.later {entries : List LogEntry}
    (was : ClaimantStage before log caller id stage) (upwards : before ≤ after)
    (unclaimed : ∀ row ∈ before.table.rows, row.agencyTrackingId = id →
      Answered row → ¬ Superseded caller id log →
        ¬ Superseded caller id entries) :
    ClaimantStage after entries caller id stage := by
  cases stage with
  | closing =>
      obtain ⟨first, row, member, isId, answered⟩ := was
      obtain ⟨later, laterIn, evolves⟩ := upwards.rows row member
      exact ⟨unclaimed row member isId answered first, later, laterIn,
        evolves.id_eq.trans isId, answered.of_evolves evolves⟩
  | completing row | persisting row _ | failing row => exact was
  | outrun | stopped => trivial
  | reading | weighing _ _ | collecting _ | activating _ _ | abandoning _
  | loaded _ | refreshing _ _ => exact False.elim was

theorem ClaimantStage.unowned
    (was : ClaimantStage before log caller id stage) : stage.owned? = none := by
  cases stage with
  | collecting _ | activating _ _ | abandoning _ => exact False.elim was
  | reading | weighing _ _ | loaded _ | completing _ | persisting _ _
  | failing _ | outrun | refreshing _ _ | closing | stopped => rfl

/-- What a claimant may still do. -/
theorem op_of_claimantStage
    (was : ClaimantStage before log caller id stage)
    (permitted : Permitted config request stage op reply next) :
    IsPassive op ∨
      (∃ tcsAppId token,
        op = .fetch (.completeOnlineCollectionWithDetails tcsAppId token)) ∨
      marks? op = some id ∨ guards? op = some (id, .processing) := by
  cases permitted with
  | passive _ passive => exact .inl passive
  | complete => exact .inr (.inl ⟨_, _, rfl⟩)
  | completeUnanswered missed => exact .inr (.inl ⟨_, _, rfl⟩)
  | markFailed | markUnrecorded =>
      exact .inr (.inr (.inl (congrArg some was)))
  | persist | outrun | persistFailed =>
      exact .inr (.inr (.inr (congrArg (fun own => some (own, _)) was)))
  | abandon owned => exact absurd (was.unowned.symm.trans owned) (by simp)
  | look _ | lookMissed | clock | cancel _ _ _ | retire _ | insert _
  | insertFailed _ | start _ | startUnanswered _ | activate _ | activateFailed _
  | load | loadMissed | failFee _ | claim _ | claimFailed _ _ | survey
  | answer _ _ | unanswered _ _ | store _ | sweep => exact False.elim was

/-- A claimant's own operation leads to a stage of a claimant. -/
theorem claimantStage_of_permitted {state : PortalState}
    (coherent : ∀ row ∈ state.world.table.rows, Coherent config state.world row)
    (knows : Knows state.world request stage)
    (was : ClaimantStage state.world state.log caller id stage)
    (permitted : Permitted config request stage op reply next)
    (executed : exec config.xmlFormats op fate state.world =
      some (reply, after))
    (safe : FenceSafe state caller op fate) :
    ClaimantStage after
      (⟨caller, op, reply, state.world, after⟩ :: state.log) caller id
      next := by
  have upwards := (worldStep_of_exec coherent knows permitted executed).le
    coherent
  -- An entry of the caller itself does not supersede it.
  have first : ¬ Superseded caller id state.log → ¬ Superseded caller id
      (⟨caller, op, reply, state.world, after⟩ :: state.log) := by
    rintro before (again | ⟨other, _⟩)
    · exact before again
    · exact other rfl
  have marked : ∀ row, Holding state.world request row →
      row.agencyTrackingId = id → ∀ count code detail,
      exec config.xmlFormats
        (.db (.updateToFailed row.agencyTrackingId code detail)) fate
          state.world = some (.ok count, after) →
      ∃ row ∈ after.table.rows, row.agencyTrackingId = id ∧ Answered row := by
    intro row holding isId count code detail executed
    obtain ⟨current, member, evolves⟩ := holding.seen
    obtain ⟨later, laterIn, laterId, failed⟩ :=
      failed_of_exec executed current member evolves.id_eq
    exact ⟨later, laterIn, laterId.trans isId, .inr (.inr failed)⟩
  cases permitted with
  | passive running passive =>
      exact was.later upwards fun _ _ _ _ before => first before
  | complete | completeUnanswered _ => exact was
  | @markFailed _ _ row code detail reply =>
      cases reply with
      | error error => trivial
      | ok count =>
          exact ⟨first (was ▸ safe.1 _ rfl),
            marked row knows was count code detail executed⟩
  | @markUnrecorded _ _ row detail reply =>
      cases reply with
      | error error => trivial
      | ok count =>
          exact ⟨first (was ▸ safe.1 _ rfl),
            marked row knows was count none detail executed⟩
  | @persist _ _ row stored result =>
      obtain ⟨member, isId, hasStatus, _⟩ := stored_of_exec executed
      refine ⟨first fun superseded => ?_, stored, member, isId.trans was, ?_⟩
      · obtain ⟨isExecuted, left⟩ := safe.2 _ rfl (was ▸ superseded)
        have outrun := (outrun_of_exec isExecuted left executed).1
        exact absurd outrun (by simp)
      · rcases parseTransactionStatus_cases result.transaction_status with
          same | same | same <;>
          simp [Answered, hasStatus, ProcessPayment.responsePatch, same]
  | outrun => trivial
  | persistFailed => exact was
  | abandon owned => exact absurd (was.unowned.symm.trans owned) (by simp)
  | look _ | lookMissed | clock | cancel _ _ _ | retire _ | insert _
  | insertFailed _ | start _ | startUnanswered _ | activate _ | activateFailed _
  | load | loadMissed | failFee _ | claim _ | claimFailed _ _ | survey
  | answer _ _ | unanswered _ _ | store _ | sweep => exact False.elim was

/-- A first claim leads to a stage of a claimant. -/
theorem claimantStage_of_claim
    (coherent : ∀ row ∈ before.table.rows, Coherent config before row)
    (knows : Knows before request stage)
    (permitted : Permitted config request stage op reply next)
    (executed : exec config.xmlFormats op fate before = some (reply, after))
    (claims : ClaimsRow ⟨caller, op, reply, before, after⟩ id) :
    ClaimantStage after log caller id next := by
  have lawful : Lawful config request ⟨caller, op, reply, before, after⟩ :=
    ⟨coherent, stage, next, fate, knows, permitted, executed⟩
  obtain ⟨row, added, new, isId, token, hasToken, isOp⟩ := claims
  obtain rfl : op = .db (.claimForProcessing token) := isOp
  cases permitted with
  | passive _ passive => exact False.elim passive
  | @claim _ order _ claimed _ resolved =>
      obtain ⟨old, oldIn, oldToken, _, rfl⟩ := lawful.claimed ⟨rfl, added, new⟩
      obtain ⟨other, otherIn, otherToken, _, rfl, _⟩ :=
        claimed_of_exec executed
      obtain rfl := eq_of_token coherent oldIn otherIn oldToken otherToken
      exact isId
  | claimFailed resolved missed => trivial

/-- A superseded claimant that goes on neither closes nor stops. -/
theorem alive_of_permitted {state : PortalState}
    (was : ClaimantStage state.world state.log caller id stage)
    (superseded : Superseded caller id state.log)
    (permitted : Permitted config request stage op reply next)
    (executed : exec config.xmlFormats op fate state.world =
      some (reply, after))
    (safe : FenceSafe state caller op fate) :
    next.claimed? ≠ none ∨ next = .outrun := by
  cases permitted with
  | passive running passive =>
      cases stage with
      | completing _ | persisting _ _ | failing _ =>
          exact .inl (by simp [Stage.claimed?])
      | outrun => exact .inr rfl
      | closing => exact absurd superseded was.1
      | stopped => exact False.elim running
      | reading | weighing _ _ | collecting _ | activating _ _ | abandoning _
      | loaded _ | refreshing _ _ => exact False.elim was
  | complete | completeUnanswered _ | persistFailed =>
      exact .inl (by simp [Stage.claimed?])
  | outrun => exact .inr rfl
  | markFailed | markUnrecorded => exact absurd superseded (was ▸ safe.1 _ rfl)
  | persist =>
      obtain ⟨isExecuted, left⟩ := safe.2 _ rfl (was ▸ superseded)
      have outrun := (outrun_of_exec isExecuted left executed).1
      exact absurd outrun (by simp)
  | abandon owned => exact absurd (was.unowned.symm.trans owned) (by simp)
  | look _ | lookMissed | clock | cancel _ _ _ | retire _ | insert _
  | insertFailed _ | start _ | startUnanswered _ | activate _ | activateFailed _
  | load | loadMissed | failFee _ | claim _ | claimFailed _ _ | survey
  | answer _ _ | unanswered _ _ | store _ | sweep => exact False.elim was

/-- An operation of a superseded claimant leaves the table alone. -/
theorem unchanged_of_permitted {state : PortalState}
    (was : ClaimantStage state.world state.log caller id stage)
    (superseded : Superseded caller id state.log)
    (permitted : Permitted config request stage op reply next)
    (executed : exec config.xmlFormats op fate state.world =
      some (reply, after))
    (safe : FenceSafe state caller op fate) :
    after.table = state.world.table := by
  rcases op_of_claimantStage was permitted with
    passive | ⟨tcsAppId, token, rfl⟩ | marks | guarded
  · rw [same_of_passive passive executed]
  · exact (fetchStep_of_execFetch executed).table_eq
  · exact absurd superseded (safe.1 id marks)
  · obtain ⟨isExecuted, left⟩ := safe.2 _ guarded superseded
    unfold guards? at guarded
    split at guarded
    · rename_i own patch expected
      obtain ⟨rfl, rfl⟩ := Prod.mk.inj (Option.some.inj guarded)
      exact (outrun_of_exec isExecuted left executed).2
    · exact absurd guarded (by simp)

/-! ## Runs -/

/-- The invariant of runs in which every move is fence safe. -/
structure FenceInvariant (annotated : Annotated config) : Prop
    extends Recorded annotated where
  claimants : ∀ (caller : Nat) id stage,
    HasClaimed caller id annotated.state.log →
    annotated.phases[caller]? = some stage →
      ClaimantStage annotated.state.world annotated.state.log caller id stage
  unchanged : ∀ entry older, (entry :: older) <:+ annotated.state.log →
    ∀ id, Superseded entry.caller id older →
      entry.after.table = entry.before.table
  alive : ∀ entry older, (entry :: older) <:+ annotated.state.log →
    ∀ id, Superseded entry.caller id older →
      ∀ call stage, annotated.state.calls[entry.caller]? = some call →
        annotated.phases[entry.caller]? = some stage → call.rest ≠ none →
          stage.claimed? ≠ none ∨ stage = .outrun

theorem fenceInvariant_initial (now : Int) :
    FenceInvariant (.initial (World.fresh now) : Annotated config) where
  toRecorded := recorded_initial now
  claimants := fun caller id stage _ holds =>
    absurd holds (by simp [Phased.initial])
  unchanged := fun entry older suffix =>
    absurd suffix (by simp [Phased.initial, State.initial])
  alive := fun entry older suffix =>
    absurd suffix (by simp [Phased.initial, State.initial])

theorem Superseded.of_suffix {entry : LogEntry} {older log : List LogEntry}
    (superseded : Superseded caller id older)
    (suffix : (entry :: older) <:+ log) : Superseded caller id log := by
  induction log with
  | nil => exact absurd suffix (by simp)
  | cons newest rest ih =>
      rcases List.suffix_cons_iff.mp suffix with same | inRest
      · obtain ⟨_, rfl⟩ := List.cons.inj same
        exact .inl superseded
      · exact .inl (ih inRest)

section Step

variable {source target : Annotated config}

/-- The operations of superseded claimants leave the table alone. -/
theorem FenceInvariant.unchanged_step (invariant : FenceInvariant source)
    (step : AnnotatedStep config (Machine.OnSteps FenceSafe) source target)
    {entry : LogEntry} {older : List LogEntry}
    (suffix : (entry :: older) <:+ target.state.log)
    (superseded : Superseded entry.caller id older) :
    entry.after.table = entry.before.table := by
  cases step.loggedBy suffix with
  | earlier was => exact invariant.unchanged entry older was id superseded
  | performed caller fate request op next reply stage after permitted running
      holds executed moved =>
      have own := invariant.claimants caller id stage superseded.hasClaimed
        holds
      exact unchanged_of_permitted own superseded moved executed
        (permitted.of_running running)

/-- A move without an operation keeps the invariant. -/
theorem FenceInvariant.quiet
    (invariant : FenceInvariant source)
    (step : AnnotatedStep config (Machine.OnSteps FenceSafe) source target)
    (sameLog : target.state.log = source.state.log)
    (upwards : source.state.world ≤ target.state.world)
    (callers : ∀ (caller : Nat) call stage,
      caller < source.state.calls.length →
      target.state.calls[caller]? = some call →
      target.phases[caller]? = some stage →
        (stage = .stopped ∧ call.rest = none) ∨
          (source.state.calls[caller]? = some call ∧
            source.phases[caller]? = some stage)) :
    FenceInvariant target := by
  refine ⟨invariant.toRecorded.step step, ?_, fun entry older suffix id =>
    invariant.unchanged_step step suffix, ?_⟩
  · intro caller id stage claimed holds
    rw [sameLog] at claimed ⊢
    have arrived : caller < source.state.calls.length := by
      obtain ⟨entry, member, rfl, _⟩ := claimed
      exact invariant.caller_lt member
    have inPhases := (List.getElem?_eq_some_iff.mp holds).1
    have inCalls : caller < target.state.calls.length :=
      target.length_eq.symm ▸ inPhases
    rcases callers caller _ stage arrived (List.getElem?_eq_getElem inCalls)
        holds with ⟨rfl, _⟩ | ⟨_, before⟩
    · trivial
    · have was := invariant.claimants caller id stage claimed before
      exact was.later upwards fun _ _ _ _ first => first
  · rw [sameLog]
    intro entry older suffix id superseded call stage isCall holds alive
    have arrived := invariant.caller_lt (suffix.subset List.mem_cons_self)
    rcases callers entry.caller call stage arrived isCall holds with
      ⟨_, dead⟩ | ⟨wasCall, before⟩
    · exact absurd dead alive
    · exact invariant.alive entry older suffix id superseded call stage wasCall
        before alive

section Perform

variable {rest : Reply op → Program Op Reply Outcome} {world : World}
variable (invariant : FenceInvariant source)
variable (holds : source.phases[caller]? = some stage)
variable (executed : exec config.xmlFormats op fate source.state.world =
  some (reply, world))
variable (moved : Permitted config request stage op reply next)
variable (safe : FenceSafe source.state caller op fate)

include invariant holds executed moved safe

/-- After an operation no superseded claimant has closed or stopped. -/
theorem FenceInvariant.alive_perform {entry : LogEntry}
    {older : List LogEntry}
    (suffix : (entry :: older) <:+
      (⟨caller, op, reply, source.state.world, world⟩ :: source.state.log))
    (superseded : Superseded entry.caller id older)
    {call : Call Op Reply Request Outcome} {otherStage : Stage}
    (isCall : (source.state.calls.set caller
      ⟨request, some (rest reply)⟩)[entry.caller]? = some call)
    (otherHolds : (source.phases.set caller next)[entry.caller]? =
      some otherStage) (alive : call.rest ≠ none) :
    otherStage.claimed? ≠ none ∨ otherStage = .outrun := by
  by_cases isCaller : entry.caller = caller
  · have now : Superseded caller id source.state.log := by
      rcases List.suffix_cons_iff.mp suffix with same | inLog
      · obtain ⟨rfl, rfl⟩ := List.cons.inj same
        exact superseded
      · exact (isCaller ▸ superseded).of_suffix inLog
    have own := invariant.claimants caller id stage now.hasClaimed holds
    rcases getElem?_set_cases otherHolds with ⟨_, rfl⟩ | ⟨different, _⟩
    · exact alive_of_permitted own now moved executed safe
    · exact absurd isCaller different
  · have inLog : (entry :: older) <:+ source.state.log := by
      rcases List.suffix_cons_iff.mp suffix with same | inLog
      · obtain ⟨rfl, rfl⟩ := List.cons.inj same
        exact absurd rfl isCaller
      · exact inLog
    rcases getElem?_set_pair_cases isCall otherHolds with
      ⟨same, _⟩ | ⟨_, wasCall, was⟩
    · exact absurd same isCaller
    exact invariant.alive entry older inLog id superseded call otherStage
      wasCall was alive

variable (running : source.state.calls[caller]? =
  some ⟨request, some (.perform op rest)⟩)

include running

/-- After an operation every caller with a claim is in a stage of a claimant. -/
theorem FenceInvariant.claimants_perform {other : Nat} {otherStage : Stage}
    (claimed : HasClaimed other id
      (⟨caller, op, reply, source.state.world, world⟩ :: source.state.log))
    (otherHolds : (source.phases.set caller next)[other]? = some otherStage) :
    ClaimantStage world
      (⟨caller, op, reply, source.state.world, world⟩ :: source.state.log)
      other id otherStage := by
  have knows := invariant.knows caller _ stage running holds
  have lawful := invariant.toSound.lawful running holds executed moved
  obtain ⟨entry, member, isCaller, claims⟩ := claimed
  rcases getElem?_set_cases otherHolds with ⟨rfl, rfl⟩ | ⟨different, was⟩
  · by_cases before : HasClaimed other id source.state.log
    · exact claimantStage_of_permitted invariant.rows knows
        (invariant.claimants other id stage before holds) moved executed safe
    · rcases List.mem_cons.mp member with rfl | old
      · exact claimantStage_of_claim invariant.rows knows moved executed claims
      · exact absurd ⟨entry, old, isCaller, claims⟩ before
  · have before : HasClaimed other id source.state.log := by
      rcases List.mem_cons.mp member with rfl | old
      · exact absurd isCaller.symm different
      · exact ⟨entry, old, isCaller, claims⟩
    refine (invariant.claimants other id otherStage before was).later
      lawful.le fun row rowIn isId answered first superseded => ?_
    rcases superseded with again | ⟨_, reclaims, _⟩
    · exact first again
    · exact not_claimsRow_of_answered lawful rowIn isId answered reclaims

end Perform

/-- Every fence safe move keeps the invariant. -/
theorem FenceInvariant.step (invariant : FenceInvariant source)
    (step : AnnotatedStep config (Machine.OnSteps FenceSafe) source target) :
    FenceInvariant target := by
  have move := step
  cases step with
  | arrive request permitted state_eq phases_eq =>
      apply invariant.quiet move (by rw [state_eq]) (by rw [state_eq])
      intro caller call stage arrived isCall holds
      rw [state_eq] at isCall
      rw [phases_eq] at holds
      rw [List.getElem?_append_left arrived] at isCall
      rw [List.getElem?_append_left (source.length_eq ▸ arrived)] at holds
      exact .inr ⟨isCall, holds⟩
  | perform caller fate request op next reply world stage after permitted
      running holds executed moved state_eq phases_eq =>
      have safe : FenceSafe source.state caller op fate :=
        permitted.of_running running
      refine ⟨invariant.toRecorded.step move, ?_, fun entry older suffix id =>
        invariant.unchanged_step move suffix, ?_⟩
      · rw [state_eq, phases_eq]
        intro other id otherStage
        exact invariant.claimants_perform holds executed moved safe running
      · rw [state_eq, phases_eq]
        intro entry older suffix id superseded call otherStage
        exact invariant.alive_perform holds executed moved safe suffix
          superseded
  | crash caller request op next permitted running state_eq phases_eq =>
      apply invariant.quiet move (by rw [state_eq]) (by rw [state_eq])
      intro other call stage arrived isCall holds
      rw [state_eq] at isCall
      rw [phases_eq] at holds
      rcases getElem?_set_pair_cases isCall holds with
        ⟨rfl, rfl, rfl⟩ | ⟨_, wasCall, was⟩
      · exact .inl ⟨rfl, rfl⟩
      · exact .inr ⟨wasCall, was⟩
  | drift change world permitted drifted state_eq phases_eq =>
      have upwards : source.state.world ≤ target.state.world := by
        have step : WorldStep config (fun _ => False) none source.state.world
            world := worldStep_of_drift drifted
        rw [state_eq]
        exact step.le invariant.rows
      apply invariant.quiet move (by rw [state_eq]) upwards
      intro caller call stage arrived isCall holds
      rw [state_eq] at isCall
      rw [phases_eq] at holds
      exact .inr ⟨isCall, holds⟩

end Step

/--
In every run of fence safe moves a superseded claimant changes nothing any
more, and if it ends at all it ends with a conflict.
-/
theorem superseded_fenced {now : Int} {state : PortalState}
    (reaches : Reachable config (Machine.OnSteps FenceSafe) now state) :
    Fencing state := by
  obtain ⟨annotated, rfl, invariant⟩ := exists_annotated
    (fenceInvariant_initial now) (fun _ _ invariant step => invariant.step step)
    reaches
  refine ⟨invariant.unchanged, ?_⟩
  intro entry older suffix id superseded call isCall outcome isOutcome
  obtain ⟨stage, holds⟩ := annotated.exists_phase isCall
  have finished : finish call.request stage outcome :=
    annotated.conforms_done isCall isOutcome holds stage (.refl stage)
  rcases invariant.alive entry older suffix id superseded _ stage isCall holds
      (by simp [Call.rest_of_result? isOutcome]) with claimed | rfl
  · cases stage with
    | completing _ | persisting _ _ | failing _ => exact False.elim finished
    | reading | weighing _ _ | collecting _ | activating _ _ | abandoning _
    | loaded _ | outrun | refreshing _ _ | closing | stopped =>
        exact absurd rfl claimed
  · exact finished

/--
The first claimant is superseded before its completion, and stores the answer
only after the second claimant has marked the row.
-/
def fencedClaimant : List PortalMove :=
  initiates 0 "A1" firstToken ++ claims 1 firstToken ++
    [.drift (.tick 600000)] ++ claims 2 firstToken ++
    meets 1 [.completed (sampleResponse "P1" .Failed) .delivered] ++ meets 2 [
    .refused (.fault (.service "Token already used" 4019)) .delivered,
    .executed []] ++ meets 1 [.executed []]

/-- The superseded claimant of the sample run ends with the conflict. -/
theorem superseded_fenced_sample : ∃ state,
    (portal sampleConfig).replay (Machine.OnSteps FenceSafe) fencedClaimant
      (.initial (World.fresh sampleNow)) = some state ∧
    Superseded 1 "A1" state.log ∧
    state.calls[1]? >>= Call.result? =
      some (.error (.conflict ConflictError.PERSIST_RACE_MESSAGE)) ∧
    Fencing state := by
  have replayed : (((portal sampleConfig).replay (Machine.OnSteps FenceSafe)
      fencedClaimant (.initial (World.fresh sampleNow))).map
        fun state => decide (
        Superseded 1 "A1" state.log ∧ state.calls[1]? >>= Call.result? =
          some (.error (.conflict ConflictError.PERSIST_RACE_MESSAGE)))) =
      some true := by
    decide +kernel
  obtain ⟨state, reached, fenced⟩ := Option.map_eq_some_iff.mp replayed
  obtain ⟨superseded, conflict⟩ := of_decide_eq_true fenced
  exact ⟨state, reached, superseded, conflict,
    superseded_fenced (Machine.reaches_of_replay reached)⟩

/-- The newest operation is a superseded claimant's and changes a row. -/
def BreaksFence (state : PortalState) (id : String) : Prop :=
  ∃ entry ∈ state.log.head?, Superseded entry.caller id state.log.tail ∧
    entry.after.table.rows ≠ entry.before.table.rows

instance (state : PortalState) (id : String) :
    Decidable (BreaksFence state id) :=
  inferInstanceAs (Decidable (∃ _ ∈ _, _))

/-- The slow claimant is superseded, and marks the row `failed`. -/
theorem superseded_fenced_fails : ∃ state,
    Reachable sampleConfig Machine.Unrestricted sampleNow state ∧
      ¬ Fencing state := by
  have replayed : (((portal sampleConfig).replay Machine.Unrestricted
      slowClaimant (.initial (World.fresh sampleNow))).map fun state =>
        decide (BreaksFence state "A1")) = some true := by
    decide +kernel
  obtain ⟨state, reached, breaks⟩ := Option.map_eq_some_iff.mp replayed
  obtain ⟨entry, newest, superseded, changed⟩ := of_decide_eq_true breaks
  refine ⟨state, Machine.reaches_of_replay reached, fun fencing => changed ?_⟩
  have split := List.eq_cons_of_mem_head? newest
  have same := fencing.unchanged entry state.log.tail
    (split ▸ List.suffix_rfl) "A1" superseded
  rw [same]

end PaymentPortal.Guarantees
