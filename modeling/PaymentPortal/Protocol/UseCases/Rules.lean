import PaymentPortal.Protocol.Stages

/-!
# Rules for asynchronous functions

The rules of `Performs` for the operations of the portal.  A function is
specified by the stage it starts in, the stages it may return in and the stages
it may throw in.
-/

namespace PaymentPortal.Protocol

open PaymentPortal.Interaction
open PaymentPortal.Model

variable {config : Config} {request : Request} {stage : Stage} {α β : Type}

/-- A request may end with this error. -/
def Throws (request : Request) (stage : Stage) (error : PortalError) : Prop :=
  finish request stage (.error error)

/-- The task stays within the discipline of its request. -/
abbrev Follows (config : Config) (request : Request)
    (returns : Stage → α → Prop) (throws : Stage → PortalError → Prop)
    (task : Async α) (stage : Stage) : Prop :=
  Performs (discipline config request) returns throws task stage

theorem throws_of_grows {later current : Stage} {error : PortalError}
    (thrown : Throws request later error)
    (grown : (discipline config request).grows later current) :
    Throws request current error :=
  finish_of_grows _ thrown grown

variable {returns : Stage → α → Prop} {throws : Stage → PortalError → Prop}

theorem follows_pure {value : α} (solitary : stage.IsSolitary)
    (returned : returns stage value) :
    Follows config request returns throws (pure value) stage := by
  refine Performs.pure fun later grown => ?_
  obtain rfl := (Stage.grows_iff _ solitary).mp grown
  exact returned

theorem follows_throw {error : PortalError} (solitary : stage.IsSolitary)
    (thrown : throws stage error) :
    Follows config request returns throws (throw error) stage := by
  refine Performs.throw fun later grown => ?_
  obtain rfl := (Stage.grows_iff _ solitary).mp grown
  exact thrown

/-- Bind, for functions that leave what they throw to the request. -/
theorem follows_bind (middle : Stage → β → Prop) {task : Async β}
    {next : β → Async α}
    (first : Follows config request middle (Throws request) task stage)
    (rest : ∀ later value, middle later value →
      Follows config request returns (Throws request) (next value) later) :
    Follows config request returns (Throws request) (task >>= next) stage :=
  Performs.bind _ first rest fun _ _ _ => throws_of_grows

/-- A step that has been computed and does not change the stage. -/
theorem follows_liftStep {step : Except PortalError α}
    (solitary : stage.IsSolitary)
    (ends : Ending returns throws stage step) :
    Follows config request returns throws (liftStep step) stage := by
  refine Performs.computed fun later grown => ?_
  obtain rfl := (Stage.grows_iff _ solitary).mp grown
  exact ends

/-- One operation, awaited in a solitary stage and leading to another. -/
theorem follows_operation {op : Op} {convert : Reply op → Except PortalError α}
    (solitary : stage.IsSolitary)
    (permitted : ∀ reply, ∃ after,
      Permitted config request stage op reply after ∧ after.IsSolitary ∧
        Ending returns throws after (convert reply)) :
    Follows config request returns throws
      (ExceptT.mk (.perform op fun reply => .done (convert reply))) stage := by
  refine Performs.operation fun current grown reply => ?_
  obtain rfl := (Stage.grows_iff _ solitary).mp grown
  obtain ⟨after, allowed, alone, ends⟩ := permitted reply
  refine ⟨after, allowed, fun later further => ?_⟩
  obtain rfl := (Stage.grows_iff _ alone).mp further
  exact ends

/-- An operation whose reply nothing depends on. -/
theorem follows_passive {op : Op} {convert : Reply op → Except PortalError α}
    (solitary : stage.IsSolitary) (running : stage.IsRunning)
    (passive : IsPassive op)
    (ends : ∀ reply, Ending returns throws stage (convert reply)) :
    Follows config request returns throws
      (ExceptT.mk (.perform op fun reply => .done (convert reply))) stage :=
  follows_operation solitary fun reply =>
    ⟨stage, .passive running passive, solitary, ends reply⟩

/-- A query that nothing depends on leaves the request where it was. -/
theorem follows_passiveQuery {statement : Statement}
    (solitary : stage.IsSolitary) (running : stage.IsRunning)
    (passive : IsPassive (.db statement))
    (thrown : ∀ error, Throws request stage error) :
    Follows config request (fun later _ => later = stage) (Throws request)
      (query statement) stage := by
  apply follows_passive solitary running passive
  rintro (error | result)
  · exact thrown (.database error)
  · exact rfl

/-- A value that was found leads to one stage, a missing one to another. -/
def Branches (missed : Stage) (found : α → Stage) (later : Stage) :
    Option α → Prop
  | none => later = missed
  | some value => later = found value

/-! ## The failure write -/

/-- The failure write leads on, or the request stops. -/
def Marked (next : Stage) (later : Stage) : Prop :=
  later = next ∨ later = .stopped

theorem Marked.later {next later current : Stage} (solitary : next.IsSolitary)
    (marked : Marked next later) (grown : Stage.Grows later current) :
    Marked next current := by
  rcases marked with rfl | rfl
  · exact .inl ((Stage.grows_iff _ solitary).mp grown)
  · exact .inr ((Stage.grows_iff .stopped trivial).mp grown)

/-- `updateToFailed`: the write, and the read behind it. -/
theorem follows_updateToFailed (stage next : Stage) {agencyTrackingId : String}
    {code : Option Int} {detail : Option String}
    (solitary : stage.IsSolitary) (nextSolitary : next.IsSolitary)
    (nextRunning : next.IsRunning)
    (permitted : ∀ reply, Permitted config request stage
      (.db (.updateToFailed agencyTrackingId code detail)) reply
      (next.unlessFailed reply)) :
    Follows config request (fun later _ => later = next)
      (fun later _ => Marked next later)
      (TransactionModel.updateToFailed agencyTrackingId code detail) stage := by
  unfold TransactionModel.updateToFailed
  refine Performs.bind (fun later _ => later = next) ?_ ?_ ?_
  · refine follows_operation solitary fun reply => ?_
    cases reply with
    | error error => exact ⟨.stopped, permitted _, trivial, .inr rfl⟩
    | ok count => exact ⟨next, permitted _, nextSolitary, rfl⟩
  · rintro later count rfl
    by_cases unmatched : count = 0
    · rw [TransactionModel.fetchPatched, if_pos unmatched]
      exact follows_pure nextSolitary rfl
    · rw [TransactionModel.fetchPatched, if_neg unmatched]
      refine follows_passive nextSolitary nextRunning trivial ?_
      rintro (error | result)
      · exact .inl rfl
      · exact rfl
  · exact fun later current error marked grown =>
      marked.later nextSolitary grown

/-- `safeUpdateToFailed` neither throws nor depends on the outcome. -/
theorem follows_safeUpdateToFailed (next : Stage) {agencyTrackingId : String}
    {code : Option Int} {detail : Option String}
    (solitary : stage.IsSolitary) (nextSolitary : next.IsSolitary)
    (nextRunning : next.IsRunning)
    (permitted : ∀ reply, Permitted config request stage
      (.db (.updateToFailed agencyTrackingId code detail)) reply
      (next.unlessFailed reply)) :
    Follows config request (fun later _ => Marked next later) (Throws request)
      (safeUpdateToFailed agencyTrackingId code detail) stage := by
  refine Performs.tryCatch (fun later _ => Marked next later)
    (Performs.bind (fun later _ => later = next)
      (follows_updateToFailed _ next solitary nextSolitary nextRunning
        permitted) ?_ ?_) ?_ ?_
  · rintro later value rfl
    exact follows_pure nextSolitary (.inl rfl)
  · exact fun later current error marked grown =>
      marked.later nextSolitary grown
  · rintro later error (rfl | rfl)
    · exact follows_pure nextSolitary (.inl rfl)
    · exact follows_pure trivial (.inr rfl)
  · exact fun later current value marked grown =>
      marked.later nextSolitary grown

/-! ## HTTP attempts -/

/--
The retry loop.  `waiting` holds of the stages in which no usable answer has
arrived yet; it is kept by every attempt that fails.
-/
theorem follows_postAttempts (waiting : Stage → Prop) {soap : SoapRequest}
    {post : Stage → ResponseText → Prop}
    (closed : ∀ {before later}, waiting before → Stage.Grows before later →
      waiting later)
    (permitted : ∀ current, waiting current → ∀ reply, ∃ after,
      Permitted config request current (.fetch soap) reply after ∧
        ∀ later, Stage.Grows after later →
          Ending post (fun reached _ => waiting reached) later reply)
    (attempts : Nat) {stage : Stage} (waits : waiting stage) :
    Follows config request post (fun later _ => waiting later)
      (postAttempts soap attempts) stage := by
  induction attempts generalizing stage with
  | zero =>
      exact Performs.throw fun later grown => closed waits grown
  | succ remaining ih =>
      refine Performs.bind (fun later reply =>
        Ending post (fun reached _ => waiting reached) later reply ∧
          ∀ current, Stage.Grows later current →
            Ending post (fun reached _ => waiting reached) current reply)
        ?_ ?_ fun later current error waits grown => closed waits grown
      · refine Performs.operation fun current grown reply => ?_
        obtain ⟨after, allowed, ends⟩ :=
          permitted current (closed waits grown) reply
        exact ⟨after, allowed, fun later further =>
          ⟨ends later further, fun again more =>
            ends again (further.trans more)⟩⟩
      · rintro later (error | text) ⟨ended, stays⟩
        · have gives : Follows config request post
              (fun later _ => waiting later) (throw (.fetch error)) later :=
            Performs.throw fun current grown => stays current grown
          dsimp only
          split
          · exact gives
          · split
            · exact gives
            · exact ih ended
        · exact Performs.pure fun current grown => stays current grown

/-- `postHttpRequest` in a stage that only its answer changes. -/
theorem follows_postHttpRequest (stage : Stage) {soap : SoapRequest}
    {post : Stage → ResponseText → Prop} (solitary : stage.IsSolitary)
    (permitted : ∀ reply, ∃ after,
      Permitted config request stage (.fetch soap) reply after ∧
        after.IsSolitary ∧
          Ending post (fun reached _ => reached = stage) after reply) :
    Follows config request post (fun later _ => later = stage)
      (postHttpRequest soap) stage := by
  refine follows_postAttempts (fun later => later = stage)
    ?_ ?_ PAYGOV_MAX_ATTEMPTS rfl
  · rintro before later rfl grown
    exact (Stage.grows_iff _ solitary).mp grown
  · rintro current rfl reply
    obtain ⟨after, allowed, alone, ends⟩ := permitted reply
    refine ⟨after, allowed, fun later grown => ?_⟩
    obtain rfl := (Stage.grows_iff _ alone).mp grown
    exact ends

/-- A rejected text is thrown. -/
theorem follows_rejectResponse {text : ResponseText}
    (solitary : stage.IsSolitary) (thrown : ∀ error, throws stage error) :
    Follows config request returns throws (rejectResponse text) stage := by
  cases text <;> exact follows_throw solitary (thrown _)

end PaymentPortal.Protocol
