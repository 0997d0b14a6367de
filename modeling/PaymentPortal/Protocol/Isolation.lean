import PaymentPortal.Interaction.Paired
import PaymentPortal.Protocol.Healthy
import PaymentPortal.Protocol.OwnRows

/-!
# A client's tasks in two worlds

Two worlds have the same rows of a client.  A task of the client is isolated if
it ends in the same way in both, leaves them with the same rows of the client,
and changes no row of another client.  The rules follow the control flow of a
task, with one rule for each kind of operation.
-/

namespace PaymentPortal.Protocol

open PaymentPortal.Interaction
open PaymentPortal.Model
open PaymentPortal.Relational

/--
The worlds agree on the clock and on the client's rows.  They may differ in the
rows of other clients and in what Pay.gov knows.
-/
structure Alike (clientName : String) (one other : World) : Prop where
  now : one.now = other.now
  own : SameRowsOf clientName one.table other.table

/-- Both worlds have changed in the same way, by the client's rows only. -/
structure Isolated (clientName : String) (start worlds : World × World) :
    Prop where
  alike : Alike clientName worlds.1 worlds.2
  first : KeepsOthers clientName start.1.table worlds.1.table
  second : KeepsOthers clientName start.2.table worlds.2.table

/-- A generated id is new to the store, and an issued token to Pay.gov. -/
def hasFreshNames (world : World) : Op → Fate → Bool
  | .generateAgencyTrackingId, .generated agencyTrackingId => decide
      (∀ row ∈ world.table.rows, row.agencyTrackingId ≠ agencyTrackingId)
  | .fetch _, .issued token _ =>
      decide (token ∉ world.payGov.issued.map Prod.fst)
  | _, _ => true

def FreshNames (world : World) (op : Op) (fate : Fate) : Prop :=
  hasFreshNames world op fate = true

instance (world : World) (op : Op) (fate : Fate) :
    Decidable (FreshNames world op fate) :=
  inferInstanceAs (Decidable (_ = true))

variable {clientName : String} {one other : World} {formats : XmlFormats}
variable {start worlds : World × World}

theorem Alike.symm (alike : Alike clientName one other) :
    Alike clientName other one :=
  ⟨alike.now.symm, SameOwn.symm alike.own⟩

theorem Isolated.refl (alike : Alike clientName start.1 start.2) :
    Isolated clientName start start :=
  ⟨alike, .refl _, .refl _⟩

/-! ## Operations in both worlds -/

theorem Alike.withTable {table tableOther : Table}
    (alike : Alike clientName one other)
    (own : SameRowsOf clientName table tableOther) :
    Alike clientName { one with table := table }
      { other with table := tableOther } :=
  ⟨alike.now, own⟩

/-- Both worlds drift alike. -/
theorem Alike.drift {config : Config} {changes : List Drift}
    {oneLater otherLater : World} (alike : Alike clientName one other)
    (drifted : (portal config).driftAll changes one = some oneLater)
    (driftedOther : (portal config).driftAll changes other =
      some otherLater) :
    Alike clientName oneLater otherLater := by
  induction changes generalizing one other with
  | nil =>
      obtain rfl := Option.some.inj drifted
      obtain rfl := Option.some.inj driftedOther
      exact alike
  | cons change rest ih =>
      obtain ⟨next, changed, remaining⟩ := Option.bind_eq_some_iff.mp drifted
      obtain ⟨nextOther, changedOther, remainingOther⟩ :=
        Option.bind_eq_some_iff.mp driftedOther
      refine ih ?_ remaining remainingOther
      cases change with
      | tick ms =>
          obtain rfl := Option.some.inj changed
          obtain rfl := Option.some.inj changedOther
          exact ⟨congrArg (· + (ms : Int)) alike.now, alike.own⟩
      | settle trackingId status =>
          obtain rfl := Option.some.inj changed
          obtain rfl := Option.some.inj changedOther
          exact ⟨alike.now, alike.own⟩

/-- Pay.gov issues a new token. -/
theorem exists_issue? {world : World} {request : SoapRequest} {token : String}
    {delivery : Delivery} (agencyTrackingId : String)
    (fresh : FreshNames world (.fetch request) (.issued token delivery)) :
    ∃ payGov, world.payGov.issue? token agencyTrackingId = some payGov :=
  ⟨_, dif_pos (of_decide_eq_true fresh)⟩

/-- Pay.gov answers a request for a session alike. -/
theorem Alike.execFetch {params : StartOnlineCollectionParams} {fate : Fate}
    {after : World} {reply : Reply (.fetch (.startOnlineCollection params))}
    (alike : Alike clientName one other)
    (fresh : FreshNames other (.fetch (.startOnlineCollection params)) fate)
    (executed : execFetch formats (.startOnlineCollection params) fate one =
      some (reply, after)) :
    ∃ afterOther, Model.execFetch formats (.startOnlineCollection params) fate
        other = some (reply, afterOther) ∧ Alike clientName after afterOther ∧
      after.table = one.table ∧ afterOther.table = other.table := by
  cases fate with
  | unreached error =>
      obtain ⟨rfl, rfl⟩ := Prod.mk.inj (Option.some.inj executed)
      exact ⟨other, rfl, alike, rfl, rfl⟩
  | refused text delivery =>
      simp only [Model.execFetch] at executed ⊢
      split at executed
      · next refusal =>
        obtain ⟨rfl, rfl⟩ := Prod.mk.inj (Option.some.inj executed)
        exact ⟨other, if_pos refusal, alike, rfl, rfl⟩
      · cases executed
  | issued token delivery =>
      obtain ⟨payGov, _, same⟩ := Option.map_eq_some_iff.mp executed
      obtain ⟨rfl, rfl⟩ := Prod.mk.inj same
      obtain ⟨payGovOther, issued⟩ :=
        exists_issue? params.agency_tracking_id fresh
      refine ⟨{ other with payGov := payGovOther }, ?_,
        ⟨alike.now, alike.own⟩, rfl, rfl⟩
      exact Option.map_eq_some_iff.mpr ⟨payGovOther, issued, rfl⟩
  | read | chosen _ | generated _ | executed _ | failed _ | replyLost _
  | completed _ _ | reported _ _ _ _ _ _ => cases executed

/-- A statement about the client's rows does the same in both worlds. -/
theorem Alike.execStatement {statement : Statement} {fate : Fate}
    {after : World} {reply : Reply (.db statement)}
    (alike : Alike clientName one other)
    (concerns : Concerns clientName one.table other.table statement)
    (executed : execStatement statement fate one = some (reply, after)) :
    ∃ afterOther, Model.execStatement statement fate other =
        some (reply, afterOther) ∧ Alike clientName after afterOther ∧
      KeepsOthers clientName one.table after.table ∧
      KeepsOthers clientName other.table afterOther.table := by
  have matched (locked : List String) :
      Matches clientName one.table other.table
        (statement.run one.now locked one.table)
        (statement.run other.now locked other.table) :=
    alike.now ▸ run_matches one.now locked alike.own concerns
  cases statementStep_of_execStatement executed with
  | returned locked result table is_executed ran =>
      obtain ⟨tableOther, ranOther, own, keeps, keepsOther⟩ :=
        (ran ▸ matched locked).of_ok
      refine ⟨{ other with table := tableOther }, ?_, alike.withTable own,
        keeps, keepsOther⟩
      rw [is_executed]
      simp only [Model.execStatement, ranOther]
  | rejected locked error is_executed ran =>
      have ranOther := (ran ▸ matched locked).of_error
      refine ⟨other, ?_, alike, .refl _, .refl _⟩
      rw [is_executed]
      simp only [Model.execStatement, ranOther]
  | failed error is_failed =>
      refine ⟨other, ?_, alike, .refl _, .refl _⟩
      rw [is_failed] at executed ⊢
      simp only [Model.execStatement] at executed ⊢
      split at executed
      · cases executed
      · next allowed => rw [if_neg allowed]
  | replyLost error result table is_lost ran =>
      obtain ⟨tableOther, ranOther, own, keeps, keepsOther⟩ :=
        (ran ▸ matched []).of_ok
      refine ⟨{ other with table := tableOther }, ?_, alike.withTable own,
        keeps, keepsOther⟩
      rw [is_lost] at executed ⊢
      simp only [Model.execStatement] at executed ⊢
      split at executed
      · cases executed
      · next allowed => rw [if_neg allowed, ranOther]

/-! ## Tasks -/

/-- Rows with this id are the client's in both worlds. -/
structure OwnsBoth (clientName id : String) (worlds : World × World) :
    Prop where
  first : OwnsId clientName id worlds.1.table
  second : OwnsId clientName id worlds.2.table

theorem OwnsBoth.later {id : String} (owns : OwnsBoth clientName id start)
    (isolated : Isolated clientName start worlds) :
    OwnsBoth clientName id worlds :=
  ⟨owns.first.later isolated.first, owns.second.later isolated.second⟩

theorem OwnsBoth.earlier {id : String} (owns : OwnsBoth clientName id worlds)
    (isolated : Isolated clientName start worlds) :
    OwnsBoth clientName id start :=
  ⟨owns.first.earlier isolated.first, owns.second.earlier isolated.second⟩

/-- What a task returns and throws in both worlds. -/
abbrev AttainsBoth (config : Config) {α : Type}
    (returns : World × World → α → Prop)
    (throws : World × World → PortalError → Prop) (task : Async α)
    (worlds : World × World) : Prop :=
  (portal config).paired.Attains ((portal config).MeetsBoth FreshNames) returns
    throws task worlds

/-- The task is isolated, and what it returns is as stated. -/
def Isolates (config : Config) (clientName : String) (start : World × World)
    {α : Type} (facts : α → Prop) (task : Async α) : Prop :=
  ∀ worlds, Isolated clientName start worlds →
    AttainsBoth config
      (fun after value => Isolated clientName start after ∧ facts value)
      (fun after _ => Isolated clientName start after) task worlds

section Rules

variable {config : Config} {α β : Type} {facts : α → Prop}

theorem isolates_pure {value : α} (holds : facts value) :
    Isolates config clientName start facts (pure value) :=
  fun _ isolated => Machine.Attains.pure ⟨isolated, holds⟩

theorem isolates_throw (error : PortalError) :
    Isolates config clientName start facts (throw error) :=
  fun _ isolated => Machine.Attains.throw isolated

theorem isolates_liftStep (step : Except PortalError α) :
    Isolates config clientName start (fun _ => True) (liftStep step) := by
  intro worlds isolated
  apply Machine.Attains.computed
  cases step with
  | ok value => exact ⟨isolated, trivial⟩
  | error error => exact isolated

theorem isolates_bind (middle : β → Prop) {task : Async β}
    {next : β → Async α}
    (first : Isolates config clientName start middle task)
    (rest : ∀ value, middle value →
      Isolates config clientName start facts (next value)) :
    Isolates config clientName start facts (task >>= next) := by
  intro worlds isolated
  apply Machine.Attains.bind _ (first worlds isolated)
  rintro after value ⟨isolated, holds⟩
  exact rest value holds after isolated

theorem isolates_tryCatch {task : Async α} {handler : PortalError → Async α}
    (first : Isolates config clientName start facts task)
    (handled : ∀ error,
      Isolates config clientName start facts (handler error)) :
    Isolates config clientName start facts (tryCatch task handler) := by
  intro worlds isolated
  refine Machine.Attains.tryCatch _ (first worlds isolated) ?_
  exact fun after error isolated => handled error after isolated

/-- An operation that does the same in both worlds. -/
theorem attainsBoth_operation {op : Op}
    {convert : Reply op → Except PortalError α}
    {returns : World × World → α → Prop}
    {throws : World × World → PortalError → Prop}
    (isolated : Isolated clientName start worlds)
    (performed : ∀ here, Isolated clientName start here →
      here.1.table = worlds.1.table → here.2.table = worlds.2.table →
      ∀ fate reply after,
        exec config.xmlFormats op fate here.1 = some (reply, after) →
        FreshNames here.1 op fate → FreshNames here.2 op fate →
        ∃ afterOther,
          exec config.xmlFormats op fate here.2 = some (reply, afterOther) ∧
          Ending returns throws (after, afterOther) (convert reply)) :
    AttainsBoth config returns throws
      (ExceptT.mk (.perform op fun reply => .done (convert reply))) worlds := by
  apply Machine.Attains.operation
  intro changes here drifted fate ⟨enabled, fresh, freshOther⟩
  obtain ⟨drift, driftOther⟩ := Machine.driftAll_paired_eq_some.mp drifted
  have kept := (drifts_of_driftAll drift).table
  have keptOther := (drifts_of_driftAll driftOther).table
  have stillIsolated : Isolated clientName start here :=
    ⟨isolated.alike.drift drift driftOther, kept ▸ isolated.first,
      keptOther ▸ isolated.second⟩
  obtain ⟨⟨reply, after⟩, executed⟩ := Option.isSome_iff_exists.mp enabled
  obtain ⟨afterOther, executedOther, ended⟩ := performed here stillIsolated kept
    keptOther fate reply after executed fresh freshOther
  exact ⟨reply, (after, afterOther),
    Machine.exec_paired_eq_some.mpr ⟨executed, executedOther⟩, ended⟩

theorem isolates_dateNow :
    Isolates config clientName start (fun _ => True) dateNow := by
  intro worlds isolated
  apply attainsBoth_operation isolated
  intro here isolated _ _ fate reply after executed _ _
  cases fate with
  | read =>
      obtain ⟨rfl, rfl⟩ := Prod.mk.inj (Option.some.inj executed)
      refine ⟨here.2, ?_, isolated, trivial⟩
      rw [isolated.alike.now]
      rfl
  | chosen _ | generated _ | executed _ | failed _ | replyLost _ | unreached _
  | refused _ _ | issued _ _ | completed _ _ | reported _ _ _ _ _ _ =>
      cases executed

/-- A new id is the client's as soon as it is used. -/
theorem isolates_generateAgencyTrackingId :
    Isolates config clientName start
      (fun id => OwnsBoth clientName id start) generateAgencyTrackingId := by
  intro worlds isolated
  apply attainsBoth_operation isolated
  intro here isolated _ _ fate reply after executed fresh freshOther
  cases fate with
  | generated id =>
      obtain ⟨rfl, rfl⟩ := Prod.mk.inj (Option.some.inj executed)
      refine ⟨here.2, rfl, isolated, OwnsBoth.earlier ⟨?_, ?_⟩ isolated⟩
      · exact fun row member isId =>
          absurd isId (of_decide_eq_true fresh row member)
      · exact fun row member isId =>
          absurd isId (of_decide_eq_true freshOther row member)
  | read | chosen _ | executed _ | failed _ | replyLost _ | unreached _
  | refused _ _ | issued _ _ | completed _ _ | reported _ _ _ _ _ _ =>
      cases executed

theorem isolates_fetch (params : StartOnlineCollectionParams) :
    Isolates config clientName start (fun _ => True)
      (fetch (.startOnlineCollection params)) := by
  intro worlds isolated
  apply attainsBoth_operation isolated
  intro here isolated _ _ fate reply after executed _ freshOther
  obtain ⟨afterOther, executedOther, alike, kept, keptOther⟩ :=
    isolated.alike.execFetch freshOther executed
  exact ⟨afterOther, executedOther, ⟨alike, kept ▸ isolated.first,
    keptOther ▸ isolated.second⟩, trivial⟩

/-- A statement about the client's rows. -/
theorem attainsBoth_query {statement : Statement}
    {facts : statement.Result → Prop}
    (isolated : Isolated clientName start worlds)
    (concerns : Concerns clientName worlds.1.table worlds.2.table statement)
    (found : ∀ now locked result after, statement.run now locked
      worlds.1.table = .ok (result, after) → facts result) :
    AttainsBoth config
      (fun after value => Isolated clientName start after ∧ facts value)
      (fun after _ => Isolated clientName start after) (query statement)
      worlds := by
  apply attainsBoth_operation isolated
  intro here isolated kept keptOther fate reply after executed _ _
  rw [← kept, ← keptOther] at concerns
  obtain ⟨afterOther, executedOther, alike, keeps, keepsOther⟩ :=
    isolated.alike.execStatement concerns executed
  refine ⟨afterOther, executedOther, ?_⟩
  have later : Isolated clientName start (after, afterOther) :=
    ⟨alike, isolated.first.trans keeps, isolated.second.trans keepsOther⟩
  cases statementStep_of_execStatement executed with
  | returned locked result table _ ran =>
      exact ⟨later, found _ locked result table (kept ▸ ran)⟩
  | rejected _ _ _ _ => exact later
  | failed _ _ => exact later
  | replyLost _ _ _ _ _ => exact later

theorem isolates_query {statement : Statement} {facts : statement.Result → Prop}
    (concerns : ∀ worlds, Isolated clientName start worlds →
      Concerns clientName worlds.1.table worlds.2.table statement)
    (found : ∀ worlds, Isolated clientName start worlds →
      ∀ now locked result after, statement.run now locked worlds.1.table =
        .ok (result, after) → facts result) :
    Isolates config clientName start facts (query statement) :=
  fun worlds isolated => attainsBoth_query isolated (concerns worlds isolated)
    (found worlds isolated)

/-- A statement about the client's rows whose result does not matter. -/
theorem isolates_statement {statement : Statement}
    (concerns : ∀ worlds, Isolated clientName start worlds →
      Concerns clientName worlds.1.table worlds.2.table statement) :
    Isolates config clientName start (fun _ => True) (query statement) :=
  isolates_query concerns fun _ _ _ _ _ _ _ => trivial

end Rules

end PaymentPortal.Protocol
