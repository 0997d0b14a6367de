import PaymentPortal.Interaction.Derived
import PaymentPortal.Maintenance.MigrationHandler

/-!
# What an invocation may do

The discipline of the migration runner.  A Knex instance is used between its
creation and its destruction only, and there is never more than one.  What
changes the cluster needs a reason: the own database or the role of the own
secret, the name of a closed pull request, a confirmation, or a `create-db`
that has failed.  Knex is asked for what the command is about only.
-/

namespace PaymentPortal.Maintenance

open PaymentPortal.Interaction

/-- How far an invocation has come. -/
structure Progress where
  failed : Bool
  secrets : List Secret
  opened : Option Connection
  deriving DecidableEq

/-- Nothing has happened yet. -/
def Progress.start : Progress := ⟨false, [], none⟩

/-- The reply says that the operation has failed. -/
def isFailure : (op : Op) → Reply op → Bool
  | .getSecretValue _, .error _ => true
  | .destroy _, .error _ => true
  | .raw _ _, .error _ => true
  | .report _ _, .error _ => true
  | .knex _ _, .error _ => true
  | _, _ => false

/-- The own secret of the pull request, when it has been read. -/
def prSecret? (env : LambdaEnv) : (op : Op) → Reply op → Option Secret
  | .getSecretValue secretArn, .ok value =>
      if env.PR_USER_SECRET_ARN = some secretArn then
        (readSecret secretArn value).toOption
      else none
  | _, _ => none

/-- The instance that is open after an operation. -/
def openAfter (opened : Option Connection) : Op → Option Connection
  | .connect connection => some connection
  | .destroy _ => none
  | _ => opened

/-- The progress after an operation. -/
def Progress.next (invocation : Invocation) (progress : Progress) (op : Op)
    (reply : Reply op) : Progress where
  failed := progress.failed || isFailure op reply
  secrets := (prSecret? invocation.env op reply).toList ++ progress.secrets
  opened := openAfter progress.opened op

/-- Why a database may be dropped. -/
inductive MayDropDatabase (invocation : Invocation) (failed : Prop)
    (name : String) : Prop where
  | cleanup (isCommand : commandOf invocation.event = .createDb)
      (isOwn : present invocation.env.RDS_DB_NAME = some name)
      (hasFailed : failed)
  | requested (isCommand : commandOf invocation.event = .dropDb)
      (isOwn : present invocation.env.RDS_DB_NAME = some name)
      (isPr : (digitsAfter? PR_DATABASE name).isSome = true)
  | collected (isCommand : commandOf invocation.event = .gcDbs)
      (openPrNumbers : List JsNumber)
      (isGiven : openPrNumbersOf invocation.event = some openPrNumbers)
      (closed : isClosed PR_DATABASE openPrNumbers name = true)

/-- Whether a database may be dropped can be told. -/
theorem mayDropDatabase_iff {invocation : Invocation} {failed : Prop}
    {name : String} : MayDropDatabase invocation failed name ↔
      (commandOf invocation.event = .createDb ∧
        present invocation.env.RDS_DB_NAME = some name ∧ failed) ∨
      (commandOf invocation.event = .dropDb ∧
        present invocation.env.RDS_DB_NAME = some name ∧
        (digitsAfter? PR_DATABASE name).isSome = true) ∨
      (commandOf invocation.event = .gcDbs ∧
        ∃ openPrNumbers ∈ openPrNumbersOf invocation.event,
          isClosed PR_DATABASE openPrNumbers name = true) := by
  constructor
  · rintro (⟨isCommand, isOwn, hasFailed⟩ | ⟨isCommand, isOwn, isPr⟩ |
      ⟨isCommand, openPrNumbers, isGiven, closed⟩)
    · exact .inl ⟨isCommand, isOwn, hasFailed⟩
    · exact .inr (.inl ⟨isCommand, isOwn, isPr⟩)
    · exact .inr (.inr ⟨isCommand, openPrNumbers, isGiven, closed⟩)
  · rintro (⟨isCommand, isOwn, hasFailed⟩ | ⟨isCommand, isOwn, isPr⟩ |
      ⟨isCommand, openPrNumbers, isGiven, closed⟩)
    · exact .cleanup isCommand isOwn hasFailed
    · exact .requested isCommand isOwn isPr
    · exact .collected isCommand openPrNumbers isGiven closed

instance (invocation : Invocation) (failed : Prop) [Decidable failed]
    (name : String) : Decidable (MayDropDatabase invocation failed name) :=
  decidable_of_iff _ mayDropDatabase_iff.symm

/-- The role is that of one of the secrets. -/
def OwnRole (secrets : List Secret) (name : String) : Prop :=
  ∃ secret ∈ secrets, secret.username = name

/-- Why a role may be dropped. -/
inductive MayDropRole (invocation : Invocation) (isOwn : Prop)
    (name : String) : Prop where
  | own (isCommand : commandOf invocation.event = .deprovisionUser)
      (named : isOwn)
  | collected (isCommand : commandOf invocation.event = .gcRoles)
      (openPrNumbers : List JsNumber)
      (isGiven : openPrNumbersOf invocation.event = some openPrNumbers)
      (closed : isClosed PR_ROLE openPrNumbers name = true)

/-- Whether a role may be dropped can be told. -/
theorem mayDropRole_iff {invocation : Invocation} {isOwn : Prop}
    {name : String} : MayDropRole invocation isOwn name ↔
      (commandOf invocation.event = .deprovisionUser ∧ isOwn) ∨
      (commandOf invocation.event = .gcRoles ∧
        ∃ openPrNumbers ∈ openPrNumbersOf invocation.event,
          isClosed PR_ROLE openPrNumbers name = true) := by
  constructor
  · rintro (⟨isCommand, named⟩ | ⟨isCommand, openPrNumbers, isGiven, closed⟩)
    · exact .inl ⟨isCommand, named⟩
    · exact .inr ⟨isCommand, openPrNumbers, isGiven, closed⟩
  · rintro (⟨isCommand, named⟩ | ⟨isCommand, openPrNumbers, isGiven, closed⟩)
    · exact .own isCommand named
    · exact .collected isCommand openPrNumbers isGiven closed

instance (invocation : Invocation) (isOwn : Prop) [Decidable isOwn]
    (name : String) : Decidable (MayDropRole invocation isOwn name) :=
  decidable_of_iff _ mayDropRole_iff.symm

/-- The instance is one over the application database of the settings. -/
def IsApplication (env : LambdaEnv) (connection : Connection) : Prop :=
  getLocalConnection env = .ok connection ∨
    connection.database = env.RDS_DB_NAME.getD "paymentportal"

/-- Why a statement may be executed that changes something. -/
def MayChange (invocation : Invocation) (progress : Progress)
    (connection : Connection) : Statement → Prop
  | .createDatabase name => commandOf invocation.event = .createDb ∧
      present invocation.env.RDS_DB_NAME = some name
  | .dropDatabase name =>
      MayDropDatabase invocation (progress.failed = true) name
  | .roleCommand sql => commandOf invocation.event = .provisionUser ∧
      ∃ secret ∈ progress.secrets, ∃ alter,
        sql = roleSql alter secret.username secret.password
  | .dropRole name =>
      MayDropRole invocation (OwnRole progress.secrets name) name
  | .grant privilege role => commandOf invocation.event = .provisionUser ∧
      OwnRole progress.secrets role ∧
      IsApplication invocation.env connection ∧
      ∃ dbName, present invocation.env.RDS_DB_NAME = some dbName ∧
        privilege ∈ prPrivileges dbName connection.user
  | .terminateBackends role => commandOf invocation.event = .deprovisionUser ∧
      OwnRole progress.secrets role
  | .reassignOwned role newOwner =>
      commandOf invocation.event = .deprovisionUser ∧
        OwnRole progress.secrets role ∧
        IsApplication invocation.env connection ∧ newOwner = connection.user
  | .dropOwned role => commandOf invocation.event = .deprovisionUser ∧
      OwnRole progress.secrets role
  | _ => True

/-- Why Knex may be asked for a task. -/
def MayAsk (invocation : Invocation) : KnexTask → Prop
  | .latest => commandOf invocation.event = .migrate
  | .seed => commandOf invocation.event = .seed
  | .currentVersion => commandOf invocation.event = .verify
  | .rollback => commandOf invocation.event = .rollback ∧
      isConfirmed invocation.event = true
  | .forceFreeMigrationsLock => commandOf invocation.event = .unlock ∧
      isConfirmed invocation.event = true

/-- Why an operation may be executed. -/
def MayPerform (invocation : Invocation) (progress : Progress) : Op → Prop
  | .raw connection statement =>
      MayChange invocation progress connection statement
  | .knex _ task => MayAsk invocation task
  | _ => True

/-- The instance that an operation needs to be open. -/
def used? : Op → Option Connection
  | .destroy connection => some connection
  | .raw connection _ => some connection
  | .report connection _ => some connection
  | .knex connection _ => some connection
  | _ => none

/-- The instances fit: one is used while it is open, or created when none is. -/
def Fits (opened : Option Connection) : Op → Prop
  | .connect _ => opened = none
  | op => ∀ connection, used? op = some connection → opened = some connection

/-- The operations an invocation may perform. -/
structure Permitted (invocation : Invocation) (progress : Progress)
    (op : Op) : Prop where
  reason : MayPerform invocation progress op
  fits : Fits progress.opened op

/-- The discipline of an invocation. -/
def guarded (invocation : Invocation) : Discipline Op Reply Progress :=
  .derived (Permitted invocation) (Progress.next invocation)

/-- The same instance is open, and no secret has been forgotten. -/
structure Follows (progress later : Progress) : Prop where
  opened : later.opened = progress.opened
  secrets : progress.secrets ⊆ later.secrets

theorem Follows.refl (progress : Progress) : Follows progress progress :=
  ⟨rfl, List.Subset.refl _⟩

theorem Follows.trans {first second third : Progress}
    (earlier : Follows first second) (later : Follows second third) :
    Follows first third :=
  ⟨later.opened.trans earlier.opened,
    List.Subset.trans earlier.secrets later.secrets⟩

/-- A task of the handler that leaves the instance open as it is. -/
def Behaves {α : Type} (invocation : Invocation)
    (returns : Progress → α → Prop) (task : Task α) (progress : Progress) :
    Prop :=
  Performs (guarded invocation)
    (fun later value => Follows progress later ∧ returns later value)
    (fun later _ => Follows progress later) task progress

section Rules

variable {α β : Type} {invocation : Invocation} {progress : Progress}
variable {returns : Progress → α → Prop}

theorem Behaves.pure {value : α} (returned : returns progress value) :
    Behaves invocation returns (Pure.pure value) progress :=
  Solitary.pure ⟨.refl progress, returned⟩

theorem Behaves.throw {message : String} :
    Behaves invocation returns (MonadExcept.throw message : Task α) progress :=
  Solitary.throw (.refl progress)

theorem Behaves.bind (middle : Progress → β → Prop) {task : Task β}
    {next : β → Task α} (first : Behaves invocation middle task progress)
    (rest : ∀ later value, Follows progress later → middle later value →
      Behaves invocation returns (next value) later) :
    Behaves invocation returns (task >>= next) progress := by
  refine Solitary.bind _ first fun later value met => ?_
  refine (rest later value met.1 met.2).mono ?_ ?_
  · exact fun last result ended => ⟨met.1.trans ended.1, ended.2⟩
  · exact fun last error ended => met.1.trans ended

/-- What a computed step returns. -/
theorem Behaves.settle {step : Except String α}
    (returned : ∀ value, step = .ok value → returns progress value) :
    Behaves invocation returns (settle step) progress := by
  refine Solitary.computed ?_
  cases step with
  | error message => exact .refl progress
  | ok value => exact ⟨.refl progress, returned value rfl⟩

theorem Behaves.mono {fewer : Progress → α → Prop} {task : Task α}
    (behaves : Behaves invocation fewer task progress)
    (returned : ∀ later value, fewer later value → returns later value) :
    Behaves invocation returns task progress :=
  Performs.mono behaves
    (fun later value ended => ⟨ended.1, returned later value ended.2⟩)
    fun _ _ ended => ended

end Rules

/-! ## Operations -/

section Operations

variable {α : Type} {invocation : Invocation} {progress : Progress}
variable {connection : Connection} {returns : Progress → α → Prop}

/-- An operation that leaves the open instance alone. -/
theorem follows_next {op : Op} (reply : Reply op)
    (quiet : openAfter progress.opened op = progress.opened) :
    Follows progress (Progress.next invocation progress op reply) :=
  ⟨quiet, List.subset_append_right _ _⟩

/-- One operation; when it throws it has failed. -/
theorem performs_operation {op : Op} {convert : Reply op → Except String α}
    (quiet : openAfter progress.opened op = progress.opened)
    (reason : MayPerform invocation progress op)
    (fits : Fits progress.opened op)
    (returned : ∀ reply value, convert reply = .ok value →
      returns (Progress.next invocation progress op reply) value)
    (thrown : ∀ reply message, convert reply = .error message →
      isFailure op reply = true) :
    Performs (guarded invocation)
      (fun later value => Follows progress later ∧ returns later value)
      (fun later _ => Follows progress later ∧ later.failed = true)
      (ExceptT.mk (.perform op fun reply => .done (convert reply)))
      progress := by
  refine Solitary.operation fun reply =>
    ⟨Progress.next invocation progress op reply, ⟨⟨reason, fits⟩, rfl⟩, ?_⟩
  cases converted : convert reply with
  | error message =>
      refine ⟨follows_next reply quiet, ?_⟩
      simp [Progress.next, thrown reply message converted]
  | ok value => exact ⟨follows_next reply quiet, returned reply value converted⟩

theorem performs_raw (statement : Statement)
    (opened : progress.opened = some connection)
    (reason : MayChange invocation progress connection statement) :
    Performs (guarded invocation)
      (fun later _ => Follows progress later ∧ True)
      (fun later _ => Follows progress later ∧ later.failed = true)
      (raw connection statement) progress := by
  refine performs_operation rfl reason ?_ (fun _ _ _ => trivial) ?_
  · exact fun used isUsed => opened.trans isUsed
  · intro reply message failed
    rw [failed]
    rfl

/-- A statement over the instance that is open. -/
theorem behaves_raw {statement : Statement}
    (opened : progress.opened = some connection)
    (reason : MayChange invocation progress connection statement) :
    Behaves invocation (fun _ _ => True) (raw connection statement)
      progress :=
  (performs_raw statement opened reason).monoThrows fun _ _ ended => ended.1

theorem behaves_report {query : Report}
    (opened : progress.opened = some connection) :
    Behaves invocation (fun _ _ => True) (report connection query)
      progress := by
  refine Solitary.operation fun reply => ⟨_, ⟨⟨trivial, ?_⟩, rfl⟩, ?_⟩
  · exact fun used isUsed => opened.trans isUsed
  · cases reply with
    | error message => exact follows_next _ rfl
    | ok rows => exact ⟨follows_next _ rfl, trivial⟩

theorem behaves_knex {task : KnexTask}
    (opened : progress.opened = some connection)
    (reason : MayAsk invocation task) :
    Behaves invocation (fun _ _ => True) (knex connection task) progress := by
  refine Solitary.operation fun reply => ⟨_, ⟨⟨reason, ?_⟩, rfl⟩, ?_⟩
  · exact fun used isUsed => opened.trans isUsed
  · cases reply with
    | error message => exact follows_next _ rfl
    | ok rows => exact ⟨follows_next _ rfl, trivial⟩

/-- The own secret names the role of the pull request. -/
theorem behaves_getRdsSecret (secretArn : String) :
    Behaves invocation
      (fun later secret =>
        invocation.env.PR_USER_SECRET_ARN = some secretArn →
          secret ∈ later.secrets)
      (getRdsSecret secretArn) progress := by
  refine Solitary.operation fun reply => ⟨_, ⟨⟨trivial, nofun⟩, rfl⟩, ?_⟩
  cases reply with
  | error message => exact follows_next _ rfl
  | ok value =>
      cases read : readSecret secretArn value with
      | error message =>
          rw [Except.bind, read]
          exact follows_next _ rfl
      | ok secret =>
          rw [Except.bind, read]
          refine ⟨follows_next _ rfl, fun isOwn => ?_⟩
          have named : prSecret? invocation.env (.getSecretValue secretArn)
              (.ok value) = some secret := by
            simp only [prSecret?, if_pos isOwn, read, Except.toOption]
          simp [Progress.next, named]

/-- The outcome of a task as a value. -/
theorem performs_observe {task : Task α} {throws : Progress → String → Prop}
    (performs : Performs (guarded invocation) returns throws task progress) :
    Performs (guarded invocation) (Ending returns throws)
      (fun _ _ => False) (observe task) progress := by
  refine Program.Conforms.bind _ performs fun later outcome ended => ?_
  rintro current rfl
  exact ended

/-- The instance is destroyed however its body ends. -/
theorem behaves_withKnex {holds : α → Prop} {body : Task α}
    (closed : progress.opened = none)
    (behaves : ∀ later, later.opened = some connection →
      progress.secrets ⊆ later.secrets →
        Behaves invocation (fun _ value => holds value) body later) :
    Behaves invocation (fun _ value => holds value)
      (withKnex connection body) progress := by
  unfold withKnex
  refine Solitary.bind
    (fun later _ => later.opened = some connection ∧
      progress.secrets ⊆ later.secrets) ?_ fun opened _ isOpen => ?_
  · refine Solitary.operation fun reply => ⟨_, ⟨⟨trivial, closed⟩, rfl⟩, ?_⟩
    exact ⟨rfl, List.subset_append_right _ _⟩
  refine Solitary.bind
    (fun later outcome => later.opened = some connection ∧
      progress.secrets ⊆ later.secrets ∧
        ∀ value, outcome = .ok value → holds value) ?_
    fun used outcome isUsed => ?_
  · refine (performs_observe (behaves opened isOpen.1 isOpen.2)).mono ?_ nofun
    rintro later (message | value) ended
    · exact ⟨ended.opened.trans isOpen.1,
        List.Subset.trans isOpen.2 ended.secrets, nofun⟩
    · refine ⟨ended.1.opened.trans isOpen.1,
        List.Subset.trans isOpen.2 ended.1.secrets, ?_⟩
      intro other same
      obtain rfl := Except.ok.inj same
      exact ended.2
  have closes : ∀ reply, Follows progress
      (Progress.next invocation used (.destroy connection) reply) := fun reply =>
    ⟨closed.symm, List.Subset.trans isUsed.2.1 (List.subset_append_right _ _)⟩
  refine Solitary.bind (fun later _ => Follows progress later) ?_
    fun last _ follows => ?_
  · refine Solitary.operation fun reply => ⟨_, ⟨⟨trivial, ?_⟩, rfl⟩, ?_⟩
    · exact fun other isOther => isUsed.1.trans isOther
    · cases reply with
      | error message => exact closes _
      | ok _ => exact closes _
  · refine Solitary.computed ?_
    cases outcome with
    | error message => exact follows
    | ok value => exact ⟨follows, isUsed.2.2 value rfl⟩

end Operations

/-! ## Commands -/

section Commands

variable {α : Type} {invocation : Invocation} {progress : Progress}
variable {holds : α → Prop}

/-- Nothing is said about the value. -/
theorem Behaves.any {returns : Progress → α → Prop} {task : Task α}
    (behaves : Behaves invocation returns task progress) :
    Behaves invocation (fun _ _ => True) task progress :=
  behaves.mono fun _ _ _ => trivial

/-- The settings name the application database. -/
theorem behaves_getDatabaseConnection (env : LambdaEnv) :
    Behaves invocation (fun _ connection => IsApplication env connection)
      (getDatabaseConnection env) progress := by
  unfold getDatabaseConnection
  split
  · exact Behaves.settle fun _ isLocal => .inl isLocal
  · refine Behaves.bind (fun _ _ => True) (.settle fun _ _ => trivial)
      fun _ _ _ _ => ?_
    exact Behaves.bind _ (behaves_getRdsSecret _) fun _ _ _ _ =>
      Behaves.pure (.inr rfl)
  · exact Behaves.throw

theorem behaves_getMaintenanceConnection (env : LambdaEnv) :
    Behaves invocation (fun _ _ => True) (getMaintenanceConnection env)
      progress := by
  refine Behaves.bind (fun _ _ => True) (.settle fun _ _ => trivial)
    fun _ _ _ _ => ?_
  refine Behaves.bind (fun _ _ => True) (.settle fun _ _ => trivial)
    fun _ _ _ _ => ?_
  refine Behaves.bind (fun _ _ => True) (.settle fun _ _ => trivial)
    fun _ _ _ _ => ?_
  exact Behaves.bind _ (behaves_getRdsSecret _) fun _ _ _ _ =>
    Behaves.pure trivial

theorem behaves_withMaintenanceKnex {env : LambdaEnv}
    {body : Connection → Task α} (closed : progress.opened = none)
    (behaves : ∀ connection later, later.opened = some connection →
      progress.secrets ⊆ later.secrets →
        Behaves invocation (fun _ value => holds value) (body connection)
          later) :
    Behaves invocation (fun _ value => holds value)
      (withMaintenanceKnex env body) progress := by
  refine Behaves.bind (fun _ _ => True) (behaves_getMaintenanceConnection env)
    fun passed connection follows _ => ?_
  refine behaves_withKnex (follows.opened.trans closed) fun later opened grown =>
    ?_
  exact behaves connection later opened
    (List.Subset.trans follows.secrets grown)

theorem behaves_withApplicationKnex {env : LambdaEnv}
    {body : Connection → Task α} (closed : progress.opened = none)
    (behaves : ∀ connection later, IsApplication env connection →
      later.opened = some connection → progress.secrets ⊆ later.secrets →
        Behaves invocation (fun _ value => holds value) (body connection)
          later) :
    Behaves invocation (fun _ value => holds value)
      (withApplicationKnex env body) progress := by
  refine Behaves.bind _ (behaves_getDatabaseConnection env)
    fun passed connection follows isApplication => ?_
  refine behaves_withKnex (follows.opened.trans closed) fun later opened grown =>
    ?_
  exact behaves connection later isApplication opened
    (List.Subset.trans follows.secrets grown)

/-- A setting that is required is the one that is set. -/
theorem present_of_required {setting : Option String} {message value : String}
    (read : required setting message = .ok value) :
    present setting = some value := by
  unfold required at read
  split at read
  · next found =>
      rw [found, Except.ok.inj read]
  · exact absurd read (by simp)

/-- The cleanup of `createDb` comes after a failure. -/
theorem behaves_createDb
    (isCommand : commandOf invocation.event = .createDb)
    (closed : progress.opened = none) :
    Behaves invocation (fun _ _ => True) (createDb invocation.env)
      progress := by
  refine Behaves.bind
    (fun _ dbName => present invocation.env.RDS_DB_NAME = some dbName)
    (.settle fun _ read => present_of_required read)
    fun passed dbName follows isOwn => ?_
  refine behaves_withMaintenanceKnex (follows.opened.trans closed)
    fun connection later opened _ => ?_
  refine Solitary.tryCatch
    (fun last _ => Follows later last ∧ last.failed = true) ?_
    fun last message ended => ?_
  · refine Solitary.bind _ (performs_raw _ opened trivial)
      fun asked isThere known => ?_
    split
    · exact Solitary.pure ⟨known.1, trivial⟩
    · refine Solitary.bind
        (fun made _ => Follows asked made ∧ True)
        ((performs_raw (.createDatabase dbName)
          (known.1.opened.trans opened) ⟨isCommand, isOwn⟩).monoThrows
            fun _ _ ended => ⟨known.1.trans ended.1, ended.2⟩)
        fun made _ created => ?_
      exact Solitary.pure ⟨known.1.trans created.1, trivial⟩
  · have stillOpen := ended.1.opened.trans opened
    have cleans : Behaves invocation (fun _ _ => True)
        (tryCatch (raw connection (.dropDatabase dbName)) fun _ => pure ())
        last := by
      refine Solitary.tryCatch _ (behaves_raw stillOpen
        (.cleanup isCommand isOwn ended.2)) fun cleaned _ follows => ?_
      exact Solitary.pure ⟨follows, trivial⟩
    have throws : Behaves invocation (fun _ _ => True)
        (do
          tryCatch (raw connection (.dropDatabase dbName)) fun _ => pure ()
          throw message : Task Body) last :=
      Behaves.bind _ cleans fun _ _ _ _ => Behaves.throw
    exact Performs.mono throws
      (fun _ _ met => ⟨ended.1.trans met.1, met.2⟩)
      fun _ _ follows => ended.1.trans follows

theorem behaves_dropDb (isCommand : commandOf invocation.event = .dropDb)
    (closed : progress.opened = none) :
    Behaves invocation (fun _ _ => True) (dropDb invocation.env)
      progress := by
  refine Behaves.bind
    (fun _ dbName => present invocation.env.RDS_DB_NAME = some dbName)
    (.settle fun _ read => present_of_required read)
    fun passed dbName follows isOwn => ?_
  split
  · exact Behaves.throw
  · next isPr =>
      refine behaves_withMaintenanceKnex (follows.opened.trans closed)
        fun connection later opened _ => ?_
      refine Behaves.bind _ (behaves_raw opened
        (.requested isCommand isOwn ?_)) fun _ _ _ _ => Behaves.pure trivial
      rwa [Option.isNone_iff_eq_none, ← Ne, Option.ne_none_iff_isSome] at isPr

/-- Only databases of closed pull requests are dropped. -/
theorem behaves_dropDatabases {openPrNumbers : List JsNumber}
    {connection : Connection}
    (isCommand : commandOf invocation.event = .gcDbs)
    (isGiven : openPrNumbersOf invocation.event = some openPrNumbers)
    (rows : List String) (opened : progress.opened = some connection) :
    Behaves invocation (fun _ _ => True)
      (dropDatabases connection openPrNumbers rows) progress := by
  induction rows generalizing progress with
  | nil => exact Behaves.pure trivial
  | cons datname rest ih =>
      rw [dropDatabases]
      split
      · next closed =>
          refine Behaves.bind _ (behaves_raw opened
            (.collected isCommand openPrNumbers isGiven closed))
            fun later _ follows _ => ?_
          exact Behaves.bind _ (ih (follows.opened.trans opened))
            fun _ _ _ _ => Behaves.pure trivial
      · exact ih opened

/-- Only roles of closed pull requests are dropped. -/
theorem behaves_dropRoles {openPrNumbers : List JsNumber}
    {connection : Connection}
    (isCommand : commandOf invocation.event = .gcRoles)
    (isGiven : openPrNumbersOf invocation.event = some openPrNumbers)
    (rows : List String) (opened : progress.opened = some connection) :
    Behaves invocation (fun _ _ => True)
      (dropRoles connection openPrNumbers rows) progress := by
  induction rows generalizing progress with
  | nil => exact Behaves.pure trivial
  | cons rolname rest ih =>
      rw [dropRoles]
      split
      · next closed =>
          have reason : MayChange invocation progress connection
              (.dropRole rolname) :=
            .collected isCommand openPrNumbers isGiven closed
          have dropping := performs_observe (behaves_raw opened reason)
          have passes : Behaves invocation (fun _ _ => True)
              (observe (raw connection (.dropRole rolname))) progress := by
            refine dropping.mono ?_ nofun
            rintro later (message | _) ended
            · exact ⟨ended, trivial⟩
            · exact ⟨ended.1, trivial⟩
          refine Behaves.bind _ passes fun later outcome follows _ => ?_
          refine Behaves.bind (fun _ _ => True)
            (ih (follows.opened.trans opened)) fun _ found _ _ => ?_
          cases outcome <;> exact Behaves.pure trivial
      · exact ih opened

/-- A role is one's own as long as its secret is not forgotten. -/
theorem OwnRole.later {earlier later : Progress} {prRole : String}
    (own : OwnRole earlier.secrets prRole) (follows : Follows earlier later) :
    OwnRole later.secrets prRole := by
  obtain ⟨secret, member, named⟩ := own
  exact ⟨secret, follows.secrets member, named⟩

theorem behaves_grantAll {connection : Connection} {prRole dbName : String}
    (isCommand : commandOf invocation.event = .provisionUser)
    (isApplication : IsApplication invocation.env connection)
    (isOwn : present invocation.env.RDS_DB_NAME = some dbName)
    (privileges : List Privilege)
    (allOwn : privileges ⊆ prPrivileges dbName connection.user)
    (opened : progress.opened = some connection)
    (own : OwnRole progress.secrets prRole) :
    Behaves invocation (fun _ _ => True)
      (grantAll connection prRole privileges) progress := by
  induction privileges generalizing progress with
  | nil => exact Behaves.pure trivial
  | cons privilege rest ih =>
      obtain ⟨member, restOwn⟩ := List.cons_subset.mp allOwn
      exact Behaves.bind _ (behaves_raw opened
        ⟨isCommand, own, isApplication, dbName, isOwn, member⟩)
        fun _ _ follows _ => ih restOwn (follows.opened.trans opened)
          (own.later follows)

/-- The role that is provisioned is that of the own secret. -/
theorem behaves_provisionUser
    (isCommand : commandOf invocation.event = .provisionUser)
    (closed : progress.opened = none) :
    Behaves invocation (fun _ _ => True) (provisionUser invocation.env)
      progress := by
  unfold provisionUser
  split
  · exact Behaves.pure trivial
  · next secretArn isSet =>
      refine Behaves.bind
        (fun _ dbName => present invocation.env.RDS_DB_NAME = some dbName)
        (.settle fun _ read => present_of_required read)
        fun named dbName wasNamed isOwn => ?_
      refine Behaves.bind _ (behaves_getRdsSecret secretArn)
        fun known secret wasKnown isRead => ?_
      have member := isRead (present_eq_some.mp isSet).1
      have knownClosed :=
        (wasKnown.opened.trans wasNamed.opened).trans closed
      refine Behaves.bind (fun _ _ => True) ?_ fun made _ wasMade _ => ?_
      · refine behaves_withMaintenanceKnex knownClosed
          fun connection later opened grown => ?_
        refine Behaves.bind _ (behaves_raw opened trivial)
          fun asked isThere follows _ => ?_
        exact behaves_raw (follows.opened.trans opened)
          ⟨isCommand, secret, follows.secrets (grown member), isThere, rfl⟩
      · refine Behaves.bind (fun _ _ => True) ?_ fun _ _ _ _ =>
          Behaves.pure trivial
        exact behaves_withApplicationKnex (wasMade.opened.trans knownClosed)
          fun connection later isApplication opened grown =>
            behaves_grantAll isCommand isApplication isOwn _
              (List.Subset.refl _) opened
              ⟨secret, grown (wasMade.secrets member), rfl⟩

theorem behaves_disown {connection : Connection} {prRole : String}
    (isCommand : commandOf invocation.event = .deprovisionUser)
    (isApplication : IsApplication invocation.env connection)
    (opened : progress.opened = some connection)
    (own : OwnRole progress.secrets prRole) :
    Behaves invocation (fun _ _ => True) (disown connection prRole)
      progress := by
  refine Behaves.bind _ (behaves_raw opened trivial)
    fun asked isThere wasAsked _ => ?_
  have askedOwn := own.later wasAsked
  split
  · refine Behaves.bind _ (behaves_raw (wasAsked.opened.trans opened)
      ⟨isCommand, askedOwn⟩) fun ended _ wasEnded _ => ?_
    have endedOpen := wasEnded.opened.trans (wasAsked.opened.trans opened)
    have endedOwn := askedOwn.later wasEnded
    refine Behaves.bind _
      (behaves_raw endedOpen ⟨isCommand, endedOwn, isApplication, rfl⟩)
      fun reassigned _ wasReassigned _ => ?_
    refine Behaves.bind _
      (behaves_raw (wasReassigned.opened.trans endedOpen)
        ⟨isCommand, endedOwn.later wasReassigned⟩)
      fun _ _ _ _ => Behaves.pure trivial
  · exact Behaves.pure trivial

/-- The role that is dropped is that of the own secret. -/
theorem behaves_deprovisionUser
    (isCommand : commandOf invocation.event = .deprovisionUser)
    (closed : progress.opened = none) :
    Behaves invocation (fun _ _ => True) (deprovisionUser invocation.env)
      progress := by
  unfold deprovisionUser
  split
  · exact Behaves.pure trivial
  · next secretArn isSet =>
      refine Behaves.bind _ (behaves_getRdsSecret secretArn)
        fun known secret wasKnown isRead => ?_
      have member := isRead (present_eq_some.mp isSet).1
      have knownClosed := wasKnown.opened.trans closed
      refine Behaves.bind (fun _ _ => True) ?_
        fun disowned isThere wasDisowned _ => ?_
      · exact behaves_withApplicationKnex knownClosed
          fun connection later isApplication opened grown =>
            behaves_disown isCommand isApplication opened
              ⟨secret, grown member, rfl⟩
      · split
        · refine Behaves.bind (fun _ _ => True) ?_ fun _ _ _ _ =>
            Behaves.pure trivial
          refine behaves_withMaintenanceKnex
            (wasDisowned.opened.trans knownClosed)
            fun connection later opened grown => ?_
          exact behaves_raw opened (.own isCommand
            ⟨secret, grown (wasDisowned.secrets member), rfl⟩)
        · exact Behaves.pure trivial

/-- The commands that Knex itself carries out, and analysis. -/
def Command.isKnexCommand : Command → Bool
  | .migrate | .rollback | .unlock | .seed | .verify | .analyze => true
  | _ => false

/-- Knex is asked for what destroys something only when it is confirmed. -/
theorem behaves_knexCommand {connection : Connection} {command : Command}
    (isCommand : commandOf invocation.event = command)
    (isKnex : command.isKnexCommand = true)
    (confirmed : command = .rollback ∨ command = .unlock →
      isConfirmed invocation.event = true)
    (opened : progress.opened = some connection) :
    Behaves invocation (fun _ _ => True) (knexCommand connection command)
      progress := by
  have asks : ∀ task : KnexTask,
      MayAsk invocation task →
        Behaves invocation (fun _ _ => True)
          (knex connection task) progress := fun task =>
    behaves_knex opened
  cases command with
  | migrate | seed | verify =>
      exact Behaves.bind _ (asks _ isCommand) fun _ _ _ _ =>
        Behaves.pure trivial
  | analyze =>
      refine Behaves.bind _ (behaves_report opened) fun _ _ follows _ => ?_
      exact Behaves.bind _ (behaves_report (follows.opened.trans opened))
        fun _ _ _ _ => Behaves.pure trivial
  | rollback =>
      exact Behaves.bind _ (asks _ ⟨isCommand, confirmed (.inl rfl)⟩)
        fun _ _ _ _ => Behaves.pure trivial
  | unlock =>
      exact Behaves.bind _ (asks _ ⟨isCommand, confirmed (.inr rfl)⟩)
        fun _ _ _ _ => Behaves.pure trivial
  | _ => exact absurd isKnex Bool.false_ne_true

/-- Every invocation stays within its discipline. -/
theorem behaves_migrationHandler (closed : progress.opened = none) :
    Behaves invocation (fun _ _ => True)
      (migrationHandler invocation.env invocation.event) progress := by
  have asks : ∀ command, commandOf invocation.event = command →
      command.isKnexCommand = true →
      (command = .rollback ∨ command = .unlock →
        isConfirmed invocation.event = true) →
      Behaves invocation (fun _ _ => True)
        (withApplicationKnex invocation.env fun connection =>
          knexCommand connection command) progress :=
    fun command isCommand isKnex confirmed => behaves_withApplicationKnex closed
      fun connection later _ opened _ =>
        behaves_knexCommand isCommand isKnex confirmed opened
  unfold migrationHandler
  cases isCommand : commandOf invocation.event with
  | createDb => exact behaves_createDb isCommand closed
  | dropDb => exact behaves_dropDb isCommand closed
  | provisionUser => exact behaves_provisionUser isCommand closed
  | deprovisionUser => exact behaves_deprovisionUser isCommand closed
  | showUsers | showDatabases =>
      exact behaves_withMaintenanceKnex closed fun connection later opened _ =>
        Behaves.bind _ (behaves_raw opened trivial) fun _ _ _ _ =>
          Behaves.pure trivial
  | migrate | seed | verify | analyze => exact asks _ isCommand rfl (by simp)
  | rollback | unlock =>
      dsimp only
      split
      · next confirmed => exact asks _ isCommand rfl fun _ => confirmed
      · exact Behaves.throw
  | gcDbs =>
      dsimp only
      split
      · exact Behaves.throw
      · next openPrNumbers isGiven =>
          refine Behaves.bind (fun _ _ => True) ?_ fun _ _ _ _ =>
            Behaves.pure trivial
          exact behaves_withMaintenanceKnex closed
            fun connection later opened _ =>
              Behaves.bind _ (behaves_raw opened trivial)
                fun _ rows follows _ => behaves_dropDatabases isCommand isGiven
                  rows (follows.opened.trans opened)
  | gcRoles =>
      dsimp only
      split
      · exact Behaves.throw
      · next openPrNumbers isGiven =>
          refine Behaves.bind (fun _ _ => True) ?_ fun _ _ _ _ =>
            Behaves.pure trivial
          exact behaves_withMaintenanceKnex closed
            fun connection later opened _ =>
              Behaves.bind _ (behaves_raw opened trivial)
                fun _ rows follows _ => behaves_dropRoles isCommand isGiven
                  rows (follows.opened.trans opened)
  | debugTransactions =>
      exact behaves_withApplicationKnex closed
        fun connection later _ opened _ =>
          Behaves.bind _ (behaves_report opened) fun _ _ follows _ =>
            Behaves.bind _ (behaves_report (follows.opened.trans opened))
              fun _ _ _ _ => Behaves.pure trivial
  | debugTables =>
      exact behaves_withApplicationKnex closed
        fun connection later _ opened _ =>
          Behaves.bind _ (behaves_report opened) fun _ _ _ _ =>
            Behaves.pure trivial

end Commands

end PaymentPortal.Maintenance
