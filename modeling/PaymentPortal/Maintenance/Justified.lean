import PaymentPortal.Maintenance.Changes
import PaymentPortal.Maintenance.Guarded

/-!
# Every change has a reason

Any number of invocations runs against the cluster, in any order and with any
failures.  Whatever one of them takes from the cluster or adds to it, its own
event, environment and earlier operations give the reason.
-/

namespace PaymentPortal.Maintenance

open PaymentPortal.Interaction

variable {knex : Knex} {cluster : Cluster} {state : RunnerState}
variable {allowed : RunnerState → RunnerMove → Prop}

/-! ## What a trace tells -/

/-- An operation of the trace has failed. -/
def HasFailed (trace : List RunnerEntry) : Prop :=
  ∃ entry ∈ trace, isFailure entry.op entry.reply = true

instance (trace : List RunnerEntry) : Decidable (HasFailed trace) :=
  inferInstanceAs (Decidable (∃ _ ∈ _, _))

/-- The secret of the pull request has been read in the trace. -/
def HasRead (invocation : Invocation) (trace : List RunnerEntry)
    (secret : Secret) : Prop :=
  ∃ entry ∈ trace,
    prSecret? invocation.env entry.op entry.reply = some secret

/-- The instances that are open after a trace. -/
def openInstances : List RunnerEntry → List Connection
  | [] => []
  | entry :: older =>
      match entry.op with
      | .connect connection => connection :: openInstances older
      | .destroy connection => (openInstances older).erase connection
      | _ => openInstances older

/-- How far a trace has brought its invocation. -/
abbrev progressAfter (invocation : Invocation) (trace : List RunnerEntry) :
    Progress :=
  phaseAfter (Progress.next invocation) .start trace

/-- An invocation remembers its failures. -/
theorem failed_progressAfter {invocation : Invocation}
    {trace : List RunnerEntry} :
    (progressAfter invocation trace).failed = true ↔ HasFailed trace := by
  induction trace with
  | nil => simp [phaseAfter, Progress.start, HasFailed]
  | cons entry older ih =>
      simp only [phaseAfter, Progress.next, Bool.or_eq_true, ih, HasFailed,
        List.exists_mem_cons_iff]
      exact or_comm

/-- It remembers the secrets it has read. -/
theorem mem_secrets_progressAfter {invocation : Invocation}
    {trace : List RunnerEntry} {secret : Secret} :
    secret ∈ (progressAfter invocation trace).secrets ↔
      HasRead invocation trace secret := by
  induction trace with
  | nil => simp [phaseAfter, Progress.start, HasRead]
  | cons entry older ih =>
      simp only [phaseAfter, Progress.next, List.mem_append, Option.mem_toList,
        ih, HasRead, List.exists_mem_cons_iff]

theorem ownRole_progressAfter {invocation : Invocation}
    {trace : List RunnerEntry} {name : String} :
    OwnRole (progressAfter invocation trace).secrets name ↔
      ∃ secret, HasRead invocation trace secret ∧ secret.username = name := by
  simp only [OwnRole, mem_secrets_progressAfter]

/-! ## Reasons -/

/--
Why something may newly refer to a role: a privilege is granted to the own role
in the own database, or the invocation's user takes over what the own role owns.
-/
inductive MayDepend (invocation : Invocation) (isOwn : String → Prop)
    (connection : Connection) (before : Cluster) (dependency : Dependency) :
    Prop where
  | granted (isCommand : commandOf invocation.event = .provisionUser)
      (named : isOwn dependency.role)
      (isIn : dependency.database = connection.database ∨
        present invocation.env.RDS_DB_NAME = some dependency.database)
  | inherited (isCommand : commandOf invocation.event = .deprovisionUser)
      (isUser : dependency.role = connection.user)
      (isIn : dependency.database = connection.database)
      (role : String) (named : isOwn role)
      (wasOwned : ⟨role, dependency.database, .owned⟩ ∈ before.dependencies)

/-- The reasons for what an entry has changed. -/
structure Justified (invocation : Invocation) (trace : List RunnerEntry)
    (entry : RunnerEntry) : Prop where
  lostDatabase : ∀ name ∈ entry.before.databases,
    name ∉ entry.after.databases →
      MayDropDatabase invocation (HasFailed trace) name
  gainedDatabase : ∀ name ∈ entry.after.databases,
    name ∉ entry.before.databases →
      commandOf invocation.event = .createDb ∧
        present invocation.env.RDS_DB_NAME = some name
  lostRole : ∀ name, entry.before.HasRole name → ¬ entry.after.HasRole name →
    MayDropRole invocation
        (∃ secret, HasRead invocation trace secret ∧ secret.username = name)
        name ∧
      ¬ entry.before.DependsOn name
  gainedRole : ∀ role ∈ entry.after.roles, role ∉ entry.before.roles →
    commandOf invocation.event = .provisionUser ∧
      ∃ secret, HasRead invocation trace secret ∧
        (Plain secret → role = ⟨secret.username, secret.password⟩)
  lostPassword : ∀ role ∈ entry.before.roles, role ∉ entry.after.roles →
    entry.after.HasRole role.name →
      commandOf invocation.event = .provisionUser ∧
        ∃ secret, HasRead invocation trace secret ∧
          (Plain secret → role.name = secret.username)
  lostDependency : ∀ dependency ∈ entry.before.dependencies,
    dependency ∉ entry.after.dependencies →
      MayDropDatabase invocation (HasFailed trace) dependency.database ∨
        commandOf invocation.event = .deprovisionUser ∧
          ∃ secret, HasRead invocation trace secret ∧
            secret.username = dependency.role
  gainedDependency : ∀ dependency ∈ entry.after.dependencies,
    dependency ∉ entry.before.dependencies →
      ∃ connection, IsApplication invocation.env connection ∧
        MayDepend invocation
          (fun name => ∃ secret, HasRead invocation trace secret ∧
            secret.username = name)
          connection entry.before dependency
  asked : ∀ connection task, entry.op = .knex connection task →
    MayAsk invocation task

theorem MayDropDatabase.mono {invocation : Invocation} {fewer more : Prop}
    {name : String} (reason : MayDropDatabase invocation fewer name)
    (implies : fewer → more) : MayDropDatabase invocation more name := by
  cases reason with
  | cleanup isCommand isOwn hasFailed =>
      exact .cleanup isCommand isOwn (implies hasFailed)
  | requested isCommand isOwn isPr => exact .requested isCommand isOwn isPr
  | collected isCommand openPrNumbers isGiven closed =>
      exact .collected isCommand openPrNumbers isGiven closed

theorem MayDropRole.mono {invocation : Invocation} {fewer more : Prop}
    {name : String} (reason : MayDropRole invocation fewer name)
    (implies : fewer → more) : MayDropRole invocation more name := by
  cases reason with
  | own isCommand named => exact .own isCommand (implies named)
  | collected isCommand openPrNumbers isGiven closed =>
      exact .collected isCommand openPrNumbers isGiven closed

/-- A privilege on the own database refers to it or to the one connected to. -/
theorem database_of_prPrivileges {dbName owner : String}
    {privilege : Privilege} (member : privilege ∈ prPrivileges dbName owner)
    (current role : String) :
    (privilege.dependency current role).database = current ∨
      (privilege.dependency current role).database = dbName := by
  simp only [prPrivileges, List.mem_cons, List.not_mem_nil, or_false] at member
  rcases member with rfl | rfl | rfl | rfl | rfl | rfl <;>
    simp [Privilege.dependency]

/-- A new role is that of a secret that has been read. -/
theorem gainedRole_of_mayChange {invocation : Invocation}
    {trace : List RunnerEntry} {connection : Connection}
    {statement : Statement} {before after : Cluster} {role : Role}
    (reason : MayChange invocation (progressAfter invocation trace) connection
      statement)
    (changes : Changes knex connection.database before statement after)
    (isThere : role ∈ after.roles) (wasAbsent : role ∉ before.roles) :
    commandOf invocation.event = .provisionUser ∧
      ∃ secret, HasRead invocation trace secret ∧
        (Plain secret → role = ⟨secret.username, secret.password⟩) := by
  obtain ⟨sql, command, rfl, read, rfl⟩ :=
    changes.gained_role wasAbsent isThere
  obtain ⟨isCommand, secret, member, alter, rfl⟩ := reason
  refine ⟨isCommand, secret, mem_secrets_progressAfter.mp member,
    fun plain => ?_⟩
  rw [read_sent_roleSql knex alter plain] at read
  obtain rfl := Option.some.inj read
  cases alter <;> rfl

/-- A role that has another password now has been made anew. -/
theorem lostPassword_of_mayChange {invocation : Invocation}
    {trace : List RunnerEntry} {connection : Connection}
    {statement : Statement} {before after : Cluster} {role : Role}
    (reason : MayChange invocation (progressAfter invocation trace) connection
      statement)
    (changes : Changes knex connection.database before statement after)
    (wasThere : role ∈ before.roles) (isGone : role ∉ after.roles)
    (keeps : after.HasRole role.name) :
    commandOf invocation.event = .provisionUser ∧
      ∃ secret, HasRead invocation trace secret ∧
        (Plain secret → role.name = secret.username) := by
  obtain ⟨other, isThere, named⟩ := List.mem_map.mp keeps
  have wasAbsent : other ∉ before.roles := by
    intro member
    obtain rfl := List.inj_on_of_nodup_map before.distinctRoles member
      wasThere named
    exact isGone isThere
  obtain ⟨isCommand, secret, read, same⟩ :=
    gainedRole_of_mayChange reason changes isThere wasAbsent
  refine ⟨isCommand, secret, read, fun plain => ?_⟩
  rw [← named, same plain]

/-- What newly refers to a role does so for a reason. -/
theorem mayDepend_of_mayChange {invocation : Invocation}
    {trace : List RunnerEntry} {connection : Connection}
    {statement : Statement} {before after : Cluster} {dependency : Dependency}
    (reason : MayChange invocation (progressAfter invocation trace) connection
      statement)
    (changes : Changes knex connection.database before statement after)
    (isThere : dependency ∈ after.dependencies)
    (wasAbsent : dependency ∉ before.dependencies) :
    IsApplication invocation.env connection ∧
      MayDepend invocation
        (fun name => ∃ secret, HasRead invocation trace secret ∧
          secret.username = name)
        connection before dependency := by
  rcases changes.gained_dependency wasAbsent isThere with
    ⟨privilege, rfl, made⟩ | ⟨role, rfl, isIn, isOwned, wasOwned⟩
  · obtain ⟨isCommand, own, isApplication, dbName, isOwn, member⟩ := reason
    refine ⟨isApplication,
      .granted isCommand (ownRole_progressAfter.mp own) ?_⟩
    rcases database_of_prPrivileges member connection.database
      dependency.role with same | same
    · exact .inl (made ▸ same)
    · exact .inr (by rw [isOwn, ← same, made])
  · obtain ⟨isCommand, own, isApplication, isUser⟩ := reason
    refine ⟨isApplication, .inherited isCommand isUser isIn role
      (ownRole_progressAfter.mp own) ?_⟩
    rwa [← isOwned]

/-- What may be done may be done for a reason. -/
theorem justified_of_mayPerform {invocation : Invocation}
    {trace : List RunnerEntry} {entry : RunnerEntry} {fate : Fate}
    (may : MayPerform invocation (progressAfter invocation trace) entry.op)
    (executed : exec knex entry.op fate entry.before =
      some (entry.reply, entry.after)) :
    Justified invocation trace entry := by
  obtain ⟨caller, op, reply, before, after⟩ := entry
  dsimp only at may executed
  rcases changes_of_exec executed with
    rfl | ⟨connection, statement, rfl, changes⟩
  · exact {
      lostDatabase := fun name wasThere isGone => absurd wasThere isGone
      gainedDatabase := fun name isThere wasAbsent => absurd isThere wasAbsent
      lostRole := fun name wasThere isGone => absurd wasThere isGone
      gainedRole := fun role isThere wasAbsent => absurd isThere wasAbsent
      lostPassword := fun role wasThere isGone => absurd wasThere isGone
      lostDependency := fun dependency wasThere isGone =>
        absurd wasThere isGone
      gainedDependency := fun dependency isThere wasAbsent =>
        absurd isThere wasAbsent
      asked := by
        rintro connection task rfl
        exact may }
  · have reason : MayChange invocation (progressAfter invocation trace)
        connection statement := may
    refine {
      lostDatabase := fun name wasThere isGone => ?_
      gainedDatabase := fun name isThere wasAbsent => ?_
      lostRole := fun name wasThere isGone => ?_
      gainedRole := fun role isThere wasAbsent =>
        gainedRole_of_mayChange reason changes isThere wasAbsent
      lostPassword := fun role wasThere isGone keeps =>
        lostPassword_of_mayChange reason changes wasThere isGone keeps
      lostDependency := fun dependency wasThere isGone => ?_
      gainedDependency := fun dependency isThere wasAbsent =>
        ⟨connection, mayDepend_of_mayChange reason changes isThere wasAbsent⟩
      asked := fun other task same => absurd same (by simp) }
    · obtain rfl := changes.lost_database wasThere isGone
      exact MayDropDatabase.mono reason failed_progressAfter.mp
    · obtain rfl := changes.gained_database wasAbsent isThere
      exact reason
    · obtain ⟨rfl, free⟩ := changes.lost_role wasThere isGone
      exact ⟨MayDropRole.mono reason ownRole_progressAfter.mp, free⟩
    · rcases changes.lost_dependency wasThere isGone with
        rfl | ⟨newOwner, rfl⟩ | rfl
      · exact .inl (MayDropDatabase.mono reason failed_progressAfter.mp)
      · exact .inr ⟨reason.1, ownRole_progressAfter.mp reason.2.1⟩
      · exact .inr ⟨reason.1, ownRole_progressAfter.mp reason.2⟩

/-! ## Runs -/

/-- The invocations of a run are guided by their discipline. -/
theorem guided_of_reaches
    (reaches : (runner knex).Reaches allowed (.initial cluster) state) :
    Guided Permitted Progress.next Progress.start
      (fun _ later _ => later.opened = none) state := by
  refine Guided.of_reaches (fun invocation => ?_) reaches
  have behaves : Behaves invocation (fun _ _ => True)
      (migrationHandler invocation.env invocation.event) .start :=
    behaves_migrationHandler rfl
  refine Program.Conforms.mono behaves ?_
  rintro later (message | value) ended
  · exact ended.opened
  · exact ended.1.opened

/--
Whatever an operation of a run changes is justified by the request of its
caller and by what the caller itself has done before.
-/
theorem changes_justified
    (reaches : (runner knex).Reaches allowed (.initial cluster) state)
    {entry : RunnerEntry} {older : List RunnerEntry}
    (suffix : (entry :: older) <:+ state.log) :
    ∃ call, state.calls[entry.caller]? = some call ∧
      Justified call.request (ownEntries entry.caller older) entry := by
  obtain ⟨call, present, permitted⟩ :=
    (guided_of_reaches reaches).logged entry older suffix
  obtain ⟨fate, executed⟩ := Machine.executed_of_reaches reaches entry
    (suffix.subset List.mem_cons_self)
  exact ⟨call, present, justified_of_mayPerform permitted.reason executed⟩

/-- The secret of the master is read and an instance is created. -/
def connects (caller : Nat) : List RunnerMove :=
  [.step caller (.secret (.parsed (some "master") (some "m"))),
    .step caller .executed]

/-- `create-db` of a database that is there, when the first query times out. -/
def sampleCleanup : List RunnerMove :=
  .arrive (sampleInvocation "paymentportal_stg" .createDb) ::
    (connects 0 ++ [.step 0 (.failed "timeout"), .step 0 .executed,
      .step 0 .executed])

/-- The database that was to be created is lost, and this is the reason. -/
theorem changes_justified_sample : ∃ state entry older,
    (runner sampleKnex).replay Machine.Unrestricted sampleCleanup
      (.initial sampleCluster) = some state ∧
    (entry :: older) <:+ state.log ∧
    "paymentportal_stg" ∈ entry.before.databases ∧
    "paymentportal_stg" ∉ entry.after.databases ∧
    ∃ call, state.calls[entry.caller]? = some call ∧
      Justified call.request (ownEntries entry.caller older) entry := by
  have replayed : ((runner sampleKnex).replay Machine.Unrestricted
      sampleCleanup (.initial sampleCluster)).map (fun state =>
        state.log.tail.head?.map fun entry =>
          (decide ("paymentportal_stg" ∈ entry.before.databases),
            decide ("paymentportal_stg" ∈ entry.after.databases))) =
      some (some (true, false)) := by
    decide +kernel
  obtain ⟨state, ran, found⟩ := Option.map_eq_some_iff.mp replayed
  obtain ⟨entry, isHead, values⟩ := Option.map_eq_some_iff.mp found
  obtain ⟨older, same⟩ := List.head?_eq_some_iff.mp isHead
  obtain ⟨before, after⟩ := Prod.mk.inj values
  have suffix : (entry :: older) <:+ state.log :=
    same ▸ List.tail_suffix state.log
  exact ⟨state, entry, older, ran, suffix, of_decide_eq_true before,
    of_decide_eq_false after,
    changes_justified (Machine.reaches_of_replay ran) suffix⟩

/-! ## What survives -/

/-- A failure among earlier operations is one of the whole run. -/
theorem HasFailed.later {trace later : List RunnerEntry}
    (failed : HasFailed trace) (subset : trace ⊆ later) : HasFailed later := by
  obtain ⟨entry, member, isFailed⟩ := failed
  exact ⟨entry, subset member, isFailed⟩

theorem HasRead.later {invocation : Invocation}
    {trace later : List RunnerEntry} {secret : Secret}
    (read : HasRead invocation trace secret) (subset : trace ⊆ later) :
    HasRead invocation later secret := by
  obtain ⟨entry, member, isRead⟩ := read
  exact ⟨entry, subset member, isRead⟩

/-- What a caller had done before an entry is part of its trace. -/
theorem ownEntries_subset_trace {entry : RunnerEntry}
    {older : List RunnerEntry} (suffix : (entry :: older) <:+ state.log)
    (caller : Nat) : ownEntries caller older ⊆ state.trace caller := by
  intro other member
  obtain ⟨inOlder, isOwn⟩ := List.mem_filter.mp member
  exact List.mem_filter.mpr
    ⟨suffix.subset (List.mem_cons_of_mem _ inOlder), isOwn⟩

/-- No invocation of the run has a reason to drop the database. -/
def SparesDatabase (state : RunnerState) (name : String) : Prop :=
  ∀ (caller : Nat) call, state.calls[caller]? = some call →
    ¬ MayDropDatabase call.request (HasFailed (state.trace caller)) name

/-- No invocation of the run has a reason to drop the role. -/
def SparesRole (state : RunnerState) (name : String) : Prop :=
  ∀ (caller : Nat) call, state.calls[caller]? = some call →
    ¬ MayDropRole call.request
      (∃ secret, HasRead call.request (state.trace caller) secret ∧
        secret.username = name) name

/--
A database and a role survive every run that gives no reason to drop them: no
`drop-db` of this database, no list of open pull requests that leaves it out,
and no `create-db` of it in which something has failed.
-/
theorem spared_survive
    (reaches : (runner knex).Reaches allowed (.initial cluster) state) :
    (∀ name ∈ cluster.databases, SparesDatabase state name →
      name ∈ state.world.databases) ∧
    ∀ name, cluster.HasRole name → SparesRole state name →
      state.world.HasRole name := by
  refine ⟨fun name wasThere spared => ?_, fun name wasThere spared => ?_⟩
  · by_contra isGone
    have kept : ∀ change here after, drift change here = some after →
        name ∈ here.databases → name ∈ after.databases := by
      rintro ⟨dependency⟩ here after drifted member
      rw [drift] at drifted
      split at drifted
      · obtain rfl := Option.some.inj drifted
        exact member
      · exact absurd drifted (by simp)
    obtain ⟨entry, older, suffix, before, after⟩ :=
      Machine.exists_loss kept reaches wasThere isGone
    obtain ⟨call, present, justified⟩ := changes_justified reaches suffix
    exact spared entry.caller call present
      ((justified.lostDatabase name before after).mono fun failed =>
        failed.later (ownEntries_subset_trace suffix _))
  · by_contra isGone
    have kept : ∀ change here after, drift change here = some after →
        here.HasRole name → after.HasRole name := by
      rintro ⟨dependency⟩ here after drifted member
      rw [drift] at drifted
      split at drifted
      · obtain rfl := Option.some.inj drifted
        exact member
      · exact absurd drifted (by simp)
    obtain ⟨entry, older, suffix, before, after⟩ :=
      Machine.exists_loss kept reaches wasThere isGone
    obtain ⟨call, present, justified⟩ := changes_justified reaches suffix
    refine spared entry.caller call present
      ((justified.lostRole name before after).1.mono ?_)
    rintro ⟨secret, read, named⟩
    exact ⟨secret, read.later (ownEntries_subset_trace suffix _), named⟩

/-- `gc-dbs` while pull request 8 is open, with `create-db` of another one. -/
def sampleCollection : List RunnerMove :=
  [.arrive ⟨sampleEnv "paymentportal_dev",
      some ⟨some .gcDbs, some [.finite 8], none⟩⟩,
    .arrive (sampleInvocation "paymentportal_pr_9" .createDb)] ++
  connects 0 ++ connects 1 ++
  [.step 0 (.listed ["paymentportal_pr_8", "paymentportal_pr_7"]),
    .step 1 .executed, .step 0 .executed, .step 1 .executed,
    .step 0 .executed, .step 1 .executed]

/-- Nothing in the requests of a run gives a reason, whatever has failed. -/
theorem sparesDatabase_of_requests {name : String}
    (spared : ∀ request ∈ state.calls.map Call.request,
      ¬ MayDropDatabase request True name) : SparesDatabase state name :=
  fun _ call present may => spared call.request
    (List.mem_map_of_mem (List.mem_of_getElem? present))
    (may.mono fun _ => trivial)

theorem sparesRole_of_requests {name : String}
    (spared : ∀ request ∈ state.calls.map Call.request,
      ¬ MayDropRole request True name) : SparesRole state name :=
  fun _ call present may => spared call.request
    (List.mem_map_of_mem (List.mem_of_getElem? present))
    (may.mono fun _ => trivial)

/--
What is left of the databases.  Nothing in the run could have dropped the staging
database or the role of pull request 7, and the theorem keeps both.
-/
theorem spared_survive_sample : ∃ state,
    (runner sampleKnex).replay Machine.Unrestricted sampleCollection
      (.initial sampleCluster) = some state ∧
    state.world.databases = ["postgres", "paymentportal_stg",
      "paymentportal_pr_8", "paymentportal_pr_9"] ∧
    SparesDatabase state "paymentportal_stg" ∧
    SparesRole state "pr_user_pr_7" ∧
    "paymentportal_stg" ∈ state.world.databases ∧
    state.world.HasRole "pr_user_pr_7" := by
  have replayed : ((runner sampleKnex).replay Machine.Unrestricted
      sampleCollection (.initial sampleCluster)).map (fun state =>
        (state.world.databases,
          decide (∀ request ∈ state.calls.map Call.request,
            ¬ MayDropDatabase request True "paymentportal_stg" ∧
              ¬ MayDropRole request True "pr_user_pr_7"))) =
      some (["postgres", "paymentportal_stg", "paymentportal_pr_8",
        "paymentportal_pr_9"], true) := by
    decide +kernel
  obtain ⟨state, ran, values⟩ := Option.map_eq_some_iff.mp replayed
  obtain ⟨left, decided⟩ := Prod.mk.inj values
  have spared := of_decide_eq_true decided
  have databaseSpared : SparesDatabase state "paymentportal_stg" :=
    sparesDatabase_of_requests fun request member => (spared request member).1
  have roleSpared : SparesRole state "pr_user_pr_7" :=
    sparesRole_of_requests fun request member => (spared request member).2
  have survive := spared_survive (Machine.reaches_of_replay ran)
  exact ⟨state, ran, left, databaseSpared, roleSpared,
    survive.1 _ (by decide) databaseSpared,
    survive.2 _ (by decide) roleSpared⟩

/-! ## Instances -/

/-- What is open after a fitting operation. -/
theorem openInstances_cons {invocation : Invocation} {entry : RunnerEntry}
    {trace : List RunnerEntry}
    (known : openInstances trace =
      (progressAfter invocation trace).opened.toList)
    (fits : Fits (progressAfter invocation trace).opened entry.op) :
    openInstances (entry :: trace) =
      (progressAfter invocation (entry :: trace)).opened.toList := by
  obtain ⟨caller, op, reply, before, after⟩ := entry
  change _ = (openAfter (progressAfter invocation trace).opened op).toList
  rw [openInstances, known]
  cases op with
  | getSecretValue _ | raw _ _ | report _ _ | knex _ _ => rfl
  | connect connection =>
      rw [show (progressAfter invocation trace).opened = none from fits]
      rfl
  | destroy connection =>
      rw [fits connection rfl]
      exact List.erase_cons_head connection []

/-- The instances of a caller are those of its progress. -/
theorem openInstances_ownEntries
    (guided : Guided Permitted Progress.next Progress.start
      (fun _ later _ => later.opened = none) state)
    {caller : Nat} {call : Call Op Reply Invocation (Except String Body)}
    (present : state.calls[caller]? = some call)
    {log : List RunnerEntry} (suffix : log <:+ state.log) :
    openInstances (ownEntries caller log) =
      (progressAfter call.request (ownEntries caller log)).opened.toList := by
  induction log with
  | nil => rfl
  | cons entry older ih =>
      have known := ih ((List.suffix_cons _ _).trans suffix)
      by_cases own : entry.caller = caller
      · subst own
        obtain ⟨same, isSame, permitted⟩ := guided.logged entry older suffix
        obtain rfl := Option.some.inj (isSame.symm.trans present)
        rw [ownEntries_cons_self rfl]
        exact openInstances_cons known permitted.fits
      · rw [ownEntries_cons_of_ne own]
        exact known

/--
However the operations of a run end, an invocation has one Knex instance open
at most, uses the one that is open only, and has destroyed every one when it
ends.
-/
theorem instances_destroyed
    (reaches : (runner knex).Reaches allowed (.initial cluster) state) :
    (∀ caller, (openInstances (state.trace caller)).length ≤ 1) ∧
    (∀ entry older, (entry :: older) <:+ state.log → ∀ connection,
      used? entry.op = some connection →
        openInstances (ownEntries entry.caller older) = [connection]) ∧
    ∀ (caller : Nat) call, state.calls[caller]? = some call →
      call.result?.isSome → openInstances (state.trace caller) = [] := by
  have guided := guided_of_reaches reaches
  refine ⟨fun caller => ?_, fun entry older suffix connection isUsed => ?_,
    fun caller call present ended => ?_⟩
  · by_cases arrived : caller < state.calls.length
    · rw [← ownEntries_log, openInstances_ownEntries guided
        (List.getElem?_eq_getElem arrived) (List.suffix_refl _)]
      cases (progressAfter _ _).opened <;> simp
    · rw [State.trace_eq_nil guided.callers (Nat.not_lt.mp arrived)]
      exact Nat.zero_le 1
  · obtain ⟨call, present, permitted⟩ := guided.logged entry older suffix
    rw [openInstances_ownEntries guided present
      ((List.suffix_cons _ _).trans suffix)]
    have fits := permitted.fits
    have isOpen : (progressAfter call.request
        (ownEntries entry.caller older)).opened = some connection := by
      revert isUsed fits
      cases entry.op with
      | connect _ | getSecretValue _ => exact fun isUsed => absurd isUsed nofun
      | destroy _ | raw _ _ | report _ _ | knex _ _ =>
          exact fun isUsed fits => fits connection isUsed
    rw [isOpen]
    rfl
  · obtain ⟨value, isResult⟩ := Option.isSome_iff_exists.mp ended
    rw [← ownEntries_log, openInstances_ownEntries guided present
      (List.suffix_refl _)]
    have closed := guided.finished present isResult
    rw [ownEntries_log, closed]
    rfl

/-- The instances of two invocations, one of which has ended. -/
theorem instances_destroyed_sample : ∃ state,
    (runner sampleKnex).replay Machine.Unrestricted
      (sampleCleanup ++ .arrive (sampleInvocation "x" .showUsers) ::
        connects 1) (.initial sampleCluster) = some state ∧
    (List.range 2).map (fun caller => openInstances (state.trace caller)) =
      [[], [.maintenance]] ∧
    (∀ caller, (openInstances (state.trace caller)).length ≤ 1) ∧
    (∀ entry older, (entry :: older) <:+ state.log → ∀ connection,
      used? entry.op = some connection →
        openInstances (ownEntries entry.caller older) = [connection]) ∧
    ∀ (caller : Nat) call, state.calls[caller]? = some call →
      call.result?.isSome → openInstances (state.trace caller) = [] := by
  have replayed : ((runner sampleKnex).replay Machine.Unrestricted
      (sampleCleanup ++ .arrive (sampleInvocation "x" .showUsers) ::
        connects 1) (.initial sampleCluster)).map (fun state =>
          (List.range 2).map fun caller =>
            openInstances (state.trace caller)) =
      some [[], [.maintenance]] := by
    decide +kernel
  obtain ⟨state, ran, isOpen⟩ := Option.map_eq_some_iff.mp replayed
  exact ⟨state, ran, isOpen,
    instances_destroyed (Machine.reaches_of_replay ran)⟩

end PaymentPortal.Maintenance
