import PaymentPortal.Interaction.Machine
import PaymentPortal.Maintenance.Cluster
import PaymentPortal.Maintenance.Settings

/-!
# `migrationHandler`

`migrationHandler.ts`: the commands of the migration runner.  A command awaits
the secret of a role, opens one Knex instance at a time, sends statements over
it and destroys it, whatever fails in between.  What Knex does with migrations
and seeds and what the reports find is up to the environment.  Ports, hosts,
certificates and log lines are left out: nothing reads them back.
-/

namespace PaymentPortal.Maintenance

open PaymentPortal.Interaction
open PaymentPortal.Relational

/-! ## Operations -/

/-- The database a Knex instance is connected to. -/
inductive Connection where
  | maintenance
  | application (database user : String)
  deriving DecidableEq, Repr

/-- The database as the server names it. -/
def Connection.database : Connection → String
  | maintenance => "postgres"
  | application database _ => database

/-- Queries that only report. -/
inductive Report where
  | transactionSummary
  | transactionYears
  | tables
  | serverVersion
  | analyze
  deriving DecidableEq, Repr

/-- What is asked of Knex besides statements. -/
inductive KnexTask where
  | latest
  | rollback
  | forceFreeMigrationsLock
  | currentVersion
  | seed
  deriving DecidableEq, Repr

/-- A batch of migrations, or nothing to tell. -/
structure Batch where
  batchNo : Nat
  migrations : List String
  deriving DecidableEq, Repr

/-- What Knex answers. -/
abbrev KnexTask.Result : KnexTask → Type
  | .latest => Batch
  | .rollback => Batch
  | .currentVersion => Option String
  | _ => Unit

/-- The value of a secret: `SecretString` and what it parses to. -/
inductive SecretValue where
  | absent
  | unparsable (message : String)
  | parsed (username password : Option String)
  deriving DecidableEq, Repr

/-- What the handler awaits, and the instances it creates. -/
inductive Op where
  | getSecretValue (secretArn : String)
  | connect (connection : Connection)
  | destroy (connection : Connection)
  | raw (connection : Connection) (statement : Statement)
  | report (connection : Connection) (query : Report)
  | knex (connection : Connection) (task : KnexTask)
  deriving DecidableEq

/-- The replies of the operations; a rejected promise carries its message. -/
abbrev Reply : Op → Type
  | .getSecretValue _ => Except String SecretValue
  | .connect _ => Unit
  | .destroy _ => Except String Unit
  | .raw _ statement => Except String statement.Result
  | .report _ _ => Except String (List String)
  | .knex _ task => Except String task.Result

/-- An asynchronous function that may throw an error with a message. -/
abbrev Task (α : Type) := ExceptT String (Program Op Reply) α

/-- Throw the error of a synchronous step. -/
def settle {α : Type} (step : Except String α) : Task α :=
  ExceptT.mk (.done step)

/-- `new Knex(...)` connects lazily and does not fail. -/
def connect (connection : Connection) : Task Unit :=
  ExceptT.mk (.perform (.connect connection) fun _ => .done (.ok ()))

/-- `knex.destroy()`. -/
def destroy (connection : Connection) : Task Unit :=
  ExceptT.mk (.perform (.destroy connection) fun reply => .done reply)

/-- `knex.raw(...)`. -/
def raw (connection : Connection) (statement : Statement) :
    Task statement.Result :=
  ExceptT.mk (.perform (.raw connection statement) fun reply => .done reply)

/-- `knex.raw(...)` of a query that only reports. -/
def report (connection : Connection) (query : Report) : Task (List String) :=
  ExceptT.mk (.perform (.report connection query) fun reply => .done reply)

/-- `knex.migrate` and `knex.seed`. -/
def knex (connection : Connection) (task : KnexTask) : Task task.Result :=
  ExceptT.mk (.perform (.knex connection task) fun reply => .done reply)

/-- The value or the error of a task, as a value. -/
def observe {α : Type} (task : Task α) : Task (Except String α) :=
  ExceptT.mk (task.run.bind fun outcome => .done (.ok outcome))

/-- `try { ... } finally { await knex.destroy(); }` after `Knex(...)`. -/
def withKnex {α : Type} (connection : Connection) (body : Task α) :
    Task α := do
  connect connection
  let outcome ← observe body
  destroy connection
  settle outcome

/-! ## Credentials and connections -/

/-- A role name and a password, neither of them empty. -/
structure Secret where
  username : String
  password : String
  hasUsername : username ≠ ""
  hasPassword : password ≠ ""
  deriving DecidableEq, Repr

/-- What `getRdsSecret` makes of the value of a secret. -/
def readSecret (secretArn : String) : SecretValue → Except String Secret
  | .absent => .error ("Secret \"" ++ secretArn ++
      "\" does not contain a SecretString")
  | .unparsable message => .error message
  | .parsed username password =>
      match isName : present username, isWord : present password with
      | some name, some word => .ok ⟨name, word,
          (present_eq_some.mp isName).2, (present_eq_some.mp isWord).2⟩
      | _, _ => .error ("Secret \"" ++ secretArn ++
          "\" must include username and password")

/-- `getRdsSecret`. -/
def getRdsSecret (secretArn : String) : Task Secret :=
  ExceptT.mk (.perform (.getSecretValue secretArn) fun reply =>
    .done (reply.bind (readSecret secretArn)))

/-- A setting that has to be there. -/
def required (setting : Option String) (message : String) :
    Except String String :=
  match present setting with
  | some value => .ok value
  | none => .error message

/-- `getLocalConnection`. -/
def getLocalConnection (env : LambdaEnv) : Except String Connection :=
  match present env.DB_HOST, present env.DB_PORT, present env.DB_USER,
      present env.DB_PASSWORD, present env.DB_NAME with
  | some _, some port, some user, some _, some name =>
      if numberIsNaN port then .error ("Invalid DB_PORT: " ++ port)
      else .ok (.application name user)
  | _, _, _, _, _ => .error
      "DB_HOST, DB_PORT, DB_USER, DB_PASSWORD, and DB_NAME are required for local migrations"

/-- `set` or `unset`, for the error of a half configured server. -/
def setOrUnset (setting : Option String) : String :=
  if (present setting).isSome then "set" else "unset"

/-- `getDatabaseConnection`. -/
def getDatabaseConnection (env : LambdaEnv) : Task Connection :=
  match present env.RDS_SECRET_ARN, present env.RDS_ENDPOINT with
  | none, none => settle (getLocalConnection env)
  | some secretArn, some endpoint => do
      let _ ← settle (parseRdsEndpoint endpoint)
      let secret ← getRdsSecret secretArn
      -- `??` replaces a missing name only, not an empty one.
      pure (.application (env.RDS_DB_NAME.getD "paymentportal")
        secret.username)
  | _, _ => throw (
      "Misconfiguration: RDS_SECRET_ARN and RDS_ENDPOINT must both be set or both be unset. " ++
        "RDS_SECRET_ARN=" ++ setOrUnset env.RDS_SECRET_ARN ++
        ", RDS_ENDPOINT=" ++ setOrUnset env.RDS_ENDPOINT)

/-- `getMaintenanceKnex`, up to the creation of the instance. -/
def getMaintenanceConnection (env : LambdaEnv) : Task Connection := do
  let masterSecretArn ← settle (required env.RDS_MASTER_SECRET_ARN
    "RDS_MASTER_SECRET_ARN is not set")
  let endpoint ← settle (required env.RDS_ENDPOINT "RDS_ENDPOINT is not set")
  let _ ← settle (parseRdsEndpoint endpoint)
  let _ ← getRdsSecret masterSecretArn
  pure .maintenance

/-- A body over the maintenance database. -/
def withMaintenanceKnex {α : Type} (env : LambdaEnv)
    (body : Connection → Task α) : Task α := do
  let connection ← getMaintenanceConnection env
  withKnex connection (body connection)

/-- A body over the application database. -/
def withApplicationKnex {α : Type} (env : LambdaEnv)
    (body : Connection → Task α) : Task α := do
  let connection ← getDatabaseConnection env
  withKnex connection (body connection)

/-! ## Results -/

/-- The body of a result; its status code is 200 always. -/
inductive Body where
  | message (text : String)
  | users (names : List String)
  | databases (names : List String)
  | dropped (names : List String)
  | droppedRoles (dropped : List String) (failed : List (String × String))
  | version (version : String)
  | serverVersion (rows : List String)
  | rows (database : Option String) (rows : List (List String))
  | migrated (batch : Batch)
  | rolledBack (batch : Batch) (message : String)
  deriving DecidableEq, Repr

/-! ## Names of pull requests -/

/-- The numbers of JSON, as doubles are compared. -/
inductive JsNumber where
  | finite (value : Rat)
  | infinite (negative : Bool)
  deriving DecidableEq, Repr

/-- The double next to a whole number, to even when there are two. -/
def roundToDouble (value : Nat) : Nat :=
  let ulp := 2 ^ (value.log2 + 1 - 53)
  let quotient := value / ulp
  let rest := value % ulp
  if 2 * rest > ulp ∨ (2 * rest = ulp ∧ quotient % 2 = 1) then
    (quotient + 1) * ulp
  else quotient * ulp

/-- `Number` of a row of digits. -/
def numberOfDigits (digits : List Char) : JsNumber :=
  let value := roundToDouble (decimalValue digits)
  if value < 2 ^ 1024 then .finite value else .infinite false

/-- `/^...(\d+)$/`: the digits after the beginning of the name. -/
def digitsAfter? (beginning : String) (name : String) : Option (List Char) :=
  if beginning.toList.isPrefixOf name.toList then
    let digits := name.toList.drop beginning.toList.length
    if isDigits digits then some digits else none
  else none

/-- The beginning of the names of the databases of pull requests. -/
def PR_DATABASE : String := "paymentportal_pr_"

/-- The beginning of the names of the roles of pull requests. -/
def PR_ROLE : String := "pr_user_pr_"

/-- A name after this beginning has the number of a closed pull request. -/
def isClosed (beginning : String) (openPrNumbers : List JsNumber)
    (name : String) : Bool :=
  match digitsAfter? beginning name with
  | none => false
  | some digits => !openPrNumbers.contains (numberOfDigits digits)

/-- The pattern of `LIKE`: `_` is any letter and `%` any text. -/
def likePattern (text : String) : List (PatternSign Char) :=
  text.toList.map fun char =>
    if char = '%' then .anyText
    else if char = '_' then .anyLetter
    else .letter char

/-! ## Quoting -/

/-- `quoteSqlIdentifier`. -/
def quoteSqlIdentifier (value : String) : String :=
  String.ofList (Lexical.quoted '"' value.toList)

/-- `quoteSqlLiteral`. -/
def quoteSqlLiteral (value : String) : String :=
  String.ofList (Lexical.quoted '\'' value.toList)

/-! ## Databases -/

/-- `createDb`. -/
def createDb (env : LambdaEnv) : Task Body := do
  let dbName ← settle (required env.RDS_DB_NAME "RDS_DB_NAME is not set")
  withMaintenanceKnex env fun knex =>
    tryCatch
      (do
        if ← raw knex (.databaseExists dbName) then
          pure (.message ("Database \"" ++ dbName ++ "\" already exists"))
        else do
          raw knex (.createDatabase dbName)
          pure (.message ("Database \"" ++ dbName ++ "\" created")))
      fun err => do
        tryCatch (raw knex (.dropDatabase dbName)) fun _ => pure ()
        throw err

/-- `dropDb`. -/
def dropDb (env : LambdaEnv) : Task Body := do
  let dbName ← settle (required env.RDS_DB_NAME "RDS_DB_NAME is not set")
  if (digitsAfter? PR_DATABASE dbName).isNone then
    throw ("Refusing to drop \"" ++ dbName ++
      "\" — drop-db is only allowed for PR databases (paymentportal_pr_<number>)")
  else
    withMaintenanceKnex env fun knex => do
      raw knex (.dropDatabase dbName)
      pure (.message ("Database \"" ++ dbName ++ "\" dropped"))

/-- The loop of `gcDbs` over the rows that are left. -/
def dropDatabases (knex : Connection) (openPrNumbers : List JsNumber) :
    List String → Task (List String)
  | [] => pure []
  | datname :: rest =>
      if isClosed PR_DATABASE openPrNumbers datname then do
        raw knex (.dropDatabase datname)
        let dropped ← dropDatabases knex openPrNumbers rest
        pure (datname :: dropped)
      else dropDatabases knex openPrNumbers rest

/-- `gcDbs`. -/
def gcDbs (env : LambdaEnv) (openPrNumbers : List JsNumber) : Task Body := do
  let dropped ← withMaintenanceKnex env fun knex => do
    let rows ← raw knex
      (.namesLike .pg_database (likePattern (PR_DATABASE ++ "%")))
    dropDatabases knex openPrNumbers rows
  pure (.dropped dropped)

/-- `showDatabases`. -/
def showDatabases (env : LambdaEnv) : Task Body :=
  withMaintenanceKnex env fun knex => do
    let rows ← raw knex .showDatabases
    pure (.databases rows)

/-! ## Roles -/

/-- The loop of `gcRoles`: a role that cannot be dropped is passed over. -/
def dropRoles (knex : Connection) (openPrNumbers : List JsNumber) :
    List String → Task (List String × List (String × String))
  | [] => pure ([], [])
  | rolname :: rest =>
      if isClosed PR_ROLE openPrNumbers rolname then do
        let outcome ← observe (raw knex (.dropRole rolname))
        let (dropped, failed) ← dropRoles knex openPrNumbers rest
        match outcome with
        | .ok _ => pure (rolname :: dropped, failed)
        | .error message => pure (dropped, (rolname, message) :: failed)
      else dropRoles knex openPrNumbers rest

/-- `gcRoles`. -/
def gcRoles (env : LambdaEnv) (openPrNumbers : List JsNumber) :
    Task Body := do
  let (dropped, failed) ← withMaintenanceKnex env fun knex => do
    let rows ← raw knex
      (.namesLike .pg_roles (likePattern (PR_ROLE ++ "%")))
    dropRoles knex openPrNumbers rows
  pure (.droppedRoles dropped failed)

/-- `showUsers`. -/
def showUsers (env : LambdaEnv) : Task Body :=
  withMaintenanceKnex env fun knex => do
    let rows ← raw knex .showUsers
    pure (.users rows)

/-- The command that gives a role its password, new or not. -/
def roleSql (alter : Bool) (prRole prPassword : String) : String :=
  if alter then
    "ALTER ROLE " ++ quoteSqlIdentifier prRole ++ " WITH LOGIN PASSWORD " ++
      quoteSqlLiteral prPassword
  else
    "CREATE ROLE " ++ quoteSqlIdentifier prRole ++ " LOGIN PASSWORD " ++
      quoteSqlLiteral prPassword

/-- The privileges of a role on the database of its pull request. -/
def prPrivileges (dbName owner : String) : List Privilege :=
  [.connectOnDatabase dbName, .usageOnSchema, .onAllTables, .onAllSequences,
    .defaultOnTables owner, .defaultOnSequences owner]

/-- The user of a connection to the application database. -/
def Connection.user : Connection → String
  | maintenance => ""
  | application _ user => user

/-- One `GRANT` after the other. -/
def grantAll (knex : Connection) (prRole : String) :
    List Privilege → Task Unit
  | [] => pure ()
  | privilege :: rest => do
      raw knex (.grant privilege prRole)
      grantAll knex prRole rest

/-- `provisionUser`. -/
def provisionUser (env : LambdaEnv) : Task Body :=
  match present env.PR_USER_SECRET_ARN with
  | none => pure (.message
      "Skipping provision-user: PR_USER_SECRET_ARN is not set")
  | some prUserSecretArn => do
      let dbName ← settle (required env.RDS_DB_NAME "RDS_DB_NAME is not set")
      let secret ← getRdsSecret prUserSecretArn
      withMaintenanceKnex env fun knex => do
        let isThere ← raw knex (.roleExists secret.username)
        raw knex (.roleCommand
          (roleSql isThere secret.username secret.password))
      withApplicationKnex env fun knex =>
        grantAll knex secret.username (prPrivileges dbName knex.user)
      pure (.message ("Provisioned role \"" ++ secret.username ++
        "\" for database \"" ++ dbName ++ "\""))

/-- What `deprovisionUser` does in the database of the pull request. -/
def disown (knex : Connection) (prRole : String) : Task Bool := do
  if ← raw knex (.roleExists prRole) then
    raw knex (.terminateBackends prRole)
    raw knex (.reassignOwned prRole knex.user)
    raw knex (.dropOwned prRole)
    pure true
  else pure false

/-- `deprovisionUser`. -/
def deprovisionUser (env : LambdaEnv) : Task Body :=
  match present env.PR_USER_SECRET_ARN with
  | none => pure (.message
      "Skipping deprovision-user: PR_USER_SECRET_ARN is not set")
  | some prUserSecretArn => do
      let secret ← getRdsSecret prUserSecretArn
      let prRole := secret.username
      if ← withApplicationKnex env fun knex => disown knex prRole then
        withMaintenanceKnex env fun knex => raw knex (.dropRole prRole)
        pure (.message ("Deprovisioned role \"" ++ prRole ++ "\""))
      else
        pure (.message ("Role \"" ++ prRole ++
          "\" does not exist; nothing to deprovision"))

/-! ## Reports -/

/-- `debugTransactions`. -/
def debugTransactions (env : LambdaEnv) : Task Body :=
  withApplicationKnex env fun knex => do
    let summary ← report knex .transactionSummary
    let yearly ← report knex .transactionYears
    pure (.rows env.RDS_DB_NAME [summary, yearly])

/-- `debugTables`. -/
def debugTables (env : LambdaEnv) : Task Body :=
  withApplicationKnex env fun knex => do
    let tables ← report knex .tables
    pure (.rows env.RDS_DB_NAME [tables])

/-! ## Commands -/

/-- `Command`. -/
inductive Command where
  | createDb
  | dropDb
  | provisionUser
  | deprovisionUser
  | showUsers
  | showDatabases
  | migrate
  | rollback
  | unlock
  | seed
  | verify
  | analyze
  | gcDbs
  | gcRoles
  | debugTransactions
  | debugTables
  deriving DecidableEq, Repr

/-- `MigrationHandlerEvent`. -/
structure MigrationHandlerEvent where
  command : Option Command
  openPrNumbers : Option (List JsNumber)
  confirm : Option Bool
  deriving DecidableEq, Repr

/-- `event?.command ?? "migrate"`. -/
def commandOf (event : Option MigrationHandlerEvent) : Command :=
  ((event.bind MigrationHandlerEvent.command)).getD .migrate

/-- `event?.confirm === true`. -/
def isConfirmed (event : Option MigrationHandlerEvent) : Bool :=
  event.bind MigrationHandlerEvent.confirm == some true

/-- `event.openPrNumbers`, when there are any. -/
def openPrNumbersOf (event : Option MigrationHandlerEvent) :
    Option (List JsNumber) :=
  (event.bind MigrationHandlerEvent.openPrNumbers).filter (· ≠ [])

/-- The message of a rollback, which is empty when there was no batch. -/
def rollbackMessage (batch : Batch) : String :=
  if batch.migrations = [] then "No migration batch to roll back"
  else "Rolled back batch " ++ toString batch.batchNo

/-- The commands that Knex itself carries out. -/
def knexCommand (connection : Connection) : Command → Task Body
  | .verify => do
      let version ← knex connection .currentVersion
      pure (.version (version.getD "none"))
  | .analyze => do
      let version ← report connection .serverVersion
      let _ ← report connection .analyze
      pure (.serverVersion version)
  | .seed => do
      knex connection .seed
      pure (.message "Seeds completed")
  | .rollback => do
      let batch ← knex connection .rollback
      pure (.rolledBack batch (rollbackMessage batch))
  | .unlock => do
      knex connection .forceFreeMigrationsLock
      pure (.message "Migration lock cleared")
  | _ => do
      let batch ← knex connection .latest
      pure (.migrated batch)

/-- `migrationHandler`. -/
def migrationHandler (env : LambdaEnv)
    (event : Option MigrationHandlerEvent) : Task Body :=
  let dbLabel := env.RDS_DB_NAME.getD "(local)"
  match commandOf event with
  | .createDb => createDb env
  | .dropDb => dropDb env
  | .provisionUser => provisionUser env
  | .deprovisionUser => deprovisionUser env
  | .gcDbs =>
      match openPrNumbersOf event with
      | none => throw
          "gc-dbs requires a non-empty openPrNumbers array — omitting it would drop all PR databases"
      | some openPrNumbers => gcDbs env openPrNumbers
  | .gcRoles =>
      match openPrNumbersOf event with
      | none => throw
          "gc-roles requires a non-empty openPrNumbers array — omitting it would drop all PR roles"
      | some openPrNumbers => gcRoles env openPrNumbers
  | .showUsers => showUsers env
  | .showDatabases => showDatabases env
  | .debugTransactions => debugTransactions env
  | .debugTables => debugTables env
  | .rollback =>
      if isConfirmed event then
        withApplicationKnex env fun knex => knexCommand knex .rollback
      else throw (
        "rollback requires confirm:true — refusing to roll back the last batch on \"" ++
          dbLabel ++ "\" without explicit confirmation")
  | .unlock =>
      if isConfirmed event then
        withApplicationKnex env fun knex => knexCommand knex .unlock
      else throw (
        "unlock requires confirm:true — refusing to force-free the migration lock on \"" ++
          dbLabel ++
          "\" without explicit confirmation. Confirm the interrupted run is actually dead first; unlocking a live run risks corruption.")
  | command => withApplicationKnex env fun knex => knexCommand knex command

/-! ## The machine -/

/-- What the environment decides about one operation. -/
inductive Fate where
  | executed
  | listed (names : List String)
  | reported (rows : List String)
  | failed (message : String)
  | replyLost (message : String)
  | secret (value : SecretValue)
  | batch (batch : Batch)
  | version (version : Option String)
  deriving DecidableEq, Repr

/-- A statement over a connection, as the server executes it. -/
def execRaw (knex : Knex) (connection : Connection) (statement : Statement)
    (fate : Fate) (cluster : Cluster) :
    Option (Except String statement.Result × Cluster) :=
  -- A database that is not there cannot be connected to.
  if connection ≠ .maintenance ∧
      connection.database ∉ cluster.databases then
    match fate with
    | .failed message => some (.error message, cluster)
    | _ => none
  else
    match fate, statement with
    | .failed message, _ => some (.error message, cluster)
    | .listed names, .namesLike catalogue pattern =>
        if names.Perm (cluster.namesLike catalogue pattern) then
          some (.ok names, cluster)
        else none
    | .executed, statement =>
        if statement.isListing then none
        else
          match statement.run knex connection.database cluster with
          | .ok (result, after) => some (.ok result, after)
          | .error message => some (.error message, cluster)
    | .replyLost message, statement =>
        match statement.run knex connection.database cluster with
        | .ok (_, after) => some (.error message, after)
        | .error _ => none
    | _, _ => none

/-- What Knex answers to a task, as far as the environment decides it. -/
def execKnex : (task : KnexTask) → Fate → Option (Except String task.Result)
  | _, .failed message => some (.error message)
  | .latest, .batch batch => some (.ok batch)
  | .rollback, .batch batch => some (.ok batch)
  | .currentVersion, .version version => some (.ok version)
  | .seed, .executed => some (.ok ())
  | .forceFreeMigrationsLock, .executed => some (.ok ())
  | _, _ => none

/-- Execute one operation; `none` when the fate does not fit it. -/
def exec (knex : Knex) :
    (op : Op) → Fate → Cluster → Option (Reply op × Cluster)
  | .getSecretValue _, .secret value, cluster => some (.ok value, cluster)
  | .getSecretValue _, .failed message, cluster =>
      some (.error message, cluster)
  | .connect _, .executed, cluster => some ((), cluster)
  | .destroy _, .executed, cluster => some (.ok (), cluster)
  | .destroy _, .failed message, cluster => some (.error message, cluster)
  | .raw connection statement, fate, cluster =>
      execRaw knex connection statement fate cluster
  | .report _ _, .reported rows, cluster => some (.ok rows, cluster)
  | .report _ _, .failed message, cluster => some (.error message, cluster)
  | .knex _ task, fate, cluster =>
      (execKnex task fate).map fun reply => (reply, cluster)
  | _, _, _ => none

/-- One invocation of a Lambda: its environment and its event. -/
structure Invocation where
  env : LambdaEnv
  event : Option MigrationHandlerEvent
  deriving DecidableEq, Repr

/-- The server at work for others: something new refers to a role. -/
inductive Drift where
  | depend (dependency : Dependency)
  deriving DecidableEq, Repr

/-- Only roles and databases that are there are referred to. -/
def drift : Drift → Cluster → Option Cluster
  | .depend dependency, cluster =>
      if cluster.HasRole dependency.role ∧
          dependency.database ∈ cluster.databases then
        some (cluster.depend dependency)
      else none

/-- The migration runners of all environments over one server. -/
def runner (knex : Knex) : Machine Op Reply Cluster Fate Invocation (Except String Body)
    Drift where
  program invocation := (migrationHandler invocation.env invocation.event).run
  exec := exec knex
  drift := drift

/-- A state of the server with the invocations so far. -/
abbrev RunnerState := State Op Reply Cluster Invocation (Except String Body)

/-- A move of the server or of an invocation. -/
abbrev RunnerMove := Move Fate Invocation Drift

/-- One executed operation of an invocation. -/
abbrev RunnerEntry := Entry Op Reply Cluster

/-! ## A sample -/

/-- A server with the databases and the roles of two pull requests. -/
def sampleCluster : Cluster where
  databases := ["postgres", "paymentportal_stg", "paymentportal_pr_7",
    "paymentportal_pr_8"]
  roles := [⟨"master", "m"⟩, ⟨"pr_user_pr_7", "seven"⟩,
    ⟨"pr_user_pr_8", "eight"⟩]
  dependencies := [⟨"pr_user_pr_7", "paymentportal_pr_7", .granted⟩,
    ⟨"pr_user_pr_8", "paymentportal_pr_8", .granted⟩]
  distinctDatabases := by decide
  distinctRoles := by decide

/-- The environment of a runner over the database `dbName`. -/
def sampleEnv (dbName : String) : LambdaEnv where
  RDS_DB_NAME := some dbName
  RDS_SECRET_ARN := some "arn:application"
  RDS_ENDPOINT := some "db.local:5432"
  RDS_MASTER_SECRET_ARN := some "arn:master"
  PR_USER_SECRET_ARN := some "arn:pr-user"
  DB_HOST := none
  DB_PORT := none
  DB_USER := none
  DB_PASSWORD := none
  DB_NAME := none

/-- A command without parameters. -/
def sampleInvocation (dbName : String) (command : Command) : Invocation :=
  ⟨sampleEnv dbName, some ⟨some command, none, none⟩⟩

/-- Knex as long as there are no placeholders. -/
def sampleKnex : Knex := ⟨id, fun _ _ => rfl⟩

end PaymentPortal.Maintenance
