import Mathlib.Data.Rat.Defs

/-!
# The connection pool of a process

`db/knex.ts`.  The module keeps two variables, the Knex instance and the promise
of its initialisation.  A call of `getKnex` is synchronous; the callbacks of the
promise chain that it may start are jobs of their own, which run when the
promise before them has settled.  Every job runs to its end before the next
one, but in between any calls and jobs may run.

What `getRdsCredentials` answers, and when, is up to the environment, and so is
whether the constructor of Knex or the binding of the models throws.  The lines
that the module writes to the console are left out.
-/

namespace PaymentPortal.Model

/-! ## Knex instances -/

/-- `RdsConnectionConfig`. -/
structure RdsConnectionConfig where
  host : String
  port : Int
  user : String
  password : String
  database : String
  rejectUnauthorized : Bool
  ca : List String
  deriving DecidableEq, Repr

/-- What a Knex instance connects to; `none` is the port `NaN`. -/
inductive KnexConnection where
  | url (text : String)
  | direct (host : String) (port : Option Rat)
      (user password database : String)
  | rds (connection : RdsConnectionConfig)
  deriving DecidableEq, Repr

/-- The argument of the constructor of Knex. -/
structure KnexConfig where
  client : String
  connection : KnexConnection
  poolMin : Nat
  poolMax : Nat
  deriving DecidableEq, Repr

/-- A Knex instance with its pool; instances are numbered as they are made. -/
structure KnexInstance where
  number : Nat
  config : KnexConfig
  deriving DecidableEq, Repr

/-- The environment variables, and `Number` of the language. -/
structure KnexEnv where
  DB_HOST : Option String
  DB_PORT : Option String
  DB_USER : Option String
  DB_PASSWORD : Option String
  DB_NAME : Option String
  NODE_ENV : Option String
  RDS_SECRET_ARN : Option String
  DATABASE_URL : Option String
  toNumber : String → Option Rat

/-- A variable that is unset or empty is falsy. -/
def truthyText : Option String → Option String
  | none => none
  | some text => if text = "" then none else some text

/-- The configuration that `createKnexFromEnv` passes to Knex. -/
def createKnexFromEnv (env : KnexEnv) : KnexConfig :=
  let nodeEnv := env.NODE_ENV.getD "development"
  let dbName := env.DB_NAME.getD "mydb"
  let direct := KnexConnection.direct
    (env.DB_HOST.getD "localhost")
    (env.toNumber (env.DB_PORT.getD "5432"))
    (env.DB_USER.getD "user")
    (env.DB_PASSWORD.getD "password")
    (if nodeEnv = "test" then dbName ++ "_test" else dbName)
  let connection :=
    if nodeEnv = "production" then
      match truthyText env.DATABASE_URL with
      | some url => .url url
      | none => direct
    else direct
  { client := "pg", connection := connection, poolMin := 2, poolMax := 10 }

/-- The configuration of the Lambda path. -/
def rdsKnexConfig (connection : RdsConnectionConfig) : KnexConfig :=
  { client := "pg", connection := .rds connection, poolMin := 0, poolMax := 1 }

/-! ## The state of a process -/

/--
How far the chain of one initialisation has come.  `opened` and `failing` lie
between the callback of `then` and the one of `catch`; with `fulfilled` and
`rejected` the promise that `getKnex` returned has settled.
-/
inductive Initialisation (Failure : Type) where
  | loading
  | loaded (connection : RdsConnectionConfig)
  | opened (knex : KnexInstance)
  | failing (failure : Failure)
  | fulfilled (knex : KnexInstance)
  | rejected (failure : Failure)
  deriving DecidableEq, Repr

/-- The promise that a call holds. -/
inductive KnexPromise where
  | resolved (knex : KnexInstance)
  | initialisation (number : Nat)
  deriving DecidableEq, Repr

/-- A call of `getKnex`, and how its promise settled for the caller. -/
structure KnexCall (Failure : Type) where
  promise : KnexPromise
  result : Option (Except Failure KnexInstance)

/-- The variables of the module, every instance made, and what is under way. -/
structure KnexProcess (Failure : Type) where
  knexInstance : Option KnexInstance
  knexInitPromise : Option Nat
  instances : List KnexInstance
  initialisations : List (Initialisation Failure)
  calls : List (KnexCall Failure)

variable {Failure : Type}

namespace KnexProcess

/-- `knexInstance = Knex(config)`. -/
def createInstance (process : KnexProcess Failure) (config : KnexConfig) :
    KnexInstance × KnexProcess Failure :=
  let made := { number := process.instances.length, config := config }
  (made, { process with
    knexInstance := some made
    instances := process.instances ++ [made] })

/-- An initialisation moves on. -/
def advance (process : KnexProcess Failure) (number : Nat)
    (stage : Initialisation Failure) : KnexProcess Failure :=
  { process with initialisations := process.initialisations.set number stage }

/-- The process before the module is loaded. -/
def blank : KnexProcess Failure :=
  { knexInstance := none, knexInitPromise := none, instances := []
    initialisations := [], calls := [] }

/-- Loading the module: without `RDS_SECRET_ARN` the instance is made at once. -/
def boot (env : KnexEnv) : KnexProcess Failure :=
  match truthyText env.RDS_SECRET_ARN with
  | none => (createInstance blank (createKnexFromEnv env)).2
  | some _ => blank

/-- `knexInitPromise = getRdsCredentials().then(…).catch(…)`. -/
def startInitialisation (process : KnexProcess Failure) :
    KnexProcess Failure :=
  { process with
    knexInitPromise := some process.initialisations.length
    initialisations := process.initialisations ++ [.loading] }

/-- `getKnex`: the promise that is returned, and the process afterwards. -/
def getKnex (process : KnexProcess Failure) :
    KnexPromise × KnexProcess Failure :=
  match process.knexInstance with
  | some made => (.resolved made, process)
  | none =>
    match process.knexInitPromise with
    | some number => (.initialisation number, process)
    | none =>
      (.initialisation process.initialisations.length,
        process.startInitialisation)

/-- What the callback of `then` meets. -/
inductive Opening (Failure : Type) where
  | succeeds
  | knexThrows (failure : Failure)
  | modelThrows (failure : Failure)
  deriving DecidableEq, Repr

/-- The callback of `then`. -/
def onCredentials (process : KnexProcess Failure) (number : Nat)
    (connection : RdsConnectionConfig) :
    Opening Failure → KnexProcess Failure
  | .knexThrows failure => process.advance number (.failing failure)
  | .succeeds =>
    let (made, next) := process.createInstance (rdsKnexConfig connection)
    next.advance number (.opened made)
  | .modelThrows failure =>
    let (_, next) := process.createInstance (rdsKnexConfig connection)
    next.advance number (.failing failure)

/-- The callback of `catch`. -/
def onFailure (process : KnexProcess Failure) (number : Nat)
    (failure : Failure) : KnexProcess Failure :=
  { process with knexInitPromise := none }.advance number (.rejected failure)

/-! ## What can happen next -/

/-- A call of `getKnex`, a job of an initialisation, or a caller going on. -/
inductive Move (Failure : Type) where
  | call
  | credentials (number : Nat) (answer : Except Failure RdsConnectionConfig)
  | connect (number : Nat) (opening : Opening Failure)
  | settle (number : Nat)
  | resume (call : Nat)

/-- How the promise of a call has settled, if it has. -/
def settled? (process : KnexProcess Failure) :
    KnexPromise → Option (Except Failure KnexInstance)
  | .resolved made => some (.ok made)
  | .initialisation number =>
    match process.initialisations[number]? with
    | some (.fulfilled made) => some (.ok made)
    | some (.rejected failure) => some (.error failure)
    | _ => none

/--
One move; there is none where the promise before it has not settled yet or the
job has run already.
-/
def step (process : KnexProcess Failure) :
    Move Failure → Option (KnexProcess Failure)
  | .call =>
    let (promise, next) := process.getKnex
    some { next with calls := next.calls ++ [{ promise, result := none }] }
  | .credentials number answer =>
    match process.initialisations[number]?, answer with
    | some .loading, .ok connection =>
      some (process.advance number (.loaded connection))
    | some .loading, .error failure =>
      some (process.advance number (.failing failure))
    | _, _ => none
  | .connect number opening =>
    match process.initialisations[number]? with
    | some (.loaded connection) =>
      some (process.onCredentials number connection opening)
    | _ => none
  | .settle number =>
    match process.initialisations[number]? with
    | some (.opened made) => some (process.advance number (.fulfilled made))
    | some (.failing failure) => some (process.onFailure number failure)
    | _ => none
  | .resume call =>
    match process.calls[call]? with
    | some ⟨promise, none⟩ =>
      (process.settled? promise).map fun result =>
        { process with
          calls := process.calls.set call ⟨promise, some result⟩ }
    | _ => none

/-- A run of moves, if every one of them is possible. -/
def run : List (Move Failure) → KnexProcess Failure →
    Option (KnexProcess Failure)
  | [], process => some process
  | move :: rest, process => (process.step move).bind (run rest)

end KnexProcess

end PaymentPortal.Model
