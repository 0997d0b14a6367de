import PaymentPortal.MigrationSafety.Checkout
import PaymentPortal.Model.MigrationScanner

/-!
# The migration safety check

`migrationSafety/checkMigrationSafety.ts` and the report of `scanner.ts`.  The
new migrations are set aside while Knex applies the others, and brought back and
run one at a time, so that what is sent meanwhile is theirs.  What is printed is
left out.
-/

namespace PaymentPortal.MigrationSafety

open PaymentPortal.Interaction
open PaymentPortal.Lexical
open PaymentPortal.Model

/-! ## The report -/

/-- `ACKNOWLEDGMENT_MARKER`. -/
def ACKNOWLEDGMENT_MARKER : String := "migration-safety: acknowledged"

/-- `isAcknowledged`. -/
def isAcknowledged (fileContents : String) : Bool :=
  fileContents.toList.tails.any fun rest =>
    ACKNOWLEDGMENT_MARKER.toList.isPrefixOf rest

/-- The labels of `RULE_INFO`. -/
def label : Rule → String
  | .dropTable => "Drops a table"
  | .dropColumn => "Drops a column"
  | .rename => "Renames a table or column"
  | .notNullWithoutDefault =>
      "Adds or enforces NOT NULL without a default on an existing table"

/-- The safe alternatives of `RULE_INFO`. -/
def safeAlternative : Rule → String
  | .dropTable | .dropColumn =>
      "Drop it in a later contract migration, after all deployed code has stopped using it."
  | .rename =>
      "Add the new name, backfill and dual-read, then drop the old name in a later release."
  | .notNullWithoutDefault =>
      "Add the column nullable, backfill it, then enforce NOT NULL in a later migration."

/-- The lines of one finding. -/
def findingLines (finding : Finding) : List String :=
  let status :=
    if finding.acknowledged then "acknowledged" else "**needs sign-off**"
  ["- " ++ label finding.rule ++ " (" ++ status ++ ")",
    "  - `" ++ finding.statement ++ "`",
    "  - _Safe alternative:_ " ++ safeAlternative finding.rule]

/-- `formatFindingsComment`. -/
def formatFindingsComment (findings : List Finding) : String :=
  if findings = [] then
    "### Migration safety check\n\nNo destructive migration operations detected."
  else
    let lines :=
      ["### Migration safety check — destructive operations detected", "",
        if hasUnacknowledged findings then
          "The following operations break backward compatibility (expand-contract). Sign off deliberate changes with a `" ++
            ACKNOWLEDGMENT_MARKER ++
            " — <reason>` comment in the migration, or split them into a later contract migration."
        else
          "All destructive operations below are acknowledged. The deploy will still pause for reviewer approval.",
        ""]
    -- A `Map` keeps its keys in the order in which they came.
    let sections := (findings.map Finding.file).eraseDups.flatMap fun file =>
      ["**`" ++ file ++ "`**", ""] ++
        (findings.filter (·.file = file)).flatMap findingLines ++ [""]
    let text := ("\n".intercalate (lines ++ sections)).toList
    String.ofList (text.reverse.dropWhile isSpace).reverse

/-! ## Operations -/

/-- A part of the check that may throw an error with a message. -/
abbrev Task (α : Type) := ExceptT String (Program Op Reply) α

/-- The value or the error of a task, as a value. -/
def observe {α : Type} (task : Task α) : Task (Except String α) :=
  ExceptT.mk (task.run.bind fun outcome => .done (.ok outcome))

/-- Throw the error of a step that has been taken. -/
def settle {α : Type} (step : Except String α) : Task α :=
  ExceptT.mk (.done step)

/-- `listMigrations`. -/
def listMigrations (baselineRef : String) (filter : Char) :
    Task (List String) :=
  ExceptT.mk (.perform (.git baselineRef filter) fun reply => .done reply)

def mkdtempSync : Task String :=
  ExceptT.mk (.perform .mkdtempSync fun reply => .done reply)

def renameSync (source target : String) : Task Unit :=
  ExceptT.mk (.perform (.renameSync source target) fun reply => .done reply)

def existsSync (path : String) : Task Bool :=
  ExceptT.mk (.perform (.existsSync path) fun reply => .done (.ok reply))

def readFileSync (path : String) : Task String :=
  ExceptT.mk (.perform (.readFileSync path) fun reply => .done reply)

def writeFileSync (path text : String) : Task Unit :=
  ExceptT.mk (.perform (.writeFileSync path text) fun reply => .done reply)

def appendFileSync (path text : String) : Task Unit :=
  ExceptT.mk (.perform (.appendFileSync path text) fun reply => .done reply)

/-- `knex.migrate.latest()`. -/
def migrateLatest : Task Unit :=
  ExceptT.mk (.perform .migrateLatest fun reply => .done reply)

/-- `knex.migrate.up()`, with the statements of its events. -/
def migrateUp : Task (List String) :=
  ExceptT.mk (.perform .migrateUp fun reply => .done reply)

/-- `knex.destroy()`. -/
def destroy : Task Unit :=
  ExceptT.mk (.perform .destroy fun reply => .done reply)

/-! ## The statements of the new migrations -/

/-- `/^\s*(begin|commit|rollback|savepoint|release)\b/i`. -/
def transactionRegex : Regex :=
  .seq (.many isSpace) (.seq
    (.alt (Regex.keyword "begin".toList)
      (.alt (Regex.keyword "commit".toList)
        (.alt (Regex.keyword "rollback".toList)
          (.alt (Regex.keyword "savepoint".toList)
            (Regex.keyword "release".toList))))) .boundary)

/-- `isBookkeeping`. -/
def isBookkeeping (sql : String) : Bool :=
  (Regex.keyword "knex_migrations".toList).test sql.toList ||
    !(transactionRegex.ends ⟨none, sql.toList⟩).isEmpty

/-- The events that are kept. -/
def isCaptured (sql : String) : Bool :=
  sql ≠ "" && !isBookkeeping sql

/-- Move one file after the other. -/
def renameAll : List (String × String) → Task Unit
  | [] => pure ()
  | (source, target) :: rest => do
      renameSync source target
      renameAll rest

/-- `up()` for one file after the other, with the statements of each. -/
def captureAll : List String → Task (List SqlStatement)
  | [] => pure []
  | file :: rest => do
      let events ← migrateUp
      let statements ← captureAll rest
      pure ((events.filter isCaptured).map (SqlStatement.mk file) ++ statements)

/-- What `finally` does for one file. -/
def restore (source target : String) : Task Unit := do
  if ← existsSync target then
    if ← existsSync source then pure ()
    else renameSync target source
  else pure ()

/-- The loop of `finally`. -/
def restoreAll : List (String × String) → Task Unit
  | [] => pure ()
  | (source, target) :: rest => do
      restore source target
      restoreAll rest

/-- What is tried while files are set aside. -/
def captureAside (moved : List (String × String)) : Task (List SqlStatement) := do
  renameAll moved
  migrateLatest
  renameAll (moved.map Prod.swap)
  captureAll (moved.map Prod.fst)

/-- `captureNewMigrationSql`. -/
def captureNewMigrationSql (orderedNewFiles : List String) :
    Task (List SqlStatement) := do
  let stash ← mkdtempSync
  let moved := orderedNewFiles.map fun file => (file, join stash (basename file))
  let outcome ← observe (captureAside moved)
  restoreAll moved
  destroy
  settle outcome

/-! ## The check -/

/-- What the check reads from its environment. -/
structure CheckEnv where
  BASELINE_REF : Option String
  FAIL_ON_UNACKNOWLEDGED : Option String
  GITHUB_OUTPUT : Option String
  GITHUB_STEP_SUMMARY : Option String
  deriving DecidableEq, Repr

/-- A setting that is set to something. -/
def setting (value : Option String) : Option String :=
  value.filter fun text => text ≠ ""

/-- `process.env.BASELINE_REF || "origin/main"`. -/
def CheckEnv.baselineRef (env : CheckEnv) : String :=
  (setting env.BASELINE_REF).getD "origin/main"

/-- `process.env.FAIL_ON_UNACKNOWLEDGED !== "false"`. -/
def CheckEnv.failOnUnacknowledged (env : CheckEnv) : Bool :=
  env.FAIL_ON_UNACKNOWLEDGED ≠ some "false"

/-- Append to a file that is configured. -/
def appendTo (path : Option String) (text : String) : Task Unit :=
  match setting path with
  | none => pure ()
  | some path => appendFileSync path text

/-- The text that tells the workflow what was found. -/
def outputText (destructive unacknowledged : Bool) : String :=
  "has_destructive=" ++ toString destructive ++ "\nhas_unacknowledged=" ++
    toString unacknowledged ++ "\n"

/-- `writeOutputs`. -/
def writeOutputs (env : CheckEnv) (destructive unacknowledged : Bool) :
    Task Unit :=
  appendTo env.GITHUB_OUTPUT (outputText destructive unacknowledged)

/-- `REPORT_PATH`. -/
def REPORT_PATH : String := "migration-safety-report.md"

/-- `publishReport`. -/
def publishReport (env : CheckEnv) (report : String) : Task Unit := do
  writeFileSync REPORT_PATH (report ++ "\n")
  appendTo env.GITHUB_STEP_SUMMARY (report ++ "\n")

/-- The note on migrations that were there before. -/
def modifiedWarning (touchedApplied : List String) : String :=
  if touchedApplied = [] then ""
  else
    "\n\n> Note: these already-committed migrations were **modified or renamed** — editing or renaming an applied migration causes drift across environments (Knex tracks migrations by filename). Prefer a new migration:\n" ++
      "\n".intercalate (touchedApplied.map fun file => "> - `" ++ file ++ "`")

/-- The file is there and signed off. -/
def readSignOff (file : String) : Task Bool := do
  if ← existsSync file then isAcknowledged <$> readFileSync file
  else pure false

/-- The files that are there and signed off. -/
def acknowledgedFiles : List String → Task (List String)
  | [] => pure []
  | file :: rest => do
      let signedOff ← readSignOff file
      let others ← acknowledgedFiles rest
      pure (if signedOff then file :: others else others)

/-- What `main` does with new files; whether the check fails. -/
def checkNewFiles (env : CheckEnv) (newFiles : List String) (warning : String) :
    Task Bool := do
  let statements ← captureNewMigrationSql newFiles
  let acknowledged ← acknowledgedFiles newFiles
  let findings := scanStatements statements acknowledged
  publishReport env (formatFindingsComment findings ++ warning)
  writeOutputs env (hasDestructive findings) (hasUnacknowledged findings)
  pure (env.failOnUnacknowledged && hasUnacknowledged findings)

/-- `main`: whether the check fails. -/
def main (env : CheckEnv) : Task Bool := do
  let added ← listMigrations env.baselineRef 'A'
  let newFiles := sortTexts added
  let modified ← listMigrations env.baselineRef 'M'
  let renamed ← listMigrations env.baselineRef 'R'
  let warning := modifiedWarning (sortTexts (modified ++ renamed))
  if newFiles = [] then do
    publishReport env (formatFindingsComment [] ++ warning)
    writeOutputs env false false
    pure false
  else checkNewFiles env newFiles warning

/-- The exit code of the check; an error is one, too. -/
def exitCode (env : CheckEnv) : Program Op Reply Nat :=
  (main env).run.bind fun outcome =>
    .done (match outcome with
      | .ok false => 0
      | _ => 1)

/-- Checks over one checkout. -/
def checker (tools : Tools) :
    Machine Op Reply Checkout Fate CheckEnv Nat Empty where
  program := exitCode
  exec := exec tools
  drift := nofun

end PaymentPortal.MigrationSafety
