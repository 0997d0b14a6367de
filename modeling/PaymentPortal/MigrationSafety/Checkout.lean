import Mathlib.Data.List.AList
import PaymentPortal.Interaction.Alone
import PaymentPortal.Lexical.CodeUnits

/-!
# The checkout that is checked

What `checkMigrationSafety.ts` works on: the files of the checkout and of the
temporary directories, and the database to which Knex applies the migrations.
Knex lists the directory of the migrations by name, refuses when one that it has
completed is missing, and otherwise runs those that it has not completed; every
statement that it sends meanwhile is an event.  Which names it takes for
migrations, and what git tells of the branch, are parameters.
-/

namespace PaymentPortal.MigrationSafety

open PaymentPortal.Interaction
open PaymentPortal.Lexical

/-! ## Files -/

/-- The text of each file, by its path. -/
abbrev Files := AList fun _ : String => String

/-- `renameSync`: what stood at the target is gone. -/
def rename (source target text : String) (files : Files) : Files :=
  (files.erase source).insert target text

/-- `appendFileSync`. -/
def append (path text : String) (files : Files) : Files :=
  files.insert path ((files.lookup path).getD "" ++ text)

/-- `join` of a directory and a name. -/
def join (directory name : String) : String :=
  directory ++ "/" ++ name

/-- `basename`. -/
def basename (path : String) : String :=
  String.ofList (path.toList.reverse.takeWhile (· ≠ '/')).reverse

/-- The directory of the migrations. -/
def MIGRATIONS_DIR : String := "db/migrations"

/-- The directory is a new one: no file is in it. -/
def isFresh (directory : String) (files : Files) : Bool :=
  directory ≠ MIGRATIONS_DIR && files.keys.all fun path =>
    !(join directory "").toList.isPrefixOf path.toList

/-! ## Knex -/

/-- What the tools know of the branch, and which names Knex loads. -/
structure Tools where
  diff : String → Char → List String
  loads : String → Bool

/-- A migration that Knex has run, with the statements it sent meanwhile. -/
structure MigrationRun where
  name : String
  statements : List String
  deriving DecidableEq, Repr

/-- The name of a file of the directory that Knex takes for a migration. -/
def migrationName? (tools : Tools) (path : String) : Option String :=
  ((path.toList.dropPrefix? (join MIGRATIONS_DIR "").toList).map
    String.ofList).filter fun name =>
      !name.toList.contains '/' && tools.loads name

/-- The migrations of the directory, in the order in which Knex runs them. -/
def migrations (tools : Tools) (files : Files) : List String :=
  sortTexts (files.keys.filterMap (migrationName? tools))

/-- The files, and what Knex has completed and run in the database. -/
structure Checkout where
  files : Files
  completed : List String
  runs : List MigrationRun

/-- The migrations that are still to run. -/
def Checkout.pending (tools : Tools) (checkout : Checkout) : List String :=
  (migrations tools checkout.files).filter fun name =>
    !checkout.completed.contains name

/-- All that is completed is still in the directory. -/
def Checkout.isIntact (tools : Tools) (checkout : Checkout) : Bool :=
  checkout.completed.all fun name =>
    (migrations tools checkout.files).contains name

/-- The first of the pending migrations have run. -/
def Checkout.run (tools : Tools) (statements : List (List String))
    (checkout : Checkout) : Checkout :=
  let runs := List.zipWith MigrationRun.mk (checkout.pending tools) statements
  { checkout with
    completed := checkout.completed ++ runs.map MigrationRun.name
    runs := checkout.runs ++ runs }

/-! ## Operations -/

/-- What the check does to the outside. -/
inductive Op where
  | git (baselineRef : String) (filter : Char)
  | mkdtempSync
  | renameSync (source target : String)
  | existsSync (path : String)
  | readFileSync (path : String)
  | writeFileSync (path text : String)
  | appendFileSync (path text : String)
  | migrateLatest
  | migrateUp
  | destroy
  deriving DecidableEq, Repr

/-- The replies; what is thrown carries its message. -/
abbrev Reply : Op → Type
  | .git _ _ => Except String (List String)
  | .mkdtempSync => Except String String
  | .existsSync _ => Bool
  | .readFileSync _ => Except String String
  | .migrateUp => Except String (List String)
  | _ => Except String Unit

/-- What the outside decides about one operation. -/
inductive Fate where
  | executed
  | failed (message : String)
  | created (directory : String)
  | ran (statements : List (List String))
  | stopped (statements : List (List String)) (message : String)
  deriving DecidableEq, Repr

/-- The error of an operation on a file that is not there. -/
def ENOENT : String := "ENOENT: no such file or directory"

/-- The error of Knex when a completed migration is missing. -/
def CORRUPT : String := "The migration directory is corrupt"

/-- Execute one operation; `none` when the fate does not fit it. -/
def exec (tools : Tools) :
    (op : Op) → Fate → Checkout → Option (Reply op × Checkout)
  | .existsSync path, .executed, checkout =>
      some ((checkout.files.lookup path).isSome, checkout)
  | .existsSync _, _, _ => none
  | .git baselineRef filter, .executed, checkout =>
      some (.ok (tools.diff baselineRef filter), checkout)
  | .mkdtempSync, .created directory, checkout =>
      if isFresh directory checkout.files then some (.ok directory, checkout)
      else none
  | .renameSync source target, .executed, checkout =>
      match checkout.files.lookup source with
      | none => some (.error ENOENT, checkout)
      | some text => some (.ok (),
          { checkout with files := rename source target text checkout.files })
  | .readFileSync path, .executed, checkout =>
      match checkout.files.lookup path with
      | none => some (.error ENOENT, checkout)
      | some text => some (.ok text, checkout)
  | .writeFileSync path text, .executed, checkout =>
      some (.ok (), { checkout with files := checkout.files.insert path text })
  | .appendFileSync path text, .executed, checkout =>
      some (.ok (), { checkout with files := append path text checkout.files })
  | .migrateLatest, .ran statements, checkout =>
      if checkout.isIntact tools = false then some (.error CORRUPT, checkout)
      else if statements.length = (checkout.pending tools).length then
        some (.ok (), checkout.run tools statements)
      else none
  | .migrateLatest, .stopped statements message, checkout =>
      if checkout.isIntact tools ∧
          statements.length < (checkout.pending tools).length then
        some (.error message, checkout.run tools statements)
      else none
  | .migrateUp, .ran statements, checkout =>
      if checkout.isIntact tools = false then some (.error CORRUPT, checkout)
      else if statements.length = 1 then
        some (.ok statements.flatten, checkout.run tools statements)
      else none
  | .destroy, .executed, checkout => some (.ok (), checkout)
  | .git _ _, .failed message, checkout => some (.error message, checkout)
  | .mkdtempSync, .failed message, checkout => some (.error message, checkout)
  | .renameSync _ _, .failed message, checkout =>
      some (.error message, checkout)
  | .readFileSync _, .failed message, checkout =>
      some (.error message, checkout)
  | .writeFileSync _ _, .failed message, checkout =>
      some (.error message, checkout)
  | .appendFileSync _ _, .failed message, checkout =>
      some (.error message, checkout)
  | .migrateLatest, .failed message, checkout => some (.error message, checkout)
  | .migrateUp, .failed message, checkout => some (.error message, checkout)
  | .destroy, .failed message, checkout => some (.error message, checkout)
  | _, _, _ => none

end PaymentPortal.MigrationSafety
