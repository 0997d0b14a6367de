import PaymentPortal.MigrationSafety.Capture

/-!
# The gate

The check fails whenever anything fails, and otherwise exactly when a new
migration that is not signed off sends a destructive statement.  In any case no
file of the checkout is lost.
-/

namespace PaymentPortal.MigrationSafety

open PaymentPortal.Interaction
open PaymentPortal.Lexical
open PaymentPortal.Model
open PaymentPortal.Relational

/-! ## What is to be found -/

/-- The migration sends a statement that violates a rule. -/
def IsDestructive (run : MigrationRun) : Prop :=
  ∃ sql ∈ run.statements, isCaptured sql = true ∧ scanSql sql ≠ []

/-- The file is there and carries the marker. -/
def isSignedOff (files : Files) (path : String) : Bool :=
  (read files path).any isAcknowledged

theorem exists_statement_iff (runs : List MigrationRun)
    (condition : String → Prop) :
    (∃ statement ∈ statementsOf runs, condition statement.file ∧
      scanSql statement.sql ≠ []) ↔
      ∃ run ∈ runs, condition (place run.name) ∧ IsDestructive run := by
  constructor
  · rintro ⟨statement, member, holds, violates⟩
    obtain ⟨run, isRun, kept⟩ := List.mem_flatMap.mp member
    obtain ⟨sql, isSql, rfl⟩ := List.mem_map.mp kept
    obtain ⟨sent, isKept⟩ := List.mem_filter.mp isSql
    exact ⟨run, isRun, holds, sql, sent, isKept, violates⟩
  · rintro ⟨run, isRun, holds, sql, sent, isKept, violates⟩
    refine ⟨⟨place run.name, sql⟩, List.mem_flatMap.mpr ⟨run, isRun, ?_⟩,
      holds, violates⟩
    exact List.mem_map.mpr ⟨sql, List.mem_filter.mpr ⟨sent, isKept⟩, rfl⟩

/-- What the workflow is told. -/
structure Tells (files : Files) (fresh : List MigrationRun)
    (destructive unacknowledged : Bool) : Prop where
  destructive : destructive = true ↔ ∃ run ∈ fresh, IsDestructive run
  unacknowledged : unacknowledged = true ↔ ∃ run ∈ fresh,
    isSignedOff files (place run.name) = false ∧ IsDestructive run

/-- The findings are those of the runs, and of the files as they were. -/
theorem tells_of_scan (files : Files) {fresh : List MigrationRun}
    {paths : List String}
    (places : fresh.map (fun run => place run.name) = paths) :
    Tells files fresh
      (hasDestructive (scanStatements (statementsOf fresh)
        (paths.filter (isSignedOff files))))
      (hasUnacknowledged (scanStatements (statementsOf fresh)
        (paths.filter (isSignedOff files)))) := by
  constructor
  · have found := exists_statement_iff fresh fun _ => True
    simp only [true_and] at found
    rw [hasDestructive_iff, found]
  · rw [hasUnacknowledged_iff, exists_statement_iff fresh
      fun file => file ∉ paths.filter (isSignedOff files)]
    refine exists_congr fun run => and_congr_right fun isRun =>
      and_congr_left fun _ => ?_
    have isPath : place run.name ∈ paths :=
      places ▸ List.mem_map_of_mem (f := fun run => place run.name) isRun
    simp [isPath]

/-! ## Files that are written -/

variable {tools : Tools} {condition : Checkout → Op → Fate → Prop}
variable {quiet : Prop} {world start : Checkout} {env : CheckEnv}

/-- The files that the check writes. -/
def written (env : CheckEnv) : List String :=
  REPORT_PATH :: (setting env.GITHUB_STEP_SUMMARY).toList ++
    (setting env.GITHUB_OUTPUT).toList

/-- Only the files that are written have changed. -/
structure Elsewhere (env : CheckEnv) (start after : Checkout) : Prop where
  files : ∀ path, path ∉ written env →
    read after.files path = read start.files path
  runs : after.runs = start.runs

theorem Elsewhere.refl : Elsewhere env start start :=
  ⟨fun _ _ => rfl, rfl⟩

theorem Elsewhere.trans {middle after : Checkout}
    (first : Elsewhere env start middle) (second : Elsewhere env middle after) :
    Elsewhere env start after :=
  ⟨fun path outside => (second.files path outside).trans
    (first.files path outside), second.runs.trans first.runs⟩

/-- The text is appended to the file, if one is configured. -/
def appended (path : Option String) (text : String) (files : Files) : Files :=
  match setting path with
  | none => files
  | some path => append path text files

/-- The files with the report and with what the workflow is told. -/
def published (env : CheckEnv) (report : String)
    (destructive unacknowledged : Bool) (files : Files) : Files :=
  appended env.GITHUB_OUTPUT (outputText destructive unacknowledged)
    (appended env.GITHUB_STEP_SUMMARY (report ++ "\n")
      (files.insert REPORT_PATH (report ++ "\n")))

theorem read_insert (path text : String) (files : Files) (other : String) :
    read (files.insert path text) other =
      if other = path then some text else read files other := by
  split
  · next same =>
      rw [same]
      exact AList.lookup_insert _
  · next different => exact AList.lookup_insert_ne different

/-- What is appended to a file depends on what can be read only. -/
theorem read_appended_congr {first second : Files}
    (same : read first = read second) (path : Option String) (text : String) :
    read (appended path text first) = read (appended path text second) := by
  unfold appended
  cases setting path with
  | none => exact same
  | some file =>
      funext other
      have sameFile : first.lookup file = second.lookup file := congrFun same file
      simp only [append, read_insert, sameFile, same]

theorem read_published_congr {first second : Files}
    (same : read first = read second) (env : CheckEnv) (report : String)
    (destructive unacknowledged : Bool) :
    read (published env report destructive unacknowledged first) =
      read (published env report destructive unacknowledged second) := by
  refine read_appended_congr (read_appended_congr ?_ _ _) _ _
  funext other
  simp only [read_insert, same]

theorem read_appended_of_ne {path : Option String} {text other : String}
    (outside : setting path ≠ some other) (files : Files) :
    read (appended path text files) other = read files other := by
  unfold appended
  cases isSet : setting path with
  | none => rfl
  | some file =>
      refine AList.lookup_insert_ne ?_
      rintro rfl
      exact outside isSet

/-- A path that the check does not write. -/
theorem not_mem_written {path : String} : path ∉ written env ↔
    path ≠ REPORT_PATH ∧ setting env.GITHUB_STEP_SUMMARY ≠ some path ∧
      setting env.GITHUB_OUTPUT ≠ some path := by
  simp only [written, List.cons_append, List.mem_cons, List.mem_append,
    Option.mem_toList, not_or]

theorem elsewhere_appended {path : Option String} (text : String)
    (isWritten : ∀ file, setting path = some file → file ∈ written env) :
    Elsewhere env start
      { start with files := appended path text start.files } :=
  ⟨fun _ outside => read_appended_of_ne (fun isSet =>
    outside (isWritten _ isSet)) _, rfl⟩

theorem elsewhere_report (text : String) : Elsewhere env start
    { start with files := start.files.insert REPORT_PATH text } :=
  ⟨fun _ outside => AList.lookup_insert_ne (not_mem_written.mp outside).1, rfl⟩

theorem elsewhere_published (report : String)
    (destructive unacknowledged : Bool) : Elsewhere env start
      { start with files :=
          published env report destructive unacknowledged start.files } := by
  have summary : ∀ file, setting env.GITHUB_STEP_SUMMARY = some file →
      file ∈ written env := fun file isSet => by simp [written, isSet]
  exact ((elsewhere_report (report ++ "\n")).trans
    (elsewhere_appended (report ++ "\n") summary)).trans
    (elsewhere_appended _ fun file isSet => by simp [written, isSet])

theorem ends_writeFileSync {path text : String}
    (outside : Outside tools condition quiet) :
    Ends tools condition
      (fun after _ => after =
        { world with files := world.files.insert path text })
      (fun after => ¬ quiet ∧ after = world) (writeFileSync path text) world :=
  ends_performed (.ok ()) .error outside (fun fate => by cases fate <;> rfl)
    rfl fun _ unquiet => ⟨unquiet, rfl⟩

/-- The text is appended to the file, if one is configured. -/
theorem ends_appendTo {path : Option String} {text : String}
    (outside : Outside tools condition quiet) :
    Ends tools condition
      (fun after _ => after =
        { world with files := appended path text world.files })
      (fun after => ¬ quiet ∧ after = world) (appendTo path text) world := by
  unfold appendTo appended
  cases setting path with
  | none => exact Machine.Attains.pure rfl
  | some file =>
      exact ends_performed (.ok ()) .error outside
        (fun fate => by cases fate <;> rfl) rfl fun _ unquiet => ⟨unquiet, rfl⟩

/-- The report is published, and the workflow is told. -/
theorem ends_publish (env : CheckEnv) {report : String}
    {destructive unacknowledged result : Bool}
    (outside : Outside tools condition quiet) :
    Ends tools condition
      (fun after fails => fails = result ∧ after = { world with
        files := published env report destructive unacknowledged world.files })
      (fun after => ¬ quiet ∧ Elsewhere env world after)
      (do
        publishReport env report
        writeOutputs env destructive unacknowledged
        pure result) world := by
  have reported : Ends tools condition
      (fun after _ => after = { world with
        files := appended env.GITHUB_STEP_SUMMARY (report ++ "\n")
          (world.files.insert REPORT_PATH (report ++ "\n")) })
      (fun after => ¬ quiet ∧ Elsewhere env world after)
      (publishReport env report) world := by
    refine Machine.Attains.bind _ ((ends_writeFileSync outside).mono
      (fun _ _ ended => ended) ?_) ?_
    · rintro last _ ⟨unquiet, rfl⟩
      exact ⟨unquiet, .refl⟩
    · rintro first _ rfl
      refine (ends_appendTo outside).mono (fun _ _ ended => ended) ?_
      rintro last _ ⟨unquiet, rfl⟩
      exact ⟨unquiet, elsewhere_report _⟩
  refine Machine.Attains.bind _ reported ?_
  rintro first _ rfl
  refine Machine.Attains.bind _ ((ends_appendTo outside).mono
    (fun _ _ ended => ended) ?_) ?_
  · rintro last _ ⟨unquiet, rfl⟩
    exact ⟨unquiet, (elsewhere_report _).trans
      (elsewhere_appended _ fun file isSet => by simp [written, isSet])⟩
  · rintro last _ rfl
    exact Machine.Attains.pure ⟨rfl, rfl⟩

/-- The file ends with the text. -/
def EndsWith (files : Files) (path text : String) : Prop :=
  ∃ before, read files path = some (before ++ text)

/-- The workflow is told last. -/
theorem endsWith_published (env : CheckEnv) (report : String)
    (destructive unacknowledged : Bool) (files : Files) {file : String}
    (isSet : setting env.GITHUB_OUTPUT = some file) :
    EndsWith (published env report destructive unacknowledged files) file
      (outputText destructive unacknowledged) := by
  unfold published appended
  rw [isSet]
  exact ⟨_, AList.lookup_insert _⟩

/-! ## Signing off -/

theorem ends_readSignOff {file : String}
    (outside : Outside tools condition quiet) :
    Ends tools condition
      (fun after signedOff => after = world ∧
        signedOff = isSignedOff world.files file)
      (fun after => ¬ quiet ∧ after = world) (readSignOff file) world := by
  refine Machine.Attains.bind
    (fun after isThere => after = world ∧
      isThere = (read world.files file).isSome)
    (ends_existsSync outside ⟨rfl, rfl⟩) fun after isThere same => ?_
  obtain ⟨rfl, rfl⟩ := same
  cases found : read after.files file with
  | none => exact Machine.Attains.pure ⟨rfl, by rw [isSignedOff, found]; rfl⟩
  | some text =>
      have reads : Ends tools condition
          (fun later contents => later = after ∧ contents = text)
          (fun later => ¬ quiet ∧ later = after) (readFileSync file) after := by
        refine ends_performed (.ok text) .error outside (fun fate => ?_)
          ⟨rfl, rfl⟩ fun _ unquiet => ⟨unquiet, rfl⟩
        have isThere : after.files.lookup file = some text := found
        cases fate <;> simp [exec, isThere]
      refine Machine.Attains.map reads ?_
      rintro later _ ⟨rfl, rfl⟩
      exact ⟨rfl, by rw [isSignedOff, found]; rfl⟩

theorem ends_acknowledgedFiles {files : List String}
    (outside : Outside tools condition quiet) :
    Ends tools condition
      (fun after acknowledged => after = world ∧
        acknowledged = files.filter (isSignedOff world.files))
      (fun after => ¬ quiet ∧ after = world) (acknowledgedFiles files)
      world := by
  induction files generalizing world with
  | nil => exact Machine.Attains.pure ⟨rfl, rfl⟩
  | cons file files ih =>
      refine Machine.Attains.bind _ (ends_readSignOff outside)
        fun after signedOff same => ?_
      obtain ⟨rfl, rfl⟩ := same
      refine Machine.Attains.bind _ ih fun later others same => ?_
      obtain ⟨rfl, rfl⟩ := same
      exact Machine.Attains.pure ⟨rfl, (List.filter_cons ..).symm⟩

/-! ## The check -/

/-- The new files of the branch. -/
def newFiles (tools : Tools) (env : CheckEnv) : List String :=
  sortTexts (tools.diff env.baselineRef 'A')

/-- What is found in the statements of the new migrations. -/
def findingsOf (tools : Tools) (env : CheckEnv) (files : Files)
    (fresh : List MigrationRun) : List Finding :=
  scanStatements (statementsOf fresh)
    ((newFiles tools env).filter (isSignedOff files))

/-- The report on what is found, and on migrations that were there before. -/
def reportOf (tools : Tools) (env : CheckEnv) (files : Files)
    (fresh : List MigrationRun) : String :=
  formatFindingsComment (findingsOf tools env files fresh) ++
    modifiedWarning (sortTexts (tools.diff env.baselineRef 'M' ++
      tools.diff env.baselineRef 'R'))

/-- The files as they were, with the report and what the workflow is told. -/
def reported (tools : Tools) (env : CheckEnv) (files : Files)
    (fresh : List MigrationRun) : Files :=
  let findings := findingsOf tools env files fresh
  published env (reportOf tools env files fresh) (hasDestructive findings)
    (hasUnacknowledged findings) files

/--
The other migrations and then the new ones have run, the files are as before but
for the report on what was found and what the workflow is told of it, and the
check fails for what is to be signed off and is not.
-/
structure Checked (tools : Tools) (env : CheckEnv) (start after : Checkout)
    (baseline fresh : List MigrationRun) (fails : Bool) : Prop where
  runs : after.runs = start.runs ++ baseline ++ fresh
  isOld : ∀ run ∈ baseline, place run.name ∉ newFiles tools env
  isNew : fresh.map (fun run => place run.name) = newFiles tools env
  files : ∀ path, path ∉ written env →
    read after.files path = read start.files path
  report : read after.files = read (reported tools env start.files fresh)
  told : ∀ file, setting env.GITHUB_OUTPUT = some file →
    ∃ destructive unacknowledged, EndsWith after.files file
        (outputText destructive unacknowledged) ∧
      Tells start.files fresh destructive unacknowledged
  fails : fails = true ↔ env.failOnUnacknowledged = true ∧
    ∃ run ∈ fresh, isSignedOff start.files (place run.name) = false ∧
      IsDestructive run

/-- What holds of the checkout when the report has been published. -/
theorem checked_of_published {after middle : Checkout}
    {baseline fresh : List MigrationRun} {fails : Bool}
    (runs : middle.runs = start.runs ++ baseline ++ fresh)
    (isOld : ∀ run ∈ baseline, place run.name ∉ newFiles tools env)
    (isNew : fresh.map (fun run => place run.name) = newFiles tools env)
    (restored : read middle.files = read start.files)
    (isAfter : after = { middle with
      files := published env (reportOf tools env start.files fresh)
        (hasDestructive (findingsOf tools env start.files fresh))
        (hasUnacknowledged (findingsOf tools env start.files fresh))
        middle.files })
    (verdict : fails = (env.failOnUnacknowledged &&
      hasUnacknowledged (findingsOf tools env start.files fresh))) :
    Checked tools env start after baseline fresh fails := by
  subst isAfter
  have tells := tells_of_scan start.files isNew
  refine ⟨runs, isOld, isNew, fun path isOther => ?_,
    read_published_congr restored _ _ _ _,
    fun file isSet => ⟨_, _, endsWith_published _ _ _ _ _ isSet, tells⟩, ?_⟩
  · rw [(elsewhere_published _ _ _).files path isOther, restored]
  · rw [verdict, Bool.and_eq_true]
    exact and_congr_right fun _ => tells.unacknowledged

/-- The check was cut off and no file is lost. -/
structure CutOff (tools : Tools) (env : CheckEnv) (quiet : Prop)
    (start after : Checkout) : Prop where
  unquiet : ¬ quiet
  notLost : ∀ path, path ∉ written env → ∀ text,
    read start.files path = some text → read after.files path = some text ∨
      (path ∈ newFiles tools env ∧ ∃ directory,
        read after.files (asideIn directory path) = some text)

theorem CutOff.of_elsewhere {middle after : Checkout} (unquiet : ¬ quiet)
    (restored : read middle.files = read start.files)
    (elsewhere : Elsewhere env middle after) :
    CutOff tools env quiet start after := by
  refine ⟨unquiet, fun path outside text wasThere => .inl ?_⟩
  rw [elsewhere.files path outside, restored]
  exact wasThere

theorem ends_checkNewFiles
    (outside : Outside tools condition quiet)
    (areNew : AreNew tools (newFiles tools env))
    (settled : quiet → Settled tools start (newFiles tools env)) :
    Ends tools condition
      (fun after fails => ∃ baseline fresh,
        Checked tools env start after baseline fresh fails)
      (CutOff tools env quiet start)
      (checkNewFiles env (newFiles tools env) (modifiedWarning
        (sortTexts (tools.diff env.baselineRef 'M' ++
          tools.diff env.baselineRef 'R')))) start := by
  refine Machine.Attains.bind _
    ((ends_captureNewMigrationSql outside areNew settled).mono
      (fun _ _ captured => captured) fun after _ stopped =>
        ⟨stopped.1, fun path _ text wasThere => stopped.2 path text wasThere⟩)
    fun after statements captured => ?_
  obtain ⟨restored, baseline, fresh, runs, isOld, isNew, rfl⟩ := captured
  have sameSigns : isSignedOff after.files = isSignedOff start.files := by
    funext path
    rw [isSignedOff, isSignedOff, restored]
  refine Machine.Attains.bind _ ((ends_acknowledgedFiles outside).mono
    (fun _ _ ended => ended) fun last _ thrown => .of_elsewhere thrown.1 restored
      (thrown.2 ▸ .refl)) fun later acknowledged same => ?_
  obtain ⟨rfl, rfl⟩ := same
  rw [sameSigns]
  refine (ends_publish env outside).mono ?_
    fun last _ thrown => .of_elsewhere thrown.1 restored thrown.2
  rintro last _ ⟨rfl, isAfter⟩
  exact ⟨baseline, fresh, checked_of_published runs isOld isNew restored isAfter
    rfl⟩

/-- The check ends with a verdict, or is cut off. -/
theorem ends_main (outside : Outside tools condition quiet)
    (areNew : AreNew tools (newFiles tools env))
    (settled : quiet → Settled tools start (newFiles tools env)) :
    Ends tools condition
      (fun after fails => ∃ baseline fresh,
        Checked tools env start after baseline fresh fails)
      (CutOff tools env quiet start) (main env) start := by
  have lists : ∀ filter, Ends tools condition
      (fun after files => after = start ∧
        files = tools.diff env.baselineRef filter)
      (CutOff tools env quiet start) (listMigrations env.baselineRef filter)
      start := by
    intro filter
    exact ends_performed (.ok (tools.diff env.baselineRef filter)) .error outside
      (fun fate => by cases fate <;> rfl) ⟨rfl, rfl⟩
      fun _ unquiet => .of_elsewhere unquiet rfl .refl
  refine Machine.Attains.bind _ (lists 'A') fun first added same => ?_
  obtain ⟨rfl, rfl⟩ := same
  refine Machine.Attains.bind _ (lists 'M') fun second modified same => ?_
  obtain ⟨rfl, rfl⟩ := same
  refine Machine.Attains.bind _ (lists 'R') fun third renamed same => ?_
  obtain ⟨rfl, rfl⟩ := same
  change Ends tools condition _ _ (if newFiles tools env = [] then _
    else checkNewFiles env (newFiles tools env) _) third
  split
  · next empty =>
      refine (ends_publish env outside).mono ?_
        fun last _ thrown => .of_elsewhere thrown.1 rfl thrown.2
      rintro last _ ⟨rfl, isAfter⟩
      refine ⟨[], [], checked_of_published ?_ (by simp) empty.symm rfl isAfter
        (Bool.and_false _).symm⟩
      rw [List.append_nil, List.append_nil]
  · exact ends_checkNewFiles outside areNew settled

/-! ## The exit code -/

/-- The new files are migrations, and git lists each of them once. -/
structure ListsMigrations (tools : Tools) (env : CheckEnv) : Prop where
  areMigrations : ∀ file ∈ tools.diff env.baselineRef 'A',
    ∃ name, IsMigration tools name ∧ file = place name
  distinct : (tools.diff env.baselineRef 'A').Nodup

theorem ListsMigrations.areNew (lists : ListsMigrations tools env) :
    AreNew tools (newFiles tools env) where
  areMigrations file member :=
    lists.areMigrations file ((sortTexts_perm _).mem_iff.mp member)
  distinct := (sortTexts_perm _).nodup_iff.mpr lists.distinct
  sorted := pairwise_sortTexts _

/-- The exit code is that of the verdict; to be cut off is to fail. -/
theorem achieves_exitCode (outside : Outside tools condition quiet)
    (lists : ListsMigrations tools env)
    (settled : quiet → Settled tools start (newFiles tools env)) :
    (checker tools).Achieves condition
      (fun after code =>
        (∃ baseline fresh fails, code = (if fails then 1 else 0) ∧
          Checked tools env start after baseline fresh fails) ∨
        (code = 1 ∧ CutOff tools env quiet start after))
      (exitCode env) start := by
  refine Machine.Achieves.bind _ (ends_main outside lists.areNew settled)
    fun after outcome ended => ?_
  cases outcome with
  | error message => exact .inr ⟨rfl, ended⟩
  | ok fails =>
      obtain ⟨baseline, fresh, checked⟩ := ended
      refine .inl ⟨baseline, fresh, fails, ?_, checked⟩
      cases fails <;> rfl

/--
The check passes only after all new migrations have run, each destructive
statement of theirs is signed off if that is asked for, and the files that it
does not write are as they were; whatever fails or is cut off, none of these is
lost.
-/
theorem gate_fails_closed (lists : ListsMigrations tools env)
    {choices : Machine.Choices Fate Empty}
    (meets : (checker tools).Meets (checker tools).Enabled (exitCode env)
      choices start) :
    ∃ code after, (checker tools).runAlone (exitCode env) choices start =
        some (code, after) ∧
      (code = 0 → ∃ baseline fresh,
        Checked tools env start after baseline fresh false) ∧
      ∀ path, path ∉ written env → ∀ text,
        read start.files path = some text →
          read after.files path = some text ∨
          (path ∈ newFiles tools env ∧ ∃ directory,
            read after.files (asideIn directory path) = some text) := by
  have outside : Outside tools (checker tools).Enabled False :=
    ⟨fun _ _ _ isMet => isMet, False.elim⟩
  obtain ⟨code, after, ran, ended⟩ :=
    (achieves_exitCode outside lists False.elim).runAlone meets
  refine ⟨code, after, ran, ?_⟩
  rcases ended with ⟨baseline, fresh, fails, rfl, checked⟩ | ⟨rfl, cutOff⟩
  · refine ⟨fun passes => ⟨baseline, fresh, ?_⟩, fun path isOther text wasThere =>
      .inl ((checked.files path isOther).trans wasThere)⟩
    cases fails with
    | false => exact checked
    | true => exact absurd passes (by simp)
  · exact ⟨fun passes => absurd passes (by simp), cutOff.notLost⟩

/-- A branch with one new migration. -/
def sampleTools : Tools where
  diff _ filter := if filter = 'A' then ["db/migrations/20_drop.ts"] else []
  loads name := ".ts".toList.isSuffixOf name.toList

/-- The checkout of the branch, over a database without tables. -/
def sampleCheckout : Checkout where
  files := (AList.insert "db/migrations/10_init.ts" "init" ∅).insert
    "db/migrations/20_drop.ts" "drop"
  completed := []
  runs := []

/-- A workflow with files for its outputs and for its summary. -/
def sampleEnv : CheckEnv := ⟨none, none, some "/tmp/output", some "/tmp/summary"⟩

instance (tools : Tools) (here : Checkout) (op : Op) (fate : Fate) :
    Decidable ((checker tools).Enabled here op fate) :=
  inferInstanceAs (Decidable (_ = true))

theorem listsMigrations_sample : ListsMigrations sampleTools sampleEnv where
  areMigrations := by
    intro file member
    obtain rfl := List.mem_singleton.mp member
    exact ⟨"20_drop.ts", ⟨by decide, by decide⟩, by decide⟩
  distinct := List.nodup_singleton _

/-- The file system refuses to bring the new migration back. -/
def sampleRefusal : Machine.Choices Fate Empty := fun index =>
  ([], match index with
    | 3 => .created "/tmp/migsafety-1"
    | 5 => .ran [["CREATE TABLE t (c int)"]]
    | 6 | 9 => .failed "EXDEV: cross-device link not permitted"
    | _ => .executed)

/-- The new migration drops a column. -/
def sampleDrop : Machine.Choices Fate Empty := fun index =>
  ([], match index with
    | 3 => .created "/tmp/migsafety-1"
    | 5 => .ran [["CREATE TABLE t (c int)"]]
    | 7 => .ran [["BEGIN;", "ALTER TABLE t DROP COLUMN c", "COMMIT;"]]
    | _ => .executed)

/-- The checkout with a new migration that has been signed off. -/
def sampleSignedOff : Checkout :=
  { sampleCheckout with
    files := sampleCheckout.files.insert "db/migrations/20_drop.ts"
      "// migration-safety: acknowledged — unused" }

/--
The check fails when the new migration cannot be brought back, which is where it
was set aside; and it passes the one that has been signed off, of which the
workflow is told.
-/
theorem gate_fails_closed_sample :
    (∃ after, (checker sampleTools).runAlone (exitCode sampleEnv) sampleRefusal
        sampleCheckout = some (1, after) ∧
      read after.files "/tmp/migsafety-1/20_drop.ts" = some "drop" ∧
      ∀ path, path ∉ written sampleEnv → ∀ text,
        read sampleCheckout.files path = some text →
          read after.files path = some text ∨
          (path ∈ newFiles sampleTools sampleEnv ∧ ∃ directory,
            read after.files (asideIn directory path) = some text)) ∧
    ∃ after baseline fresh,
      (checker sampleTools).runAlone (exitCode sampleEnv) sampleDrop
        sampleSignedOff = some (0, after) ∧
      read after.files "/tmp/output" =
        some "has_destructive=true\nhas_unacknowledged=false\n" ∧
      Checked sampleTools sampleEnv sampleSignedOff after baseline fresh
        false := by
  constructor
  · have meets : (checker sampleTools).Meets (checker sampleTools).Enabled
        (exitCode sampleEnv) sampleRefusal sampleCheckout := by
      decide +kernel
    obtain ⟨code, after, ran, _, notLost⟩ :=
      gate_fails_closed listsMigrations_sample meets
    have left : ((checker sampleTools).runAlone (exitCode sampleEnv)
        sampleRefusal sampleCheckout).map (fun run => (run.1,
          read run.2.files "/tmp/migsafety-1/20_drop.ts")) =
        some (1, some "drop") := by
      decide +kernel
    rw [ran] at left
    obtain ⟨rfl, found⟩ := Prod.mk.inj (Option.some.inj left)
    exact ⟨after, ran, found, notLost⟩
  · have meets : (checker sampleTools).Meets (checker sampleTools).Enabled
        (exitCode sampleEnv) sampleDrop sampleSignedOff := by
      decide +kernel
    obtain ⟨code, after, ran, passes, _⟩ :=
      gate_fails_closed listsMigrations_sample meets
    have told : ((checker sampleTools).runAlone (exitCode sampleEnv)
        sampleDrop sampleSignedOff).map (fun run => (run.1,
          read run.2.files "/tmp/output")) =
        some (0, some "has_destructive=true\nhas_unacknowledged=false\n") := by
      decide +kernel
    rw [ran] at told
    obtain ⟨rfl, output⟩ := Prod.mk.inj (Option.some.inj told)
    obtain ⟨baseline, fresh, checked⟩ := passes rfl
    exact ⟨after, baseline, fresh, ran, output, checked⟩

/-- The outside answers and nothing fails. -/
def Quietly (tools : Tools) (here : Checkout) (op : Op) (fate : Fate) : Prop :=
  (checker tools).Enabled here op fate ∧ fate.isFault = false

instance (tools : Tools) (here : Checkout) (op : Op) (fate : Fate) :
    Decidable (Quietly tools here op fate) :=
  inferInstanceAs (Decidable (_ = true ∧ _ = false))

/--
When nothing fails, the report on what is found is published, and the check fails
exactly for a destructive statement of a new migration that is to be signed off
and is not.
-/
theorem gate_decides (lists : ListsMigrations tools env)
    (settled : Settled tools start (newFiles tools env))
    {choices : Machine.Choices Fate Empty}
    (meets : (checker tools).Meets (Quietly tools) (exitCode env) choices
      start) :
    ∃ code after baseline fresh fails,
      (checker tools).runAlone (exitCode env) choices start =
        some (code, after) ∧
      Checked tools env start after baseline fresh fails ∧
      (code = 0 ↔ fails = false) := by
  have outside : Outside tools (Quietly tools) True :=
    ⟨fun _ _ _ isMet => isMet.1, fun _ _ _ _ isMet => isMet.2⟩
  obtain ⟨code, after, ran, ended⟩ :=
    (achieves_exitCode outside lists fun _ => settled).runAlone meets
  rcases ended with ⟨baseline, fresh, fails, rfl, checked⟩ | ⟨rfl, cutOff⟩
  · exact ⟨_, after, baseline, fresh, fails, ran, checked, by
      cases fails <;> simp⟩
  · exact absurd trivial cutOff.unquiet

/--
Nobody has signed the migration off: the check fails, this is what the report is
about, and the workflow is told.
-/
theorem gate_decides_sample : ∃ after baseline fresh,
    (checker sampleTools).runAlone (exitCode sampleEnv) sampleDrop
      sampleCheckout = some (1, after) ∧
    findingsOf sampleTools sampleEnv sampleCheckout.files fresh =
      [⟨.dropColumn, "db/migrations/20_drop.ts", "ALTER TABLE t DROP COLUMN c",
        false⟩] ∧
    read after.files "/tmp/output" =
      some "has_destructive=true\nhas_unacknowledged=true\n" ∧
    Checked sampleTools sampleEnv sampleCheckout after baseline fresh true := by
  have settled : Settled sampleTools sampleCheckout
      (newFiles sampleTools sampleEnv) := by
    refine ⟨fun file member => ?_, by simp [sampleCheckout]⟩
    obtain rfl := List.mem_singleton.mp ((sortTexts_perm _).mem_iff.mp member)
    decide
  have meets : (checker sampleTools).Meets (Quietly sampleTools)
      (exitCode sampleEnv) sampleDrop sampleCheckout := by
    decide +kernel
  obtain ⟨code, after, baseline, fresh, fails, ran, checked, passes⟩ :=
    gate_decides listsMigrations_sample settled meets
  have left : ((checker sampleTools).runAlone (exitCode sampleEnv) sampleDrop
      sampleCheckout).map (fun run => (run.1, read run.2.files "/tmp/output",
        run.2.runs.getLast?)) =
      some (1, some "has_destructive=true\nhas_unacknowledged=true\n",
        some ⟨"20_drop.ts",
          ["BEGIN;", "ALTER TABLE t DROP COLUMN c", "COMMIT;"]⟩) := by
    decide +kernel
  rw [ran] at left
  obtain ⟨rfl, found⟩ := Prod.mk.inj (Option.some.inj left)
  obtain ⟨output, isLast⟩ := Prod.mk.inj found
  -- One new migration has run, so it is the last one.
  obtain ⟨run, rfl⟩ : ∃ run, fresh = [run] := by
    refine List.length_eq_one_iff.mp ?_
    rw [← List.length_map (fun run => place run.name), checked.isNew]
    exact (sortTexts_perm _).length_eq
  rw [checked.runs, List.getLast?_append] at isLast
  obtain rfl := Option.some.inj isLast
  cases fails with
  | false => exact absurd (passes.mpr rfl) (by simp)
  | true =>
      exact ⟨after, baseline, _, ran, by decide +kernel, output, checked⟩

end PaymentPortal.MigrationSafety
