import PaymentPortal.MigrationSafety.Directory

/-!
# Capturing what the new migrations send

The new migrations are set aside and brought back, and whatever fails, every
file is in its place or set aside.  When nothing fails, the statements that are
captured for a file are those that Knex sent while it ran this file.
-/

namespace PaymentPortal.MigrationSafety

open PaymentPortal.Interaction
open PaymentPortal.Lexical
open PaymentPortal.Model
open PaymentPortal.Relational

/-! ## Operations -/

/-- Something other than the directory makes the operation fail. -/
def Fate.isFault : Fate → Bool
  | .failed _ => true
  | .stopped _ _ => true
  | _ => false

/-- The task ends as stated, whatever the outside decides. -/
abbrev Ends {α : Type} (tools : Tools)
    (condition : Checkout → Op → Fate → Prop)
    (returns : Checkout → α → Prop) (throws : Checkout → Prop) (task : Task α)
    (world : Checkout) : Prop :=
  (checker tools).Attains condition returns (fun after _ => throws after) task
    world

/--
The outside always answers; in a quiet run its answers are no faults.  Nothing
but the check itself changes the checkout.
-/
structure Outside (tools : Tools) (condition : Checkout → Op → Fate → Prop)
    (quiet : Prop) : Prop where
  answers : ∀ here op fate, condition here op fate →
    (checker tools).Enabled here op fate
  faultless : quiet → ∀ here op fate, condition here op fate →
    fate.isFault = false

variable {tools : Tools} {condition : Checkout → Op → Fate → Prop}
variable {quiet : Prop} {α : Type} {world start : Checkout}
variable {returns : Checkout → α → Prop} {throws : Checkout → Prop}

/-- A run in which something fails is not quiet. -/
theorem Outside.unquiet (outside : Outside tools condition quiet) {op : Op}
    {message : String} (isMet : condition world op (.failed message)) :
    ¬ quiet := fun isQuiet =>
  absurd (outside.faultless isQuiet world op _ isMet) (by simp [Fate.isFault])

theorem ends_operation {op : Op} {convert : Reply op → Except String α}
    (outside : Outside tools condition quiet)
    (performed : ∀ fate reply after, condition world op fate →
      exec tools op fate world = some (reply, after) →
      Ending returns (fun after _ => throws after) after (convert reply)) :
    Ends tools condition returns throws
      (ExceptT.mk (.perform op fun reply => .done (convert reply))) world := by
  apply Machine.Attains.operation
  intro changes here drifted fate isMet
  obtain rfl : world = here := by
    cases changes with
    | nil => exact Option.some.inj drifted
    | cons change rest => exact nomatch change
  obtain ⟨⟨reply, after⟩, executed⟩ :=
    Option.isSome_iff_exists.mp (outside.answers world op fate isMet)
  exact ⟨reply, after, executed, performed fate reply after isMet executed⟩

/-- An operation that is performed, or refused and then without effect. -/
theorem ends_performed {op : Op} {convert : Reply op → Except String α}
    {after : Checkout} (reply : Reply op) (refusal : String → Reply op)
    (outside : Outside tools condition quiet)
    (answers : ∀ fate, exec tools op fate world = match fate with
      | .executed => some (reply, after)
      | .failed message => some (refusal message, world)
      | _ => none)
    (returned : Ending returns (fun after _ => throws after) after
      (convert reply))
    (refused : ∀ message, ¬ quiet →
      Ending returns (fun after _ => throws after) world
        (convert (refusal message))) :
    Ends tools condition returns throws
      (ExceptT.mk (.perform op fun reply => .done (convert reply))) world := by
  refine ends_operation outside fun fate given last isMet executed => ?_
  rw [answers] at executed
  cases fate with
  | executed =>
      obtain ⟨rfl, rfl⟩ := Prod.mk.inj (Option.some.inj executed)
      exact returned
  | failed message =>
      obtain ⟨rfl, rfl⟩ := Prod.mk.inj (Option.some.inj executed)
      exact refused message (outside.unquiet isMet)
  | created | ran | stopped => exact nomatch executed

theorem ends_settle {step : Except String α}
    (returned : ∀ value, step = .ok value → returns world value)
    (thrown : ∀ message, step = .error message → throws world) :
    Ends tools condition returns throws (settle step) world := by
  apply Machine.Attains.computed
  cases step with
  | error message => exact thrown message rfl
  | ok value => exact returned value rfl

/-- The outcome of a task as a value. -/
theorem ends_observe {task : Task α}
    (ends : Ends tools condition returns throws task world) :
    Ends tools condition (Ending returns fun after _ => throws after)
      (fun _ => False) (observe task) world :=
  Machine.Achieves.bind _ ends fun _ _ ended => ended

/-- A file that is there is renamed, unless something fails. -/
theorem ends_renameSync {returns : Checkout → Unit → Prop}
    {source target : String} (outside : Outside tools condition quiet)
    (returned : ∀ text, read world.files source = some text →
      returns { world with files := rename source target text world.files } ())
    (thrown : (quiet → read world.files source = none) → throws world) :
    Ends tools condition returns throws (renameSync source target) world := by
  refine ends_operation outside fun fate reply after isMet executed => ?_
  cases fate with
  | executed =>
      rw [exec] at executed
      split at executed <;> obtain ⟨rfl, rfl⟩ :=
        Prod.mk.inj (Option.some.inj executed)
      · next absent => exact thrown fun _ => absent
      · next text found => exact returned text found
  | failed message =>
      obtain ⟨rfl, rfl⟩ := Prod.mk.inj (Option.some.inj executed)
      exact thrown fun isQuiet => absurd isQuiet (outside.unquiet isMet)
  | created | ran | stopped => exact absurd executed (by simp [exec])

theorem ends_existsSync {returns : Checkout → Bool → Prop} {path : String}
    (outside : Outside tools condition quiet)
    (returned : returns world (read world.files path).isSome) :
    Ends tools condition returns throws (existsSync path) world := by
  refine ends_operation outside fun fate reply after isMet executed => ?_
  cases fate with
  | executed =>
      obtain ⟨rfl, rfl⟩ := Prod.mk.inj (Option.some.inj executed)
      exact returned
  | failed | created | ran | stopped => exact absurd executed (by simp [exec])

/-- Without faults `knex.destroy` returns; it leaves the checkout alone. -/
theorem ends_destroy {returns : Checkout → Unit → Prop}
    (outside : Outside tools condition quiet) (returned : returns world ())
    (thrown : ¬ quiet → throws world) :
    Ends tools condition returns throws destroy world :=
  ends_performed (.ok ()) .error outside (fun fate => by cases fate <;> rfl)
    returned fun _ unquiet => thrown unquiet

/-- Knex refuses, stops somewhere, or runs all that is pending. -/
theorem ends_migrateLatest {returns : Checkout → Unit → Prop}
    (outside : Outside tools condition quiet)
    (returned : ∀ statements, world.isIntact tools = true →
      statements.length = (world.pending tools).length →
      returns (world.run tools statements) ())
    (thrown : ∀ after : Checkout, after.files = world.files →
      (quiet → world.isIntact tools = false) → throws after) :
    Ends tools condition returns throws migrateLatest world := by
  refine ends_operation outside fun fate reply after isMet executed => ?_
  have faulty : fate.isFault = true → quiet →
      world.isIntact tools = false := fun isFault isQuiet =>
    absurd isFault (by simp [outside.faultless isQuiet _ _ _ isMet])
  cases fate with
  | ran statements =>
      rw [exec] at executed
      split at executed
      · next corrupt =>
          obtain ⟨rfl, rfl⟩ := Prod.mk.inj (Option.some.inj executed)
          exact thrown world rfl fun _ => corrupt
      · next intact =>
          split at executed
          · next enough =>
              obtain ⟨rfl, rfl⟩ := Prod.mk.inj (Option.some.inj executed)
              exact returned statements (Bool.eq_true_of_not_eq_false intact)
                enough
          · exact absurd executed (by simp)
  | stopped statements message =>
      rw [exec] at executed
      split at executed
      · obtain ⟨rfl, rfl⟩ := Prod.mk.inj (Option.some.inj executed)
        exact thrown _ rfl (faulty rfl)
      · exact absurd executed (by simp)
  | failed message =>
      obtain ⟨rfl, rfl⟩ := Prod.mk.inj (Option.some.inj executed)
      exact thrown _ rfl (faulty rfl)
  | executed | created => exact absurd executed (by simp [exec])

/-- Knex refuses, fails, or runs the first migration that is pending. -/
theorem ends_migrateUp {returns : Checkout → List String → Prop}
    (outside : Outside tools condition quiet)
    (returned : ∀ events, world.isIntact tools = true →
      returns (world.run tools [events]) events)
    (thrown : (quiet → world.isIntact tools = false) → throws world) :
    Ends tools condition returns throws migrateUp world := by
  refine ends_operation outside fun fate reply after isMet executed => ?_
  cases fate with
  | ran statements =>
      rw [exec] at executed
      split at executed
      · next corrupt =>
          obtain ⟨rfl, rfl⟩ := Prod.mk.inj (Option.some.inj executed)
          exact thrown fun _ => corrupt
      · next intact =>
          split at executed
          · next single =>
              obtain ⟨events, rfl⟩ := List.length_eq_one_iff.mp single
              obtain ⟨rfl, rfl⟩ := Prod.mk.inj (Option.some.inj executed)
              rw [List.flatten_singleton]
              exact returned events (Bool.eq_true_of_not_eq_false intact)
          · exact absurd executed (by simp)
  | failed message =>
      obtain ⟨rfl, rfl⟩ := Prod.mk.inj (Option.some.inj executed)
      exact thrown fun isQuiet => absurd isQuiet (outside.unquiet isMet)
  | executed | created | stopped => exact absurd executed (by simp [exec])

/-! ## Moving files -/

section Moving

variable {aside : String → String} {keys away : Set String}

/-- A run that was not quiet and left every file in its place or set aside. -/
structure Stopped (aside : String → String) (keys : Set String) (quiet : Prop)
    (start after : Checkout) : Prop where
  unquiet : ¬ quiet
  setAside : ∃ away ⊆ keys,
    SetAside aside (read start.files) (read after.files) away

/-- The files are as before, but for those that are set aside. -/
structure Moved (aside : String → String) (away : Set String)
    (start world after : Checkout) : Prop where
  setAside : SetAside aside (read start.files) (read after.files) away
  completed : after.completed = world.completed
  runs : after.runs = world.runs

/-- The files of a list are set aside, one after the other. -/
theorem ends_renameAll (outside : Outside tools condition quiet)
    (spare : Spare aside (read start.files) keys)
    (present : quiet → ∀ file ∈ keys, read start.files file ≠ none)
    {rest : List String} (within : ∀ file ∈ rest, file ∈ keys)
    (distinct : rest.Nodup) (among : away ⊆ keys)
    (apart : ∀ file ∈ rest, file ∉ away)
    (setAside : SetAside aside (read start.files) (read world.files) away) :
    Ends tools condition
      (fun after _ => Moved aside (away ∪ {file | file ∈ rest}) start world
        after)
      (Stopped aside keys quiet start)
      (renameAll (rest.map fun file => (file, aside file))) world := by
  induction rest generalizing away world with
  | nil =>
      refine Machine.Attains.pure ⟨?_, rfl, rfl⟩
      simpa using setAside
  | cons file rest ih =>
      have isKey := within file List.mem_cons_self
      have notAway := apart file List.mem_cons_self
      have isThere := setAside.at_key spare among isKey notAway
      refine Machine.Attains.bind
        (fun after _ => Moved aside (insert file away) start world after)
        (ends_renameSync outside (fun text found => ⟨?_, rfl, rfl⟩)
          fun failed => ?_) fun after _ moved => ?_
      · rw [read_rename]
        exact setAside.insert spare among isKey notAway found
      · refine ⟨fun isQuiet => ?_, away, among, setAside⟩
        exact present isQuiet file isKey (isThere ▸ failed isQuiet)
      · have further := ih (fun other member => within other
            (List.mem_cons_of_mem _ member)) (List.nodup_cons.mp distinct).2
          (Set.insert_subset isKey among) (fun other member => ?_)
          moved.setAside
        · refine further.mono (fun last _ more => ?_) fun _ _ stopped => stopped
          refine ⟨?_, more.completed.trans moved.completed,
            more.runs.trans moved.runs⟩
          have same : insert file away ∪ {other | other ∈ rest} =
              away ∪ {other | other ∈ file :: rest} := by
            ext other
            simp [or_assoc, or_left_comm]
          exact same ▸ more.setAside
        · rintro (rfl | otherAway)
          · exact (List.nodup_cons.mp distinct).1 member
          · exact apart other (List.mem_cons_of_mem _ member) otherAway

/-- The files of a list are brought back, one after the other. -/
theorem ends_renameAll_back (outside : Outside tools condition quiet)
    (spare : Spare aside (read start.files) keys)
    {rest : List String} (distinct : rest.Nodup) (among : away ⊆ keys)
    (within : ∀ file ∈ rest, file ∈ away)
    (setAside : SetAside aside (read start.files) (read world.files) away) :
    Ends tools condition
      (fun after _ => Moved aside (away \ {file | file ∈ rest}) start world
        after)
      (Stopped aside keys quiet start)
      (renameAll (rest.map fun file => (aside file, file))) world := by
  induction rest generalizing away world with
  | nil =>
      refine Machine.Attains.pure ⟨?_, rfl, rfl⟩
      simpa using setAside
  | cons file rest ih =>
      have isAway := within file List.mem_cons_self
      refine Machine.Attains.bind
        (fun after _ => Moved aside (away \ {file}) start world after)
        (ends_renameSync outside (fun text found => ⟨?_, rfl, rfl⟩)
          fun failed => ?_) fun after _ moved => ?_
      · rw [read_rename]
        exact setAside.bringBack spare among isAway found
      · refine ⟨fun isQuiet => ?_, away, among, setAside⟩
        refine setAside.wasThere file isAway ?_
        rw [← setAside.kept file isAway, failed isQuiet]
      · have further := ih (List.nodup_cons.mp distinct).2
          (Set.sdiff_subset.trans among) (fun other member => ?_)
          moved.setAside
        · refine further.mono (fun last _ more => ?_) fun _ _ stopped => stopped
          refine ⟨?_, more.completed.trans moved.completed,
            more.runs.trans moved.runs⟩
          have same : (away \ {file}) \ {other | other ∈ rest} =
              away \ {other | other ∈ file :: rest} := by
            ext other
            simp [and_assoc]
          exact same ▸ more.setAside
        · refine ⟨within other (List.mem_cons_of_mem _ member), ?_⟩
          rintro rfl
          exact (List.nodup_cons.mp distinct).1 member

/-- A file that is set aside is brought back; the others are left alone. -/
theorem ends_restore (outside : Outside tools condition quiet)
    (spare : Spare aside (read start.files) keys) {file : String}
    (isKey : file ∈ keys) (among : away ⊆ keys)
    (setAside : SetAside aside (read start.files) (read world.files) away) :
    Ends tools condition
      (fun after _ => Moved aside (away \ {file}) start world after)
      (Stopped aside keys quiet start) (restore file (aside file)) world := by
  by_cases isAway : file ∈ away
  · have wasThere := setAside.wasThere file isAway
    have found := setAside.kept file isAway
    refine Machine.Attains.bind
      (fun after isThere => after = world ∧ isThere = true)
      (ends_existsSync outside ⟨rfl, ?_⟩) fun after isThere same => ?_
    · rw [found]
      exact Option.isSome_iff_ne_none.mpr wasThere
    obtain ⟨rfl, rfl⟩ := same
    refine Machine.Attains.bind
      (fun later isThere => later = after ∧ isThere = false)
      (ends_existsSync outside ⟨rfl, ?_⟩) fun later isThere same => ?_
    · rw [setAside.gone file isAway]
      rfl
    obtain ⟨rfl, rfl⟩ := same
    refine ends_renameSync outside (fun text found => ⟨?_, rfl, rfl⟩)
      fun failed => ⟨fun isQuiet => ?_, away, among, setAside⟩
    · rw [read_rename]
      exact setAside.bringBack spare among isAway found
    · exact wasThere (found ▸ failed isQuiet)
  · refine Machine.Attains.bind
      (fun after isThere => after = world ∧ isThere = false)
      (ends_existsSync outside ⟨rfl, ?_⟩) fun after isThere same => ?_
    · rw [setAside.at_aside spare among isKey isAway]
      rfl
    obtain ⟨rfl, rfl⟩ := same
    refine Machine.Attains.pure ⟨?_, rfl, rfl⟩
    rw [Set.sdiff_singleton_eq_self isAway]
    exact setAside

/-- `finally`: whatever is set aside is brought back. -/
theorem ends_restoreAll (outside : Outside tools condition quiet)
    (spare : Spare aside (read start.files) keys) {rest : List String}
    (within : ∀ file ∈ rest, file ∈ keys) (among : away ⊆ keys)
    (remaining : away ⊆ {file | file ∈ rest})
    (setAside : SetAside aside (read start.files) (read world.files) away) :
    Ends tools condition
      (fun after _ => Moved aside ∅ start world after)
      (Stopped aside keys quiet start)
      (restoreAll (rest.map fun file => (file, aside file))) world := by
  induction rest generalizing away world with
  | nil =>
      obtain rfl : away = ∅ := Set.subset_empty_iff.mp (by simpa using remaining)
      exact Machine.Attains.pure ⟨setAside, rfl, rfl⟩
  | cons file rest ih =>
      have isKey := within file List.mem_cons_self
      refine Machine.Attains.bind _
        (ends_restore outside spare isKey among setAside) fun after _ moved => ?_
      have further := ih (fun other member => within other
        (List.mem_cons_of_mem _ member)) (Set.sdiff_subset.trans among)
        (fun other isLeft => ?_) moved.setAside
      · refine further.mono (fun last _ more => ?_) fun _ _ stopped => stopped
        exact ⟨more.setAside, more.completed.trans moved.completed,
          more.runs.trans moved.runs⟩
      · exact (List.mem_cons.mp (remaining isLeft.1)).resolve_left isLeft.2

end Moving

/-! ## What is pending -/

/-- New migrations that can be set aside. -/
structure SetUp (tools : Tools) (aside : String → String) (start : Checkout)
    (files : List String) : Prop where
  spare : Spare aside (read start.files) {file | file ∈ files}
  areMigrations : ∀ file ∈ files, ∃ name, IsMigration tools name ∧
    file = place name
  elsewhere : ∀ file ∈ files, ∀ name, IsMigration tools name →
    place name ≠ aside file
  distinct : files.Nodup
  sorted : files.Pairwise textLe

/-- What is needed beyond answers without faults. -/
structure Settled (tools : Tools) (start : Checkout) (files : List String) :
    Prop where
  present : ∀ file ∈ files, read start.files file ≠ none
  completed : ∀ name ∈ start.completed,
    name ∈ migrations tools start.files ∧ place name ∉ files

section Pending

variable {aside : String → String} {files : List String}

/-- While the new migrations are set aside the others are there. -/
theorem SetUp.mem_migrations (setUp : SetUp tools aside start files)
    (setAside : SetAside aside (read start.files) (read world.files)
      {file | file ∈ files}) {name : String} :
    name ∈ migrations tools world.files ↔
      name ∈ migrations tools start.files ∧ place name ∉ files := by
  rw [MigrationSafety.mem_migrations, MigrationSafety.mem_migrations]
  constructor
  · rintro ⟨isMigration, isThere⟩
    have notNew : place name ∉ files := fun isNew =>
      isThere (setAside.gone _ isNew)
    have same := setAside.others (place name) fun file isFile =>
      ⟨fun same => notNew (same ▸ isFile),
        setUp.elsewhere file isFile name isMigration⟩
    exact ⟨⟨isMigration, same ▸ isThere⟩, notNew⟩
  · rintro ⟨⟨isMigration, wasThere⟩, notNew⟩
    have same := setAside.others (place name) fun file isFile =>
      ⟨fun same => notNew (same ▸ isFile),
        setUp.elsewhere file isFile name isMigration⟩
    exact ⟨isMigration, same ▸ wasThere⟩

/-- When all that was pending has run, all that is there is completed. -/
theorem mem_completed_run {statements : List (List String)}
    (intact : world.isIntact tools = true)
    (enough : statements.length = (world.pending tools).length)
    {name : String} : name ∈ (world.run tools statements).completed ↔
      name ∈ migrations tools world.files := by
  change name ∈ world.completed ++
    (newRuns tools statements world).map MigrationRun.name ↔ _
  rw [map_name_newRuns, enough, List.take_length, List.mem_append, mem_pending]
  constructor
  · rintro (old | new)
    · exact isIntact_iff.mp intact old
    · exact new.1
  · intro isThere
    by_cases old : name ∈ world.completed
    · exact .inl old
    · exact .inr ⟨isThere, old⟩

/-- When they are back, the new migrations are what is pending. -/
theorem SetUp.pending_eq (setUp : SetUp tools aside start files)
    (wasThere : ∀ file ∈ files, read start.files file ≠ none)
    (same : read world.files = read start.files)
    (completed : ∀ name, name ∈ world.completed ↔
      name ∈ migrations tools start.files ∧ place name ∉ files) :
    (world.pending tools).map place = files := by
  have isThere : migrations tools world.files = migrations tools start.files :=
    migrations_congr fun name => congrFun same (place name)
  refine eq_of_sorted ((nodup_pending tools world).map place_injective)
    setUp.distinct ?_ setUp.sorted fun file => ?_
  · refine List.Pairwise.map _ (fun first second before => ?_)
      (sorted_pending tools world)
    exact textLe_append_left (MIGRATIONS_DIR ++ "/") before
  · rw [List.mem_map]
    constructor
    · rintro ⟨name, isPending, rfl⟩
      obtain ⟨member, missing⟩ := mem_pending.mp isPending
      rw [completed, ← isThere] at missing
      exact not_not.mp fun notNew => missing ⟨member, notNew⟩
    · intro isNew
      obtain ⟨name, isMigration, rfl⟩ := setUp.areMigrations file isNew
      refine ⟨name, mem_pending.mpr ⟨?_, fun isCompleted => ?_⟩, rfl⟩
      · rw [isThere]
        exact MigrationSafety.mem_migrations.mpr
          ⟨isMigration, wasThere _ isNew⟩
      · exact ((completed name).mp isCompleted).2 isNew

end Pending

/-! ## Capturing -/

/-- What is kept of the statements that were sent in some runs. -/
def statementsOf (runs : List MigrationRun) : List SqlStatement :=
  runs.flatMap fun run =>
    (run.statements.filter isCaptured).map (SqlStatement.mk (place run.name))

/-- The files have run one after the other, and their statements are kept. -/
def Ran (files : List String) (world after : Checkout)
    (statements : List SqlStatement) : Prop :=
  after.files = world.files ∧
    ∃ fresh, after.runs = world.runs ++ fresh ∧
      fresh.map (fun run => place run.name) = files ∧
      statements = statementsOf fresh

theorem ends_captureAll (outside : Outside tools condition quiet)
    {files : List String} (intact : world.isIntact tools = true)
    (pending : (world.pending tools).map place = files) :
    Ends tools condition (Ran files world)
      (fun after => ¬ quiet ∧ after.files = world.files)
      (captureAll files) world := by
  induction files generalizing world with
  | nil =>
      exact Machine.Attains.pure ⟨rfl, [], (List.append_nil _).symm, rfl, rfl⟩
  | cons file files ih =>
      obtain ⟨name, names, isPending, rfl, rest⟩ := List.map_eq_cons_iff.mp
        pending
      refine Machine.Attains.bind
        (fun after events => after = world.run tools [events])
        (ends_migrateUp outside (fun events _ => rfl) fun refused => ?_) ?_
      · exact ⟨fun isQuiet => absurd (refused isQuiet) (by simp [intact]), rfl⟩
      rintro _ events rfl
      have remaining : ((world.run tools [events]).pending tools).map place =
          files := by
        rw [pending_run, isPending]
        exact rest
      refine Machine.Attains.bind _
        (ih (isIntact_run [events] intact) remaining) ?_
      rintro after _ ⟨sameFiles, fresh, runs, places, rfl⟩
      refine Machine.Attains.pure ⟨sameFiles, ⟨name, events⟩ :: fresh, ?_, ?_,
        rfl⟩
      · have first : (world.run tools [events]).runs =
            world.runs ++ [⟨name, events⟩] := by
          simp [Checkout.run, isPending]
        rw [runs, first, List.append_assoc, List.singleton_append]
      · rw [List.map_cons, places]

/--
The files are as before, the other migrations have run and then the new ones, and
what was sent for each of the new ones is kept under its name.
-/
structure Captured (files : List String) (start after : Checkout)
    (statements : List SqlStatement) : Prop where
  restored : read after.files = read start.files
  ran : ∃ baseline fresh, after.runs = start.runs ++ baseline ++ fresh ∧
    (∀ run ∈ baseline, place run.name ∉ files) ∧
    fresh.map (fun run => place run.name) = files ∧
    statements = statementsOf fresh

section Capturing

variable {aside : String → String} {files : List String}

/-- The other migrations have run; some of the new ones are set aside. -/
structure Applied (tools : Tools) (aside : String → String)
    (files : List String) (away : Set String) (start after : Checkout) :
    Prop where
  setAside : SetAside aside (read start.files) (read after.files) away
  completed : ∀ name, name ∈ after.completed ↔
    name ∈ migrations tools start.files ∧ place name ∉ files
  ran : ∃ baseline, after.runs = start.runs ++ baseline ∧
    ∀ run ∈ baseline, place run.name ∉ files

theorem Applied.moved {away rest : Set String} {after : Checkout}
    (applied : Applied tools aside files away start world)
    (moved : Moved aside rest start world after) :
    Applied tools aside files rest start after where
  setAside := moved.setAside
  completed name := moved.completed ▸ applied.completed name
  ran := moved.runs ▸ applied.ran

/-- Phase 1: Knex applies what is left of the directory. -/
theorem ends_migrateLatest_aside (outside : Outside tools condition quiet)
    (setUp : SetUp tools aside start files)
    (settled : quiet → Settled tools start files)
    (moved : Moved aside {file | file ∈ files} start start world) :
    Ends tools condition
      (fun after _ => Applied tools aside files {file | file ∈ files} start
        after)
      (Stopped aside {file | file ∈ files} quiet start) migrateLatest world := by
  refine ends_migrateLatest outside (fun statements intact enough => ?_)
    fun after sameFiles refused => ?_
  · refine ⟨moved.setAside, fun name => ?_, newRuns tools statements world, ?_,
      fun run member isNew => ?_⟩
    · rw [mem_completed_run intact enough, setUp.mem_migrations moved.setAside]
    · exact congrArg (· ++ newRuns tools statements world) moved.runs
    · have isName := List.mem_map_of_mem (f := MigrationRun.name) member
      rw [map_name_newRuns] at isName
      have isThere := (mem_pending.mp (List.mem_of_mem_take isName)).1
      exact ((setUp.mem_migrations moved.setAside).mp isThere).2 isNew
  · refine ⟨fun isQuiet => ?_, _, subset_rfl, sameFiles ▸ moved.setAside⟩
    refine absurd (refused isQuiet) (Bool.not_eq_false _ ▸ isIntact_iff.mpr ?_)
    intro name member
    exact (setUp.mem_migrations moved.setAside).mpr
      ((settled isQuiet).completed name (moved.completed ▸ member))

/-- Phase 2: the new migrations are back and run one after the other. -/
theorem ends_captureAll_applied (outside : Outside tools condition quiet)
    (setUp : SetUp tools aside start files)
    (wasThere : ∀ file ∈ files, read start.files file ≠ none)
    (applied : Applied tools aside files ∅ start world) :
    Ends tools condition (Captured files start)
      (Stopped aside {file | file ∈ files} quiet start) (captureAll files)
      world := by
  have restored := applied.setAside.eq_start
  have intact : world.isIntact tools = true := by
    refine isIntact_iff.mpr fun name member => ?_
    rw [migrations_congr fun other => congrFun restored (place other)]
    exact ((applied.completed name).mp member).1
  refine (ends_captureAll outside intact
    (setUp.pending_eq wasThere restored applied.completed)).mono ?_ ?_
  · rintro after kept ⟨sameFiles, fresh, runs, places, rfl⟩
    obtain ⟨baseline, before, isOld⟩ := applied.ran
    exact ⟨sameFiles ▸ restored, baseline, fresh, before ▸ runs, isOld, places,
      rfl⟩
  · rintro after _ ⟨unquiet, sameFiles⟩
    exact ⟨unquiet, ∅, Set.empty_subset _, sameFiles ▸ applied.setAside⟩

theorem ends_captureAside (outside : Outside tools condition quiet)
    (setUp : SetUp tools aside start files)
    (settled : quiet → Settled tools start files) :
    Ends tools condition (Captured files start)
      (Stopped aside {file | file ∈ files} quiet start)
      (captureAside (files.map fun file => (file, aside file))) start := by
  refine Machine.Attains.bind _ (ends_renameAll outside setUp.spare
    (fun isQuiet => (settled isQuiet).present) (fun _ member => member)
    setUp.distinct (Set.empty_subset _) (fun _ _ absent => absent)
    SetAside.refl) fun first _ moved => ?_
  rw [Set.empty_union] at moved
  refine Machine.Attains.bind _
    (ends_migrateLatest_aside outside setUp settled moved)
    fun second _ applied => ?_
  have swapped : (files.map fun file => (file, aside file)).map Prod.swap =
      files.map fun file => (aside file, file) := by
    rw [List.map_map]
    rfl
  have paths : (files.map fun file => (file, aside file)).map Prod.fst =
      files := by
    rw [List.map_map]
    exact List.map_id files
  rw [swapped, paths]
  refine Machine.Attains.bind _ (ends_renameAll_back outside setUp.spare
    setUp.distinct subset_rfl (fun _ member => member) applied.setAside)
    fun third _ back => ?_
  rw [Set.sdiff_self] at back
  exact ends_captureAll_applied outside setUp moved.setAside.wasThere
    (applied.moved back)

end Capturing

/-! ## A temporary directory -/

/-- The place of a file in a directory. -/
def asideIn (directory file : String) : String :=
  join directory (basename file)

/-- New migrations, in the order in which they run. -/
structure AreNew (tools : Tools) (files : List String) : Prop where
  areMigrations : ∀ file ∈ files, ∃ name, IsMigration tools name ∧
    file = place name
  distinct : files.Nodup
  sorted : files.Pairwise textLe

theorem asideIn_place {tools : Tools} {name : String} (directory : String)
    (isMigration : IsMigration tools name) :
    asideIn directory (place name) = join directory name :=
  congrArg (join directory) (basename_join isMigration.noSlash)

/-- New migrations can be set aside in a new directory. -/
theorem setUp_of_isFresh {files : List String} {directory : String}
    (areNew : AreNew tools files)
    (fresh : isFresh directory start.files = true) :
    SetUp tools (asideIn directory) start files := by
  obtain ⟨different, empty⟩ := Bool.and_eq_true_iff.mp fresh
  have elsewhere : ∀ file ∈ files, ∀ name, IsMigration tools name →
      place name ≠ asideIn directory file := by
    intro file isFile name isMigration same
    obtain ⟨other, isOther, rfl⟩ := areNew.areMigrations file isFile
    rw [asideIn_place directory isOther] at same
    exact of_decide_eq_true different
      (directory_of_join isMigration.noSlash isOther.noSlash same).symm
  refine ⟨⟨?_, ?_, ?_⟩, areNew.areMigrations, elsewhere, areNew.distinct,
    areNew.sorted⟩
  · intro first isFirst second isSecond same
    obtain ⟨name, isMigration, rfl⟩ := areNew.areMigrations first isFirst
    obtain ⟨other, isOther, rfl⟩ := areNew.areMigrations second isSecond
    rw [asideIn_place directory isMigration,
      asideIn_place directory isOther] at same
    rw [join_injective directory same]
  · intro file isFile other isOther same
    obtain ⟨name, isMigration, rfl⟩ := areNew.areMigrations other isOther
    exact elsewhere file isFile name isMigration same.symm
  · intro file isFile
    refine AList.lookup_eq_none.mpr fun member => ?_
    have notIn := List.all_eq_true.mp empty _ (AList.mem_keys.mp member)
    rw [Bool.not_eq_true', ← Bool.not_eq_true, List.isPrefixOf_iff_prefix]
      at notIn
    refine notIn ?_
    rw [asideIn, join_toList directory (basename file)]
    exact List.prefix_append _ _

/-- Every file is in its place, or in some directory under its name. -/
def NotLost (files : List String) (start after : Checkout) : Prop :=
  ∀ path text, read start.files path = some text →
    read after.files path = some text ∨
      (path ∈ files ∧ ∃ directory,
        read after.files (asideIn directory path) = some text)

theorem NotLost.of_eq {files : List String} {after : Checkout}
    (same : read after.files = read start.files) : NotLost files start after :=
  fun path _ wasThere => .inl (congrFun same path ▸ wasThere)

theorem Stopped.notLost {files : List String} {directory : String}
    {after : Checkout}
    (spare : Spare (asideIn directory) (read start.files) {file | file ∈ files})
    (stopped : Stopped (asideIn directory) {file | file ∈ files} quiet start
      after) : NotLost files start after := by
  intro path text wasThere
  obtain ⟨away, among, setAside⟩ := stopped.setAside
  rcases setAside.not_lost spare among path wasThere with inPlace | ⟨isNew, found⟩
  · exact .inl inPlace
  · exact .inr ⟨isNew, directory, found⟩

/--
The statements of the new migrations are captured, unless something fails; then
no file is lost.
-/
theorem ends_captureNewMigrationSql (outside : Outside tools condition quiet)
    {files : List String} (areNew : AreNew tools files)
    (settled : quiet → Settled tools start files) :
    Ends tools condition (Captured files start)
      (fun after => ¬ quiet ∧ NotLost files start after)
      (captureNewMigrationSql files) start := by
  refine Machine.Attains.bind
    (fun after directory => start = after ∧
      isFresh directory start.files = true)
    (ends_operation outside fun fate reply after isMet executed => ?_) ?_
  · cases fate with
    | created directory =>
        rw [exec] at executed
        split at executed
        · next fresh =>
            obtain ⟨rfl, rfl⟩ := Prod.mk.inj (Option.some.inj executed)
            exact ⟨rfl, fresh⟩
        · exact absurd executed (by simp)
    | failed message =>
        obtain ⟨rfl, rfl⟩ := Prod.mk.inj (Option.some.inj executed)
        exact ⟨outside.unquiet isMet, .of_eq rfl⟩
    | executed | ran | stopped => exact absurd executed (by simp [exec])
  rintro _ directory ⟨rfl, fresh⟩
  have setUp := setUp_of_isFresh areNew fresh
  refine Machine.Attains.bind _
    ((ends_observe (ends_captureAside outside setUp settled)).mono
      (fun _ _ ended => ended) nofun) fun after outcome ended => ?_
  obtain ⟨away, among, setAside⟩ : ∃ away ⊆ {file | file ∈ files},
      SetAside (asideIn directory) (read start.files) (read after.files)
        away := by
    cases outcome with
    | error message => exact ended.setAside
    | ok statements =>
        refine ⟨∅, Set.empty_subset _, ?_⟩
        rw [ended.restored]
        exact .refl
  refine Machine.Attains.bind _ ((ends_restoreAll outside setUp.spare
    (fun _ member => member) among among setAside).mono
      (fun _ _ moved => moved)
      fun _ _ stopped => ⟨stopped.unquiet, stopped.notLost setUp.spare⟩)
    fun later _ moved => ?_
  have restored := moved.setAside.eq_start
  refine Machine.Attains.bind (fun last _ => last = later)
    (ends_destroy outside rfl fun unquiet => ⟨unquiet, .of_eq restored⟩) ?_
  rintro _ _ rfl
  refine ends_settle (fun statements returned => ?_) fun message thrown => ?_
  · subst returned
    obtain ⟨baseline, fresh, runs, old, places, kept⟩ := ended.ran
    exact ⟨restored, baseline, fresh, moved.runs.trans runs, old, places, kept⟩
  · subst thrown
    exact ⟨ended.unquiet, .of_eq restored⟩

end PaymentPortal.MigrationSafety
