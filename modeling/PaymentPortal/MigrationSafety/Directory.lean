import PaymentPortal.MigrationSafety.Check
import PaymentPortal.Relational.SetAside

/-!
# The directory of the migrations

Which migrations there are depends on the files of one directory only, and the
order in which they run is that of their paths.
-/

namespace PaymentPortal.MigrationSafety

open PaymentPortal.Interaction
open PaymentPortal.Lexical
open PaymentPortal.Relational

variable {tools : Tools} {files others : Files} {checkout : Checkout}

/-! ## Paths -/

/-- The text of a file that is there. -/
def read (files : Files) (path : String) : Option String :=
  files.lookup path

/-- The path of a migration. -/
def place (name : String) : String :=
  join MIGRATIONS_DIR name

/-- A name that is no path and that Knex loads. -/
structure IsMigration (tools : Tools) (name : String) : Prop where
  noSlash : '/' ∉ name.toList
  loads : tools.loads name = true

theorem join_toList (directory name : String) :
    (join directory name).toList =
      (join directory "").toList ++ name.toList := by
  simp [join]

theorem join_injective (directory : String) :
    Function.Injective (join directory) := by
  intro first second same
  have lists := congrArg String.toList same
  rw [join_toList, join_toList directory second] at lists
  exact String.toList_injective (List.append_cancel_left lists)

theorem place_injective : Function.Injective place :=
  join_injective MIGRATIONS_DIR

theorem basename_join {directory name : String}
    (noSlash : '/' ∉ name.toList) : basename (join directory name) = name := by
  have isName : ∀ char ∈ name.toList.reverse, decide (char ≠ '/') = true := by
    intro char member
    refine decide_eq_true fun same => noSlash ?_
    exact same ▸ List.mem_reverse.mp member
  have reversed : (join directory name).toList.reverse =
      name.toList.reverse ++ '/' :: directory.toList.reverse := by
    simp [join]
  rw [basename, reversed, List.takeWhile_append_of_pos isName,
    List.takeWhile_cons_of_neg (by simp), List.append_nil,
    List.reverse_reverse, String.ofList_toList]

/-- The directory of a path without its name. -/
theorem directory_of_join {first second name other : String}
    (noSlash : '/' ∉ name.toList) (otherNoSlash : '/' ∉ other.toList)
    (same : join first name = join second other) : first = second := by
  have names : name = other := by
    rw [← basename_join noSlash, same, basename_join otherNoSlash]
  have lists := congrArg String.toList same
  rw [names, join_toList, join_toList second] at lists
  have directories := List.append_cancel_right lists
  simp only [join, String.toList_append, String.toList_empty,
    List.append_nil] at directories
  exact String.toList_injective (List.append_cancel_right directories)

/-! ## The migrations -/

theorem migrationName?_eq_some {path name : String} :
    migrationName? tools path = some name ↔
      path = place name ∧ IsMigration tools name := by
  rw [migrationName?, Option.filter_eq_some_iff, Option.map_eq_some_iff,
    Bool.and_eq_true, Bool.not_eq_true', ← Bool.not_eq_true,
    List.contains_iff_mem]
  constructor
  · rintro ⟨⟨rest, dropped, rfl⟩, noSlash, loads⟩
    obtain ⟨beginning, split, same⟩ :=
      List.dropPrefix?_eq_some_iff.mp dropped
    obtain rfl := eq_of_beq same
    refine ⟨String.toList_injective ?_, noSlash, loads⟩
    rw [split, place, join_toList MIGRATIONS_DIR (String.ofList rest),
      String.toList_ofList]
  · rintro ⟨rfl, isMigration⟩
    refine ⟨⟨name.toList, ?_, String.ofList_toList⟩, isMigration.noSlash,
      isMigration.loads⟩
    exact List.dropPrefix?_eq_some_iff.mpr
      ⟨_, join_toList MIGRATIONS_DIR name, beq_self_eq_true _⟩

theorem mem_migrations {name : String} :
    name ∈ migrations tools files ↔
      IsMigration tools name ∧ read files (place name) ≠ none := by
  rw [migrations, (sortTexts_perm _).mem_iff, List.mem_filterMap]
  constructor
  · rintro ⟨path, member, isName⟩
    obtain ⟨rfl, isMigration⟩ := migrationName?_eq_some.mp isName
    exact ⟨isMigration, fun isNone => AList.lookup_eq_none.mp isNone
      (AList.mem_keys.mpr member)⟩
  · rintro ⟨isMigration, isThere⟩
    refine ⟨place name, ?_, migrationName?_eq_some.mpr ⟨rfl, isMigration⟩⟩
    exact AList.mem_keys.mp (not_not.mp
      fun absent => isThere (AList.lookup_eq_none.mpr absent))

theorem nodup_migrations (tools : Tools) (files : Files) :
    (migrations tools files).Nodup := by
  refine (sortTexts_perm _).nodup_iff.mpr
    (List.Nodup.filterMap ?_ files.keys_nodup)
  intro first second name isFirst isSecond
  rw [Option.mem_def, migrationName?_eq_some] at isFirst isSecond
  rw [isFirst.1, isSecond.1]

/-- Sorted names are given by what they are. -/
theorem eq_of_sorted {first second : List String}
    (distinct : first.Nodup) (otherDistinct : second.Nodup)
    (sorted : first.Pairwise textLe) (otherSorted : second.Pairwise textLe)
    (members : ∀ name, name ∈ first ↔ name ∈ second) : first = second :=
  ((List.perm_ext_iff_of_nodup distinct otherDistinct).mpr
    members).eq_of_pairwise (fun _ _ _ _ => textLe_antisymm) sorted otherSorted

/-- Only what is read in the directory of the migrations matters. -/
theorem migrations_congr
    (same : ∀ name, read files (place name) = read others (place name)) :
    migrations tools files = migrations tools others :=
  eq_of_sorted (nodup_migrations tools files) (nodup_migrations tools others)
    (pairwise_sortTexts _) (pairwise_sortTexts _) fun name => by
      rw [mem_migrations, mem_migrations, same]

/-! ## Pending migrations -/

theorem isIntact_iff : checkout.isIntact tools = true ↔
    checkout.completed ⊆ migrations tools checkout.files := by
  simp [Checkout.isIntact, List.subset_def]

theorem mem_pending {name : String} : name ∈ checkout.pending tools ↔
    name ∈ migrations tools checkout.files ∧ name ∉ checkout.completed := by
  simp [Checkout.pending]

theorem nodup_pending (tools : Tools) (checkout : Checkout) :
    (checkout.pending tools).Nodup :=
  (nodup_migrations tools checkout.files).filter _

theorem sorted_pending (tools : Tools) (checkout : Checkout) :
    (checkout.pending tools).Pairwise textLe :=
  (pairwise_sortTexts _).filter _

/-- The runs of the first pending migrations. -/
def newRuns (tools : Tools) (statements : List (List String))
    (checkout : Checkout) : List MigrationRun :=
  List.zipWith MigrationRun.mk (checkout.pending tools) statements

theorem map_name_newRuns (statements : List (List String)) :
    (newRuns tools statements checkout).map MigrationRun.name =
      (checkout.pending tools).take statements.length := by
  rw [newRuns]
  generalize checkout.pending tools = pending
  induction pending generalizing statements with
  | nil => simp
  | cons name pending ih =>
      cases statements with
      | nil => rfl
      | cons run statements =>
          rw [List.zipWith_cons_cons, List.map_cons, ih, List.length_cons,
            List.take_succ_cons]

/-- What has run is pending no more. -/
theorem pending_run (statements : List (List String)) :
    (checkout.run tools statements).pending tools =
      (checkout.pending tools).drop statements.length := by
  have distinct := nodup_pending tools checkout
  have completed : (checkout.run tools statements).completed =
      checkout.completed ++ (checkout.pending tools).take statements.length :=
    congrArg (checkout.completed ++ ·) (map_name_newRuns statements)
  have split : (checkout.run tools statements).pending tools =
      (checkout.pending tools).filter fun name =>
        !((checkout.pending tools).take statements.length).contains name := by
    rw [Checkout.pending, completed, Checkout.pending, List.filter_filter]
    refine List.filter_congr fun name _ => ?_
    simp [Bool.and_comm]
  rw [split]
  generalize checkout.pending tools = pending at distinct
  conv_lhs => rw [← List.take_append_drop statements.length pending,
    List.filter_append]
  rw [← List.take_append_drop statements.length pending] at distinct
  have apart := (List.nodup_append.mp distinct).2.2
  rw [List.filter_eq_nil_iff.mpr (by simp), List.nil_append,
    List.filter_eq_self.mpr]
  intro name member
  simpa using fun isTaken => apart name isTaken name member rfl

/-- A run leaves the directory intact. -/
theorem isIntact_run (statements : List (List String))
    (intact : checkout.isIntact tools = true) :
    (checkout.run tools statements).isIntact tools = true := by
  rw [isIntact_iff] at intact ⊢
  intro name member
  rcases List.mem_append.mp member with old | new
  · exact intact old
  · change name ∈ (newRuns tools statements checkout).map MigrationRun.name at new
    rw [map_name_newRuns] at new
    exact (mem_pending.mp (List.mem_of_mem_take new)).1

/-! ## Renaming -/

theorem read_rename (source target text : String) (files : Files) :
    read (rename source target text files) =
      moved source target text (read files) := by
  funext path
  by_cases isTarget : path = target
  · subst isTarget
    rw [moved_target]
    exact AList.lookup_insert _
  · by_cases isSource : path = source
    · subst isSource
      rw [moved_source text _ isTarget]
      exact (AList.lookup_insert_ne isTarget).trans (AList.lookup_erase _ _)
    · rw [moved_other text _ isSource isTarget]
      exact (AList.lookup_insert_ne isTarget).trans
        (AList.lookup_erase_ne isSource)

end PaymentPortal.MigrationSafety
