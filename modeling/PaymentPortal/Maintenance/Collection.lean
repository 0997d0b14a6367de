import Mathlib.Data.List.Perm.Basic
import PaymentPortal.Maintenance.Solitary

/-!
# Garbage collection

What `gc-dbs` and `gc-roles` leave of the cluster.  A database is gone exactly
when the number in its name is that of no open pull request; a role likewise,
unless something outside of these databases depends on it.  The pattern that is
sent to the server misses none of the names that the handler looks for.
-/

namespace PaymentPortal.Maintenance

open PaymentPortal.Interaction
open PaymentPortal.Relational

variable {knex : Knex} {openPrNumbers : List JsNumber}

/-! ## Patterns -/

/-- Any text with this beginning matches the beginning and `%`. -/
theorem matches_beginning (beginning rest : List Char)
    (literal : '%' ∉ beginning) :
    Matches (beginning.map (fun char =>
      if char = '%' then PatternSign.anyText
      else if char = '_' then .anyLetter
      else .letter char) ++ [.anyText]) (beginning ++ rest) := by
  induction beginning with
  | nil => simp [Matches]
  | cons char beginning ih =>
      have other : char ≠ '%' := fun same => literal (by simp [same])
      have found := ih fun member => literal (List.mem_cons_of_mem _ member)
      rw [List.map_cons, if_neg other, List.cons_append, List.cons_append]
      split
      · exact ⟨char, _, rfl, found⟩
      · exact ⟨_, rfl, found⟩

/-- What has digits after its beginning has this beginning. -/
theorem exists_rest_of_isClosed {beginning name : String}
    (closed : isClosed beginning openPrNumbers name = true) :
    ∃ rest, name.toList = beginning.toList ++ rest := by
  unfold isClosed digitsAfter? at closed
  split at closed
  · exact absurd closed (by simp)
  · next digits found =>
      split at found
      · next isBeginning =>
          obtain ⟨rest, same⟩ := List.isPrefixOf_iff_prefix.mp isBeginning
          exact ⟨rest, same.symm⟩
      · exact absurd found (by simp)

/-- The server lists every name that the handler looks for. -/
theorem like_of_isClosed {beginning name : String}
    (literal : '%' ∉ beginning.toList)
    (closed : isClosed beginning openPrNumbers name = true) :
    like (likePattern (beginning ++ "%")) name.toList = true := by
  obtain ⟨rest, same⟩ := exists_rest_of_isClosed closed
  rw [like_iff, same, likePattern, String.toList_append, List.map_append]
  exact matches_beginning beginning.toList rest literal

variable (openPrNumbers) in
/-- So the closed ones of a listing are the closed ones of all names. -/
theorem filter_isClosed_of_perm {beginning : String} {rows : List String}
    {cluster : Cluster} {catalogue : Catalogue}
    (literal : '%' ∉ beginning.toList)
    (listed : rows.Perm
      (cluster.namesLike catalogue (likePattern (beginning ++ "%")))) :
    (rows.filter (isClosed beginning openPrNumbers)).Perm
      ((cluster.names catalogue).filter
        (isClosed beginning openPrNumbers)) := by
  refine (listed.filter _).trans ?_
  rw [Cluster.namesLike, List.filter_filter]
  refine List.Perm.of_eq (List.filter_congr fun name _ => ?_)
  cases closed : isClosed beginning openPrNumbers name with
  | false => rfl
  | true => rw [like_of_isClosed literal closed]; rfl

/-! ## Databases -/

/-- Whatever refers to a role does so in a database that is there. -/
def Cluster.Anchored (cluster : Cluster) : Prop :=
  ∀ dependency ∈ cluster.dependencies,
    dependency.database ∈ cluster.databases

instance (cluster : Cluster) : Decidable cluster.Anchored :=
  inferInstanceAs (Decidable (∀ _ ∈ _, _))

/-- The cluster without some of its databases. -/
structure WithoutDatabases (dropped : List String) (cluster after : Cluster) :
    Prop where
  databases : after.databases = cluster.databases.filter (· ∉ dropped)
  roles : after.roles = cluster.roles
  anchored : cluster.Anchored → after.Anchored

/-- A cluster that only drifts keeps its databases. -/
theorem Drifts.withoutDatabases {cluster later : Cluster}
    (drifts : Drifts cluster later) : WithoutDatabases [] cluster later where
  databases := by rw [drifts.databases, List.filter_eq_self.mpr (by simp)]
  roles := drifts.roles
  anchored := by
    intro anchored dependency member
    rw [drifts.databases]
    rcases drifts.anchored dependency member with old | isThere
    · exact anchored dependency old
    · exact isThere

theorem withoutDatabases_dropDatabase (cluster : Cluster) (name : String) :
    WithoutDatabases [name] cluster (cluster.dropDatabase name) where
  databases := List.filter_congr fun other _ => by simp
  roles := rfl
  anchored := by
    intro anchored dependency member
    obtain ⟨wasThere, isOther⟩ := List.mem_filter.mp member
    exact List.mem_filter.mpr ⟨anchored dependency wasThere, isOther⟩

theorem WithoutDatabases.trans {first second : List String}
    {cluster middle after : Cluster}
    (one : WithoutDatabases first cluster middle)
    (two : WithoutDatabases second middle after) :
    WithoutDatabases (first ++ second) cluster after where
  databases := by
    rw [two.databases, one.databases, List.filter_filter]
    refine List.filter_congr fun name _ => ?_
    simp [Bool.and_comm]
  roles := two.roles.trans one.roles
  anchored := fun anchored => two.anchored (one.anchored anchored)

theorem WithoutDatabases.drifts {dropped : List String}
    {cluster earlier later : Cluster}
    (without : WithoutDatabases dropped cluster earlier)
    (drifts : Drifts earlier later) :
    WithoutDatabases dropped cluster later :=
  List.append_nil dropped ▸ without.trans drifts.withoutDatabases

section Loops

variable {condition : Cluster → Op → Fate → Prop}

/-- What is dropped is gone; a failure leaves it or has dropped it as well. -/
theorem ends_dropDatabase {connection : Connection} (name : String)
    (cluster : Cluster)
    (enabled : ∀ here op fate, condition here op fate →
      (runner knex).Enabled here op fate) :
    Ends knex condition (fun after _ => WithoutDatabases [name] cluster after)
      (fun after => WithoutDatabases [] cluster after ∨
        WithoutDatabases [name] cluster after)
      (raw connection (.dropDatabase name)) cluster := by
  have drops : ∀ here after result, Drifts cluster here →
      (Statement.dropDatabase name).run knex connection.database here =
        .ok (result, after) → WithoutDatabases [name] cluster after := by
    intro here after result drifts ran
    obtain ⟨_, rfl⟩ := Prod.mk.inj (Except.ok.inj ran)
    exact drifts.withoutDatabases.trans (withoutDatabases_dropDatabase here name)
  apply ends_raw enabled
  · intro here fate result after drifts _ executed
    exact drops here after result drifts (of_execRaw_ok rfl executed)
  · intro here fate message after drifts _ executed
    rcases of_execRaw_error executed with ⟨rfl, _⟩ | ⟨_, result, ran⟩
    · exact .inl drifts.withoutDatabases
    · exact .inr (drops here after result drifts ran)

/-- The rows that are closed are dropped, in their order. -/
theorem ends_dropDatabases {connection : Connection} (rows : List String)
    (cluster : Cluster)
    (enabled : ∀ here op fate, condition here op fate →
      (runner knex).Enabled here op fate) :
    Ends knex condition
      (fun after dropped =>
        dropped = rows.filter (isClosed PR_DATABASE openPrNumbers) ∧
          WithoutDatabases dropped cluster after)
      (fun after => ∃ dropped,
        dropped <+: rows.filter (isClosed PR_DATABASE openPrNumbers) ∧
          WithoutDatabases dropped cluster after)
      (dropDatabases connection openPrNumbers rows) cluster := by
  induction rows generalizing cluster with
  | nil =>
      exact Machine.Attains.pure ⟨rfl, (Drifts.refl cluster).withoutDatabases⟩
  | cons datname rest ih =>
      rw [dropDatabases]
      split
      · next closed =>
          rw [List.filter_cons_of_pos closed]
          refine Machine.Attains.bind
            (fun after _ => WithoutDatabases [datname] cluster after)
            ((ends_dropDatabase datname cluster enabled).mono
              (fun _ _ without => without) ?_) fun middle _ without => ?_
          · rintro after _ (without | without)
            · exact ⟨[], List.nil_prefix, without⟩
            · exact ⟨[datname], by simp, without⟩
          refine Machine.Attains.bind _ ((ih middle).mono
            (fun _ _ ended => ended) ?_) fun after dropped ended => ?_
          · rintro after _ ⟨dropped, isPrefix, others⟩
            exact ⟨datname :: dropped,
              (List.prefix_cons_inj datname).mpr isPrefix,
              without.trans others⟩
          · exact Machine.Attains.pure ⟨by rw [ended.1],
              without.trans ended.2⟩
      · next isOpen =>
          rw [List.filter_cons_of_neg isOpen]
          exact ih cluster

/-- The listing, then the loop, in their instance. -/
theorem ends_gcDbs (env : LambdaEnv) (cluster : Cluster)
    (enabled : ∀ here op fate, condition here op fate →
      (runner knex).Enabled here op fate) :
    Ends knex condition
      (fun after body => ∃ dropped, body = .dropped dropped ∧
        dropped.Perm
          (cluster.databases.filter (isClosed PR_DATABASE openPrNumbers)) ∧
        WithoutDatabases dropped cluster after)
      (fun after => ∃ dropped,
        dropped ⊆
          cluster.databases.filter (isClosed PR_DATABASE openPrNumbers) ∧
        WithoutDatabases dropped cluster after)
      (gcDbs env openPrNumbers) cluster := by
  refine Machine.Attains.bind
    (fun after dropped => dropped.Perm
        (cluster.databases.filter (isClosed PR_DATABASE openPrNumbers)) ∧
      WithoutDatabases dropped cluster after) ?_
    fun after dropped ended => Machine.Attains.pure ⟨dropped, rfl, ended⟩
  refine ends_withMaintenanceKnex enabled (fun here drifts => ?_) {
      returnsLater := fun later ended => ⟨ended.1, ended.2.drifts later⟩
      throwsLater := fun later ⟨dropped, closed, without⟩ =>
        ⟨dropped, closed, without.drifts later⟩
      fails := fun {_ dropped} ended => ⟨dropped, ended.1.subset, ended.2⟩ }
    ⟨[], List.nil_subset _, (Drifts.refl cluster).withoutDatabases⟩
  refine Machine.Attains.bind
    (fun listed rows => Drifts cluster listed ∧
      (rows.filter (isClosed PR_DATABASE openPrNumbers)).Perm
        (cluster.databases.filter (isClosed PR_DATABASE openPrNumbers)))
    (ends_raw enabled ?_ ?_) ?_
  · intro here fate rows after further _ executed
    obtain ⟨listed, rfl⟩ := of_execRaw_namesLike executed
    refine ⟨drifts.trans further, ?_⟩
    have closed := filter_isClosed_of_perm openPrNumbers (by decide) listed
    rwa [Cluster.names, (drifts.trans further).databases] at closed
  · intro here fate message after further _ executed
    refine ⟨[], List.nil_subset _, ?_⟩
    rcases of_execRaw_error executed with ⟨rfl, _⟩ | ⟨_, _, ran⟩
    · exact (drifts.trans further).withoutDatabases
    · obtain ⟨_, rfl⟩ := Prod.mk.inj (Except.ok.inj ran)
      exact (drifts.trans further).withoutDatabases
  · rintro listed rows ⟨further, closed⟩
    refine (ends_dropDatabases rows listed enabled).mono ?_ ?_
    · rintro after dropped ⟨rfl, without⟩
      exact ⟨closed, further.withoutDatabases.trans without⟩
    · rintro after _ ⟨dropped, isPrefix, without⟩
      exact ⟨dropped, List.Subset.trans isPrefix.subset closed.subset,
        further.withoutDatabases.trans without⟩

end Loops

/-- Exactly the databases of closed pull requests are gone. -/
theorem WithoutDatabases.databases_eq {cluster after : Cluster}
    {dropped : List String} (without : WithoutDatabases dropped cluster after)
    (perm : dropped.Perm
      (cluster.databases.filter (isClosed PR_DATABASE openPrNumbers))) :
    after.databases = cluster.databases.filter
      fun name => !isClosed PR_DATABASE openPrNumbers name := by
  rw [without.databases]
  refine List.filter_congr fun name member => ?_
  simp [perm.mem_iff, member]

/--
`gc-dbs` drops the databases of closed pull requests and no others, whatever
fails: when it returns all of them are gone and listed, and when it throws none
of the others is missing.
-/
theorem databases_collected (knex : Knex) (env : LambdaEnv)
    (openPrNumbers : List JsNumber) (cluster : Cluster) :
    Ends knex (runner knex).Enabled
      (fun after body => ∃ dropped, body = .dropped dropped ∧
        dropped.Perm
          (cluster.databases.filter (isClosed PR_DATABASE openPrNumbers)) ∧
        after.databases = cluster.databases.filter
          (fun name => !isClosed PR_DATABASE openPrNumbers name) ∧
        after.roles = cluster.roles)
      (fun after =>
        cluster.databases.filter
            (fun name => !isClosed PR_DATABASE openPrNumbers name) ⊆
          after.databases ∧
        after.databases ⊆ cluster.databases ∧ after.roles = cluster.roles)
      (gcDbs env openPrNumbers) cluster := by
  refine (ends_gcDbs env cluster fun _ _ _ isMet => isMet).mono ?_ ?_
  · rintro after body ⟨dropped, isBody, perm, without⟩
    exact ⟨dropped, isBody, perm, without.databases_eq perm, without.roles⟩
  · rintro after _ ⟨dropped, closed, without⟩
    rw [without.databases]
    refine ⟨fun name member => ?_, List.filter_subset_self _, without.roles⟩
    obtain ⟨wasThere, isOpen⟩ := List.mem_filter.mp member
    refine List.mem_filter.mpr ⟨wasThere, decide_eq_true fun isDropped => ?_⟩
    rw [(List.mem_filter.mp (closed isDropped)).2] at isOpen
    exact absurd isOpen (by simp)

/-! ## Roles -/

/-- The cluster without some of its roles. -/
structure WithoutRoles (gone : List String) (cluster after : Cluster) :
    Prop where
  databases : after.databases = cluster.databases
  roles : after.roles = cluster.roles.filter (·.name ∉ gone)
  kept : cluster.dependencies ⊆ after.dependencies
  anchored : cluster.Anchored → after.Anchored

/-- A cluster that only drifts keeps its roles. -/
theorem Drifts.withoutRoles {cluster later : Cluster}
    (drifts : Drifts cluster later) : WithoutRoles [] cluster later where
  databases := drifts.databases
  roles := by rw [drifts.roles, List.filter_eq_self.mpr (by simp)]
  kept := drifts.kept
  anchored := drifts.withoutDatabases.anchored

theorem withoutRoles_dropRole (cluster : Cluster) (name : String) :
    WithoutRoles [name] cluster (cluster.dropRole name) where
  databases := rfl
  roles := List.filter_congr fun role _ => by simp
  kept := List.Subset.refl _
  anchored := fun anchored => anchored

theorem WithoutRoles.trans {first second : List String}
    {cluster middle after : Cluster}
    (one : WithoutRoles first cluster middle)
    (two : WithoutRoles second middle after) :
    WithoutRoles (first ++ second) cluster after where
  databases := two.databases.trans one.databases
  roles := by
    rw [two.roles, one.roles, List.filter_filter]
    refine List.filter_congr fun role _ => ?_
    simp [Bool.and_comm]
  kept := List.Subset.trans one.kept two.kept
  anchored := fun anchored => two.anchored (one.anchored anchored)

theorem WithoutRoles.drifts {gone : List String}
    {cluster earlier later : Cluster}
    (without : WithoutRoles gone cluster earlier)
    (drifts : Drifts earlier later) : WithoutRoles gone cluster later :=
  List.append_nil gone ▸ without.trans drifts.withoutRoles

/-- Something of this kind depends on the role. -/
def Cluster.DependsBy (kind : Dependency → Prop) (cluster : Cluster)
    (name : String) : Prop :=
  ∃ dependency ∈ cluster.dependencies, dependency.role = name ∧
    kind dependency

/-- What depends on a role still does when more does. -/
theorem Cluster.DependsBy.mono {kind : Dependency → Prop} {name : String}
    {cluster after : Cluster} (depends : cluster.DependsBy kind name)
    (kept : cluster.dependencies ⊆ after.dependencies) :
    after.DependsBy kind name := by
  obtain ⟨dependency, member, isRole⟩ := depends
  exact ⟨dependency, kept member, isRole⟩

/--
What is known of the two lists of `gc-roles`: who is gone, and that nobody is
said to be gone who is not.  Where the environment cuts nothing off, those that
are said to have failed are still there and something depends on them.
-/
structure Sorted (faults : Prop) (kind : Dependency → Prop)
    (rows : List String) (cluster after : Cluster) (dropped : List String)
    (failed : List (String × String)) (gone : List String) : Prop where
  perm : (dropped ++ failed.map Prod.fst).Perm rows
  without : WithoutRoles gone cluster after
  dropped_subset : dropped ⊆ gone
  gone_subset : gone ⊆ dropped ++ failed.map Prod.fst
  gone_eq : ¬ faults → gone = dropped
  depends : ¬ faults → ∀ entry ∈ failed, after.DependsBy kind entry.1

namespace Sorted

variable {faults : Prop} {kind : Dependency → Prop}
variable {rows dropped gone : List String}
variable {cluster middle after later : Cluster}
variable {failed : List (String × String)} {name message : String}

theorem nil (cluster : Cluster) :
    Sorted faults kind [] cluster cluster [] [] [] where
  perm := .nil
  without := (Drifts.refl cluster).withoutRoles
  dropped_subset := List.Subset.refl _
  gone_subset := List.Subset.refl _
  gone_eq := fun _ => rfl
  depends := fun _ => nofun

/-- A role that has been dropped before the others. -/
theorem cons_dropped (first : WithoutRoles [name] cluster middle)
    (sorted : Sorted faults kind rows middle after dropped failed gone) :
    Sorted faults kind (name :: rows) cluster after (name :: dropped) failed
      (name :: gone) where
  perm := sorted.perm.cons name
  without := first.trans sorted.without
  dropped_subset := List.cons_subset_cons name sorted.dropped_subset
  gone_subset := List.cons_subset_cons name sorted.gone_subset
  gone_eq := fun unfaulted => by rw [sorted.gone_eq unfaulted]
  depends := sorted.depends

/-- A role that is said to have failed, before the others. -/
theorem cons_failed {lost : List String}
    (first : WithoutRoles lost cluster middle) (isOwn : lost ⊆ [name])
    (certain : ¬ faults → lost = [] ∧ middle.DependsBy kind name)
    (sorted : Sorted faults kind rows middle after dropped failed gone) :
    Sorted faults kind (name :: rows) cluster after dropped
      ((name, message) :: failed) (lost ++ gone) where
  perm := List.perm_middle.trans (sorted.perm.cons name)
  without := first.trans sorted.without
  dropped_subset := List.Subset.trans sorted.dropped_subset
    (List.subset_append_right _ _)
  gone_subset := by
    intro other member
    rw [List.map_cons, List.perm_middle.mem_iff]
    rcases List.mem_append.mp member with isLost | isGone
    · exact List.mem_cons.mpr (.inl (List.mem_singleton.mp (isOwn isLost)))
    · exact List.mem_cons_of_mem _ (sorted.gone_subset isGone)
  gone_eq := fun unfaulted => by
    rw [(certain unfaulted).1, List.nil_append, sorted.gone_eq unfaulted]
  depends := by
    intro unfaulted entry member
    rcases List.mem_cons.mp member with rfl | old
    · exact (certain unfaulted).2.mono sorted.without.kept
    · exact sorted.depends unfaulted entry old

theorem drifts (sorted : Sorted faults kind rows cluster after dropped failed gone)
    (drifts : Drifts after later) :
    Sorted faults kind rows cluster later dropped failed gone where
  perm := sorted.perm
  without := sorted.without.drifts drifts
  dropped_subset := sorted.dropped_subset
  gone_subset := sorted.gone_subset
  gone_eq := sorted.gone_eq
  depends := fun unfaulted entry member =>
    (sorted.depends unfaulted entry member).mono drifts.kept

end Sorted

section Loops

variable {condition : Cluster → Op → Fate → Prop} {faults : Prop}
variable {kind : Dependency → Prop}

/-- One role is dropped, or is said not to be. -/
theorem ends_dropRole {connection : Connection} (name : String)
    (cluster : Cluster)
    (enabled : ∀ here op fate, condition here op fate →
      (runner knex).Enabled here op fate)
    (faultless : ∀ here op fate, condition here op fate → ¬ faults →
      fate.isFault = false ∧ ∀ dependency ∈ here.dependencies,
        kind dependency) :
    Ends knex condition (fun after _ => WithoutRoles [name] cluster after)
      (fun after => ∃ lost, WithoutRoles lost cluster after ∧ lost ⊆ [name] ∧
        (¬ faults → lost = [] ∧ after.DependsBy kind name))
      (raw connection (.dropRole name)) cluster := by
  have drops : ∀ here after result, Drifts cluster here →
      (Statement.dropRole name).run knex connection.database here =
        .ok (result, after) → WithoutRoles [name] cluster after := by
    intro here after result drifts ran
    rw [Statement.run] at ran
    split at ran
    · exact absurd ran (by simp)
    · obtain ⟨_, rfl⟩ := Prod.mk.inj (Except.ok.inj ran)
      exact drifts.withoutRoles.trans (withoutRoles_dropRole here name)
  apply ends_raw enabled
  · intro here fate result after drifts _ executed
    exact drops here after result drifts (of_execRaw_ok rfl executed)
  · intro here fate message after drifts isMet executed
    rcases of_execRaw_error executed with ⟨rfl, refused⟩ | ⟨isFault, _, ran⟩
    · refine ⟨[], drifts.withoutRoles, List.nil_subset _,
        fun unfaulted => ⟨rfl, ?_⟩⟩
      obtain ⟨noFault, ofKind⟩ := faultless _ _ _ isMet unfaulted
      rw [noFault] at refused
      have ran := refused.resolve_left (by simp)
      rw [Statement.run] at ran
      split at ran
      · next depends =>
          obtain ⟨dependency, member, isRole⟩ := depends
          exact ⟨dependency, member, isRole, ofKind dependency member⟩
      · exact absurd ran (by simp)
    · refine ⟨[name], drops here after _ drifts ran, List.Subset.refl _,
        fun unfaulted => ?_⟩
      rw [(faultless _ _ _ isMet unfaulted).1] at isFault
      exact absurd isFault (by simp)

/-- The rows that are closed are sorted into two lists; nothing is thrown. -/
theorem ends_dropRoles {connection : Connection} (rows : List String)
    (cluster : Cluster)
    (enabled : ∀ here op fate, condition here op fate →
      (runner knex).Enabled here op fate)
    (faultless : ∀ here op fate, condition here op fate → ¬ faults →
      fate.isFault = false ∧ ∀ dependency ∈ here.dependencies,
        kind dependency) :
    Ends knex condition
      (fun after lists => ∃ gone,
        Sorted faults kind (rows.filter (isClosed PR_ROLE openPrNumbers)) cluster
          after lists.1 lists.2 gone)
      (fun _ => False) (dropRoles connection openPrNumbers rows) cluster := by
  induction rows generalizing cluster with
  | nil => exact Machine.Attains.pure ⟨[], .nil cluster⟩
  | cons rolname rest ih =>
      rw [dropRoles]
      split
      · next closed =>
          rw [List.filter_cons_of_pos closed]
          refine Machine.Attains.bind _
            (ends_observe (ends_dropRole rolname cluster enabled faultless))
            fun middle outcome ended => ?_
          refine Machine.Attains.bind _ (ih middle)
            fun after lists sorted => ?_
          obtain ⟨gone, sorted⟩ := sorted
          cases outcome with
          | ok _ =>
              exact Machine.Attains.pure ⟨_, .cons_dropped ended sorted⟩
          | error message =>
              obtain ⟨lost, first, isOwn, certain⟩ := ended
              exact Machine.Attains.pure
                ⟨_, .cons_failed first isOwn certain sorted⟩
      · next isOpen =>
          rw [List.filter_cons_of_neg isOpen]
          exact ih cluster

/-- What is left when `gc-roles` throws: some of the closed ones are gone. -/
def SomeRolesGone (openPrNumbers : List JsNumber)
    (cluster after : Cluster) : Prop :=
  ∃ gone, gone ⊆ (cluster.roles.map Role.name).filter
      (isClosed PR_ROLE openPrNumbers) ∧ WithoutRoles gone cluster after

variable (faults kind) in
/-- The listing, then the loop, in their instance. -/
theorem ends_gcRoles (env : LambdaEnv) (cluster : Cluster)
    (enabled : ∀ here op fate, condition here op fate →
      (runner knex).Enabled here op fate)
    (faultless : ∀ here op fate, condition here op fate → ¬ faults →
      fate.isFault = false ∧ ∀ dependency ∈ here.dependencies,
        kind dependency) :
    Ends knex condition
      (fun after body => ∃ dropped failed gone,
        body = .droppedRoles dropped failed ∧
        Sorted faults kind ((cluster.roles.map Role.name).filter
          (isClosed PR_ROLE openPrNumbers)) cluster after dropped failed gone)
      (SomeRolesGone openPrNumbers cluster)
      (gcRoles env openPrNumbers) cluster := by
  refine Machine.Attains.bind
    (fun after lists => ∃ gone, Sorted faults kind
      ((cluster.roles.map Role.name).filter (isClosed PR_ROLE openPrNumbers))
      cluster after lists.1 lists.2 gone) ?_ ?_
  · refine ends_withMaintenanceKnex enabled (fun here drifts => ?_) {
        returnsLater := fun later ⟨gone, sorted⟩ => ⟨gone, sorted.drifts later⟩
        throwsLater := fun later ⟨gone, closed, without⟩ =>
          ⟨gone, closed, without.drifts later⟩
        fails := fun ⟨gone, sorted⟩ => ⟨gone,
          List.Subset.trans sorted.gone_subset sorted.perm.subset,
          sorted.without⟩ }
      ⟨[], List.nil_subset _, (Drifts.refl cluster).withoutRoles⟩
    refine Machine.Attains.bind
      (fun listed rows => Drifts cluster listed ∧
        (rows.filter (isClosed PR_ROLE openPrNumbers)).Perm
          ((cluster.roles.map Role.name).filter
            (isClosed PR_ROLE openPrNumbers)))
      (ends_raw enabled ?_ ?_) ?_
    · intro here fate rows after further _ executed
      obtain ⟨listed, rfl⟩ := of_execRaw_namesLike executed
      refine ⟨drifts.trans further, ?_⟩
      have closed := filter_isClosed_of_perm openPrNumbers (by decide) listed
      rwa [Cluster.names, (drifts.trans further).roles] at closed
    · intro here fate message after further _ executed
      refine ⟨[], List.nil_subset _, ?_⟩
      rcases of_execRaw_error executed with ⟨rfl, _⟩ | ⟨_, _, ran⟩
      · exact (drifts.trans further).withoutRoles
      · obtain ⟨_, rfl⟩ := Prod.mk.inj (Except.ok.inj ran)
        exact (drifts.trans further).withoutRoles
    · rintro listed rows ⟨further, closed⟩
      refine (ends_dropRoles rows listed enabled faultless).mono ?_ nofun
      rintro after lists ⟨gone, sorted⟩
      exact ⟨gone, { sorted with
        perm := sorted.perm.trans closed
        without := further.withoutRoles.trans sorted.without }⟩
  · rintro after ⟨dropped, failed⟩ ⟨gone, sorted⟩
    exact Machine.Attains.pure ⟨dropped, failed, gone, rfl, sorted⟩

end Loops

/-- The closed roles of a cluster. -/
abbrev closedRoles (openPrNumbers : List JsNumber) (cluster : Cluster) :
    List String :=
  (cluster.roles.map Role.name).filter (isClosed PR_ROLE openPrNumbers)

/-- Roles that are not closed are what they were, and there are no new ones. -/
structure OthersKept (openPrNumbers : List JsNumber)
    (cluster after : Cluster) : Prop where
  databases : after.databases = cluster.databases
  kept : ∀ role ∈ cluster.roles,
    isClosed PR_ROLE openPrNumbers role.name = false → role ∈ after.roles
  subset : after.roles ⊆ cluster.roles

theorem othersKept_of_withoutRoles {cluster after : Cluster}
    {gone : List String} (isClosed : gone ⊆ closedRoles openPrNumbers cluster)
    (without : WithoutRoles gone cluster after) :
    OthersKept openPrNumbers cluster after where
  databases := without.databases
  kept := by
    intro role member isOpen
    rw [without.roles]
    refine List.mem_filter.mpr ⟨member, decide_eq_true fun isGone => ?_⟩
    rw [(List.mem_filter.mp (isClosed isGone)).2] at isOpen
    exact absurd isOpen (by simp)
  subset := without.roles ▸ List.filter_subset_self _

/-- A role of which it is known whether it is gone. -/
theorem WithoutRoles.hasRole_iff {gone : List String} {name : String}
    {cluster after : Cluster} (without : WithoutRoles gone cluster after) :
    after.HasRole name ↔ cluster.HasRole name ∧ name ∉ gone := by
  rw [Cluster.HasRole, without.roles, Cluster.HasRole]
  constructor
  · intro member
    obtain ⟨role, isLeft, rfl⟩ := List.mem_map.mp member
    obtain ⟨wasThere, stays⟩ := List.mem_filter.mp isLeft
    exact ⟨List.mem_map_of_mem wasThere, by simpa using stays⟩
  · rintro ⟨member, stays⟩
    obtain ⟨role, wasThere, rfl⟩ := List.mem_map.mp member
    exact List.mem_map_of_mem
      (List.mem_filter.mpr ⟨wasThere, by simpa using stays⟩)

/--
`gc-roles` takes every closed role up, whatever has become of those before it.
It returns two lists that together name each of them once: those it has
dropped, and those with an error.  Where the environment cuts nothing off, the
first are exactly the ones that are gone, and something depends on each of the
others.
-/
theorem roles_collected (knex : Knex) (env : LambdaEnv)
    (openPrNumbers : List JsNumber) (cluster : Cluster) :
    Ends knex (runner knex).Enabled
      (fun after body => OthersKept openPrNumbers cluster after ∧
        ∃ dropped failed, body = .droppedRoles dropped failed ∧
          (dropped ++ failed.map Prod.fst).Perm
            (closedRoles openPrNumbers cluster) ∧
          ∀ name ∈ dropped, ¬ after.HasRole name)
      (OthersKept openPrNumbers cluster) (gcRoles env openPrNumbers) cluster ∧
    Ends knex (Answered knex)
      (fun after body => ∃ dropped failed,
        body = .droppedRoles dropped failed ∧
        (dropped ++ failed.map Prod.fst).Perm
          (closedRoles openPrNumbers cluster) ∧
        (∀ name ∈ closedRoles openPrNumbers cluster,
          after.HasRole name ↔ name ∉ dropped) ∧
        ∀ entry ∈ failed, after.DependsOn entry.1)
      (OthersKept openPrNumbers cluster)
      (gcRoles env openPrNumbers) cluster := by
  have left : ∀ after, SomeRolesGone openPrNumbers cluster after →
      OthersKept openPrNumbers cluster after := by
    rintro after ⟨gone, closed, without⟩
    exact othersKept_of_withoutRoles closed without
  constructor
  · refine (ends_gcRoles True (fun _ => True) env cluster
      (fun _ _ _ isMet => isMet) fun _ _ _ _ unfaulted =>
        absurd trivial unfaulted).mono ?_ fun after _ ended => left after ended
    rintro after body ⟨dropped, failed, gone, isBody, sorted⟩
    refine ⟨othersKept_of_withoutRoles
      (List.Subset.trans sorted.gone_subset sorted.perm.subset)
      sorted.without, dropped, failed, isBody, sorted.perm, ?_⟩
    intro name member isThere
    exact (sorted.without.hasRole_iff.mp isThere).2
      (sorted.dropped_subset member)
  · refine (ends_gcRoles False (fun _ => True) env cluster
      (fun _ _ _ isMet => isMet.1) fun _ _ _ isMet _ =>
        ⟨isMet.2, fun _ _ => trivial⟩).mono ?_
      fun after _ ended => left after ended
    rintro after body ⟨dropped, failed, gone, isBody, sorted⟩
    obtain rfl := sorted.gone_eq id
    refine ⟨gone, failed, isBody, sorted.perm, fun name member => ?_,
      fun entry member => ?_⟩
    · rw [sorted.without.hasRole_iff]
      exact and_iff_right (List.mem_filter.mp member).1
    · obtain ⟨dependency, isThere, isRole, _⟩ :=
        sorted.depends id entry member
      exact ⟨dependency, isThere, isRole⟩

/-! ## The nightly workflow -/

/-- The payload of a command with the numbers of the open pull requests. -/
def nightlyEvent (command : Command) (openPrNumbers : List JsNumber) :
    Option MigrationHandlerEvent :=
  some ⟨some command, some openPrNumbers, none⟩

/-- The two invocations of the nightly workflow, whatever the first ends with. -/
def collectNightly (env : LambdaEnv) (openPrNumbers : List JsNumber) :
    Task (Except String Body × Except String Body) := do
  let dbs ← observe (migrationHandler env (nightlyEvent .gcDbs openPrNumbers))
  let roles ← observe
    (migrationHandler env (nightlyEvent .gcRoles openPrNumbers))
  pure (dbs, roles)

/-- Only databases and roles of closed pull requests are missing. -/
structure OnlyClosedGone (openPrNumbers : List JsNumber)
    (cluster after : Cluster) : Prop where
  databases : after.databases ⊆ cluster.databases
  keptDatabases : ∀ name ∈ cluster.databases,
    isClosed PR_DATABASE openPrNumbers name = false → name ∈ after.databases
  roles : after.roles ⊆ cluster.roles
  keptRoles : ∀ role ∈ cluster.roles,
    isClosed PR_ROLE openPrNumbers role.name = false → role ∈ after.roles

/-- What refers to the role of a closed pull request is in its database. -/
def Confined (openPrNumbers : List JsNumber) (dependency : Dependency) :
    Prop :=
  isClosed PR_ROLE openPrNumbers dependency.role = true →
    isClosed PR_DATABASE openPrNumbers dependency.database = true

/-- Nothing is cut off, and the roles are used by their own databases only. -/
def Orderly (knex : Knex) (openPrNumbers : List JsNumber) (here : Cluster)
    (op : Op) (fate : Fate) : Prop :=
  Answered knex here op fate ∧
    ∀ dependency ∈ here.dependencies, Confined openPrNumbers dependency

/-- Without its databases nothing depends on a closed role. -/
theorem not_dependsBy_confined {cluster : Cluster} {name : String}
    (anchored : cluster.Anchored)
    (noneClosed : ∀ database ∈ cluster.databases,
      isClosed PR_DATABASE openPrNumbers database = false)
    (closed : isClosed PR_ROLE openPrNumbers name = true) :
    ¬ cluster.DependsBy (Confined openPrNumbers) name := by
  rintro ⟨dependency, member, rfl, confined⟩
  have isOpen := noneClosed _ (anchored dependency member)
  rw [confined closed] at isOpen
  exact absurd isOpen (by simp)

/-- Exactly the roles of closed pull requests are gone. -/
theorem WithoutRoles.roles_eq {cluster after : Cluster} {gone : List String}
    (without : WithoutRoles gone cluster after)
    (perm : gone.Perm (closedRoles openPrNumbers cluster)) :
    after.roles = cluster.roles.filter
      fun role => !isClosed PR_ROLE openPrNumbers role.name := by
  rw [without.roles]
  refine List.filter_congr fun role member => ?_
  simp [perm.mem_iff, List.mem_map_of_mem member]

/-- When the databases are gone, no role is left with an error. -/
theorem Sorted.none_failed {cluster after : Cluster} {dropped gone : List String}
    {failed : List (String × String)}
    (sorted : Sorted False (Confined openPrNumbers)
      (closedRoles openPrNumbers cluster) cluster after dropped failed gone)
    (anchored : cluster.Anchored)
    (noneClosed : ∀ database ∈ cluster.databases,
      isClosed PR_DATABASE openPrNumbers database = false) : failed = [] := by
  refine List.eq_nil_iff_forall_not_mem.mpr fun entry member => ?_
  have closed := (List.mem_filter.mp (sorted.perm.subset
    (List.mem_append_right _ (List.mem_map_of_mem member)))).2
  refine not_dependsBy_confined (sorted.without.anchored anchored) ?_ closed
    (sorted.depends id entry member)
  intro database isLeft
  exact noneClosed database (sorted.without.databases ▸ isLeft)

/-- What `gc-dbs` and `gc-roles` have taken is all that is missing. -/
theorem onlyClosedGone {cluster middle after : Cluster}
    {databases roles : List String}
    (closedDatabases : databases ⊆
      cluster.databases.filter (isClosed PR_DATABASE openPrNumbers))
    (first : WithoutDatabases databases cluster middle)
    (areClosed : roles ⊆ closedRoles openPrNumbers middle)
    (second : WithoutRoles roles middle after) :
    OnlyClosedGone openPrNumbers cluster after where
  databases := by
    rw [second.databases, first.databases]
    exact List.filter_subset_self _
  keptDatabases := by
    intro name member isOpen
    rw [second.databases, first.databases]
    refine List.mem_filter.mpr ⟨member, decide_eq_true fun isGone => ?_⟩
    rw [(List.mem_filter.mp (closedDatabases isGone)).2] at isOpen
    exact absurd isOpen (by simp)
  roles := by
    rw [second.roles, first.roles]
    exact List.filter_subset_self _
  keptRoles := by
    intro role member isOpen
    rw [second.roles, first.roles]
    refine List.mem_filter.mpr ⟨member, decide_eq_true fun isGone => ?_⟩
    rw [(List.mem_filter.mp (areClosed isGone)).2] at isOpen
    exact absurd isOpen (by simp)

/-- The handler refuses an empty list and else passes it on. -/
theorem ends_handled {condition : Cluster → Op → Fate → Prop}
    {returns : Cluster → Body → Prop} {throws : Cluster → Prop}
    {command : Command} {env : LambdaEnv} {cluster : Cluster}
    {collects : LambdaEnv → List JsNumber → Task Body} {refusal : String}
    (handled : migrationHandler env (nightlyEvent command openPrNumbers) =
      match openPrNumbersOf (nightlyEvent command openPrNumbers) with
      | none => throw refusal
      | some given => collects env given)
    (refused : throws cluster)
    (ends : Ends knex condition returns throws
      (collects env openPrNumbers) cluster) :
    Ends knex condition returns throws
      (migrationHandler env (nightlyEvent command openPrNumbers)) cluster := by
  rw [handled]
  by_cases empty : openPrNumbers = []
  · have none : openPrNumbersOf (nightlyEvent command openPrNumbers) = none := by
      simp [openPrNumbersOf, nightlyEvent, empty]
    rw [none]
    exact Machine.Attains.throw refused
  · have given : openPrNumbersOf (nightlyEvent command openPrNumbers) =
        some openPrNumbers := by
      simp [openPrNumbersOf, nightlyEvent, empty]
    rw [given]
    exact ends

theorem orderly_enabled {here : Cluster} {op : Op} {fate : Fate}
    (orderly : Orderly knex openPrNumbers here op fate) :
    (runner knex).Enabled here op fate :=
  orderly.1.1

/-- The first invocation takes closed databases, all of them if it returns. -/
theorem ends_nightlyDbs (env : LambdaEnv) (cluster : Cluster) :
    Ends knex (Orderly knex openPrNumbers)
      (fun middle result => ∃ gone,
        gone ⊆ cluster.databases.filter (isClosed PR_DATABASE openPrNumbers) ∧
        WithoutDatabases gone cluster middle ∧
        ∀ body, result = .ok body → gone.Perm
          (cluster.databases.filter (isClosed PR_DATABASE openPrNumbers)))
      (fun _ => False)
      (observe (migrationHandler env (nightlyEvent .gcDbs openPrNumbers)))
      cluster := by
  refine (ends_observe (ends_handled rfl
    ⟨[], List.nil_subset _, (Drifts.refl cluster).withoutDatabases⟩
    (ends_gcDbs env cluster fun _ _ _ => orderly_enabled))).mono ?_
    fun _ _ impossible => impossible
  rintro middle (message | body) ended
  · obtain ⟨gone, closed, without⟩ := ended
    exact ⟨gone, closed, without, nofun⟩
  · obtain ⟨gone, _, perm, without⟩ := ended
    exact ⟨gone, perm.subset, without, fun _ _ => perm⟩

/-- The second takes closed roles, and sorts them into two lists. -/
theorem ends_nightlyRoles (env : LambdaEnv) (cluster : Cluster) :
    Ends knex (Orderly knex openPrNumbers)
      (fun after result => ∃ gone,
        gone ⊆ closedRoles openPrNumbers cluster ∧
        WithoutRoles gone cluster after ∧
        ∀ body, result = .ok body → ∃ dropped failed,
          body = .droppedRoles dropped failed ∧
          Sorted False (Confined openPrNumbers)
            (closedRoles openPrNumbers cluster) cluster after dropped failed
            gone)
      (fun _ => False)
      (observe (migrationHandler env (nightlyEvent .gcRoles openPrNumbers)))
      cluster := by
  refine (ends_observe (ends_handled rfl
    ⟨[], List.nil_subset _, (Drifts.refl cluster).withoutRoles⟩
    (ends_gcRoles False (Confined openPrNumbers) env cluster
      (fun _ _ _ => orderly_enabled) fun _ _ _ orderly _ =>
        ⟨orderly.1.2, orderly.2⟩))).mono ?_ fun _ _ impossible => impossible
  rintro after (message | body) ended
  · obtain ⟨gone, closed, without⟩ := ended
    exact ⟨gone, closed, without, nofun⟩
  · obtain ⟨dropped, failed, gone, isBody, sorted⟩ := ended
    refine ⟨gone, List.Subset.trans sorted.gone_subset sorted.perm.subset,
      sorted.without, fun other same => ?_⟩
    obtain rfl := Except.ok.inj same
    exact ⟨dropped, failed, isBody, sorted⟩

instance (dependency : Dependency) :
    Decidable (Confined openPrNumbers dependency) :=
  inferInstanceAs (Decidable (_ → _))

instance (knex : Knex) (here : Cluster) (op : Op) (fate : Fate) :
    Decidable (Orderly knex openPrNumbers here op fate) :=
  inferInstanceAs (Decidable (((_ = true) ∧ _) ∧ ∀ _ ∈ _, _))

/-- What the environment answers on the night after pull request 7. -/
def sampleNight (index : Nat) : List Drift × Fate :=
  let secret := Fate.secret (.parsed (some "master") (some "m"))
  ([], ([secret, .executed,
    .listed ["paymentportal_pr_8", "paymentportal_pr_7"], .executed, .executed,
    secret, .executed, .listed ["pr_user_pr_7", "pr_user_pr_8"], .executed,
    .executed] : List Fate).getD index .executed)

end PaymentPortal.Maintenance
