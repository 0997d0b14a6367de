import PaymentPortal.Interaction.Alone
import PaymentPortal.Maintenance.Changes

/-!
# Invocations that run alone

Total correctness of a command that no other invocation disturbs.  The server
goes on working for others meanwhile: something new may refer to a role at any
time.  The rules follow the handler: a statement, the secret of the master and
a body between the creation and the destruction of its Knex instance.
-/

namespace PaymentPortal.Maintenance

open PaymentPortal.Interaction

/-- What the cluster may have become without any statement. -/
structure Drifts (cluster later : Cluster) : Prop where
  databases : later.databases = cluster.databases
  roles : later.roles = cluster.roles
  kept : cluster.dependencies ⊆ later.dependencies
  anchored : ∀ dependency ∈ later.dependencies,
    dependency ∈ cluster.dependencies ∨
      dependency.database ∈ cluster.databases

namespace Drifts

theorem refl (cluster : Cluster) : Drifts cluster cluster :=
  ⟨rfl, rfl, List.Subset.refl _, fun _ member => .inl member⟩

theorem trans {cluster later last : Cluster} (first : Drifts cluster later)
    (second : Drifts later last) : Drifts cluster last where
  databases := second.databases.trans first.databases
  roles := second.roles.trans first.roles
  kept := List.Subset.trans first.kept second.kept
  anchored := by
    intro dependency member
    rcases second.anchored dependency member with old | isThere
    · exact first.anchored dependency old
    · exact .inr (first.databases ▸ isThere)

end Drifts

section Rules

variable {knex : Knex} {α : Type} {world : Cluster}
variable {condition : Cluster → Op → Fate → Prop}
variable {returns : Cluster → α → Prop} {throws : Cluster → Prop}

theorem drifts_of_driftAll {changes : List Drift} {here : Cluster}
    (drifted : (runner knex).driftAll changes world = some here) :
    Drifts world here := by
  induction changes generalizing world with
  | nil =>
      obtain rfl := Option.some.inj drifted
      exact .refl _
  | cons change rest ih =>
      obtain ⟨next, changed, remaining⟩ := Option.bind_eq_some_iff.mp drifted
      refine Drifts.trans ?_ (ih remaining)
      obtain ⟨dependency⟩ := change
      change drift (.depend dependency) world = some next at changed
      rw [drift] at changed
      split at changed
      · next isThere =>
          obtain rfl := Option.some.inj changed
          refine ⟨rfl, rfl, List.subset_cons_self _ _, fun other member => ?_⟩
          rcases List.mem_cons.mp member with rfl | old
          · exact .inr isThere.2
          · exact .inl old
      · exact absurd changed (by simp)

/-- Fates that fit and cut nothing off: only the server itself refuses. -/
def Answered (knex : Knex) (here : Cluster) (op : Op) (fate : Fate) : Prop :=
  (runner knex).Enabled here op fate ∧ fate.isFault = false

/-- The task ends as stated, whatever fates meet the condition. -/
abbrev Ends (knex : Knex) (condition : Cluster → Op → Fate → Prop)
    (returns : Cluster → α → Prop) (throws : Cluster → Prop)
    (task : Task α) (world : Cluster) : Prop :=
  (runner knex).Attains condition returns (fun after _ => throws after) task
    world

/-- A step of its own computation. -/
theorem ends_settle {step : Except String α}
    (returned : ∀ value, step = .ok value → returns world value)
    (thrown : throws world) :
    Ends knex condition returns throws (settle step) world := by
  apply Machine.Attains.computed
  cases step with
  | error message => exact thrown
  | ok value => exact returned value rfl

/-- One statement: what it returns and what is left when it throws. -/
theorem ends_raw {connection : Connection} {statement : Statement}
    {returns : Cluster → statement.Result → Prop}
    (enabled : ∀ here op fate, condition here op fate →
      (runner knex).Enabled here op fate)
    (returned : ∀ here fate result after, Drifts world here →
      condition here (.raw connection statement) fate →
      execRaw knex connection statement fate here =
        some (.ok result, after) → returns after result)
    (thrown : ∀ here fate message after, Drifts world here →
      condition here (.raw connection statement) fate →
      execRaw knex connection statement fate here =
        some (.error message, after) → throws after) :
    Ends knex condition returns throws (raw connection statement) world := by
  apply Machine.Attains.operation
  intro changes here drifted fate isMet
  have drifts := drifts_of_driftAll (Option.mem_def.mp drifted)
  obtain ⟨⟨reply, after⟩, executed⟩ :=
    Option.isSome_iff_exists.mp (enabled here _ fate isMet)
  refine ⟨reply, after, executed, ?_⟩
  cases reply with
  | error message => exact thrown here fate message after drifts isMet executed
  | ok result => exact returned here fate result after drifts isMet executed

/-- An operation that leaves the cluster alone. -/
theorem ends_quiet {op : Op} {convert : Reply op → Except String α}
    (enabled : ∀ here op fate, condition here op fate →
      (runner knex).Enabled here op fate)
    (unstated : ∀ connection statement, op ≠ .raw connection statement)
    (returned : ∀ here, Drifts world here → ∀ value, returns here value)
    (thrown : ∀ here, Drifts world here → throws here) :
    Ends knex condition returns throws
      (ExceptT.mk (.perform op fun reply => .done (convert reply)))
      world := by
  apply Machine.Attains.operation
  intro changes here drifted fate isMet
  have drifts := drifts_of_driftAll (Option.mem_def.mp drifted)
  obtain ⟨⟨reply, after⟩, executed⟩ :=
    Option.isSome_iff_exists.mp (enabled here op fate isMet)
  obtain rfl : after = here := by
    rcases changes_of_exec executed with same | ⟨_, _, same, _⟩
    · exact same
    · exact absurd same (unstated _ _)
  refine ⟨reply, after, executed, ?_⟩
  cases convert reply with
  | error message => exact thrown after drifts
  | ok value => exact returned after drifts value

/-- The outcome of a task as a value. -/
theorem ends_observe {task : Task α}
    (ends : Ends knex condition returns throws task world) :
    Ends knex condition (Ending returns fun after _ => throws after)
      (fun _ => False) (observe task) world :=
  Machine.Achieves.bind _ ends fun _ _ ended => ended

/-- The secret of the master is all that has to be read. -/
theorem ends_getMaintenanceConnection {env : LambdaEnv}
    {returns : Cluster → Connection → Prop}
    (enabled : ∀ here op fate, condition here op fate →
      (runner knex).Enabled here op fate)
    (returned : ∀ here, Drifts world here → returns here .maintenance)
    (thrown : ∀ here, Drifts world here → throws here) :
    Ends knex condition returns throws (getMaintenanceConnection env)
      world := by
  have computes : ∀ {β : Type} (step : Except String β),
      Ends knex condition (fun here _ => here = world) throws (settle step)
        world := fun step =>
    ends_settle (fun _ _ => rfl) (thrown world (.refl world))
  refine Machine.Attains.bind _ (computes _) fun first secretArn same => ?_
  subst same
  refine Machine.Attains.bind _ (computes _) fun second endpoint same => ?_
  subst same
  refine Machine.Attains.bind _ (computes _) fun third parsed same => ?_
  subst same
  refine Machine.Attains.bind (fun here _ => Drifts third here)
    (ends_quiet enabled (by simp) (fun here drifts _ => drifts) thrown) ?_
  exact fun here _ drifts => returned here drifts

/-- What holds at the end of a body and still does after drifting. -/
structure Steady (returns : Cluster → α → Prop) (throws : Cluster → Prop) :
    Prop where
  returnsLater : ∀ {earlier later value}, Drifts earlier later →
    returns earlier value → returns later value
  throwsLater : ∀ {earlier later}, Drifts earlier later →
    throws earlier → throws later
  fails : ∀ {here value}, returns here value → throws here

/-- A body between the creation and the destruction of its instance. -/
theorem ends_withKnex {connection : Connection} {body : Task α}
    (enabled : ∀ here op fate, condition here op fate →
      (runner knex).Enabled here op fate)
    (ends : ∀ here, Drifts world here →
      Ends knex condition returns throws body here)
    (steady : Steady returns throws) (thrown : throws world) :
    Ends knex condition returns throws (withKnex connection body) world := by
  unfold withKnex
  refine Machine.Attains.bind (fun here _ => Drifts world here)
    (ends_quiet enabled (by simp) (fun here drifts _ => drifts)
      fun here drifts => steady.throwsLater drifts thrown) fun here _ drifts => ?_
  refine Machine.Attains.bind _ ((ends_observe (ends here drifts)).mono
    (fun _ _ ended => ended) nofun) fun last outcome ended => ?_
  cases outcome with
  | error message =>
      refine Machine.Attains.bind (fun destroyed _ => throws destroyed)
        ?_ fun destroyed _ thrown => thrown
      exact ends_quiet enabled (by simp)
        (fun destroyed drifts _ => steady.throwsLater drifts ended)
        fun destroyed drifts => steady.throwsLater drifts ended
  | ok value =>
      refine Machine.Attains.bind (fun destroyed _ => returns destroyed value)
        ?_ fun destroyed _ returned => returned
      exact ends_quiet enabled (by simp)
        (fun destroyed drifts _ => steady.returnsLater drifts ended)
        fun destroyed drifts =>
          steady.fails (steady.returnsLater drifts ended)

/-- A body over the maintenance database. -/
theorem ends_withMaintenanceKnex {env : LambdaEnv}
    {body : Connection → Task α}
    (enabled : ∀ here op fate, condition here op fate →
      (runner knex).Enabled here op fate)
    (ends : ∀ here, Drifts world here →
      Ends knex condition returns throws (body .maintenance) here)
    (steady : Steady returns throws) (thrown : throws world) :
    Ends knex condition returns throws (withMaintenanceKnex env body)
      world := by
  refine Machine.Attains.bind
    (fun here connection => Drifts world here ∧ connection = .maintenance)
    (ends_getMaintenanceConnection enabled (fun here drifts => ⟨drifts, rfl⟩)
      fun here drifts => steady.throwsLater drifts thrown) ?_
  rintro here _ ⟨drifts, rfl⟩
  exact ends_withKnex enabled (fun later further => ends later
    (drifts.trans further)) steady (steady.throwsLater drifts thrown)

end Rules

end PaymentPortal.Maintenance
