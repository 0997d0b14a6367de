import PaymentPortal.Interaction.Alone

/-!
# Two worlds side by side

The paired machine runs a program in two worlds at once, with the same choices
of the environment, as long as both worlds give the same replies.  What the
program achieves on the paired machine is what it does in either world, and a
run in one world has its counterpart in the other.
-/

namespace PaymentPortal.Interaction.Machine

variable {Op : Type} {Reply : Op → Type}
variable {World Fate Request Result Drift α : Type}

open Classical in
/-- The machine over two worlds that give the same replies. -/
noncomputable def paired
    (machine : Machine Op Reply World Fate Request Result Drift) :
    Machine Op Reply (World × World) Fate Request Result Drift where
  program := machine.program
  exec op fate worlds :=
    machine.exec op fate worlds.1 >>= fun first =>
      machine.exec op fate worlds.2 >>= fun second =>
        if first.1 = second.1 then some (first.1, first.2, second.2) else none
  drift change worlds :=
    machine.drift change worlds.1 >>= fun first =>
      (machine.drift change worlds.2).map fun second => (first, second)

variable {machine : Machine Op Reply World Fate Request Result Drift}

theorem exec_paired_eq_some {op : Op} {fate : Fate} {reply : Reply op}
    {worlds after : World × World} :
    machine.paired.exec op fate worlds = some (reply, after) ↔
      machine.exec op fate worlds.1 = some (reply, after.1) ∧
        machine.exec op fate worlds.2 = some (reply, after.2) := by
  constructor
  · intro executed
    obtain ⟨⟨first, one⟩, ranFirst, rest⟩ := Option.bind_eq_some_iff.mp executed
    obtain ⟨⟨second, other⟩, ranSecond, rest⟩ := Option.bind_eq_some_iff.mp rest
    simp only at rest
    split at rest
    · next same =>
      obtain ⟨rfl, rfl⟩ := Prod.mk.inj (Option.some.inj rest)
      exact ⟨ranFirst, same ▸ ranSecond⟩
    · cases rest
  · rintro ⟨first, second⟩
    simp [paired, first, second]

theorem driftAll_paired_eq_some {changes : List Drift}
    {worlds after : World × World} :
    machine.paired.driftAll changes worlds = some after ↔
      machine.driftAll changes worlds.1 = some after.1 ∧
        machine.driftAll changes worlds.2 = some after.2 := by
  induction changes generalizing worlds with
  | nil =>
      simp only [driftAll, Option.some.injEq]
      exact Prod.ext_iff
  | cons change rest ih =>
      constructor
      · intro drifted
        obtain ⟨between, changed, remaining⟩ :=
          Option.bind_eq_some_iff.mp drifted
        obtain ⟨first, changedFirst, rest⟩ := Option.bind_eq_some_iff.mp changed
        obtain ⟨second, changedSecond, rfl⟩ := Option.map_eq_some_iff.mp rest
        obtain ⟨one, other⟩ := ih.mp remaining
        exact ⟨Option.bind_eq_some_iff.mpr ⟨first, changedFirst, one⟩,
          Option.bind_eq_some_iff.mpr ⟨second, changedSecond, other⟩⟩
      · rintro ⟨one, other⟩
        obtain ⟨first, changedFirst, one⟩ := Option.bind_eq_some_iff.mp one
        obtain ⟨second, changedSecond, other⟩ :=
          Option.bind_eq_some_iff.mp other
        refine Option.bind_eq_some_iff.mpr ⟨(first, second), ?_,
          ih.mpr ⟨one, other⟩⟩
        simp [paired, changedFirst, changedSecond]

/-- What the environment decides fits both worlds. -/
def MeetsBoth (condition : World → Op → Fate → Prop) (worlds : World × World)
    (op : Op) (fate : Fate) : Prop :=
  machine.Enabled worlds.1 op fate ∧ condition worlds.1 op fate ∧
    condition worlds.2 op fate

/--
A run in one world has its counterpart in the other, if the program achieves
something on the paired machine.
-/
theorem Achieves.runAlone_paired {condition : World → Op → Fate → Prop}
    {post : World × World → α → Prop} {program : Program Op Reply α}
    {worlds : World × World} {choices : Choices Fate Drift}
    {value : α} {first : World}
    (achieves : machine.paired.Achieves (machine.MeetsBoth condition) post
      program worlds)
    (ran : machine.runAlone program choices worlds.1 = some (value, first))
    (meetsFirst : machine.Meets condition program choices worlds.1)
    (meetsSecond : machine.Meets condition program choices worlds.2) :
    ∃ second, machine.runAlone program choices worlds.2 =
      some (value, second) ∧ post (first, second) value := by
  induction program generalizing choices worlds with
  | done result =>
      obtain ⟨rfl, rfl⟩ := Prod.mk.inj (Option.some.inj ran)
      exact ⟨worlds.2, rfl, achieves⟩
  | perform op next ih =>
      obtain ⟨here, drifted, rest⟩ := Option.bind_eq_some_iff.mp ran
      obtain ⟨⟨reply, after⟩, executed, remaining⟩ :=
        Option.bind_eq_some_iff.mp rest
      obtain ⟨_, again, isMet, meetsFirst⟩ := meetsFirst
      obtain rfl := Option.some.inj (drifted.symm.trans again)
      obtain ⟨there, driftedThere, isMetThere, meetsSecond⟩ := meetsSecond
      obtain ⟨same, afters, pairedStep, achieved⟩ := achieves (choices 0).1
        (here, there) (driftAll_paired_eq_some.mpr ⟨drifted, driftedThere⟩)
        (choices 0).2 ⟨Option.isSome_of_eq_some executed, isMet, isMetThere⟩
      obtain ⟨stepFirst, stepSecond⟩ := exec_paired_eq_some.mp pairedStep
      obtain ⟨rfl, rfl⟩ :=
        Prod.mk.inj (Option.some.inj (executed.symm.trans stepFirst))
      obtain ⟨second, ranSecond, holds⟩ := ih reply achieved remaining
        (meetsFirst _ executed) (meetsSecond _ stepSecond)
      refine ⟨second, ?_, holds⟩
      rw [Machine.runAlone, Option.mem_def.mp driftedThere]
      simpa [stepSecond] using ranSecond

end PaymentPortal.Interaction.Machine
