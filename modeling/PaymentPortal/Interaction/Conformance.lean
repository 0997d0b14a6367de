import PaymentPortal.Interaction.Program

/-!
# Conformance of programs to a local discipline

A discipline is a labelled transition system on phases: in a given phase it
permits an operation with a reply and says in which phase the caller is
afterwards.  `Program.Conforms` states that a program performs only permitted
operations, whatever the replies are.  A phase records what the caller has
learnt from the replies so far, so conformance reduces a tree of operations to
a small automaton.

`grows` lets a phase be shared by several interleaved programs of one caller:
between two operations of one of them the others may have moved the phase on.
-/

namespace PaymentPortal.Interaction

/-- The operations a caller may perform in each phase. -/
structure Discipline (Op : Type) (Reply : Op → Type) (Phase : Type) where
  step : Phase → (op : Op) → Reply op → Phase → Prop
  grows : Phase → Phase → Prop
  grows_refl : ∀ phase, grows phase phase
  grows_trans :
    ∀ {first second third}, grows first second → grows second third →
      grows first third

namespace Program

variable {Op : Type} {Reply : Op → Type} {Phase α β γ : Type}

/--
Every operation of the program is permitted in the phase reached so far, and
the value it ends with satisfies `finish` in the final phase.
-/
def Conforms (discipline : Discipline Op Reply Phase)
    (finish : Phase → α → Prop) : Program Op Reply α → Phase → Prop
  | .done value, phase =>
      ∀ later, discipline.grows phase later → finish later value
  | .perform op next, phase =>
      ∀ current, discipline.grows phase current → ∀ reply,
        ∃ after, discipline.step current op reply after ∧
          (next reply).Conforms discipline finish after

variable {discipline : Discipline Op Reply Phase}

theorem Conforms.mono {finish weaker : Phase → α → Prop}
    {program : Program Op Reply α} {phase : Phase}
    (conforms : program.Conforms discipline finish phase)
    (implies : ∀ later value, finish later value → weaker later value) :
    program.Conforms discipline weaker phase := by
  induction program generalizing phase with
  | done value =>
      intro later grown
      exact implies later value (conforms later grown)
  | perform op next ih =>
      intro current grown reply
      obtain ⟨after, permitted, rest⟩ := conforms current grown reply
      exact ⟨after, permitted, ih reply rest⟩

theorem Conforms.later {finish : Phase → α → Prop}
    {program : Program Op Reply α} {phase grown : Phase}
    (conforms : program.Conforms discipline finish phase)
    (growth : discipline.grows phase grown) :
    program.Conforms discipline finish grown := by
  cases program with
  | done value =>
      intro later further
      exact conforms later (discipline.grows_trans growth further)
  | perform op next =>
      intro current further reply
      exact conforms current (discipline.grows_trans growth further) reply

theorem Conforms.bind (middle : Phase → α → Prop) {finish : Phase → β → Prop}
    {program : Program Op Reply α} {next : α → Program Op Reply β}
    {phase : Phase}
    (first : program.Conforms discipline middle phase)
    (rest : ∀ later value, middle later value →
      (next value).Conforms discipline finish later) :
    (program >>= next).Conforms discipline finish phase := by
  induction program generalizing phase with
  | done value =>
      exact rest phase value (first phase (discipline.grows_refl phase))
  | perform op after ih =>
      intro current grown reply
      obtain ⟨reached, permitted, remaining⟩ := first current grown reply
      exact ⟨reached, permitted, ih reply remaining⟩

/-! ## Parallel composition -/

section Parallel

variable {pick : Op} {goesLeft : Reply pick → Bool} {base : Phase}

/-- A program that runs alone ends in a phase that has grown. -/
private theorem Conforms.wrapped
    (expands : ∀ current, discipline.grows base current →
      ∀ op reply after, discipline.step current op reply after →
        discipline.grows current after)
    (wrap : α → γ) {program : Program Op Reply α} {phase : Phase}
    (reached : discipline.grows base phase)
    (conforms : program.Conforms discipline (fun _ _ => True) phase) :
    (program.bind fun value => Program.done (wrap value)).Conforms
      discipline (fun later _ => discipline.grows base later) phase := by
  induction program generalizing phase with
  | done value =>
      intro later further
      exact discipline.grows_trans reached further
  | perform op next ih =>
      intro current further reply
      obtain ⟨after, permitted, rest⟩ := conforms current further reply
      have here := discipline.grows_trans reached further
      exact ⟨after, permitted, ih reply
        (discipline.grows_trans here
          (expands current here op reply after permitted)) rest⟩

private theorem mergeRight_conforms
    (silent : ∀ current, discipline.grows base current → ∀ choice,
      discipline.step current pick choice current)
    (expands : ∀ current, discipline.grows base current →
      ∀ op reply after, discipline.step current op reply after →
        discipline.grows current after)
    (op : Op) (next : Reply op → Program Op Reply α)
    (left : Reply op → Program Op Reply β → Program Op Reply (α × β))
    (leftConforms : ∀ reply phase, discipline.grows base phase →
      (next reply).Conforms discipline (fun _ _ => True) phase →
      ∀ right : Program Op Reply β,
        right.Conforms discipline (fun _ _ => True) phase →
        (left reply right).Conforms discipline
          (fun later _ => discipline.grows base later) phase)
    (right : Program Op Reply β) (phase : Phase)
    (grown : discipline.grows base phase)
    (firstConforms :
      (Program.perform op next).Conforms discipline (fun _ _ => True) phase)
    (rightConforms : right.Conforms discipline (fun _ _ => True) phase) :
    (mergeRight pick goesLeft op next left right).Conforms discipline
      (fun later _ => discipline.grows base later) phase := by
  induction right generalizing phase with
  | done value =>
      exact firstConforms.wrapped expands (fun first => (first, value)) grown
  | perform op' next' ih =>
      intro current further choice
      have here := discipline.grows_trans grown further
      refine ⟨current, silent current here choice, ?_⟩
      by_cases moved : goesLeft choice = true
      · simp only [moved, if_true]
        intro current' further' reply
        obtain ⟨after, permitted, rest⟩ :=
          firstConforms current' (discipline.grows_trans further further') reply
        have there := discipline.grows_trans here further'
        have expanded := expands current' there op reply after permitted
        refine ⟨after, permitted, leftConforms reply after
          (discipline.grows_trans there expanded) rest _ ?_⟩
        exact rightConforms.later (discipline.grows_trans further
          (discipline.grows_trans further' expanded))
      · simp only [moved]
        intro current' further' reply
        obtain ⟨after, permitted, rest⟩ :=
          rightConforms current' (discipline.grows_trans further further') reply
        have there := discipline.grows_trans here further'
        have expanded := expands current' there op' reply after permitted
        refine ⟨after, permitted, ih reply after
          (discipline.grows_trans there expanded) ?_ rest⟩
        exact firstConforms.later (discipline.grows_trans further
          (discipline.grows_trans further' expanded))

/--
Two conforming programs conform when interleaved, provided that from `base` on
every permitted operation only lets the phase grow and that the scheduler
leaves it unchanged.
-/
theorem Conforms.interleave
    (silent : ∀ current, discipline.grows base current → ∀ choice,
      discipline.step current pick choice current)
    (expands : ∀ current, discipline.grows base current →
      ∀ op reply after, discipline.step current op reply after →
        discipline.grows current after)
    {left : Program Op Reply α} {right : Program Op Reply β} {phase : Phase}
    (grown : discipline.grows base phase)
    (leftConforms : left.Conforms discipline (fun _ _ => True) phase)
    (rightConforms : right.Conforms discipline (fun _ _ => True) phase) :
    (interleave pick goesLeft left right).Conforms discipline
      (fun later _ => discipline.grows base later) phase := by
  induction left generalizing right phase with
  | done value =>
      exact rightConforms.wrapped expands (fun second => (value, second)) grown
  | perform op next ih =>
      refine mergeRight_conforms silent expands op next _ ?_ right phase grown
        leftConforms rightConforms
      intro reply later reached conforms other otherConforms
      exact ih reply reached conforms otherConforms

/-- A list of conforming programs conforms when its members run concurrently. -/
theorem Conforms.gather
    (silent : ∀ current, discipline.grows base current → ∀ choice,
      discipline.step current pick choice current)
    (expands : ∀ current, discipline.grows base current →
      ∀ op reply after, discipline.step current op reply after →
        discipline.grows current after)
    {programs : List (Program Op Reply α)}
    (conforms : ∀ program ∈ programs,
      program.Conforms discipline (fun _ _ => True) base) :
    (gather pick goesLeft programs).Conforms discipline
      (fun later _ => discipline.grows base later) base := by
  induction programs with
  | nil =>
      intro later grown
      exact grown
  | cons program rest ih =>
      have headConforms := conforms program List.mem_cons_self
      have tailConforms := ih fun other member =>
        conforms other (List.mem_cons_of_mem _ member)
      refine Conforms.bind (fun later _ => discipline.grows base later)
        (Conforms.interleave silent expands (discipline.grows_refl base)
          headConforms (tailConforms.mono fun _ _ _ => trivial)) ?_
      intro later values reached further grown
      exact discipline.grows_trans reached grown

end Parallel

end Program

end PaymentPortal.Interaction
