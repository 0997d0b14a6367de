import PaymentPortal.Protocol.Learning

/-!
# The invariant of the portal

`Sound` holds of every reachable state with its stages: rows are coherent,
completed tokens belong to claimed rows, every request knows what its stage
says, no two requests own the same attempt, and the log is in order of time.
-/

namespace PaymentPortal.Protocol

open PaymentPortal.Interaction
open PaymentPortal.Model

variable {config : Config}

/-- The invariant of annotated states. -/
structure Sound (annotated : Annotated config) : Prop where
  rows : ∀ row ∈ annotated.state.world.table.rows,
    Coherent config annotated.state.world row
  completed : ∀ completion ∈ annotated.state.world.payGov.completions,
    ∃ row ∈ annotated.state.world.table.rows,
      row.paygovToken = some completion.token ∧ row.Claimed
  knows : ∀ (caller : Nat) call stage,
    annotated.state.calls[caller]? = some call →
    annotated.phases[caller]? = some stage →
      Knows annotated.state.world call.request stage
  owners : ∀ (first second : Nat) firstStage secondStage id,
    annotated.phases[first]? = some firstStage →
    annotated.phases[second]? = some secondStage →
    Owns firstStage id → Owns secondStage id → first = second
  chronological : annotated.state.Chronological

theorem sound_initial (now : Int) :
    Sound (.initial (World.fresh now) : Annotated config) where
  rows := fun row member =>
    absurd member (by simp [Phased.initial, State.initial, World.fresh,
      Table.empty])
  completed := fun completion member =>
    absurd member (by simp [Phased.initial, State.initial, World.fresh,
      PayGov.empty])
  knows := fun caller call stage present =>
    absurd present (by simp [Phased.initial, State.initial])
  owners := fun first second firstStage secondStage id holds =>
    absurd holds (by simp [Phased.initial])
  chronological := .initial _

variable {allowed : PortalState → PortalMove → Prop}
variable {source target : Annotated config}

/-- Some request has the knowledge of the stage. -/
theorem Sound.exists_knows (sound : Sound source) {caller : Nat} {stage : Stage}
    (holds : source.phases[caller]? = some stage) :
    ∃ request, Knows source.state.world request stage := by
  obtain ⟨inPhases, _⟩ := List.getElem?_eq_some_iff.mp holds
  have inCalls : caller < source.state.calls.length :=
    source.length_eq.symm ▸ inPhases
  exact ⟨_, sound.knows caller _ stage (List.getElem?_eq_getElem inCalls)
    holds⟩

/-- An owned attempt is in the table. -/
theorem Sound.exists_owned (sound : Sound source) {caller : Nat} {stage : Stage}
    {id : String} (holds : source.phases[caller]? = some stage)
    (owns : Owns stage id) :
    ∃ row ∈ source.state.world.table.rows, row.agencyTrackingId = id := by
  obtain ⟨data, owned, rfl⟩ := owns
  obtain ⟨request, knows⟩ := sound.exists_knows holds
  exact knows.exists_owned owned

/-! ## One operation -/

section Perform

variable {caller : Nat} {request : Request} {op : Op}
variable {next : Reply op → Program Op Reply Outcome} {reply : Reply op}
variable {world : World} {fate : Fate} {stage after : Stage}

/-- The operation of a request is a step of the world. -/
theorem Sound.worldStep (sound : Sound source)
    (running : source.state.calls[caller]? =
      some ⟨request, some (.perform op next)⟩)
    (holds : source.phases[caller]? = some stage)
    (executed : exec config.xmlFormats op fate source.state.world =
      some (reply, world))
    (moved : Permitted config request stage op reply after) :
    WorldStep config (Owns stage) (some op) source.state.world world :=
  worldStep_of_exec sound.rows (sound.knows caller _ stage running holds) moved
    executed

/-- Other requests keep their knowledge. -/
theorem Sound.knows_other (sound : Sound source)
    (step : WorldStep config (Owns stage) (some op) source.state.world world)
    (holds : source.phases[caller]? = some stage)
    {other : Nat} {call : Call Op Reply Request Outcome} {otherStage : Stage}
    (different : other ≠ caller)
    (present : source.state.calls[other]? = some call)
    (otherHolds : source.phases[other]? = some otherStage) :
    Knows world call.request otherStage := by
  refine (sound.knows other call otherStage present otherHolds).mono
    (step.le sound.rows) fun data owned untouched => ?_
  refine step.untouched sound.rows ?_ untouched
  intro owns
  exact different (sound.owners other caller otherStage stage _ otherHolds
    holds ⟨data, owned, rfl⟩ owns)

end Perform

/-! ## One move -/

/-- Stages that own nothing and claim no knowledge may appear at any time. -/
theorem Sound.quiet (sound : Sound source)
    (step : WorldStep config (fun _ => False) none source.state.world
      target.state.world)
    (callers : ∀ (caller : Nat) call stage,
      target.state.calls[caller]? = some call →
      target.phases[caller]? = some stage →
      stage = .reading ∨ stage = .stopped ∨
        ∃ earlier, source.state.calls[caller]? = some earlier ∧
          earlier.request = call.request ∧
          source.phases[caller]? = some stage)
    (chronological : target.state.Chronological) : Sound target where
  rows := step.coherent sound.rows
  completed := step.completed sound.rows sound.completed
  knows := by
    intro caller call stage present holds
    rcases callers caller call stage present holds with
      rfl | rfl | ⟨earlier, was, same, held⟩
    · trivial
    · trivial
    · rw [← same]
      exact (sound.knows caller earlier stage was held).mono
        (step.le sound.rows) fun data _ untouched =>
          step.untouched sound.rows id untouched
  owners := by
    have earlier : ∀ (caller : Nat) stage id,
        target.phases[caller]? = some stage → Owns stage id →
        source.phases[caller]? = some stage := by
      rintro caller stage id holds ⟨data, owned, _⟩
      obtain ⟨inPhases, _⟩ := List.getElem?_eq_some_iff.mp holds
      have inCalls : caller < target.state.calls.length :=
        target.length_eq.symm ▸ inPhases
      rcases callers caller _ stage (List.getElem?_eq_getElem inCalls) holds
        with rfl | rfl | ⟨_, _, _, held⟩
      · exact absurd owned (by simp [Stage.owned?])
      · exact absurd owned (by simp [Stage.owned?])
      · exact held
    intro first second firstStage secondStage id firstHolds secondHolds
      firstOwns secondOwns
    exact sound.owners first second firstStage secondStage id
      (earlier first firstStage id firstHolds firstOwns)
      (earlier second secondStage id secondHolds secondOwns)
      firstOwns secondOwns
  chronological := chronological

/-- An operation keeps the invariant. -/
theorem Sound.perform (sound : Sound source) {caller : Nat} {fate : Fate}
    {request : Request} {op : Op}
    {next : Reply op → Program Op Reply Outcome} {reply : Reply op}
    {world : World} {stage after : Stage}
    (running : source.state.calls[caller]? =
      some ⟨request, some (.perform op next)⟩)
    (holds : source.phases[caller]? = some stage)
    (executed : exec config.xmlFormats op fate source.state.world =
      some (reply, world))
    (moved : Permitted config request stage op reply after)
    (state_eq : target.state = {
      world := world
      calls := source.state.calls.set caller ⟨request, some (next reply)⟩
      log := ⟨caller, op, reply, source.state.world, world⟩ ::
        source.state.log })
    (phases_eq : target.phases = source.phases.set caller after) :
    Sound target := by
  have step := sound.worldStep running holds executed moved
  have upwards := step.le sound.rows
  have known := sound.knows caller _ stage running holds
  refine {
    rows := by
      rw [state_eq]
      exact step.coherent sound.rows
    completed := by
      rw [state_eq]
      exact step.completed sound.rows sound.completed
    knows := ?_
    owners := ?_
    chronological := sound.chronological.logged (by rw [state_eq]) rfl
      (by rw [state_eq]) (by rw [state_eq]; exact upwards) }
  · intro other call otherStage present otherHolds
    rw [state_eq] at present ⊢
    rw [phases_eq] at otherHolds
    rcases getElem?_set_pair_cases present otherHolds with
      ⟨rfl, rfl, rfl⟩ | ⟨different, otherCall, wasStage⟩
    · exact knows_of_permitted sound.rows known upwards moved executed
    · exact sound.knows_other step holds different otherCall wasStage
  · -- An attempt that becomes owned is new, so no other request owns it.
    have fresh : ∀ (other : Nat) otherStage id, other ≠ caller →
        source.phases[other]? = some otherStage → Owns otherStage id →
        ¬ Owns after id := by
      intro other otherStage id different otherHolds otherOwns owns
      rcases owns_of_permitted moved executed owns with before | new
      · exact different
          (sound.owners other caller _ _ id otherHolds holds otherOwns before)
      · obtain ⟨row, member, isId⟩ := sound.exists_owned otherHolds otherOwns
        exact new row member isId
    rw [phases_eq]
    exact owners_of_move (fun _ _ => getElem?_set_cases) sound.owners fresh

/-- Every move of the portal keeps the invariant. -/
theorem Sound.step (sound : Sound source)
    (step : AnnotatedStep config allowed source target) : Sound target := by
  cases step with
  | arrive request permitted state_eq phases_eq =>
      refine sound.quiet (by rw [state_eq]; exact .refl _) ?_
        (sound.chronological.later (by rw [state_eq]) (by rw [state_eq]))
      intro caller call stage present holds
      rw [state_eq] at present
      rw [phases_eq] at holds
      rcases getElem?_append_pair_cases source.length_eq present holds with
        ⟨_, _, isStart⟩ | ⟨was, held⟩
      · exact .inl isStart
      · exact .inr (.inr ⟨call, was, rfl, held⟩)
  | perform caller fate request op next reply world stage after permitted
      running holds executed moved state_eq phases_eq =>
      exact sound.perform running holds executed moved state_eq phases_eq
  | crash caller request op next permitted running state_eq phases_eq =>
      refine sound.quiet (by rw [state_eq]; exact .refl _) ?_
        (sound.chronological.later (by rw [state_eq]) (by rw [state_eq]))
      intro other call stage present holds
      rw [state_eq] at present
      rw [phases_eq] at holds
      rcases getElem?_set_pair_cases present holds with
        ⟨_, _, isEnded⟩ | ⟨_, was, held⟩
      · exact .inr (.inl isEnded)
      · exact .inr (.inr ⟨call, was, rfl, held⟩)
  | drift change world permitted drifted state_eq phases_eq =>
      have step : WorldStep config (fun _ => False) none source.state.world
          target.state.world := by
        rw [state_eq]
        exact worldStep_of_drift drifted
      refine sound.quiet step ?_
        (sound.chronological.later (by rw [state_eq]) (step.le sound.rows))
      intro caller call stage present holds
      rw [state_eq] at present
      rw [phases_eq] at holds
      exact .inr (.inr ⟨call, present, rfl, holds⟩)

/-- The invariant holds of some annotation of every reachable state. -/
theorem exists_sound {now : Int} {state : PortalState}
    (reaches : Reachable config allowed now state) :
    ∃ annotated : Annotated config, annotated.state = state ∧
      Sound annotated :=
  exists_annotated (sound_initial now) (fun _ _ sound step => sound.step step)
    reaches

end PaymentPortal.Protocol
