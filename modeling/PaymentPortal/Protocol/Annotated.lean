import PaymentPortal.Interaction.Chronology
import PaymentPortal.Protocol.UseCases.GetDetails
import PaymentPortal.Protocol.UseCases.InitPayment
import PaymentPortal.Protocol.UseCases.ProcessPayment

/-!
# Annotated runs of the portal

Every request stays within its discipline, so every run of the portal can be
annotated with the stages of its requests.
-/

namespace PaymentPortal.Protocol

open PaymentPortal.Interaction
open PaymentPortal.Model

variable {config : Config}

/-- The sweep is one statement. -/
theorem follows_cancelExpiredTransactions :
    Follows config .cancelExpiredTransactions (fun later _ => later = .reading)
      (Throws .cancelExpiredTransactions) cancelExpiredTransactions
      .reading := by
  refine follows_bind (fun later _ => later = .reading) ?_ ?_
  · refine follows_operation trivial fun reply =>
      ⟨.reading, .sweep, trivial, ?_⟩
    cases reply with
    | error error => exact trivial
    | ok cancelled => exact rfl
  · rintro later cancelled rfl
    exact follows_pure trivial rfl

/-- A response may be returned in the stages the use cases return in. -/
theorem follows_serve (request : Request) :
    Follows config request
      (fun later response => finish request later (.ok response))
      (Throws request) (serve config request) .reading := by
  cases request with
  | initPayment client order =>
      refine Performs.map InitPayment.follows_initPayment ?_
        fun _ _ _ => throws_of_grows
      rintro later current value (rfl | ⟨row, clocks, rfl⟩) grown
      · exact finish_of_grows (.reading) trivial grown
      · exact finish_of_grows (.weighing row clocks) trivial grown
  | processPayment client order =>
      refine Performs.map ProcessPayment.follows_processPayment ?_
        fun _ _ _ => throws_of_grows
      rintro later current value rfl grown
      exact finish_of_grows (.closing) trivial grown
  | getDetails client order =>
      refine Performs.map GetDetails.follows_getDetails ?_
        fun _ _ _ => throws_of_grows
      rintro later current value ⟨rows, answers, rfl⟩ grown
      exact finish_of_grows (.refreshing rows answers) trivial grown
  | cancelExpiredTransactions =>
      refine Performs.map follows_cancelExpiredTransactions ?_
        fun _ _ _ => throws_of_grows
      rintro later current value rfl grown
      exact finish_of_grows (.reading) trivial grown

/-- Every request stays within its discipline. -/
theorem portal_conforms (request : Request) :
    ((portal config).program request).Conforms (discipline config request)
      (finish request) .reading := by
  apply Program.Conforms.mono (follows_serve request)
  rintro later (error | response) ended
  · exact ended
  · exact ended

/-- A state of the portal with the stages of its requests. -/
abbrev Annotated (config : Config) :=
  Phased (discipline config) finish World

/-- The states that runs from the empty database reach. -/
abbrev Reachable (config : Config) (allowed : PortalState → PortalMove → Prop)
    (now : Int) (state : PortalState) : Prop :=
  (portal config).Reaches allowed (.initial (World.fresh now)) state

/-- One move of the portal, with the stages. -/
abbrev AnnotatedStep (config : Config)
    (allowed : PortalState → PortalMove → Prop) :
    Annotated config → Annotated config → Prop :=
  PhasedStep (portal config) .reading .stopped allowed

variable {allowed : PortalState → PortalMove → Prop}

/-- The invariant rule for runs of the portal. -/
theorem exists_annotated {Invariant : Annotated config → Prop} {world : World}
    (initially : Invariant (.initial world))
    (preserved : ∀ source target, Invariant source →
      AnnotatedStep config allowed source target → Invariant target)
    {state : PortalState}
    (reaches : (portal config).Reaches allowed (.initial world) state) :
    ∃ annotated : Annotated config, annotated.state = state ∧
      Invariant annotated :=
  Machine.exists_invariant .stopped portal_conforms initially preserved reaches

end PaymentPortal.Protocol
