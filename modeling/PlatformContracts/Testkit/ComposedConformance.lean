import PlatformContracts.Testkit.ComposedSuites
import PlatformContracts.Testkit.LifecycleConformance
import PlatformContracts.Testkit.TransitionChain

/-!
# Conforming adapters pass the composed suites

* `reference_sequential`, `reference_terminalAuthority`: the reference adapter passes the suites of
  one thread, and the one with a race under every schedule.
* `orReturn_follows`, …: the methods of the impls and the statements of the suites follow when the
  adapters do.
* `composed_suites_conform`: adapters that follow the reference adapter get all the evidence.
-/

namespace Platform
namespace Testkit

open Exec

namespace ComposedSuites

open PublicationSuite (assertEq scenario)
open LifecycleSuite

/-! ## The reference adapter -/

theorem reference_sequential : Passes (registryIdentity referenceAdapter) ∧
    Passes (consumerCancellation referenceAdapter) ∧ Passes (waiterControl referenceAdapter) ∧
    Passes (taskReaping referenceAdapter) ∧
    Passes (TransitionChain.transitionChain referenceAdapter.transitionChain) := by
  decide +kernel

theorem reference_terminalAuthority (schedule : List Bool) :
    Passes (terminalAuthority referenceAdapter schedule) := by
  have h : ∀ schedule ∈ shortSchedules 2,
      Passes (terminalAuthority referenceAdapter schedule) := by
    decide +kernel
  have htake := fun lease => raceJoin_take schedule
    (terminalThread_atMost referenceAdapter lease .cancelled)
    (terminalThread_atMost referenceAdapter lease .completed) "cancel racer" "complete racer"
  unfold terminalAuthority
  simp only [htake]
  exact h _ (mem_shortSchedules (List.length_take_le 2 schedule))

/-! ## Adapters that follow each other -/

section Follows

variable {σ τ Error Error' Ticket Ticket' Lease Lease' α α' β β' : Type} {R : σ → τ → Prop}
  {T : Ticket → Ticket' → Prop} {L : Lease → Lease' → Prop}
  {adapter : OperationModelAdapter σ Error Ticket Lease}
  {adapter' : OperationModelAdapter τ Error' Ticket' Lease'}
  {ticket : Ticket} {ticket' : Ticket'} {lease : Lease} {lease' : Lease'}

theorem orReturn_follows {V : α → α' → Prop} {W : β → β' → Prop}
    {call : Callback σ (Except Error α)} {call' : Callback τ (Except Error' α')}
    {next : α → Callback σ (Except Error β)} {next' : α' → Callback τ (Except Error' β')}
    (h : call.Follows R (Answers V) call')
    (hn : ∀ a a', V a a' → (next a).Follows R (Answers W) (next' a')) :
    (orReturn call next).Follows R (Answers W) (orReturn call' next') := by
  refine h.bind fun r r' hr => ?_
  cases hr with
  | ok hv => exact hn _ _ hv
  | error => exact .pure .error

theorem startReference_follows (h : adapter.Follows R T L adapter') (operationId : String) :
    (startReference adapter operationId).Follows R (Answers fun x x' => T x.1 x'.1 ∧ L x.2 x'.2)
      (startReference adapter' operationId) := by
  refine orReturn_follows (h.reserve operationId) fun x x' hx => ?_
  refine (orReturn_follows (h.queue hx.2) fun _ _ _ => h.start hx.2).bind fun r r' hr => ?_
  cases hr with
  | ok => exact .pure (.ok hx)
  | error => exact .seq (h.dropTicket hx.1) (.pure .error)

theorem finishReference_follows (h : adapter.Follows R T L adapter') (hl : L lease lease')
    (termClass : TerminalClass) : (finishReference adapter lease termClass).Follows R
      (Answers (· = ·)) (finishReference adapter' lease' termClass) :=
  orReturn_follows (h.terminal hl termClass) fun _ _ _ => h.release hl

theorem completeAndRelease_follows (h : adapter.Follows R T L adapter') (hl : L lease lease') :
    (completeAndRelease adapter lease).Follows R (Answers (· = ·))
      (completeAndRelease adapter' lease') :=
  orReturn_follows (h.queue hl) fun _ _ _ => orReturn_follows (h.start hl) fun _ _ _ =>
    finishReference_follows h hl .completed

theorem currentIdentity_follows (h : adapter.Follows R T L adapter') (operationId : String) :
    (currentIdentity adapter operationId).Follows R (· = ·)
      (currentIdentity adapter' operationId) := by
  refine (h.currentSnapshot operationId).bind ?_
  rintro snapshot _ rfl
  exact .pure rfl

theorem cancellationRequested_follows (h : adapter.Follows R T L adapter')
    (hl : L lease lease') : (cancellationRequested adapter lease).Follows R (· = ·)
      (cancellationRequested adapter' lease') := by
  refine (h.leaseSnapshot hl).bind ?_
  rintro snapshot _ rfl
  exact .pure rfl

theorem finish_follows {operation : Ticket × Lease} {operation' : Ticket' × Lease'}
    (h : adapter.Follows R T L adapter') (ht : T operation.1 operation'.1)
    (hl : L operation.2 operation'.2) :
    (finish adapter operation).Follows R (Answers (· = ·)) (finish adapter' operation') :=
  (finishReference_follows h hl .completed).bind fun _ _ hr => .seq (h.dropTicket ht) (.pure hr)

/-! ## The suites -/

theorem registryIdentity_follows (h : adapter.Follows R T L adapter') :
    (registryIdentity adapter).Follows (· = ·) (· = ·) (registryIdentity adapter') := by
  refine .seq (scenario_follows (h.deterministic _) ?_) (scenario_follows (h.deterministic _) ?_)
  · refine (expectCall_follows (h.reserve _) _).bind ?_
    rintro ⟨firstGuard, first⟩ ⟨firstGuard', first'⟩ ⟨ht, hl⟩
    refine .seq (assertRefused_follows h _ _) <| h.activeCount.bind ?_
    rintro active _ rfl
    refine .seq (assertEq_follows _ _) <| (h.leaseIdentity hl).bind ?_
    rintro firstIdentity _ rfl
    refine .seq (expectCall_follows (completeAndRelease_follows h hl) _) <|
      .seq (h.dropTicket ht) <| (expectCall_follows (h.reserve _) _).bind ?_
    rintro ⟨currentGuard, current⟩ ⟨currentGuard', current'⟩ ⟨ht', hl'⟩
    refine (h.leaseIdentity hl').bind ?_
    rintro identity _ rfl
    refine .seq (.assert id _) <| .seq (assertEq_follows _ _) <| .seq (.assert id _) <|
      .seq (assertErr_follows (completeAndRelease_follows h hl) _) <|
      (currentIdentity_follows h _).bind ?_
    rintro found _ rfl
    exact .seq (assertEq_follows _ _) <|
      .seq (expectCall_follows (completeAndRelease_follows h hl') _) <| h.dropTicket ht'
  · refine .seq (assertRefused_follows h _ _) <| h.activeCount.bind ?_
    rintro active _ rfl
    exact assertEq_follows _ _

theorem assertConsumerGone_follows (h : adapter.Follows R T L adapter') (hl : L lease lease')
    (operationId : String) (identity : AttemptIdentity) (message : String) :
    (assertConsumerGone adapter operationId lease identity message).Follows R (· = ·)
      (assertConsumerGone adapter' operationId lease' identity message) := by
  refine h.activeCount.bind ?_
  rintro active _ rfl
  refine .seq (assertEq_follows _ _) <| (currentIdentity_follows h _).bind ?_
  rintro current _ rfl
  refine .seq (assertEq_follows _ _) <| (h.leaseSnapshot hl).bind ?_
  rintro snapshot _ rfl
  refine .seq (assertEq_follows _ _) <| (cancellationRequested_follows h hl).bind ?_
  rintro requested _ rfl
  exact .seq (.assert id _) <| expectCall_follows (finishReference_follows h hl .cancelled) _

theorem consumerCancellation_follows (h : adapter.Follows R T L adapter') :
    (consumerCancellation adapter).Follows (· = ·) (· = ·) (consumerCancellation adapter') := by
  refine scenario_follows (h.deterministic _)
    ((expectCall_follows (startReference_follows h _) _).bind ?_)
  rintro ⟨ticket, lease⟩ ⟨ticket', lease'⟩ ⟨ht, hl⟩
  refine (h.ticketIdentity ht).bind ?_
  rintro ticketIdentity _ rfl
  refine (h.leaseIdentity hl).bind ?_
  rintro leaseIdentity _ rfl
  refine .seq (assertEq_follows _ _) <| (h.leaseIdentity hl).bind ?_
  rintro identity _ rfl
  refine .seq (h.dropTicket ht) <| .seq (assertConsumerGone_follows h hl _ _ _) <|
    (expectCall_follows (startReference_follows h _) _).bind ?_
  rintro ⟨second, secondLease⟩ ⟨second', secondLease'⟩ ⟨ht', hl'⟩
  refine (h.leaseIdentity hl').bind ?_
  rintro secondIdentity _ rfl
  exact .seq (expectCall_follows (h.consumerDrop ht') _) <| assertConsumerGone_follows h hl' _ _ _

theorem assertTerminal_follows (snapshot : OperationSnapshot) (expected : TerminalClass) :
    (assertTerminal snapshot expected : Callback σ Unit).Follows R (· = ·)
      (assertTerminal snapshot expected : Callback τ Unit) := by
  refine .seq (assertEq_follows _ _) <|
    (Follows.expect (fun record hr => ⟨record, hr, rfl⟩) _).bind ?_
  rintro authoritative _ rfl
  refine (Follows.expect (fun record hr => ⟨record, hr, rfl⟩) _).bind ?_
  rintro finalProjection _ rfl
  exact .seq (assertEq_follows _ _) <| assertEq_follows _ _

theorem terminalAuthority_follows (h : adapter.Follows R T L adapter') (schedule : List Bool) :
    (terminalAuthority adapter schedule).Follows (· = ·) (· = ·)
      (terminalAuthority adapter' schedule) := by
  refine scenario_follows (h.deterministic _)
    ((expectCall_follows (startReference_follows h _) _).bind ?_)
  rintro ⟨guard, lease⟩ ⟨guard', lease'⟩ ⟨ht, hl⟩
  refine .seq (expectCall_follows (h.terminal hl _) _) <|
    (expectSome_follows (h.leaseSnapshot hl) _).bind ?_
  rintro snapshot _ rfl
  refine .seq (assertTerminal_follows _ _) <| .seq (assertErr_follows (h.terminal hl _) _) <|
    (h.leaseSnapshot hl).bind ?_
  rintro found _ rfl
  refine .seq (assertEq_follows _ _) <| .seq (expectCall_follows (h.release hl) _) <|
    (expectCall_follows (startReference_follows h _) _).bind ?_
  rintro ⟨raceGuard, raceLease⟩ ⟨raceGuard', raceLease'⟩ ⟨ht', hl'⟩
  refine (raceJoin_follows _ _ (terminalThread_follows h hl' .cancelled)
    (terminalThread_follows h hl' .completed)).bind ?_
  rintro ⟨cancelWon, completeWon⟩ ⟨_, _⟩ ⟨rfl, rfl⟩
  refine .seq (.assert id _) <| (expectSome_follows (h.leaseSnapshot hl') _).bind ?_
  rintro snapshot _ rfl
  exact .seq (assertTerminal_follows _ _) <| .seq (expectCall_follows (h.release hl') _) <|
    .seq (h.dropTicket ht') <| h.dropTicket ht

theorem waiterControl_follows (h : adapter.Follows R T L adapter') :
    (waiterControl adapter).Follows (· = ·) (· = ·) (waiterControl adapter') := by
  refine scenario_follows (h.deterministic _)
    ((expectCall_follows (startReference_follows h _) _).bind ?_)
  rintro ⟨ticket, lease⟩ ⟨ticket', lease'⟩ ⟨ht, hl⟩
  refine (expectSome_follows (h.leaseSnapshot hl) _).bind ?_
  rintro before _ rfl
  refine .seq (assertEq_follows _ _) <| .seq (.assert id _) <| .seq (.assert id _) <|
    (expectCall_follows (h.waiterTimeout ht) _).bind ?_
  rintro observation _ rfl
  refine .seq (assertEq_follows _ _) <| (h.leaseSnapshot hl).bind ?_
  rintro found _ rfl
  refine .seq (assertEq_follows _ _) <| .seq (expectCall_follows (h.requestCancel ht) _) <|
    (expectSome_follows (h.leaseSnapshot hl) _).bind ?_
  rintro snapshot _ rfl
  exact .seq (.assert id _) <|
    .seq (expectCall_follows (finishReference_follows h hl .cancelled) _) <| h.dropTicket ht

theorem assertReaped_follows (h : adapter.Follows R T L adapter') :
    (assertReaped adapter).Follows R (· = ·) (assertReaped adapter') := by
  refine h.retainedTaskCount.bind ?_
  rintro retained _ rfl
  refine h.activeCount.bind ?_
  rintro active _ rfl
  exact .assert id _

theorem assertIdle_follows (h : adapter.Follows R T L adapter') :
    (assertIdle adapter).Follows R (· = ·) (assertIdle adapter') := by
  refine h.activeCount.bind ?_
  rintro active _ rfl
  refine .seq (assertEq_follows _ _) <| h.retainedTaskCount.bind ?_
  rintro retained _ rfl
  exact assertEq_follows _ _

theorem startConcurrent_follows (h : adapter.Follows R T L adapter') (n : Nat) :
    (startConcurrent adapter n).Follows R (List.Forall₂ fun x x' => T x.1 x'.1 ∧ L x.2 x'.2)
      (startConcurrent adapter' n) := by
  induction n with
  | zero => exact .pure .nil
  | succ n ih =>
    refine ih.bind fun active active' hactive => ?_
    refine (expectCall_follows (startReference_follows h _) _).bind fun op op' hop => ?_
    refine h.activeCount.bind ?_
    rintro count _ rfl
    exact .seq (assertEq_follows _ _) <| .seq (assertReaped_follows h) <|
      .pure (.cons hop hactive)

theorem finishAll_follows (h : adapter.Follows R T L adapter') {active : List (Ticket × Lease)}
    {active' : List (Ticket' × Lease')}
    (hactive : List.Forall₂ (fun x x' => T x.1 x'.1 ∧ L x.2 x'.2) active active') :
    (finishAll adapter active).Follows R (· = ·) (finishAll adapter' active') := by
  induction hactive with
  | nil => exact .pure rfl
  | cons hop _ ih =>
    exact .seq (expectCall_follows (finish_follows h hop.1 hop.2) _) <|
      .seq (assertReaped_follows h) ih

theorem historical_follows (h : adapter.Follows R T L adapter') (n : Nat) :
    (historical adapter n).Follows R (· = ·) (historical adapter' n) := by
  induction n with
  | zero => exact .pure rfl
  | succ n ih =>
    refine .seq ih <| (expectCall_follows (startReference_follows h _) _).bind fun op op' hop => ?_
    exact .seq (expectCall_follows (finish_follows h hop.1 hop.2) _) <| assertIdle_follows h

theorem taskReaping_follows (h : adapter.Follows R T L adapter') :
    (taskReaping adapter).Follows (· = ·) (· = ·) (taskReaping adapter') := by
  refine scenario_follows (h.deterministic _) <|
    (startConcurrent_follows h 8).bind fun active active' hactive => ?_
  exact .seq (finishAll_follows h hactive) <| .seq (assertIdle_follows h) <|
    .seq (historical_follows h 32) <| closed_follows h

theorem transitionChain_follows (h : adapter.Follows R T L adapter') :
    (TransitionChain.transitionChain adapter.transitionChain).Follows (· = ·) (· = ·)
      (TransitionChain.transitionChain adapter'.transitionChain) := by
  refine scenario_follows (h.deterministic _) ((expectCall_follows (h.reserve _) _).bind ?_)
  rintro ⟨ticket, lease⟩ ⟨ticket', lease'⟩ ⟨-, hl⟩
  have phase : ∀ expected, (TransitionChain.assertPhase adapter.transitionChain (ticket, lease)
      expected).Follows R (· = ·)
      (TransitionChain.assertPhase adapter'.transitionChain (ticket', lease') expected) := by
    intro expected
    refine ((h.leaseSnapshot hl).bind ?_ : (adapter.transitionChain.phase (ticket, lease)).Follows
      R (· = ·) (adapter'.transitionChain.phase (ticket', lease'))).bind ?_
    · rintro snapshot _ rfl
      exact .pure rfl
    · rintro found _ rfl
      exact assertEq_follows _ _
  have queue := h.queue hl
  have start := h.start hl
  have completed := h.terminal hl .completed
  have failed := h.terminal hl .failed
  have release := h.release hl
  exact .seq (phase _) <| .seq (assertErr_follows start _) <|
    .seq (assertErr_follows release _) <| .seq (assertErr_follows completed _) <|
    .seq (expectCall_follows queue _) <| .seq (phase _) <|
    .seq (assertErr_follows queue _) <| .seq (assertErr_follows release _) <|
    .seq (assertErr_follows completed _) <|
    .seq (expectCall_follows start _) <| .seq (phase _) <|
    .seq (assertErr_follows start _) <| .seq (assertErr_follows queue _) <|
    .seq (assertErr_follows release _) <|
    .seq (expectCall_follows completed _) <| .seq (phase _) <|
    .seq (assertErr_follows failed _) <| .seq (assertErr_follows queue _) <|
    .seq (assertErr_follows start _) <|
    .seq (expectCall_follows release _) <| .seq (phase _) <|
    .seq (assertErr_follows release _) <| .seq (assertErr_follows queue _) <|
    .seq (assertErr_follows start _) <| assertErr_follows failed _

end Follows

/-! ## The evidence -/

/-- Whatever its component, the suite ends with what `passed` gives it, which is evidence of a
runner. -/
structure Mints {lifecycle : LifecycleImplementation}
    (run : String → Callback Unit (CoverageEvidence lifecycle)) (suite : String)
    (invariants : List LifecycleInvariant) : Prop where
  passed : ∀ component,
    (run component).on () = (CoverageEvidence.passed component suite invariants, ())
  minted : ∀ component item, ((run component).on ()).1 = .ok item → item.Minted

theorem mints_of_follows {lifecycle : LifecycleImplementation}
    {statements statements' : Callback Unit Unit} {suite : String}
    {invariants : List LifecycleInvariant}
    (hm : (suite, invariants) ∈ mintedSuites)
    (h : statements.Follows (· = ·) (· = ·) statements') (hp : Passes statements') :
    Mints (fun component => (minting statements component suite invariants :
      Callback Unit (CoverageEvidence lifecycle))) suite invariants := by
  obtain ⟨⟨⟩, ⟨⟩, hon, -⟩ := h () () rfl () () (passes_iff.mp hp)
  refine ⟨fun component => minting_on hon component suite invariants, fun component item hi => ?_⟩
  rw [minting_on hon] at hi
  exact CoverageEvidence.passed_minted hm hi

/-- An adapter whose callbacks do what those of the reference adapter do, up to a relation of the
states and the handles, gets the evidence of all the suites, in whatever order the sections of the
racing threads run. -/
theorem composed_suites_conform {σ Error Ticket Lease : Type} {R : σ → ReferenceState → Prop}
    {T : Ticket → ReferenceTicket → Prop} {L : Lease → ReferenceLease → Prop}
    {adapter : OperationModelAdapter σ Error Ticket Lease}
    (h : adapter.Follows R T L referenceAdapter) (schedule : List Bool)
    (lifecycle : LifecycleImplementation) :
    Mints (TransitionChain.runTransitionChainSuite adapter.transitionChain lifecycle)
      "transition-chain" [.exactTransitionChain] ∧
    Mints (runRegistryIdentitySuite adapter lifecycle) "registry-identity"
      [.duplicatePublicId, .staleRelease, .sequenceExhaustion] ∧
    Mints (runConsumerCancellationSuite adapter lifecycle) "consumer-cancellation"
      [.ticketDropCancellation, .explicitConsumerDropCancellation] ∧
    Mints (fun component => runTerminalAuthoritySuite adapter lifecycle component schedule)
      "terminal-authority" [.authoritativeTerminal, .cancelCompleteRace] ∧
    Mints (runWaiterControlSuite adapter lifecycle) "waiter-control"
      [.waiterTimeoutIsObservational] ∧
    Mints (runTaskReapingSuite adapter lifecycle) "task-reaping"
      [.retainedTasksBoundedByActiveConcurrency] := by
  obtain ⟨hregistry, hconsumer, hwaiter, hreaping, hchain⟩ := reference_sequential
  exact ⟨mints_of_follows (by decide) (transitionChain_follows h) hchain,
    mints_of_follows (by decide) (registryIdentity_follows h) hregistry,
    mints_of_follows (by decide) (consumerCancellation_follows h) hconsumer,
    mints_of_follows (by decide) (terminalAuthority_follows h schedule)
      (reference_terminalAuthority schedule),
    mints_of_follows (by decide) (waiterControl_follows h) hwaiter,
    mints_of_follows (by decide) (taskReaping_follows h) hreaping⟩

/-- The race of the terminals on the reference adapter, completion first. -/
theorem composed_suites_conform_reference :
    (runTerminalAuthoritySuite referenceAdapter referenceLifecycle "terminal-owner" [false]).on () =
      (.ok ⟨"terminal-owner", "terminal-authority",
        {.authoritativeTerminal, .cancelCompleteRace}⟩, ()) := by
  have hminted := composed_suites_conform (follows_refl referenceAdapter) [false] referenceLifecycle
  obtain ⟨-, -, -, hterminal, -⟩ := hminted
  refine (hterminal.passed "terminal-owner").trans ?_
  decide +kernel

end ComposedSuites

end Testkit
end Platform
