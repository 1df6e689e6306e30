import PlatformContracts.Testkit.LifecycleSuite

/-!
# Adapters that follow each other, in the lifecycle suite

* `OperationModelAdapter.Follows R T L adapter adapter'`: the callbacks of `adapter` do what those
  of `adapter'` do, up to a relation of the states, the tickets and the leases. Errors only have to
  be errors.
* `LifecycleSuite.expectCall_follows`, …: so do the assertions, and then each test.
* `runLifecycleSuite_follows`: so does the suite.
-/

namespace Platform
namespace Testkit

open Exec

/-- The callbacks of `adapter` follow those of `adapter'` (module doc). -/
structure OperationModelAdapter.Follows {σ τ Error Error' Ticket Ticket' Lease Lease' : Type}
    (R : σ → τ → Prop) (T : Ticket → Ticket' → Prop) (L : Lease → Lease' → Prop)
    (adapter : OperationModelAdapter σ Error Ticket Lease)
    (adapter' : OperationModelAdapter τ Error' Ticket' Lease') : Prop where
  deterministic : ∀ config,
    (adapter.deterministic config).Follows (· = ·) R (adapter'.deterministic config)
  reserve : ∀ operationId, (adapter.reserve operationId).Follows R
    (Answers fun x x' => T x.1 x'.1 ∧ L x.2 x'.2) (adapter'.reserve operationId)
  ticketIdentity : ∀ {ticket ticket'}, T ticket ticket' →
    (adapter.ticketIdentity ticket).Follows R (· = ·) (adapter'.ticketIdentity ticket')
  leaseIdentity : ∀ {lease lease'}, L lease lease' →
    (adapter.leaseIdentity lease).Follows R (· = ·) (adapter'.leaseIdentity lease')
  queue : ∀ {lease lease'}, L lease lease' →
    (adapter.queue lease).Follows R (Answers (· = ·)) (adapter'.queue lease')
  start : ∀ {lease lease'}, L lease lease' →
    (adapter.start lease).Follows R (Answers (· = ·)) (adapter'.start lease')
  publishProgress : ∀ {lease lease'}, L lease lease' → ∀ sequence,
    (adapter.publishProgress lease sequence).Follows R (Answers (· = ·))
      (adapter'.publishProgress lease' sequence)
  requestCancel : ∀ {ticket ticket'}, T ticket ticket' →
    (adapter.requestCancel ticket).Follows R (Answers (· = ·)) (adapter'.requestCancel ticket')
  consumerDrop : ∀ {ticket ticket'}, T ticket ticket' →
    (adapter.consumerDrop ticket).Follows R (Answers (· = ·)) (adapter'.consumerDrop ticket')
  waiterTimeout : ∀ {ticket ticket'}, T ticket ticket' →
    (adapter.waiterTimeout ticket).Follows R (Answers (· = ·)) (adapter'.waiterTimeout ticket')
  terminal : ∀ {lease lease'}, L lease lease' → ∀ termClass,
    (adapter.terminal lease termClass).Follows R (Answers (· = ·))
      (adapter'.terminal lease' termClass)
  recordExecutorPanic : ∀ {lease lease'}, L lease lease' →
    (adapter.recordExecutorPanic lease).Follows R (Answers (· = ·))
      (adapter'.recordExecutorPanic lease')
  release : ∀ {lease lease'}, L lease lease' →
    (adapter.release lease).Follows R (Answers (· = ·)) (adapter'.release lease')
  quiesce : adapter.quiesce.Follows R (· = ·) adapter'.quiesce
  shutdown : adapter.shutdown.Follows R (· = ·) adapter'.shutdown
  lifecyclePhase : adapter.lifecyclePhase.Follows R (· = ·) adapter'.lifecyclePhase
  activeCount : adapter.activeCount.Follows R (· = ·) adapter'.activeCount
  retainedTaskCount : adapter.retainedTaskCount.Follows R (· = ·) adapter'.retainedTaskCount
  progressCapacity : adapter.progressCapacity.Follows R (· = ·) adapter'.progressCapacity
  currentSnapshot : ∀ operationId, (adapter.currentSnapshot operationId).Follows R (· = ·)
    (adapter'.currentSnapshot operationId)
  leaseSnapshot : ∀ {lease lease'}, L lease lease' →
    (adapter.leaseSnapshot lease).Follows R (· = ·) (adapter'.leaseSnapshot lease')
  dropTicket : ∀ {ticket ticket'}, T ticket ticket' →
    (adapter.dropTicket ticket).Follows R (· = ·) (adapter'.dropTicket ticket')

namespace LifecycleSuite

open PublicationSuite (assertEq scenario)

/-! ## The assertions -/

section Assertions

variable {σ τ Error Error' α α' : Type} {R : σ → τ → Prop} {V : α → α' → Prop}

theorem expectCall_follows {call : Callback σ (Except Error α)}
    {call' : Callback τ (Except Error' α')} (h : call.Follows R (Answers V) call')
    (message : String) :
    (expectCall call message).Follows R V (expectCall call' message) :=
  h.bind fun _ _ ha => .expectOk ha message

theorem assertErr_follows {call : Callback σ (Except Error α)}
    {call' : Callback τ (Except Error' α')} (h : call.Follows R (Answers V) call')
    (message : String) :
    (assertErr call message).Follows R (· = ·) (assertErr call' message) := by
  refine h.bind fun r r' ha => .assert (fun hr => ?_) message
  cases ha with
  | ok => exact hr
  | error => rfl

theorem expectSome_follows {call : Callback σ (Option α)} {call' : Callback τ (Option α)}
    (h : call.Follows R (· = ·) call') (message : String) :
    (expectSome call message).Follows R (· = ·) (expectSome call' message) :=
  h.bind fun o o' ho => .expect (fun a ha => ⟨a, by rw [ho, ha], rfl⟩) message

theorem assertEq_follows [DecidableEq α] (a b : α) :
    (assertEq a b : Callback σ Unit).Follows R (· = ·) (assertEq a b : Callback τ Unit) :=
  .assert id _

theorem assertClosedAndEmpty_follows (facts : ClosedFacts) :
    (assertClosedAndEmpty facts : Callback σ Unit).Follows R (· = ·)
      (assertClosedAndEmpty facts : Callback τ Unit) :=
  .seq (assertEq_follows _ _) <| .seq (assertEq_follows _ _) <| .seq (assertEq_follows _ _) <|
    assertEq_follows _ _

/-- A test whose statements follow those of the other adapter's test. -/
theorem scenario_follows {factory : Callback Unit σ} {factory' : Callback Unit τ}
    {statements : Callback σ Unit} {statements' : Callback τ Unit}
    (hf : factory.Follows (· = ·) R factory') (hs : statements.Follows R (· = ·) statements') :
    (scenario factory statements).Follows (· = ·) (· = ·) (scenario factory' statements') := by
  refine hf.bind fun s t hr => ?_
  rcases hon : statements'.on t with ⟨e | ⟨⟩, t'⟩
  · exact .throw _ e
  · obtain ⟨a, s', hs, -, -⟩ := hs s t hr () t' hon
    rw [hs]
    exact .pure rfl

end Assertions

section Tests

variable {σ τ Error Error' Ticket Ticket' Lease Lease' : Type} {R : σ → τ → Prop}
  {T : Ticket → Ticket' → Prop} {L : Lease → Lease' → Prop}
  {adapter : OperationModelAdapter σ Error Ticket Lease}
  {adapter' : OperationModelAdapter τ Error' Ticket' Lease'}
  {ticket : Ticket} {ticket' : Ticket'} {lease : Lease} {lease' : Lease'}

theorem assertRefused_follows (h : adapter.Follows R T L adapter') (operationId message : String) :
    (assertRefused adapter operationId message).Follows R (· = ·)
      (assertRefused adapter' operationId message) := by
  refine (h.reserve operationId).bind fun r r' hr => ?_
  cases hr with
  | error => exact .pure rfl
  | ok hv => exact .seq (h.dropTicket hv.1) (.throw _ _)

theorem assertPhase_follows (h : adapter.Follows R T L adapter') (hl : L lease lease')
    (message : String) (phase : OperationPhase) :
    (assertPhase adapter lease message phase).Follows R (· = ·)
      (assertPhase adapter' lease' message phase) := by
  refine (expectSome_follows (h.leaseSnapshot hl) message).bind ?_
  rintro snapshot _ rfl
  exact assertEq_follows _ _

theorem assertCancelled_follows (h : adapter.Follows R T L adapter') (hl : L lease lease')
    (message : String) :
    (assertCancelled adapter lease message).Follows R (· = ·)
      (assertCancelled adapter' lease' message) := by
  refine (expectSome_follows (h.leaseSnapshot hl) message).bind ?_
  rintro snapshot _ rfl
  exact .assert id _

theorem reserveRunning_follows (h : adapter.Follows R T L adapter') (operationId : String) :
    (reserveRunning adapter operationId).Follows R (fun x x' => T x.1 x'.1 ∧ L x.2 x'.2)
      (reserveRunning adapter' operationId) := by
  refine (expectCall_follows (h.reserve operationId) _).bind ?_
  rintro ⟨ticket, lease⟩ ⟨ticket', lease'⟩ ⟨ht, hl⟩
  exact .seq (expectCall_follows (h.queue hl) _) <|
    .seq (expectCall_follows (h.start hl) _) <| .pure ⟨ht, hl⟩

/-! ## The tests -/

theorem assertExactTransitionChain_follows (h : adapter.Follows R T L adapter') :
    (assertExactTransitionChain adapter).Follows (· = ·) (· = ·)
      (assertExactTransitionChain adapter') := by
  refine scenario_follows (h.deterministic _) ((expectCall_follows (h.reserve _) _).bind ?_)
  rintro ⟨ticket, lease⟩ ⟨ticket', lease'⟩ ⟨ht, hl⟩
  have phase := assertPhase_follows h hl
  have queue := h.queue hl
  have start := h.start hl
  have terminal := h.terminal hl .completed
  have release := h.release hl
  exact .seq (phase _ _) <| .seq (assertErr_follows start _) <|
    .seq (assertErr_follows release _) <| .seq (assertErr_follows terminal _) <|
    .seq (expectCall_follows queue _) <| .seq (phase _ _) <|
    .seq (assertErr_follows queue _) <| .seq (assertErr_follows release _) <|
    .seq (assertErr_follows terminal _) <|
    .seq (expectCall_follows start _) <| .seq (phase _ _) <|
    .seq (assertErr_follows start _) <| .seq (assertErr_follows queue _) <|
    .seq (expectCall_follows terminal _) <| .seq (phase _ _) <|
    .seq (assertErr_follows queue _) <| .seq (assertErr_follows start _) <|
    .seq (expectCall_follows release _) <| .seq (phase _ _) <|
    .seq (assertErr_follows release _) <| h.dropTicket ht

/-- The end of the tests: the terminal, the release and the drop of the ticket. -/
theorem finish_follows (h : adapter.Follows R T L adapter') (ht : T ticket ticket')
    (hl : L lease lease') (termClass : TerminalClass) (terminalMessage releaseMessage : String) :
    (do expectCall (adapter.terminal lease termClass) terminalMessage
        expectCall (adapter.release lease) releaseMessage
        adapter.dropTicket ticket).Follows R (· = ·)
      (do expectCall (adapter'.terminal lease' termClass) terminalMessage
          expectCall (adapter'.release lease') releaseMessage
          adapter'.dropTicket ticket') :=
  .seq (expectCall_follows (h.terminal hl termClass) _) <|
    .seq (expectCall_follows (h.release hl) _) <| h.dropTicket ht

/-- A shutdown that finds everything closed. -/
theorem closed_follows (h : adapter.Follows R T L adapter') :
    (do let facts ← adapter.shutdown
        assertClosedAndEmpty facts).Follows R (· = ·)
      (do let facts ← adapter'.shutdown
          assertClosedAndEmpty facts) := by
  refine h.shutdown.bind ?_
  rintro facts _ rfl
  exact assertClosedAndEmpty_follows facts

theorem assertTicketDropCancelsWhileLeaseRetainsIdentity_follows
    (h : adapter.Follows R T L adapter') :
    (assertTicketDropCancelsWhileLeaseRetainsIdentity adapter).Follows (· = ·) (· = ·)
      (assertTicketDropCancelsWhileLeaseRetainsIdentity adapter') := by
  refine scenario_follows (h.deterministic _) ((reserveRunning_follows h _).bind ?_)
  rintro ⟨ticket, lease⟩ ⟨ticket', lease'⟩ ⟨ht, hl⟩
  refine (h.ticketIdentity ht).bind ?_
  rintro ticketIdentity _ rfl
  refine (h.leaseIdentity hl).bind ?_
  rintro leaseIdentity _ rfl
  refine .seq (assertEq_follows _ _) <| .seq (.assert id _) <| .seq (h.dropTicket ht) <|
    (expectSome_follows (h.leaseSnapshot hl) _).bind ?_
  rintro snapshot _ rfl
  exact .seq (.assert id _) <| .seq (assertEq_follows _ _) <| .seq (assertEq_follows _ _) <|
    .seq (expectCall_follows (h.terminal hl _) _) <| expectCall_follows (h.release hl) _

theorem assertExplicitConsumerDropRequestsCancellation_follows
    (h : adapter.Follows R T L adapter') :
    (assertExplicitConsumerDropRequestsCancellation adapter).Follows (· = ·) (· = ·)
      (assertExplicitConsumerDropRequestsCancellation adapter') := by
  refine scenario_follows (h.deterministic _) ((reserveRunning_follows h _).bind ?_)
  rintro ⟨ticket, lease⟩ ⟨ticket', lease'⟩ ⟨ht, hl⟩
  exact .seq (expectCall_follows (h.consumerDrop ht) _) <|
    .seq (assertCancelled_follows h hl _) <|
    .seq (expectCall_follows (h.terminal hl _) _) <| expectCall_follows (h.release hl) _

theorem assertOneAuthoritativeTerminalAndProjections_follows
    (h : adapter.Follows R T L adapter') :
    (assertOneAuthoritativeTerminalAndProjections adapter).Follows (· = ·) (· = ·)
      (assertOneAuthoritativeTerminalAndProjections adapter') := by
  refine scenario_follows (h.deterministic _) ((reserveRunning_follows h _).bind ?_)
  rintro ⟨ticket, lease⟩ ⟨ticket', lease'⟩ ⟨ht, hl⟩
  refine .seq (expectCall_follows (h.publishProgress hl _) _) <|
    .seq (expectCall_follows (h.terminal hl _) _) <|
    (expectSome_follows (h.leaseSnapshot hl) _).bind ?_
  rintro terminal _ rfl
  refine .seq (assertEq_follows _ _) <|
    (Follows.expect (fun record hr => ⟨record, hr, rfl⟩) _).bind ?_
  rintro record _ rfl
  refine .seq (assertEq_follows _ _) <| .seq (assertEq_follows _ _) <|
    .seq (assertErr_follows (h.terminal hl _) _) <| (h.leaseSnapshot hl).bind ?_
  rintro snapshot _ rfl
  exact .seq (assertEq_follows _ _) <| .seq (expectCall_follows (h.release hl) _) <|
    h.dropTicket ht

theorem assertWaiterTimeoutIsObservationalAndRetainsControl_follows
    (h : adapter.Follows R T L adapter') :
    (assertWaiterTimeoutIsObservationalAndRetainsControl adapter).Follows (· = ·) (· = ·)
      (assertWaiterTimeoutIsObservationalAndRetainsControl adapter') := by
  refine scenario_follows (h.deterministic _) ((reserveRunning_follows h _).bind ?_)
  rintro ⟨ticket, lease⟩ ⟨ticket', lease'⟩ ⟨ht, hl⟩
  refine (expectSome_follows (h.leaseSnapshot hl) _).bind ?_
  rintro before _ rfl
  refine (expectCall_follows (h.waiterTimeout ht) _).bind ?_
  rintro observation _ rfl
  refine .seq (assertEq_follows _ _) <| (h.leaseSnapshot hl).bind ?_
  rintro snapshot _ rfl
  exact .seq (assertEq_follows _ _) <| .seq (expectCall_follows (h.requestCancel ht) _) <|
    .seq (assertCancelled_follows h hl _) <| finish_follows h ht hl _ _ _

theorem publishAll_follows (h : adapter.Follows R T L adapter') (hl : L lease lease')
    (message : String) (sequences : List UInt64) :
    (publishAll adapter lease message sequences).Follows R (· = ·)
      (publishAll adapter' lease' message sequences) := by
  induction sequences with
  | nil => exact .pure rfl
  | cons sequence sequences ih =>
    exact .seq (expectCall_follows (h.publishProgress hl sequence) _) ih

theorem assertUnreadProgressCannotBlockTerminalReleaseOrShutdown_follows
    (h : adapter.Follows R T L adapter') :
    (assertUnreadProgressCannotBlockTerminalReleaseOrShutdown adapter).Follows (· = ·) (· = ·)
      (assertUnreadProgressCannotBlockTerminalReleaseOrShutdown adapter') := by
  refine scenario_follows (h.deterministic _) ((reserveRunning_follows h _).bind ?_)
  rintro ⟨ticket, lease⟩ ⟨ticket', lease'⟩ ⟨ht, hl⟩
  refine .seq (publishAll_follows h hl _ _) <|
    (expectSome_follows (h.leaseSnapshot hl) _).bind ?_
  rintro snapshot _ rfl
  refine h.progressCapacity.bind ?_
  rintro capacity _ rfl
  exact .seq (assertEq_follows _ _) <| .seq (assertEq_follows _ _) <|
    .seq (expectCall_follows (h.terminal hl _) _) <|
    .seq (expectCall_follows (h.release hl) _) <| .seq (h.dropTicket ht) <| closed_follows h

theorem assertDuplicateIdsFailWithoutPartialAdmission_follows
    (h : adapter.Follows R T L adapter') :
    (assertDuplicateIdsFailWithoutPartialAdmission adapter).Follows (· = ·) (· = ·)
      (assertDuplicateIdsFailWithoutPartialAdmission adapter') := by
  refine scenario_follows (h.deterministic _) ((expectCall_follows (h.reserve _) _).bind ?_)
  rintro ⟨ticket, lease⟩ ⟨ticket', lease'⟩ ⟨ht, hl⟩
  refine .seq (assertRefused_follows h _ _) <| h.activeCount.bind ?_
  rintro active _ rfl
  exact .seq (assertEq_follows _ _) <| .seq (expectCall_follows (h.queue hl) _) <|
    .seq (expectCall_follows (h.start hl) _) <| finish_follows h ht hl _ _ _

theorem assertSequenceExhaustionFailsWithoutPartialAdmission_follows
    (h : adapter.Follows R T L adapter') :
    (assertSequenceExhaustionFailsWithoutPartialAdmission adapter).Follows (· = ·) (· = ·)
      (assertSequenceExhaustionFailsWithoutPartialAdmission adapter') := by
  refine scenario_follows (h.deterministic _) <|
    .seq (assertRefused_follows h _ _) <| h.activeCount.bind ?_
  rintro active _ rfl
  refine .seq (assertEq_follows _ _) <| h.retainedTaskCount.bind ?_
  rintro retained _ rfl
  exact assertEq_follows _ _

theorem assertStaleReleaseCannotRemoveReusedId_follows (h : adapter.Follows R T L adapter') :
    (assertStaleReleaseCannotRemoveReusedId adapter).Follows (· = ·) (· = ·)
      (assertStaleReleaseCannotRemoveReusedId adapter') := by
  refine scenario_follows (h.deterministic _) ((reserveRunning_follows h _).bind ?_)
  rintro ⟨firstTicket, stale⟩ ⟨firstTicket', stale'⟩ ⟨ht, hl⟩
  refine .seq (expectCall_follows (h.terminal hl _) _) <|
    .seq (expectCall_follows (h.release hl) _) <| .seq (h.dropTicket ht) <|
    (expectCall_follows (h.reserve _) _).bind ?_
  rintro ⟨currentTicket, current⟩ ⟨currentTicket', current'⟩ ⟨ht', hl'⟩
  refine (h.leaseIdentity hl).bind ?_
  rintro staleIdentity _ rfl
  refine (h.leaseIdentity hl').bind ?_
  rintro currentIdentity _ rfl
  refine .seq (.assert id _) <| .seq (assertErr_follows (h.release hl) _) <|
    (expectSome_follows (h.currentSnapshot _) _).bind ?_
  rintro snapshot _ rfl
  refine (h.leaseIdentity hl').bind ?_
  rintro identity _ rfl
  exact .seq (assertEq_follows _ _) <| .seq (expectCall_follows (h.queue hl') _) <|
    .seq (expectCall_follows (h.start hl') _) <| finish_follows h ht' hl' _ _ _

theorem assertQuiesceRejectsAdmissionAndShutdownWaitsForRelease_follows
    (h : adapter.Follows R T L adapter') :
    (assertQuiesceRejectsAdmissionAndShutdownWaitsForRelease adapter).Follows (· = ·) (· = ·)
      (assertQuiesceRejectsAdmissionAndShutdownWaitsForRelease adapter') := by
  refine scenario_follows (h.deterministic _) ((reserveRunning_follows h _).bind ?_)
  rintro ⟨ticket, lease⟩ ⟨ticket', lease'⟩ ⟨ht, hl⟩
  refine .seq h.quiesce <| h.lifecyclePhase.bind ?_
  rintro lifecycle _ rfl
  refine .seq (assertEq_follows _ _) <| .seq (assertRefused_follows h _ _) <|
    h.shutdown.bind ?_
  rintro pending _ rfl
  exact .seq (assertEq_follows _ _) <| .seq (assertEq_follows _ _) <|
    .seq (assertEq_follows _ _) <| .seq (.assert id _) <| .seq (assertCancelled_follows h hl _) <|
    .seq (expectCall_follows (h.terminal hl _) _) <|
    .seq (expectCall_follows (h.release hl) _) <| .seq (h.dropTicket ht) <| closed_follows h

theorem assertExecutorPanicRecordsTerminalAndReleases_follows
    (h : adapter.Follows R T L adapter') :
    (assertExecutorPanicRecordsTerminalAndReleases adapter).Follows (· = ·) (· = ·)
      (assertExecutorPanicRecordsTerminalAndReleases adapter') := by
  refine scenario_follows (h.deterministic _) ((reserveRunning_follows h _).bind ?_)
  rintro ⟨ticket, lease⟩ ⟨ticket', lease'⟩ ⟨ht, hl⟩
  refine .seq (expectCall_follows (h.recordExecutorPanic hl) _) <|
    (expectSome_follows (h.leaseSnapshot hl) _).bind ?_
  rintro snapshot _ rfl
  refine .seq (assertEq_follows _ _) <|
    (Follows.expect (fun record hr => ⟨record, hr, rfl⟩) _).bind ?_
  rintro record _ rfl
  exact .seq (assertEq_follows _ _) <| .seq (expectCall_follows (h.release hl) _) <|
    .seq (h.dropTicket ht) <| closed_follows h

theorem assertRepeatedShutdownIsStableAndEmpty_follows (h : adapter.Follows R T L adapter') :
    (assertRepeatedShutdownIsStableAndEmpty adapter).Follows (· = ·) (· = ·)
      (assertRepeatedShutdownIsStableAndEmpty adapter') := by
  refine scenario_follows (h.deterministic _) (h.shutdown.bind ?_)
  rintro first _ rfl
  refine h.shutdown.bind ?_
  rintro second _ rfl
  exact .seq (assertEq_follows _ _) <| assertClosedAndEmpty_follows second

/-! ## The races -/

theorem terminalThread_follows (h : adapter.Follows R T L adapter') (hl : L lease lease')
    (termClass : TerminalClass) :
    (terminalThread adapter lease termClass).Follows R (· = ·)
      (terminalThread adapter' lease' termClass) := by
  refine .step (h.terminal hl termClass) fun r r' hr => .ret ?_
  cases hr with
  | ok | error => rfl

theorem assertCancelCompleteRaceHasOneTerminal_follows (h : adapter.Follows R T L adapter')
    (schedule : List Bool) :
    (assertCancelCompleteRaceHasOneTerminal adapter schedule).Follows (· = ·) (· = ·)
      (assertCancelCompleteRaceHasOneTerminal adapter' schedule) := by
  refine scenario_follows (h.deterministic _) ((reserveRunning_follows h _).bind ?_)
  rintro ⟨ticket, lease⟩ ⟨ticket', lease'⟩ ⟨ht, hl⟩
  refine (raceJoin_follows _ _ (terminalThread_follows h hl .cancelled)
    (terminalThread_follows h hl .completed)).bind ?_
  rintro ⟨cancel, complete⟩ ⟨_, _⟩ ⟨rfl, rfl⟩
  refine .seq (assertEq_follows _ _) <| (expectSome_follows (h.leaseSnapshot hl) _).bind ?_
  rintro snapshot _ rfl
  exact .seq (assertEq_follows _ _) <| .seq (assertEq_follows _ _) <|
    .seq (expectCall_follows (h.release hl) _) <| h.dropTicket ht

theorem admitThread_follows (h : adapter.Follows R T L adapter') :
    (admitThread adapter).Follows R (· = ·) (admitThread adapter') := by
  refine .step (h.reserve _) fun r r' hr => ?_
  cases hr with
  | ok hv => exact .step (h.dropTicket hv.1) fun _ _ _ => .ret rfl
  | error => exact .ret rfl

theorem quiesceThread_follows (h : adapter.Follows R T L adapter') :
    (quiesceThread adapter).Follows R (· = ·) (quiesceThread adapter') :=
  .step h.quiesce fun _ _ hu => .ret hu

theorem assertAdmitQuiesceRaceIsLinearizable_follows (h : adapter.Follows R T L adapter')
    (schedule : List Bool) :
    (assertAdmitQuiesceRaceIsLinearizable adapter schedule).Follows (· = ·) (· = ·)
      (assertAdmitQuiesceRaceIsLinearizable adapter' schedule) := by
  refine scenario_follows (h.deterministic _) ((raceJoin_follows _ _ (admitThread_follows h)
    (quiesceThread_follows h)).bind ?_)
  rintro ⟨admitted, ⟨⟩⟩ ⟨_, ⟨⟩⟩ ⟨rfl, -⟩
  refine h.lifecyclePhase.bind ?_
  rintro lifecycle _ rfl
  refine .seq (assertEq_follows _ _) <| h.activeCount.bind ?_
  rintro active _ rfl
  refine .seq (assertEq_follows _ _) ?_
  cases admitted with
  | false => exact assertRefused_follows h _ _
  | true =>
    refine (expectSome_follows (h.currentSnapshot _) _).bind ?_
    rintro snapshot _ rfl
    exact .seq (.assert id _) <| assertRefused_follows h _ _

theorem progressThread_follows (h : adapter.Follows R T L adapter') (hl : L lease lease')
    (sequences : List UInt64) :
    (progressThread adapter lease sequences).Follows R (· = ·)
      (progressThread adapter' lease' sequences) := by
  induction sequences with
  | nil => exact .ret rfl
  | cons sequence sequences ih =>
    refine .step (h.publishProgress hl sequence) fun r r' hr => ?_
    cases hr with
    | ok => exact ih
    | error => exact .ret rfl

theorem assertProgressTerminalInterleavingCannotStarveTerminal_follows
    (h : adapter.Follows R T L adapter') (schedule : List Bool) :
    (assertProgressTerminalInterleavingCannotStarveTerminal adapter schedule).Follows
      (· = ·) (· = ·)
      (assertProgressTerminalInterleavingCannotStarveTerminal adapter' schedule) := by
  refine scenario_follows (h.deterministic _) ((reserveRunning_follows h _).bind ?_)
  rintro ⟨ticket, lease⟩ ⟨ticket', lease'⟩ ⟨ht, hl⟩
  have hprogress := progressThread_follows h hl (sequences 1024)
  refine (raceJoin_follows _ _ hprogress (terminalThread_follows h hl .completed)).bind ?_
  rintro ⟨⟨⟩, terminal⟩ ⟨⟨⟩, _⟩ ⟨-, rfl⟩
  exact .seq (.assert id _) <| .seq (assertPhase_follows h hl _ _) <|
    .seq (expectCall_follows (h.release hl) _) <| .seq (h.dropTicket ht) <| closed_follows h

theorem runLifecycleSuite_follows (h : adapter.Follows R T L adapter')
    (schedules : List Bool × List Bool × List Bool) :
    (runLifecycleSuite adapter schedules).Follows (· = ·) (· = ·)
      (runLifecycleSuite adapter' schedules) :=
  .seq (assertExactTransitionChain_follows h) <|
    .seq (assertTicketDropCancelsWhileLeaseRetainsIdentity_follows h) <|
    .seq (assertExplicitConsumerDropRequestsCancellation_follows h) <|
    .seq (assertOneAuthoritativeTerminalAndProjections_follows h) <|
    .seq (assertWaiterTimeoutIsObservationalAndRetainsControl_follows h) <|
    .seq (assertUnreadProgressCannotBlockTerminalReleaseOrShutdown_follows h) <|
    .seq (assertDuplicateIdsFailWithoutPartialAdmission_follows h) <|
    .seq (assertSequenceExhaustionFailsWithoutPartialAdmission_follows h) <|
    .seq (assertStaleReleaseCannotRemoveReusedId_follows h) <|
    .seq (assertQuiesceRejectsAdmissionAndShutdownWaitsForRelease_follows h) <|
    .seq (assertExecutorPanicRecordsTerminalAndReleases_follows h) <|
    .seq (assertRepeatedShutdownIsStableAndEmpty_follows h) <|
    .seq (assertCancelCompleteRaceHasOneTerminal_follows h _) <|
    .seq (assertAdmitQuiesceRaceIsLinearizable_follows h _) <|
    assertProgressTerminalInterleavingCannotStarveTerminal_follows h _

end Tests

end LifecycleSuite

end Testkit
end Platform
