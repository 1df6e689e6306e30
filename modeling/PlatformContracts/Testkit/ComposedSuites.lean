import PlatformContracts.Testkit.TransitionChain

/-!
# The suites on one adapter (`platform-contract-testkit/src/compositional_lifecycle.rs`)

The composed suites whose reference is `ReferenceAdapter`, other than the transition chain. The
impls of their traits for it call its `OperationModelAdapter` methods only; here they are on the
methods of any adapter.

* `startReference`, `finishReference`, …: the methods of the impls.
* `registryIdentity`, …: the statements of the suites. A panic has the text of its assertion,
  without the values that it compares.
* `terminalAuthority` runs its race under any `schedule` of the sections of both threads.
-/

namespace Platform
namespace Testkit

open Exec

namespace ComposedSuites

open PublicationSuite (assertEq scenario)
open LifecycleSuite

/-! ## The methods of the impls -/

section Methods

variable {σ Error Ticket Lease α β : Type}

/-- `call?`, and what follows it. -/
def orReturn (call : Callback σ (Except Error α)) (next : α → Callback σ (Except Error β)) :
    Callback σ (Except Error β) := do
  match ← call with
  | .ok a => next a
  | .error e => pure (.error e)

variable (adapter : OperationModelAdapter σ Error Ticket Lease)

/-- `start_reference`; an early return drops the ticket. -/
def startReference (operationId : String) : Callback σ (Except Error (Ticket × Lease)) :=
  orReturn (adapter.reserve operationId) fun operation => do
    match ← orReturn (adapter.queue operation.2) fun _ => adapter.start operation.2 with
    | .ok () => pure (.ok operation)
    | .error e =>
      adapter.dropTicket operation.1
      pure (.error e)

def finishReference (lease : Lease) (termClass : TerminalClass) : Callback σ (Except Error Unit) :=
  orReturn (adapter.terminal lease termClass) fun _ => adapter.release lease

/-- `RegistryIdentityAdapter::complete_and_release`. -/
def completeAndRelease (lease : Lease) : Callback σ (Except Error Unit) :=
  orReturn (adapter.queue lease) fun _ => orReturn (adapter.start lease) fun _ =>
    finishReference adapter lease .completed

/-- `RegistryIdentityAdapter::current_identity`. -/
def currentIdentity (operationId : String) : Callback σ (Option AttemptIdentity) := do
  let snapshot ← adapter.currentSnapshot operationId
  pure (snapshot.map (·.identity))

/-- `ConsumerCancellationAdapter::cancellation_requested`. -/
def cancellationRequested (lease : Lease) : Callback σ Bool := do
  let snapshot ← adapter.leaseSnapshot lease
  pure (snapshot.any (·.cancellationRequested))

/-- `TaskReapingAdapter::finish`; the ticket is dropped whatever the result. -/
def finish (operation : Ticket × Lease) : Callback σ (Except Error Unit) := do
  let result ← finishReference adapter operation.2 .completed
  adapter.dropTicket operation.1
  pure result

end Methods

/-! ## The suites -/

section Suites

variable {σ Error Ticket Lease : Type} (adapter : OperationModelAdapter σ Error Ticket Lease)

def registryIdentity : Callback Unit Unit := do
  scenario (adapter.deterministic { nextSequence := 1, progressCapacity := 1 }) do
    let (firstGuard, first) ← expectCall (adapter.reserve "reused") "first reserve"
    assertRefused adapter "reused" "assertion failed: adapter.reserve(\"reused\").is_err()"
    let active ← adapter.activeCount
    assertEq active 1
    let firstIdentity ← adapter.leaseIdentity first
    expectCall (completeAndRelease adapter first) "first executor release"
    adapter.dropTicket firstGuard
    let (currentGuard, current) ← expectCall (adapter.reserve "reused") "identity reuse"
    let identity ← adapter.leaseIdentity current
    Exec.assert (firstIdentity ≠ identity) "assertion `left != right` failed"
    assertEq firstIdentity.operationId identity.operationId
    Exec.assert (firstIdentity.attemptId ≠ identity.attemptId) "assertion `left != right` failed"
    assertErr (completeAndRelease adapter first)
      "assertion failed: adapter.complete_and_release(&first).is_err()"
    let found ← currentIdentity adapter "reused"
    assertEq found (some identity)
    expectCall (completeAndRelease adapter current) "current release"
    adapter.dropTicket currentGuard
  scenario (adapter.deterministic { nextSequence := 2 ^ 64 - 1, progressCapacity := 1 }) do
    assertRefused adapter "exhausted" "assertion failed: exhausted.reserve(\"exhausted\").is_err()"
    let active ← adapter.activeCount
    assertEq active 0

/-- What both halves of the suite look at once the consumer is gone. -/
def assertConsumerGone (operationId : String) (lease : Lease) (identity : AttemptIdentity)
    (message : String) : Callback σ Unit := do
  let active ← adapter.activeCount
  assertEq active 1
  let current ← currentIdentity adapter operationId
  assertEq current (some identity)
  let snapshot ← adapter.leaseSnapshot lease
  assertEq (snapshot.map (·.phase)) (some .running)
  let requested ← cancellationRequested adapter lease
  Exec.assert (requested = true) "assertion failed: adapter.cancellation_requested(&lease)"
  expectCall (finishReference adapter lease .cancelled) message

def consumerCancellation : Callback Unit Unit :=
  scenario (adapter.deterministic {}) do
    let (ticket, lease) ← expectCall (startReference adapter "ticket-drop") "start"
    let ticketIdentity ← adapter.ticketIdentity ticket
    let leaseIdentity ← adapter.leaseIdentity lease
    assertEq ticketIdentity leaseIdentity
    let identity ← adapter.leaseIdentity lease
    adapter.dropTicket ticket
    assertConsumerGone adapter "ticket-drop" lease identity "executor retains release authority"
    let (ticket, lease) ← expectCall (startReference adapter "explicit-drop") "start"
    let identity ← adapter.leaseIdentity lease
    expectCall (adapter.consumerDrop ticket) "explicit consumer drop"
    assertConsumerGone adapter "explicit-drop" lease identity "finish"

def assertTerminal (snapshot : OperationSnapshot) (expected : TerminalClass) :
    Callback σ Unit := do
  assertEq snapshot.phase .terminal
  let authoritative ← Exec.expect snapshot.authoritativeTerminal
    "authoritative terminal must exist"
  let finalProjection ← Exec.expect snapshot.finalProjection "final projection must exist"
  assertEq authoritative finalProjection
  assertEq authoritative.termClass expected

/-- The guards are dropped at the end. -/
def terminalAuthority (schedule : List Bool) : Callback Unit Unit :=
  scenario (adapter.deterministic {}) do
    let (guard, lease) ← expectCall (startReference adapter "terminal") "start"
    expectCall (adapter.terminal lease .completed) "terminal"
    let snapshot ← expectSome (adapter.leaseSnapshot lease) "terminal snapshot"
    assertTerminal snapshot .completed
    assertErr (adapter.terminal lease .failed)
      "assertion failed: adapter.terminal(&lease, TerminalClass::Failed).is_err()"
    let found ← adapter.leaseSnapshot lease
    assertEq found (some snapshot)
    expectCall (adapter.release lease) "release"
    let (raceGuard, lease) ← expectCall (startReference adapter "terminal-race") "start race"
    let (cancelWon, completeWon) ← raceJoin schedule (terminalThread adapter lease .cancelled)
      (terminalThread adapter lease .completed) "cancel racer" "complete racer"
    Exec.assert (cancelWon ≠ completeWon) "assertion `left != right` failed"
    let snapshot ← expectSome (adapter.leaseSnapshot lease) "race terminal"
    assertTerminal snapshot (if cancelWon then .cancelled else .completed)
    expectCall (adapter.release lease) "release race"
    adapter.dropTicket raceGuard
    adapter.dropTicket guard

def waiterControl : Callback Unit Unit :=
  scenario (adapter.deterministic {}) do
    let (ticket, lease) ← expectCall (startReference adapter "timeout") "start"
    let before ← expectSome (adapter.leaseSnapshot lease) "before timeout"
    assertEq before.phase .running
    Exec.assert (before.authoritativeTerminal.isNone = true)
      "assertion failed: before.authoritative_terminal.is_none()"
    Exec.assert (before.finalProjection.isNone = true)
      "assertion failed: before.final_projection.is_none()"
    let observation ← expectCall (adapter.waiterTimeout ticket) "timeout"
    assertEq observation .timedOut
    let found ← adapter.leaseSnapshot lease
    assertEq found (some before)
    expectCall (adapter.requestCancel ticket) "control retained after timeout"
    let snapshot ← expectSome (adapter.leaseSnapshot lease) "cancelled snapshot"
    Exec.assert (snapshot.cancellationRequested = true) <| "assertion failed: " ++
      "adapter.snapshot(&lease).expect(\"cancelled snapshot\").cancellation_requested"
    expectCall (finishReference adapter lease .cancelled) "finish"
    adapter.dropTicket ticket

/-- `assert!(adapter.retained_task_count() <= adapter.active_count())`. -/
def assertReaped : Callback σ Unit := do
  let retained ← adapter.retainedTaskCount
  let active ← adapter.activeCount
  Exec.assert (retained.toNat ≤ active)
    "assertion failed: adapter.retained_task_count() <= adapter.active_count()"

def assertIdle : Callback σ Unit := do
  let active ← adapter.activeCount
  assertEq active 0
  let retained ← adapter.retainedTaskCount
  assertEq retained 0

/-- The operations `0..n`, the last one first. -/
def startConcurrent : Nat → Callback σ (List (Ticket × Lease))
  | 0 => pure []
  | sequence + 1 => do
    let active ← startConcurrent sequence
    let operation ← expectCall (startReference adapter ("concurrent-" ++ Nat.repr sequence))
      "start bounded active operation"
    let count ← adapter.activeCount
    assertEq count (sequence + 1)
    assertReaped adapter
    pure (operation :: active)

/-- `while let Some(operation) = active.pop()`. -/
def finishAll : List (Ticket × Lease) → Callback σ Unit
  | [] => pure ()
  | operation :: active => do
    expectCall (finish adapter operation) "finish active operation"
    assertReaped adapter
    finishAll active

/-- The operations `0..n`, one after the other. -/
def historical : Nat → Callback σ Unit
  | 0 => pure ()
  | sequence + 1 => do
    historical sequence
    let operation ← expectCall (startReference adapter ("historical-" ++ Nat.repr sequence))
      "start historical operation"
    expectCall (finish adapter operation) "operation must self-reap after release"
    assertIdle adapter

def taskReaping : Callback Unit Unit :=
  scenario (adapter.deterministic {}) do
    let active ← startConcurrent adapter 8
    finishAll adapter active
    assertIdle adapter
    historical adapter 32
    let closed ← adapter.shutdown
    LifecycleSuite.assertClosedAndEmpty closed

variable (lifecycle : LifecycleImplementation) (component : String)

def runRegistryIdentitySuite : Callback Unit (CoverageEvidence lifecycle) :=
  minting (registryIdentity adapter) component "registry-identity"
    [.duplicatePublicId, .staleRelease, .sequenceExhaustion]

def runConsumerCancellationSuite : Callback Unit (CoverageEvidence lifecycle) :=
  minting (consumerCancellation adapter) component "consumer-cancellation"
    [.ticketDropCancellation, .explicitConsumerDropCancellation]

def runTerminalAuthoritySuite (schedule : List Bool) : Callback Unit (CoverageEvidence lifecycle) :=
  minting (terminalAuthority adapter schedule) component "terminal-authority"
    [.authoritativeTerminal, .cancelCompleteRace]

def runWaiterControlSuite : Callback Unit (CoverageEvidence lifecycle) :=
  minting (waiterControl adapter) component "waiter-control" [.waiterTimeoutIsObservational]

def runTaskReapingSuite : Callback Unit (CoverageEvidence lifecycle) :=
  minting (taskReaping adapter) component "task-reaping"
    [.retainedTasksBoundedByActiveConcurrency]

end Suites

end ComposedSuites

end Testkit
end Platform
