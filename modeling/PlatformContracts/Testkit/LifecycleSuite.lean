import PlatformContracts.Lib.Race
import PlatformContracts.Testkit.Adapter
import PlatformContracts.Testkit.PublicationSuite

/-!
# The lifecycle suite (`platform-contract-testkit/src/lifecycle_suite.rs`)

* `OperationModelAdapter`: the callbacks of the trait, on any state `σ`. A clone of the adapter is
  a handle to the same state, and a clone of a lease is the same lease. A callback is one section.
* `LifecycleSuite.assertExactTransitionChain`, …: the tests of the suite, each on an adapter of its
  own. A panic has the text of its assertion, without the values that it compares.
* The races run under any `schedule` of the sections of their two threads. The barrier at the start
  of both only holds them back until both are there (`Barrier.rendezvous_completes`).
* `runLifecycleSuite`: the suite.
-/

namespace Platform
namespace Testkit

open Exec

structure OperationModelAdapter (σ Error Ticket Lease : Type) where
  deterministic : TestConfig → Callback Unit σ
  /-- The reservation, in its parts. -/
  reserve : String → Callback σ (Except Error (Ticket × Lease))
  ticketIdentity : Ticket → Callback σ AttemptIdentity
  leaseIdentity : Lease → Callback σ AttemptIdentity
  queue : Lease → Callback σ (Except Error Unit)
  start : Lease → Callback σ (Except Error Unit)
  publishProgress : Lease → UInt64 → Callback σ (Except Error Unit)
  requestCancel : Ticket → Callback σ (Except Error Unit)
  consumerDrop : Ticket → Callback σ (Except Error Unit)
  waiterTimeout : Ticket → Callback σ (Except Error WaitObservation)
  terminal : Lease → TerminalClass → Callback σ (Except Error Unit)
  recordExecutorPanic : Lease → Callback σ (Except Error Unit)
  release : Lease → Callback σ (Except Error Unit)
  quiesce : Callback σ Unit
  shutdown : Callback σ ClosedFacts
  lifecyclePhase : Callback σ LifecyclePhase
  activeCount : Callback σ Nat
  retainedTaskCount : Callback σ Usize
  progressCapacity : Callback σ Usize
  currentSnapshot : String → Callback σ (Option OperationSnapshot)
  leaseSnapshot : Lease → Callback σ (Option OperationSnapshot)
  /-- The `Drop` of a ticket. -/
  dropTicket : Ticket → Callback σ Unit

namespace LifecycleSuite

open PublicationSuite (assertEq scenario)

variable {σ Error Ticket Lease : Type}

/-! ## Assertions -/

/-- `result.expect(message)`. -/
def expectCall {α : Type} (call : Callback σ (Except Error α)) (message : String) :
    Callback σ α := do
  let result ← call
  Exec.expectOk result message

/-- `assert!(result.is_err(), message)`. -/
def assertErr {α : Type} (call : Callback σ (Except Error α)) (message : String) :
    Callback σ Unit := do
  let result ← call
  Exec.assert (result.toBool = false) message

/-- `snapshot.expect(message)`. -/
def expectSome {α : Type} (call : Callback σ (Option α)) (message : String) : Callback σ α := do
  let value ← call
  Exec.expect value message

def assertClosedAndEmpty (facts : ClosedFacts) : Callback σ Unit := do
  assertEq facts.lifecycle .closed
  assertEq facts.activeOperations 0
  assertEq facts.retainedTasks 0
  assertEq facts.joinedWorkers facts.expectedWorkers

variable (adapter : OperationModelAdapter σ Error Ticket Lease)

/-- `assert!(adapter.reserve(operation_id).is_err())`; the ticket of a reservation is dropped. -/
def assertRefused (operationId message : String) : Callback σ Unit := do
  match ← adapter.reserve operationId with
  | .error _ => pure ()
  | .ok (ticket, _) =>
    adapter.dropTicket ticket
    throw (.panic message)

/-- `assert_eq!(adapter.lease_snapshot(&lease).expect(message).phase, phase)`. -/
def assertPhase (lease : Lease) (message : String) (phase : OperationPhase) :
    Callback σ Unit := do
  let snapshot ← expectSome (adapter.leaseSnapshot lease) message
  assertEq snapshot.phase phase

/-- `assert!(adapter.lease_snapshot(&lease).expect(message).cancellation_requested)`. -/
def assertCancelled (lease : Lease) (message : String) : Callback σ Unit := do
  let snapshot ← expectSome (adapter.leaseSnapshot lease) message
  Exec.assert (snapshot.cancellationRequested = true)
    "assertion failed: snapshot.cancellation_requested"

def reserveRunning (operationId : String) : Callback σ (Ticket × Lease) := do
  let (ticket, lease) ← expectCall (adapter.reserve operationId)
    "operation reservation must succeed"
  expectCall (adapter.queue lease) "reserved operation must queue"
  expectCall (adapter.start lease) "queued operation must start"
  pure (ticket, lease)

/-! ## Tests of one thread -/

def assertExactTransitionChain : Callback Unit Unit :=
  scenario (adapter.deterministic {}) do
    let (ticket, lease) ← expectCall (adapter.reserve "transitions") "reserve"
    assertPhase adapter lease "reserved" .reserved
    assertErr (adapter.start lease) "Reserved -> Running is invalid"
    assertErr (adapter.release lease) "Reserved -> Released is invalid"
    assertErr (adapter.terminal lease .completed) "Reserved -> Terminal is invalid"
    expectCall (adapter.queue lease) "Reserved -> Queued"
    assertPhase adapter lease "queued" .queued
    assertErr (adapter.queue lease) "Queued -> Queued is invalid"
    assertErr (adapter.release lease) "Queued -> Released is invalid"
    assertErr (adapter.terminal lease .completed) "Queued -> Terminal is invalid"
    expectCall (adapter.start lease) "Queued -> Running"
    assertPhase adapter lease "running" .running
    assertErr (adapter.start lease) "Running -> Running is invalid"
    assertErr (adapter.queue lease) "Running -> Queued is invalid"
    expectCall (adapter.terminal lease .completed) "Running -> Terminal"
    assertPhase adapter lease "terminal" .terminal
    assertErr (adapter.queue lease) "Terminal -> Queued is invalid"
    assertErr (adapter.start lease) "Terminal -> Running is invalid"
    expectCall (adapter.release lease) "Terminal -> Released"
    assertPhase adapter lease "released archive" .released
    assertErr (adapter.release lease) "Released is immutable"
    adapter.dropTicket ticket

def assertTicketDropCancelsWhileLeaseRetainsIdentity : Callback Unit Unit :=
  scenario (adapter.deterministic {}) do
    let (ticket, lease) ← reserveRunning adapter "consumer-drop"
    let ticketIdentity ← adapter.ticketIdentity ticket
    let leaseIdentity ← adapter.leaseIdentity lease
    assertEq ticketIdentity leaseIdentity
    Exec.assert (ticketIdentity.attemptId ≠ "")
      "assertion failed: !ticket_identity.attempt_id.is_empty()"
    adapter.dropTicket ticket
    let snapshot ← expectSome (adapter.leaseSnapshot lease)
      "executor lease must retain attempt identity"
    Exec.assert (snapshot.cancellationRequested = true)
      "assertion failed: snapshot.cancellation_requested"
    assertEq snapshot.phase .running
    assertEq snapshot.identity leaseIdentity
    expectCall (adapter.terminal lease .cancelled) "executor owns terminal transition"
    expectCall (adapter.release lease) "executor owns release"

def assertExplicitConsumerDropRequestsCancellation : Callback Unit Unit :=
  scenario (adapter.deterministic {}) do
    let (ticket, lease) ← reserveRunning adapter "explicit-consumer-drop"
    expectCall (adapter.consumerDrop ticket) "explicit consumer drop"
    assertCancelled adapter lease "lease remains authoritative"
    expectCall (adapter.terminal lease .cancelled) "cancel terminal"
    expectCall (adapter.release lease) "release"

def assertOneAuthoritativeTerminalAndProjections : Callback Unit Unit :=
  scenario (adapter.deterministic {}) do
    let (ticket, lease) ← reserveRunning adapter "terminal"
    expectCall (adapter.publishProgress lease 1) "progress"
    expectCall (adapter.terminal lease .completed) "first terminal wins"
    let terminal ← expectSome (adapter.leaseSnapshot lease) "terminal snapshot"
    assertEq terminal.authoritativeTerminal terminal.finalProjection
    let record ← Exec.expect terminal.authoritativeTerminal "authoritative terminal"
    assertEq record.termClass .completed
    assertEq terminal.progressProjection [1]
    assertErr (adapter.terminal lease .failed)
      "assertion failed: adapter.terminal(&lease, TerminalClass::Failed).is_err()"
    let snapshot ← adapter.leaseSnapshot lease
    assertEq snapshot (some terminal)
    expectCall (adapter.release lease) "release"
    adapter.dropTicket ticket

def assertWaiterTimeoutIsObservationalAndRetainsControl : Callback Unit Unit :=
  scenario (adapter.deterministic {}) do
    let (ticket, lease) ← reserveRunning adapter "wait-timeout"
    let before ← expectSome (adapter.leaseSnapshot lease) "before timeout"
    let observation ← expectCall (adapter.waiterTimeout ticket) "timeout observation"
    assertEq observation .timedOut
    let snapshot ← adapter.leaseSnapshot lease
    assertEq snapshot (some before)
    expectCall (adapter.requestCancel ticket) "ticket remains usable after timeout"
    assertCancelled adapter lease "after cancel"
    expectCall (adapter.terminal lease .cancelled) "terminal"
    expectCall (adapter.release lease) "release"
    adapter.dropTicket ticket

/-- Publish the sequences one after the other. -/
def publishAll (lease : Lease) (message : String) : List UInt64 → Callback σ Unit
  | [] => pure ()
  | sequence :: sequences => do
    expectCall (adapter.publishProgress lease sequence) message
    publishAll lease message sequences

/-- `0..n`. -/
def sequences (n : Nat) : List UInt64 := (List.range n).map UInt64.ofNat

def assertUnreadProgressCannotBlockTerminalReleaseOrShutdown : Callback Unit Unit :=
  scenario (adapter.deterministic { nextSequence := 1, progressCapacity := 3 }) do
    let (ticket, lease) ← reserveRunning adapter "saturated-progress"
    publishAll adapter lease "bounded progress publication must not block" (sequences 32)
    let snapshot ← expectSome (adapter.leaseSnapshot lease) "saturated snapshot"
    let capacity ← adapter.progressCapacity
    assertEq snapshot.progressProjection.length capacity.toNat
    assertEq snapshot.progressProjection [29, 30, 31]
    expectCall (adapter.terminal lease .completed) "terminal bypasses unread progress"
    expectCall (adapter.release lease) "release bypasses unread progress"
    adapter.dropTicket ticket
    let facts ← adapter.shutdown
    assertClosedAndEmpty facts

def assertDuplicateIdsFailWithoutPartialAdmission : Callback Unit Unit :=
  scenario (adapter.deterministic {}) do
    let (ticket, lease) ← expectCall (adapter.reserve "duplicate") "first reserve"
    assertRefused adapter "duplicate"
      "assertion failed: adapter.reserve(\"duplicate\").is_err()"
    let active ← adapter.activeCount
    assertEq active 1
    expectCall (adapter.queue lease) "queue"
    expectCall (adapter.start lease) "start"
    expectCall (adapter.terminal lease .completed) "terminal"
    expectCall (adapter.release lease) "release"
    adapter.dropTicket ticket

def assertSequenceExhaustionFailsWithoutPartialAdmission : Callback Unit Unit :=
  scenario (adapter.deterministic { nextSequence := 2 ^ 64 - 1, progressCapacity := 1 }) do
    assertRefused adapter "exhausted"
      "assertion failed: adapter.reserve(\"exhausted\").is_err()"
    let active ← adapter.activeCount
    assertEq active 0
    let retained ← adapter.retainedTaskCount
    assertEq retained 0

def assertStaleReleaseCannotRemoveReusedId : Callback Unit Unit :=
  scenario (adapter.deterministic {}) do
    let (firstTicket, stale) ← reserveRunning adapter "reused"
    expectCall (adapter.terminal stale .completed) "first terminal"
    expectCall (adapter.release stale) "first release"
    adapter.dropTicket firstTicket
    let (currentTicket, current) ← expectCall (adapter.reserve "reused") "reuse ID"
    let staleIdentity ← adapter.leaseIdentity stale
    let currentIdentity ← adapter.leaseIdentity current
    Exec.assert (staleIdentity ≠ currentIdentity) "assertion `left != right` failed"
    assertErr (adapter.release stale) "assertion failed: adapter.release(&stale).is_err()"
    let snapshot ← expectSome (adapter.currentSnapshot "reused") "current attempt"
    let currentIdentity ← adapter.leaseIdentity current
    assertEq snapshot.identity currentIdentity
    expectCall (adapter.queue current) "queue current"
    expectCall (adapter.start current) "start current"
    expectCall (adapter.terminal current .completed) "terminal current"
    expectCall (adapter.release current) "release current"
    adapter.dropTicket currentTicket

def assertQuiesceRejectsAdmissionAndShutdownWaitsForRelease : Callback Unit Unit :=
  scenario (adapter.deterministic {}) do
    let (ticket, lease) ← reserveRunning adapter "quiesce"
    adapter.quiesce
    let lifecycle ← adapter.lifecyclePhase
    assertEq lifecycle .quiescing
    assertRefused adapter "late" "assertion failed: adapter.reserve(\"late\").is_err()"
    let pending ← adapter.shutdown
    assertEq pending.lifecycle .quiescing
    assertEq pending.activeOperations 1
    assertEq pending.retainedTasks 1
    Exec.assert (pending.joinedWorkers < pending.expectedWorkers)
      "assertion failed: pending.expected_workers > pending.joined_workers"
    assertCancelled adapter lease "quiesced operation"
    expectCall (adapter.terminal lease .cancelled) "terminal"
    expectCall (adapter.release lease) "release"
    adapter.dropTicket ticket
    let facts ← adapter.shutdown
    assertClosedAndEmpty facts

def assertExecutorPanicRecordsTerminalAndReleases : Callback Unit Unit :=
  scenario (adapter.deterministic {}) do
    let (ticket, lease) ← reserveRunning adapter "panic-safe"
    expectCall (adapter.recordExecutorPanic lease) "panic boundary must record failure terminal"
    let snapshot ← expectSome (adapter.leaseSnapshot lease) "panic terminal"
    assertEq snapshot.phase .terminal
    let record ← Exec.expect snapshot.authoritativeTerminal "failure terminal"
    assertEq record.termClass .failed
    expectCall (adapter.release lease) "panic path releases"
    adapter.dropTicket ticket
    let facts ← adapter.shutdown
    assertClosedAndEmpty facts

def assertRepeatedShutdownIsStableAndEmpty : Callback Unit Unit :=
  scenario (adapter.deterministic {}) do
    let first ← adapter.shutdown
    let second ← adapter.shutdown
    assertEq first second
    assertClosedAndEmpty second

/-! ## Races -/

/-- A thread that calls `terminal` and sees whether it won. -/
def terminalThread (lease : Lease) (termClass : TerminalClass) : Thread σ Empty Bool :=
  .step (adapter.terminal lease termClass) fun result => .ret result.toBool

def assertCancelCompleteRaceHasOneTerminal (schedule : List Bool) : Callback Unit Unit :=
  scenario (adapter.deterministic {}) do
    let (ticket, lease) ← reserveRunning adapter "cancel-complete-race"
    let (cancel, complete) ← raceJoin schedule (terminalThread adapter lease .cancelled)
      (terminalThread adapter lease .completed) "cancel racer" "complete racer"
    assertEq (cancel.toNat + complete.toNat) 1
    let snapshot ← expectSome (adapter.leaseSnapshot lease) "race terminal"
    assertEq snapshot.phase .terminal
    assertEq snapshot.authoritativeTerminal snapshot.finalProjection
    expectCall (adapter.release lease) "release race winner"
    adapter.dropTicket ticket

/-- A thread that sees whether a reservation succeeds; its ticket is dropped at once. -/
def admitThread : Thread σ Empty Bool :=
  .step (adapter.reserve "racing-admission") fun
    | .ok (ticket, _) => .step (adapter.dropTicket ticket) fun _ => .ret true
    | .error _ => .ret false

def quiesceThread : Thread σ Empty Unit := .step adapter.quiesce .ret

def assertAdmitQuiesceRaceIsLinearizable (schedule : List Bool) : Callback Unit Unit :=
  scenario (adapter.deterministic {}) do
    let (admitted, ()) ← raceJoin schedule (admitThread adapter) (quiesceThread adapter)
      "admission racer" "quiesce racer"
    let lifecycle ← adapter.lifecyclePhase
    assertEq lifecycle .quiescing
    let active ← adapter.activeCount
    assertEq active admitted.toNat
    if admitted then
      let snapshot ← expectSome (adapter.currentSnapshot "racing-admission")
        "admitted race operation"
      Exec.assert (snapshot.cancellationRequested = true)
        "assertion failed: snapshot.cancellation_requested"
    assertRefused adapter "post-quiesce"
      "assertion failed: adapter.reserve(\"post-quiesce\").is_err()"

/-- A thread that publishes the sequences until it is refused. -/
def progressThread (lease : Lease) : List UInt64 → Thread σ Empty Unit
  | [] => .ret ()
  | sequence :: sequences => .step (adapter.publishProgress lease sequence) fun
    | .ok () => progressThread lease sequences
    | .error _ => .ret ()

def assertProgressTerminalInterleavingCannotStarveTerminal (schedule : List Bool) :
    Callback Unit Unit :=
  scenario (adapter.deterministic { nextSequence := 1, progressCapacity := 2 }) do
    let (ticket, lease) ← reserveRunning adapter "progress-terminal-race"
    let ((), terminal) ← raceJoin schedule (progressThread adapter lease (sequences 1024))
      (terminalThread adapter lease .completed) "progress producer" "terminal producer"
    Exec.assert (terminal = true) "terminal must not be starved by progress"
    assertPhase adapter lease "terminal" .terminal
    expectCall (adapter.release lease) "release"
    adapter.dropTicket ticket
    let facts ← adapter.shutdown
    assertClosedAndEmpty facts

end LifecycleSuite

open LifecycleSuite in
/-- The tests in order; `schedules` are those of the three races. -/
def runLifecycleSuite {σ Error Ticket Lease : Type}
    (adapter : OperationModelAdapter σ Error Ticket Lease)
    (schedules : List Bool × List Bool × List Bool) : Callback Unit Unit := do
  assertExactTransitionChain adapter
  assertTicketDropCancelsWhileLeaseRetainsIdentity adapter
  assertExplicitConsumerDropRequestsCancellation adapter
  assertOneAuthoritativeTerminalAndProjections adapter
  assertWaiterTimeoutIsObservationalAndRetainsControl adapter
  assertUnreadProgressCannotBlockTerminalReleaseOrShutdown adapter
  assertDuplicateIdsFailWithoutPartialAdmission adapter
  assertSequenceExhaustionFailsWithoutPartialAdmission adapter
  assertStaleReleaseCannotRemoveReusedId adapter
  assertQuiesceRejectsAdmissionAndShutdownWaitsForRelease adapter
  assertExecutorPanicRecordsTerminalAndReleases adapter
  assertRepeatedShutdownIsStableAndEmpty adapter
  assertCancelCompleteRaceHasOneTerminal adapter schedules.1
  assertAdmitQuiesceRaceIsLinearizable adapter schedules.2.1
  assertProgressTerminalInterleavingCannotStarveTerminal adapter schedules.2.2

/-! ## The reference adapter -/

/-- A section with no error value. -/
def infallible {α : Type} (m : Adapter α) : Callback ReferenceState α :=
  LifecycleSuite.expectCall (Exec.result m) "no error value"

/-- `ReferenceAdapter`, with all its callbacks. -/
def referenceAdapter :
    OperationModelAdapter ReferenceState AdapterError ReferenceTicket ReferenceLease where
  deterministic config := match Testkit.deterministic config with
    | .ok state => pure state
    | .error (.panic message) => throw (.panic message)
    | .error (.err _) => throw (.panic "no error value")
  reserve operationId := Exec.result do
    let reservation ← Testkit.reserve operationId
    pure (reservation.ticket, reservation.lease)
  ticketIdentity ticket := pure ticket.identity
  leaseIdentity lease := pure lease.identity
  queue lease := Exec.result (queue lease)
  start lease := Exec.result (start lease)
  publishProgress lease sequence := Exec.result (publishProgress lease sequence)
  requestCancel ticket := Exec.result (requestCancel ticket)
  consumerDrop ticket := Exec.result (consumerDrop ticket)
  waiterTimeout ticket := Exec.result (waiterTimeout ticket)
  terminal lease termClass := Exec.result (terminal lease termClass)
  recordExecutorPanic lease := Exec.result (recordExecutorPanic lease)
  release lease := Exec.result (release lease)
  quiesce := infallible quiesce
  shutdown := infallible shutdown
  lifecyclePhase := do
    let state ← get
    pure state.lifecycle
  activeCount := do
    let state ← get
    pure state.active.size
  retainedTaskCount := do
    let state ← get
    pure state.retainedTasks
  progressCapacity := do
    let state ← get
    pure state.progressCapacity
  currentSnapshot operationId := do
    let state ← get
    pure (currentSnapshot state operationId)
  leaseSnapshot lease := do
    let state ← get
    pure (leaseSnapshot state lease)
  dropTicket ticket := infallible (dropTicket ticket)

end Testkit
end Platform
