import PlatformContracts.Lib.Client
import PlatformContracts.Testkit.Coverage
import PlatformContracts.Testkit.SupervisorDrain

/-!
# The bridge suites (`platform-contract-testkit/src/compositional_lifecycle.rs`)

The suites that run on `ReferenceSupervisorBridge`, as clients of the supervisor.

* `Request`, `answer`: the parts of the bridge's methods that are one step, and how each is
  answered. `bridgeHost`: the answers, and the steps of workers and shutdown tasks between them.
* `reserve`, `waitReleased`, …: the methods of the bridge traits on this bridge. An operation is
  named by its sequence, a shutdown by a number that the suite gives.
* `runAdmissionQuiesceShutdownBridgeSuite`, `runProgressShutdownBridgeSuite`,
  `runPanicShutdownBridgeSuite`, `runStableShutdownSuite`: the suites. A panic has the text of its
  assertion, without the values that it compares.

A wait has no timeout: it fails where the thread that it waits for has ended. The barrier of a race
only holds its two threads back until both are there (`Barrier.rendezvous_completes`).
-/

namespace Platform
namespace Testkit
namespace Supervisor
namespace BridgeSuite

open Client

/-! ## Requests -/

inductive ReferenceShutdownWitnessError where
  | alreadyConsumed (witness : String)
  | disconnected (before : String)
  | workerPanicked
  deriving DecidableEq, Repr

inductive Request where
  | deterministic (progressCapacity : Usize)
  | reserveAdmission (operationId : String)
  | spawn (sequence : UInt64)
  | insertTask (sequence : UInt64)
  | send (sequence : UInt64) (command : ReferenceWorkerCommand)
  | takeReleased (sequence : UInt64)
  | receiveReleased (sequence : UInt64)
  | readReleased (sequence : UInt64)
  | allowExit (sequence : UInt64)
  | dropHandle (sequence : UInt64)
  | snapshot (sequence : UInt64)
  | publishProgress (sequence progress : UInt64)
  | quiesce
  /-- A look at the state behind the lock. -/
  | lock
  | beginShutdown (task : Nat)
  | takeStarted (task : Nat)
  | receiveStarted (task : Nat)
  | tryComplete (task : Nat)
  | receiveResult (task : Nat)
  deriving DecidableEq, Repr

abbrev Request.Reply : Request → Type
  | deterministic _ | spawn _ | insertTask _ | dropHandle _ | quiesce | beginShutdown _ => Unit
  | reserveAdmission _ => Except (Stop AdapterError) AttemptIdentity
  | send .. | takeReleased _ | receiveReleased _ | allowExit _ => Except AdapterError Unit
  | readReleased _ => Except AdapterError OperationSnapshot
  | snapshot _ => Option OperationSnapshot
  | publishProgress .. => Except (Stop AdapterError) Unit
  | lock => ReferenceSupervisorState
  | takeStarted _ | receiveStarted _ => Except ReferenceShutdownWitnessError Unit
  | tryComplete _ => Except ReferenceShutdownWitnessError (Option ShutdownOutcome)
  | receiveResult _ => Except ReferenceShutdownWitnessError ShutdownOutcome

/-- A handle of which some clone is left. -/
def HeldOp (w : World) (sequence : UInt64) (op : Operation) : Prop :=
  w.ops sequence = some op ∧ op.Held

/-- A thread has ended that a call on its handle waits for. -/
def WorkerEnded (w : World) (sequence : UInt64) : Prop :=
  ∃ op, w.ops sequence = some op ∧ op.worker.Ended

def answer (w : World) : (request : Request) → request.Reply → World → Prop
  -- A suite is done with the bridge that it had, and what that one left running goes unseen.
  | .deterministic progressCapacity, _, w' => w' = startWorld progressCapacity
  | .reserveAdmission operationId, reply, w' => Step w (.reserve operationId reply) w'
  | .spawn sequence, _, w' => Step w (.spawn sequence) w'
  | .insertTask sequence, _, w' => Step w (.insertTask sequence) w'
  | .send sequence command, reply, w' =>
    Step w (.handle sequence (.command command)) w' ∧ reply = .ok () ∨
    ∃ op, HeldOp w sequence op ∧
      (op.handle.command = false ∧ w' = w ∧ reply = .error .invalidTransition ∨
        op.handle.command = true ∧ op.worker.Ended ∧
          w' = w.setOp sequence { op with handle.command := false } ∧
          reply = .error .unknownOperation)
  | .takeReleased sequence, reply, w' =>
    Step w (.handle sequence .waitReleased) w' ∧ reply = .ok () ∨
    ∃ op, HeldOp w sequence op ∧ op.handle.released ≠ .held ∧ w' = w ∧
      reply = .error .invalidTransition
  | .receiveReleased sequence, reply, w' =>
    Step w (.handle sequence .released) w' ∧ reply = .ok () ∨
    WorkerEnded w sequence ∧ Step w (.handle sequence .waitFailed) w' ∧
      reply = .error .unknownOperation
  | .readReleased sequence, reply, w' => Step w (.readReleased sequence reply) w'
  | .allowExit sequence, reply, w' =>
    Step w (.handle sequence .allowExit) w' ∧ reply = .ok () ∨
    ∃ op, HeldOp w sequence op ∧
      (op.handle.allowExit = false ∧ w' = w ∧ reply = .error .invalidTransition ∨
        op.handle.allowExit = true ∧ op.worker.Ended ∧
          w' = w.setOp sequence { op with handle.allowExit := false } ∧
          reply = .error .unknownOperation)
  | .dropHandle sequence, _, w' => Step w (.handle sequence .drop) w'
  | .snapshot sequence, reply, w' => Step w (.snapshot sequence reply) w'
  | .publishProgress sequence progress, reply, w' =>
    Step w (.publishProgress sequence progress reply) w'
  | .quiesce, _, w' => Step w .quiesce w'
  | .lock, reply, w' => reply = w.state ∧ w' = w
  | .beginShutdown task, _, w' => Step w (.beginShutdown task) w'
  | .takeStarted task, reply, w' =>
    Step w (.witness task .waitStarted) w' ∧ reply = .ok () ∨
    ∃ d, w.shutdowns task = some d ∧ d.started ≠ .held ∧ w' = w ∧
      reply = .error (.alreadyConsumed "start")
  | .receiveStarted task, reply, w' =>
    Step w (.witness task .started) w' ∧ reply = .ok () ∨
    (∃ d, w.shutdowns task = some d ∧ d.pc.Ended) ∧ Step w (.witness task .waitFailed) w' ∧
      reply = .error (.disconnected "quiescing phase")
  | .tryComplete task, reply, w' =>
    (∃ outcome, Step w (.witness task (.result outcome)) w' ∧ reply = .ok (some outcome)) ∨
    ∃ d, w.shutdowns task = some d ∧ w' = w ∧
      match d.pc with
      | .returned outcome => reply = .ok (some outcome)
      | .failed _ => reply = .error (.disconnected "completion")
      -- The channel is empty.
      | _ => reply = .ok none
  | .receiveResult task, reply, w' =>
    (∃ outcome, Step w (.witness task (.result outcome)) w' ∧ reply = .ok outcome) ∨
    ∃ d, w.shutdowns task = some d ∧ w' = w ∧
      match d.pc with
      | .returned outcome => reply = .ok outcome
      | .failed _ => reply = .error (.disconnected "completion")
      | _ => False

def bridgeHost : Host World Request Request.Reply where
  env w w' := ∃ e, e.internal = true ∧ Step w e w'
  answer := answer

/-! ## The methods of the bridge -/

abbrev Bridge := Client Request Request.Reply

def ask (request : Request) : Bridge request.Reply := Client.request request

/-- What a caller sees of a section: a panic goes on. -/
def ofSection {α : Type} : Except (Stop AdapterError) α → Bridge (Except AdapterError α)
  | .ok a => .ret (.ok a)
  | .error (.err e) => .ret (.error e)
  | .error (.panic message) => .panic message

def reserve (operationId : String) : Bridge (Except AdapterError UInt64) := do
  let admission ← ask (.reserveAdmission operationId)
  andThen (ofSection admission) fun identity => do
    ask (.spawn identity.sequence)
    ask (.insertTask identity.sequence)
    pure (.ok identity.sequence)

def quiesce : Bridge Unit := ask .quiesce

def phase : Bridge LifecyclePhase := do
  let state ← ask .lock
  pure state.lifecycle

def activeCount : Bridge Nat := do
  let state ← ask .lock
  pure state.active.size

def retainedTaskCount : Bridge Nat := do
  let state ← ask .lock
  pure state.tasks.size

def cancellationRequested (operationId : String) : Bridge Bool := do
  let state ← ask .lock
  pure (state.records[operationId]?.any fun snapshot => snapshot.cancellationRequested)

def progressCapacity : Bridge Usize := do
  let state ← ask .lock
  pure state.progressCapacity

def shutdown : Bridge ClosedFacts := do
  let state ← ask .lock
  pure (facts state)

def requestCancelledRelease (operation : UInt64) : Bridge (Except AdapterError Unit) :=
  ask (.send operation (.finish .cancelled))

def requestCompletedRelease (operation : UInt64) : Bridge (Except AdapterError Unit) :=
  ask (.send operation (.finish .completed))

def waitReleased (operation : UInt64) : Bridge (Except AdapterError OperationSnapshot) :=
  andThen (ask (.takeReleased operation)) fun _ =>
    andThen (ask (.receiveReleased operation)) fun _ => ask (.readReleased operation)

def allowWorkerExit (operation : UInt64) : Bridge (Except AdapterError Unit) :=
  ask (.allowExit operation)

def snapshot (operation : UInt64) : Bridge (Option OperationSnapshot) :=
  ask (.snapshot operation)

def publishProgress (operation sequence : UInt64) : Bridge (Except AdapterError Unit) := do
  let published ← ask (.publishProgress operation sequence)
  ofSection published

def runControlledPanickingOperation (operationId : String) : Bridge (Except AdapterError UInt64) :=
  andThen (reserve operationId) fun operation =>
    andThen (ask (.send operation .panic)) fun _ => .ret (.ok operation)

def waitFailedRelease (operation : UInt64) : Bridge (Except AdapterError OperationSnapshot) :=
  andThen (waitReleased operation) fun snapshot =>
    andThen (allowWorkerExit operation) fun _ => .ret (.ok snapshot)

def beginShutdown (task : Nat) : Bridge Unit := ask (.beginShutdown task)

def waitStarted (task : Nat) : Bridge (Except ReferenceShutdownWitnessError Unit) :=
  andThen (ask (.takeStarted task)) fun _ => ask (.receiveStarted task)

def tryComplete (task : Nat) :
    Bridge (Except ReferenceShutdownWitnessError (Option ShutdownOutcome)) :=
  ask (.tryComplete task)

/-- A task that has sent its result has ended, so the join after the result waits for nothing. -/
def wait (task : Nat) : Bridge (Except ReferenceShutdownWitnessError ShutdownOutcome) :=
  ask (.receiveResult task)

/-! ## Assertions -/

/-- `assert_eq!(left, right)`. -/
def assertEq {α : Type} [DecidableEq α] (left right : α) : Bridge Unit :=
  Client.assert (left = right) "assertion `left == right` failed"

def assertCancelledRelease (snapshot : OperationSnapshot) : Bridge Unit := do
  assertEq snapshot.phase .released
  assertEq snapshot.authoritativeTerminal snapshot.finalProjection
  let terminal ← expect snapshot.authoritativeTerminal "authoritative terminal"
  assertEq terminal.termClass .cancelled

def assertClosedAndEmpty (facts : ClosedFacts) : Bridge Unit := do
  assertEq facts.lifecycle .closed
  assertEq facts.activeOperations 0
  assertEq facts.retainedTasks 0
  Client.assert (0 < facts.expectedWorkers) "executed work must identify a worker"
  assertEq facts.joinedWorkers facts.expectedWorkers

def assertShutdownOutcome (outcome : ShutdownOutcome) : Bridge Unit := do
  assertClosedAndEmpty outcome.facts
  Client.assert (outcome.expectedWorkerIds ≠ [])
    "assertion failed: !outcome.expected_worker_ids.is_empty()"
  expectOk outcome.validate "worker IDs must be unique sets matching scalar join facts"

/-- `assert!(shutdown.try_complete().expect(message).is_none())`. -/
def assertPending (task : Nat) (message : String) : Bridge Unit := do
  let completion ← tryComplete task
  let outcome ← expectOk completion message
  Client.assert (outcome = none)
    ("assertion failed: shutdown.try_complete().expect(\"" ++ message ++ "\").is_none()")

/-- `assert!(adapter.reserve(operation_id).is_err())`. -/
def assertRefused (operationId : String) : Bridge Unit := do
  let refused ← reserve operationId
  Client.assert (refused.toBool = false)
    ("assertion failed: adapter.reserve(\"" ++ operationId ++ "\").is_err()")

/-- `CoverageEvidence::passed`. -/
def passed (component suite : String) (invariants : List LifecycleInvariant) :
    Bridge (CoverageEvidence referenceLifecycle) :=
  match CoverageEvidence.passed component suite invariants with
  | .ok evidence => .ret evidence
  | .error (.panic message) => .panic message

/-! ## Admission, quiescence and shutdown -/

/-- The texts of the `expect`s of a cancelled release. -/
structure ReleaseTexts where
  cancel : String
  released : String
  pending : String
  exit : String
  joined : String

/-- The end of both parts of the suite: a worker that was cancelled releases, and the shutdown
joins it and not before. -/
def releaseAndJoin (operation : UInt64) (task : Nat) (texts : ReleaseTexts) : Bridge Unit := do
  let cancelled ← requestCancelledRelease operation
  expectOk cancelled texts.cancel
  let released ← waitReleased operation
  let terminal ← expectOk released texts.released
  assertCancelledRelease terminal
  let active ← activeCount
  assertEq active 0
  let retained ← retainedTaskCount
  assertEq retained 1
  assertPending task texts.pending
  let exit ← allowWorkerExit operation
  expectOk exit texts.exit
  let joined ← wait task
  let outcome ← expectOk joined texts.joined
  assertShutdownOutcome outcome
  let facts ← shutdown
  assertEq facts outcome.facts

/-- The part of an admitted operation in the race. -/
def racingShutdown (operation : UInt64) : Bridge Unit := do
  let requested ← cancellationRequested "racing-admission"
  Client.assert (requested = true)
    "assertion failed: adapter.cancellation_requested(\"racing-admission\")"
  beginShutdown 0
  let started ← waitStarted 0
  expectOk started "shutdown reaches quiescing"
  assertPending 0 "inspect racing shutdown"
  releaseAndJoin operation 0 {
    cancel := "let racing worker publish cancellation and release"
    released := "observe racing worker release"
    pending := "shutdown remains pending before worker exit"
    exit := "allow racing worker exit"
    joined := "join racing worker" }
  ask (.dropHandle operation)

/-- `admit_adapter.reserve("racing-admission").ok()`. -/
def admitRacer : Bridge (Option UInt64) := do
  let admitted ← reserve "racing-admission"
  pure admitted.toOption

def admitQuiesceRace : Bridge Unit := do
  ask (.deterministic 4)
  let (admitted, _) ← spawnJoin admitRacer quiesce "admission racer" "quiesce racer"
  let lifecycle ← phase
  assertEq lifecycle .quiescing
  let active ← activeCount
  assertEq active (if admitted.isSome then 1 else 0)
  match admitted with
  | some operation => racingShutdown operation
  | none => pure ()
  assertRefused "post-quiesce"

def activeShutdown : Bridge Unit := do
  ask (.deterministic 4)
  let admitted ← reserve "active-shutdown"
  let operation ← expectOk admitted "reserve active"
  beginShutdown 0
  let started ← waitStarted 0
  expectOk started "shutdown reaches quiescing"
  let lifecycle ← phase
  assertEq lifecycle .quiescing
  let active ← activeCount
  assertEq active 1
  assertPending 0 "inspect shutdown completion"
  let requested ← cancellationRequested "active-shutdown"
  Client.assert (requested = true)
    "assertion failed: adapter.cancellation_requested(\"active-shutdown\")"
  assertRefused "post-shutdown"
  releaseAndJoin operation 0 {
    cancel := "let active worker publish cancellation and release"
    released := "observe active worker terminal and release"
    pending := "inspect shutdown before worker exit"
    exit := "allow the released worker to exit"
    joined := "shutdown joins released worker" }

def runAdmissionQuiesceShutdownBridgeSuite (component : String) :
    Bridge (CoverageEvidence referenceLifecycle) := do
  admitQuiesceRace
  activeShutdown
  passed component "admission-quiesce-shutdown-bridge"
    [.admitQuiesceRace, .quiesceWaitsForReleaseAndJoin]

/-! ## Progress and shutdown -/

/-- `for sequence in ..` with `expect`. -/
def publishAll (operation : UInt64) : List UInt64 → Bridge Unit
  | [] => pure ()
  | sequence :: sequences => do
    let published ← publishProgress operation sequence
    expectOk published "progress"
    publishAll operation sequences

/-- The loop of the progress racer, which a refused publication breaks. -/
def publishUntilRefused (operation : UInt64) : List UInt64 → Bridge Unit
  | [] => pure ()
  | sequence :: sequences => do
    let published ← publishProgress operation sequence
    if published.toBool = true then publishUntilRefused operation sequences else pure ()

/-- A worker is allowed to exit, and the shutdown joins it. -/
def exitAndJoin (operation : UInt64) (task : Nat) (exit joined : String) : Bridge Unit := do
  let exited ← allowWorkerExit operation
  expectOk exited exit
  let result ← wait task
  let outcome ← expectOk result joined
  assertShutdownOutcome outcome

/-- The first part, with any capacity and any values. -/
def saturatedProgress (capacity : Usize) (sequences : List UInt64) : Bridge Unit := do
  ask (.deterministic capacity)
  let admitted ← reserve "saturated-progress"
  let operation ← expectOk admitted "start"
  publishAll operation sequences
  let record ← snapshot operation
  let record ← expect record "progress snapshot"
  let bound ← progressCapacity
  Client.assert (record.progressProjection.length ≤ bound.toNat)
    "assertion failed: snapshot.progress_projection.len() <= adapter.progress_capacity()"
  beginShutdown 0
  let started ← waitStarted 0
  expectOk started "progress shutdown starts"
  assertPending 0 "inspect shutdown"
  let completed ← requestCompletedRelease operation
  expectOk completed "terminal bypasses unread progress"
  let released ← waitReleased operation
  let record ← expectOk released "observe completion and release"
  assertEq record.phase .released
  assertEq record.authoritativeTerminal record.finalProjection
  let terminal ← expect record.authoritativeTerminal "terminal"
  assertEq terminal.termClass .completed
  assertPending 0 "inspect shutdown"
  exitAndJoin operation 0 "allow progress worker exit" "shutdown joins progress worker"

/-- `terminal_adapter.request_completed_release(&terminal_operation).is_ok()`. -/
def terminalRacer (operation : UInt64) : Bridge Bool := do
  let completed ← requestCompletedRelease operation
  pure completed.toBool

/-- The second part, with any capacity and any values. -/
def progressTerminalRace (capacity : Usize) (sequences : List UInt64) : Bridge Unit := do
  ask (.deterministic capacity)
  let admitted ← reserve "progress-terminal-race"
  let operation ← expectOk admitted "start"
  beginShutdown 0
  let started ← waitStarted 0
  expectOk started "race shutdown starts"
  let (_, terminal) ← spawnJoin (publishUntilRefused operation sequences)
    (terminalRacer operation) "progress producer" "terminal producer"
  Client.assert (terminal = true) "assertion failed: terminal.join().expect(\"terminal producer\")"
  let released ← waitReleased operation
  let record ← expectOk released "race terminal release"
  assertEq record.phase .released
  assertEq record.authoritativeTerminal record.finalProjection
  exitAndJoin operation 0 "allow racing progress worker exit"
    "shutdown joins racing progress worker"

/-- `0..count`. -/
def sequences (count : Nat) : List UInt64 := (List.range count).map UInt64.ofNat

def runProgressShutdownBridgeSuite (component : String) :
    Bridge (CoverageEvidence referenceLifecycle) := do
  saturatedProgress 3 (sequences 32)
  progressTerminalRace 2 (sequences 1024)
  passed component "progress-shutdown-bridge"
    [.unreadProgressCannotBlockFinalOrShutdown, .progressTerminalRace]

/-! ## Panic and shutdown -/

def panicShutdown : Bridge Unit := do
  ask (.deterministic 4)
  let admitted ← runControlledPanickingOperation "panic"
  let operation ← expectOk admitted "supervisor admits panicking executor"
  let released ← waitFailedRelease operation
  let record ← expectOk released "supervisor catches panic and releases identity"
  assertEq record.phase .released
  assertEq record.authoritativeTerminal record.finalProjection
  let terminal ← expect record.authoritativeTerminal "authoritative terminal"
  assertEq terminal.termClass .failed
  beginShutdown 0
  let started ← waitStarted 0
  expectOk started "panic shutdown starts"
  let joined ← wait 0
  let outcome ← expectOk joined "shutdown joins panicked worker"
  assertShutdownOutcome outcome

def runPanicShutdownBridgeSuite (component : String) :
    Bridge (CoverageEvidence referenceLifecycle) := do
  panicShutdown
  passed component "panic-shutdown-bridge" [.panicTerminalAndShutdown]

/-! ## Stable shutdown -/

def startAll : List String → Bridge (List UInt64)
  | [] => pure []
  | operationId :: operationIds => do
    let started ← reserve operationId
    let operation ← expectOk started "start supervised work"
    let operations ← startAll operationIds
    pure (operation :: operations)

def releaseAll : List UInt64 → Bridge Unit
  | [] => pure ()
  | operation :: operations => do
    let completed ← requestCompletedRelease operation
    expectOk completed "request completion and release"
    let released ← waitReleased operation
    let record ← expectOk released "observe release"
    assertEq record.phase .released
    let exited ← allowWorkerExit operation
    expectOk exited "allow supervised worker exit"
    releaseAll operations

/-- `operations.clear()`. -/
def dropAll : List UInt64 → Bridge Unit
  | [] => pure ()
  | operation :: operations => do
    ask (.dropHandle operation)
    dropAll operations

/-- `(1..=count).map(|sequence| format!("shutdown-after-work-{sequence}"))`. -/
def workIds (count : Nat) : List String :=
  (List.range count).map fun i => "shutdown-after-work-" ++ toString (i + 1)

/-- The suite with any number of operations in place of ten. -/
def stableShutdown (count : Nat) : Bridge Unit := do
  ask (.deterministic 4)
  let operations ← startAll (workIds count)
  beginShutdown 0
  let started ← waitStarted 0
  expectOk started "first shutdown starts"
  releaseAll operations.reverse
  let joined ← wait 0
  let first ← expectOk joined "first shutdown joins all workers"
  assertShutdownOutcome first
  Client.assert (first.expectedWorkerIds ≠ first.joinedWorkerIds)
    "ten workers must exercise order-independent worker-set accounting"
  dropAll operations
  beginShutdown 1
  let started ← waitStarted 1
  expectOk started "repeated shutdown starts"
  let joined ← wait 1
  let second ← expectOk joined "repeated shutdown returns canonical outcome"
  assertEq first second
  assertShutdownOutcome second

def runStableShutdownSuite (component : String) : Bridge (CoverageEvidence referenceLifecycle) := do
  stableShutdown 10
  passed component "stable-shutdown" [.repeatedShutdown, .shutdownEmpty]

end BridgeSuite
end Supervisor
end Testkit
end Platform
