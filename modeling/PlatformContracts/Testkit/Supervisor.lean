import PlatformContracts.Lib.Check
import PlatformContracts.Testkit.Adapter

/-!
# The reference supervisor (`platform-contract-testkit/src/compositional_lifecycle.rs`)

`ReferenceSupervisorBridge` admits operations, each with a worker thread of its own, and joins the
workers at shutdown. What it does under one lock is a section (`Exec`) on
`ReferenceSupervisorState`.

* `reserve` has two sections, `reserveAdmission` and `insertTask`, and the spawn of the worker
  between them.
* The worker of an operation has one section, `workerRelease`.
* `finish_shutdown` has two, `takeTasks` (once no operation is active) and `closeShutdown`, and
  the joins between them.
* `ShutdownOutcome.validate` (`platform-contract-testkit/src/model.rs`): the check of what a
  shutdown returns.

A `JoinHandle` is the handle of the worker with the given sequence. A length is a `usize`.
-/

namespace Platform
namespace Testkit

open Std

/-! ## Shutdown outcomes -/

structure ShutdownOutcome where
  facts : ClosedFacts
  expectedWorkerIds : List String
  joinedWorkerIds : List String
  deriving DecidableEq, Repr

inductive ShutdownOutcomeError where
  | duplicateExpectedWorkerId
  | duplicateJoinedWorkerId
  | countMismatch
  | workerSetMismatch
  deriving DecidableEq, Repr

def ShutdownOutcome.validate (outcome : ShutdownOutcome) : Except ShutdownOutcomeError Unit := do
  let expected := outcome.expectedWorkerIds.toFinset
  check (expected.card = outcome.expectedWorkerIds.length) .duplicateExpectedWorkerId
  let joined := outcome.joinedWorkerIds.toFinset
  check (joined.card = outcome.joinedWorkerIds.length) .duplicateJoinedWorkerId
  check (¬(UInt64.ofNat expected.card ≠ outcome.facts.expectedWorkers ∨
    UInt64.ofNat joined.card ≠ outcome.facts.joinedWorkers)) .countMismatch
  check (expected = joined) .workerSetMismatch

/-! ## The state -/

structure JoinHandle where
  worker : UInt64
  deriving DecidableEq, Repr

structure ReferenceSupervisorState where
  lifecycle : LifecyclePhase
  nextSequence : UInt64
  records : ExtTreeMap String OperationSnapshot
  active : ExtTreeMap String UInt64
  tasks : ExtTreeMap String (Option JoinHandle)
  expectedWorkerIds : List String
  joinedWorkerIds : List String
  progressCapacity : Usize
  deriving DecidableEq

/-- A section of the supervisor. -/
abbrev Supervisor := Exec ReferenceSupervisorState AdapterError

inductive ReferenceWorkerCommand where
  | finish (termClass : TerminalClass)
  | panic
  deriving DecidableEq, Repr

/-- The class that the worker gets out of the command: `catch_unwind` makes a panic a failure. -/
def ReferenceWorkerCommand.termClass : ReferenceWorkerCommand → TerminalClass
  | finish termClass => termClass
  | panic => .failed

namespace Supervisor

/-- `ReferenceSupervisorBridge::deterministic`; the other bridges leave the capacity at 4. -/
def deterministic (progressCapacity : Usize := 4) : ReferenceSupervisorState where
  lifecycle := .running
  nextSequence := 1
  records := ∅
  active := ∅
  tasks := ∅
  expectedWorkerIds := []
  joinedWorkerIds := []
  progressCapacity := progressCapacity

/-- `ReferenceSupervisorBridge::facts`, and `shutdown`. -/
def facts (state : ReferenceSupervisorState) : ClosedFacts where
  lifecycle := state.lifecycle
  activeOperations := state.active.size
  retainedTasks := UInt64.ofNat state.tasks.size
  expectedWorkers := UInt64.ofNat state.expectedWorkerIds.length
  joinedWorkers := UInt64.ofNat state.joinedWorkerIds.length

/-- The update of the loop in `quiesce_inner`. -/
def cancelRecord (snapshot : OperationSnapshot) : OperationSnapshot :=
  { snapshot with cancellationRequested := true }

def quiesceInner : Supervisor Unit :=
  modify fun state =>
    if state.lifecycle = .running then
      { state with
        lifecycle := .quiescing
        records := (state.active.toList.map (·.1)).foldl
          (fun records operationId => records.modify operationId cancelRecord) state.records }
    else state

/-! ## `reserve` -/

/-- The ID of the worker of the operation that was admitted with this sequence. -/
def workerId (sequence : UInt64) : String := "worker-" ++ toString sequence.toNat

/-- The record of an operation that was just admitted. -/
def newRecord (identity : AttemptIdentity) : OperationSnapshot where
  identity := identity
  phase := .running
  cancellationRequested := false
  authoritativeTerminal := none
  finalProjection := none
  progressProjection := []

/-- The first section of `reserve`. -/
def reserveAdmission (operationId : String) : Supervisor AttemptIdentity := do
  let state ← get
  Exec.ensure (state.lifecycle = .running) .admissionClosed
  Exec.ensure (¬state.active.contains operationId) .duplicateOperation
  let sequence := state.nextSequence
  let next ← Exec.ofResult (Exec.okOr (checkedAdd sequence 1) .sequenceExhausted)
  let identity := mintIdentity operationId sequence
  modify fun state => { state with nextSequence := next }
  modify fun state => { state with active := state.active.insert operationId sequence }
  modify fun state =>
    { state with records := state.records.insert operationId (newRecord identity) }
  modify fun state =>
    { state with expectedWorkerIds := state.expectedWorkerIds ++ [workerId sequence] }
  pure identity

/-- The second section of `reserve`, with the handle of the worker that it spawned. -/
def insertTask (sequence : UInt64) : Supervisor Unit :=
  modify fun state =>
    { state with tasks := state.tasks.insert (workerId sequence) (some ⟨sequence⟩) }

/-! ## The worker -/

/-- The record with its terminal. -/
def releaseRecord (termClass : TerminalClass) (snapshot : OperationSnapshot) :
    OperationSnapshot :=
  let terminal := { termClass, sequence := snapshot.identity.sequence }
  { snapshot with
    phase := .released
    authoritativeTerminal := some terminal
    finalProjection := some terminal }

def workerRelease (operationId : String) (termClass : TerminalClass) : Supervisor Unit := do
  let state ← get
  let snapshot ← Exec.expect state.records[operationId]? "controlled operation record"
  modify fun state =>
    { state with records := state.records.insert operationId (releaseRecord termClass snapshot) }
  modify fun state => { state with active := state.active.erase operationId }

/-! ## Calls on a handle -/

/-- The record that `wait_released` reads after the notification. -/
def readReleased (operationId : String) (state : ReferenceSupervisorState) :
    Except AdapterError OperationSnapshot :=
  Exec.okOr state.records[operationId]? .unknownOperation

def snapshot (operationId : String) (state : ReferenceSupervisorState) :
    Option OperationSnapshot :=
  state.records[operationId]?

def publishProgress (operationId : String) (sequence : UInt64) : Supervisor Unit := do
  let state ← get
  let capacity := state.progressCapacity
  let snapshot ← Exec.ofResult (Exec.okOr state.records[operationId]? .unknownOperation)
  Exec.ensure (snapshot.phase = .running) .invalidTransition
  -- `Vec::remove(0)` of an empty vector, when the capacity is 0.
  Exec.assert (snapshot.progressProjection.length = capacity.toNat →
    snapshot.progressProjection ≠ []) "removal index (is 0) should be < len (is 0)"
  modify fun state =>
    { state with
      records := state.records.insert operationId
        { snapshot with
          progressProjection := pushProgress capacity snapshot.progressProjection sequence } }

/-! ## `finish_shutdown` -/

/-- `handle.take().expect(..)` of each entry, in the order of the worker IDs. -/
def takeHandles : List (String × Option JoinHandle) → Supervisor (List (String × JoinHandle))
  | [] => pure []
  | (workerId, handle) :: entries => do
    modify fun state => { state with tasks := state.tasks.insert workerId none }
    let handle ← Exec.expect handle "retained task must own its JoinHandle"
    let taken ← takeHandles entries
    pure ((workerId, handle) :: taken)

/-- The first section, at the end of its wait. -/
def takeTasks : Supervisor (List (String × JoinHandle)) := do
  let state ← get
  takeHandles state.tasks.toList

/-- The second section, with the IDs of the workers that were joined. -/
def closeShutdown (joined : List String) : Supervisor ShutdownOutcome := do
  modify fun state => { state with
    tasks := joined.foldl (fun tasks workerId => tasks.erase workerId) state.tasks
    joinedWorkerIds := state.joinedWorkerIds ++ joined }
  modify fun state => { state with lifecycle := .closed }
  let state ← get
  pure {
    facts := facts state
    expectedWorkerIds := state.expectedWorkerIds
    joinedWorkerIds := state.joinedWorkerIds }

end Supervisor

end Testkit
end Platform
