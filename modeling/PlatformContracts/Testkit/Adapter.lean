import PlatformContracts.Lib.Exec
import PlatformContracts.Lib.FinMap

/-!
# The reference operation adapter (`platform-contract-testkit/src/model.rs`)

`ReferenceAdapter` is a mutex around `ReferenceState`. Each method takes the lock once, or twice
for `shutdown` and `consumer_drop`; what it does under one lock is a section (`Exec`) on the
state.

* A ticket and a lease hold the identity of the attempt that they were minted for, and nothing
  else that the adapter reads. `reserve` mints both.
* `usize` is a 64-bit word. `retained_tasks -= 1` is the checked subtraction of a debug build.
* `BTreeMap` is the ordered map `Std.ExtTreeMap`, `VecDeque` is a list with its front first.
-/

namespace Platform
namespace Testkit

open Std

/-- `usize` of a 64-bit target. -/
abbrev Usize := UInt64

inductive LifecyclePhase where
  | running
  | quiescing
  | closed
  deriving DecidableEq, Repr

inductive OperationPhase where
  | reserved
  | queued
  | running
  | terminal
  | released
  deriving DecidableEq, Repr

inductive TerminalClass where
  | completed
  | cancelled
  | failed
  deriving DecidableEq, Repr

structure AttemptIdentity where
  operationId : String
  attemptId : String
  sequence : UInt64
  deriving DecidableEq, Repr

structure TerminalRecord where
  termClass : TerminalClass
  sequence : UInt64
  deriving DecidableEq, Repr

structure OperationSnapshot where
  identity : AttemptIdentity
  phase : OperationPhase
  cancellationRequested : Bool
  authoritativeTerminal : Option TerminalRecord
  finalProjection : Option TerminalRecord
  progressProjection : List UInt64
  deriving DecidableEq, Repr

structure TestConfig where
  nextSequence : UInt64 := 1
  progressCapacity : Usize := 4
  deriving DecidableEq, Repr

structure ClosedFacts where
  lifecycle : LifecyclePhase
  activeOperations : Nat
  retainedTasks : Usize
  expectedWorkers : Usize
  joinedWorkers : Usize
  deriving DecidableEq, Repr

inductive WaitObservation where
  | timedOut
  deriving DecidableEq, Repr

inductive AdapterError where
  | admissionClosed
  | duplicateOperation
  | unknownOperation
  | staleLease
  | invalidTransition
  | sequenceExhausted
  deriving DecidableEq, Repr

structure ReferenceOperation where
  identity : AttemptIdentity
  phase : OperationPhase
  cancellationRequested : Bool
  terminal : Option TerminalRecord
  progress : List UInt64
  deriving DecidableEq, Repr

structure ReferenceState where
  lifecycle : LifecyclePhase
  nextSequence : UInt64
  progressCapacity : Usize
  active : ExtTreeMap String UInt64
  attempts : ExtTreeMap UInt64 ReferenceOperation
  retainedTasks : Usize
  joinedWorkers : Usize
  deriving DecidableEq

structure ReferenceTicket where
  identity : AttemptIdentity
  deriving DecidableEq, Repr

structure ReferenceLease where
  identity : AttemptIdentity
  deriving DecidableEq, Repr

structure Reservation where
  ticket : ReferenceTicket
  lease : ReferenceLease
  deriving DecidableEq, Repr

/-- A section of the adapter. -/
abbrev Adapter := Exec ReferenceState AdapterError

/-- Write through the reference that `operationMut` returned. -/
def ReferenceState.setAttempt (state : ReferenceState) (sequence : UInt64)
    (operation : ReferenceOperation) : ReferenceState :=
  { state with attempts := state.attempts.insert sequence operation }

/-- `ReferenceAdapter::operation_mut`: the record that the identity names, if the identity is the
record's and the attempt is not released. -/
def operationMut (state : ReferenceState) (identity : AttemptIdentity) :
    Except AdapterError ReferenceOperation :=
  match state.attempts[identity.sequence]? with
  | none => .error .unknownOperation
  | some operation =>
    if operation.identity ≠ identity ∨ operation.phase = .released then .error .staleLease
    else .ok operation

/-- `ReferenceAdapter::snapshot`. -/
def snapshot (operation : ReferenceOperation) : OperationSnapshot where
  identity := operation.identity
  phase := operation.phase
  cancellationRequested := operation.cancellationRequested
  authoritativeTerminal := operation.terminal
  finalProjection := operation.terminal
  progressProjection := operation.progress

/-- `ReferenceAdapter::deterministic`. -/
def deterministic (config : TestConfig) : Except (Stop AdapterError) ReferenceState :=
  if 0 < config.progressCapacity then
    .ok {
      lifecycle := .running
      nextSequence := config.nextSequence
      progressCapacity := config.progressCapacity
      active := ∅
      attempts := ∅
      retainedTasks := 0
      joinedWorkers := 0 }
  else .error (.panic "progress must be bounded above zero")

/-- The identity that `reserve` mints. -/
def mintIdentity (operationId : String) (sequence : UInt64) : AttemptIdentity where
  operationId := operationId
  attemptId := operationId ++ "#" ++ toString sequence.toNat
  sequence := sequence

/-- The record of an attempt that was just admitted. -/
def newOperation (identity : AttemptIdentity) : ReferenceOperation where
  identity := identity
  phase := .reserved
  cancellationRequested := false
  terminal := none
  progress := []

def reserve (operationId : String) : Adapter Reservation := do
  let state ← get
  Exec.ensure (state.lifecycle = .running) .admissionClosed
  Exec.ensure (¬state.active.contains operationId) .duplicateOperation
  let next ← Exec.ofResult (Exec.okOr (checkedAdd state.nextSequence 1) .sequenceExhausted)
  let sequence := state.nextSequence
  let identity := mintIdentity operationId sequence
  modify fun state => { state with nextSequence := next }
  modify fun state => { state with active := state.active.insert operationId sequence }
  modify fun state => state.setAttempt sequence (newOperation identity)
  let state ← get
  let retained ← Exec.expect (checkedAdd state.retainedTasks 1)
    "test retained-task count exhausted"
  modify fun state => { state with retainedTasks := retained }
  pure { ticket := { identity }, lease := { identity } }

/-- A lease operation: the attempt must be in the phase `expected`, and its record is updated. -/
def advance (lease : ReferenceLease) (expected : OperationPhase)
    (update : ReferenceOperation → ReferenceOperation) : Adapter Unit := do
  let state ← get
  let operation ← Exec.ofResult (operationMut state lease.identity)
  Exec.ensure (operation.phase = expected) .invalidTransition
  modify fun state => state.setAttempt lease.identity.sequence (update operation)

def queue (lease : ReferenceLease) : Adapter Unit :=
  advance lease .reserved fun operation => { operation with phase := .queued }

def start (lease : ReferenceLease) : Adapter Unit :=
  advance lease .queued fun operation => { operation with phase := .running }

/-- `pop_front` of a full queue, then `push_back`. -/
def pushProgress (capacity : Usize) (progress : List UInt64) (sequence : UInt64) : List UInt64 :=
  (if progress.length = capacity.toNat then progress.tail else progress) ++ [sequence]

def publishProgress (lease : ReferenceLease) (sequence : UInt64) : Adapter Unit := do
  let state ← get
  let capacity := state.progressCapacity
  advance lease .running fun operation =>
    { operation with progress := pushProgress capacity operation.progress sequence }

def terminalInner (lease : ReferenceLease) (termClass : TerminalClass) : Adapter Unit :=
  advance lease .running fun operation =>
    { operation with
      terminal := some { termClass, sequence := lease.identity.sequence }
      phase := .terminal }

def terminal (lease : ReferenceLease) (termClass : TerminalClass) : Adapter Unit :=
  terminalInner lease termClass

def recordExecutorPanic (lease : ReferenceLease) : Adapter Unit :=
  terminalInner lease .failed

def release (lease : ReferenceLease) : Adapter Unit := do
  advance lease .terminal fun operation => { operation with phase := .released }
  let state ← get
  let removed := state.active[lease.identity.operationId]?
  modify fun state => { state with active := state.active.erase lease.identity.operationId }
  -- The record and the registry are written before this check can fail.
  Exec.ensure (removed = some lease.identity.sequence) .staleLease
  let state ← get
  let retained ← Exec.expect (checkedSub state.retainedTasks 1)
    "attempt to subtract with overflow"
  modify fun state => { state with retainedTasks := retained }
  let state ← get
  let joined ← Exec.expect (checkedAdd state.joinedWorkers 1)
    "test joined-worker count exhausted"
  modify fun state => { state with joinedWorkers := joined }

/-- The update of `request_reference_cancellation`. -/
def cancelOperation (operation : ReferenceOperation) : ReferenceOperation :=
  { operation with cancellationRequested := true }

def requestReferenceCancellation (identity : AttemptIdentity) : Adapter Unit :=
  modify fun state =>
    match state.attempts[identity.sequence]? with
    | none => state
    | some operation =>
      if operation.identity = identity ∧
          ¬(operation.phase = .terminal ∨ operation.phase = .released) then
        state.setAttempt identity.sequence (cancelOperation operation)
      else state

def requestCancel (ticket : ReferenceTicket) : Adapter Unit :=
  requestReferenceCancellation ticket.identity

/-- `Drop for ReferenceTicket`. -/
def dropTicket (ticket : ReferenceTicket) : Adapter Unit :=
  requestReferenceCancellation ticket.identity

/-- The request and then the ticket's `Drop`: two sections. -/
def consumerDrop (ticket : ReferenceTicket) : Adapter Unit := do
  requestReferenceCancellation ticket.identity
  dropTicket ticket

def waiterTimeout (ticket : ReferenceTicket) : Adapter WaitObservation := do
  let state ← get
  let _ ← Exec.ofResult (Exec.okOr
    (state.attempts[ticket.identity.sequence]?.filter fun operation =>
      operation.identity = ticket.identity)
    .unknownOperation)
  pure .timedOut

/-- The update of the loop in `quiesce`. -/
def quiesceOperation (operation : ReferenceOperation) : ReferenceOperation :=
  if operation.phase ≠ .terminal then { operation with cancellationRequested := true }
  else operation

def quiesce : Adapter Unit :=
  modify fun state =>
    if state.lifecycle = .running then
      { state with
        lifecycle := .quiescing
        attempts := (state.active.toList.map (·.2)).foldl
          (fun attempts sequence => attempts.modify sequence quiesceOperation) state.attempts }
    else state

def closedFacts (state : ReferenceState) : Adapter ClosedFacts := do
  let expected ← Exec.expect (checkedAdd state.joinedWorkers state.retainedTasks)
    "test expected-worker count exhausted"
  pure {
    lifecycle := state.lifecycle
    activeOperations := state.active.size
    retainedTasks := state.retainedTasks
    expectedWorkers := expected
    joinedWorkers := state.joinedWorkers }

/-- The second section of `shutdown`. -/
def shutdownClose : Adapter ClosedFacts := do
  modify fun state =>
    if state.active.isEmpty ∧ state.retainedTasks = 0 then { state with lifecycle := .closed }
    else state
  let state ← get
  closedFacts state

/-- The sections of `shutdown`, with nothing between them. -/
def shutdown : Adapter ClosedFacts := do
  quiesce
  shutdownClose

/-! ## Reads -/

def currentSnapshot (state : ReferenceState) (operationId : String) : Option OperationSnapshot :=
  match state.active[operationId]? with
  | none => none
  | some sequence => state.attempts[sequence]?.map snapshot

def leaseSnapshot (state : ReferenceState) (lease : ReferenceLease) : Option OperationSnapshot :=
  (state.attempts[lease.identity.sequence]?.filter fun operation =>
    operation.identity = lease.identity).map snapshot

end Testkit
end Platform
