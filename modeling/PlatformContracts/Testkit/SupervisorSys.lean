import PlatformContracts.Lib.Sys
import PlatformContracts.Testkit.Supervisor

/-!
# Callers, workers and shutdowns on one supervisor

Any number of threads call the bridge. An admitted operation has the call of `reserve` that
admitted it, its worker and its handle; a shutdown has its task and its witness.

* `Operation`, `Operation.Step`: an operation, and what goes over the three channels between a
  handle and its worker. A rendezvous is one step of both sides.
* `ShutdownTask`, `ShutdownTask.Step`: a shutdown, and the two channels between its task and its
  witness.
* `Step`: the sections of the bridge, one thread at a time, and the channels between them.
* `supervisorSys capacity`: the states and the steps, from `deterministic(capacity)`.

A receiver that its call took out is dropped when the call ends, so a wait that times out drops
it. A call that finds its end of a channel taken returns an error and changes nothing: it is no
step.
-/

namespace Platform
namespace Testkit
namespace Supervisor

/-! ## Operations -/

/-- Where the call of `reserve` is, after it admitted the operation. -/
inductive ReserveCall where
  | spawning
  | inserting
  | returned
  deriving DecidableEq, Repr

/-- Where the worker of an operation is. -/
inductive Worker where
  | unspawned
  /-- At `command_rx.recv()`. -/
  | receiving
  /-- Before its section. -/
  | commanded (command : ReferenceWorkerCommand)
  /-- At `released_tx.send(())`. -/
  | notifying
  /-- At `allow_exit_rx.recv()`. -/
  | exiting
  | exited
  /-- Panicked before its section. -/
  | abandoned
  /-- Panicked after its section. -/
  | panicked
  deriving DecidableEq, Repr

/-- The receiving end of a channel on the caller's side. -/
inductive ReceiverEnd where
  | held
  /-- A call took it out and waits on it. -/
  | waiting
  /-- The call received, and did not end yet. -/
  | received
  | gone
  deriving DecidableEq, Repr

/-- What is left of `ReferenceControlledOperationInner`. -/
structure OperationHandle where
  /-- Some clone of the handle is left. -/
  held : Bool
  command : Bool
  released : ReceiverEnd
  allowExit : Bool
  deriving DecidableEq, Repr

namespace OperationHandle

def new : OperationHandle := ⟨true, true, .held, true⟩

def dropped : OperationHandle := ⟨false, false, .gone, false⟩

end OperationHandle

structure Operation where
  identity : AttemptIdentity
  call : ReserveCall
  worker : Worker
  handle : OperationHandle
  deriving DecidableEq, Repr

/-- What happens between a handle and its worker. -/
inductive HandleEvent where
  | command (command : ReferenceWorkerCommand)
  | waitReleased
  | released
  /-- `wait_released` times out, or finds the worker gone. -/
  | waitFailed
  | allowExit
  /-- The last clone is dropped. -/
  | drop
  | commandLost
  | releasedLost
  | exitLost
  deriving DecidableEq, Repr

/-- A handle exists once `reserve` returned it. -/
def Operation.Held (op : Operation) : Prop := op.call = .returned ∧ op.handle.held = true

inductive Operation.Step (op : Operation) : HandleEvent → Operation → Prop
  | command (command : ReferenceWorkerCommand) :
      op.Held → op.handle.command = true → op.worker = .receiving →
      Step op (.command command)
        { op with worker := .commanded command, handle.command := false }
  | waitReleased :
      op.Held → op.handle.released = .held →
      Step op .waitReleased { op with handle.released := .waiting }
  | released :
      op.handle.released = .waiting → op.worker = .notifying →
      Step op .released { op with worker := .exiting, handle.released := .received }
  | waitFailed :
      op.handle.released = .waiting →
      Step op .waitFailed { op with handle.released := .gone }
  | allowExit :
      op.Held → op.handle.allowExit = true → op.worker = .exiting →
      Step op .allowExit { op with worker := .exited, handle.allowExit := false }
  | drop :
      op.Held → op.handle.released ≠ .waiting → op.handle.released ≠ .received →
      Step op .drop { op with handle := .dropped }
  | commandLost :
      op.worker = .receiving → op.handle.command = false →
      Step op .commandLost { op with worker := .abandoned }
  | releasedLost :
      op.worker = .notifying → op.handle.released = .gone →
      Step op .releasedLost { op with worker := .panicked }
  | exitLost :
      op.worker = .exiting → op.handle.allowExit = false →
      Step op .exitLost { op with worker := .panicked }

/-! ## Shutdowns -/

/-- Where the task of a shutdown is. -/
inductive ShutdownPc where
  /-- Before `quiesce_inner`. -/
  | quiescing
  /-- At `started_tx.send(())`. -/
  | starting
  /-- In `finish_shutdown`, before its first section. -/
  | waiting
  | joining (todo : List (String × JoinHandle)) (joined : List String)
  /-- At `result_tx.send(..)`. -/
  | sending (outcome : ShutdownOutcome)
  | returned (outcome : ShutdownOutcome)
  /-- An `expect` failed. -/
  | failed (message : String)
  deriving DecidableEq, Repr

structure ShutdownTask where
  pc : ShutdownPc
  /-- The receivers that the witness holds. -/
  started : ReceiverEnd
  result : Bool
  deriving DecidableEq, Repr

/-- What happens between a task and its witness. -/
inductive WitnessEvent where
  | waitStarted
  | started
  /-- `wait_started` times out, or finds the task gone. -/
  | waitFailed
  | result (outcome : ShutdownOutcome)
  | drop
  | startedLost
  | resultLost
  deriving DecidableEq, Repr

inductive ShutdownTask.Step (task : ShutdownTask) : WitnessEvent → ShutdownTask → Prop
  | waitStarted :
      task.started = .held → Step task .waitStarted { task with started := .waiting }
  | started :
      task.started = .waiting → task.pc = .starting →
      Step task .started { task with pc := .waiting, started := .gone }
  | waitFailed :
      task.started = .waiting → Step task .waitFailed { task with started := .gone }
  | result (outcome : ShutdownOutcome) :
      task.pc = .sending outcome → task.result = true →
      Step task (.result outcome) { task with pc := .returned outcome }
  | drop :
      task.result = true → task.started ≠ .waiting →
      Step task .drop { task with started := .gone, result := false }
  | startedLost :
      task.pc = .starting → task.started = .gone →
      Step task .startedLost { task with pc := .failed "shutdown start receiver" }
  | resultLost (outcome : ShutdownOutcome) :
      task.pc = .sending outcome → task.result = false →
      Step task .resultLost { task with pc := .failed "shutdown result receiver" }

/-! ## The system -/

/-- The state behind the lock, the operations that were admitted (by sequence) and the shutdowns
that were begun. -/
structure World where
  state : ReferenceSupervisorState
  ops : UInt64 → Option Operation
  shutdowns : Nat → Option ShutdownTask

namespace World

variable (w : World)

def setOp (sequence : UInt64) (op : Operation) : World :=
  { w with ops := Function.update w.ops sequence (some op) }

def setShutdown (task : Nat) (shutdown : ShutdownTask) : World :=
  { w with shutdowns := Function.update w.shutdowns task (some shutdown) }

end World

inductive Event where
  | reserve (operationId : String) (reply : Except (Stop AdapterError) AttemptIdentity)
  | spawn (sequence : UInt64)
  | insertTask (sequence : UInt64)
  | handle (sequence : UInt64) (event : HandleEvent)
  | workerRelease (sequence : UInt64) (reply : Except (Stop AdapterError) Unit)
  | readReleased (sequence : UInt64) (reply : Except AdapterError OperationSnapshot)
  | snapshot (sequence : UInt64) (reply : Option OperationSnapshot)
  | publishProgress (sequence : UInt64) (progress : UInt64)
      (reply : Except (Stop AdapterError) Unit)
  | quiesce
  | beginShutdown (task : Nat)
  | quiesceShutdown (task : Nat)
  | witness (task : Nat) (event : WitnessEvent)
  | takeTasks (task : Nat) (reply : Except (Stop AdapterError) (List (String × JoinHandle)))
  | join (task : Nat) (joined : Bool)
  | closeShutdown (task : Nat) (outcome : ShutdownOutcome)
  deriving Repr

/-- The steps of the callers, the workers and the shutdown tasks. -/
inductive Step (w : World) : Event → World → Prop
  | reserve {operationId : String} {identity : AttemptIdentity} {s : ReferenceSupervisorState} :
      (reserveAdmission operationId).on w.state = (.ok identity, s) →
      Step w (.reserve operationId (.ok identity))
        (World.setOp { w with state := s } identity.sequence
          ⟨identity, .spawning, .unspawned, .new⟩)
  | refuse {operationId : String} {e : Stop AdapterError} {s : ReferenceSupervisorState} :
      (reserveAdmission operationId).on w.state = (.error e, s) →
      Step w (.reserve operationId (.error e)) { w with state := s }
  | spawn {sequence : UInt64} {op : Operation} :
      w.ops sequence = some op → op.call = .spawning →
      Step w (.spawn sequence)
        (w.setOp sequence { op with call := .inserting, worker := .receiving })
  | insertTask {sequence : UInt64} {op : Operation} {s : ReferenceSupervisorState} :
      w.ops sequence = some op → op.call = .inserting →
      (insertTask sequence).on w.state = (.ok (), s) →
      Step w (.insertTask sequence)
        (World.setOp { w with state := s } sequence { op with call := .returned })
  | handle {sequence : UInt64} {op op' : Operation} {e : HandleEvent} :
      w.ops sequence = some op → op.Step e op' → Step w (.handle sequence e) (w.setOp sequence op')
  | workerRelease {sequence : UInt64} {op : Operation} {command : ReferenceWorkerCommand}
      {s : ReferenceSupervisorState} :
      w.ops sequence = some op → op.worker = .commanded command →
      (workerRelease op.identity.operationId command.termClass).on w.state = (.ok (), s) →
      Step w (.workerRelease sequence (.ok ()))
        (World.setOp { w with state := s } sequence { op with worker := .notifying })
  | workerPanic {sequence : UInt64} {op : Operation} {command : ReferenceWorkerCommand}
      {s : ReferenceSupervisorState} {e : Stop AdapterError} :
      w.ops sequence = some op → op.worker = .commanded command →
      (workerRelease op.identity.operationId command.termClass).on w.state = (.error e, s) →
      Step w (.workerRelease sequence (.error e))
        (World.setOp { w with state := s } sequence { op with worker := .abandoned })
  | readReleased {sequence : UInt64} {op : Operation} :
      w.ops sequence = some op → op.handle.released = .received →
      Step w (.readReleased sequence (readReleased op.identity.operationId w.state))
        (w.setOp sequence { op with handle.released := .gone })
  | snapshot {sequence : UInt64} {op : Operation} :
      w.ops sequence = some op → op.Held →
      Step w (.snapshot sequence (snapshot op.identity.operationId w.state)) w
  | publishProgress {sequence progress : UInt64} {op : Operation}
      {reply : Except (Stop AdapterError) Unit} {s : ReferenceSupervisorState} :
      w.ops sequence = some op → op.Held →
      (publishProgress op.identity.operationId progress).on w.state = (reply, s) →
      Step w (.publishProgress sequence progress reply) { w with state := s }
  | quiesce {s : ReferenceSupervisorState} :
      quiesceInner.on w.state = (.ok (), s) → Step w .quiesce { w with state := s }
  | beginShutdown {task : Nat} :
      w.shutdowns task = none →
      Step w (.beginShutdown task) (w.setShutdown task ⟨.quiescing, .held, true⟩)
  | quiesceShutdown {task : Nat} {shutdown : ShutdownTask} {s : ReferenceSupervisorState} :
      w.shutdowns task = some shutdown → shutdown.pc = .quiescing →
      quiesceInner.on w.state = (.ok (), s) →
      Step w (.quiesceShutdown task)
        (World.setShutdown { w with state := s } task { shutdown with pc := .starting })
  | witness {task : Nat} {shutdown shutdown' : ShutdownTask} {e : WitnessEvent} :
      w.shutdowns task = some shutdown → shutdown.Step e shutdown' →
      Step w (.witness task e) (w.setShutdown task shutdown')
  | takeTasks {task : Nat} {shutdown : ShutdownTask} {todo : List (String × JoinHandle)}
      {s : ReferenceSupervisorState} :
      w.shutdowns task = some shutdown → shutdown.pc = .waiting → w.state.active.isEmpty →
      takeTasks.on w.state = (.ok todo, s) →
      Step w (.takeTasks task (.ok todo))
        (World.setShutdown { w with state := s } task { shutdown with pc := .joining todo [] })
  | takeTasksFailed {task : Nat} {shutdown : ShutdownTask} {message : String}
      {s : ReferenceSupervisorState} :
      w.shutdowns task = some shutdown → shutdown.pc = .waiting → w.state.active.isEmpty →
      takeTasks.on w.state = (.error (.panic message), s) →
      Step w (.takeTasks task (.error (.panic message)))
        (World.setShutdown { w with state := s } task { shutdown with pc := .failed message })
  | join {task : Nat} {shutdown : ShutdownTask} {workerId : String} {handle : JoinHandle}
      {todo : List (String × JoinHandle)} {joined : List String} {op : Operation} :
      w.shutdowns task = some shutdown →
      shutdown.pc = .joining ((workerId, handle) :: todo) joined →
      w.ops handle.worker = some op → op.worker = .exited →
      Step w (.join task true)
        (w.setShutdown task { shutdown with pc := .joining todo (joined ++ [workerId]) })
  | joinFailed {task : Nat} {shutdown : ShutdownTask} {workerId : String} {handle : JoinHandle}
      {todo : List (String × JoinHandle)} {joined : List String} {op : Operation} :
      w.shutdowns task = some shutdown →
      shutdown.pc = .joining ((workerId, handle) :: todo) joined →
      w.ops handle.worker = some op → op.worker = .abandoned ∨ op.worker = .panicked →
      Step w (.join task false)
        (w.setShutdown task { shutdown with pc := .failed "controlled worker must not panic" })
  | closeShutdown {task : Nat} {shutdown : ShutdownTask} {joined : List String}
      {outcome : ShutdownOutcome} {s : ReferenceSupervisorState} :
      w.shutdowns task = some shutdown → shutdown.pc = .joining [] joined →
      (closeShutdown joined).on w.state = (.ok outcome, s) →
      Step w (.closeShutdown task outcome)
        (World.setShutdown { w with state := s } task { shutdown with pc := .sending outcome })

/-- The bridge of `deterministic(capacity)`, before any call. -/
def startWorld (capacity : Usize) : World where
  state := deterministic capacity
  ops _ := none
  shutdowns _ := none

/-- The bridge of `deterministic(capacity)` under any number of callers. -/
def supervisorSys (capacity : Usize) : Sys World Event where
  init w := w = startWorld capacity
  step w e w' := Step w e w'

/-! ## The steps, computed -/

instance (op : Operation) : Decidable op.Held := inferInstanceAs (Decidable (_ ∧ _))

/-- The operation after the event, if it can happen. -/
def Operation.exec (op : Operation) : HandleEvent → Option Operation
  | .command command =>
    if op.Held ∧ op.handle.command = true ∧ op.worker = .receiving then
      some { op with worker := .commanded command, handle.command := false }
    else none
  | .waitReleased =>
    if op.Held ∧ op.handle.released = .held then some { op with handle.released := .waiting }
    else none
  | .released =>
    if op.handle.released = .waiting ∧ op.worker = .notifying then
      some { op with worker := .exiting, handle.released := .received }
    else none
  | .waitFailed =>
    if op.handle.released = .waiting then some { op with handle.released := .gone } else none
  | .allowExit =>
    if op.Held ∧ op.handle.allowExit = true ∧ op.worker = .exiting then
      some { op with worker := .exited, handle.allowExit := false }
    else none
  | .drop =>
    if op.Held ∧ op.handle.released ≠ .waiting ∧ op.handle.released ≠ .received then
      some { op with handle := .dropped }
    else none
  | .commandLost =>
    if op.worker = .receiving ∧ op.handle.command = false then
      some { op with worker := .abandoned }
    else none
  | .releasedLost =>
    if op.worker = .notifying ∧ op.handle.released = .gone then
      some { op with worker := .panicked }
    else none
  | .exitLost =>
    if op.worker = .exiting ∧ op.handle.allowExit = false then
      some { op with worker := .panicked }
    else none

theorem Operation.exec_step {op op' : Operation} {e : HandleEvent} (h : op.exec e = some op') :
    op.Step e op' := by
  cases e <;> simp only [Operation.exec, Option.ite_none_right_eq_some, Option.some.injEq] at h <;>
    obtain ⟨hc, rfl⟩ := h
  case command command => exact .command command hc.1 hc.2.1 hc.2.2
  case waitReleased => exact .waitReleased hc.1 hc.2
  case released => exact .released hc.1 hc.2
  case waitFailed => exact .waitFailed hc
  case allowExit => exact .allowExit hc.1 hc.2.1 hc.2.2
  case drop => exact .drop hc.1 hc.2.1 hc.2.2
  case commandLost => exact .commandLost hc.1 hc.2
  case releasedLost => exact .releasedLost hc.1 hc.2
  case exitLost => exact .exitLost hc.1 hc.2

/-- The task after the event, if it can happen. -/
def ShutdownTask.exec (task : ShutdownTask) : WitnessEvent → Option ShutdownTask
  | .waitStarted =>
    if task.started = .held then some { task with started := .waiting } else none
  | .started =>
    if task.started = .waiting ∧ task.pc = .starting then
      some { task with pc := .waiting, started := .gone }
    else none
  | .waitFailed =>
    if task.started = .waiting then some { task with started := .gone } else none
  | .result outcome =>
    if task.pc = .sending outcome ∧ task.result = true then
      some { task with pc := .returned outcome }
    else none
  | .drop =>
    if task.result = true ∧ task.started ≠ .waiting then
      some { task with started := .gone, result := false }
    else none
  | .startedLost =>
    if task.pc = .starting ∧ task.started = .gone then
      some { task with pc := .failed "shutdown start receiver" }
    else none
  | .resultLost =>
    match task.pc with
    | .sending _ =>
      if task.result = false then some { task with pc := .failed "shutdown result receiver" }
      else none
    | _ => none

theorem ShutdownTask.exec_step {task task' : ShutdownTask} {e : WitnessEvent}
    (h : task.exec e = some task') : task.Step e task' := by
  cases e with
  | resultLost =>
    simp only [ShutdownTask.exec] at h
    split at h
    · rename_i outcome hpc
      rw [Option.ite_none_right_eq_some] at h
      obtain ⟨hr, h⟩ := h
      obtain rfl := Option.some.inj h
      exact .resultLost outcome hpc hr
    · cases h
  | _ =>
    simp only [ShutdownTask.exec, Option.ite_none_right_eq_some, Option.some.injEq] at h
    obtain ⟨hc, rfl⟩ := h
    constructor <;> simp_all

/-- The world after the event, if it can happen. -/
def World.exec (w : World) : Event → Option World
  | .reserve operationId reply =>
    match (reserveAdmission operationId).on w.state with
    | (.ok identity, s) =>
      if reply = .ok identity then
        some (World.setOp { w with state := s } identity.sequence
          ⟨identity, .spawning, .unspawned, .new⟩)
      else none
    | (.error e, s) => if reply = .error e then some { w with state := s } else none
  | .spawn sequence => do
    let op ← w.ops sequence
    guard (op.call = .spawning)
    some (w.setOp sequence { op with call := .inserting, worker := .receiving })
  | .insertTask sequence => do
    let op ← w.ops sequence
    guard (op.call = .inserting)
    some (World.setOp { w with state := ((insertTask sequence).on w.state).2 } sequence
      { op with call := .returned })
  | .handle sequence e => do
    let op ← w.ops sequence
    let op ← op.exec e
    some (w.setOp sequence op)
  | .workerRelease sequence reply => do
    let op ← w.ops sequence
    match op.worker with
    | .commanded command =>
      match (workerRelease op.identity.operationId command.termClass).on w.state with
      | (.ok (), s) =>
        if reply = .ok () then
          some (World.setOp { w with state := s } sequence { op with worker := .notifying })
        else none
      | (.error e, s) =>
        if reply = .error e then
          some (World.setOp { w with state := s } sequence { op with worker := .abandoned })
        else none
    | _ => none
  | .readReleased sequence reply => do
    let op ← w.ops sequence
    guard (op.handle.released = .received)
    guard (reply = Supervisor.readReleased op.identity.operationId w.state)
    some (w.setOp sequence { op with handle.released := .gone })
  | .snapshot sequence reply => do
    let op ← w.ops sequence
    guard op.Held
    guard (reply = Supervisor.snapshot op.identity.operationId w.state)
    some w
  | .publishProgress sequence progress reply => do
    let op ← w.ops sequence
    guard op.Held
    guard (reply = ((publishProgress op.identity.operationId progress).on w.state).1)
    some { w with state := ((publishProgress op.identity.operationId progress).on w.state).2 }
  | .quiesce => some { w with state := (quiesceInner.on w.state).2 }
  | .beginShutdown task =>
    if w.shutdowns task = none then some (w.setShutdown task ⟨.quiescing, .held, true⟩) else none
  | .quiesceShutdown task => do
    let shutdown ← w.shutdowns task
    guard (shutdown.pc = .quiescing)
    some (World.setShutdown { w with state := (quiesceInner.on w.state).2 } task
      { shutdown with pc := .starting })
  | .witness task e => do
    let shutdown ← w.shutdowns task
    let shutdown ← shutdown.exec e
    some (w.setShutdown task shutdown)
  | .takeTasks task reply => do
    let shutdown ← w.shutdowns task
    guard (shutdown.pc = .waiting)
    guard w.state.active.isEmpty
    match takeTasks.on w.state with
    | (.ok todo, s) =>
      if reply = .ok todo then
        some (World.setShutdown { w with state := s } task
          { shutdown with pc := .joining todo [] })
      else none
    | (.error (.panic message), s) =>
      if reply = .error (.panic message) then
        some (World.setShutdown { w with state := s } task { shutdown with pc := .failed message })
      else none
    | _ => none
  | .join task joined => do
    let shutdown ← w.shutdowns task
    match shutdown.pc with
    | .joining ((workerId, handle) :: todo) done => do
      let op ← w.ops handle.worker
      if joined = true ∧ op.worker = .exited then
        some (w.setShutdown task { shutdown with pc := .joining todo (done ++ [workerId]) })
      else if joined = false ∧ (op.worker = .abandoned ∨ op.worker = .panicked) then
        some (w.setShutdown task
          { shutdown with pc := .failed "controlled worker must not panic" })
      else none
    | _ => none
  | .closeShutdown task outcome => do
    let shutdown ← w.shutdowns task
    match shutdown.pc with
    | .joining [] joined =>
      if (closeShutdown joined).on w.state =
          (.ok outcome, ((closeShutdown joined).on w.state).2) then
        some (World.setShutdown { w with state := ((closeShutdown joined).on w.state).2 } task
          { shutdown with pc := .sending outcome })
      else none
    | _ => none

theorem guard_eq_some {p : Prop} [Decidable p] {u : Unit} :
    (guard p : Option Unit) = some u ↔ p := by
  by_cases h : p <;> simp [guard, h]

theorem World.exec_step {w w' : World} {e : Event} (h : w.exec e = some w') : Step w e w' := by
  cases e <;> simp only [World.exec, Option.bind_eq_bind, Option.bind_eq_some_iff, guard_eq_some,
    exists_const, Option.some.injEq, Option.ite_none_right_eq_some] at h
  case reserve operationId reply =>
    split at h <;> rw [Option.ite_none_right_eq_some, Option.some.injEq] at h <;>
      obtain ⟨rfl, rfl⟩ := h
    · exact .reserve ‹_›
    · exact .refuse ‹_›
  case spawn sequence =>
    obtain ⟨op, hop, hc, rfl⟩ := h
    exact .spawn hop hc
  case insertTask sequence =>
    obtain ⟨op, hop, hc, rfl⟩ := h
    exact .insertTask hop hc rfl
  case handle sequence e =>
    obtain ⟨op, hop, op', he, rfl⟩ := h
    exact .handle hop (Operation.exec_step he)
  case workerRelease sequence reply =>
    obtain ⟨op, hop, h⟩ := h
    split at h
    · rename_i command hw
      split at h <;> rw [Option.ite_none_right_eq_some, Option.some.injEq] at h <;>
        obtain ⟨rfl, rfl⟩ := h
      · exact .workerRelease hop hw ‹_›
      · exact .workerPanic hop hw ‹_›
    · cases h
  case readReleased sequence reply =>
    obtain ⟨op, hop, hr, rfl, rfl⟩ := h
    exact .readReleased hop hr
  case snapshot sequence reply =>
    obtain ⟨op, hop, hh, rfl, rfl⟩ := h
    exact .snapshot hop hh
  case publishProgress sequence progress reply =>
    obtain ⟨op, hop, hh, rfl, rfl⟩ := h
    exact .publishProgress hop hh rfl
  case quiesce =>
    subst h
    exact .quiesce rfl
  case beginShutdown task =>
    obtain ⟨hn, rfl⟩ := h
    exact .beginShutdown hn
  case quiesceShutdown task =>
    obtain ⟨shutdown, hd, hpc, rfl⟩ := h
    exact .quiesceShutdown hd hpc rfl
  case witness task e =>
    obtain ⟨shutdown, hd, shutdown', he, rfl⟩ := h
    exact .witness hd (ShutdownTask.exec_step he)
  case takeTasks task reply =>
    obtain ⟨shutdown, hd, hpc, hi, h⟩ := h
    split at h
    · rw [Option.ite_none_right_eq_some, Option.some.injEq] at h
      obtain ⟨rfl, rfl⟩ := h
      exact .takeTasks hd hpc hi ‹_›
    · rw [Option.ite_none_right_eq_some, Option.some.injEq] at h
      obtain ⟨rfl, rfl⟩ := h
      exact .takeTasksFailed hd hpc hi ‹_›
    · cases h
  case join task joined =>
    obtain ⟨shutdown, hd, h⟩ := h
    split at h
    · rename_i workerId handle todo done hpc
      simp only [Option.bind_eq_some_iff] at h
      obtain ⟨op, hop, h⟩ := h
      split at h
      · rename_i hc
        obtain ⟨rfl, hw⟩ := hc
        obtain rfl := Option.some.inj h
        exact .join hd hpc hop hw
      · rw [Option.ite_none_right_eq_some, Option.some.injEq] at h
        obtain ⟨⟨rfl, hw⟩, rfl⟩ := h
        exact .joinFailed hd hpc hop hw
    · cases h
  case closeShutdown task outcome =>
    obtain ⟨shutdown, hd, h⟩ := h
    split at h
    · rename_i joined hpc
      rw [Option.ite_none_right_eq_some, Option.some.injEq] at h
      obtain ⟨hon, rfl⟩ := h
      exact .closeShutdown hd hpc hon
    · cases h

/-! ## Lists of events -/

/-- A call of `reserve` that the bridge admits. -/
def reserveEvents (operationId : String) (sequence : UInt64) : List Event :=
  [.reserve operationId (.ok (mintIdentity operationId sequence)), .spawn sequence,
    .insertTask sequence]

/-- `request_completed_release`, up to the end of the worker's section. -/
def completeEvents (sequence : UInt64) : List Event :=
  [.handle sequence (.command (.finish .completed)), .workerRelease sequence (.ok ())]

/-- `wait_released`, up to its read. -/
def waitEvents (sequence : UInt64) : List Event :=
  [.handle sequence .waitReleased, .handle sequence .released]

/-- `begin_shutdown` and `wait_started`. -/
def startEvents (task : Nat) : List Event :=
  [.beginShutdown task, .quiesceShutdown task, .witness task .waitStarted, .witness task .started]

end Supervisor
end Testkit
end Platform
