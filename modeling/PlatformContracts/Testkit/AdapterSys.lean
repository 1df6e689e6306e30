import PlatformContracts.Lib.Sys
import PlatformContracts.Testkit.Adapter

/-!
# Threads on one reference adapter

Any number of threads call the adapter. A call is one section, or two with other threads between
them: `shutdown` (`quiesce`, then `shutdownClose`) and `consumer_drop` (the request, then the
ticket's `Drop`).

* `Section.run`: what a section does; `Section.lease?` and `Section.ticket?` are the handle that
  it is called on. A handle is any identity: the minted ones are among them, and an identity that
  was never minted is one more that the adapter rejects.
* `Pc`: where a thread is between the sections of a call.
* `adapterSys config`: the states, the threads and their steps, from `deterministic(config)`.
-/

namespace Platform
namespace Testkit

/-- The sections of the adapter, with their arguments. -/
inductive Section where
  | reserve (operationId : String)
  | queue (lease : ReferenceLease)
  | start (lease : ReferenceLease)
  | publishProgress (lease : ReferenceLease) (sequence : UInt64)
  | requestCancel (ticket : ReferenceTicket)
  | dropTicket (ticket : ReferenceTicket)
  | waiterTimeout (ticket : ReferenceTicket)
  | terminal (lease : ReferenceLease) (termClass : TerminalClass)
  | recordExecutorPanic (lease : ReferenceLease)
  | release (lease : ReferenceLease)
  | quiesce
  | shutdownClose
  deriving DecidableEq, Repr

/-- The value that a section returns. -/
inductive Answer where
  | unit
  | reserved (reservation : Reservation)
  | waited (observation : WaitObservation)
  | closed (facts : ClosedFacts)
  deriving DecidableEq, Repr

/-- What a section answers: a value, an error, or a panic. -/
abbrev Reply := Except (Stop AdapterError) Answer

namespace Section

/-- `m`, with its value as an answer. -/
def answer {α : Type} (wrap : α → Answer) (m : Adapter α) : Adapter Answer := do
  let a ← m
  pure (wrap a)

def run : Section → Adapter Answer
  | reserve operationId => answer .reserved (Testkit.reserve operationId)
  | queue lease => answer (fun _ => .unit) (Testkit.queue lease)
  | start lease => answer (fun _ => .unit) (Testkit.start lease)
  | publishProgress lease sequence =>
    answer (fun _ => .unit) (Testkit.publishProgress lease sequence)
  | requestCancel ticket => answer (fun _ => .unit) (Testkit.requestCancel ticket)
  | dropTicket ticket => answer (fun _ => .unit) (Testkit.dropTicket ticket)
  | waiterTimeout ticket => answer .waited (Testkit.waiterTimeout ticket)
  | terminal lease termClass => answer (fun _ => .unit) (Testkit.terminal lease termClass)
  | recordExecutorPanic lease => answer (fun _ => .unit) (Testkit.recordExecutorPanic lease)
  | release lease => answer (fun _ => .unit) (Testkit.release lease)
  | quiesce => answer (fun _ => .unit) Testkit.quiesce
  | shutdownClose => answer .closed Testkit.shutdownClose

/-- The answer and the state after the section. -/
def on (c : Section) (s : ReferenceState) : Reply × ReferenceState := c.run.on s

/-- The lease that the section is called on. -/
def lease? : Section → Option ReferenceLease
  | queue lease | start lease | publishProgress lease _ | terminal lease _
  | recordExecutorPanic lease | release lease => some lease
  | _ => none

/-- The ticket that the section is called on. -/
def ticket? : Section → Option ReferenceTicket
  | requestCancel ticket | dropTicket ticket | waiterTimeout ticket => some ticket
  | _ => none

/-- The identity of the handle that the section is called on. -/
def handle? (c : Section) : Option AttemptIdentity :=
  match c.lease? with
  | some lease => some lease.identity
  | none => c.ticket?.map (·.identity)

theorem answer_on {α : Type} (wrap : α → Answer) (m : Adapter α) (s : ReferenceState) :
    (answer wrap m).on s = ((m.on s).1.map wrap, (m.on s).2) := by
  exact Exec.on_bind_pure s m wrap

end Section

/-- Where a thread is between two sections. -/
inductive Pc where
  /-- Not in a call. -/
  | idle
  /-- In `shutdown`, after its `quiesce`. -/
  | closing
  /-- In `consumer_drop`, before the ticket's `Drop`. -/
  | dropping (ticket : ReferenceTicket)
  deriving DecidableEq, Repr

/-- A thread's place before and after a section. -/
inductive Pc.Step : Pc → Section → Pc → Prop
  | call {c : Section} : c ≠ .shutdownClose → Pc.Step .idle c .idle
  | shutdown : Pc.Step .idle .quiesce .closing
  | close : Pc.Step .closing .shutdownClose .idle
  | consumerDrop (ticket : ReferenceTicket) :
      Pc.Step .idle (.requestCancel ticket) (.dropping ticket)
  | drop (ticket : ReferenceTicket) : Pc.Step (.dropping ticket) (.dropTicket ticket) .idle

/-- The state behind the lock, and where each thread is. -/
structure World where
  state : ReferenceState
  pc : Nat → Pc

/-- A section that a thread ran, and its answer. -/
structure Event where
  thread : Nat
  sec : Section
  reply : Reply

/-- The adapter of `deterministic(config)` under any number of threads. -/
def adapterSys (config : TestConfig) : Sys World Event where
  init w := deterministic config = .ok w.state ∧ ∀ t, w.pc t = .idle
  step w e w' := e.sec.on w.state = (e.reply, w'.state) ∧
    ∃ p, Pc.Step (w.pc e.thread) e.sec p ∧ w'.pc = Function.update w.pc e.thread p

/-- The state after the sections of a list, one after the other. -/
def stateAfter (s : ReferenceState) : List Section → ReferenceState
  | [] => s
  | c :: cs => stateAfter (c.on s).2 cs

theorem step_idle (config : TestConfig) {w : World} {c : Section} (hc : c ≠ .shutdownClose)
    (hpc : ∀ t, w.pc t = .idle) :
    (adapterSys config).step w ⟨0, c, (c.on w.state).1⟩ ⟨(c.on w.state).2, w.pc⟩ := by
  refine ⟨rfl, .idle, ?_, ?_⟩
  · rw [hpc]; exact .call hc
  · exact (Function.update_eq_self_iff.mpr (hpc 0).symm).symm

/-- The events of one thread's calls, while the others are idle. -/
def callEvents (w : World) : List Section → List (Event × World)
  | [] => []
  | c :: cs =>
    (⟨0, c, (c.on w.state).1⟩, ⟨(c.on w.state).2, w.pc⟩) ::
      callEvents ⟨(c.on w.state).2, w.pc⟩ cs

/-- One thread's calls, one after the other, are a run. -/
theorem run_callEvents (config : TestConfig) {cs : List Section}
    (hc : ∀ c ∈ cs, c ≠ .shutdownClose) {w : World} (hpc : ∀ t, w.pc t = .idle) :
    (adapterSys config).Run w (callEvents w cs) ⟨stateAfter w.state cs, w.pc⟩ := by
  induction cs generalizing w with
  | nil => exact .nil
  | cons c cs ih =>
    have hs := step_idle config (hc c List.mem_cons_self) hpc
    exact (Sys.Run.one hs).trans (ih (fun c' h' => hc c' (List.mem_cons_of_mem _ h')) hpc)

/-! ## A public ID that was used again -/

/-- The lease of the attempt `sequence` of the public ID `operationId`. -/
def leaseOf (operationId : String) (sequence : UInt64) : ReferenceLease :=
  ⟨mintIdentity operationId sequence⟩

/-- The calls that take an attempt that was just reserved to its release. -/
def lifeOf (lease : ReferenceLease) : List Section :=
  [.queue lease, .start lease, .terminal lease .completed, .release lease]

/-- The adapter of the default configuration, before any call. -/
def startWorld : World where
  state := ⟨.running, 1, 4, ∅, ∅, 0, 0⟩
  pc _ := .idle

theorem startWorld_init : (adapterSys {}).init startWorld := ⟨rfl, fun _ => rfl⟩

/-- One thread reserved, ran and released the public ID `a`, and reserved it again. -/
def reusedCalls : List Section :=
  .reserve "a" :: lifeOf (leaseOf "a" 1) ++ [.reserve "a"]

def reusedWorld : World where
  state := stateAfter startWorld.state reusedCalls
  pc _ := .idle

theorem reusedWorld_run :
    (adapterSys {}).Run startWorld (callEvents startWorld reusedCalls) reusedWorld :=
  run_callEvents {} (by simp [reusedCalls, lifeOf]) fun _ => rfl

theorem reusedWorld_reach : (adapterSys {}).Reach reusedWorld :=
  ⟨_, _, startWorld_init, reusedWorld_run⟩

end Testkit
end Platform
